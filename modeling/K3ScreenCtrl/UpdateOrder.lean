import K3ScreenCtrl.Daemon
import K3ScreenCtrl.TableInvariants
import K3ScreenCtrl.Lib.Interleaving

/-!
# The order of updates

The updaters of two pages do not meet: each reads and writes the table of its
own page.  So it makes no difference in which order the pages are updated, only
what the script of each page printed, one run after the other, and which blocks
the host table got.

* `updates_interleave` says so for any two sequences of updates, with what every
  single update answers.
* `tables_runDaemon_eq` says so for any two runs of the daemon, whatever keys
  came in between.
-/

namespace K3ScreenCtrl

open Interleaving

/-! ## One update -/

/-- One call of an updater: the run of its script, and the block that it gets
for the host table. -/
structure PageRun where
  page : Page
  run : ScriptRun
  hostBlock : Option (Nat → HostInfoSingle)

/-- The call of the updater. -/
def PageRun.update (u : PageRun) (t : Tables) : Status × Tables :=
  match u.page with
  | .basicInfo => updateBasicInfo u.run t
  | .ports => updatePortInfo u.run t
  | .wan => updateWanInfo u.run t
  | .wifi => updateWifiInfo u.run t
  | .hosts => updateHostInfo u.run u.hostBlock t

/-- The call that `update_page_info` makes. -/
def pageRun (env : ScriptEnv) (page : Page) : PageRun where
  page := page
  run := env.script page
  hostBlock := if page = .hosts then env.hostBlock else none

theorem updatePageInfo_eq_update (env : ScriptEnv) (page : Page) (t : Tables) :
    updatePageInfo env page t = (pageRun env page).update t := by
  cases page <;> rfl

/-- `t`, with the table of one page taken from `s`. -/
def Tables.graft (t : Tables) (page : Page) (s : Tables) : Tables :=
  match page with
  | .basicInfo => { t with gBasicInfo := s.gBasicInfo }
  | .ports => { t with gPortInfo := s.gPortInfo }
  | .wan => { t with gWanInfo := s.gWanInfo }
  | .wifi => { t with gWifiInfo := s.gWifiInfo }
  | .hosts =>
    { t with gHostInfoArray := s.gHostInfoArray, gHostInfoElements := s.gHostInfoElements }

theorem Tables.graft_comm (t s s' : Tables) {p q : Page} (h : p ≠ q) :
    (t.graft p s).graft q s' = (t.graft q s').graft p s := by
  cases p <;> cases q <;> first | rfl | exact absurd rfl h

/-- An updater changes no other table. -/
theorem PageRun.update_eq_graft (u : PageRun) (t : Tables) :
    (u.update t).2 = t.graft u.page (u.update t).2 := by
  have henv : (u.update t).2 = (updatePageInfo ⟨fun _ => u.run, u.hostBlock⟩ u.page t).2 := by
    obtain ⟨page, run, hostBlock⟩ := u
    cases page <;> rfl
  have hupdated := updated_updatePageInfo ⟨fun _ => u.run, u.hostBlock⟩ u.page t
  rw [← henv] at hupdated
  generalize (u.update t).2 = t' at hupdated ⊢
  generalize u.page = page at hupdated ⊢
  cases hupdated <;> rfl

/-- The updater of a structure does not look at a table beside that structure. -/
theorem updateStorageFromScript_graft {τ : Type} {place : Place Tables τ} {q : Page}
    {s : Tables} (hplace : ∀ f t, place.modify f (t.graft q s) = (place.modify f t).graft q s)
    (members : List (TokenStore τ)) (run : ScriptRun) (t : Tables) :
    updateStorageFromScript run (members.map (.at place)) (t.graft q s) =
      ((updateStorageFromScript run (members.map (.at place)) t).1,
        (updateStorageFromScript run (members.map (.at place)) t).2.graft q s) := by
  cases hout : run.output with
  | none => simp only [updateStorageFromScript, hout]
  | some out =>
    rw [updateStorageFromScript_of_output hout, updateStorageFromScript_of_output hout,
      storeTokens_at, storeTokens_at, hplace]

theorem updateHostInfo_graft (run : ScriptRun) (hostBlock : Option (Nat → HostInfoSingle))
    (t s : Tables) {q : Page} (hq : q ≠ .hosts) :
    updateHostInfo run hostBlock (t.graft q s) =
      ((updateHostInfo run hostBlock t).1, (updateHostInfo run hostBlock t).2.graft q s) := by
  have helements : (t.graft q s).gHostInfoElements = t.gHostInfoElements := by
    cases q <;> first | rfl | exact absurd rfl hq
  cases hout : run.output with
  | none => simp only [updateHostInfo, hout]
  | some out =>
    rw [updateHostInfo_eq hout, updateHostInfo_eq hout, helements]
    dsimp only
    split
    · cases q <;> first | rfl | exact absurd rfl hq
    · cases hostBlock with
      | none => cases q <;> first | rfl | exact absurd rfl hq
      | some record => cases q <;> first | rfl | exact absurd rfl hq

/-- An updater does not look at another table. -/
theorem PageRun.update_graft (u : PageRun) (t s : Tables) {q : Page} (hq : q ≠ u.page) :
    u.update (t.graft q s) = ((u.update t).1, (u.update t).2.graft q s) := by
  obtain ⟨page, run, hostBlock⟩ := u
  cases page with
  | basicInfo =>
    refine updateStorageFromScript_graft (fun f t => ?_) basicInfoMembers run t
    cases q <;> first | rfl | exact absurd rfl hq
  | ports =>
    refine updateStorageFromScript_graft (fun f t => ?_) portInfoMembers run t
    cases q <;> first | rfl | exact absurd rfl hq
  | wan =>
    refine updateStorageFromScript_graft (fun f t => ?_) wanInfoMembers run t
    cases q <;> first | rfl | exact absurd rfl hq
  | wifi =>
    refine updateStorageFromScript_graft (fun f t => ?_) wifiInfoMembers run t
    cases q <;> first | rfl | exact absurd rfl hq
  | hosts => exact updateHostInfo_graft run hostBlock t s hq

/-- The same call, with a `free` that writes nothing over the output. -/
def PageRun.quiet (u : PageRun) : PageRun := { u with run.overlay := fun _ => none }

/-- What `free` writes over the output makes no difference to the tables. -/
theorem PageRun.update_quiet (u : PageRun) (t : Tables) :
    (u.quiet.update t).2 = (u.update t).2 := by
  have hstorage : ∀ stores : List (TokenStore Tables),
      (updateStorageFromScript u.quiet.run stores t).2 =
        (updateStorageFromScript u.run stores t).2 := by
    intro stores
    have houtput : u.quiet.run.output = u.run.output := rfl
    cases hout : u.run.output with
    | none => simp only [updateStorageFromScript, houtput, hout]
    | some out => simp only [updateStorageFromScript, houtput, hout]
  obtain ⟨page, run, hostBlock⟩ := u
  cases page with
  | hosts => rfl
  | _ => exact hstorage _

/-! ## Updates in a row -/

/-- The tables, and what the updates of each page have answered so far. -/
structure Updating where
  tables : Tables
  answers : Page → List Status

/-- One more update. -/
def Updating.step (s : Updating) (u : PageRun) : Updating where
  tables := (u.update s.tables).2
  answers := Function.update s.answers u.page (s.answers u.page ++ [(u.update s.tables).1])

theorem independent_update : Independent Updating.step PageRun.page := by
  rintro ⟨t, answers⟩ u v hne
  have hu := u.update_eq_graft t
  have hv := v.update_eq_graft t
  have huv : v.update (u.update t).2 =
      ((v.update t).1, (v.update t).2.graft u.page (u.update t).2) := by
    rw [hu, v.update_graft _ _ hne, ← hu]
  have hvu : u.update (v.update t).2 =
      ((u.update t).1, (u.update t).2.graft v.page (v.update t).2) := by
    rw [hv, u.update_graft _ _ hne.symm, ← hv]
  have htables : (v.update t).2.graft u.page (u.update t).2 =
      (u.update t).2.graft v.page (v.update t).2 := by
    calc (v.update t).2.graft u.page (u.update t).2
        = (t.graft v.page (v.update t).2).graft u.page (u.update t).2 := by rw [← hv]
      _ = (t.graft u.page (u.update t).2).graft v.page (v.update t).2 :=
        Tables.graft_comm t _ _ hne.symm
      _ = (u.update t).2.graft v.page (v.update t).2 := by rw [← hu]
  unfold Updating.step
  dsimp only
  rw [huv, hvu, Function.update_of_ne hne.symm, Function.update_of_ne hne,
    Function.update_comm hne, htables]

/-- Updates in a row. -/
def runUpdates (s : Updating) (updates : List PageRun) : Updating := updates.foldl Updating.step s

/-- Two sequences of updates with the same runs of each page's script leave the
same tables, and each update answers the same. -/
theorem updates_interleave (s : Updating) {updates updates' : List PageRun}
    (h : ∀ page, own PageRun.page page updates = own PageRun.page page updates') :
    runUpdates s updates = runUpdates s updates' :=
  foldl_eq_of_own_eq independent_update h s

theorem tables_runUpdates (s : Updating) (updates : List PageRun) :
    (runUpdates s updates).tables = updates.foldl (fun t u => (u.update t).2) s.tables := by
  induction updates generalizing s with
  | nil => rfl
  | cons u updates ih => exact ih (s.step u)

theorem tables_interleave (t : Tables) {updates updates' : List PageRun}
    (h : ∀ page, own PageRun.page page updates = own PageRun.page page updates') :
    updates.foldl (fun t u => (u.update t).2) t = updates'.foldl (fun t u => (u.update t).2) t := by
  have hrun := updates_interleave ⟨t, fun _ => []⟩ h
  rw [← tables_runUpdates ⟨t, fun _ => []⟩ updates, hrun, tables_runUpdates]

/-- So do sequences whose calls differ in what `free` writes over the outputs. -/
theorem tables_interleave_quiet (t : Tables) {updates updates' : List PageRun}
    (h : ∀ page, (own PageRun.page page updates).map PageRun.quiet =
      (own PageRun.page page updates').map PageRun.quiet) :
    updates.foldl (fun t u => (u.update t).2) t = updates'.foldl (fun t u => (u.update t).2) t := by
  have hquiet : ∀ l : List PageRun, l.foldl (fun t u => (u.update t).2) t =
      (l.map PageRun.quiet).foldl (fun t u => (u.update t).2) t := by
    intro l
    simp only [List.foldl_map, PageRun.update_quiet]
  rw [hquiet updates, hquiet updates']
  have hkey : ∀ u : PageRun, u.quiet.page = u.page := fun _ => rfl
  refine tables_interleave t fun page => ?_
  rw [own_map hkey, own_map hkey]
  exact h page

/-! ## The updates of a run -/

/-- The updates at the start. -/
def bootUpdates (env : ScriptEnv) : List PageRun :=
  [Page.basicInfo, .ports, .wan, .wifi, .hosts].map (pageRun env)

/-- The updates of an event. -/
def eventUpdates (d : Daemon) : Input → List PageRun
  | .signal .sigalrm env _ => (refreshedPages d.gCurrentPage).map (pageRun env)
  | _ => []

/-- The updates of a run of the daemon, in order. -/
def updatesOf (cfg : Config) (env : ScriptEnv) (start : Int) (inputs : List Input) :
    List PageRun :=
  bootUpdates env ++
    (boot env start).elim [] fun d =>
      Run.emitted (step cfg) (fun d i _ => eventUpdates d i) d inputs

/-- The tables behind one event. -/
theorem tables_step {cfg : Config} {d d' : Daemon} {i : Input} (h : step cfg d i = some d') :
    d'.tables = (eventUpdates d i).foldl (fun t u => (u.update t).2) d.tables := by
  have htick : ∀ env, updatedTables env d.gCurrentPage d.tables =
      ((refreshedPages d.gCurrentPage).map (pageRun env)).foldl (fun t u => (u.update t).2)
        d.tables := by
    intro env
    unfold updatedTables
    simp only [updatePageInfo_eq_update]
    cases d.gCurrentPage <;> rfl
  obtain ⟨_, hcases⟩ := step_cases h
  cases hcases with
  | tick env now payloads t ht hpayloads hin => exact ht.trans (htick env)
  | tickSleep env now payloads t ht hpayloads hout => exact ht.trans (htick env)
  | notice signal env now event exited hsignal hevent hexited =>
    cases signal with
    | sigalrm => exact absurd rfl hsignal
    | _ => rfl
  | _ => rfl

theorem tables_run {cfg : Config} {inputs : List Input} {d d' : Daemon}
    (h : Run.run (step cfg) d inputs = some d') :
    d'.tables = (Run.emitted (step cfg) (fun d i _ => eventUpdates d i) d inputs).foldl
      (fun t u => (u.update t).2) d.tables := by
  induction inputs generalizing d with
  | nil =>
    cases h
    rfl
  | cons i inputs ih =>
    rw [Run.run_cons, Option.bind_eq_some_iff] at h
    obtain ⟨m, hm, hrest⟩ := h
    rw [Run.emitted_cons_of_eq hm, List.foldl_append, ← tables_step hm]
    exact ih hrest

/-- The tables of a running daemon are what its updates make of the first ones. -/
theorem tables_runDaemon {cfg : Config} {env : ScriptEnv} {start : Int} {inputs : List Input}
    {d : Daemon} (h : runDaemon cfg env start inputs = some d) :
    d.tables = (updatesOf cfg env start inputs).foldl (fun t u => (u.update t).2) .init := by
  obtain ⟨d₀, hboot, hrun⟩ := Option.bind_eq_some_iff.mp h
  have hd₀ : d₀.tables = (bootUpdates env).foldl (fun t u => (u.update t).2) .init := by
    rw [boot_eq] at hboot
    obtain ⟨_, _, rfl⟩ := Option.map_eq_some_iff.mp hboot
    rfl
  unfold updatesOf
  rw [List.foldl_append, ← hd₀, hboot]
  exact tables_run hrun

/-- Whatever keys came when, and whatever pages were on the screen at which tick:
the tables depend on what the script of each page printed, one run after the
other, and on the blocks that the host table got, and so does all page data.  What
was written over freed outputs plays no part. -/
theorem tables_runDaemon_eq {cfg cfg' : Config} {env env' : ScriptEnv} {start start' : Int}
    {inputs inputs' : List Input} {d d' : Daemon}
    (h : runDaemon cfg env start inputs = some d)
    (h' : runDaemon cfg' env' start' inputs' = some d')
    (hsame : ∀ page,
      (own PageRun.page page (updatesOf cfg env start inputs)).map PageRun.quiet =
        (own PageRun.page page (updatesOf cfg' env' start' inputs')).map PageRun.quiet) :
    d.tables = d'.tables := by
  rw [tables_runDaemon h, tables_runDaemon h']
  exact tables_interleave_quiet .init hsame

/-- Every script prints one line. -/
def oneLineEnv (digit : UInt8) (hdigit : digit ≠ 0) : ScriptEnv where
  script := fun _ => .ofText [digit, NEWLINE] (by simpa [NEWLINE] using hdigit.symm) (by simp)
  hostBlock := none

/-- The same output, in a block that is written over when it is freed. -/
def ScriptEnv.overwritten (env : ScriptEnv) : ScriptEnv :=
  { env with script := fun page => { env.script page with overlay := fun _ => some 0xff } }

/-- One key to the right and a refresh, two to the left and another refresh. -/
def rightThenLeft : List Input :=
  [.keyPress [KEY_RIGHT_SHORT] 1, .signal .sigalrm (oneLineEnv 0x31 (by decide)) 2,
    .keyPress [KEY_LEFT_SHORT] 3, .keyPress [KEY_LEFT_SHORT] 4,
    .signal .sigalrm (oneLineEnv 0x32 (by decide)) 5]

/-- The same refreshes of the same pages, the other way round. -/
def leftThenRight : List Input :=
  [.keyPress [KEY_LEFT_SHORT] 1, .signal .sigalrm (oneLineEnv 0x32 (by decide)).overwritten 2,
    .keyPress [KEY_RIGHT_SHORT] 3, .keyPress [KEY_RIGHT_SHORT] 4,
    .signal .sigalrm (oneLineEnv 0x31 (by decide)) 5]

theorem tables_runDaemon_eq_leftRight :
    ∃ d d', runDaemon { screenTimeout := 10 } silentEnv 0 rightThenLeft = some d ∧
      runDaemon { screenTimeout := 10 } silentEnv 0 leftThenRight = some d' ∧
      d.tables = d'.tables := by
  have hright : (runDaemon { screenTimeout := 10 } silentEnv 0 rightThenLeft).isSome := by
    decide +kernel
  have hleft : (runDaemon { screenTimeout := 10 } silentEnv 0 leftThenRight).isSome := by
    decide +kernel
  obtain ⟨d, hd⟩ := Option.isSome_iff_exists.mp hright
  obtain ⟨d', hd'⟩ := Option.isSome_iff_exists.mp hleft
  refine ⟨d, d', hd, hd', tables_runDaemon_eq hd hd' fun page => ?_⟩
  cases page <;> rfl

end K3ScreenCtrl
