import K3ScreenCtrl.HostConsistency
import K3ScreenCtrl.Machine
import K3ScreenCtrl.Mirror

/-!
# No memory on the wire

Two runs of the program over the same events, whose scripts print the same, may
still differ in what their memory held: the host blocks that `malloc` returned,
the buffers and the structures that a request is built in, and what `free`
wrote over the output of a script.

The host block is the only one of these that stays.  An output that announces
more hosts than it prints leaves the end of the block as it was, so two runs
can hold different tables.  `SameTables` is what they agree in: everything but
the host records that the count does not cover.

* `SameTables.updatePageInfo` is one update.  The count covers only records
  that all four stores wrote, and a store leaves nothing of what it overwrites.
* `SameTables.pagePayload` is one request.  It reads only records that the
  count covers.
* `SameDaemon.step` is one event, and `wire_eq` is every run.
-/

namespace K3ScreenCtrl

open CString Pieces

/-! ## Tables -/

/-- Two tables that differ at most in host records that the count does not
cover. -/
inductive SameTables (t : Tables) : Tables → Prop
  | mk (hosts : Option HostArray)
    (hread : ∀ k < t.gHostInfoElements.toNat, readHost hosts k = readHost t.gHostInfoArray k) :
    SameTables t { t with gHostInfoArray := hosts }

theorem SameTables.refl (t : Tables) : SameTables t t := .mk t.gHostInfoArray fun _ _ => rfl

/-- Two script environments that agree in what the scripts print, and whose
allocations succeed. -/
structure SameScripts (env env' : ScriptEnv) : Prop where
  output : ∀ page, (env'.script page).output = (env.script page).output
  granted : env.hostBlock.isSome
  granted' : env'.hostBlock.isSome

/-- The updater of a structure reads the lines of the output and nothing
else. -/
theorem updateStorageFromScript_snd {τ : Type} (place : Place Tables τ)
    (members : List (TokenStore τ)) (run : ScriptRun) (t : Tables) :
    (updateStorageFromScript run (members.map (.at place)) t).2 =
      match run.output with
      | none => t
      | some out => place.modify (storeTokens members (pieces NEWLINE out.str)) t := by
  cases hout : run.output with
  | none => rw [updateStorageFromScript, hout]
  | some out => rw [updateStorageFromScript_of_output hout, storeTokens_at]

/-- So it takes tables that agree to tables that agree, if its structure lies
outside the host table. -/
theorem SameTables.updateStorageFromScript {τ : Type} {place : Place Tables τ}
    (hplace : ∀ f t hosts, place.modify f { t with gHostInfoArray := hosts } =
      { place.modify f t with gHostInfoArray := hosts })
    (helements : ∀ f t, (place.modify f t).gHostInfoElements = t.gHostInfoElements)
    {t t' : Tables} (h : SameTables t t') (members : List (TokenStore τ)) {run run' : ScriptRun}
    (hrun : run'.output = run.output) :
    SameTables (updateStorageFromScript run (members.map (.at place)) t).2
      (updateStorageFromScript run' (members.map (.at place)) t').2 := by
  rw [updateStorageFromScript_snd, updateStorageFromScript_snd, hrun]
  cases run.output with
  | none => exact h
  | some out =>
    cases h with
    | mk hosts hread =>
      dsimp only
      generalize storeTokens members (pieces NEWLINE out.str) = f
      have harray : (place.modify f t).gHostInfoArray = t.gHostInfoArray :=
        (congrArg Tables.gHostInfoArray (hplace f t t.gHostInfoArray)).trans rfl
      show SameTables (place.modify f t) (place.modify f { t with gHostInfoArray := hosts })
      rw [hplace f t hosts]
      refine .mk hosts fun k hk => ?_
      rw [helements] at hk
      rw [hread k hk, harray]

/-- The host table after an update that gets its block. -/
theorem SameTables.updateHostInfo {t t' : Tables} (h : SameTables t t') {run run' : ScriptRun}
    (hrun : run'.output = run.output) (record record' : Nat → HostInfoSingle) :
    SameTables (updateHostInfo run (some record) t).2
      (updateHostInfo run' (some record') t').2 := by
  cases h with
  | mk hosts hread =>
    cases hout : run.output with
    | none =>
      rw [hout] at hrun
      rw [K3ScreenCtrl.updateHostInfo, K3ScreenCtrl.updateHostInfo, hout, hrun]
      exact .mk hosts hread
    | some out =>
      rw [hout] at hrun
      by_cases hcount : (announcedHosts t.gHostInfoElements (pieces NEWLINE out.str)).toNat = 0
      · -- no host is counted, and the old block stays
        simp only [updateHostInfo_eq hout, updateHostInfo_eq hrun, if_pos hcount]
        refine .mk hosts fun k hk => ?_
        exact absurd hk (by simp [hcount])
      · have hcovered := elements_le_recordsStored hout record t 0 hcount
        have hstored : ∀ k < recordsStored run (some record) t 0,
            readHost (K3ScreenCtrl.updateHostInfo run (some record') t).2.gHostInfoArray k =
              readHost (K3ScreenCtrl.updateHostInfo run (some record) t).2.gHostInfoArray k :=
          fun k hk => (record_of_stored hout record record' t 0 hcount hk).symm
        simp only [updateHostInfo_eq hout, updateHostInfo_eq hrun, if_neg hcount]
          at hcovered hstored ⊢
        exact .mk _ fun k hk => hstored k (Nat.lt_of_lt_of_le hk hcovered)

/-- One update. -/
theorem SameTables.updatePageInfo {t t' : Tables} (h : SameTables t t') {env env' : ScriptEnv}
    (henv : SameScripts env env') (page : Page) :
    SameTables (updatePageInfo env page t).2 (updatePageInfo env' page t').2 := by
  have houtput := henv.output page
  cases page with
  | hosts =>
    obtain ⟨record, hrecord⟩ := Option.isSome_iff_exists.mp henv.granted
    obtain ⟨record', hrecord'⟩ := Option.isSome_iff_exists.mp henv.granted'
    show SameTables (K3ScreenCtrl.updateHostInfo _ env.hostBlock t).2
      (K3ScreenCtrl.updateHostInfo _ env'.hostBlock t').2
    rw [hrecord, hrecord']
    exact h.updateHostInfo houtput record record'
  | basicInfo =>
    exact h.updateStorageFromScript (fun _ _ _ => rfl) (fun _ _ => rfl) basicInfoMembers houtput
  | ports =>
    exact h.updateStorageFromScript (fun _ _ _ => rfl) (fun _ _ => rfl) portInfoMembers houtput
  | wan =>
    exact h.updateStorageFromScript (fun _ _ _ => rfl) (fun _ _ => rfl) wanInfoMembers houtput
  | wifi =>
    exact h.updateStorageFromScript (fun _ _ _ => rfl) (fun _ _ => rfl) wifiInfoMembers houtput

theorem SameTables.updatedTables {t t' : Tables} (h : SameTables t t') {env env' : ScriptEnv}
    (henv : SameScripts env env') (page : Page) :
    SameTables (updatedTables env page t) (updatedTables env' page t') := by
  cases page with
  | wan => exact (h.updatePageInfo henv .wan).updatePageInfo henv .wifi
  | basicInfo => exact h.updatePageInfo henv .basicInfo
  | ports => exact h.updatePageInfo henv .ports
  | wifi => exact h.updatePageInfo henv .wifi
  | hosts => exact h.updatePageInfo henv .hosts

theorem SameTables.updateAllInfo {t t' : Tables} (h : SameTables t t') {env env' : ScriptEnv}
    (henv : SameScripts env env') :
    SameTables (updateAllInfo env t).2 (updateAllInfo env' t').2 :=
  ((((h.updatePageInfo henv .basicInfo).updatePageInfo henv .ports).updatePageInfo henv
    .wan).updatePageInfo henv .wifi).updatePageInfo henv .hosts

/-- One request. -/
theorem SameTables.pagePayload {t t' : Tables} (h : SameTables t t') (page : Page)
    {hostPage : Int} (hpage : 0 ≤ hostPage) :
    pagePayload page t' hostPage = pagePayload page t hostPage := by
  cases h with
  | mk hosts hread =>
    cases page with
    | hosts =>
      obtain ⟨i, rfl⟩ := Int.eq_ofNat_of_zero_le hpage
      refine requestUpdateHostsPaged_congr fun k hk => ?_
      obtain ⟨hnonneg, hlt⟩ := hostReads_lt (Nat.le_refl _) i k hk
      obtain ⟨j, rfl⟩ := Int.eq_ofNat_of_zero_le hnonneg
      exact hread j (Int.ofNat_lt.mp hlt)
    | basicInfo => rfl
    | ports => rfl
    | wan => rfl
    | wifi => rfl

theorem SameTables.pagePayloads {t t' : Tables} (h : SameTables t t') (pages : List Page)
    {hostPage : Int} (hpage : 0 ≤ hostPage) :
    pagePayloads t' hostPage pages = pagePayloads t hostPage pages := by
  induction pages with
  | nil => rfl
  | cons page pages ih =>
    rw [K3ScreenCtrl.pagePayloads, K3ScreenCtrl.pagePayloads, h.pagePayload page hpage, ih]

/-! ## The state of the program -/

/-- Two states that differ at most in host records that the count does not
cover, on a host page that is not negative. -/
inductive SameDaemon (d : Daemon) : Daemon → Prop
  | mk (t : Tables) (htables : SameTables d.tables t) (hpage : 0 ≤ d.gHostPage) :
    SameDaemon d { d with tables := t }

/-- What is done with the data of some pages. -/
theorem SameTables.map_pagePayloads {t t' : Tables} (h : SameTables t t') (pages : List Page)
    {hostPage : Int} (hpage : 0 ≤ hostPage) {f f' : List (List UInt8) → Daemon}
    (hf : ∀ payloads, SameDaemon (f payloads) (f' payloads)) :
    Option.Rel SameDaemon ((K3ScreenCtrl.pagePayloads t hostPage pages).map f)
      ((K3ScreenCtrl.pagePayloads t' hostPage pages).map f') := by
  rw [h.pagePayloads pages hpage]
  cases K3ScreenCtrl.pagePayloads t hostPage pages with
  | none => exact .none
  | some payloads => exact .some (hf payloads)

/-- A move between the pages. -/
theorem SameDaemon.apply {d d' : Daemon} (h : SameDaemon d d') (nav : Nav) :
    Option.Rel SameDaemon (nav.apply d) (nav.apply d') := by
  cases h with
  | mk t htables hpage =>
    have hcount : getHostsCount { d with tables := t } = getHostsCount d := by
      cases htables
      rfl
    rw [Nav.apply_eq, Nav.apply_eq, hcount]
    dsimp only
    cases htarget : nav.target (getHostsCount d) d.gCurrentPage d.gHostPage with
    | none => exact .some (.mk t htables hpage)
    | some target =>
      show Option.Rel SameDaemon (refreshAndSwitch _) (refreshAndSwitch _)
      rw [refreshAndSwitch_eq, refreshAndSwitch_eq]
      have htarget' : 0 ≤ target.2 := Nav.target_nonneg htarget hpage
      exact htables.map_pagePayloads _ htarget' fun payloads => .mk t htables htarget'

theorem SameDaemon.handleKeyPress {d d' : Daemon} (h : SameDaemon d d') (now : Int)
    (payload : List UInt8) :
    Option.Rel SameDaemon (handleKeyPress now payload d) (handleKeyPress now payload d') := by
  cases payload with
  | nil => exact .some h
  | cons key rest =>
    have htouched : SameDaemon (refreshScreenTimeout now d) (refreshScreenTimeout now d') := by
      cases h with
      | mk t htables hpage => exact .mk t htables hpage
    have hscreen : d'.gIsScreenOn = d.gIsScreenOn := by
      cases h
      rfl
    cases hon : d.gIsScreenOn with
    | false =>
      rw [handleKeyPress_of_off hon, handleKeyPress_of_off (hscreen.trans hon)]
      cases h with
      | mk t htables hpage => exact .some (.mk t htables hpage)
    | true =>
      rcases handleKeyPress_of_on key with ⟨nav, hkey⟩ | hkey | hkey
      · rw [hkey now rest d hon, hkey now rest d' (hscreen.trans hon)]
        exact htouched.apply nav
      · rw [hkey now rest d hon, hkey now rest d' (hscreen.trans hon)]
        cases h with
        | mk t htables hpage => exact .some (.mk t htables hpage)
      · rw [hkey now rest d hon, hkey now rest d' (hscreen.trans hon)]
        exact .some htouched

theorem SameDaemon.checkScreenTimeout {d d' : Daemon} (h : SameDaemon d d') (cfg : Config)
    (now : Int) :
    SameDaemon (checkScreenTimeout cfg now d) (checkScreenTimeout cfg now d') := by
  cases h with
  | mk t htables hpage =>
    unfold K3ScreenCtrl.checkScreenTimeout
    dsimp only
    split
    · exact .mk t htables hpage
    · exact .mk t htables hpage

/-- A tick. -/
theorem SameDaemon.tick {d d' : Daemon} (h : SameDaemon d d') {env env' : ScriptEnv}
    (henv : SameScripts env env') (cfg : Config) (now : Int) :
    Option.Rel SameDaemon (signalNotify cfg .sigalrm env now d)
      (signalNotify cfg .sigalrm env' now d') := by
  cases h with
  | mk t htables hpage =>
    have hupdated := htables.updatedTables henv d.gCurrentPage
    unfold signalNotify
    dsimp only
    rw [pageUpdate_eq, pageUpdate_eq, pageRefresh_eq, pageRefresh_eq, Option.map_map,
      Option.map_map]
    refine hupdated.map_pagePayloads _ hpage fun payloads => ?_
    have hsent : SameDaemon
        ({ d with tables := K3ScreenCtrl.updatedTables env d.gCurrentPage d.tables }.sendAll
          payloads)
        ({ d with tables := K3ScreenCtrl.updatedTables env' d.gCurrentPage t }.sendAll payloads) :=
      .mk _ hupdated hpage
    exact hsent.checkScreenTimeout cfg now

/-! ## Runs -/

/-- Two events that agree, but for what the memory of the scripts holds.  Only
a tick runs scripts. -/
inductive SameInput : Input → Input → Prop
  | keyPress (payload : List UInt8) (now : Int) :
    SameInput (.keyPress payload now) (.keyPress payload now)
  | mcuVersion (payload : List UInt8) : SameInput (.mcuVersion payload) (.mcuVersion payload)
  | signal (signal : Signal) (now : Int) {env env' : ScriptEnv}
    (henv : signal = .sigalrm → SameScripts env env') :
    SameInput (.signal signal env now) (.signal signal env' now)

/-- An event that ends the process. -/
def Input.Ends : Input → Prop
  | .signal .sigterm _ _ => True
  | _ => False

/-- One event. -/
theorem SameDaemon.step {d d' : Daemon} (h : SameDaemon d d') {i i' : Input}
    (hi : SameInput i i') (cfg : Config) :
    Option.Rel SameDaemon (step cfg d i) (step cfg d' i') := by
  have hexited : d'.exited = d.exited := by
    cases h
    rfl
  unfold K3ScreenCtrl.step
  rw [hexited]
  split
  · exact .none
  · cases hi with
    | keyPress payload now => exact h.handleKeyPress now payload
    | mcuVersion payload =>
      cases h with
      | mk t htables hpage =>
        refine .some ?_
        unfold handleMcuVersion
        split
        · exact .mk t htables hpage
        · exact .mk t htables hpage
    | signal signal now henv =>
      cases signal with
      | sigalrm => exact h.tick (henv rfl) cfg now
      | sigterm =>
        cases h with
        | mk t htables hpage => exact .some (.mk t htables hpage)
      | sigusr1 =>
        cases h with
        | mk t htables hpage => exact .some (.mk t htables hpage)
      | sigusr2 =>
        cases h with
        | mk t htables hpage => exact .some (.mk t htables hpage)

/-- The start-up. -/
theorem SameScripts.boot {env env' : ScriptEnv} (henv : SameScripts env env') (start : Int) :
    Option.Rel SameDaemon (boot env start) (boot env' start) := by
  have htables := (SameTables.refl Tables.init).updateAllInfo henv
  rw [boot_eq, boot_eq]
  exact htables.map_pagePayloads _ (Int.le_refl 0) fun payloads =>
    .mk _ htables (Int.le_refl 0)

/-- Two runs with the same scripts and the same events. -/
theorem SameScripts.runDaemon {env env' : ScriptEnv} (henv : SameScripts env env') (cfg : Config)
    (start : Int) {inputs inputs' : List Input} (hinputs : List.Forall₂ SameInput inputs inputs') :
    Option.Rel SameDaemon (runDaemon cfg env start inputs) (runDaemon cfg env' start inputs') := by
  refine Run.rel_bind (henv.boot start) fun d d' h => ?_
  exact Run.run_rel (fun d d' i i' h hi => h.step hi cfg) hinputs h

theorem SameInput.allowed {i i' : Input} (h : SameInput i i') (hends : ¬ i.Ends) : i.Allowed := by
  cases h with
  | keyPress payload now => trivial
  | mcuVersion payload => trivial
  | signal signal now henv =>
    cases signal with
    | sigalrm => exact (henv rfl).granted
    | sigterm => exact hends trivial
    | sigusr1 => trivial
    | sigusr2 => trivial

theorem allowed_of_sameInputs {inputs inputs' : List Input}
    (hinputs : List.Forall₂ SameInput inputs inputs') : ∀ i ∈ inputs, ¬ i.Ends → i.Allowed := by
  induction hinputs with
  | nil => exact fun i hi => absurd hi List.not_mem_nil
  | cons h _ ih =>
    intro i hi
    rcases List.mem_cons.mp hi with rfl | hi
    · exact h.allowed
    · exact ih i hi

/-- The end of the process is handled, too. -/
theorem InStep.step_ends {d : Daemon} (h : InStep d) {i : Input} (hi : i.Ends) (cfg : Config) :
    ∃ d', K3ScreenCtrl.step cfg d i = some d' := by
  unfold K3ScreenCtrl.step
  rw [if_neg (by simp [h.running])]
  cases i with
  | keyPress payload now => exact absurd hi id
  | mcuVersion payload => exact absurd hi id
  | signal signal env now =>
    cases signal with
    | sigterm => exact ⟨_, rfl⟩
    | sigalrm => exact absurd hi id
    | sigusr1 => exact absurd hi id
    | sigusr2 => exact absurd hi id

/-- A run goes to its end if only its last event ends the process. -/
theorem runDaemon_isSome {cfg : Config} {env : ScriptEnv} (halloc : env.hostBlock.isSome)
    (start : Int) {inputs : List Input} (hallowed : ∀ i ∈ inputs, ¬ i.Ends → i.Allowed)
    (hends : ∀ i ∈ inputs.dropLast, ¬ i.Ends) : (runDaemon cfg env start inputs).isSome := by
  rcases List.eq_nil_or_concat inputs with rfl | ⟨front, last, rfl⟩
  · obtain ⟨d, hrun, _⟩ := @inStep_runDaemon cfg env halloc start [] (by simp)
    rw [hrun]
    rfl
  · rw [List.concat_eq_append] at hallowed hends ⊢
    rw [List.dropLast_concat] at hends
    have hfront : ∀ i ∈ front, i.Allowed :=
      fun i hi => hallowed i (List.mem_append_left _ hi) (hends i hi)
    obtain ⟨d, hrun, hd⟩ := @inStep_runDaemon cfg env halloc start front hfront
    have hlast : ∃ d', K3ScreenCtrl.step cfg d last = some d' := by
      by_cases hend : last.Ends
      · exact hd.step_ends hend cfg
      · exact hd.step_isSome (hallowed last (by simp) hend) cfg
    obtain ⟨d', hd'⟩ := hlast
    rw [runDaemon_concat, hrun, Option.bind_some, hd']
    rfl

/-- The bytes on the line are the same in two runs with the same script outputs
and events, whatever the memory of their requests and the blocks of their host
tables held.  A run has such bytes if only its last event ends the process. -/
theorem memoryIsolation (mem mem' : Memory) (cfg : Config) (env env' : ScriptEnv) (start : Int)
    (inputs inputs' : List Input) (henv : SameScripts env env')
    (hinputs : List.Forall₂ SameInput inputs inputs') :
    (runMachine mem cfg env start inputs).map Machine.wire =
        (runMachine mem' cfg env' start inputs').map Machine.wire ∧
      ((∀ i ∈ inputs.dropLast, ¬ i.Ends) → (runMachine mem cfg env start inputs).isSome) := by
  rw [runMachine_eq, runMachine_eq]
  constructor
  · rw [Option.map_map, Option.map_map]
    refine Run.map_eq_of_rel (henv.runDaemon cfg start hinputs) fun d d' h => ?_
    cases h
    rfl
  · intro hends
    rw [Option.isSome_map]
    exact runDaemon_isSome henv.granted start (allowed_of_sameInputs hinputs) hends

/-- Two hosts are announced, and the output breaks off in the second one, whose
record holds whatever the block held. -/
def brokenOffEnv (logo : UInt32) : ScriptEnv where
  script := fun page =>
    if page = .hosts then .ofText brokenOffListing.text (by decide) (by decide)
    else silentEnv.script page
  hostBlock := some fun _ => { HostInfoSingle.zero with logo := logo }

/-- Memory that holds one byte everywhere. -/
def constantMemory (byte : UInt8) : Memory :=
  fun _ => { stack := fun _ => byte, cmdbuf := fun _ => byte, txbuf := fun _ => byte }

theorem memoryIsolation_brokenOff :
    (runMachine (constantMemory 0) { screenTimeout := 10 } (brokenOffEnv 0) 0
          [.keyPress [KEY_RIGHT_SHORT] 1, .signal .sigalrm (brokenOffEnv 0) 2]).map Machine.wire =
        (runMachine (constantMemory 0xa5) { screenTimeout := 10 } (brokenOffEnv 0xa5) 0
          [.keyPress [KEY_RIGHT_SHORT] 1, .signal .sigalrm (brokenOffEnv 0xa5) 2]).map
            Machine.wire ∧
      (runMachine (constantMemory 0) { screenTimeout := 10 } (brokenOffEnv 0) 0
        [.keyPress [KEY_RIGHT_SHORT] 1, .signal .sigalrm (brokenOffEnv 0) 2]).isSome := by
  have hscripts : SameScripts (brokenOffEnv 0) (brokenOffEnv 0xa5) :=
    ⟨fun _ => rfl, rfl, rfl⟩
  have hinputs : List.Forall₂ SameInput
      [.keyPress [KEY_RIGHT_SHORT] 1, .signal .sigalrm (brokenOffEnv 0) 2]
      [.keyPress [KEY_RIGHT_SHORT] 1, .signal .sigalrm (brokenOffEnv 0xa5) 2] :=
    .cons (.keyPress _ 1) (.cons (.signal .sigalrm 2 fun _ => hscripts) .nil)
  obtain ⟨hwire, hsome⟩ := memoryIsolation (constantMemory 0) (constantMemory 0xa5)
    { screenTimeout := 10 } _ _ 0 _ _ hscripts hinputs
  exact ⟨hwire, hsome (by simp [Input.Ends])⟩

end K3ScreenCtrl
