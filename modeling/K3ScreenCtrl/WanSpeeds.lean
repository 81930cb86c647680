import K3ScreenCtrl.Mirror
import K3ScreenCtrl.UpdateOrder
import K3ScreenCtrl.WanScript

/-!
# From the byte counters to the screen

`wan.sh` prints a rate since its last run, `update_wan_info` stores it, and a
refresh of the WAN page sends it.  `wanSpeeds_of_runDaemon` puts these together
for whole runs: what the screen has got is the mean rate over the time between
the last two refreshes of the WAN page, however many keys and other pages came
in between.

`FixedSent` says that the last request of a page of fixed size carries the table
of that page.  Unlike `InStep`, it needs no allocation to be granted.
-/

namespace K3ScreenCtrl

open History Interleaving

/-! ## What was sent -/

/-- The last requests of the pages of fixed size carry their tables. -/
def FixedSent (d : Daemon) : Prop :=
  ∀ q : Page, q ≠ .hosts → lastRequest q.requestType d = pagePayload q d.tables d.gHostPage

/-- The host page matters to the host table alone. -/
theorem pagePayload_hostPage {q : Page} (hq : q ≠ .hosts) (t : Tables) (hostPage hostPage' : Int) :
    pagePayload q t hostPage = pagePayload q t hostPage' := by
  cases q <;> first | rfl | exact absurd rfl hq

/-- No page data is sent, and the tables stay. -/
theorem FixedSent.of_others {d d' : Daemon} {others : List (List UInt8)} (h : FixedSent d)
    (htables : d'.tables = d.tables) (hsent : d'.sent = d.sent ++ others)
    (hothers : ∀ q : Page, ∀ p ∈ others, isRequest q.requestType p = false) : FixedSent d' := by
  intro q hq
  unfold lastRequest
  rw [hsent, latest_append_of_neg (hothers q), htables, pagePayload_hostPage hq _ _ d.gHostPage]
  exact h q hq

/-- A refresh sends every table that has changed. -/
theorem FixedSent.of_refresh {d d' : Daemon} {page : Page} {payloads others : List (List UInt8)}
    (h : FixedSent d)
    (htables : ∀ q ∉ refreshedPages page, ∀ hostPage,
      pagePayload q d'.tables hostPage = pagePayload q d.tables hostPage)
    (hpayloads : refreshPayloads page d'.tables d'.gHostPage = some payloads)
    (hsent : d'.sent = d.sent ++ (payloads ++ others))
    (hothers : ∀ q : Page, ∀ p ∈ others, isRequest q.requestType p = false) : FixedSent d' := by
  intro q hq
  rw [lastRequest_of_sent hsent hpayloads hothers]
  split
  · rfl
  · next hnot =>
    rw [htables q hnot, pagePayload_hostPage hq _ _ d.gHostPage]
    exact h q hq

theorem fixedSent_step {cfg : Config} {d d' : Daemon} {i : Input} (h : FixedSent d)
    (hstep : step cfg d i = some d') : FixedSent d' := by
  obtain ⟨_, hcases⟩ := step_cases hstep
  cases hcases with
  | version payload version => exact h
  | empty now => exact h
  | wakeup key rest now hoff => exact h.of_others rfl rfl fun q => isRequest_page_event q _
  | stay key rest now hon => exact h
  | move key rest now hon nav page hostPage payloads htarget hpayloads =>
    exact h.of_refresh (fun _ _ _ => rfl) hpayloads rfl fun q => isRequest_page_switch q page
  | sleepKey key rest now hon => exact h.of_others rfl rfl fun q => isRequest_page_event q _
  | tick env now payloads t ht hpayloads hin =>
    have hsent : d.sent ++ payloads = d.sent ++ (payloads ++ []) := by rw [List.append_nil]
    refine h.of_refresh (fun q hq hostPage => ?_) hpayloads hsent (by simp)
    show pagePayload q t hostPage = _
    rw [ht, pagePayload_updatedTables hq]
  | tickSleep env now payloads t ht hpayloads hout =>
    refine h.of_refresh (fun q hq hostPage => ?_) hpayloads rfl fun q => isRequest_page_event q _
    show pagePayload q t hostPage = _
    rw [ht, pagePayload_updatedTables hq]
  | notice signal env now event exited hsignal hevent' hexited =>
    exact h.of_others rfl rfl fun q => isRequest_page_event q _

theorem fixedSent_runDaemon {cfg : Config} {env : ScriptEnv} {start : Int} {inputs : List Input}
    {d : Daemon} (h : runDaemon cfg env start inputs = some d) : FixedSent d := by
  obtain ⟨d₀, hboot, hrun⟩ := Option.bind_eq_some_iff.mp h
  refine Run.run_invariant (P := FixedSent) (fun _ _ _ hd hstep => fixedSent_step hd hstep) ?_ hrun
  rw [boot_eq] at hboot
  obtain ⟨payloads, hpayloads, rfl⟩ := Option.map_eq_some_iff.mp hboot
  intro q hq
  have hmem : q ∈ [Page.basicInfo, .ports, .wan, .wifi, .hosts] := by
    cases q <;> decide
  rw [@lastRequest_of_sent _ [requestMcuVersion] _ _ _ rfl hpayloads
    (fun q => isRequest_page_switch q .wan) q, if_pos hmem]

/-! ## The WAN table -/

/-- The last run of the WAN script decides, wherever it stands among the updates. -/
theorem gWanInfo_of_last {updates runs : List PageRun} {u : PageRun}
    (hown : own PageRun.page .wan updates = runs ++ [u]) {out : ScriptOutput}
    (hrun : u.run.output = some out) (printed : WanOutput) (hout : out.str = printed.text)
    (t : Tables) :
    (updates.foldl (fun t u => (u.update t).2) t).gWanInfo =
      { isConnected := UInt32.ofInt printed.connected
        txBytesPerSec := UInt32.ofInt printed.uploadBps
        rxBytesPerSec := UInt32.ofInt printed.downloadBps } := by
  -- the updates of the other pages come first
  have hsame : ∀ page, own PageRun.page page updates =
      own PageRun.page page ((updates.filter fun v => v.page ≠ .wan) ++ (runs ++ [u])) := by
    intro page
    rw [← hown]
    exact (own_others_append .wan page updates).symm
  have hpage : u.page = .wan := by
    have hmem : u ∈ own PageRun.page .wan updates := by rw [hown]; simp
    exact of_decide_eq_true (List.mem_filter.mp hmem).2
  rw [tables_interleave t hsame, ← List.append_assoc, List.foldl_append]
  generalize ((updates.filter fun v => v.page ≠ .wan) ++ runs).foldl
    (fun t u => (u.update t).2) t = t'
  show (u.update t').2.gWanInfo = _
  rw [PageRun.update, hpage]
  exact gWanInfo_updateWanInfo hrun printed hout t'

/-! ## Rates -/

/-- Two readings of an interface that stayed, on a clock that went on. -/
structure Orderly (prev curr : WanReading) : Prop where
  uploadPresent : prev.currUploadBytes ≠ none
  downloadPresent : prev.currDownloadBytes ≠ none
  time_le : prev.currTime ≤ curr.currTime
  time_lt : curr.currTime - prev.currTime < 2 ^ 63
  upload_le : counterValue prev.currUploadBytes ≤ counterValue curr.currUploadBytes
  upload_lt : counterValue curr.currUploadBytes - counterValue prev.currUploadBytes < 2 ^ 63
  download_le : counterValue prev.currDownloadBytes ≤ counterValue curr.currDownloadBytes
  download_lt : counterValue curr.currDownloadBytes - counterValue prev.currDownloadBytes < 2 ^ 63

/-- The bytes for each second between two readings, where no time counts as one
second. -/
def meanRate (prev curr : WanReading) (counter : WanReading → Option UInt64) : Nat :=
  (counterValue (counter curr) - counterValue (counter prev)) /
    max 1 (curr.currTime - prev.currTime)

theorem shellQuotient_meanRate {prev curr : WanReading} (counter : WanReading → Option UInt64)
    (htime : prev.currTime ≤ curr.currTime) (hlong : curr.currTime - prev.currTime < 2 ^ 63)
    (hle : counterValue (counter prev) ≤ counterValue (counter curr))
    (hlt : counterValue (counter curr) - counterValue (counter prev) < 2 ^ 63) :
    shellQuotient (bytesBetween (counter prev) (counter curr))
        (if secondsBetween prev curr = 0 then 1 else secondsBetween prev curr) =
      meanRate prev curr counter := by
  have hbytes : bytesBetween (counter prev) (counter curr) =
      ((counterValue (counter curr) - counterValue (counter prev) : Nat) : Int) := by
    unfold bytesBetween
    rw [shellInt_of_bounds (by omega) (by omega), Int.ofNat_sub hle]
  have hseconds : secondsBetween prev curr = ((curr.currTime - prev.currTime : Nat) : Int) := by
    unfold secondsBetween
    rw [shellInt_of_bounds (by omega) (by omega), Int.ofNat_sub htime]
  have hdivisor : (if secondsBetween prev curr = 0 then 1 else secondsBetween prev curr) =
      ((max 1 (curr.currTime - prev.currTime) : Nat) : Int) := by
    rw [hseconds]
    split <;> omega
  rw [hdivisor, hbytes]
  unfold shellQuotient meanRate
  generalize counterValue (counter curr) - counterValue (counter prev) = bytes at hlt ⊢
  generalize max 1 (curr.currTime - prev.currTime) = seconds
  have hdiv : bytes / seconds ≤ bytes := Nat.div_le_self bytes seconds
  have hquotient : (bytes : Int).tdiv seconds = ((bytes / seconds : Nat) : Int) := by
    rw [Int.tdiv_eq_ediv_of_nonneg (Int.natCast_nonneg bytes)]
    norm_cast
  rw [hquotient]
  generalize bytes / seconds = rate at hdiv
  exact shellInt_of_bounds (by omega) (by omega)

/-- What `wan.sh` prints behind an orderly reading. -/
theorem wanScript_orderly {prev curr : WanReading} (h : Orderly prev curr) :
    (wanScript (some prev.written) curr).2 =
      { connected := if curr.ipv4Addr ≠ [] ∨ curr.ipv6Addr ≠ [] then 1 else 0
        uploadBps := meanRate prev curr WanReading.currUploadBytes
        downloadBps := meanRate prev curr WanReading.currDownloadBytes } := by
  have hnext := wanScript_next prev curr
  rw [if_neg (not_or.mpr ⟨h.uploadPresent, h.downloadPresent⟩)] at hnext
  dsimp only at hnext
  rw [shellQuotient_meanRate WanReading.currUploadBytes h.time_le h.time_lt h.upload_le h.upload_lt,
    shellQuotient_meanRate WanReading.currDownloadBytes h.time_le h.time_lt h.download_le
      h.download_lt, Prod.mk.injEq] at hnext
  have hconnected : (wanScript (some prev.written) curr).2.connected =
      if curr.ipv4Addr ≠ [] ∨ curr.ipv6Addr ≠ [] then 1 else 0 := by
    unfold wanScript
    dsimp only
    split <;> rfl
  rw [← hnext.1, ← hnext.2, ← hconnected]

/-- The last of some runs knows the one before it. -/
theorem wanRuns_append_pair (tempFile : Option TempFile) (readings : List WanReading)
    (prev curr : WanReading) :
    ∃ outputs, wanRuns tempFile (readings ++ [prev, curr]) =
      outputs ++ [(wanScript (some prev.written) curr).2] := by
  induction readings generalizing tempFile with
  | nil =>
    refine ⟨[(wanScript tempFile prev).2], ?_⟩
    show [_, (wanScript (some (wanScript tempFile prev).1) curr).2] = _
    rw [wanScript_fst]
    rfl
  | cons reading readings ih =>
    obtain ⟨outputs, h⟩ := ih (some (wanScript tempFile reading).1)
    refine ⟨(wanScript tempFile reading).2 :: outputs, ?_⟩
    rw [List.cons_append, wanRuns, h, List.cons_append]

theorem ofInt_natCast (n : Nat) : UInt32.ofInt n = UInt32.ofNat n := by
  apply UInt32.toNat_inj.mp
  apply Int.ofNat_inj.mp
  rw [toNat_ofInt, UInt32.toNat_ofNat']
  norm_cast

/-! ## Every run -/

/-- A call of the updater for which the script prints this. -/
def PrintsWan (u : PageRun) (printed : WanOutput) : Prop :=
  ∃ out : ScriptOutput, u.run.output = some out ∧ out.str = printed.text

/-- If `wan.sh` is the WAN script, then in every run the screen has got the mean
rates between its last two runs, to 32 bits, and whether the interface has an
address. -/
theorem wanSpeeds_of_runDaemon {cfg : Config} {env : ScriptEnv} {start : Int}
    {inputs : List Input} {d : Daemon} (h : runDaemon cfg env start inputs = some d)
    (tempFile : Option TempFile) (readings : List WanReading) {prev curr : WanReading}
    (hscript : List.Forall₂ PrintsWan
      (own PageRun.page .wan (updatesOf cfg env start inputs))
      (wanRuns tempFile (readings ++ [prev, curr])))
    (horderly : Orderly prev curr) :
    lastRequest .updateWan d =
      some (requestUpdateWan (if curr.ipv4Addr ≠ [] ∨ curr.ipv6Addr ≠ [] then 1 else 0)
        (UInt32.ofNat (meanRate prev curr WanReading.currUploadBytes))
        (UInt32.ofNat (meanRate prev curr WanReading.currDownloadBytes))) := by
  obtain ⟨outputs, houtputs⟩ := wanRuns_append_pair tempFile readings prev curr
  rw [houtputs] at hscript
  generalize hwan : own PageRun.page .wan (updatesOf cfg env start inputs) = runs at hscript
  -- the last update of the WAN page is the last run of the script
  obtain ⟨u, ⟨out, hrun, hout⟩, hlast⟩ : ∃ u, PrintsWan u _ ∧ runs.drop outputs.length = [u] := by
    have hdrop := List.forall₂_drop_append runs outputs _ hscript
    generalize runs.drop outputs.length = rest at hdrop
    cases hdrop with
    | cons hu hnil =>
      cases hnil
      exact ⟨_, hu, rfl⟩
  have hsplit : runs = runs.take outputs.length ++ [u] := by
    rw [← hlast, List.take_append_drop]
  have htable := gWanInfo_of_last (hwan.trans hsplit) hrun _ hout .init
  rw [← tables_runDaemon h, wanScript_orderly horderly] at htable
  refine (fixedSent_runDaemon h .wan (by decide)).trans ?_
  rw [pagePayload, htable]
  dsimp only
  rw [ofInt_natCast, ofInt_natCast]
  split <;> rfl

/-- The WAN script prints a text, and the others nothing. -/
def wanTextEnv (s : List UInt8) (h : 0 ∉ s) (hs : s.length < 100) : ScriptEnv where
  script := fun page => if page = .wan then .ofText s h hs else silentEnv.script page
  hostBlock := none

/-- The script runs at the start, and ten seconds later. -/
def firstWanEnv : ScriptEnv :=
  wanTextEnv (wanScript none (connectedReading 100 5000)).2.text (by decide +kernel)
    (by decide +kernel)

def secondWanEnv : ScriptEnv :=
  wanTextEnv
    (wanScript (some (connectedReading 100 5000).written) (connectedReading 110 9000)).2.text
    (by decide +kernel) (by decide +kernel)

/-- A refresh of the WAN page, with a look at another page in between. -/
def wanInputs : List Input :=
  [.keyPress [KEY_RIGHT_SHORT] 2, .signal .sigalrm silentEnv 4, .keyPress [KEY_LEFT_SHORT] 6,
    .signal .sigalrm secondWanEnv 10]

theorem wanSpeeds_of_runDaemon_twoRuns :
    ∃ d, runDaemon { screenTimeout := 0 } firstWanEnv 0 wanInputs = some d ∧
      lastRequest .updateWan d = some (requestUpdateWan 1 400 400) := by
  have hsome : (runDaemon { screenTimeout := 0 } firstWanEnv 0 wanInputs).isSome := by
    decide +kernel
  obtain ⟨d, hd⟩ := Option.isSome_iff_exists.mp hsome
  have horderly : Orderly (connectedReading 100 5000) (connectedReading 110 9000) := by
    constructor <;> decide
  have hscript : List.Forall₂ PrintsWan
      (own PageRun.page .wan (updatesOf { screenTimeout := 0 } firstWanEnv 0 wanInputs))
      (wanRuns none ([] ++ [connectedReading 100 5000, connectedReading 110 9000])) := by
    show List.Forall₂ PrintsWan [pageRun firstWanEnv .wan, pageRun secondWanEnv .wan] [_, _]
    exact .cons ⟨_, rfl, rfl⟩ (.cons ⟨_, rfl, rfl⟩ .nil)
  have hup : meanRate (connectedReading 100 5000) (connectedReading 110 9000)
      WanReading.currUploadBytes = 400 := by decide
  have hdown : meanRate (connectedReading 100 5000) (connectedReading 110 9000)
      WanReading.currDownloadBytes = 400 := by decide
  have hsent := wanSpeeds_of_runDaemon hd none [] hscript horderly
  rw [hup, hdown, if_pos (by decide)] at hsent
  exact ⟨d, hd, hsent⟩

end K3ScreenCtrl
