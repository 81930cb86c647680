import K3ScreenCtrl.HostList
import K3ScreenCtrl.Pages

/-!
# What the updaters keep

An updater changes the table of its page and nothing else, whatever its script
prints.  Inside the tables some things never change: the strings of the basic
info stay terminated and padded, and the pad bytes stay zero.  The host table
has room for the records it counts, as long as no allocation is refused.
-/

namespace K3ScreenCtrl

open CString Pieces

/-! ## One page at a time -/

/-- The pad bytes of the port table are zero. -/
def PortInfo.PadsClear (p : PortInfo) : Prop := p.pad1 = 0 ∧ p.pad2 = CharArray.zero 2

/-- The pad bytes of the three radios are zero. -/
def WifiInfo.PadsClear (w : WifiInfo) : Prop :=
  w.wl24gInfo.pad = CharArray.zero 2 ∧ w.wl5gInfo.pad = CharArray.zero 2 ∧
    w.wlVisitorInfo.pad = CharArray.zero 2

theorem padded_basicInfoMembers :
    ∀ store ∈ basicInfoMembers, ∀ token, 0 ∉ token →
      ∀ b : BasicInfo, b.Padded → (tokenStore store token b).Padded := by
  simp only [basicInfoMembers, List.forall_mem_cons]
  refine ⟨?_, ?_, ?_, ?_, by simp⟩
  · intro token htoken b hb
    exact { hb with productName := padded_storeString (by omega) htoken _ }
  · intro token htoken b hb
    exact { hb with hwVersion := padded_storeString (by omega) htoken _ }
  · intro token htoken b hb
    exact { hb with fwVersion := padded_storeString (by omega) htoken _ }
  · intro token htoken b hb
    exact { hb with macAddrBase := padded_storeString (by omega) htoken _ }

theorem padsClear_portInfoMembers :
    ∀ store ∈ portInfoMembers, ∀ token, 0 ∉ token →
      ∀ p : PortInfo, p.PadsClear → (tokenStore store token p).PadsClear := by
  simp only [portInfoMembers, List.forall_mem_cons]
  refine ⟨?_, ?_, ?_, ?_, ?_, by simp⟩
  all_goals
    intro token _ p hp
    exact hp

theorem padsClear_wifiInfoMembers :
    ∀ store ∈ wifiInfoMembers, ∀ token, 0 ∉ token →
      ∀ w : WifiInfo, w.PadsClear → (tokenStore store token w).PadsClear := by
  simp only [wifiInfoMembers, List.forall_mem_cons]
  refine ⟨?_, ?_, ?_, ?_, ?_, ?_, ?_, ?_, ?_, ?_, ?_, ?_, ?_, by simp⟩
  all_goals
    intro token _ w hw
    exact hw

/-- What an update of one page can leave. -/
inductive Updated (t : Tables) : Page → Tables → Prop
  | basicInfo (b : BasicInfo) (hb : t.gBasicInfo.Padded → b.Padded) :
    Updated t .basicInfo { t with gBasicInfo := b }
  | ports (p : PortInfo) (hp : t.gPortInfo.PadsClear → p.PadsClear) :
    Updated t .ports { t with gPortInfo := p }
  | wan (w : WanInfo) : Updated t .wan { t with gWanInfo := w }
  | wifi (w : WifiInfo) (hw : t.gWifiInfo.PadsClear → w.PadsClear) :
    Updated t .wifi { t with gWifiInfo := w }
  | hosts (a : Option HostArray) (n : UInt32) :
    Updated t .hosts { t with gHostInfoArray := a, gHostInfoElements := n }

theorem updated_updateHostInfo (run : ScriptRun) (hostBlock : Option (Nat → HostInfoSingle))
    (t : Tables) : Updated t .hosts (updateHostInfo run hostBlock t).2 := by
  cases hout : run.output with
  | none =>
    rw [updateHostInfo, hout]
    exact .hosts _ _
  | some out =>
    rw [updateHostInfo_eq hout]
    dsimp only
    split
    · exact .hosts _ _
    · cases hostBlock with
      | none => exact .hosts _ _
      | some record => exact .hosts _ _

theorem updated_updatePageInfo (env : ScriptEnv) (page : Page) (t : Tables) :
    Updated t page (updatePageInfo env page t).2 := by
  cases page with
  | basicInfo =>
    obtain ⟨f, hf, hkeep⟩ := updateStorageFromScript_at padded_basicInfoMembers
      (env.script .basicInfo) t
    show Updated t _ (updateStorageFromScript _ (basicInfoMembers.map (.at gBasicInfo)) t).2
    rw [hf]
    exact .basicInfo _ (hkeep _)
  | ports =>
    obtain ⟨f, hf, hkeep⟩ := updateStorageFromScript_at padsClear_portInfoMembers
      (env.script .ports) t
    show Updated t _ (updateStorageFromScript _ (portInfoMembers.map (.at gPortInfo)) t).2
    rw [hf]
    exact .ports _ (hkeep _)
  | wan =>
    obtain ⟨f, hf, _⟩ := @updateStorageFromScript_at _ gWanInfo wanInfoMembers (fun _ => True)
      (fun _ _ _ _ _ _ => trivial) (env.script .wan) t
    show Updated t _ (updateStorageFromScript _ (wanInfoMembers.map (.at gWanInfo)) t).2
    rw [hf]
    exact .wan _
  | wifi =>
    obtain ⟨f, hf, hkeep⟩ := updateStorageFromScript_at padsClear_wifiInfoMembers
      (env.script .wifi) t
    show Updated t _ (updateStorageFromScript _ (wifiInfoMembers.map (.at gWifiInfo)) t).2
    rw [hf]
    exact .wifi _ (hkeep _)
  | hosts => exact updated_updateHostInfo (env.script .hosts) env.hostBlock t

/-! ## The host table -/

/-- The number of records that the host table has room for. -/
def Tables.hostCapacity (t : Tables) : Nat :=
  match t.gHostInfoArray with
  | none => 0
  | some a => a.size

/-- The host table has room for the records it counts. -/
def Tables.HostsFit (t : Tables) : Prop := t.gHostInfoElements.toNat ≤ t.hostCapacity

/-- With its allocation granted, the updater leaves room for every record it
counts. -/
theorem hostsFit_updateHostInfo (run : ScriptRun) (record : Nat → HostInfoSingle) {t : Tables}
    (ht : t.HostsFit) : (updateHostInfo run (some record) t).2.HostsFit := by
  cases hout : run.output with
  | none =>
    rw [updateHostInfo, hout]
    exact ht
  | some out =>
    rw [updateHostInfo_eq hout]
    dsimp only
    generalize announcedHosts t.gHostInfoElements (pieces NEWLINE out.str) = n
    generalize countedRecords (pieces NEWLINE out.str).tail = k
    split
    · next hzero =>
      show n.toNat ≤ _
      omega
    · show (if n.toNat ≤ k then n else UInt32.ofNat k).toNat ≤ (fillHosts _ _ _ _).size
      rw [size_fillHosts]
      split
      · exact Nat.le_refl _
      · next hlt =>
        have hn := n.toNat_lt
        rw [UInt32.toNat_ofNat']
        show k % 2 ^ 32 ≤ n.toNat
        omega

/-- The value of an `unsigned int` read as an `int`. -/
theorem toInt_toInt32 (n : UInt32) :
    n.toInt32.toInt = if 2 * n.toNat < 2 ^ 32 then (n.toNat : Int) else n.toNat - (2 ^ 32 : Nat) :=
  BitVec.toInt_eq_toNat_cond n.toBitVec

/-- A host page can be read if the host table has room for what it counts. -/
theorem pagePayload_hosts_isSome {t : Tables} (h : t.HostsFit) {hostPage : Int}
    (hpage : 0 ≤ hostPage) : ∃ p, pagePayload .hosts t hostPage = some p := by
  have hlen : t.gHostInfoElements.toInt32.toInt ≤ t.gHostInfoElements.toNat := by
    rw [toInt_toInt32]
    split <;> omega
  unfold Tables.HostsFit Tables.hostCapacity at h
  cases harray : t.gHostInfoArray with
  | none =>
    simp only [harray] at h
    refine ⟨_, requestUpdateHostsPaged_eq (fun _ => .zero) ?_⟩
    intro i hi
    unfold copylen HOSTS_PER_PAGE at hi
    split at hi <;> omega
  | some a =>
    simp only [harray] at h
    refine ⟨_, requestUpdateHostsPaged_eq
      (fun i => a.record (hostPage * HOSTS_PER_PAGE + i).toNat) ?_⟩
    intro i hi
    have hin : hostPage * HOSTS_PER_PAGE + i < t.gHostInfoElements.toInt32.toInt := by
      unfold copylen at hi
      split at hi <;> omega
    unfold HOSTS_PER_PAGE at hin ⊢
    rw [harray]
    show (if _ then _ else _) = _
    rw [if_pos (by omega)]

/-- So can a list of pages. -/
theorem pagePayloads_isSome {t : Tables} (h : t.HostsFit) {hostPage : Int} (hpage : 0 ≤ hostPage)
    (pages : List Page) : ∃ payloads, pagePayloads t hostPage pages = some payloads := by
  induction pages with
  | nil => exact ⟨[], rfl⟩
  | cons page pages ih =>
    obtain ⟨ps, hps⟩ := ih
    have hp : ∃ p, pagePayload page t hostPage = some p := by
      cases page with
      | hosts => exact pagePayload_hosts_isSome h hpage
      | basicInfo => exact ⟨_, rfl⟩
      | ports => exact ⟨_, rfl⟩
      | wan => exact ⟨_, rfl⟩
      | wifi => exact ⟨_, rfl⟩
    obtain ⟨p, hp⟩ := hp
    refine ⟨p :: ps, ?_⟩
    rw [pagePayloads, hp, Option.bind_some, hps, Option.map_some]

/-! ## All pages -/

/-- The tables that no updater spoils. -/
structure Tables.Sound (t : Tables) : Prop where
  basicInfo : t.gBasicInfo.Padded
  portInfo : t.gPortInfo.PadsClear
  wifiInfo : t.gWifiInfo.PadsClear

theorem Tables.sound_init : Tables.init.Sound where
  basicInfo :=
    { productName := CharArray.padded_zero 8
      hwVersion := CharArray.padded_zero 8
      fwVersion := CharArray.padded_zero 24
      macAddrBase := CharArray.padded_zero 18 }
  portInfo := ⟨rfl, rfl⟩
  wifiInfo := ⟨rfl, rfl, rfl⟩

theorem Tables.hostsFit_init : Tables.init.HostsFit := Nat.le_refl 0

/-- Every update keeps the tables sound. -/
theorem Tables.Sound.updatePageInfo {t : Tables} (h : t.Sound) (env : ScriptEnv) (page : Page) :
    (updatePageInfo env page t).2.Sound := by
  have hupdated := updated_updatePageInfo env page t
  generalize (K3ScreenCtrl.updatePageInfo env page t).2 = t' at hupdated
  cases hupdated with
  | basicInfo b hb => exact { h with basicInfo := hb h.basicInfo }
  | ports p hp => exact { h with portInfo := hp h.portInfo }
  | wan w => exact { h with }
  | wifi w hw => exact { h with wifiInfo := hw h.wifiInfo }
  | hosts a n => exact { h with }

/-- Only the update of the host page touches the host table. -/
theorem hosts_updatePageInfo {page : Page} (h : page ≠ .hosts) (env : ScriptEnv) (t : Tables) :
    (updatePageInfo env page t).2.gHostInfoArray = t.gHostInfoArray ∧
      (updatePageInfo env page t).2.gHostInfoElements = t.gHostInfoElements := by
  have hupdated := updated_updatePageInfo env page t
  generalize (updatePageInfo env page t).2 = t' at hupdated ⊢
  cases hupdated with
  | hosts a n => exact absurd rfl h
  | _ => exact ⟨rfl, rfl⟩

/-- Every update with its allocation granted keeps room in the host table. -/
theorem Tables.HostsFit.updatePageInfo {t : Tables} (h : t.HostsFit) {env : ScriptEnv}
    (halloc : env.hostBlock.isSome) (page : Page) : (updatePageInfo env page t).2.HostsFit := by
  by_cases hpage : page = .hosts
  · obtain ⟨record, hrecord⟩ := Option.isSome_iff_exists.mp halloc
    rw [hpage]
    show (updateHostInfo _ env.hostBlock t).2.HostsFit
    rw [hrecord]
    exact hostsFit_updateHostInfo _ record h
  · obtain ⟨harray, helements⟩ := hosts_updatePageInfo hpage env t
    unfold Tables.HostsFit Tables.hostCapacity at h ⊢
    rw [harray, helements]
    exact h

/-- With its allocation granted, an update leaves a count below the size of an
output. -/
theorem gHostInfoElements_lt {env : ScriptEnv} (halloc : env.hostBlock.isSome) (page : Page)
    {t : Tables} (ht : t.gHostInfoElements.toNat < SCRIPT_OUTPUT_BUFFER_SIZE) :
    (updatePageInfo env page t).2.gHostInfoElements.toNat < SCRIPT_OUTPUT_BUFFER_SIZE := by
  by_cases hpage : page = .hosts
  · rw [hpage]
    show (updateHostInfo _ env.hostBlock t).2.gHostInfoElements.toNat < _
    rw [gHostInfoElements_updateHostInfo, halloc]
    cases hout : (env.script .hosts).output with
    | none => exact ht
    | some out =>
      have hlines : (pieces NEWLINE out.str).length < SCRIPT_OUTPUT_BUFFER_SIZE :=
        Nat.lt_of_le_of_lt (length_pieces_le out.str) out.length_lt
      show (UInt32.ofNat (min _ (((pieces NEWLINE out.str).tail.length - 1) / 4))).toNat < _
      rw [List.length_tail, UInt32.toNat_ofNat']
      unfold SCRIPT_OUTPUT_BUFFER_SIZE at hlines ⊢
      omega
  · rw [(hosts_updatePageInfo hpage env t).2]
    exact ht

/-- Some updates one after the other, each of one page. -/
def updateTables (updates : List (ScriptEnv × Page)) (t : Tables) : Tables :=
  updates.foldl (fun t u => (updatePageInfo u.1 u.2 t).2) t

/-- The tables after some updates from the program start. -/
def tablesAfter (updates : List (ScriptEnv × Page)) : Tables := updateTables updates .init

/-- What every update of a kind keeps, any updates of that kind keep. -/
theorem updateTables_invariant {P : Tables → Prop} {Q : ScriptEnv × Page → Prop}
    (h : ∀ t u, Q u → P t → P (updatePageInfo u.1 u.2 t).2) {updates : List (ScriptEnv × Page)}
    (hupdates : ∀ u ∈ updates, Q u) {t : Tables} (ht : P t) : P (updateTables updates t) := by
  induction updates generalizing t with
  | nil => exact ht
  | cons u updates ih =>
    refine ih (fun v hv => hupdates v (List.mem_cons_of_mem u hv)) ?_
    exact h t u (hupdates u List.mem_cons_self) ht

/-- The tables are sound after any updates. -/
theorem sound_tablesAfter (updates : List (ScriptEnv × Page)) : (tablesAfter updates).Sound :=
  updateTables_invariant (Q := fun _ => True) (fun _ u _ ht => ht.updatePageInfo u.1 u.2)
    (fun _ _ => trivial) Tables.sound_init

/-- An update of one page does not change what another page sends. -/
theorem pagePayload_updatePageInfo {page q : Page} (h : q ≠ page) (env : ScriptEnv) (t : Tables)
    (hostPage : Int) :
    pagePayload q (updatePageInfo env page t).2 hostPage = pagePayload q t hostPage := by
  have hupdated := updated_updatePageInfo env page t
  generalize (updatePageInfo env page t).2 = t' at hupdated ⊢
  cases hupdated with
  | basicInfo b hb => cases q <;> first | rfl | exact absurd rfl h
  | ports p hp => cases q <;> first | rfl | exact absurd rfl h
  | wan w => cases q <;> first | rfl | exact absurd rfl h
  | wifi w hw => cases q <;> first | rfl | exact absurd rfl h
  | hosts a n => cases q <;> first | rfl | exact absurd rfl h

/-- What every update keeps, `page_update` keeps. -/
theorem updatedTables_invariant {P : Tables → Prop} {env : ScriptEnv}
    (h : ∀ page t, P t → P (updatePageInfo env page t).2) (page : Page) {t : Tables} (ht : P t) :
    P (updatedTables env page t) := by
  cases page with
  | wan => exact h .wifi _ (h .wan _ ht)
  | basicInfo => exact h _ _ ht
  | ports => exact h _ _ ht
  | wifi => exact h _ _ ht
  | hosts => exact h _ _ ht

/-- `update_all_info` updates one page after the other. -/
theorem updateAllInfo_snd (env : ScriptEnv) (t : Tables) :
    (updateAllInfo env t).2 =
      [Page.basicInfo, .ports, .wan, .wifi, .hosts].foldl
        (fun t page => (updatePageInfo env page t).2) t := rfl

/-- What every update keeps, `update_all_info` keeps. -/
theorem updateAllInfo_invariant {P : Tables → Prop} {env : ScriptEnv}
    (h : ∀ page t, P t → P (updatePageInfo env page t).2) {t : Tables} (ht : P t) :
    P (updateAllInfo env t).2 :=
  h .hosts _ (h .wifi _ (h .wan _ (h .ports _ (h .basicInfo _ ht))))

/-- `page_update` changes only what the next refresh sends. -/
theorem pagePayload_updatedTables {page q : Page} (h : q ∉ refreshedPages page) (env : ScriptEnv)
    (t : Tables) (hostPage : Int) :
    pagePayload q (updatedTables env page t) hostPage = pagePayload q t hostPage := by
  have hne : q ≠ page := by
    intro heq
    exact h (heq ▸ mem_refreshedPages q)
  cases page with
  | wan =>
    have hwifi : q ≠ .wifi := by
      intro heq
      exact h (heq ▸ by decide)
    show pagePayload q (updatePageInfo env .wifi (updatePageInfo env .wan t).2).2 hostPage = _
    rw [pagePayload_updatePageInfo hwifi, pagePayload_updatePageInfo hne]
  | basicInfo => exact pagePayload_updatePageInfo hne env t hostPage
  | ports => exact pagePayload_updatePageInfo hne env t hostPage
  | wifi => exact pagePayload_updatePageInfo hne env t hostPage
  | hosts => exact pagePayload_updatePageInfo hne env t hostPage

end K3ScreenCtrl
