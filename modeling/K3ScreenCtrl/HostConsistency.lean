import K3ScreenCtrl.HostList
import K3ScreenCtrl.Lib.Run
import K3ScreenCtrl.TableInvariants

/-!
# The host table between updates

`update_host_info` writes the count before it frees the old block, allocates a
new one and fills it, and it leaves through five exits.  `request_update_hosts_paged`
reads as many records as the count says.

`HostState` adds to the tables the number of records of the live block that
were filled completely, and `recordsStored` counts them as the updater goes.
`record_of_stored` is what that means: such a record has nothing left of what
the block held before.

* `hostsConsistent_updateStep_iff` is one update: the count stays at most that
  number on every exit but one.
* `hostPagePayload_of_granted` is what the screen has of it: a host page carries
  nothing that was in the block before.
* `hostsConsistent_iff` is every sequence of updates.
-/

namespace K3ScreenCtrl

open CString Pieces

/-! ## Stored records -/

/-- The number of tokens that `tokenize_and_store` hands to `n` stores: each
store counts its calls. -/
def tokensStored (n : Nat) (str : List UInt8) : Nat :=
  (tokenizeAndStore str NEWLINE (List.replicate n (.stringNew fun _ k => k + 1)) 0).2

/-- The records that get all four tokens in the `for` loop of
`update_host_info`. -/
def recordsStoredLoop : Nat → Nat → List UInt8 → Tables → Nat
  | 0, _, _, _ => 0
  | rounds + 1, i, currPos, t =>
    let stopped := tokenizeAndStore currPos NEWLINE (hostInfoTokens i) t
    (if tokensStored 4 currPos = 4 then 1 else 0) +
      if stopped.1 = [] then 0 else recordsStoredLoop rounds (i + 1) stopped.1 stopped.2

/-- The completely stored records of the live block after an update, with `old`
of them before. -/
def recordsStored (run : ScriptRun) (hostBlock : Option (Nat → HostInfoSingle)) (t : Tables)
    (old : Nat) : Nat :=
  match run.output with
  | none => old
  | some out =>
    let counted := tokenizeAndStore out.str NEWLINE numberToken t
    let elements := counted.2.gHostInfoElements.toNat
    if elements = 0 then old
    else
      match hostBlock with
      | none => 0
      | some _ => recordsStoredLoop elements 0 counted.1 counted.2

theorem tokensStored_eq (n : Nat) (str : List UInt8) :
    tokensStored n str = min n (pieces NEWLINE str).length := by
  have hcount : ∀ (tokens : List (List UInt8)) (k : Nat),
      storeTokens (List.replicate n (TokenStore.stringNew fun _ k => k + 1)) tokens k =
        k + min n tokens.length := by
    induction n with
    | zero =>
      intro tokens k
      rw [List.replicate_zero, storeTokens_nil, Nat.zero_min, Nat.add_zero]
    | succ n ih =>
      intro tokens k
      cases tokens with
      | nil => rw [storeTokens_nil_right, List.length_nil, Nat.min_zero, Nat.add_zero]
      | cons token tokens =>
        rw [List.replicate_succ, storeTokens_cons, ih, List.length_cons]
        show k + 1 + min n tokens.length = k + min (n + 1) (tokens.length + 1)
        omega
  rw [tokensStored, tokenizeAndStore_eq]
  show storeTokens _ _ 0 = _
  rw [hcount, Nat.zero_add]

/-- The loop stores as many records as there are groups of four lines. -/
theorem recordsStoredLoop_eq (rounds i : Nat) (currPos : List UInt8) (t : Tables) :
    recordsStoredLoop rounds i currPos t =
      min rounds ((pieces NEWLINE currPos).length / 4) := by
  induction rounds generalizing i currPos t with
  | zero => rw [recordsStoredLoop, Nat.zero_min]
  | succ rounds ih =>
    rw [recordsStoredLoop, tokenizeAndStore_eq, tokensStored_eq]
    show (if min 4 (pieces NEWLINE currPos).length = 4 then 1 else 0) +
      (if afterPieces NEWLINE 4 currPos = [] then 0
        else recordsStoredLoop rounds (i + 1) (afterPieces NEWLINE 4 currPos) _) = _
    rw [ih, pieces_afterPieces, List.length_drop]
    have hstop : afterPieces NEWLINE 4 currPos = [] ↔ (pieces NEWLINE currPos).length ≤ 4 :=
      afterPieces_eq_nil_iff
    by_cases hlast : (pieces NEWLINE currPos).length ≤ 4
    · rw [if_pos (hstop.mpr hlast)]
      split <;> omega
    · rw [if_neg (fun h => hlast (hstop.mp h)), if_pos (by omega)]
      omega

/-- The records stored by an update, in terms of the lines of its output. -/
theorem recordsStored_eq {run : ScriptRun} {out : ScriptOutput} (h : run.output = some out)
    (hostBlock : Option (Nat → HostInfoSingle)) (t : Tables) (old : Nat) :
    recordsStored run hostBlock t old =
      let lines := pieces NEWLINE out.str
      let n := announcedHosts t.gHostInfoElements lines
      if n.toNat = 0 then old
      else
        match hostBlock with
        | none => 0
        | some _ => min n.toNat (lines.tail.length / 4) := by
  have hrest : pieces NEWLINE (afterPieces NEWLINE 1 out.str) = (pieces NEWLINE out.str).tail := by
    rw [pieces_afterPieces, List.drop_one]
  rw [recordsStored, h]
  simp only [tokenizeAndStore_eq, storeTokens_numberToken]
  split
  · rfl
  · cases hostBlock with
    | none => rfl
    | some record =>
      show recordsStoredLoop _ 0 (afterPieces NEWLINE 1 out.str) _ = _
      rw [recordsStoredLoop_eq, hrest]

/-- Four tokens leave nothing of the record before. -/
theorem storeRecord_eq_of_four {tokens : List (List UInt8)} (h : 4 ≤ tokens.length)
    (r r' : HostInfoSingle) : storeRecord tokens r = storeRecord tokens r' := by
  match tokens, h with
  | name :: download :: upload :: logo :: rest, _ =>
    have hname : storeString name r.hostname = storeString name r'.hostname := by
      apply CharArray.ext
      rw [storeString_bytes (by omega), storeString_bytes (by omega)]
    rw [storeRecord_cons, storeRecord_cons, hname]

/-- A record stored by an update that allocates has nothing left of what the
block held before. -/
theorem record_of_stored {run : ScriptRun} {out : ScriptOutput} (hrun : run.output = some out)
    (record record' : Nat → HostInfoSingle) (t : Tables) (old : Nat)
    (hcount : (announcedHosts t.gHostInfoElements (pieces NEWLINE out.str)).toNat ≠ 0) {j : Nat}
    (hj : j < recordsStored run (some record) t old) :
    readHost (updateHostInfo run (some record) t).2.gHostInfoArray j =
      readHost (updateHostInfo run (some record') t).2.gHostInfoArray j := by
  rw [recordsStored_eq hrun] at hj
  rw [updateHostInfo_eq hrun, updateHostInfo_eq hrun]
  simp only [if_neg hcount] at hj ⊢
  have hfour : 4 ≤ ((pieces NEWLINE out.str).tail.drop (4 * (j - 0))).length := by
    rw [List.length_drop]
    omega
  simp only [readHost, size_fillHosts, record_fillHosts, Int.toNat_natCast]
  rw [storeRecord_eq_of_four hfour (record j) (record' j)]
  by_cases hin : 0 ≤ j ∧ j < 0 +
      (announcedHosts t.gHostInfoElements (pieces NEWLINE out.str)).toNat
  · simp only [if_pos hin]
  · omega

/-! ## One update -/

/-- The tables, and the completely stored records of the live block. -/
structure HostState where
  tables : Tables
  stored : Nat

def HostState.init : HostState where
  tables := Tables.init
  stored := 0

/-- What one call of `update_host_info` meets. -/
structure HostCall where
  run : ScriptRun
  hostBlock : Option (Nat → HostInfoSingle)

/-- One call of `update_host_info`. -/
def updateStep (s : HostState) (call : HostCall) : Option HostState :=
  some
    { tables := (updateHostInfo call.run call.hostBlock s.tables).2
      stored := recordsStored call.run call.hostBlock s.tables s.stored }

/-- The completely stored records behind the pointer: none if it is null. -/
def HostState.liveRecords (s : HostState) : Nat :=
  match s.tables.gHostInfoArray with
  | none => 0
  | some _ => s.stored

/-- The indices at which `request_update_hosts_paged` reads `hosts`. -/
def hostReads (len start : Int) : List Int :=
  (List.range (copylen len start).toNat).map fun i : Nat => start + i

/-- The count is at most the number of completely stored records, and a host
page reads only those. -/
structure HostsConsistent (s : HostState) : Prop where
  elements_le : s.tables.gHostInfoElements.toNat ≤ s.liveRecords
  reads_lt : ∀ hostPage : Nat,
    ∀ k ∈ hostReads s.tables.gHostInfoElements.toInt32.toInt (hostPage * HOSTS_PER_PAGE),
      0 ≤ k ∧ k < s.liveRecords

/-- The call is granted its block, or does not ask for one. -/
def Granted (s : HostState) (call : HostCall) : Prop :=
  call.hostBlock.isSome ∨
    ∀ out, call.run.output = some out →
      announcedHosts s.tables.gHostInfoElements (pieces NEWLINE out.str) = 0

/-- A count that is small enough keeps every host page inside the stored
records. -/
theorem hostReads_lt {n : UInt32} {stored : Nat} (h : n.toNat ≤ stored) (hostPage : Nat) :
    ∀ k ∈ hostReads n.toInt32.toInt (hostPage * HOSTS_PER_PAGE), 0 ≤ k ∧ k < stored := by
  intro k hk
  obtain ⟨i, hi, rfl⟩ := List.mem_map.mp hk
  have hlt := List.mem_range.mp hi
  have hcount : n.toInt32.toInt ≤ n.toNat := by
    rw [toInt_toInt32]
    split <;> omega
  unfold copylen HOSTS_PER_PAGE at hlt
  unfold HOSTS_PER_PAGE
  split at hlt <;> omega

theorem hostsConsistent_of_elements_le {s : HostState}
    (h : s.tables.gHostInfoElements.toNat ≤ s.liveRecords) : HostsConsistent s :=
  ⟨h, hostReads_lt h⟩

/-- An update that gets its block counts completely stored records only. -/
theorem elements_le_recordsStored {run : ScriptRun} {out : ScriptOutput}
    (hrun : run.output = some out) (record : Nat → HostInfoSingle) (t : Tables) (old : Nat)
    (hcount : (announcedHosts t.gHostInfoElements (pieces NEWLINE out.str)).toNat ≠ 0) :
    (updateHostInfo run (some record) t).2.gHostInfoElements.toNat ≤
      recordsStored run (some record) t old := by
  simp only [updateHostInfo_eq hrun, recordsStored_eq hrun, if_neg hcount]
  unfold countedRecords
  split
  · omega
  · rw [UInt32.toNat_ofNat']
    omega

/-- One update of a consistent table leaves a consistent one exactly when it is
granted its block or does not ask for one. -/
theorem hostsConsistent_updateStep_iff {s s' : HostState} {call : HostCall}
    (hs : s.tables.gHostInfoElements.toNat ≤ s.liveRecords)
    (hstep : updateStep s call = some s') : HostsConsistent s' ↔ Granted s call := by
  cases hstep
  cases hout : call.run.output with
  | none =>
    refine ⟨fun _ => Or.inr fun out hsome => ?_, fun _ => hostsConsistent_of_elements_le ?_⟩
    · rw [hout] at hsome
      cases hsome
    · simp only [updateHostInfo, recordsStored, hout]
      exact hs
  | some out =>
    have hgranted : Granted s call ↔ call.hostBlock.isSome ∨
        announcedHosts s.tables.gHostInfoElements (pieces NEWLINE out.str) = 0 := by
      unfold Granted
      rw [hout]
      simp
    rw [hgranted]
    by_cases hzero :
        (announcedHosts s.tables.gHostInfoElements (pieces NEWLINE out.str)).toNat = 0
    · -- the count is 0, and the block stays
      have hn : announcedHosts s.tables.gHostInfoElements (pieces NEWLINE out.str) = 0 :=
        UInt32.toNat_inj.mp hzero
      refine ⟨fun _ => Or.inr hn, fun _ => hostsConsistent_of_elements_le ?_⟩
      simp only [updateHostInfo_eq hout, if_pos hzero]
      omega
    · have hn : ¬ announcedHosts s.tables.gHostInfoElements (pieces NEWLINE out.str) = 0 := by
        intro heq
        rw [heq] at hzero
        exact hzero rfl
      cases call.hostBlock with
      | none =>
        -- the count stays behind without a block
        refine ⟨fun h => ?_, fun h => ?_⟩
        · have hle := h.elements_le
          simp only [HostState.liveRecords, updateHostInfo_eq hout, if_neg hzero] at hle
          omega
        · rcases h with h | h
          · cases h
          · exact absurd h hn
      | some record =>
        refine ⟨fun _ => Or.inl rfl, fun _ => hostsConsistent_of_elements_le ?_⟩
        have hle := elements_le_recordsStored hout record s.tables s.stored hzero
        simp only [HostState.liveRecords, updateHostInfo_eq hout, if_neg hzero] at hle ⊢
        exact hle

/-! ## What a host page carries -/

/-- A host request depends only on the records at `hostReads`. -/
theorem requestUpdateHostsPaged_congr {hosts hosts' : Option HostArray} {len start : Int}
    (h : ∀ k ∈ hostReads len start, readHost hosts k = readHost hosts' k) :
    requestUpdateHostsPaged hosts len start = requestUpdateHostsPaged hosts' len start := by
  have hcopies (l : List Nat) : (∀ i ∈ l, start + (i : Int) ∈ hostReads len start) → ∀ info,
      l.foldlM (copyHost hosts start) info = l.foldlM (copyHost hosts' start) info := by
    induction l with
    | nil =>
      intro _ info
      rfl
    | cons i l ih =>
      intro hmem info
      have hcopy : copyHost hosts start info i = copyHost hosts' start info i := by
        rw [copyHost, copyHost, h _ (hmem i List.mem_cons_self)]
      have htail := ih fun j hj => hmem j (List.mem_cons_of_mem i hj)
      simp only [List.foldlM_cons, hcopy, htail]
  have hreads : ∀ i ∈ List.range (copylen len start).toNat,
      start + (i : Int) ∈ hostReads len start :=
    fun i hi => List.mem_map.mpr ⟨i, hi, rfl⟩
  rw [requestUpdateHostsPaged, requestUpdateHostsPaged, hcopies _ hreads]

/-- After an update that gets its block, no host page carries anything that the
block held before. -/
theorem hostPagePayload_of_granted {run : ScriptRun} {out : ScriptOutput}
    (hrun : run.output = some out) (record record' : Nat → HostInfoSingle) (t : Tables)
    (hcount : (announcedHosts t.gHostInfoElements (pieces NEWLINE out.str)).toNat ≠ 0)
    (hostPage : Nat) :
    pagePayload .hosts (updateHostInfo run (some record) t).2 hostPage =
      pagePayload .hosts (updateHostInfo run (some record') t).2 hostPage := by
  have helements : (updateHostInfo run (some record) t).2.gHostInfoElements =
      (updateHostInfo run (some record') t).2.gHostInfoElements := by
    rw [gHostInfoElements_updateHostInfo, gHostInfoElements_updateHostInfo]
    rfl
  have hstored := elements_le_recordsStored hrun record t 0 hcount
  show requestUpdateHostsPaged _ _ _ = requestUpdateHostsPaged _ _ _
  rw [← helements]
  apply requestUpdateHostsPaged_congr
  intro k hk
  obtain ⟨hnonneg, hlt⟩ := hostReads_lt hstored hostPage k hk
  obtain ⟨j, rfl⟩ := Int.eq_ofNat_of_zero_le hnonneg
  exact record_of_stored hrun record record' t 0 hcount (Int.ofNat_lt.mp hlt)

/-! ## Every sequence of updates -/

/-- After every update of a sequence the count is at most the number of stored
records exactly when no update is refused the block that it asks for. -/
theorem hostsConsistent_iff (calls : List HostCall) :
    Run.Every updateStep (fun _ _ s' => HostsConsistent s') HostState.init calls ↔
      Run.Every updateStep (fun s call _ => Granted s call) HostState.init calls := by
  refine Run.every_iff (P := fun s => s.tables.gHostInfoElements.toNat ≤ s.liveRecords) ?_ ?_ ?_
  · intro s call s' hs hstep
    exact hostsConsistent_updateStep_iff hs hstep
  · intro s call s' hs hstep hgranted
    exact ((hostsConsistent_updateStep_iff hs hstep).mpr hgranted).elements_le
  · exact Nat.le_refl 0

/-- One host is announced, and the block for it is refused: the count is 1, and
there is no table. -/
theorem hostsConsistent_counterexample :
    ¬ ∀ calls : List HostCall,
        Run.Every updateStep (fun _ _ s' => HostsConsistent s') HostState.init calls := by
  intro hall
  have h := hall [⟨.ofText [0x31, 0x0a] (by decide) (by decide), none⟩]
  have hle := (h _ rfl).1.elements_le
  exact absurd hle (by decide)

end K3ScreenCtrl
