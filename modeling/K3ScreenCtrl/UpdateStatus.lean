import K3ScreenCtrl.InfoCenter

/-!
# What a status says

`update_storage_from_script` reports success when the tokenizer stopped at the
end of the output.  The tokenizer stops there as soon as the output has no more
fields than there are stores, so an output that is too short looks like one
that fits, and the stores behind its fields keep what an older output left in
them.

The end of the output is looked up in a block that was freed before, so the
status also depends on what `free` wrote there.

`reportsSnapshot_iff` says when the status tells a complete snapshot from any
other output.
-/

namespace K3ScreenCtrl

open CString Pieces

/-- The fields of an output: its lines, the last one terminated or not. -/
def ScriptOutput.fields (out : ScriptOutput) : List (List UInt8) := pieces NEWLINE out.str

/-- The offset in an output at which the tokenizer stops. -/
def stopOffset (out : ScriptOutput) (stores : Nat) : Nat :=
  out.str.length - (afterPieces NEWLINE stores out.str).length

/-- If all fields have a store, the tokenizer stops at the end of the output. -/
theorem stopOffset_of_le {out : ScriptOutput} {stores : Nat} (h : out.fields.length ≤ stores) :
    stopOffset out stores = out.str.length := by
  have hnil : afterPieces NEWLINE stores out.str = [] := afterPieces_eq_nil_iff.mpr h
  rw [stopOffset, hnil, List.length_nil, Nat.sub_zero]

/-- Otherwise it stops before a byte of the output, which is no NUL. -/
theorem stopOffset_of_lt {out : ScriptOutput} {stores : Nat} (h : stores < out.fields.length) :
    out.str.getD (stopOffset out stores) 0 ≠ 0 := by
  have hne : afterPieces NEWLINE stores out.str ≠ [] := by
    intro hnil
    have hle : out.fields.length ≤ stores := afterPieces_eq_nil_iff.mp hnil
    omega
  obtain ⟨front, hfront⟩ := afterPieces_suffix (d := NEWLINE) stores out.str
  have hpos : 0 < (afterPieces NEWLINE stores out.str).length := List.length_pos_iff.mpr hne
  have hlen : front.length + (afterPieces NEWLINE stores out.str).length = out.str.length := by
    rw [← List.length_append, hfront]
  have hin : stopOffset out stores < out.str.length := by
    unfold stopOffset
    omega
  intro hzero
  rw [List.getD_eq_getElem?_getD, List.getElem?_eq_getElem hin, Option.getD_some] at hzero
  exact out.nul_not_mem (hzero ▸ List.getElem_mem hin)

/-- The status, in terms of the number of fields and of the freed block. -/
theorem updateStorageFromScript_success_iff (out : ScriptOutput) (overlay : Nat → Option UInt8)
    (stores : List (TokenStore Tables)) (t : Tables) :
    (updateStorageFromScript { output := some out, overlay := overlay } stores t).1 = .success ↔
      (out.fields.length ≤ stores.length ∧ (overlay out.str.length).getD 0 = 0) ∨
        (stores.length < out.fields.length ∧
          overlay (stopOffset out stores.length) = some 0) := by
  have hstatus : (updateStorageFromScript { output := some out, overlay := overlay } stores t).1 =
      .success ↔ (overlay (stopOffset out stores.length)).getD
        (out.str.getD (stopOffset out stores.length) 0) = 0 := by
    rw [updateStorageFromScript_of_output rfl]
    show (if (overlay (stopOffset out stores.length)).getD
      (out.str.getD (stopOffset out stores.length) 0) = 0 then Status.success
        else Status.failure) = .success ↔ _
    split
    · next h => exact ⟨fun _ => h, fun _ => rfl⟩
    · next h =>
      refine ⟨fun hs => ?_, fun hz => absurd hz h⟩
      cases hs
  rw [hstatus]
  by_cases hle : out.fields.length ≤ stores.length
  · have hend : out.str.getD out.str.length 0 = 0 := by simp
    have hnlt : ¬ stores.length < out.fields.length := by omega
    rw [stopOffset_of_le hle, hend]
    simp [hle, hnlt]
  · have hlt : stores.length < out.fields.length := by omega
    have hne := stopOffset_of_lt hlt
    generalize out.str.getD (stopOffset out stores.length) 0 = b at hne ⊢
    cases overlay (stopOffset out stores.length) with
    | none => simp [hle, hne]
    | some b => simp [hle, hlt]

/-- The updater reports success exactly for an output with one field for each
store. -/
def ReportsSnapshot (out : ScriptOutput) (stores : List (TokenStore Tables))
    (result : Status × Tables) : Prop :=
  result.1 = .success ↔ out.fields.length = stores.length

/-- The status is right exactly when `free` leaves a NUL at the end of an output
that fits, overwrites the end of one that is too short with another byte, and
writes no NUL at the first byte of what is too much. -/
theorem reportsSnapshot_iff (out : ScriptOutput) (overlay : Nat → Option UInt8)
    (stores : List (TokenStore Tables)) (t : Tables) :
    ReportsSnapshot out stores
        (updateStorageFromScript { output := some out, overlay := overlay } stores t) ↔
      (out.fields.length = stores.length ∧ (overlay out.str.length).getD 0 = 0) ∨
        (out.fields.length < stores.length ∧ (overlay out.str.length).getD 0 ≠ 0) ∨
        (stores.length < out.fields.length ∧
          overlay (stopOffset out stores.length) ≠ some 0) := by
  rw [ReportsSnapshot, updateStorageFromScript_success_iff]
  rcases Nat.lt_trichotomy out.fields.length stores.length with hlt | heq | hgt
  · have hne : out.fields.length ≠ stores.length := by omega
    have hle : out.fields.length ≤ stores.length := by omega
    have hnlt : ¬ stores.length < out.fields.length := by omega
    simp [hlt, hne, hle, hnlt]
  · simp [heq]
  · have hne : out.fields.length ≠ stores.length := by omega
    have hle : ¬ out.fields.length ≤ stores.length := by omega
    have hnlt : ¬ out.fields.length < stores.length := by omega
    simp [hgt, hne, hle, hnlt]

/-- With a `free` that leaves the block alone, the status is wrong exactly for
an output that is too short. -/
theorem reportsSnapshot_of_untouched (out : ScriptOutput) (stores : List (TokenStore Tables))
    (t : Tables) :
    ReportsSnapshot out stores
        (updateStorageFromScript { output := some out, overlay := fun _ => none } stores t) ↔
      stores.length ≤ out.fields.length := by
  rw [ReportsSnapshot, updateStorageFromScript_success_iff]
  simp only [Option.getD_none, and_true, reduceCtorEq, and_false, or_false]
  omega

/-- A WAN script that stops after its first line: the update succeeds, with the
speeds of an older output. -/
theorem reportsSnapshot_counterexample :
    ¬ ∀ (out : ScriptOutput) (overlay : Nat → Option UInt8) (stores : List (TokenStore Tables))
        (t : Tables), ReportsSnapshot out stores
          (updateStorageFromScript { output := some out, overlay := overlay } stores t) := by
  intro hall
  have hstatus := hall (.ofText [0x31, 0x0a] (by decide) (by decide)) (fun _ => none)
    (wanInfoMembers.map (.at gWanInfo)) .init
  rw [reportsSnapshot_of_untouched] at hstatus
  exact absurd hstatus (by decide)

end K3ScreenCtrl
