import Mathlib.Data.List.Basic
import Mathlib.Logic.Equiv.Defs

/-!
# Layouts

A layout says how a value is written as symbols, and how it is read from the
front of a list of symbols.  It carries the proofs that these fit together: what
was written is read back, whatever follows, and what is read was written.  So
the layout of a record is as good as the layouts of its fields.

`parse` and `parseMany` read a whole list as one value or as a sequence of
values.  `parse_eq_some_iff` and `parseMany_eq_some_iff` say that they accept
exactly what was written.
-/

variable {β α γ : Type}

structure Layout (β α : Type) where
  write : α → List β
  read : List β → Option (α × List β)
  read_write : ∀ a rest, read (write a ++ rest) = some (a, rest)
  write_read : ∀ l a rest, read l = some (a, rest) → write a ++ rest = l

namespace Layout

/-- One symbol. -/
def symbol : Layout β β where
  write := fun b => [b]
  read := fun l =>
    match l with
    | [] => none
    | b :: rest => some (b, rest)
  read_write := fun _ _ => rfl
  write_read := by
    intro l a rest h
    split at h
    · cases h
    · cases h
      rfl

/-- No symbol. -/
def empty : Layout β Unit where
  write := fun _ => []
  read := fun l => some ((), l)
  read_write := fun _ _ => rfl
  write_read := by
    intro l a rest h
    cases h
    rfl

/-- One value behind another. -/
def pair (L : Layout β α) (M : Layout β γ) : Layout β (α × γ) where
  write := fun v => L.write v.1 ++ M.write v.2
  read := fun l =>
    (L.read l).bind fun (a, rest) => (M.read rest).map fun (c, rest) => ((a, c), rest)
  read_write := by
    intro v rest
    rw [List.append_assoc, L.read_write, Option.bind_some]
    dsimp only
    rw [M.read_write, Option.map_some]
  write_read := by
    intro l v rest h
    obtain ⟨⟨a, middle⟩, ha, h⟩ := Option.bind_eq_some_iff.mp h
    obtain ⟨⟨c, last⟩, hc, heq⟩ := Option.map_eq_some_iff.mp h
    cases heq
    rw [List.append_assoc, M.write_read _ _ _ hc, L.write_read _ _ _ ha]

/-- The values that `f` embeds into the values of a layout. -/
def narrow (L : Layout β γ) (f : α → γ) (g : γ → Option α) (hg : ∀ a, g (f a) = some a)
    (hf : ∀ c a, g c = some a → f a = c) : Layout β α where
  write := fun a => L.write (f a)
  read := fun l => (L.read l).bind fun (c, rest) => (g c).map fun a => (a, rest)
  read_write := by
    intro a rest
    rw [L.read_write, Option.bind_some]
    dsimp only
    rw [hg, Option.map_some]
  write_read := by
    intro l a rest h
    obtain ⟨⟨c, last⟩, hc, h⟩ := Option.bind_eq_some_iff.mp h
    obtain ⟨a', ha', heq⟩ := Option.map_eq_some_iff.mp h
    cases heq
    rw [hf _ _ ha', L.write_read _ _ _ hc]

/-- The same values under other names. -/
def via (L : Layout β γ) (e : α ≃ γ) : Layout β α :=
  L.narrow e (fun c => some (e.symm c)) (fun a => by rw [e.symm_apply_apply])
    (fun c a h => by rw [← Option.some_inj.mp h, e.apply_symm_apply])

/-- Read `n` values. -/
def readN (L : Layout β α) : Nat → List β → Option (List α × List β)
  | 0, l => some ([], l)
  | n + 1, l =>
    (L.read l).bind fun (a, rest) => (L.readN n rest).map fun (as, rest) => (a :: as, rest)

theorem readN_write (L : Layout β α) (as : List α) (rest : List β) :
    L.readN as.length (as.flatMap L.write ++ rest) = some (as, rest) := by
  induction as with
  | nil => rfl
  | cons a as ih =>
    rw [List.flatMap_cons, List.append_assoc, List.length_cons, readN, L.read_write,
      Option.bind_some]
    dsimp only
    rw [ih, Option.map_some]

theorem write_readN (L : Layout β α) {n : Nat} {l rest : List β} {as : List α}
    (h : L.readN n l = some (as, rest)) : as.length = n ∧ as.flatMap L.write ++ rest = l := by
  induction n generalizing l as with
  | zero =>
    cases h
    exact ⟨rfl, rfl⟩
  | succ n ih =>
    obtain ⟨⟨a, middle⟩, ha, h⟩ := Option.bind_eq_some_iff.mp h
    obtain ⟨⟨as', last⟩, has, heq⟩ := Option.map_eq_some_iff.mp h
    cases heq
    obtain ⟨hlen, hwrite⟩ := ih has
    refine ⟨by rw [List.length_cons, hlen], ?_⟩
    rw [List.flatMap_cons, List.append_assoc, hwrite, L.write_read _ _ _ ha]

/-- An array of `n` values. -/
def array (L : Layout β α) (n : Nat) : Layout β { as : List α // as.length = n } where
  write := fun as => as.1.flatMap L.write
  read := fun l =>
    (L.readN n l).bind fun (as, rest) => if h : as.length = n then some (⟨as, h⟩, rest) else none
  read_write := by
    rintro ⟨as, rfl⟩ rest
    rw [L.readN_write, Option.bind_some]
    exact dif_pos rfl
  write_read := by
    intro l as rest h
    obtain ⟨⟨as', last⟩, has, h⟩ := Option.bind_eq_some_iff.mp h
    obtain ⟨hlen, hwrite⟩ := L.write_readN has
    have hread : some ((⟨as', hlen⟩ : { as : List α // as.length = n }), last) = some (as, rest) :=
      (dif_pos hlen).symm.trans h
    cases hread
    exact hwrite

/-! ## Whole lists -/

/-- Read a list as one value. -/
def parse (L : Layout β α) (l : List β) : Option α :=
  match L.read l with
  | some (a, []) => some a
  | _ => none

/-- A list is read as the value that it was written for, and no other list is
accepted. -/
theorem parse_eq_some_iff (L : Layout β α) {l : List β} {a : α} :
    L.parse l = some a ↔ L.write a = l := by
  constructor
  · intro h
    unfold parse at h
    split at h
    · next hread =>
      cases h
      rw [← L.write_read _ _ _ hread, List.append_nil]
    · cases h
  · rintro rfl
    have hread := L.read_write a []
    rw [List.append_nil] at hread
    rw [parse, hread]

/-- Read a list as a sequence of values.  A value takes at least one symbol, so
`fuel` can be the length of the list. -/
def parseMany (L : Layout β α) : Nat → List β → Option (List α)
  | _, [] => some []
  | 0, _ => none
  | fuel + 1, l => (L.read l).bind fun (a, rest) => (L.parseMany fuel rest).map fun as => a :: as

/-- A list is read as the sequence that it was written for, and no other list is
accepted. -/
theorem parseMany_eq_some_iff (L : Layout β α) (hne : ∀ a, L.write a ≠ []) {fuel : Nat}
    {l : List β} {as : List α} (hfuel : l.length ≤ fuel) :
    L.parseMany fuel l = some as ↔ as.flatMap L.write = l := by
  induction fuel generalizing l as with
  | zero =>
    have hnil : l = [] := List.length_eq_zero_iff.mp (by omega)
    subst hnil
    constructor
    · intro h
      cases h
      rfl
    · intro h
      cases as with
      | nil => rfl
      | cons a as => exact absurd (List.append_eq_nil_iff.mp h).1 (hne a)
  | succ fuel ih =>
    cases l with
    | nil =>
      constructor
      · intro h
        cases h
        rfl
      · intro h
        cases as with
        | nil => rfl
        | cons a as => exact absurd (List.append_eq_nil_iff.mp h).1 (hne a)
    | cons b l =>
      rw [parseMany]
      constructor
      · intro h
        obtain ⟨⟨a, rest⟩, ha, h⟩ := Option.bind_eq_some_iff.mp h
        obtain ⟨as', has, rfl⟩ := Option.map_eq_some_iff.mp h
        have hwrite := L.write_read _ _ _ ha
        have hshort : rest.length ≤ fuel := by
          have hpos := List.length_pos_iff.mpr (hne a)
          have hlen := congrArg List.length hwrite
          rw [List.length_append] at hlen
          omega
        rw [List.flatMap_cons, (ih hshort).mp has, hwrite]
      · intro h
        cases as with
        | nil => cases h
        | cons a as =>
          rw [List.flatMap_cons] at h
          have hpos := List.length_pos_iff.mpr (hne a)
          have hlen := congrArg List.length h
          rw [List.length_append] at hlen
          have hshort : (as.flatMap L.write).length ≤ fuel := by omega
          rw [← h, L.read_write, Option.bind_some]
          dsimp only
          rw [(ih hshort).mpr rfl, Option.map_some]
      · simp

end Layout
