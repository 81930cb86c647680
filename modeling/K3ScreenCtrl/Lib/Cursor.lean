import Mathlib.Data.List.Basic

/-!
# A cursor on a line, and the pages of a list

A cursor is a position below a length.  It moves one to the right or to the
left, stays put at either end, and can jump to a fixed position.  A move to the
left takes back a move to the right that was not at the end, and the other way
round.

`pageOf size l k` is page `k` of a list that is shown `size` entries at a time.
The pages in order are the list (`flatMap_pageOf`).

`drop_flatMap` is about lists of the other kind, that are written out row by
row: it finds the start of a row.
-/

namespace Cursor

inductive Move where
  | right
  | left
  | jump (k : Nat)

/-- The position after a move, on a line of `len` positions. -/
def move (len : Nat) : Move → Nat → Nat
  | .right, i => if i + 1 < len then i + 1 else i
  | .left, i => i - 1
  | .jump k, _ => k

theorem move_right (len i : Nat) : move len .right i = if i + 1 < len then i + 1 else i := rfl

theorem move_left (len i : Nat) : move len .left i = i - 1 := rfl

/-- Jumps stay on the line. -/
def Move.Fits (len : Nat) : Move → Prop
  | .jump k => k < len
  | _ => True

theorem move_lt {len : Nat} {m : Move} (hm : m.Fits len) {i : Nat} (hi : i < len) :
    move len m i < len := by
  cases m with
  | right =>
    rw [move_right]
    split <;> omega
  | left =>
    rw [move_left]
    omega
  | jump k => exact hm

/-- Left takes back right. -/
theorem move_left_right {len i : Nat} (h : move len .right i ≠ i) :
    move len .left (move len .right i) = i := by
  rw [move_right] at h
  rw [move_left, move_right]
  split at h
  · next hlt =>
    rw [if_pos hlt]
    omega
  · exact absurd rfl h

/-- Right takes back left. -/
theorem move_right_left {len i : Nat} (hi : i < len) (h : move len .left i ≠ i) :
    move len .right (move len .left i) = i := by
  rw [move_left] at h
  rw [move_right, move_left, if_pos (by omega)]
  omega

/-! ## Pages -/

variable {α : Type}

/-- Page `k` of a list, `size` entries to a page. -/
def pageOf (size : Nat) (l : List α) (k : Nat) : List α := (l.drop (size * k)).take size

theorem length_pageOf (size : Nat) (l : List α) (k : Nat) :
    (pageOf size l k).length = min size (l.length - size * k) := by
  rw [pageOf, List.length_take, List.length_drop]

/-- Reading a page record by record. -/
theorem map_range_getD_eq_pageOf (size k : Nat) (l : List α) (a : α) :
    (List.range (min size (l.length - size * k))).map (fun i => l.getD (size * k + i) a) =
      pageOf size l k := by
  apply List.ext_getElem
  · rw [length_pageOf, List.length_map, List.length_range]
  · intro i hi _
    rw [List.length_map, List.length_range] at hi
    have hin : size * k + i < l.length := by omega
    simp [pageOf, List.getD_eq_getElem?_getD, hin]

/-- The first `m` pages are the first `size * m` entries. -/
theorem flatMap_pageOf_take (size : Nat) (l : List α) (m : Nat) :
    (List.range m).flatMap (pageOf size l) = l.take (size * m) := by
  induction m with
  | zero => simp
  | succ m ih =>
    rw [List.range_succ, List.flatMap_append, ih, List.flatMap_singleton, pageOf, Nat.mul_succ,
      List.take_add]

/-- Enough pages are the whole list. -/
theorem flatMap_pageOf {size m : Nat} {l : List α} (h : l.length ≤ size * m) :
    (List.range m).flatMap (pageOf size l) = l := by
  rw [flatMap_pageOf_take, List.take_of_length_le h]

/-! ## Rows -/

/-- The length of a list of rows of equal length. -/
theorem length_flatMap {β : Type} {f : α → List β} {width : Nat} (h : ∀ a, (f a).length = width)
    (l : List α) : (l.flatMap f).length = width * l.length := by
  induction l with
  | nil => rfl
  | cons a l ih =>
    rw [List.flatMap_cons, List.length_append, h a, ih, List.length_cons, Nat.mul_succ,
      Nat.add_comm]

/-- Where row `j` starts in a list of rows of equal length. -/
theorem drop_flatMap {β : Type} {f : α → List β} {width : Nat} (h : ∀ a, (f a).length = width)
    (l : List α) (j : Nat) : (l.flatMap f).drop (width * j) = (l.drop j).flatMap f := by
  induction j generalizing l with
  | zero => rw [Nat.mul_zero, List.drop_zero, List.drop_zero]
  | succ j ih =>
    cases l with
    | nil => rw [List.drop_nil, List.flatMap_nil, List.drop_nil]
    | cons a l =>
      have hsum : width * (j + 1) = (f a).length + width * j := by
        rw [h a, Nat.mul_succ, Nat.add_comm]
      rw [List.flatMap_cons, hsum, ← List.drop_drop, List.drop_left, ih, List.drop_succ_cons]

/-- Row `j` of a list of rows of equal length. -/
theorem take_drop_flatMap {β : Type} {f : α → List β} {width : Nat}
    (h : ∀ a, (f a).length = width) {l : List α} {j : Nat} {a : α} (ha : l[j]? = some a) :
    ((l.flatMap f).drop (width * j)).take width = f a := by
  obtain ⟨hj, hat⟩ := List.getElem?_eq_some_iff.mp ha
  rw [drop_flatMap h, List.drop_eq_getElem_cons hj, List.flatMap_cons, hat, ← h a, List.take_left]

end Cursor
