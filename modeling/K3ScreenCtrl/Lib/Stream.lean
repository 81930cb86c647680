import Mathlib.Data.List.Basic

/-!
# Items on a byte stream

Items are written one behind the other, and a reader gets the stream in reads
that need not respect where an item ends.

`Coalesced` describes a reader that looks at the first item of what it holds and
throws the rest of that read away: the reads fall into groups, each of which
brings whole items, and of each group only the first item is taken.
`exists_crossing` finds the read in which an item ends, and
`exists_whole_items` cuts what that read brings more into whole items and the
beginning of the next one.
-/

namespace Stream

variable {α β : Type} {write : β → List α}

/-- Items one behind the other. -/
def joined (write : β → List α) (items : List β) : List α := items.flatMap write

@[simp] theorem joined_cons (item : β) (items : List β) :
    joined write (item :: items) = write item ++ joined write items := rfl

/-- Reads that bring whole items in groups.  The last read of a group brings the
end of its first item, and all the other items of the group behind it.  The
last list has the first item of every group. -/
inductive Coalesced (write : β → List α) : List (List α) → List β → List β → Prop
  | nil : Coalesced write [] [] []
  | group (init : List (List α)) (more : List β) {rest : List (List α)} {last : List α} {item : β}
      {items firsts : List β}
      (hshort : init.flatten.length < (write item).length)
      (hwhole : init.flatten ++ last = write item ++ joined write more)
      (hrest : Coalesced write rest items firsts) :
      Coalesced write (init ++ last :: rest) (item :: (more ++ items)) (item :: firsts)

/-- The read that brings the `n`-th symbol. -/
theorem exists_crossing {reads : List (List α)} {n : Nat} (hpos : 0 < n)
    (hn : n ≤ reads.flatten.length) :
    ∃ init last rest, reads = init ++ last :: rest ∧ init.flatten.length < n ∧
      n ≤ (init.flatten ++ last).length := by
  induction reads generalizing n with
  | nil =>
    rw [List.flatten_nil, List.length_nil] at hn
    omega
  | cons read reads ih =>
    by_cases hfirst : n ≤ read.length
    · exact ⟨[], read, reads, rfl, hpos, hfirst⟩
    · rw [List.flatten_cons, List.length_append] at hn
      obtain ⟨init, last, rest, rfl, hlt, hle⟩ := ih (n := n - read.length) (by omega) (by omega)
      refine ⟨read :: init, last, rest, rfl, ?_, ?_⟩
      · rw [List.flatten_cons, List.length_append]
        omega
      · rw [List.length_append] at hle
        rw [List.flatten_cons, List.length_append, List.length_append]
        omega

/-- A string at least as long as another prefix of the same text has it as a
prefix. -/
theorem exists_append_of_length_le {a b c d : List α} (h : a ++ b = c ++ d)
    (hle : c.length ≤ a.length) : ∃ e, a = c ++ e ∧ d = e ++ b := by
  obtain ⟨e, rfl⟩ := List.prefix_of_prefix_length_le (List.prefix_append c d)
    (h ▸ List.prefix_append a b) hle
  rw [List.append_assoc] at h
  exact ⟨e, rfl, (List.append_cancel_left h).symm⟩

/-- The first part of a stream holds whole items and the beginning of one. -/
theorem exists_whole_items {items : List β} {front back : List α}
    (h : front ++ back = joined write items) :
    ∃ whole items' part, items = whole ++ items' ∧ front = joined write whole ++ part ∧
      part ++ back = joined write items' ∧
      (part = [] ∨ ∃ item items'', items' = item :: items'' ∧
        part.length < (write item).length) := by
  induction items generalizing front with
  | nil =>
    obtain ⟨rfl, rfl⟩ := List.append_eq_nil_iff.mp h
    exact ⟨[], [], [], rfl, rfl, rfl, Or.inl rfl⟩
  | cons item items ih =>
    by_cases hlen : (write item).length ≤ front.length
    · obtain ⟨front', rfl, hrest⟩ := exists_append_of_length_le h hlen
      obtain ⟨whole, items', part, rfl, rfl, hpart, hcut⟩ := ih hrest.symm
      exact ⟨item :: whole, items', part, rfl, by simp, hpart, hcut⟩
    · exact ⟨[], item :: items, front, rfl, rfl, h, Or.inr ⟨item, items, rfl, by omega⟩⟩

end Stream
