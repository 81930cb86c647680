import Mathlib.Data.List.Basic

/-!
# The pieces of a delimited string

`pieces d s` are the parts of `s` between its delimiters, without the last
part when that is empty: a delimiter ends a piece, and so does the end of the
string, but the end of the string does not start one.  This is the reading of
a text as a list of lines, in which the last line may lack its newline.

`afterPieces d n s` is what is left of `s` behind its first `n` pieces.  It is
a suffix of `s`, and its pieces are the remaining pieces of `s`, so a consumer
can stop after `n` pieces and go on later (`pieces_afterPieces`).

`render d lines` writes each line with its delimiter; `pieces_render` reads the
lines back.

`referenceSplit d s` says the same with the library's `List.splitOn`, which
keeps the last part also when it is empty; `pieces_eq_referenceSplit` is the
equation of the two.
-/

namespace Pieces

variable {α : Type}

/-- The lines of a text, each with its delimiter. -/
def render (d : α) (lines : List (List α)) : List α :=
  lines.flatMap fun line => line ++ [d]

@[simp] theorem render_nil (d : α) : render d [] = [] := rfl

@[simp] theorem render_cons (d : α) (line : List α) (lines : List (List α)) :
    render d (line :: lines) = line ++ d :: render d lines := by
  simp [render]

variable [DecidableEq α]

/-- The parts of a string between the delimiters, without an empty last one. -/
def pieces (d : α) : List α → List (List α)
  | [] => []
  | x :: xs =>
    if x = d then [] :: pieces d xs
    else
      match pieces d xs with
      | [] => [[x]]
      | p :: ps => (x :: p) :: ps

/-- What is left of a string behind its first `n` pieces. -/
def afterPieces (d : α) : Nat → List α → List α
  | 0, s => s
  | n + 1, s =>
    match s.idxOf? d with
    | none => []
    | some i => afterPieces d n (s.drop (i + 1))

variable {d : α}

@[simp] theorem pieces_nil : pieces d [] = [] := rfl

/-- A string splits at its first delimiter. -/
theorem eq_append_of_idxOf? {s : List α} {i : Nat} (h : s.idxOf? d = some i) :
    s = s.take i ++ d :: s.drop (i + 1) ∧ d ∉ s.take i := by
  obtain ⟨hi, hat, hbefore⟩ := List.idxOf?_eq_some_iff.mp h
  constructor
  · rw [← hat, List.getElem_cons_drop, List.take_append_drop]
  · intro hmem
    obtain ⟨j, hj, hje⟩ := List.mem_take_iff_getElem.mp hmem
    exact hbefore j (by omega) hje

/-- The first delimiter behind a line without one. -/
theorem idxOf?_append_cons {line : List α} (h : d ∉ line) (rest : List α) :
    (line ++ d :: rest).idxOf? d = some line.length := by
  have hlen : line.length < (line ++ d :: rest).length := by simp
  refine List.idxOf?_eq_some_iff.mpr ⟨hlen, by simp, ?_⟩
  intro j hj heq
  rw [List.getElem_append_left hj] at heq
  exact h (heq ▸ List.getElem_mem hj)

/-! ## Pieces -/

/-- A delimiter ends the first piece. -/
theorem pieces_append_cons {line : List α} (h : d ∉ line) (rest : List α) :
    pieces d (line ++ d :: rest) = line :: pieces d rest := by
  induction line with
  | nil => simp [pieces]
  | cons x line ih =>
    have hx : x ≠ d := fun hx => h (by simp [hx])
    have hline : d ∉ line := fun hm => h (List.mem_cons_of_mem x hm)
    rw [List.cons_append, pieces, if_neg hx, ih hline]

/-- A string without a delimiter is one piece. -/
theorem pieces_of_not_mem {s : List α} (hs : s ≠ []) (h : d ∉ s) : pieces d s = [s] := by
  induction s with
  | nil => exact absurd rfl hs
  | cons x s ih =>
    have hx : x ≠ d := fun hx => h (by simp [hx])
    have hs' : d ∉ s := fun hm => h (List.mem_cons_of_mem x hm)
    rw [pieces, if_neg hx]
    cases s with
    | nil => rfl
    | cons y s => rw [ih (List.cons_ne_nil y s) hs']

/-- A string has no piece only if it is empty. -/
theorem pieces_eq_nil_iff {s : List α} : pieces d s = [] ↔ s = [] := by
  cases s with
  | nil => simp
  | cons x s =>
    rw [pieces]
    split
    · simp
    · split <;> simp

/-- The pieces hold nothing that the string does not hold. -/
theorem mem_of_mem_pieces {s p : List α} (hp : p ∈ pieces d s) {x : α} (hx : x ∈ p) : x ∈ s := by
  induction s generalizing p with
  | nil => exact absurd hp List.not_mem_nil
  | cons y s ih =>
    rw [pieces] at hp
    split at hp
    · rcases List.mem_cons.mp hp with rfl | hp
      · exact absurd hx List.not_mem_nil
      · exact List.mem_cons_of_mem y (ih hp hx)
    · split at hp
      · rcases List.mem_singleton.mp hp with rfl
        rcases List.mem_singleton.mp hx with rfl
        exact List.mem_cons_self
      · next q qs hqs =>
        rw [hqs] at ih
        rcases List.mem_cons.mp hp with rfl | hp
        · rcases List.mem_cons.mp hx with rfl | hx
          · exact List.mem_cons_self
          · exact List.mem_cons_of_mem y (ih List.mem_cons_self hx)
        · exact List.mem_cons_of_mem y (ih (List.mem_cons_of_mem q hp) hx)

/-- There are no more pieces than entries. -/
theorem length_pieces_le (s : List α) : (pieces d s).length ≤ s.length := by
  induction s with
  | nil => exact Nat.le_refl 0
  | cons x s ih =>
    rw [pieces, List.length_cons]
    split
    · rw [List.length_cons]
      omega
    · split
      · simp
      · next hps =>
        rw [hps, List.length_cons] at ih
        rw [List.length_cons]
        omega

/-- The lines of a text are its pieces. -/
theorem pieces_render_append {lines : List (List α)} (h : ∀ line ∈ lines, d ∉ line)
    (rest : List α) : pieces d (render d lines ++ rest) = lines ++ pieces d rest := by
  induction lines with
  | nil => simp
  | cons line lines ih =>
    rw [render_cons, List.append_assoc, List.cons_append,
      pieces_append_cons (h line (by simp)), ih fun l hl => h l (List.mem_cons_of_mem line hl),
      List.cons_append]

theorem pieces_render {lines : List (List α)} (h : ∀ line ∈ lines, d ∉ line) :
    pieces d (render d lines) = lines := by
  simpa using pieces_render_append h []

/-! ## The reference split -/

/-- The parts that `List.splitOn` gives, without the last one when that is
empty. -/
def referenceSplit (d : α) (s : List α) : List (List α) :=
  let parts := s.splitOn d
  if parts.getLast? = some [] then parts.dropLast else parts

theorem referenceSplit_of_not_mem {s : List α} (h : d ∉ s) :
    referenceSplit d s = if s = [] then [] else [s] := by
  rw [referenceSplit, List.splitOn_eq_singleton h]
  by_cases hs : s = [] <;> simp [hs]

theorem referenceSplit_append_cons {line : List α} (h : d ∉ line) (rest : List α) :
    referenceSplit d (line ++ d :: rest) = line :: referenceSplit d rest := by
  cases hparts : rest.splitOn d with
  | nil => exact absurd hparts (List.splitOn_ne_nil d rest)
  | cons part parts =>
    rw [referenceSplit, referenceSplit, List.splitOn_append_cons_self_of_not_mem h, hparts]
    simp only [List.getLast?_cons_cons, List.dropLast_cons_cons]
    split <;> rfl

/-- `pieces` is the reference split. -/
theorem pieces_eq_referenceSplit (s : List α) : pieces d s = referenceSplit d s := by
  -- induction on the length: the rest behind the first delimiter is shorter
  induction hn : s.length using Nat.strongRecOn generalizing s with
  | _ n ih =>
    cases hfind : s.idxOf? d with
    | none =>
      have hmem : d ∉ s := List.idxOf?_eq_none_iff.mp hfind
      rw [referenceSplit_of_not_mem hmem]
      by_cases hs : s = []
      · rw [hs, pieces_nil, if_pos rfl]
      · rw [pieces_of_not_mem hs hmem, if_neg hs]
    | some i =>
      have hsplit := eq_append_of_idxOf? hfind
      have hlt : (s.drop (i + 1)).length < n := by
        have hlen := congrArg List.length hsplit.1
        rw [List.length_append, List.length_cons, hn] at hlen
        omega
      rw [hsplit.1, pieces_append_cons hsplit.2, referenceSplit_append_cons hsplit.2,
        ih _ hlt _ rfl]

/-! ## What is left behind some pieces -/

@[simp] theorem afterPieces_zero (s : List α) : afterPieces d 0 s = s := rfl

@[simp] theorem afterPieces_nil (n : Nat) : afterPieces d n [] = [] := by
  cases n <;> rfl

theorem afterPieces_append_cons {line : List α} (h : d ∉ line) (n : Nat) (rest : List α) :
    afterPieces d (n + 1) (line ++ d :: rest) = afterPieces d n rest := by
  have hdrop : (line ++ d :: rest).drop (line.length + 1) = rest := by
    rw [List.drop_append, List.drop_of_length_le (Nat.le_succ _)]
    simp
  rw [afterPieces, idxOf?_append_cons h]
  show afterPieces d n ((line ++ d :: rest).drop (line.length + 1)) = _
  rw [hdrop]

/-- The remaining pieces are the pieces of what is left. -/
theorem pieces_afterPieces (n : Nat) (s : List α) :
    pieces d (afterPieces d n s) = (pieces d s).drop n := by
  induction n generalizing s with
  | zero => rfl
  | succ n ih =>
    cases hfind : s.idxOf? d with
    | none =>
      have hmem : d ∉ s := List.idxOf?_eq_none_iff.mp hfind
      rw [afterPieces, hfind]
      by_cases hs : s = []
      · simp [hs]
      · simp [pieces_of_not_mem hs hmem]
    | some i =>
      obtain ⟨hsplit, hmem⟩ := eq_append_of_idxOf? hfind
      rw [hsplit, afterPieces_append_cons hmem, pieces_append_cons hmem, ih, List.drop_succ_cons]

/-- What is left behind `m` pieces and then behind `n` more. -/
theorem afterPieces_afterPieces (m n : Nat) (s : List α) :
    afterPieces d n (afterPieces d m s) = afterPieces d (m + n) s := by
  induction m generalizing s with
  | zero => rw [afterPieces_zero, Nat.zero_add]
  | succ m ih =>
    rw [Nat.add_right_comm, afterPieces, afterPieces]
    split
    · exact afterPieces_nil n
    · exact ih _

/-- What is left is a suffix. -/
theorem afterPieces_suffix (n : Nat) (s : List α) : afterPieces d n s <:+ s := by
  induction n generalizing s with
  | zero => exact List.suffix_refl s
  | succ n ih =>
    rw [afterPieces]
    split
    · exact List.nil_suffix
    · exact (ih _).trans (List.drop_suffix _ s)

/-- Nothing is left exactly when there are no more pieces. -/
theorem afterPieces_eq_nil_iff {n : Nat} {s : List α} :
    afterPieces d n s = [] ↔ (pieces d s).length ≤ n := by
  rw [← pieces_eq_nil_iff (d := d), pieces_afterPieces, List.drop_eq_nil_iff]

end Pieces
