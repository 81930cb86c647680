import K3ScreenCtrl.Lib.Layout
import Mathlib.Data.List.Basic
import Mathlib.Tactic.SplitIfs

/-!
# Byte stuffing

A frame on a byte stream opens with a header symbol and closes with a trailer
symbol.  An escape symbol makes the symbol after it literal, so that all three
can occur in the content.  This module is about any alphabet and any three
distinct marks.

Two scans of a byte string are defined here.

* `pending` and `unescapedAt` are the scan that the format means: from left to
  right, an escape makes the next symbol literal, and a literal escape does
  not escape anything.
* `findClose` is the scan of a receiver that looks back one symbol only: it
  stops at the first trailer whose direct predecessor is not the escape
  symbol.

`stuff` is the encoder.  The two scans disagree on its output exactly when the
last content symbol is the escape symbol: `findClose_frame` says so.

`content` removes the escapes again, and `framed` is what a decoder stores: the
content between the marks that open and close a frame.  The two agree on a
string without unescaped marks (`framed_append`).

`frameLayout` reads frames strictly: every mark of the content is escaped, and
nothing else is.
-/

namespace ByteStuffing

variable {α : Type}

/-- The three distinct marks of a framed stream. -/
structure Marks (α : Type) where
  header : α
  trailer : α
  escape : α
  header_ne_trailer : header ≠ trailer
  header_ne_escape : header ≠ escape
  trailer_ne_escape : trailer ≠ escape

/-- A symbol that the encoder has to escape. -/
def Marks.IsMark (m : Marks α) (b : α) : Prop :=
  b = m.header ∨ b = m.trailer ∨ b = m.escape

variable [DecidableEq α]

instance (m : Marks α) (b : α) : Decidable (m.IsMark b) :=
  inferInstanceAs (Decidable (_ ∨ _ ∨ _))

/-! ## The encoder -/

/-- One content symbol on the wire. -/
def stuffOne (m : Marks α) (b : α) : List α :=
  if m.IsMark b then [m.escape, b] else [b]

/-- The content on the wire. -/
def stuff (m : Marks α) (content : List α) : List α :=
  content.flatMap (stuffOne m)

variable {m : Marks α}

@[simp] theorem stuff_nil : stuff m [] = [] := rfl

@[simp] theorem stuff_cons (b : α) (l : List α) :
    stuff m (b :: l) = stuffOne m b ++ stuff m l := by
  simp [stuff]

theorem stuff_append (l r : List α) : stuff m (l ++ r) = stuff m l ++ stuff m r := by
  simp [stuff]

theorem stuffOne_of_isMark {b : α} (h : m.IsMark b) : stuffOne m b = [m.escape, b] :=
  if_pos h

theorem stuffOne_of_not_isMark {b : α} (h : ¬ m.IsMark b) : stuffOne m b = [b] :=
  if_neg h

/-- Stuffing at most doubles the content. -/
theorem length_stuff_le (l : List α) : (stuff m l).length ≤ 2 * l.length := by
  induction l with
  | nil => simp
  | cons b l ih =>
    rw [stuff_cons, List.length_append, List.length_cons]
    have hone : (stuffOne m b).length ≤ 2 := by
      unfold stuffOne
      split_ifs <;> simp
    omega

/-- Stuffing adds one symbol for each mark. -/
theorem length_stuff (l : List α) :
    (stuff m l).length = l.length + l.countP (fun b => decide (m.IsMark b)) := by
  induction l with
  | nil => rfl
  | cons b l ih =>
    rw [stuff_cons, List.length_append, ih, List.length_cons, List.countP_cons]
    by_cases hb : m.IsMark b
    · rw [stuffOne_of_isMark hb, if_pos (decide_eq_true hb)]
      simp
      omega
    · rw [stuffOne_of_not_isMark hb, if_neg (by simpa using hb)]
      simp
      omega

/-! ## The scan that the format means -/

/-- Whether the next symbol is literal after the scan of a string.  The first
argument says whether it was literal before. -/
def pending (m : Marks α) : Bool → List α → Bool
  | p, [] => p
  | true, _ :: l => pending m false l
  | false, b :: l => pending m (decide (b = m.escape)) l

/-- The positions, counted from `i`, at which `mark` occurs unescaped. -/
def unescapedAt (m : Marks α) (mark : α) : Bool → Nat → List α → List Nat
  | _, _, [] => []
  | true, i, _ :: l => unescapedAt m mark false (i + 1) l
  | false, i, b :: l =>
    if b = m.escape then unescapedAt m mark true (i + 1) l
    else if b = mark then i :: unescapedAt m mark false (i + 1) l
    else unescapedAt m mark false (i + 1) l

theorem pending_append (p : Bool) (l r : List α) :
    pending m p (l ++ r) = pending m (pending m p l) r := by
  induction l generalizing p with
  | nil => rfl
  | cons b l ih => cases p <;> exact ih _

theorem unescapedAt_append (mark : α) (p : Bool) (i : Nat) (l r : List α) :
    unescapedAt m mark p i (l ++ r) =
      unescapedAt m mark p i l ++ unescapedAt m mark (pending m p l) (i + l.length) r := by
  induction l generalizing p i with
  | nil => simp [unescapedAt, pending]
  | cons b l ih =>
    have hlen : i + (b :: l).length = i + 1 + l.length := by
      rw [List.length_cons]
      omega
    cases p with
    | true => rw [hlen]; exact ih false (i + 1)
    | false =>
      rw [hlen, List.cons_append]
      simp only [unescapedAt, pending]
      split_ifs with hesc hmark
      · simpa [hesc] using ih true (i + 1)
      · simpa [hesc] using ih false (i + 1)
      · simpa [hesc] using ih false (i + 1)

/-- The encoder never leaves an escape pending. -/
@[simp] theorem pending_stuff (l : List α) : pending m false (stuff m l) = false := by
  induction l with
  | nil => rfl
  | cons b l ih =>
    rw [stuff_cons, pending_append]
    by_cases hb : m.IsMark b
    · simpa [stuffOne_of_isMark hb, pending] using ih
    · have hne : b ≠ m.escape := fun h => hb (Or.inr (Or.inr h))
      simpa [stuffOne_of_not_isMark hb, pending, hne] using ih

/-- The encoder leaves no header and no trailer unescaped. -/
theorem unescapedAt_stuff {mark : α} (hmark : m.IsMark mark) (i : Nat) (l : List α) :
    unescapedAt m mark false i (stuff m l) = [] := by
  induction l generalizing i with
  | nil => rfl
  | cons b l ih =>
    rw [stuff_cons, unescapedAt_append]
    by_cases hb : m.IsMark b
    · simpa [stuffOne_of_isMark hb, unescapedAt, pending] using ih _
    · have hesc : b ≠ m.escape := fun h => hb (Or.inr (Or.inr h))
      have hne : b ≠ mark := fun h => hb (h ▸ hmark)
      simpa [stuffOne_of_not_isMark hb, unescapedAt, pending, hesc, hne] using ih _

/-! ## What a decoder stores -/

/-- A string without the escapes that make other symbols literal. -/
def content (m : Marks α) : Bool → List α → List α
  | _, [] => []
  | true, b :: l => b :: content m false l
  | false, b :: l => if b = m.escape then content m true l else b :: content m false l

/-- The symbols that a decoder stores.  The first flag says whether the next
symbol is literal, the second one whether it is inside a frame. -/
def framed (m : Marks α) : Bool → Bool → List α → List α
  | _, _, [] => []
  | true, inFrame, b :: l =>
    if inFrame then b :: framed m false inFrame l else framed m false inFrame l
  | false, inFrame, b :: l =>
    if b = m.escape then framed m true inFrame l
    else if b = m.header then framed m false true l
    else if b = m.trailer then framed m false false l
    else if inFrame then b :: framed m false inFrame l
    else framed m false inFrame l

@[simp] theorem content_nil (p : Bool) : content m p [] = [] := by
  cases p <;> rfl

theorem content_append (p : Bool) (l r : List α) :
    content m p (l ++ r) = content m p l ++ content m (pending m p l) r := by
  induction l generalizing p with
  | nil => simp [pending]
  | cons b l ih =>
    cases p with
    | true => simp [content, pending, ih]
    | false =>
      simp only [List.cons_append, content, pending]
      split_ifs with hesc
      · simp [hesc, ih]
      · simp [hesc, ih]

/-- Removing the escapes undoes the stuffing. -/
@[simp] theorem content_stuff (l : List α) : content m false (stuff m l) = l := by
  induction l with
  | nil => rfl
  | cons b l ih =>
    rw [stuff_cons, content_append]
    by_cases hb : m.IsMark b
    · simpa [stuffOne_of_isMark hb, content, pending] using ih
    · have hne : b ≠ m.escape := fun h => hb (Or.inr (Or.inr h))
      simpa [stuffOne_of_not_isMark hb, content, pending, hne] using ih

theorem framed_header (inFrame : Bool) (l : List α) :
    framed m false inFrame (m.header :: l) = framed m false true l := by
  rw [framed, if_neg m.header_ne_escape, if_pos rfl]

theorem framed_trailer (inFrame : Bool) (l : List α) :
    framed m false inFrame (m.trailer :: l) = framed m false false l := by
  rw [framed, if_neg m.trailer_ne_escape, if_neg m.header_ne_trailer.symm, if_pos rfl]

/-- Inside a frame, a string without unescaped marks is stored without its
escapes. -/
theorem framed_append {p : Bool} {i : Nat} {l : List α}
    (hheader : unescapedAt m m.header p i l = []) (htrailer : unescapedAt m m.trailer p i l = [])
    (r : List α) :
    framed m p true (l ++ r) = content m p l ++ framed m (pending m p l) true r := by
  induction l generalizing p i with
  | nil => simp [pending]
  | cons b l ih =>
    cases p with
    | true =>
      have hrest := ih (p := false) (i := i + 1) hheader htrailer
      simp [framed, content, pending, hrest]
    | false =>
      rw [unescapedAt] at hheader htrailer
      by_cases hesc : b = m.escape
      · rw [if_pos hesc] at hheader htrailer
        have hrest := ih (p := true) (i := i + 1) hheader htrailer
        simp [framed, content, pending, hesc, hrest]
      · rw [if_neg hesc] at hheader htrailer
        split_ifs at hheader htrailer with hh ht
        have hrest := ih (p := false) (i := i + 1) hheader htrailer
        simp [framed, content, pending, hesc, hh, ht, hrest]

/-- A decoder stores the content of a whole frame. -/
theorem framed_frame (inFrame : Bool) (l : List α) :
    framed m false inFrame (m.header :: (stuff m l ++ [m.trailer])) = l := by
  have hheader : unescapedAt m m.header false 0 (stuff m l) = [] :=
    unescapedAt_stuff (Or.inl rfl) 0 l
  have htrailer : unescapedAt m m.trailer false 0 (stuff m l) = [] :=
    unescapedAt_stuff (Or.inr (Or.inl rfl)) 0 l
  rw [framed_header, framed_append hheader htrailer, content_stuff, pending_stuff, framed_trailer]
  simp [framed]

/-! ## The scan that looks back one symbol -/

/-- The first trailer whose direct predecessor is not the escape symbol.
`prev` is the symbol before the string. -/
def findClose (m : Marks α) (prev : α) : List α → Option Nat
  | [] => none
  | b :: l =>
    if b = m.trailer ∧ prev ≠ m.escape then some 0
    else (findClose m b l).map (· + 1)

@[simp] theorem findClose_nil (prev : α) : findClose m prev [] = none := rfl

theorem findClose_cons_of_close {prev b : α} (l : List α)
    (h : b = m.trailer ∧ prev ≠ m.escape) : findClose m prev (b :: l) = some 0 :=
  if_pos h

theorem findClose_cons_of_not_close {prev b : α} (l : List α)
    (h : ¬ (b = m.trailer ∧ prev ≠ m.escape)) :
    findClose m prev (b :: l) = (findClose m b l).map (· + 1) :=
  if_neg h

/-- A close lies inside the string. -/
theorem findClose_lt {prev : α} {l : List α} {j : Nat} (h : findClose m prev l = some j) :
    j < l.length := by
  induction l generalizing prev j with
  | nil => cases h
  | cons b l ih =>
    by_cases hb : b = m.trailer ∧ prev ≠ m.escape
    · rw [findClose_cons_of_close l hb] at h
      cases h
      simp
    · rw [findClose_cons_of_not_close l hb, Option.map_eq_some_iff] at h
      obtain ⟨k, hk, rfl⟩ := h
      have := ih hk
      simp
      omega

/-- The scan of a string without a close goes on with its last symbol. -/
theorem findClose_append_of_none {prev : α} {l : List α} (r : List α)
    (h : findClose m prev l = none) :
    findClose m prev (l ++ r) = (findClose m (l.getLastD prev) r).map (· + l.length) := by
  induction l generalizing prev with
  | nil => simp
  | cons b l ih =>
    by_cases hb : b = m.trailer ∧ prev ≠ m.escape
    · rw [findClose_cons_of_close l hb] at h
      cases h
    · rw [findClose_cons_of_not_close l hb, Option.map_eq_none_iff] at h
      rw [List.cons_append, findClose_cons_of_not_close _ hb, ih h, Option.map_map,
        List.getLastD_cons]
      rfl

/-- A close stays where it is when more symbols follow. -/
theorem findClose_append_of_some {prev : α} {l : List α} {j : Nat} (r : List α)
    (h : findClose m prev l = some j) : findClose m prev (l ++ r) = some j := by
  induction l generalizing prev j with
  | nil => cases h
  | cons b l ih =>
    by_cases hb : b = m.trailer ∧ prev ≠ m.escape
    · rw [findClose_cons_of_close l hb] at h
      rw [List.cons_append, findClose_cons_of_close _ hb, h]
    · rw [findClose_cons_of_not_close l hb, Option.map_eq_some_iff] at h
      obtain ⟨k, hk, rfl⟩ := h
      rw [List.cons_append, findClose_cons_of_not_close _ hb, ih hk, Option.map_some]

/-- No prefix of a string without a close has one. -/
theorem findClose_eq_none_of_append {prev : α} {l r : List α}
    (h : findClose m prev (l ++ r) = none) : findClose m prev l = none := by
  cases hl : findClose m prev l with
  | none => rfl
  | some j => rw [findClose_append_of_some r hl] at h; cases h

/-- There is a trailer at `j`, and the symbol before it is not the escape
symbol. -/
def ClosesAt (m : Marks α) (prev : α) (l : List α) (j : Nat) : Prop :=
  l[j]? = some m.trailer ∧ (prev :: l)[j]? ≠ some m.escape

/-- The scan stops at the first close. -/
theorem findClose_eq_some_iff {prev : α} {l : List α} {j : Nat} :
    findClose m prev l = some j ↔ ClosesAt m prev l j ∧ ∀ i < j, ¬ ClosesAt m prev l i := by
  induction l generalizing prev j with
  | nil => simp [ClosesAt]
  | cons b l ih =>
    have hzero : ClosesAt m prev (b :: l) 0 ↔ b = m.trailer ∧ prev ≠ m.escape := by
      simp [ClosesAt]
    have hsucc (k : Nat) : ClosesAt m prev (b :: l) (k + 1) ↔ ClosesAt m b l k := by
      simp [ClosesAt]
    by_cases hb : b = m.trailer ∧ prev ≠ m.escape
    · rw [findClose_cons_of_close l hb, Option.some_inj]
      constructor
      · rintro rfl
        exact ⟨hzero.mpr hb, fun i hi => absurd hi (Nat.not_lt_zero i)⟩
      · intro h
        by_contra hne
        exact h.2 0 (by omega) (hzero.mpr hb)
    · rw [findClose_cons_of_not_close l hb, Option.map_eq_some_iff]
      constructor
      · rintro ⟨k, hk, rfl⟩
        obtain ⟨hat, hfirst⟩ := ih.mp hk
        refine ⟨(hsucc k).mpr hat, ?_⟩
        intro i hi
        cases i with
        | zero => exact fun h => hb (hzero.mp h)
        | succ i => exact fun h => hfirst i (by omega) ((hsucc i).mp h)
      · intro h
        cases j with
        | zero => exact absurd (hzero.mp h.1) hb
        | succ k =>
          refine ⟨k, ih.mpr ⟨(hsucc k).mp h.1, ?_⟩, rfl⟩
          intro i hi hclose
          exact h.2 (i + 1) (by omega) ((hsucc i).mpr hclose)

theorem findClose_of_not_mem {prev : α} {l : List α} (h : m.trailer ∉ l) :
    findClose m prev l = none := by
  induction l generalizing prev with
  | nil => rfl
  | cons b l ih =>
    have hb : ¬ (b = m.trailer ∧ prev ≠ m.escape) := fun hc => h (by simp [hc.1])
    rw [findClose_cons_of_not_close l hb, ih (fun hm => h (List.mem_cons_of_mem b hm))]
    rfl

/-- The scan up to and past the first trailer of a string. -/
theorem findClose_append_trailer {prev : α} {l : List α} (r : List α) (h : m.trailer ∉ l) :
    findClose m prev (l ++ m.trailer :: r) =
      if l.getLastD prev = m.escape then (findClose m m.trailer r).map (· + (l.length + 1))
      else some l.length := by
  rw [findClose_append_of_none _ (findClose_of_not_mem h)]
  split_ifs with hlast
  · rw [findClose_cons_of_not_close _ (fun hc => hc.2 hlast), Option.map_map]
    congr 1
    funext k
    show k + 1 + l.length = k + (l.length + 1)
    omega
  · rw [findClose_cons_of_close _ ⟨rfl, hlast⟩, Option.map_some, Nat.zero_add]

/-- The same where the first trailer is found by its index. -/
theorem findClose_of_idxOf? {prev : α} {l : List α} {k : Nat}
    (h : l.idxOf? m.trailer = some k) :
    findClose m prev l =
      if (l.take k).getLastD prev = m.escape then
        (findClose m m.trailer (l.drop (k + 1))).map (· + (k + 1))
      else some k := by
  obtain ⟨hk, hat, hbefore⟩ := List.idxOf?_eq_some_iff.mp h
  have hsplit : l = l.take k ++ m.trailer :: l.drop (k + 1) := by
    rw [← hat, List.getElem_cons_drop, List.take_append_drop]
  have hmem : m.trailer ∉ l.take k := by
    intro hm
    obtain ⟨j, hj, hje⟩ := List.mem_take_iff_getElem.mp hm
    exact hbefore j (by omega) hje
  have hlength : (l.take k).length = k := by
    rw [List.length_take]
    omega
  conv_lhs => rw [hsplit, findClose_append_trailer _ hmem, hlength]

/-- In stuffed content every trailer comes right after an escape. -/
@[simp] theorem findClose_stuff (prev : α) (l : List α) : findClose m prev (stuff m l) = none := by
  induction l generalizing prev with
  | nil => rfl
  | cons b l ih =>
    rw [stuff_cons]
    by_cases hb : m.IsMark b
    · have hesc : ¬ (m.escape = m.trailer ∧ prev ≠ m.escape) :=
        fun h => m.trailer_ne_escape h.1.symm
      have hlit : ¬ (b = m.trailer ∧ m.escape ≠ m.escape) := fun h => h.2 rfl
      rw [stuffOne_of_isMark hb, List.cons_append, findClose_cons_of_not_close _ hesc,
        List.cons_append, findClose_cons_of_not_close _ hlit, List.nil_append, ih]
      rfl
    · have hne : ¬ (b = m.trailer ∧ prev ≠ m.escape) := fun h => hb (Or.inr (Or.inl h.1))
      rw [stuffOne_of_not_isMark hb, List.cons_append, findClose_cons_of_not_close _ hne,
        List.nil_append, ih]
      rfl

/-- Stuffing keeps the last symbol. -/
theorem getLastD_stuff (prev : α) (l : List α) :
    (stuff m l).getLastD prev = l.getLastD prev := by
  induction l generalizing prev with
  | nil => rfl
  | cons b l ih =>
    rw [stuff_cons, List.getLastD_cons]
    by_cases hb : m.IsMark b
    · rw [stuffOne_of_isMark hb, List.cons_append, List.getLastD_cons, List.cons_append,
        List.getLastD_cons, List.nil_append, ih]
    · rw [stuffOne_of_not_isMark hb, List.cons_append, List.getLastD_cons, List.nil_append, ih]

/-- The scan that looks back one symbol finds the end of a frame exactly when
the last content symbol is not the escape symbol. -/
theorem findClose_frame (prev : α) (content : List α) :
    findClose m prev (m.header :: (stuff m content ++ [m.trailer])) =
      if content.getLastD m.header = m.escape then none
      else some (stuff m content).length.succ := by
  have hhead : ¬ (m.header = m.trailer ∧ prev ≠ m.escape) := fun h => m.header_ne_trailer h.1
  rw [findClose_cons_of_not_close _ hhead, findClose_append_of_none _ (findClose_stuff _ _),
    getLastD_stuff]
  split_ifs with hlast
  · rw [findClose_cons_of_not_close _ (fun h => h.2 hlast)]
    rfl
  · rw [findClose_cons_of_close _ ⟨rfl, hlast⟩]
    simp

/-! ## The end of a frame by itself -/

/-- Stuffed content, cut where no escape is pending, is cut between two symbols
of the content. -/
theorem stuff_eq_append {content l r : List α} (h : stuff m content = l ++ r)
    (hpending : pending m false l = false) :
    ∃ c d, content = c ++ d ∧ l = stuff m c ∧ r = stuff m d := by
  induction content generalizing l with
  | nil =>
    obtain ⟨rfl, rfl⟩ := List.append_eq_nil_iff.mp h.symm
    exact ⟨[], [], rfl, rfl, rfl⟩
  | cons b content ih =>
    cases l with
    | nil => exact ⟨[], b :: content, rfl, rfl, h.symm⟩
    | cons a l =>
      rw [stuff_cons] at h
      by_cases hb : m.IsMark b
      · rw [stuffOne_of_isMark hb, List.cons_append, List.cons_append, List.cons_append,
          List.cons.injEq] at h
        obtain ⟨rfl, h⟩ := h
        cases l with
        | nil =>
          -- the escape would be pending
          simp [pending] at hpending
        | cons a l =>
          rw [List.nil_append, List.cons_append, List.cons.injEq] at h
          obtain ⟨rfl, h⟩ := h
          obtain ⟨c, d, rfl, rfl, rfl⟩ := ih h (by simpa [pending] using hpending)
          refine ⟨b :: c, d, rfl, ?_, rfl⟩
          rw [stuff_cons, stuffOne_of_isMark hb]
          rfl
      · rw [stuffOne_of_not_isMark hb, List.cons_append, List.cons_append, List.nil_append,
          List.cons.injEq] at h
        obtain ⟨rfl, h⟩ := h
        have hesc : b ≠ m.escape := fun he => hb (Or.inr (Or.inr he))
        obtain ⟨c, d, rfl, rfl, rfl⟩ := ih h (by simpa [pending, hesc] using hpending)
        refine ⟨b :: c, d, rfl, ?_, rfl⟩
        rw [stuff_cons, stuffOne_of_not_isMark hb]
        rfl

/-- The scan that looks back one symbol finds the trailer behind stuffed content
unless the symbol before it is the escape symbol. -/
theorem findClose_stuff_trailer {prev : α} {content : List α}
    (h : content.getLastD prev ≠ m.escape) :
    findClose m prev (stuff m content ++ [m.trailer]) = some (stuff m content).length := by
  rw [findClose_append_of_none _ (findClose_stuff _ _), getLastD_stuff,
    findClose_cons_of_close _ ⟨rfl, h⟩]
  simp

/-- Without a header nothing is stored. -/
theorem framed_of_no_header {p : Bool} {i : Nat} {l : List α}
    (h : unescapedAt m m.header p i l = []) : framed m p false l = [] := by
  induction l generalizing p i with
  | nil => cases p <;> rfl
  | cons b l ih =>
    cases p with
    | true => exact ih (p := false) (i := i + 1) h
    | false =>
      rw [unescapedAt] at h
      rw [framed]
      by_cases hesc : b = m.escape
      · rw [if_pos hesc] at h ⊢
        exact ih h
      · rw [if_neg hesc] at h ⊢
        split_ifs at h with hheader
        rw [if_neg hheader, if_neg Bool.false_ne_true, ite_self]
        exact ih h

/-- The end of a frame, without its header, stores nothing. -/
theorem framed_stuff_trailer (content : List α) :
    framed m false false (stuff m content ++ [m.trailer]) = [] := by
  have hmark : m.IsMark m.header := Or.inl rfl
  have hlast : unescapedAt m m.header false (0 + (stuff m content).length) [m.trailer] = [] := by
    rw [unescapedAt, if_neg m.trailer_ne_escape, if_neg m.header_ne_trailer.symm]
    rfl
  apply framed_of_no_header (i := 0)
  rw [unescapedAt_append, unescapedAt_stuff hmark, pending_stuff, hlast]
  rfl

/-! ## Reading frames -/

/-- Read content up to the trailer: every mark of the content is escaped, and
nothing else is. -/
def unstuff (m : Marks α) : Bool → List α → Option (List α × List α)
  | _, [] => none
  | true, b :: l =>
    if m.IsMark b then (unstuff m false l).map fun (content, rest) => (b :: content, rest) else none
  | false, b :: l =>
    if b = m.escape then unstuff m true l
    else if b = m.trailer then some ([], l)
    else if b = m.header then none
    else (unstuff m false l).map fun (content, rest) => (b :: content, rest)

theorem unstuff_stuff (content rest : List α) :
    unstuff m false (stuff m content ++ m.trailer :: rest) = some (content, rest) := by
  induction content with
  | nil =>
    show unstuff m false (m.trailer :: rest) = some ([], rest)
    rw [unstuff, if_neg m.trailer_ne_escape, if_pos rfl]
  | cons b content ih =>
    by_cases hb : m.IsMark b
    · rw [stuff_cons, stuffOne_of_isMark hb]
      show unstuff m false (m.escape :: b :: (stuff m content ++ m.trailer :: rest)) = _
      rw [unstuff, if_pos rfl, unstuff, if_pos hb, ih, Option.map_some]
    · have hmarks : b ≠ m.header ∧ b ≠ m.trailer ∧ b ≠ m.escape := by
        simpa [Marks.IsMark] using hb
      rw [stuff_cons, stuffOne_of_not_isMark hb]
      show unstuff m false (b :: (stuff m content ++ m.trailer :: rest)) = _
      rw [unstuff, if_neg hmarks.2.2, if_neg hmarks.2.1, if_neg hmarks.1, ih, Option.map_some]

theorem stuff_unstuff {p : Bool} {l content rest : List α}
    (h : unstuff m p l = some (content, rest)) :
    stuff m content ++ m.trailer :: rest = if p then m.escape :: l else l := by
  induction l generalizing p content with
  | nil =>
    rw [unstuff] at h
    cases h
  | cons b l ih =>
    cases p with
    | true =>
      rw [unstuff] at h
      split at h
      · next hmark =>
        obtain ⟨⟨content', rest'⟩, hread, heq⟩ := Option.map_eq_some_iff.mp h
        cases heq
        have hrest := ih hread
        rw [if_neg Bool.false_ne_true] at hrest
        rw [stuff_cons, stuffOne_of_isMark hmark, if_pos rfl, ← hrest]
        rfl
      · cases h
    | false =>
      rw [unstuff] at h
      rw [if_neg Bool.false_ne_true]
      split at h
      · next hescape =>
        rw [ih h, if_pos rfl, hescape]
      · next hescape =>
        split at h
        · next htrailer =>
          cases h
          rw [htrailer]
          rfl
        · next htrailer =>
          split at h
          · cases h
          · next hheader =>
            obtain ⟨⟨content', rest'⟩, hread, heq⟩ := Option.map_eq_some_iff.mp h
            cases heq
            have hrest := ih hread
            rw [if_neg Bool.false_ne_true] at hrest
            have hmark : ¬ m.IsMark b := by
              rintro (h | h | h)
              · exact hheader h
              · exact htrailer h
              · exact hescape h
            rw [stuff_cons, stuffOne_of_not_isMark hmark, ← hrest]
            rfl

/-- A frame: a header, the stuffed content and a trailer. -/
def frameLayout (m : Marks α) : Layout α (List α) where
  write := fun content => m.header :: (stuff m content ++ [m.trailer])
  read := fun l =>
    match l with
    | [] => none
    | b :: l => if b = m.header then unstuff m false l else none
  read_write := by
    intro content rest
    show (if m.header = m.header then unstuff m false (stuff m content ++ [m.trailer] ++ rest)
      else none) = _
    rw [if_pos rfl, List.append_assoc]
    exact unstuff_stuff content rest
  write_read := by
    intro l content rest h
    split at h
    · cases h
    · split at h
      · next hheader =>
        have hbody := stuff_unstuff h
        rw [if_neg Bool.false_ne_true] at hbody
        rw [hheader, ← hbody]
        simp
      · cases h

end ByteStuffing
