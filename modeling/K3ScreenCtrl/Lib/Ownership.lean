import Mathlib.Data.List.Basic
import Mathlib.Logic.Function.Basic

/-!
# Owned blocks

A heap whose blocks are told apart by the number of the call that allocated
them.  A call can be refused.  To free a block that is not live is an error;
to free the null pointer is not.

`Owns h ptr` says that the pointers `ptr` of a record own the heap: they point
at the live blocks, each block from one place.  `Owns.alloc` and `Owns.free`
keep it, and `Owns.freeAll` empties the heap.  `Stores` adds what the blocks
hold, and `Owns.replace` keeps both.  `Answered` says where the pointers come
from: each is what the last call for it answered.
-/

namespace Ownership

variable {β κ : Type}

/-- The number of calls so far, and the live blocks. -/
structure Heap (β : Type) where
  calls : Nat
  live : List (Nat × β)

/-- Nothing was allocated. -/
def Heap.empty : Heap β := ⟨0, []⟩

/-- Allocate a block, unless the call is refused. -/
def Heap.alloc (refuses : Nat → Bool) (v : β) (h : Heap β) : Option Nat × Heap β :=
  if refuses h.calls then (none, ⟨h.calls + 1, h.live⟩)
  else (some h.calls, ⟨h.calls + 1, (h.calls, v) :: h.live⟩)

/-- Free a block. -/
def Heap.free (p : Option Nat) (h : Heap β) : Option (Heap β) :=
  match p with
  | none => some h
  | some k =>
    if ∃ b ∈ h.live, b.1 = k then some { h with live := h.live.filter fun b => b.1 ≠ k } else none

/-- What a block holds. -/
def Heap.read (p : Option Nat) (h : Heap β) : Option β := p.bind fun k => h.live.lookup k

/-- A block is live. -/
def Heap.Live (h : Heap β) (k : Nat) : Prop := ∃ b ∈ h.live, b.1 = k

/-- The pointers point at the live blocks, no two of them at the same. -/
structure Owns (h : Heap β) (ptr : κ → Option Nat) : Prop where
  live_iff : ∀ k, h.Live k ↔ ∃ i, ptr i = some k
  injective : ∀ i j k, ptr i = some k → ptr j = some k → i = j
  lt : ∀ k, h.Live k → k < h.calls

/-- Null pointers own the empty heap. -/
theorem Owns.empty : Owns (Heap.empty : Heap β) (fun _ : κ => none) where
  live_iff := by simp [Heap.Live, Heap.empty]
  injective := by simp
  lt := by simp [Heap.Live, Heap.empty]

theorem Owns.live {h : Heap β} {ptr : κ → Option Nat} (hown : Owns h ptr) {i : κ} {k : Nat}
    (hk : ptr i = some k) : h.Live k := (hown.live_iff k).mpr ⟨i, hk⟩

variable [DecidableEq κ]

/-- A new block for a null pointer. -/
theorem Owns.alloc {h : Heap β} {ptr : κ → Option Nat} (hown : Owns h ptr) {i : κ}
    (hi : ptr i = none) (refuses : Nat → Bool) (v : β) :
    Owns (h.alloc refuses v).2 (Function.update ptr i (h.alloc refuses v).1) := by
  unfold Heap.alloc
  split
  · rw [← hi, Function.update_eq_self]
    exact ⟨hown.live_iff, hown.injective, fun k hk => Nat.lt_succ_of_lt (hown.lt k hk)⟩
  · have hfresh : ∀ j, ptr j ≠ some h.calls := by
      intro j hj
      exact absurd (hown.lt _ (hown.live hj)) (Nat.lt_irrefl _)
    have hlive : ∀ k, Heap.Live ⟨h.calls + 1, (h.calls, v) :: h.live⟩ k ↔
        k = h.calls ∨ h.Live k := by
      intro k
      simp [Heap.Live, eq_comm]
    refine ⟨?_, ?_, ?_⟩
    · intro k
      rw [hlive, hown.live_iff]
      constructor
      · rintro (rfl | ⟨j, hj⟩)
        · exact ⟨i, Function.update_self i _ ptr⟩
        · have hne : j ≠ i := by
            rintro rfl
            rw [hi] at hj
            cases hj
          exact ⟨j, by rw [Function.update_of_ne hne, hj]⟩
      · rintro ⟨j, hj⟩
        by_cases hji : j = i
        · rw [hji, Function.update_self] at hj
          exact Or.inl (Option.some_inj.mp hj).symm
        · rw [Function.update_of_ne hji] at hj
          exact Or.inr ⟨j, hj⟩
    · intro j j' k hj hj'
      by_cases hji : j = i <;> by_cases hji' : j' = i
      · rw [hji, hji']
      · rw [hji, Function.update_self] at hj
        rw [Function.update_of_ne hji', ← hj] at hj'
        exact absurd hj' (hfresh j')
      · rw [hji', Function.update_self] at hj'
        rw [Function.update_of_ne hji, ← hj'] at hj
        exact absurd hj (hfresh j)
      · rw [Function.update_of_ne hji] at hj
        rw [Function.update_of_ne hji'] at hj'
        exact hown.injective j j' k hj hj'
    · intro k hk
      rcases (hlive k).mp hk with rfl | hk
      · exact Nat.lt_succ_self _
      · exact Nat.lt_succ_of_lt (hown.lt k hk)

/-- The block of a pointer can be freed. -/
theorem Owns.free {h : Heap β} {ptr : κ → Option Nat} (hown : Owns h ptr) (i : κ) :
    ∃ h', h.free (ptr i) = some h' ∧ Owns h' (Function.update ptr i none) := by
  cases hi : ptr i with
  | none =>
    refine ⟨h, rfl, ?_⟩
    rw [← hi, Function.update_eq_self]
    exact hown
  | some k =>
    have hk : h.Live k := hown.live hi
    refine ⟨{ h with live := h.live.filter fun b => b.1 ≠ k }, if_pos hk, ?_⟩
    have hlive : ∀ k', Heap.Live { h with live := h.live.filter fun b => b.1 ≠ k } k' ↔
        h.Live k' ∧ k' ≠ k := by
      intro k'
      constructor
      · rintro ⟨b, hb, rfl⟩
        obtain ⟨hb, hne⟩ := List.mem_filter.mp hb
        exact ⟨⟨b, hb, rfl⟩, of_decide_eq_true hne⟩
      · rintro ⟨⟨b, hb, rfl⟩, hne⟩
        exact ⟨b, List.mem_filter.mpr ⟨hb, decide_eq_true hne⟩, rfl⟩
    have hupdate : ∀ j k', Function.update ptr i none j = some k' ↔ j ≠ i ∧ ptr j = some k' := by
      intro j k'
      by_cases hji : j = i
      · rw [hji, Function.update_self]
        simp
      · rw [Function.update_of_ne hji]
        simp [hji]
    refine ⟨?_, ?_, ?_⟩
    · intro k'
      rw [hlive, hown.live_iff]
      constructor
      · rintro ⟨⟨j, hj⟩, hne⟩
        refine ⟨j, (hupdate j k').mpr ⟨?_, hj⟩⟩
        rintro rfl
        rw [hi] at hj
        exact hne (Option.some_inj.mp hj).symm
      · rintro ⟨j, hj⟩
        obtain ⟨hji, hj⟩ := (hupdate j k').mp hj
        refine ⟨⟨j, hj⟩, ?_⟩
        rintro rfl
        exact hji (hown.injective j i _ hj hi)
    · intro j j' k' hj hj'
      exact hown.injective j j' k' ((hupdate j k').mp hj).2 ((hupdate j' k').mp hj').2
    · intro k' hk'
      exact hown.lt k' ((hlive k').mp hk').1

/-- Free the block of every pointer. -/
theorem Owns.freeAll {h : Heap β} {ptr : κ → Option Nat} (hown : Owns h ptr) {l : List κ}
    (hnodup : l.Nodup) (hall : ∀ i, ptr i ≠ none → i ∈ l) :
    ∃ h', l.foldlM (fun h i => h.free (ptr i)) h = some h' ∧ h'.live = [] := by
  induction l generalizing h ptr with
  | nil =>
    refine ⟨h, rfl, ?_⟩
    rw [List.eq_nil_iff_forall_not_mem]
    intro b hb
    obtain ⟨i, hi⟩ := (hown.live_iff b.1).mp ⟨b, hb, rfl⟩
    exact absurd (hall i (by rw [hi]; exact Option.some_ne_none _)) List.not_mem_nil
  | cons i l ih =>
    obtain ⟨hi, hnodup⟩ := List.nodup_cons.mp hnodup
    obtain ⟨h₁, hfree, hown₁⟩ := hown.free i
    obtain ⟨h', hrest, hempty⟩ := ih hown₁ hnodup (by
      intro j hj
      have hji : j ≠ i := by
        rintro rfl
        exact hj (Function.update_self j none ptr)
      rw [Function.update_of_ne hji] at hj
      exact (List.mem_cons.mp (hall j hj)).resolve_left hji)
    refine ⟨h', ?_, hempty⟩
    rw [List.foldlM_cons, hfree]
    have hsame : ∀ l' : List κ, i ∉ l' → ∀ h : Heap β,
        l'.foldlM (fun h j => h.free (Function.update ptr i none j)) h =
          l'.foldlM (fun h j => h.free (ptr j)) h := by
      intro l' hl'
      induction l' with
      | nil => exact fun _ => rfl
      | cons j l' ih' =>
        intro h
        have hji : j ≠ i := by
          rintro rfl
          exact hl' List.mem_cons_self
        rw [List.foldlM_cons, List.foldlM_cons, Function.update_of_ne hji]
        congr 1
        funext h''
        exact ih' (fun hmem => hl' (List.mem_cons_of_mem j hmem)) h''
    exact (hsame l hi h₁).symm.trans hrest

/-! ## What the blocks hold -/

/-- Every pointer that is not null points at a block with its content. -/
def Stores (h : Heap β) (ptr : κ → Option Nat) (contents : κ → β) : Prop :=
  ∀ i k, ptr i = some k → h.read (some k) = some (contents i)

omit [DecidableEq κ] in
/-- Older blocks are as they were after an allocation. -/
theorem read_alloc_of_lt {h : Heap β} {k : Nat} (hk : k < h.calls) (refuses : Nat → Bool) (v : β) :
    (h.alloc refuses v).2.read (some k) = h.read (some k) := by
  unfold Heap.alloc
  split
  · rfl
  · show List.lookup k ((h.calls, v) :: h.live) = List.lookup k h.live
    rw [List.lookup_cons, beq_false_of_ne (Nat.ne_of_lt hk)]

omit [DecidableEq κ] in
/-- The other blocks are as they were after one is freed. -/
theorem read_filter_of_ne (l : List (Nat × β)) {k k' : Nat} (hne : k' ≠ k) :
    (l.filter fun b => b.1 ≠ k).lookup k' = l.lookup k' := by
  induction l with
  | nil => rfl
  | cons b l ih =>
    obtain ⟨k₁, v⟩ := b
    by_cases hk₁ : k₁ = k
    · rw [List.filter_cons_of_neg (by simp [hk₁]), ih, List.lookup_cons,
        beq_false_of_ne (by rw [hk₁]; exact hne)]
    · rw [List.filter_cons_of_pos (by simp [hk₁]), List.lookup_cons, List.lookup_cons, ih]

theorem Stores.alloc {h : Heap β} {ptr : κ → Option Nat} {contents : κ → β} (hown : Owns h ptr)
    (hstores : Stores h ptr contents) (i : κ) (refuses : Nat → Bool) (v : β) :
    Stores (h.alloc refuses v).2 (Function.update ptr i (h.alloc refuses v).1)
      (Function.update contents i v) := by
  intro j k hj
  by_cases hji : j = i
  · rw [hji, Function.update_self] at hj ⊢
    unfold Heap.alloc at hj ⊢
    split at hj
    · cases hj
    · next hrefuses =>
      cases hj
      rw [if_neg hrefuses]
      show List.lookup h.calls ((h.calls, v) :: h.live) = some v
      rw [List.lookup_cons, beq_self_eq_true]
  · rw [Function.update_of_ne hji] at hj ⊢
    rw [read_alloc_of_lt (hown.lt k (hown.live hj)), hstores j k hj]

theorem Stores.free {h h' : Heap β} {ptr : κ → Option Nat} {contents : κ → β} (hown : Owns h ptr)
    (hstores : Stores h ptr contents) {i : κ} (hfree : h.free (ptr i) = some h') :
    Stores h' (Function.update ptr i none) contents := by
  intro j k hj
  have hji : j ≠ i := by
    rintro rfl
    rw [Function.update_self] at hj
    cases hj
  rw [Function.update_of_ne hji] at hj
  cases hi : ptr i with
  | none =>
    rw [hi] at hfree
    cases hfree
    exact hstores j k hj
  | some k' =>
    rw [hi, Heap.free] at hfree
    split at hfree
    · cases hfree
      have hne : k ≠ k' := by
        rintro rfl
        exact hji (hown.injective j i k hj hi)
      rw [← hstores j k hj]
      exact read_filter_of_ne h.live hne
    · cases hfree

/-- `free(p); p = strdup(v);` -/
def Heap.replace (refuses : Nat → Bool) (p : Option Nat) (v : β) (h : Heap β) :
    Option (Option Nat × Heap β) :=
  (h.free p).map fun h => h.alloc refuses v

/-- An owned pointer can be replaced, and the others keep their contents. -/
theorem Owns.replace {h : Heap β} {ptr : κ → Option Nat} {contents : κ → β} (hown : Owns h ptr)
    (hstores : Stores h ptr contents) (i : κ) (refuses : Nat → Bool) (v : β) :
    ∃ p h', h.replace refuses (ptr i) v = some (p, h') ∧ Owns h' (Function.update ptr i p) ∧
      Stores h' (Function.update ptr i p) (Function.update contents i v) := by
  obtain ⟨h₁, hfree, hown₁⟩ := hown.free i
  have hstores₁ := hstores.free hown hfree
  have hnull : Function.update ptr i none i = none := Function.update_self i none ptr
  have hown' := hown₁.alloc hnull refuses v
  have hstores' := hstores₁.alloc hown₁ i refuses v
  rw [Function.update_idem] at hown' hstores'
  exact ⟨(h₁.alloc refuses v).1, (h₁.alloc refuses v).2, by rw [Heap.replace, hfree]; rfl, hown',
    hstores'⟩

/-! ## Where the pointers come from -/

/-- The calls so far were for the pointers of a list, one after the other, and each
pointer is what the last call for it answered: the block of that call, unless it
was refused. -/
structure Answered (refuses : Nat → Bool) (calls : List κ) (h : Heap β) (ptr : κ → Option Nat) :
    Prop where
  calls_eq : h.calls = calls.length
  last : ∀ i front back, calls = front ++ i :: back → i ∉ back →
    ptr i = if refuses front.length then none else some front.length

omit [DecidableEq κ] in
theorem Answered.empty (refuses : Nat → Bool) (ptr : κ → Option Nat) :
    Answered refuses [] (Heap.empty : Heap β) ptr where
  calls_eq := rfl
  last i front back h := absurd h.symm (by simp)

/-- One more call. -/
theorem Answered.alloc {refuses : Nat → Bool} {calls : List κ} {h h' : Heap β}
    {ptr : κ → Option Nat} (hans : Answered refuses calls h ptr) (hcalls : h'.calls = h.calls)
    (i : κ) (v : β) :
    Answered refuses (calls ++ [i]) (h'.alloc refuses v).2
      (Function.update ptr i (h'.alloc refuses v).1) where
  calls_eq := by
    have hsucc : (h'.alloc refuses v).2.calls = h'.calls + 1 := by
      unfold Heap.alloc
      split <;> rfl
    rw [hsucc, hcalls, hans.calls_eq, List.length_append, List.length_singleton]
  last j front back hsplit hlast := by
    rcases List.eq_nil_or_concat back with rfl | ⟨back', k, rfl⟩
    · -- this call was the last one
      obtain ⟨rfl, hj⟩ := List.append_inj' hsplit rfl
      cases hj
      rw [Function.update_self]
      unfold Heap.alloc
      rw [hcalls, hans.calls_eq]
      split <;> rfl
    · rw [List.concat_eq_append] at hsplit hlast
      have hassoc : front ++ j :: (back' ++ [k]) = front ++ j :: back' ++ [k] := by simp
      obtain ⟨hcons, hk⟩ := List.append_inj' (hsplit.trans hassoc) rfl
      cases hk
      have hne : j ≠ i := fun heq => hlast (heq ▸ List.mem_append_right _ List.mem_cons_self)
      rw [Function.update_of_ne hne]
      exact hans.last j front back' hcons fun hmem => hlast (List.mem_append_left _ hmem)

/-- The call behind a `free`. -/
theorem Answered.replace {refuses : Nat → Bool} {calls : List κ} {h h' : Heap β}
    {ptr : κ → Option Nat} (hans : Answered refuses calls h ptr) {i : κ} {v : β} {p : Option Nat}
    (hreplace : h.replace refuses (ptr i) v = some (p, h')) :
    Answered refuses (calls ++ [i]) h' (Function.update ptr i p) := by
  obtain ⟨h₁, hfree, halloc⟩ := Option.map_eq_some_iff.mp hreplace
  have hcalls : h₁.calls = h.calls := by
    unfold Heap.free at hfree
    split at hfree
    · cases hfree
      rfl
    · split at hfree
      · cases hfree
        rfl
      · cases hfree
  have hnew := hans.alloc hcalls i v
  rw [halloc] at hnew
  exact hnew

end Ownership
