import Mathlib.Data.Multiset.AddSub
import K3ScreenCtrl.Lib.Syscall

/-!
# How a program uses the heap

A program allocates and frees blocks, and it touches them through pointers.
The allocator may refuse an allocation, and otherwise answers with a pointer that
is not in use (`Fresh`).  `ι` is what the program asks for a block for, so that
an allocator can refuse some requests and grant others (`Grants`).

`Blocks` is what an observer keeps: the live blocks, and the mistakes so far.
`Holds owned nulls late` says that the live blocks are those that the program
owns, and that there was no mistake but `nulls` touches of the null pointer and
`late` touches of blocks that were freed before.  A touch names the block, not
the place in it.
-/

namespace HeapUse

open Syscall

variable {ι : Type}

/-- Pointers are numbers, and 0 is the null pointer. -/
inductive HeapCall (ι : Type) where
  | malloc (site : ι)
  | free (p : Nat)
  | touch (p : Nat)

/-- The live blocks, and how many calls freed a block that was not live, touched
the null pointer, or touched another block that was not live. -/
structure Blocks where
  live : Multiset Nat
  badFrees : Nat
  nullTouches : Nat
  lateTouches : Nat

def Blocks.initial : Blocks := ⟨0, 0, 0, 0⟩

/-- The blocks behind a call.  To free the null pointer is no mistake. -/
def Blocks.see (b : Blocks) : HeapCall ι × Nat → Blocks
  | (.malloc _, p) => if p = 0 then b else { b with live := p ::ₘ b.live }
  | (.free p, _) =>
    if p = 0 then b
    else if p ∈ b.live then { b with live := b.live.erase p }
    else { b with badFrees := b.badFrees + 1 }
  | (.touch p, _) =>
    if p = 0 then { b with nullTouches := b.nullTouches + 1 }
    else if p ∈ b.live then b
    else { b with lateTouches := b.lateTouches + 1 }

/-- The allocator does not hand out a block that is live. -/
def Fresh (kernel : Kernel (HeapCall ι) Nat) : Prop :=
  ∀ trace site, kernel trace (.malloc site) ∉ (trace.foldl Blocks.see .initial).live

/-- The allocator refuses no request of these kinds. -/
def Grants (kernel : Kernel (HeapCall ι) Nat) (kinds : ι → Prop) : Prop :=
  ∀ trace site, kinds site → kernel trace (.malloc site) ≠ 0

/-- The allocator refuses such a request at some point. -/
def Refuses (kernel : Kernel (HeapCall ι) Nat) (site : ι) : Prop :=
  ∃ trace, kernel trace (.malloc site) = 0

/-- The program owns the live blocks, and its only mistakes are so many touches of
the null pointer and so many late ones. -/
structure Holds (owned : Multiset Nat) (nulls late : Nat) (b : Blocks) : Prop where
  live_eq : b.live = owned
  nodup : owned.Nodup
  zero_not_mem : 0 ∉ owned
  badFrees_eq : b.badFrees = 0
  nullTouches_eq : b.nullTouches = nulls
  lateTouches_eq : b.lateTouches = late

theorem Holds.initial : Holds 0 0 0 Blocks.initial :=
  ⟨rfl, Multiset.nodup_zero, Multiset.notMem_zero 0, rfl, rfl, rfl⟩

/-- The blocks with the one behind a pointer, unless it is null. -/
def hold (p : Nat) (owned : Multiset Nat) : Multiset Nat := if p = 0 then owned else p ::ₘ owned

@[simp] theorem hold_zero (owned : Multiset Nat) : hold 0 owned = owned := rfl

theorem hold_of_ne {p : Nat} (hp : p ≠ 0) (owned : Multiset Nat) : hold p owned = p ::ₘ owned :=
  if_neg hp

/-! ## Rules -/

variable {kernel : Kernel (HeapCall ι) Nat} {owned : Multiset Nat} {nulls late p : Nat}

/-- Another block, or a refusal. -/
theorem Holds.see_malloc {b : Blocks} (h : Holds owned nulls late b) (site : ι) (hnew : p ∉ owned) :
    Holds (hold p owned) nulls late (b.see (.malloc site, p)) := by
  unfold Blocks.see hold
  dsimp only
  by_cases hp : p = 0
  · rw [if_pos hp, if_pos hp]
    exact h
  · rw [if_neg hp, if_neg hp]
    refine ⟨congrArg _ h.live_eq, Multiset.nodup_cons.mpr ⟨hnew, h.nodup⟩, ?_, h.badFrees_eq,
      h.nullTouches_eq, h.lateTouches_eq⟩
    intro hmem
    rcases Multiset.mem_cons.mp hmem with hzero | hmem
    · exact hp hzero.symm
    · exact h.zero_not_mem hmem

theorem triple_malloc (hfresh : Fresh kernel) (site : ι) :
    Triple kernel Blocks.see .initial (Holds owned nulls late) (call (.malloc site))
      fun p b => (p = 0 → Refuses kernel site) ∧ Holds (hold p owned) nulls late b := by
  refine Triple.call_of_answer fun trace h => ⟨fun hp => ⟨trace, hp⟩, ?_⟩
  have hnew := hfresh trace site
  rw [h.live_eq] at hnew
  exact h.see_malloc site hnew

/-- A request that is granted. -/
theorem triple_malloc_granted {kinds : ι → Prop} (hfresh : Fresh kernel)
    (hgrants : Grants kernel kinds) {site : ι} (hsite : kinds site) :
    Triple kernel Blocks.see .initial (Holds owned nulls late) (call (.malloc site))
      fun p b => p ≠ 0 ∧ Holds (p ::ₘ owned) nulls late b := by
  refine Triple.call_of_answer fun trace h => ?_
  have hnew := hfresh trace site
  have hp := hgrants trace site hsite
  rw [h.live_eq] at hnew
  refine ⟨hp, ?_⟩
  rw [← hold_of_ne hp]
  exact h.see_malloc site hnew

theorem triple_touch (hp : p ∈ owned) :
    Triple kernel Blocks.see .initial (Holds owned nulls late) (call (.touch p))
      fun _ => Holds owned nulls late := by
  refine Triple.call fun b _ h => ?_
  have hzero : p ≠ 0 := fun hp' => h.zero_not_mem (hp' ▸ hp)
  have hlive : p ∈ b.live := h.live_eq ▸ hp
  rw [Blocks.see, if_neg hzero, if_pos hlive]
  exact h

/-- A touch through a pointer that is null or owned. -/
theorem triple_touch_held :
    Triple kernel Blocks.see .initial (Holds (hold p owned) nulls late) (call (.touch p))
      fun _ => Holds (hold p owned) (nulls + if p = 0 then 1 else 0) late := by
  by_cases hp : p = 0
  · subst hp
    refine Triple.call fun b _ h => ?_
    exact ⟨h.live_eq, h.nodup, h.zero_not_mem, h.badFrees_eq, congrArg (· + 1) h.nullTouches_eq,
      h.lateTouches_eq⟩
  · rw [if_neg hp, hold_of_ne hp]
    exact triple_touch (Multiset.mem_cons_self p owned)

/-- A block that was freed is no longer live. -/
theorem triple_free_gone :
    Triple kernel Blocks.see .initial (Holds (p ::ₘ owned) nulls late) (call (.free p))
      fun _ b => p ∉ b.live ∧ p ≠ 0 ∧ Holds owned nulls late b := by
  refine Triple.call fun b _ h => ?_
  have hzero : p ≠ 0 := fun hp => h.zero_not_mem (hp ▸ Multiset.mem_cons_self p owned)
  have hlive : p ∈ b.live := h.live_eq ▸ Multiset.mem_cons_self p owned
  have herase : b.live.erase p = owned := by
    rw [h.live_eq, Multiset.erase_cons_head]
  obtain ⟨hnew, hnodup⟩ := Multiset.nodup_cons.mp h.nodup
  rw [Blocks.see, if_neg hzero, if_pos hlive]
  refine ⟨?_, hzero, herase, hnodup, ?_, h.badFrees_eq, h.nullTouches_eq, h.lateTouches_eq⟩
  · show p ∉ b.live.erase p
    rw [herase]
    exact hnew
  · exact fun hmem => h.zero_not_mem (Multiset.mem_cons_of_mem hmem)

theorem triple_free :
    Triple kernel Blocks.see .initial (Holds (p ::ₘ owned) nulls late) (call (.free p))
      fun _ => Holds owned nulls late :=
  triple_free_gone.post fun _ _ h => h.2.2

/-- A touch of a block that was just freed. -/
theorem triple_touch_gone :
    Triple kernel Blocks.see .initial (fun b => p ∉ b.live ∧ p ≠ 0 ∧ Holds owned nulls late b)
      (call (.touch p)) fun _ => Holds owned nulls (late + 1) := by
  refine Triple.call fun b _ ⟨hgone, hzero, h⟩ => ?_
  rw [Blocks.see, if_neg hzero, if_neg hgone]
  exact ⟨h.live_eq, h.nodup, h.zero_not_mem, h.badFrees_eq, h.nullTouches_eq,
    congrArg (· + 1) h.lateTouches_eq⟩

/-! ## An allocator -/

/-- Live blocks are answers, and not the null pointer. -/
theorem live_foldl_see {trace : List (HeapCall ι × Nat)} {b : Blocks}
    (h : p ∈ (trace.foldl Blocks.see b).live) : p ∈ b.live ∨ p ≠ 0 ∧ ∃ e ∈ trace, e.2 = p := by
  induction trace generalizing b with
  | nil => exact Or.inl h
  | cons e trace ih =>
    rcases ih h with hmem | ⟨hp, e', he', heq⟩
    · obtain ⟨c, r⟩ := e
      unfold Blocks.see at hmem
      split at hmem
      · next heq =>
        cases heq
        split at hmem
        · exact Or.inl hmem
        · next hr =>
          rcases Multiset.mem_cons.mp hmem with rfl | hmem
          · exact Or.inr ⟨hr, _, List.mem_cons_self, rfl⟩
          · exact Or.inl hmem
      · split at hmem
        · exact Or.inl hmem
        · split at hmem
          · exact Or.inl (Multiset.mem_of_mem_erase hmem)
          · exact Or.inl hmem
      · split at hmem
        · exact Or.inl hmem
        · split at hmem <;> exact Or.inl hmem
    · exact Or.inr ⟨hp, e', List.mem_cons_of_mem e he', heq⟩

/-- An allocator that never answers a pointer twice hands out no live block. -/
theorem fresh_of_gt {kernel : Kernel (HeapCall ι) Nat}
    (h : ∀ trace site, kernel trace (.malloc site) = 0 ∨
      ∀ e ∈ trace, e.2 < kernel trace (.malloc site)) : Fresh kernel := by
  intro trace site hmem
  rcases live_foldl_see hmem with hzero | ⟨hp, e, he, heq⟩
  · exact Multiset.notMem_zero _ hzero
  · rcases h trace site with hrefused | hgt
    · exact hp hrefused
    · exact absurd heq (Nat.ne_of_lt (hgt e he))

end HeapUse
