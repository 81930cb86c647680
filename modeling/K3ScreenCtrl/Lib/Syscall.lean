import Mathlib.Logic.Basic

/-!
# Programs that make system calls

A program makes calls, and what it does next depends on their answers.  The
kernel may answer a call in any way, by all that was called and answered before,
so what is shown for every kernel holds whatever goes wrong.

What a trace of calls means is up to an *observer*, a fold over the trace: the
devices behind the files, the descriptors that are open, or whether some call
has failed.  `Triple` is a Hoare triple over what an observer sees, and the rules
below it are one for each way to build a program.
-/

namespace Syscall

variable {κ ρ : Type}

/-- A kernel answers a call by the calls before it and their answers. -/
def Kernel (κ ρ : Type) : Type := List (κ × ρ) → κ → ρ

/-- A program answers a value and makes calls behind those already made. -/
def Prog (κ ρ α : Type) : Type := Kernel κ ρ → List (κ × ρ) → α × List (κ × ρ)

instance : Monad (Prog κ ρ) where
  pure a := fun _ trace => (a, trace)
  bind p f := fun kernel trace => f (p kernel trace).1 kernel (p kernel trace).2

/-- Make a call. -/
def call (c : κ) : Prog κ ρ ρ := fun kernel trace =>
  (kernel trace c, trace ++ [(c, kernel trace c)])

variable {α β σ : Type} {kernel : Kernel κ ρ} {observe : σ → κ × ρ → σ} {start : σ}

/-- On this kernel, if the observer sees a state in `P`, it sees one in `Q` of the
answer after the program. -/
def Triple (kernel : Kernel κ ρ) (observe : σ → κ × ρ → σ) (start : σ) (P : σ → Prop)
    (p : Prog κ ρ α) (Q : α → σ → Prop) : Prop :=
  ∀ trace, P (trace.foldl observe start) →
    Q (p kernel trace).1 ((p kernel trace).2.foldl observe start)

namespace Triple

variable {P P' : σ → Prop} {p : Prog κ ρ α} {Q Q' : α → σ → Prop}

theorem conseq (h : Triple kernel observe start P p Q) (hP : ∀ s, P' s → P s)
    (hQ : ∀ a s, Q a s → Q' a s) : Triple kernel observe start P' p Q' :=
  fun trace hs => hQ _ _ (h trace (hP _ hs))

theorem post (h : Triple kernel observe start P p Q) (hQ : ∀ a s, Q a s → Q' a s) :
    Triple kernel observe start P p Q' :=
  h.conseq (fun _ hs => hs) hQ

/-- An answer without a call. -/
theorem pure {a : α} (h : ∀ s, P s → Q a s) :
    Triple kernel observe start P (Pure.pure a : Prog κ ρ α) Q :=
  fun _ hs => h _ hs

/-- One program after another. -/
theorem bind {f : α → Prog κ ρ β} {S : β → σ → Prop} (hp : Triple kernel observe start P p Q)
    (hf : ∀ a, Triple kernel observe start (Q a) (f a) S) :
    Triple kernel observe start P (p >>= f) S :=
  fun trace hs => hf _ _ (hp trace hs)

/-- One call, with what is known of its answer. -/
theorem call_of_answer {c : κ} {Q : ρ → σ → Prop}
    (h : ∀ trace, P (trace.foldl observe start) →
      Q (kernel trace c) (observe (trace.foldl observe start) (c, kernel trace c))) :
    Triple kernel observe start P (Syscall.call c) Q := by
  intro trace hs
  show Q (kernel trace c) ((trace ++ [(c, kernel trace c)]).foldl observe start)
  rw [List.foldl_append]
  exact h trace hs

/-- One call, whatever the answer is. -/
theorem call {c : κ} {Q : ρ → σ → Prop} (h : ∀ s r, P s → Q r (observe s (c, r))) :
    Triple kernel observe start P (Syscall.call c) Q :=
  call_of_answer fun _ hs => h _ _ hs

theorem ite {c : Prop} [Decidable c] {p q : Prog κ ρ α}
    (hp : c → Triple kernel observe start P p Q) (hq : ¬ c → Triple kernel observe start P q Q) :
    Triple kernel observe start P (if c then p else q) Q := by
  split
  · next hc => exact hp hc
  · next hc => exact hq hc

/-- What the precondition says about values of the program. -/
theorem of_fact {φ : Prop} (h : φ → Triple kernel observe start P p Q) :
    Triple kernel observe start (fun s => φ ∧ P s) p Q :=
  fun trace hs => h hs.1 trace hs.2

/-- A precondition about values that the program does not know. -/
theorem of_exists {ι : Type} {R : ι → σ → Prop}
    (h : ∀ i, Triple kernel observe start (R i) p Q) :
    Triple kernel observe start (fun s => ∃ i, R i s) p Q := by
  rintro trace ⟨i, hs⟩
  exact h i trace hs

/-- A call that the observer does not react to. -/
theorem call_silent {c : κ} (h : ∀ s r, observe s (c, r) = s) :
    Triple kernel observe start P (Syscall.call c) fun _ => P :=
  call fun s r hs => by rw [h]; exact hs

/-- What holds of a program from its first call on. -/
theorem run (h : Triple kernel observe start P p Q) (hs : P start) :
    Q (p kernel []).1 ((p kernel []).2.foldl observe start) :=
  h [] hs

end Triple

end Syscall
