/-!
# Places

A place of type `τ` inside a state of type `σ`: a global variable, a member of
a structure, an element of an array.  All a program does to it is to change
what it holds, so a place is a function `modify` from changes of `τ` to changes
of `σ`.  It carries the two laws that every proof about places needs: changing
nothing does nothing, and two changes are one change.
-/

/-- A place of type `τ` inside `σ`. -/
structure Place (σ τ : Type) where
  modify : (τ → τ) → σ → σ
  modify_id (s : σ) : modify (fun a => a) s = s
  modify_modify (f g : τ → τ) (s : σ) : modify g (modify f s) = modify (fun a => g (f a)) s
