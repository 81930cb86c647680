import Mathlib.Data.List.Induction

/-!
# The latest entry of a kind

A log grows at its end.  `latest p log` is the last entry that satisfies `p`:
what a reader knows who only looks at entries of that kind and lets a new one
replace the old one (`foldl_latest`).  `kept keep log` is the log of a reader
that misses entries.
-/

namespace History

variable {α : Type}

/-- The last entry of a log that satisfies `p`. -/
def latest (p : α → Bool) (log : List α) : Option α := (log.filter p).getLast?

variable {p : α → Bool}

/-- A new entry of the kind is the latest one. -/
theorem latest_concat_of_pos {a : α} (h : p a = true) (log : List α) :
    latest p (log ++ [a]) = some a := by
  simp [latest, h]

/-- Entries of other kinds change nothing. -/
theorem latest_append_of_neg {xs : List α} (h : ∀ a ∈ xs, p a = false) (log : List α) :
    latest p (log ++ xs) = latest p log := by
  have hnil : xs.filter p = [] := by
    rw [List.filter_eq_nil_iff]
    intro a ha hp
    rw [h a ha] at hp
    cases hp
  rw [latest, latest, List.filter_append, hnil, List.append_nil]

theorem latest_eq_none_iff {log : List α} : latest p log = none ↔ ∀ a ∈ log, p a = false := by
  unfold latest
  rw [List.getLast?_eq_none_iff, List.filter_eq_nil_iff]
  simp

theorem latest_pos {a : α} {log : List α} (h : latest p log = some a) : p a = true :=
  (List.mem_filter.mp (List.mem_of_getLast? h)).2

/-- The latest entry of a kind in a log of images. -/
theorem latest_map {β : Type} {q : β → Bool} (f : α → β) (log : List α) :
    latest q (log.map f) = (latest (q ∘ f) log).map f := by
  rw [latest, latest, List.filter_map, List.getLast?_map]

/-- A part of a state that the entries of the kind set, and that the others leave
alone, is as the latest entry of the kind sets it. -/
theorem foldl_latest {σ β : Type} {f : σ → α → σ} {part : σ → β} {value : α → β}
    (hset : ∀ s a, p a = true → part (f s a) = value a)
    (hother : ∀ s a, p a = false → part (f s a) = part s) (s : σ) (log : List α) :
    part (log.foldl f s) = (latest p log).elim (part s) value := by
  induction log using List.reverseRecOn with
  | nil => rfl
  | append_singleton log a ih =>
    rw [List.foldl_append, List.foldl_cons, List.foldl_nil]
    cases ha : p a with
    | true =>
      rw [latest_concat_of_pos ha, hset _ a ha]
      rfl
    | false =>
      have hneg : ∀ b ∈ [a], p b = false := by
        intro b hb
        rw [List.mem_singleton.mp hb]
        exact ha
      rw [latest_append_of_neg hneg, hother _ a ha, ih]

/-! ## Entries that were lost -/

/-- The entries of a log that are kept, where `keep` says which positions,
counted from `k`, are. -/
def keptFrom (keep : Nat → Bool) : Nat → List α → List α
  | _, [] => []
  | k, a :: log => if keep k then a :: keptFrom keep (k + 1) log else keptFrom keep (k + 1) log

/-- The entries of a log that are kept. -/
def kept (keep : Nat → Bool) (log : List α) : List α := keptFrom keep 0 log

variable {keep : Nat → Bool}

end History
