import Mathlib.Data.List.Basic

/-!
# Interleaved actions

Actions on a state come from several sources, told apart by a key.  If actions
of different sources can be swapped, then a sequence of actions is determined by
what each source contributes to it: how the contributions interleave makes no
difference (`foldl_eq_of_own_eq`).
-/

namespace Interleaving

variable {σ α κ : Type} {act : σ → α → σ} {key : α → κ}

/-- Actions of different sources can be swapped. -/
def Independent (act : σ → α → σ) (key : α → κ) : Prop :=
  ∀ s a b, key a ≠ key b → act (act s a) b = act (act s b) a

/-- An action can be taken before others that it is independent of. -/
theorem foldl_append_singleton (hindep : Independent act key) {a : α} {l : List α}
    (h : ∀ b ∈ l, key b ≠ key a) (s : σ) : (l ++ [a]).foldl act s = (a :: l).foldl act s := by
  induction l generalizing s with
  | nil => rfl
  | cons b l ih =>
    calc (b :: l ++ [a]).foldl act s
        = (a :: l).foldl act (act s b) := ih (fun c hc => h c (List.mem_cons_of_mem b hc)) _
      _ = l.foldl act (act (act s a) b) := by
        rw [List.foldl_cons, hindep s b a (h b List.mem_cons_self)]
      _ = (a :: b :: l).foldl act s := rfl

variable [DecidableEq κ]

/-- The actions of one source. -/
def own (key : α → κ) (k : κ) (actions : List α) : List α :=
  actions.filter fun a => key a = k

theorem own_append (k : κ) (l l' : List α) : own key k (l ++ l') = own key k l ++ own key k l' :=
  List.filter_append l l'

theorem own_cons_self (a : α) (l : List α) : own key (key a) (a :: l) = a :: own key (key a) l :=
  List.filter_cons_of_pos (by simp)

theorem own_cons_of_ne {k : κ} {a : α} (h : key a ≠ k) (l : List α) :
    own key k (a :: l) = own key k l :=
  List.filter_cons_of_neg (by simpa using h)

theorem own_eq_nil {k : κ} {l : List α} (h : ∀ a ∈ l, key a ≠ k) : own key k l = [] := by
  rw [own, List.filter_eq_nil_iff]
  intro a ha hkey
  exact h a ha (of_decide_eq_true hkey)

theorem own_map {f : α → α} (hkey : ∀ a, key (f a) = key a) (k : κ) (l : List α) :
    own key k (l.map f) = (own key k l).map f := by
  unfold own
  rw [List.filter_map]
  congr 1
  refine List.filter_congr fun a _ => ?_
  rw [Function.comp_apply, hkey]

/-- The actions of one source can all be taken last. -/
theorem own_others_append (k k' : κ) (l : List α) :
    own key k' ((l.filter fun a => key a ≠ k) ++ own key k l) = own key k' l := by
  rw [own_append]
  by_cases hk : k' = k
  · subst hk
    have hothers : own key k' (l.filter fun a => key a ≠ k') = [] :=
      own_eq_nil fun a ha => of_decide_eq_true (List.mem_filter.mp ha).2
    have hown : own key k' (own key k' l) = own key k' l := by
      unfold own
      rw [List.filter_filter]
      simp only [Bool.and_self]
    rw [hothers, hown, List.nil_append]
  · have hothers : own key k' (l.filter fun a => key a ≠ k) = own key k' l := by
      unfold own
      rw [List.filter_filter]
      refine List.filter_congr fun a _ => ?_
      by_cases ha : key a = k'
      · simp [ha, hk]
      · simp [ha]
    have hown : own key k' (own key k l) = [] := by
      refine own_eq_nil fun a ha hkey => hk ?_
      rw [← hkey]
      exact of_decide_eq_true (List.mem_filter.mp ha).2
    rw [hothers, hown, List.append_nil]

/-- Two sequences of actions to which each source contributes the same lead to
the same state. -/
theorem foldl_eq_of_own_eq (hindep : Independent act key) {l l' : List α}
    (h : ∀ k, own key k l = own key k l') (s : σ) : l.foldl act s = l'.foldl act s := by
  induction l generalizing l' s with
  | nil =>
    cases l' with
    | nil => rfl
    | cons a l' =>
      have hcons := h (key a)
      rw [own_cons_self] at hcons
      cases hcons
  | cons a l ih =>
    -- the first action is somewhere in the other sequence, behind actions of other sources
    have hfirst := h (key a)
    rw [own_cons_self] at hfirst
    obtain ⟨pre, post, rfl, hpre, _, hpost⟩ := List.filter_eq_cons_iff.mp hfirst.symm
    have hother : ∀ b ∈ pre, key b ≠ key a := fun b hb hkey => hpre b hb (decide_eq_true hkey)
    have hrest : ∀ k, own key k l = own key k (pre ++ post) := by
      intro k
      rw [own_append]
      by_cases hk : key a = k
      · subst hk
        rw [own_eq_nil hother, List.nil_append]
        exact hpost.symm
      · have hk' := h k
        rwa [own_cons_of_ne hk, own_append, own_cons_of_ne hk] at hk'
    calc (a :: l).foldl act s
        = (pre ++ post).foldl act (act s a) := ih hrest _
      _ = post.foldl act ((a :: pre).foldl act s) := by rw [List.foldl_append, List.foldl_cons]
      _ = post.foldl act ((pre ++ [a]).foldl act s) := by
        rw [foldl_append_singleton hindep hother]
      _ = (pre ++ a :: post).foldl act s := by
        rw [← List.foldl_append, List.append_assoc, List.singleton_append]

end Interleaving
