import Mathlib.Data.Finset.Basic

/-!
# An alarm and pending signals

What a process that blocks its signals sees of the system: a clock, one alarm,
and the set of signals that are pending.  When the alarm runs out, the signal
`alarm` becomes pending.  A signal that is pending already is not counted twice.

`Alive` says that the signal will come.  `Paced` is the account of a process that
sets its alarm anew each time it takes the signal, and bounds how often it can
have taken it.  `Silent` says that the signal will not come.
-/

namespace AlarmClock

variable {ι : Type} [DecidableEq ι]

/-- The time, when the alarm runs out, and the pending signals. -/
structure Clock (ι : Type) where
  now : Nat
  deadline : Option Nat
  pending : Finset ι

/-- A signal is sent. -/
def Clock.raise (c : Clock ι) (signal : ι) : Clock ι :=
  { c with pending := insert signal c.pending }

/-- A pending signal is read. -/
def Clock.take (c : Clock ι) (signal : ι) : Clock ι :=
  { c with pending := c.pending.erase signal }

/-- `alarm`: the alarm is set anew, or turned off by 0. -/
def Clock.setAlarm (c : Clock ι) (period : Nat) : Clock ι :=
  { c with deadline := if period = 0 then none else some (c.now + period) }

/-- Time passes. -/
def Clock.elapse (alarm : ι) (c : Clock ι) (time : Nat) : Clock ι :=
  match c.deadline with
  | none => { c with now := c.now + time }
  | some t =>
    if t ≤ c.now + time then
      { now := c.now + time, deadline := none, pending := insert alarm c.pending }
    else { c with now := c.now + time }

variable {alarm : ι} {period : Nat}

/-- The alarm is set and runs out within a period, or its signal is pending. -/
def Alive (alarm : ι) (period : Nat) (c : Clock ι) : Prop :=
  (∃ t, c.deadline = some t ∧ t ≤ c.now + period) ∨ alarm ∈ c.pending

theorem Alive.raise {c : Clock ι} (h : Alive alarm period c) (signal : ι) :
    Alive alarm period (c.raise signal) :=
  h.imp_right fun hmem => Finset.mem_insert_of_mem hmem

theorem Alive.take {c : Clock ι} (h : Alive alarm period c) {signal : ι} (hne : signal ≠ alarm) :
    Alive alarm period (c.take signal) :=
  h.imp_right fun hmem => Finset.mem_erase.mpr ⟨hne.symm, hmem⟩

omit [DecidableEq ι] in
theorem Alive.setAlarm (alarm : ι) (c : Clock ι) (hperiod : period ≠ 0) :
    Alive alarm period (c.setAlarm period) := by
  refine Or.inl ⟨c.now + period, ?_, Nat.le_refl _⟩
  unfold Clock.setAlarm
  rw [if_neg hperiod]

theorem Alive.elapse {c : Clock ι} (h : Alive alarm period c) (time : Nat) :
    Alive alarm period (c.elapse alarm time) := by
  unfold Clock.elapse
  rcases h with ⟨t, ht, hle⟩ | hmem
  · rw [ht]
    dsimp only
    split
    · exact Or.inr (Finset.mem_insert_self alarm c.pending)
    · refine Or.inl ⟨t, rfl, ?_⟩
      show t ≤ c.now + time + period
      omega
  · split
    · exact Or.inr hmem
    · split
      · exact Or.inr (Finset.mem_insert_self alarm c.pending)
      · exact Or.inr hmem

/-- A period later the signal is pending. -/
theorem Alive.mem_pending {c : Clock ι} (h : Alive alarm period c) :
    alarm ∈ (c.elapse alarm period).pending := by
  unfold Clock.elapse
  rcases h with ⟨t, ht, hle⟩ | hmem
  · rw [ht]
    dsimp only
    rw [if_pos hle]
    exact Finset.mem_insert_self alarm c.pending
  · split
    · exact hmem
    · split
      · exact Finset.mem_insert_self alarm c.pending
      · exact hmem

/-- After `taken` signals, the next one is due a period after the last at the
earliest: the alarm runs out no sooner, or it has run out. -/
structure Paced (alarm : ι) (period : Nat) (c : Clock ι) (taken : Nat) : Prop where
  deadline : ∀ t, c.deadline = some t → alarm ∉ c.pending ∧ (taken + 1) * period ≤ t
  pending : alarm ∈ c.pending → (taken + 1) * period ≤ c.now
  taken : taken * period ≤ c.now

theorem Paced.raise {c : Clock ι} {taken : Nat} (h : Paced alarm period c taken) {signal : ι}
    (hne : signal ≠ alarm) : Paced alarm period (c.raise signal) taken where
  deadline := by
    intro t ht
    obtain ⟨hmem, hle⟩ := h.deadline t ht
    refine ⟨?_, hle⟩
    intro hmem'
    exact hmem (Finset.mem_of_mem_insert_of_ne hmem' hne.symm)
  pending := fun hmem => h.pending (Finset.mem_of_mem_insert_of_ne hmem hne.symm)
  taken := h.taken

theorem Paced.take {c : Clock ι} {taken : Nat} (h : Paced alarm period c taken) (signal : ι) :
    Paced alarm period (c.take signal) taken where
  deadline := fun t ht =>
    ⟨fun hmem => (h.deadline t ht).1 (Finset.mem_of_mem_erase hmem), (h.deadline t ht).2⟩
  pending := fun hmem => h.pending (Finset.mem_of_mem_erase hmem)
  taken := h.taken

theorem Paced.elapse {c : Clock ι} {taken : Nat} (h : Paced alarm period c taken) (time : Nat) :
    Paced alarm period (c.elapse alarm time) taken := by
  have htaken : taken * period ≤ c.now + time := Nat.le_add_right_of_le h.taken
  unfold Clock.elapse
  split
  · next hnone =>
    refine ⟨?_, fun hmem => Nat.le_add_right_of_le (h.pending hmem), htaken⟩
    intro t ht
    rw [hnone] at ht
    cases ht
  · next t ht =>
    obtain ⟨hmem, hle⟩ := h.deadline t ht
    split
    · next hdue =>
      refine ⟨?_, fun _ => Nat.le_trans hle hdue, htaken⟩
      intro t' ht'
      cases ht'
    · exact ⟨h.deadline, fun hmem' => absurd hmem' hmem, htaken⟩

/-- The signal is taken, time passes, and the alarm is set anew. -/
theorem Paced.retake {c : Clock ι} {taken : Nat} (h : Paced alarm period c taken)
    (hmem : alarm ∈ c.pending) (time : Nat) :
    Paced alarm period (((c.take alarm).elapse alarm time).setAlarm period) (taken + 1) := by
  have hnone : (c.take alarm).deadline = none := by
    show c.deadline = none
    cases hdeadline : c.deadline with
    | none => rfl
    | some t => exact absurd hmem (h.deadline t hdeadline).1
  have helapsed : (c.take alarm).elapse alarm time =
      ⟨c.now + time, none, c.pending.erase alarm⟩ := by
    unfold Clock.elapse
    rw [hnone]
    rfl
  have hnot : alarm ∉ c.pending.erase alarm := Finset.notMem_erase alarm c.pending
  have hle := h.pending hmem
  have hsucc : (taken + 1 + 1) * period = (taken + 1) * period + period := Nat.succ_mul _ _
  rw [helapsed]
  unfold Clock.setAlarm
  refine ⟨?_, fun hmem' => absurd hmem' hnot, ?_⟩
  · intro t ht
    dsimp only at ht
    split at ht
    · cases ht
    · cases ht
      refine ⟨hnot, ?_⟩
      omega
  · show (taken + 1) * period ≤ c.now + time
    omega

omit [DecidableEq ι] in
/-- A process that has just set its alarm. -/
theorem Paced.start (alarm : ι) (period : Nat) :
    Paced alarm period ((⟨0, none, ∅⟩ : Clock ι).setAlarm period) 0 where
  deadline := by
    intro t ht
    unfold Clock.setAlarm at ht
    dsimp only at ht
    split at ht
    · cases ht
    · cases ht
      exact ⟨Finset.notMem_empty alarm, by omega⟩
  pending := fun hmem => absurd hmem (Finset.notMem_empty alarm)
  taken := by omega

/-- The alarm is off, and its signal is not pending. -/
def Silent (alarm : ι) (c : Clock ι) : Prop := c.deadline = none ∧ alarm ∉ c.pending

theorem Silent.raise {c : Clock ι} (h : Silent alarm c) {signal : ι} (hne : signal ≠ alarm) :
    Silent alarm (c.raise signal) :=
  ⟨h.1, fun hmem => h.2 (Finset.mem_of_mem_insert_of_ne hmem hne.symm)⟩

theorem Silent.take {c : Clock ι} (h : Silent alarm c) (signal : ι) :
    Silent alarm (c.take signal) :=
  ⟨h.1, fun hmem => h.2 (Finset.mem_of_mem_erase hmem)⟩

theorem Silent.elapse {c : Clock ι} (h : Silent alarm c) (time : Nat) :
    Silent alarm (c.elapse alarm time) := by
  unfold Clock.elapse
  rw [h.1]
  exact ⟨rfl, h.2⟩

end AlarmClock
