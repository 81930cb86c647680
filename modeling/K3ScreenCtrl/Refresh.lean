import K3ScreenCtrl.CommandLine
import K3ScreenCtrl.EventLoop
import K3ScreenCtrl.Lib.AlarmClock

/-!
# The refresh timer

`main` sets an alarm, and `signal_notify` sets it again at the end of each
refresh.  `System` puts the program next to the clock of the kernel: time
passes, signals are sent from outside, and rounds of the event loop happen, in
any order.  What `poll` reports about the signal descriptor has to fit the
pending signals.

* `run_system_refines`: the rounds are a run of the program.
* `refreshAlive`: with a refresh interval, the next refresh is due within an
  interval at any time.  No order of events loses it.
* `refreshPace`: as long as nobody else sends the alarm signal, refreshes are an
  interval apart on average, however long they take and however late they come.
-/

namespace K3ScreenCtrl

open AlarmClock

/-! ## The system -/

/-- The part of `CONFIG` that the daemon reads. -/
def GConfig.config (c : GConfig) : Config where
  screenTimeout := c.screenTimeout

/-- `CFG->update_interval` as `alarm` takes it, an `unsigned int`, in
milliseconds. -/
def GConfig.period (c : GConfig) : Nat := 1000 * (c.updateInterval % 2 ^ 32).toNat

/-- The process, and the clock of the kernel in milliseconds. -/
structure System where
  program : Program
  clock : Clock Signal

/-- What happens: time passes, a signal is sent from outside, or the event loop
does a round, which takes some time. -/
inductive Happening where
  | elapse (time : Nat)
  | kill (signal : Signal)
  | round (poll : Poll) (time : Nat)

/-- What `poll` can report with some signals pending. -/
def Poll.Possible (pending : Finset Signal) : Poll → Prop
  | .failed => True
  | .timeout => pending = ∅
  | .ready _ none => pending = ∅
  | .ready _ (some .failed) => pending ≠ ∅
  | .ready _ (some (.siginfo signal _ _)) => signal ∈ pending

instance (pending : Finset Signal) (poll : Poll) : Decidable (poll.Possible pending) :=
  match poll with
  | .failed => isTrue trivial
  | .timeout => inferInstanceAs (Decidable (pending = ∅))
  | .ready _ none => inferInstanceAs (Decidable (pending = ∅))
  | .ready _ (some .failed) => inferInstanceAs (Decidable (pending ≠ ∅))
  | .ready _ (some (.siginfo signal _ _)) => inferInstanceAs (Decidable (signal ∈ pending))

/-- The clock after a round: the signal that was read is gone, and a refresh
ends with `alarm(CFG->update_interval)`. -/
def GConfig.afterRound (cfg : GConfig) (poll : Poll) (time : Nat) (clock : Clock Signal) :
    Clock Signal :=
  match poll with
  | .ready none (some (.siginfo signal _ _)) =>
    let clock := (clock.take signal).elapse .sigalrm time
    if signal = .sigalrm then clock.setAlarm cfg.period else clock
  | _ => clock.elapse .sigalrm time

def System.step (cfg : GConfig) (s : System) : Happening → Option System
  | .elapse time => some { s with clock := s.clock.elapse .sigalrm time }
  | .kill signal => some { s with clock := s.clock.raise signal }
  | .round poll time =>
    if poll.Possible s.clock.pending then
      (Program.round cfg.config s.program poll).map fun program =>
        { program := program, clock := cfg.afterRound poll time s.clock }
    else none

/-- `main`, with the alarm that it sets before the event loop. -/
def runSystem (cfg : GConfig) (env : ScriptEnv) (start : Int) (happenings : List Happening) :
    Option System :=
  (boot env start).bind fun d =>
    Run.run (System.step cfg)
      { program := ⟨Receiver.init, d, false⟩
        clock := Clock.setAlarm ⟨0, none, ∅⟩ cfg.period }
      happenings

/-! ## The rounds of the loop -/

/-- The report of `poll`, if there is one. -/
def Happening.poll? : Happening → Option Poll
  | .round poll _ => some poll
  | _ => none

/-- The rounds of a run of the system are a run of the program. -/
theorem run_system_refines {cfg : GConfig} {happenings : List Happening} {s s' : System}
    (h : Run.run (System.step cfg) s happenings = some s') :
    Run.run (Program.round cfg.config) s.program (happenings.filterMap Happening.poll?) =
      some s'.program := by
  induction happenings generalizing s with
  | nil =>
    cases h
    rfl
  | cons happening happenings ih =>
    rw [Run.run_cons, Option.bind_eq_some_iff] at h
    obtain ⟨m, hm, hrest⟩ := h
    have hrest' := ih hrest
    cases happening with
    | elapse time =>
      cases hm
      exact hrest'
    | kill signal =>
      cases hm
      exact hrest'
    | round poll time =>
      unfold System.step at hm
      dsimp only at hm
      split at hm
      · obtain ⟨program, hround, rfl⟩ := Option.map_eq_some_iff.mp hm
        show Run.run _ s.program (poll :: happenings.filterMap Happening.poll?) = _
        rw [Run.run_cons, hround, Option.bind_some]
        exact hrest'
      · cases hm

/-! ## Refreshes come -/

theorem alive_afterRound {cfg : GConfig} {clock : Clock Signal}
    (h : Alive .sigalrm cfg.period clock) (hperiod : cfg.period ≠ 0) (poll : Poll) (time : Nat) :
    Alive .sigalrm cfg.period (cfg.afterRound poll time clock) := by
  unfold GConfig.afterRound
  split
  · next signal env now =>
    by_cases hsignal : signal = .sigalrm
    · rw [if_pos hsignal]
      exact Alive.setAlarm Signal.sigalrm _ hperiod
    · rw [if_neg hsignal]
      exact (h.take hsignal).elapse time
  · exact h.elapse time

theorem alive_step {cfg : GConfig} (hperiod : cfg.period ≠ 0) {s s' : System}
    {happening : Happening} (h : Alive .sigalrm cfg.period s.clock)
    (hstep : System.step cfg s happening = some s') : Alive .sigalrm cfg.period s'.clock := by
  cases happening with
  | elapse time =>
    cases hstep
    exact h.elapse time
  | kill signal =>
    cases hstep
    exact h.raise signal
  | round poll time =>
    unfold System.step at hstep
    dsimp only at hstep
    split at hstep
    · obtain ⟨program, _, rfl⟩ := Option.map_eq_some_iff.mp hstep
      exact alive_afterRound h hperiod poll time
    · cases hstep

/-- Whatever happens, and in whatever order: as long as there is a refresh
interval, the alarm signal is pending an interval later at the latest. -/
theorem refreshAlive {cfg : GConfig} {env : ScriptEnv} {start : Int}
    {happenings : List Happening} {s : System} (hperiod : cfg.period ≠ 0)
    (h : runSystem cfg env start happenings = some s) :
    Signal.sigalrm ∈ (s.clock.elapse .sigalrm cfg.period).pending := by
  obtain ⟨d, _, hrun⟩ := Option.bind_eq_some_iff.mp h
  have halive : Alive .sigalrm cfg.period s.clock :=
    Run.run_invariant (P := fun s => Alive .sigalrm cfg.period s.clock)
      (fun _ _ _ halive hstep => alive_step hperiod halive hstep)
      (Alive.setAlarm Signal.sigalrm _ hperiod) hrun
  exact halive.mem_pending

/-- The settings of a start without options. -/
def defaultConfig : GConfig := (configLoadDefaults (fun _ => false) .init).gConfig

/-- A key arrives while the alarm runs out, and the refresh comes late. -/
def lateRefresh : List Happening :=
  [ .elapse 1500
  , .round (readable [0x01, 0x30, 0x03, 0x10, 0x01, 0xD7, 0x80, 0x04] 1 none) 700
  , .kill .sigusr2
  , .round (.ready none (some (.siginfo .sigalrm silentEnv 2))) 300
  , .round (.ready none (some (.siginfo .sigusr2 silentEnv 2))) 0 ]

theorem refreshAlive_lateRefresh :
    ∃ s, runSystem defaultConfig silentEnv 0 lateRefresh = some s ∧
      Signal.sigalrm ∈ (s.clock.elapse .sigalrm defaultConfig.period).pending := by
  have hsome : (runSystem defaultConfig silentEnv 0 lateRefresh).isSome := by
    decide +kernel
  obtain ⟨s, hs⟩ := Option.isSome_iff_exists.mp hsome
  exact ⟨s, hs, refreshAlive (by decide) hs⟩

/-! ## Refreshes keep their distance -/

/-- The event is a refresh. -/
def Input.isTick : Input → Bool
  | .signal .sigalrm _ _ => true
  | _ => false

/-- The round reads the alarm signal. -/
def Poll.isTick : Poll → Bool
  | .ready none (some (.siginfo .sigalrm _ _)) => true
  | _ => false

/-- A refresh for each round that reads the alarm signal. -/
theorem countP_roundEvents (r r' : Receiver) (poll : Poll) :
    (roundEvents r poll r').countP Input.isTick = if poll.isTick then 1 else 0 := by
  have hresponse : ∀ (responses : List (ResponseType × List UInt8)) (now : Int),
      (responses.map fun response => responseInput response.1 response.2 now).countP
        Input.isTick = 0 := by
    intro responses now
    rw [List.countP_eq_zero]
    intro i hi
    obtain ⟨⟨type, payload⟩, _, rfl⟩ := List.mem_map.mp hi
    cases type <;> exact Bool.false_ne_true
  match poll with
  | .failed | .timeout | .ready none none | .ready none (some .failed) => rfl
  | .ready none (some (.siginfo signal env now)) => cases signal <;> rfl
  | .ready (some serial) waiting => exact hresponse _ serial.now

theorem countP_emitted {r r' : Receiver} {polls : List Poll}
    (h : Run.run receiverRound r polls = some r') :
    (Run.emitted receiverRound roundEvents r polls).countP Input.isTick =
      polls.countP Poll.isTick := by
  induction polls generalizing r with
  | nil => rfl
  | cons poll polls ih =>
    rw [Run.run_cons, Option.bind_eq_some_iff] at h
    obtain ⟨m, hm, hrest⟩ := h
    rw [Run.emitted_cons_of_eq hm, List.countP_append, countP_roundEvents, ih hrest,
      List.countP_cons, Nat.add_comm]

/-- The happening is a refresh. -/
def Happening.isTick : Happening → Bool
  | .round poll _ => poll.isTick
  | _ => false

theorem countP_polls (happenings : List Happening) :
    (happenings.filterMap Happening.poll?).countP Poll.isTick =
      happenings.countP Happening.isTick := by
  induction happenings with
  | nil => rfl
  | cons happening happenings ih =>
    cases happening with
    | elapse time => exact ih
    | kill signal => exact ih
    | round poll time =>
      show (poll :: _).countP Poll.isTick = _
      rw [List.countP_cons, ih, List.countP_cons]
      rfl

theorem paced_step {cfg : GConfig} {s s' : System} {happening : Happening} {taken : Nat}
    (h : Paced .sigalrm cfg.period s.clock taken) (hkill : happening ≠ .kill .sigalrm)
    (hstep : System.step cfg s happening = some s') :
    Paced .sigalrm cfg.period s'.clock (taken + if happening.isTick then 1 else 0) := by
  cases happening with
  | elapse time =>
    cases hstep
    exact h.elapse time
  | kill signal =>
    cases hstep
    exact h.raise fun heq => hkill (by rw [heq])
  | round poll time =>
    unfold System.step at hstep
    dsimp only at hstep
    split at hstep
    · next hpossible =>
      obtain ⟨program, _, rfl⟩ := Option.map_eq_some_iff.mp hstep
      show Paced .sigalrm cfg.period (cfg.afterRound poll time s.clock)
        (taken + if poll.isTick then 1 else 0)
      match poll, hpossible with
      | .failed, _ | .timeout, _ | .ready (some _) _, _ | .ready none none, _
      | .ready none (some .failed), _ => exact h.elapse time
      | .ready none (some (.siginfo signal env now)), hpossible =>
        cases signal with
        | sigalrm => exact h.retake hpossible time
        | sigterm => exact (h.take .sigterm).elapse time
        | sigusr1 => exact (h.take .sigusr1).elapse time
        | sigusr2 => exact (h.take .sigusr2).elapse time
    · cases hstep

/-- A run without outside alarms keeps the account. -/
theorem paced_run {cfg : GConfig} {happenings : List Happening} {s s' : System} {taken : Nat}
    (h : Paced .sigalrm cfg.period s.clock taken) (hkill : .kill .sigalrm ∉ happenings)
    (hrun : Run.run (System.step cfg) s happenings = some s') :
    Paced .sigalrm cfg.period s'.clock (taken + happenings.countP Happening.isTick) := by
  induction happenings generalizing s taken with
  | nil =>
    cases hrun
    exact h
  | cons happening happenings ih =>
    rw [Run.run_cons, Option.bind_eq_some_iff] at hrun
    obtain ⟨m, hm, hrest⟩ := hrun
    have hfirst : happening ≠ .kill .sigalrm := by
      rintro rfl
      exact hkill List.mem_cons_self
    have hpaced := ih (paced_step h hfirst hm)
      (fun hmem => hkill (List.mem_cons_of_mem happening hmem)) hrest
    rwa [Nat.add_assoc, Nat.add_comm (ite _ _ _), ← List.countP_cons] at hpaced

/-- Without an alarm there is no refresh. -/
theorem silent_step {cfg : GConfig} {s s' : System} {happening : Happening}
    (h : Silent .sigalrm s.clock) (hkill : happening ≠ .kill .sigalrm)
    (hstep : System.step cfg s happening = some s') :
    Silent .sigalrm s'.clock ∧ happening.isTick = false := by
  cases happening with
  | elapse time =>
    cases hstep
    exact ⟨h.elapse time, rfl⟩
  | kill signal =>
    cases hstep
    exact ⟨h.raise fun heq => hkill (by rw [heq]), rfl⟩
  | round poll time =>
    unfold System.step at hstep
    dsimp only at hstep
    split at hstep
    · next hpossible =>
      obtain ⟨program, _, rfl⟩ := Option.map_eq_some_iff.mp hstep
      show Silent .sigalrm (cfg.afterRound poll time s.clock) ∧ poll.isTick = false
      match poll, hpossible with
      | .failed, _ | .timeout, _ | .ready (some _) _, _ | .ready none none, _
      | .ready none (some .failed), _ => exact ⟨h.elapse time, rfl⟩
      | .ready none (some (.siginfo signal env now)), hpossible =>
        cases signal with
        | sigalrm => exact absurd hpossible h.2
        | sigterm => exact ⟨(h.take .sigterm).elapse time, rfl⟩
        | sigusr1 => exact ⟨(h.take .sigusr1).elapse time, rfl⟩
        | sigusr2 => exact ⟨(h.take .sigusr2).elapse time, rfl⟩
    · cases hstep

theorem silent_run {cfg : GConfig} {happenings : List Happening} {s s' : System}
    (h : Silent .sigalrm s.clock) (hkill : .kill .sigalrm ∉ happenings)
    (hrun : Run.run (System.step cfg) s happenings = some s') :
    happenings.countP Happening.isTick = 0 := by
  induction happenings generalizing s with
  | nil => rfl
  | cons happening happenings ih =>
    rw [Run.run_cons, Option.bind_eq_some_iff] at hrun
    obtain ⟨m, hm, hrest⟩ := hrun
    have hfirst : happening ≠ .kill .sigalrm := by
      rintro rfl
      exact hkill List.mem_cons_self
    obtain ⟨hsilent, htick⟩ := silent_step h hfirst hm
    rw [List.countP_cons, htick, ih hsilent (fun hmem => hkill (List.mem_cons_of_mem _ hmem)) hrest]
    rfl

/-- As long as nobody else sends the alarm signal, the daemon has done at most
one refresh for each interval since the start, and the next one is an interval
later than that: this holds for every order of reads, signals and delays.
Without an interval there is no refresh. -/
theorem refreshPace {cfg : GConfig} {env : ScriptEnv} {start : Int}
    {happenings : List Happening} {s : System}
    (h : runSystem cfg env start happenings = some s) (hkill : .kill .sigalrm ∉ happenings) :
    ∃ inputs, inputs = daemonEvents (happenings.filterMap Happening.poll?) ∧
      runDaemon cfg.config env start inputs = some s.program.daemon ∧
      inputs.countP Input.isTick * cfg.period ≤ s.clock.now ∧
      (Signal.sigalrm ∈ s.clock.pending →
        s.clock.deadline = none ∧ (inputs.countP Input.isTick + 1) * cfg.period ≤ s.clock.now) ∧
      (cfg.period = 0 → inputs.countP Input.isTick = 0) := by
  obtain ⟨d, hboot, hrun⟩ := Option.bind_eq_some_iff.mp h
  obtain ⟨hreceiver, hdaemon⟩ := run_round_cascade (run_system_refines hrun)
  have hcount : (daemonEvents (happenings.filterMap Happening.poll?)).countP Input.isTick =
      happenings.countP Happening.isTick := by
    rw [daemonEvents, countP_emitted hreceiver, countP_polls]
  have hpaced := paced_run (Paced.start Signal.sigalrm cfg.period) hkill hrun
  rw [Nat.zero_add, ← hcount] at hpaced
  refine ⟨_, rfl, ?_, hpaced.taken, ?_, ?_⟩
  · rw [runDaemon, hboot]
    exact hdaemon
  · intro hmem
    refine ⟨?_, hpaced.pending hmem⟩
    cases hdeadline : s.clock.deadline with
    | none => rfl
    | some t => exact absurd hmem (hpaced.deadline t hdeadline).1
  · intro hzero
    have hsilent : Silent Signal.sigalrm (Clock.setAlarm ⟨0, none, ∅⟩ cfg.period) :=
      ⟨if_pos hzero, Finset.notMem_empty Signal.sigalrm⟩
    rw [hcount]
    exact silent_run hsilent hkill hrun

theorem refreshPace_lateRefresh :
    ∃ s inputs, runSystem defaultConfig silentEnv 0 lateRefresh = some s ∧
      inputs = daemonEvents (lateRefresh.filterMap Happening.poll?) ∧
      inputs.countP Input.isTick * defaultConfig.period ≤ s.clock.now := by
  have hsome : (runSystem defaultConfig silentEnv 0 lateRefresh).isSome := by
    decide +kernel
  obtain ⟨s, hs⟩ := Option.isSome_iff_exists.mp hsome
  obtain ⟨inputs, hinputs, _, hpace, _⟩ :=
    refreshPace hs (by simp [lateRefresh])
  exact ⟨s, inputs, hs, hinputs, hpace⟩

end K3ScreenCtrl
