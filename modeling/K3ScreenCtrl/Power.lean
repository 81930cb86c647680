import K3ScreenCtrl.Daemon

/-!
# The screen power

`g_is_screen_on` is written in `handlers.c` and in `signals.c`.  Both write it
next to the request that tells the screen, so the flag follows the last
`EVENT_SLEEP` or `EVENT_WAKEUP` that was sent.

`screenPower` collects what follows for every run: the flag and the requests
agree, only a key wakes the screen and does nothing else, and a tick leaves
the screen on only within the time limit since the last key.
-/

namespace K3ScreenCtrl

open CString History

/-- The requests that turn the screen off and on. -/
def isPowerRequest (payload : List UInt8) : Bool :=
  payload == requestNotifyEvent .sleep || payload == requestNotifyEvent .wakeup

/-- Only event requests are power requests. -/
theorem isPowerRequest_of_type {payload : List UInt8}
    (h : requestType payload ≠ some RequestType.notifyEvent.code) :
    isPowerRequest payload = false := by
  unfold isPowerRequest
  rw [Bool.or_eq_false_iff, beq_eq_false_iff_ne, beq_eq_false_iff_ne]
  constructor
  · intro heq
    exact h (heq ▸ rfl)
  · intro heq
    exact h (heq ▸ rfl)

theorem isPowerRequest_notice {event : Event}
    (h : event = .reboot ∨ event = .reset ∨ event = .upgrade) :
    isPowerRequest (requestNotifyEvent event) = false := by
  rcases h with rfl | rfl | rfl <;> decide

/-- A page payload is no power request. -/
theorem isPowerRequest_pagePayload {page : Page} {t : Tables} {hostPage : Int} {p : List UInt8}
    (h : pagePayload page t hostPage = some p) : isPowerRequest p = false := by
  apply isPowerRequest_of_type
  rw [requestType_pagePayload h]
  cases page <;> decide

/-- A refresh sends no power request. -/
theorem isPowerRequest_refresh {page : Page} {t : Tables} {hostPage : Int}
    {payloads : List (List UInt8)} (h : refreshPayloads page t hostPage = some payloads) :
    ∀ p ∈ payloads, isPowerRequest p = false := by
  intro p hp
  obtain ⟨q, hq⟩ := mem_pagePayloads h hp
  exact isPowerRequest_pagePayload hq

/-- Nor does a refresh with a switch. -/
theorem isPowerRequest_refreshAndSwitch {page : Page} {t : Tables} {hostPage : Int}
    {payloads : List (List UInt8)} (h : refreshPayloads page t hostPage = some payloads) :
    ∀ p ∈ payloads ++ [requestSwitchPage page], isPowerRequest p = false := by
  intro p hp
  rcases List.mem_append.mp hp with hp | hp
  · exact isPowerRequest_refresh h p hp
  · rcases List.mem_singleton.mp hp with rfl
    apply isPowerRequest_of_type
    show some RequestType.switchPage.code ≠ _
    decide

/-- The start-up sends no power request. -/
theorem isPowerRequest_boot {env : ScriptEnv} {start : Int} {d : Daemon}
    (h : boot env start = some d) : ∀ p ∈ d.sent, isPowerRequest p = false := by
  rw [boot_eq] at h
  obtain ⟨payloads, hpayloads, rfl⟩ := Option.map_eq_some_iff.mp h
  intro p hp
  have hp' : p ∈ requestMcuVersion :: payloads ++ [requestSwitchPage .wan] := hp
  rcases List.mem_append.mp hp' with hp' | hp'
  · rcases List.mem_cons.mp hp' with rfl | hp'
    · decide
    · obtain ⟨q, hq⟩ := mem_pagePayloads hpayloads hp'
      exact isPowerRequest_pagePayload hq
  · rcases List.mem_singleton.mp hp' with rfl
    decide

/-! ## The flag -/

/-- The flag is off exactly when the last power request is `EVENT_SLEEP`. -/
def FlagFollows (d : Daemon) : Prop :=
  d.gIsScreenOn = false ↔
    latest isPowerRequest d.sent = some (requestNotifyEvent .sleep)

/-- Sending other requests keeps the flag in step. -/
theorem FlagFollows.sendAll {d d' : Daemon} {payloads : List (List UInt8)} (h : FlagFollows d)
    (hneg : ∀ p ∈ payloads, isPowerRequest p = false) (hsent : d'.sent = d.sent ++ payloads)
    (hflag : d'.gIsScreenOn = d.gIsScreenOn) : FlagFollows d' := by
  unfold FlagFollows at h ⊢
  rw [hsent, latest_append_of_neg hneg, hflag]
  exact h

/-- Turning the screen off. -/
theorem FlagFollows.of_sleep {d : Daemon} {log : List (List UInt8)}
    (hsent : d.sent = log ++ [requestNotifyEvent .sleep]) (hflag : d.gIsScreenOn = false) :
    FlagFollows d := by
  unfold FlagFollows
  rw [hsent, latest_concat_of_pos (by decide), hflag]
  simp

/-- Turning the screen on. -/
theorem FlagFollows.of_wakeup {d : Daemon} {log : List (List UInt8)}
    (hsent : d.sent = log ++ [requestNotifyEvent .wakeup]) (hflag : d.gIsScreenOn = true) :
    FlagFollows d := by
  have hne : requestNotifyEvent .wakeup ≠ requestNotifyEvent .sleep := by decide
  unfold FlagFollows
  rw [hsent, latest_concat_of_pos (by decide), hflag]
  simp [hne]

theorem flagFollows_boot {env : ScriptEnv} {start : Int} {d : Daemon}
    (h : boot env start = some d) : FlagFollows d := by
  have hnone : latest isPowerRequest d.sent = none :=
    latest_eq_none_iff.mpr (isPowerRequest_boot h)
  have hon : d.gIsScreenOn = true := by
    rw [boot_eq] at h
    obtain ⟨payloads, _, rfl⟩ := Option.map_eq_some_iff.mp h
    rfl
  unfold FlagFollows
  rw [hnone, hon]
  show true = false ↔ _
  simp

theorem flagFollows_step {cfg : Config} {d d' : Daemon} {i : Input} (h : FlagFollows d)
    (hstep : step cfg d i = some d') : FlagFollows d' := by
  obtain ⟨_, hcases⟩ := step_cases hstep
  cases hcases with
  | version payload version => exact h
  | empty now => exact h
  | wakeup key rest now hoff => exact .of_wakeup rfl rfl
  | stay key rest now hon => exact h
  | move key rest now hon nav page hostPage payloads htarget hpayloads =>
    exact h.sendAll (isPowerRequest_refreshAndSwitch hpayloads) rfl rfl
  | sleepKey key rest now hon => exact .of_sleep rfl rfl
  | tick env now payloads t ht hpayloads hin =>
    exact h.sendAll (isPowerRequest_refresh hpayloads) rfl rfl
  | tickSleep env now payloads t ht hpayloads hout =>
    exact .of_sleep (List.append_assoc _ _ _).symm rfl
  | notice signal env now event exited hsignal hevent hexited =>
    refine h.sendAll ?_ rfl rfl
    intro p hp
    rcases List.mem_singleton.mp hp with rfl
    exact isPowerRequest_notice hevent

/-! ## The time limit -/

/-- The time of the last key press with a key in it, or `last` if there is
none. -/
def lastKeyTime (last : Int) (i : Input) : Int :=
  match i with
  | .keyPress (_ :: _) now => now
  | _ => last

theorem gLastCheckTime_step {cfg : Config} {d d' : Daemon} {i : Input}
    (hstep : step cfg d i = some d') : d'.gLastCheckTime = lastKeyTime d.gLastCheckTime i := by
  obtain ⟨_, hcases⟩ := step_cases hstep
  cases hcases <;> rfl

/-- A tick that leaves the screen on is within the time limit. -/
theorem on_of_sigalrm {cfg : Config} {d d' : Daemon} {env : ScriptEnv} {now : Int}
    (hstep : step cfg d (.signal .sigalrm env now) = some d') (hon : d'.gIsScreenOn = true) :
    cfg.screenTimeout = 0 ∨ now - d.gLastCheckTime < cfg.screenTimeout := by
  obtain ⟨_, hcases⟩ := step_cases hstep
  cases hcases with
  | tick _ _ payloads t ht hpayloads hin =>
    unfold TimedOut at hin
    omega
  | tickSleep _ _ payloads t ht hpayloads hout => cases hon
  | notice _ _ _ event exited hsignal hevent hexited => exact absurd rfl hsignal

/-! ## Waking up -/

/-- One event and the requests it sends: `EVENT_WAKEUP` is among them only if
the event is a key on a dark screen, and such a key sends nothing else and
does not move. -/
def WakesByKey (d : Daemon) (i : Input) (d' : Daemon) : Prop :=
  ∃ new, d'.sent = d.sent ++ new ∧
    (requestNotifyEvent .wakeup ∈ new →
      ∃ key rest now, i = .keyPress (key :: rest) now ∧ d.gIsScreenOn = false) ∧
    ∀ key rest now, i = .keyPress (key :: rest) now → d.gIsScreenOn = false →
      new = [requestNotifyEvent .wakeup] ∧ d'.gCurrentPage = d.gCurrentPage ∧
        d'.gHostPage = d.gHostPage

theorem WakesByKey.of_neg {d d' : Daemon} {i : Input} {new : List (List UInt8)}
    (hsent : d'.sent = d.sent ++ new) (hneg : ∀ p ∈ new, p ≠ requestNotifyEvent .wakeup)
    (hkey : ∀ key rest now, i = .keyPress (key :: rest) now → d.gIsScreenOn = true) :
    WakesByKey d i d' := by
  refine ⟨new, hsent, ?_, ?_⟩
  · intro hmem
    exact absurd rfl (hneg _ hmem)
  · intro key rest now hi hoff
    rw [hkey key rest now hi] at hoff
    cases hoff

/-- A request that is no power request does not wake the screen. -/
theorem ne_wakeup_of_neg {new : List (List UInt8)} (h : ∀ p ∈ new, isPowerRequest p = false) :
    ∀ p ∈ new, p ≠ requestNotifyEvent .wakeup := by
  intro p hp heq
  have hneg := h p hp
  rw [heq] at hneg
  exact absurd hneg (by decide)

theorem wakesByKey_step {cfg : Config} {d d' : Daemon} {i : Input}
    (hstep : step cfg d i = some d') : WakesByKey d i d' := by
  have hsleep : ∀ p ∈ [requestNotifyEvent .sleep], p ≠ requestNotifyEvent .wakeup := by decide
  obtain ⟨_, hcases⟩ := step_cases hstep
  cases hcases with
  | version payload version =>
    exact .of_neg (List.append_nil _).symm (by simp) (by intro _ _ _ h; cases h)
  | empty now => exact .of_neg (List.append_nil _).symm (by simp) (by intro _ _ _ h; cases h)
  | wakeup key rest now hoff =>
    refine ⟨_, rfl, ?_, ?_⟩
    · intro _
      exact ⟨key, rest, now, rfl, hoff⟩
    · intro _ _ _ _ _
      exact ⟨rfl, rfl, rfl⟩
  | stay key rest now hon =>
    exact .of_neg (List.append_nil _).symm (by simp) (fun _ _ _ _ => hon)
  | move key rest now hon nav page hostPage payloads htarget hpayloads =>
    exact .of_neg rfl (ne_wakeup_of_neg (isPowerRequest_refreshAndSwitch hpayloads))
      (fun _ _ _ _ => hon)
  | sleepKey key rest now hon => exact .of_neg rfl hsleep (fun _ _ _ _ => hon)
  | tick env now payloads t ht hpayloads hin =>
    exact .of_neg rfl (ne_wakeup_of_neg (isPowerRequest_refresh hpayloads))
      (by intro _ _ _ h; cases h)
  | tickSleep env now payloads t ht hpayloads hout =>
    refine .of_neg rfl ?_ (by intro _ _ _ h; cases h)
    intro p hp
    rcases List.mem_append.mp hp with hp | hp
    · exact ne_wakeup_of_neg (isPowerRequest_refresh hpayloads) p hp
    · exact hsleep p hp
  | notice signal env now event exited hsignal hevent hexited =>
    refine .of_neg rfl ?_ (by intro _ _ _ h; cases h)
    apply ne_wakeup_of_neg
    intro p hp
    rcases List.mem_singleton.mp hp with rfl
    exact isPowerRequest_notice hevent

/-! ## Every run -/

/-- The screen power over every run: the flag follows the requests, the
start-up does not wake the screen and afterwards only a key does, and a tick
that ends a run with the screen on was within the time limit. -/
theorem screenPower (cfg : Config) (env : ScriptEnv) (start : Int) (inputs : List Input)
    (d : Daemon) (hrun : runDaemon cfg env start inputs = some d) :
    (d.gIsScreenOn = false ↔
      latest isPowerRequest d.sent = some (requestNotifyEvent .sleep)) ∧
    (∀ d₀, boot env start = some d₀ → requestNotifyEvent .wakeup ∉ d₀.sent) ∧
    (∀ i d', step cfg d i = some d' → WakesByKey d i d') ∧
    (∀ before env' now, inputs = before ++ [.signal .sigalrm env' now] → d.gIsScreenOn = true →
      cfg.screenTimeout = 0 ∨ now - before.foldl lastKeyTime start < cfg.screenTimeout) := by
  obtain ⟨d₀, hboot, hrun⟩ := Option.bind_eq_some_iff.mp hrun
  have hstart : d₀.gLastCheckTime = start := by
    rw [boot_eq] at hboot
    obtain ⟨payloads, _, rfl⟩ := Option.map_eq_some_iff.mp hboot
    rfl
  refine ⟨?_, ?_, ?_, ?_⟩
  · show FlagFollows d
    exact Run.run_invariant (fun _ _ _ => flagFollows_step) (flagFollows_boot hboot) hrun
  · intro d₁ hd₁ hmem
    exact ne_wakeup_of_neg (isPowerRequest_boot hd₁) _ hmem rfl
  · intro i d' hstep
    exact wakesByKey_step hstep
  · intro before env' now hinputs hon
    rw [hinputs, Run.run_append] at hrun
    obtain ⟨m, hbefore, htick⟩ := Option.bind_eq_some_iff.mp hrun
    rw [Run.run_singleton] at htick
    have hlast : m.gLastCheckTime = before.foldl lastKeyTime d₀.gLastCheckTime :=
      Run.run_foldl (fun _ _ _ => gLastCheckTime_step) hbefore
    rw [← hstart, ← hlast]
    exact on_of_sigalrm htick hon

/-- A run in which all scripts fail: the screen is turned off at 3 s and woken
at 5 s, and a tick follows at 9 s. -/
def wokenRun : Option Daemon :=
  runDaemon { screenTimeout := 10 } silentEnv 0
    [.keyPress [KEY_MIDDLE_LONG] 3, .keyPress [KEY_LEFT_SHORT] 5, .signal .sigalrm silentEnv 9]

theorem screenPower_wokenRun :
    ∃ d, wokenRun = some d ∧
      (d.gIsScreenOn = false ↔
        latest isPowerRequest d.sent = some (requestNotifyEvent .sleep)) ∧
      (d.gIsScreenOn = true → (10 : Int) = 0 ∨ (9 : Int) - 5 < 10) := by
  have hsome : wokenRun.isSome := by
    decide +kernel
  obtain ⟨d, hd⟩ := Option.isSome_iff_exists.mp hsome
  obtain ⟨hflag, _, _, htick⟩ := screenPower { screenTimeout := 10 } silentEnv 0
    [.keyPress [KEY_MIDDLE_LONG] 3, .keyPress [KEY_LEFT_SHORT] 5, .signal .sigalrm silentEnv 9]
    d hd
  refine ⟨d, hd, hflag, ?_⟩
  intro hon
  exact htick [.keyPress [KEY_MIDDLE_LONG] 3, .keyPress [KEY_LEFT_SHORT] 5] silentEnv 9 rfl hon

end K3ScreenCtrl
