import K3ScreenCtrl.Lib.History
import K3ScreenCtrl.Lib.Run
import K3ScreenCtrl.Pages

/-!
# The daemon

`handlers.c`, `signals.c` and the part of `main.c` that ties them together: the
start-up, and then one event after the other, a received response or a signal.

The clock is part of an event: `now` is what `time(NULL)` answers while the
event is handled.  A run of the daemon is a run of `step` from the state that
`boot` leaves.
-/

namespace K3ScreenCtrl

open CString

/-- The setting of `CONFIG` that the modelled functions read. -/
structure Config where
  screenTimeout : Int

/-! ## Responses -/

/-- `handle_mcu_version`. -/
def handleMcuVersion (payload : List UInt8) (d : Daemon) : Daemon :=
  match payload with
  | patch0 :: patch1 :: minor :: major :: _ =>
    { d with
      gMcuVersion :=
        { patchVer := patch0.toUInt16 ||| patch1.toUInt16 <<< 8
          minorVer := minor
          majorVer := major } }
  -- malformed: fewer than four bytes
  | _ => d

/-- `refresh_screen_timeout`. -/
def refreshScreenTimeout (now : Int) (d : Daemon) : Daemon := { d with gLastCheckTime := now }

/-- `handle_key_press`. -/
def handleKeyPress (now : Int) (payload : List UInt8) (d : Daemon) : Option Daemon :=
  match payload with
  | [] => some d
  | key :: _ =>
    let d := refreshScreenTimeout now d
    if d.gIsScreenOn = false then
      some { d.send (requestNotifyEvent .wakeup) with gIsScreenOn := true }
    else if key = KEY_LEFT_SHORT then pageSwitchPrev d
    else if key = KEY_RIGHT_SHORT then pageSwitchNext d
    else if key = KEY_MIDDLE_SHORT then pageSwitchTo Page.wan.code d
    else if key = KEY_MIDDLE_LONG then
      some { d.send (requestNotifyEvent .sleep) with gIsScreenOn := false }
    -- the long presses of the left and right key, and unknown keys
    else some d

/-! ## Signals -/

/-- The signals that the signal descriptor delivers. -/
inductive Signal where
  | sigalrm
  | sigterm
  | sigusr1
  | sigusr2
deriving DecidableEq, Repr

/-- `check_screen_timeout`. -/
def checkScreenTimeout (cfg : Config) (now : Int) (d : Daemon) : Daemon :=
  if cfg.screenTimeout ≠ 0 ∧ now - d.gLastCheckTime ≥ cfg.screenTimeout then
    { d with gIsScreenOn := false }.send (requestNotifyEvent .sleep)
  else d

/-- `signal_notify`, after the signal was read. -/
def signalNotify (cfg : Config) (signal : Signal) (env : ScriptEnv) (now : Int) (d : Daemon) :
    Option Daemon :=
  match signal with
  | .sigalrm => (pageRefresh (pageUpdate env d)).map (checkScreenTimeout cfg now)
  | .sigterm => some { d.send (requestNotifyEvent .reboot) with exited := true }
  | .sigusr1 => some (d.send (requestNotifyEvent .reset))
  | .sigusr2 => some (d.send (requestNotifyEvent .upgrade))

/-! ## The program -/

/-- `main`, up to the event loop. -/
def boot (env : ScriptEnv) (now : Int) : Option Daemon :=
  let d := { Daemon.init with tables := (updateAllInfo env Tables.init).2 }
  (pageSendInitialData (d.send requestMcuVersion)).map (refreshScreenTimeout now)

/-- What the event loop can meet: the content of a response behind its type
byte, or a signal with the scripts it runs. -/
inductive Input where
  | keyPress (payload : List UInt8) (now : Int)
  | mcuVersion (payload : List UInt8)
  | signal (signal : Signal) (env : ScriptEnv) (now : Int)

/-- One event. -/
def step (cfg : Config) (d : Daemon) (i : Input) : Option Daemon :=
  if d.exited then none
  else
    match i with
    | .keyPress payload now => handleKeyPress now payload d
    | .mcuVersion payload => some (handleMcuVersion payload d)
    | .signal signal env now => signalNotify cfg signal env now d

/-- A run of the program: the start-up, and then the events. -/
def runDaemon (cfg : Config) (env : ScriptEnv) (start : Int) (inputs : List Input) :
    Option Daemon :=
  (boot env start).bind fun d => Run.run (step cfg) d inputs

/-- A run with one more event. -/
theorem runDaemon_concat (cfg : Config) (env : ScriptEnv) (start : Int) (inputs : List Input)
    (i : Input) :
    runDaemon cfg env start (inputs ++ [i]) =
      (runDaemon cfg env start inputs).bind fun d => step cfg d i := by
  unfold runDaemon
  rw [Option.bind_assoc]
  congr 1
  funext d
  exact Run.run_concat d inputs i

/-! ## What an event does -/

/-- A key on a dark screen turns it on. -/
theorem handleKeyPress_of_off {d : Daemon} (hoff : d.gIsScreenOn = false) (now : Int)
    (key : UInt8) (rest : List UInt8) :
    handleKeyPress now (key :: rest) d =
      some { (refreshScreenTimeout now d).send (requestNotifyEvent .wakeup) with
        gIsScreenOn := true } :=
  if_pos hoff

/-- On a lit screen a key moves, or it turns the screen off, or it does nothing;
which of these depends on the key alone. -/
theorem handleKeyPress_of_on (key : UInt8) :
    (∃ nav : Nav, ∀ now rest d, d.gIsScreenOn = true →
      handleKeyPress now (key :: rest) d = nav.apply (refreshScreenTimeout now d)) ∨
    (∀ now rest d, d.gIsScreenOn = true →
      handleKeyPress now (key :: rest) d =
        some { (refreshScreenTimeout now d).send (requestNotifyEvent .sleep) with
          gIsScreenOn := false }) ∨
    (∀ now rest d, d.gIsScreenOn = true →
      handleKeyPress now (key :: rest) d = some (refreshScreenTimeout now d)) := by
  have hlit : ∀ d : Daemon, d.gIsScreenOn = true → ∀ now,
      ¬ (refreshScreenTimeout now d).gIsScreenOn = false := by
    intro d hon now hoff
    exact absurd (hon.symm.trans hoff) (by decide)
  unfold handleKeyPress
  dsimp only
  by_cases hleft : key = KEY_LEFT_SHORT
  · refine Or.inl ⟨.prev, fun now rest d hon => ?_⟩
    rw [if_neg (hlit d hon now), if_pos hleft]
    rfl
  by_cases hright : key = KEY_RIGHT_SHORT
  · refine Or.inl ⟨.next, fun now rest d hon => ?_⟩
    rw [if_neg (hlit d hon now), if_neg hleft, if_pos hright]
    rfl
  by_cases hmiddle : key = KEY_MIDDLE_SHORT
  · refine Or.inl ⟨.toWan, fun now rest d hon => ?_⟩
    rw [if_neg (hlit d hon now), if_neg hleft, if_neg hright, if_pos hmiddle]
    rfl
  by_cases hlong : key = KEY_MIDDLE_LONG
  · refine Or.inr (Or.inl fun now rest d hon => ?_)
    rw [if_neg (hlit d hon now), if_neg hleft, if_neg hright, if_neg hmiddle, if_pos hlong]
  · refine Or.inr (Or.inr fun now rest d hon => ?_)
    rw [if_neg (hlit d hon now), if_neg hleft, if_neg hright, if_neg hmiddle, if_neg hlong]

/-- The time limit has passed. -/
def TimedOut (cfg : Config) (d : Daemon) (now : Int) : Prop :=
  cfg.screenTimeout ≠ 0 ∧ now - d.gLastCheckTime ≥ cfg.screenTimeout

/-- Everything that one event can do to the state. -/
inductive StepCases (cfg : Config) (d : Daemon) : Input → Daemon → Prop
  | version (payload : List UInt8) (version : McuVersion) :
    StepCases cfg d (.mcuVersion payload) { d with gMcuVersion := version }
  | empty (now : Int) : StepCases cfg d (.keyPress [] now) d
  | wakeup (key : UInt8) (rest : List UInt8) (now : Int) (hoff : d.gIsScreenOn = false) :
    StepCases cfg d (.keyPress (key :: rest) now)
      ({ d with gLastCheckTime := now, gIsScreenOn := true }.sendAll [requestNotifyEvent .wakeup])
  | stay (key : UInt8) (rest : List UInt8) (now : Int) (hon : d.gIsScreenOn = true) :
    StepCases cfg d (.keyPress (key :: rest) now) { d with gLastCheckTime := now }
  | move (key : UInt8) (rest : List UInt8) (now : Int) (hon : d.gIsScreenOn = true) (nav : Nav)
      (page : Page) (hostPage : Int) (payloads : List (List UInt8))
      (htarget : nav.target (getHostsCount d) d.gCurrentPage d.gHostPage = some (page, hostPage))
      (hpayloads : refreshPayloads page d.tables hostPage = some payloads) :
    StepCases cfg d (.keyPress (key :: rest) now)
      ({ d with gLastCheckTime := now, gCurrentPage := page, gHostPage := hostPage }.sendAll
        (payloads ++ [requestSwitchPage page]))
  | sleepKey (key : UInt8) (rest : List UInt8) (now : Int) (hon : d.gIsScreenOn = true) :
    StepCases cfg d (.keyPress (key :: rest) now)
      ({ d with gLastCheckTime := now, gIsScreenOn := false }.sendAll [requestNotifyEvent .sleep])
  | tick (env : ScriptEnv) (now : Int) (payloads : List (List UInt8)) (t : Tables)
      (ht : t = updatedTables env d.gCurrentPage d.tables)
      (hpayloads : refreshPayloads d.gCurrentPage t d.gHostPage = some payloads)
      (hin : ¬ TimedOut cfg d now) :
    StepCases cfg d (.signal .sigalrm env now) ({ d with tables := t }.sendAll payloads)
  | tickSleep (env : ScriptEnv) (now : Int) (payloads : List (List UInt8)) (t : Tables)
      (ht : t = updatedTables env d.gCurrentPage d.tables)
      (hpayloads : refreshPayloads d.gCurrentPage t d.gHostPage = some payloads)
      (hout : TimedOut cfg d now) :
    StepCases cfg d (.signal .sigalrm env now)
      ({ d with tables := t, gIsScreenOn := false }.sendAll
        (payloads ++ [requestNotifyEvent .sleep]))
  | notice (signal : Signal) (env : ScriptEnv) (now : Int) (event : Event) (exited : Bool)
      (hsignal : signal ≠ .sigalrm) (hevent : event = .reboot ∨ event = .reset ∨ event = .upgrade)
      (hexited : signal ≠ .sigterm → exited = d.exited) :
    StepCases cfg d (.signal signal env now)
      ({ d with exited := exited }.sendAll [requestNotifyEvent event])

/-- A key on a lit screen: it does nothing, it moves, or it turns the screen
off. -/
theorem handleKeyPress_cases {cfg : Config} {now : Int} {key : UInt8} {rest : List UInt8}
    {d d' : Daemon} (hon : d.gIsScreenOn = true)
    (h : handleKeyPress now (key :: rest) d = some d') :
    StepCases cfg d (.keyPress (key :: rest) now) d' := by
  rcases handleKeyPress_of_on key with ⟨nav, hkey⟩ | hkey | hkey
  · rw [hkey now rest d hon, Nav.apply_eq] at h
    have hcount : getHostsCount (refreshScreenTimeout now d) = getHostsCount d := rfl
    rw [hcount] at h
    split at h
    · next page hostPage htarget =>
      rw [refreshAndSwitch_eq] at h
      obtain ⟨payloads, hpayloads, rfl⟩ := Option.map_eq_some_iff.mp h
      exact .move key rest now hon nav page hostPage payloads htarget hpayloads
    · cases h
      exact .stay key rest now hon
  · rw [hkey now rest d hon] at h
    cases h
    exact .sleepKey key rest now hon
  · rw [hkey now rest d hon] at h
    cases h
    exact .stay key rest now hon

/-- An event does one of the things that `StepCases` lists. -/
theorem step_cases {cfg : Config} {d d' : Daemon} {i : Input} (h : step cfg d i = some d') :
    d.exited = false ∧ StepCases cfg d i d' := by
  unfold step at h
  split at h
  · cases h
  · next hrunning =>
    refine ⟨by simpa using hrunning, ?_⟩
    cases i with
    | keyPress payload now =>
      cases payload with
      | nil =>
        cases h
        exact .empty now
      | cons key rest =>
        cases hscreen : d.gIsScreenOn with
        | true => exact handleKeyPress_cases hscreen h
        | false =>
          change handleKeyPress now (key :: rest) d = some d' at h
          rw [handleKeyPress_of_off hscreen] at h
          cases h
          exact .wakeup key rest now hscreen
    | mcuVersion payload =>
      cases h
      unfold handleMcuVersion
      split
      · exact .version _ _
      · exact .version _ d.gMcuVersion
    | signal signal env now =>
      cases signal with
      | sigalrm =>
        change (pageRefresh (pageUpdate env d)).map (checkScreenTimeout cfg now) = some d' at h
        rw [pageUpdate_eq, pageRefresh_eq, Option.map_map] at h
        obtain ⟨payloads, hpayloads, rfl⟩ := Option.map_eq_some_iff.mp h
        show StepCases cfg d _ (checkScreenTimeout cfg now (Daemon.sendAll _ payloads))
        unfold checkScreenTimeout
        split
        · next hout =>
          show StepCases cfg d _ ⟨_, _, _, _, _, _, _, d.sent ++ payloads ++ [_]⟩
          rw [List.append_assoc]
          exact .tickSleep env now payloads _ rfl hpayloads hout
        · next hin => exact .tick env now payloads _ rfl hpayloads hin
      | sigterm =>
        cases h
        exact .notice .sigterm env now .reboot true (by decide) (by decide) (absurd rfl)
      | sigusr1 =>
        cases h
        exact .notice .sigusr1 env now .reset d.exited (by decide) (by decide) (fun _ => rfl)
      | sigusr2 =>
        cases h
        exact .notice .sigusr2 env now .upgrade d.exited (by decide) (by decide) (fun _ => rfl)

/-- What the start-up sends: every page and the switch to the first one. -/
theorem boot_eq (env : ScriptEnv) (start : Int) :
    boot env start =
      (pagePayloads (updateAllInfo env Tables.init).2 0
          [.basicInfo, .ports, .wan, .wifi, .hosts]).map fun payloads =>
        { Daemon.init with
          tables := (updateAllInfo env Tables.init).2
          gLastCheckTime := start }.sendAll
            (requestMcuVersion :: payloads ++ [requestSwitchPage .wan]) := by
  have hfold : ∀ d : Daemon, pageSendInitialData d =
      ([Page.basicInfo, .ports, .wan, .wifi, .hosts].foldlM
        (fun d page => sendPageData page d) d).map fun d => d.send (requestSwitchPage .wan) := by
    intro d
    simp only [pageSendInitialData, List.foldlM_cons, List.foldlM_nil, Option.map_eq_bind,
      Option.bind_eq_bind, Option.bind_assoc, Option.pure_def, Option.bind_some,
      Function.comp_apply]
  show (pageSendInitialData _).map _ = _
  rw [hfold, sendPages_eq, Option.map_map, Option.map_map]
  rfl

end K3ScreenCtrl
