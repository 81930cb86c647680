import K3ScreenCtrl.RequestBuffers

/-!
# The daemon on its memory

`Daemon` keeps the payloads that it hands to `frame_send`.  `Machine` keeps the
bytes that leave the serial port instead, and each of its requests builds them
in memory that holds something else before every time.

The functions of `pages.c`, `handlers.c` and `signals.c` that send something
are here once more, over the requests of `RequestBuffers`.  `runMachine_eq` is
what comes of it: whatever the memory held, the machine writes the frames of
the payloads that the daemon sends.
-/

namespace K3ScreenCtrl

/-- What the memory of each request holds before it, one request after the
other. -/
abbrev Memory := Nat → RequestMemory

/-- The state of the program, and what `serial_write` wrote.  The payloads are
not kept, so `daemon.sent` stays empty. -/
structure Machine where
  daemon : Daemon
  written : List (List UInt8)

/-- The bytes on the line. -/
def Machine.wire (m : Machine) : List UInt8 := m.written.flatten

/-- A call of a function of `requests.c`. -/
def Machine.request (mem : Memory) (m : Machine)
    (build : RequestMemory → Option (List UInt8)) : Option Machine :=
  (build (mem m.written.length)).map fun bytes => { m with written := m.written ++ [bytes] }

/-- A change of the variables. -/
def Machine.modify (m : Machine) (f : Daemon → Daemon) : Machine :=
  { m with daemon := f m.daemon }

variable (mem : Memory)

/-! ## The functions that send -/

/-- `send_page_data`. -/
def sendPageDataIn (page : Page) (m : Machine) : Option Machine :=
  let t := m.daemon.tables
  match page with
  | .basicInfo =>
    m.request mem fun r =>
      requestUpdateBasicInfoIn r t.gBasicInfo.productName.str t.gBasicInfo.hwVersion.str
        t.gBasicInfo.fwVersion.str t.gBasicInfo.macAddrBase.str
  | .ports => m.request mem fun r => requestUpdatePortsIn r t.gPortInfo
  | .wan =>
    m.request mem fun r =>
      requestUpdateWanIn r t.gWanInfo.isConnected t.gWanInfo.txBytesPerSec
        t.gWanInfo.rxBytesPerSec
  | .wifi => m.request mem fun r => requestUpdateWifiIn r t.gWifiInfo
  | .hosts =>
    m.request mem fun r =>
      requestUpdateHostsPagedIn r t.gHostInfoArray (getHostsCount m.daemon)
        (m.daemon.gHostPage * HOSTS_PER_PAGE)

/-- `page_send_initial_data`. -/
def pageSendInitialDataIn (m : Machine) : Option Machine := do
  let m ← sendPageDataIn mem .basicInfo m
  let m ← sendPageDataIn mem .ports m
  let m ← sendPageDataIn mem .wan m
  let m ← sendPageDataIn mem .wifi m
  let m ← sendPageDataIn mem .hosts m
  m.request mem fun r => requestSwitchPageIn r .wan

/-- `page_refresh`. -/
def pageRefreshIn (m : Machine) : Option Machine :=
  match m.daemon.gCurrentPage with
  | .wan => (sendPageDataIn mem .wan m).bind (sendPageDataIn mem .wifi)
  | page => sendPageDataIn mem page m

/-- `page_refresh(); request_switch_page(g_current_page);` -/
def refreshAndSwitchIn (m : Machine) : Option Machine :=
  (pageRefreshIn mem m).bind fun m =>
    m.request mem fun r => requestSwitchPageIn r m.daemon.gCurrentPage

/-- `page_switch_to`. -/
def pageSwitchToIn (page : Nat) (m : Machine) : Option Machine :=
  match Page.ofCode? page with
  | some page =>
    refreshAndSwitchIn mem (m.modify fun d => { d with gCurrentPage := page, gHostPage := 0 })
  | none => some m

/-- `page_switch_next`. -/
def pageSwitchNextIn (m : Machine) : Option Machine :=
  if m.daemon.gCurrentPage ≠ .hosts then
    if m.daemon.gCurrentPage.code < PAGE_MAX.code then
      refreshAndSwitchIn mem (m.modify fun d => { d with gCurrentPage := d.gCurrentPage.succ })
    else some m
  else if getHostsCount m.daemon - (m.daemon.gHostPage + 1) * HOSTS_PER_PAGE > 0 then
    refreshAndSwitchIn mem (m.modify fun d => { d with gHostPage := d.gHostPage + 1 })
  else some m

/-- `page_switch_prev`. -/
def pageSwitchPrevIn (m : Machine) : Option Machine :=
  if m.daemon.gCurrentPage ≠ .hosts then
    if m.daemon.gCurrentPage.code > PAGE_MIN.code then
      refreshAndSwitchIn mem (m.modify fun d => { d with gCurrentPage := d.gCurrentPage.pred })
    else some m
  else if m.daemon.gHostPage > 0 then
    refreshAndSwitchIn mem (m.modify fun d => { d with gHostPage := d.gHostPage - 1 })
  else refreshAndSwitchIn mem (m.modify fun d => { d with gCurrentPage := d.gCurrentPage.pred })

/-- `handle_key_press`. -/
def handleKeyPressIn (now : Int) (payload : List UInt8) (m : Machine) : Option Machine :=
  match payload with
  | [] => some m
  | key :: _ =>
    let m := m.modify (refreshScreenTimeout now)
    if m.daemon.gIsScreenOn = false then
      (m.request mem fun r => requestNotifyEventIn r .wakeup).map fun m =>
        m.modify fun d => { d with gIsScreenOn := true }
    else if key = KEY_LEFT_SHORT then pageSwitchPrevIn mem m
    else if key = KEY_RIGHT_SHORT then pageSwitchNextIn mem m
    else if key = KEY_MIDDLE_SHORT then pageSwitchToIn mem Page.wan.code m
    else if key = KEY_MIDDLE_LONG then
      (m.request mem fun r => requestNotifyEventIn r .sleep).map fun m =>
        m.modify fun d => { d with gIsScreenOn := false }
    else some m

/-- `check_screen_timeout`. -/
def checkScreenTimeoutIn (cfg : Config) (now : Int) (m : Machine) : Option Machine :=
  if cfg.screenTimeout ≠ 0 ∧ now - m.daemon.gLastCheckTime ≥ cfg.screenTimeout then
    (m.modify fun d => { d with gIsScreenOn := false }).request mem fun r =>
      requestNotifyEventIn r .sleep
  else some m

/-- `signal_notify`, after the signal was read. -/
def signalNotifyIn (cfg : Config) (signal : Signal) (env : ScriptEnv) (now : Int) (m : Machine) :
    Option Machine :=
  match signal with
  | .sigalrm =>
    (pageRefreshIn mem (m.modify (pageUpdate env))).bind (checkScreenTimeoutIn mem cfg now)
  | .sigterm =>
    (m.request mem fun r => requestNotifyEventIn r .reboot).map fun m =>
      m.modify fun d => { d with exited := true }
  | .sigusr1 => m.request mem fun r => requestNotifyEventIn r .reset
  | .sigusr2 => m.request mem fun r => requestNotifyEventIn r .upgrade

/-- `main`, up to the event loop. -/
def bootIn (env : ScriptEnv) (now : Int) : Option Machine := do
  let d := { Daemon.init with tables := (updateAllInfo env Tables.init).2 }
  let m ← Machine.request mem { daemon := d, written := [] } requestMcuVersionIn
  let m ← pageSendInitialDataIn mem m
  return m.modify (refreshScreenTimeout now)

/-- One event. -/
def stepIn (cfg : Config) (m : Machine) (i : Input) : Option Machine :=
  if m.daemon.exited then none
  else
    match i with
    | .keyPress payload now => handleKeyPressIn mem now payload m
    | .mcuVersion payload => some (m.modify (handleMcuVersion payload))
    | .signal signal env now => signalNotifyIn mem cfg signal env now m

/-- A run of the program. -/
def runMachine (cfg : Config) (env : ScriptEnv) (start : Int) (inputs : List Input) :
    Option Machine :=
  (bootIn mem env start).bind fun m => Run.run (stepIn mem cfg) m inputs

/-! ## The machine and the daemon -/

/-- The machine behind the payloads of a daemon. -/
def Daemon.wired (d : Daemon) : Machine where
  daemon := { d with sent := [] }
  written := d.sent.map frameSend

variable {mem}

/-- A request that writes the frame of a payload. -/
theorem Daemon.request_wired (d : Daemon) {build : RequestMemory → Option (List UInt8)}
    {p : List UInt8} (hbuild : ∀ r, build r = frameSendIn r p) (hfits : FitsTxBuffer p) :
    d.wired.request mem build = some (d.send p).wired := by
  have hsent : (d.send p).sent.map frameSend = d.wired.written ++ [frameSend p] := by
    unfold Daemon.send Daemon.wired
    rw [List.map_append, List.map_singleton]
  unfold Machine.request
  rw [hbuild, frameSendIn_eq, if_pos hfits, Option.map_some, ← hsent]
  rfl

theorem requestNotifyEventIn_wired (event : Event) (d : Daemon) :
    (d.wired.request mem fun r => requestNotifyEventIn r event) =
      some (d.send (requestNotifyEvent event)).wired :=
  d.request_wired (fun r => requestNotifyEventIn_eq r event) (fitsTxBuffer_requestNotifyEvent event)

theorem requestSwitchPageIn_wired (page : Page) (d : Daemon) :
    (d.wired.request mem fun r => requestSwitchPageIn r page) =
      some (d.send (requestSwitchPage page)).wired :=
  d.request_wired (fun r => requestSwitchPageIn_eq r page) (fitsTxBuffer_requestSwitchPage page)

/-- The data of a page. -/
theorem sendPageDataIn_wired (page : Page) (d : Daemon) :
    sendPageDataIn mem page d.wired = (sendPageData page d).map Daemon.wired := by
  have hfits : ∀ p, pagePayload page d.tables d.gHostPage = some p → FitsTxBuffer p :=
    fun p hp => fitsTxBuffer_pagePayload hp
  have htables : d.wired.daemon.tables = d.tables := rfl
  unfold sendPageDataIn
  rw [htables]
  cases page with
  | basicInfo =>
    exact d.request_wired (fun r => requestUpdateBasicInfoIn_eq r _ _ _ _) (hfits _ rfl)
  | ports => exact d.request_wired (fun r => requestUpdatePortsIn_eq r _) (hfits _ rfl)
  | wan => exact d.request_wired (fun r => requestUpdateWanIn_eq r _ _ _) (hfits _ rfl)
  | wifi => exact d.request_wired (fun r => requestUpdateWifiIn_eq r _) (hfits _ rfl)
  | hosts =>
    show d.wired.request mem (fun r => requestUpdateHostsPagedIn r d.tables.gHostInfoArray
      (getHostsCount d) (d.gHostPage * HOSTS_PER_PAGE)) =
        ((requestUpdateHostsPaged d.tables.gHostInfoArray (getHostsCount d)
          (d.gHostPage * HOSTS_PER_PAGE)).map d.send).map Daemon.wired
    cases hpaged : requestUpdateHostsPaged d.tables.gHostInfoArray (getHostsCount d)
        (d.gHostPage * HOSTS_PER_PAGE) with
    | none =>
      show (requestUpdateHostsPagedIn _ _ _ _).map _ = none
      rw [requestUpdateHostsPagedIn_eq, hpaged]
      rfl
    | some p =>
      refine d.request_wired (fun r => ?_) (hfits p hpaged)
      rw [requestUpdateHostsPagedIn_eq, hpaged]
      rfl

/-- What the machine does after a step of the daemon. -/
theorem bind_wired {f : Daemon → Option Daemon} {g : Machine → Option Machine}
    (h : ∀ d, g d.wired = (f d).map Daemon.wired) (x : Option Daemon) :
    (x.map Daemon.wired).bind g = (x.bind f).map Daemon.wired := by
  cases x with
  | none => rfl
  | some d => exact h d

/-- What it does after the data of a page. -/
theorem sendPageDataIn_bind_wired (page : Page) {f : Daemon → Option Daemon}
    {g : Machine → Option Machine} (h : ∀ d, g d.wired = (f d).map Daemon.wired) (d : Daemon) :
    (sendPageDataIn mem page d.wired).bind g = ((sendPageData page d).bind f).map Daemon.wired := by
  rw [sendPageDataIn_wired]
  exact bind_wired h _

theorem pageSendInitialDataIn_wired (d : Daemon) :
    pageSendInitialDataIn mem d.wired = (pageSendInitialData d).map Daemon.wired := by
  unfold pageSendInitialDataIn pageSendInitialData
  simp only [Option.bind_eq_bind, Option.pure_def]
  refine sendPageDataIn_bind_wired .basicInfo (fun d => ?_) d
  refine sendPageDataIn_bind_wired .ports (fun d => ?_) d
  refine sendPageDataIn_bind_wired .wan (fun d => ?_) d
  refine sendPageDataIn_bind_wired .wifi (fun d => ?_) d
  refine sendPageDataIn_bind_wired .hosts (fun d => ?_) d
  exact requestSwitchPageIn_wired .wan d

theorem pageRefreshIn_wired (d : Daemon) :
    pageRefreshIn mem d.wired = (pageRefresh d).map Daemon.wired := by
  have hpage : d.wired.daemon.gCurrentPage = d.gCurrentPage := rfl
  unfold pageRefreshIn pageRefresh
  rw [hpage]
  cases d.gCurrentPage with
  | wan => exact sendPageDataIn_bind_wired .wan (sendPageDataIn_wired .wifi) d
  | basicInfo => exact sendPageDataIn_wired _ d
  | ports => exact sendPageDataIn_wired _ d
  | wifi => exact sendPageDataIn_wired _ d
  | hosts => exact sendPageDataIn_wired _ d

theorem refreshAndSwitchIn_wired (d : Daemon) :
    refreshAndSwitchIn mem d.wired = (refreshAndSwitch d).map Daemon.wired := by
  unfold refreshAndSwitchIn refreshAndSwitch
  rw [pageRefreshIn_wired, @Option.map_eq_bind Daemon Daemon (fun d => d.send _)]
  refine bind_wired (fun d => ?_) _
  exact requestSwitchPageIn_wired d.gCurrentPage d

/-! ### The handlers -/

theorem pageSwitchToIn_wired (page : Nat) (d : Daemon) :
    pageSwitchToIn mem page d.wired = (pageSwitchTo page d).map Daemon.wired := by
  unfold pageSwitchToIn pageSwitchTo
  cases Page.ofCode? page with
  | none => rfl
  | some page => exact refreshAndSwitchIn_wired { d with gCurrentPage := page, gHostPage := 0 }

theorem pageSwitchNextIn_wired (d : Daemon) :
    pageSwitchNextIn mem d.wired = (pageSwitchNext d).map Daemon.wired := by
  have hpage : d.wired.daemon.gCurrentPage = d.gCurrentPage := rfl
  have hhostPage : d.wired.daemon.gHostPage = d.gHostPage := rfl
  have hcount : getHostsCount d.wired.daemon = getHostsCount d := rfl
  unfold pageSwitchNextIn pageSwitchNext
  rw [hpage, hhostPage, hcount]
  split
  · split
    · exact refreshAndSwitchIn_wired { d with gCurrentPage := d.gCurrentPage.succ }
    · rfl
  · split
    · exact refreshAndSwitchIn_wired { d with gHostPage := d.gHostPage + 1 }
    · rfl

theorem pageSwitchPrevIn_wired (d : Daemon) :
    pageSwitchPrevIn mem d.wired = (pageSwitchPrev d).map Daemon.wired := by
  have hpage : d.wired.daemon.gCurrentPage = d.gCurrentPage := rfl
  have hhostPage : d.wired.daemon.gHostPage = d.gHostPage := rfl
  unfold pageSwitchPrevIn pageSwitchPrev
  rw [hpage, hhostPage]
  split
  · split
    · exact refreshAndSwitchIn_wired { d with gCurrentPage := d.gCurrentPage.pred }
    · rfl
  · split
    · exact refreshAndSwitchIn_wired { d with gHostPage := d.gHostPage - 1 }
    · exact refreshAndSwitchIn_wired { d with gCurrentPage := d.gCurrentPage.pred }

theorem handleKeyPressIn_wired (now : Int) (payload : List UInt8) (d : Daemon) :
    handleKeyPressIn mem now payload d.wired = (handleKeyPress now payload d).map Daemon.wired := by
  cases payload with
  | nil => rfl
  | cons key rest =>
    have hmodify : d.wired.modify (refreshScreenTimeout now) =
        (refreshScreenTimeout now d).wired := rfl
    unfold handleKeyPressIn handleKeyPress
    dsimp only
    rw [hmodify]
    generalize refreshScreenTimeout now d = d
    have hscreen : d.wired.daemon.gIsScreenOn = d.gIsScreenOn := rfl
    rw [hscreen, requestNotifyEventIn_wired, requestNotifyEventIn_wired]
    split
    · rfl
    · split
      · exact pageSwitchPrevIn_wired d
      · split
        · exact pageSwitchNextIn_wired d
        · split
          · exact pageSwitchToIn_wired _ d
          · split <;> rfl

theorem checkScreenTimeoutIn_wired (cfg : Config) (now : Int) (d : Daemon) :
    checkScreenTimeoutIn mem cfg now d.wired = some (checkScreenTimeout cfg now d).wired := by
  have htime : d.wired.daemon.gLastCheckTime = d.gLastCheckTime := rfl
  unfold checkScreenTimeoutIn checkScreenTimeout
  rw [htime]
  split
  · exact requestNotifyEventIn_wired .sleep { d with gIsScreenOn := false }
  · rfl

theorem modify_pageUpdate_wired (env : ScriptEnv) (d : Daemon) :
    d.wired.modify (pageUpdate env) = (pageUpdate env d).wired := by
  unfold Machine.modify
  rw [pageUpdate_eq, pageUpdate_eq]
  rfl

theorem signalNotifyIn_wired (cfg : Config) (signal : Signal) (env : ScriptEnv) (now : Int)
    (d : Daemon) :
    signalNotifyIn mem cfg signal env now d.wired =
      (signalNotify cfg signal env now d).map Daemon.wired := by
  unfold signalNotifyIn signalNotify
  cases signal with
  | sigalrm =>
    dsimp only
    rw [modify_pageUpdate_wired, pageRefreshIn_wired,
      @Option.map_eq_bind Daemon Daemon (checkScreenTimeout cfg now)]
    exact bind_wired (fun d => checkScreenTimeoutIn_wired cfg now d) _
  | sigterm =>
    dsimp only
    rw [requestNotifyEventIn_wired]
    rfl
  | sigusr1 => exact requestNotifyEventIn_wired .reset d
  | sigusr2 => exact requestNotifyEventIn_wired .upgrade d

theorem modify_handleMcuVersion_wired (payload : List UInt8) (d : Daemon) :
    d.wired.modify (handleMcuVersion payload) = (handleMcuVersion payload d).wired := by
  unfold Machine.modify handleMcuVersion
  split <;> rfl

theorem stepIn_wired (cfg : Config) (d : Daemon) (i : Input) :
    stepIn mem cfg d.wired i = (step cfg d i).map Daemon.wired := by
  have hexited : d.wired.daemon.exited = d.exited := rfl
  unfold stepIn step
  rw [hexited]
  split
  · rfl
  · cases i with
    | keyPress payload now => exact handleKeyPressIn_wired now payload d
    | mcuVersion payload => exact congrArg some (modify_handleMcuVersion_wired payload d)
    | signal signal env now => exact signalNotifyIn_wired cfg signal env now d

theorem bootIn_wired (env : ScriptEnv) (now : Int) :
    bootIn mem env now = (boot env now).map Daemon.wired := by
  have hboot : ∀ d : Daemon, ((d.wired.request mem requestMcuVersionIn).bind fun m =>
      (pageSendInitialDataIn mem m).bind fun m => some (m.modify (refreshScreenTimeout now))) =
        ((pageSendInitialData (d.send requestMcuVersion)).map
          (refreshScreenTimeout now)).map Daemon.wired := by
    intro d
    rw [d.request_wired requestMcuVersionIn_eq fitsTxBuffer_requestMcuVersion, Option.bind_some,
      pageSendInitialDataIn_wired, @Option.map_eq_bind Daemon Daemon (refreshScreenTimeout now)]
    exact bind_wired (fun d => rfl) _
  exact hboot { Daemon.init with tables := (updateAllInfo env Tables.init).2 }

/-- Whatever the memory of the requests held, the machine is the daemon with
the frames of its payloads. -/
theorem runMachine_eq (mem : Memory) (cfg : Config) (env : ScriptEnv) (start : Int)
    (inputs : List Input) :
    runMachine mem cfg env start inputs = (runDaemon cfg env start inputs).map Daemon.wired := by
  unfold runMachine runDaemon
  rw [bootIn_wired]
  exact bind_wired (fun d => Run.run_map (fun d i _ => stepIn_wired cfg d i) d) _

end K3ScreenCtrl
