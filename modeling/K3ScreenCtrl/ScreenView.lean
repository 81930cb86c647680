import K3ScreenCtrl.Power
import K3ScreenCtrl.RequestFormat
import K3ScreenCtrl.Survival

/-!
# What the screen shows

`Screen` is the other end of the line: it reads the bytes as requests and keeps
what the last request of each type said.  `screen_shows` takes the program from
one end to the other.  Whatever pieces the responses came in, whatever signals
came in between, and whatever the scripts printed, a screen that reads the bytes
of the program shows its state: the page, the tables, and whether it is on.
-/

namespace K3ScreenCtrl

open CString History

/-! ## The screen -/

/-- What a screen keeps of the requests that it gets. -/
structure Screen where
  on : Bool
  page : Option Page
  portInfo : Option PortInfo
  wanInfo : Option WanInfo
  wifiInfo : Option WifiInfo
  hostInfo : Option HostInfo
  basicInfo : Option BasicInfo

/-- A screen behind its reset. -/
def Screen.blank : Screen where
  on := true
  page := none
  portInfo := none
  wanInfo := none
  wifiInfo := none
  hostInfo := none
  basicInfo := none

/-- Only two of the events matter to the power. -/
def onAfter (on : Bool) : Event → Bool
  | .sleep => false
  | .wakeup => true
  | _ => on

/-- The screen behind a request. -/
def Screen.see (s : Screen) : Message → Screen
  | .getMcuVersion => s
  | .switchPage page => { s with page := some page }
  | .updatePorts info => { s with portInfo := some info }
  | .updateWan info => { s with wanInfo := some info }
  | .updateWifi info => { s with wifiInfo := some info }
  | .updateHostsPaged info => { s with hostInfo := some info }
  | .updateBasicInfo info => { s with basicInfo := some info }
  | .notifyEvent event => { s with on := onAfter s.on event }

/-- The screen behind the bytes on its line, if they are requests. -/
def Screen.read (line : List UInt8) : Option Screen :=
  (readRequests line).map fun msgs => msgs.foldl Screen.see .blank

/-- The screen shows the state of the daemon: all tables of fixed size, and the
hosts that belong on the host page while it is shown. -/
structure Screen.Shows (s : Screen) (d : Daemon) : Prop where
  on : s.on = d.gIsScreenOn
  page : s.page = some d.gCurrentPage
  portInfo : s.portInfo = some d.tables.gPortInfo
  wanInfo : s.wanInfo = some d.tables.gWanInfo
  wifiInfo : s.wifiInfo = some d.tables.gWifiInfo
  basicInfo : s.basicInfo = some d.tables.gBasicInfo
  hostInfo : d.gCurrentPage = .hosts → ∃ info,
    requestUpdateHostsPaged d.tables.gHostInfoArray (getHostsCount d)
        (d.gHostPage * HOSTS_PER_PAGE) = some (requestSendRaw .updateHostsPaged info.bytes) ∧
      s.hostInfo = some info

/-! ## What it keeps -/

theorem isRequest_payload (type : RequestType) (msg : Message) :
    isRequest type msg.payload = decide (msg.type = type) :=
  isRequest_requestSendRaw type msg.type msg.data

/-- The request that a part of the screen stands for. -/
def Screen.kept (s : Screen) : RequestType → Option Message
  | .getMcuVersion => none
  | .switchPage => s.page.map .switchPage
  | .updatePorts => s.portInfo.map .updatePorts
  | .updateWan => s.wanInfo.map .updateWan
  | .updateWifi => s.wifiInfo.map .updateWifi
  | .updateHostsPaged => s.hostInfo.map .updateHostsPaged
  | .updateBasicInfo => s.basicInfo.map .updateBasicInfo
  | .notifyEvent => none

variable {type : RequestType}

theorem Screen.kept_see (hversion : type ≠ .getMcuVersion) (hevent : type ≠ .notifyEvent)
    (s : Screen) (msg : Message) :
    (s.see msg).kept type = if msg.type = type then some msg else s.kept type := by
  cases type with
  | getMcuVersion => exact absurd rfl hversion
  | notifyEvent => exact absurd rfl hevent
  | _ => cases msg <;> rfl

/-- The screen keeps the last request of a type. -/
theorem kept_of_latest (hversion : type ≠ .getMcuVersion) (hevent : type ≠ .notifyEvent)
    {msgs : List Message} {msg : Message}
    (hlast : latest (isRequest type) (msgs.map Message.payload) = some msg.payload) :
    (msgs.foldl Screen.see .blank).kept type = some msg := by
  have htype : ∀ m, (isRequest type ∘ Message.payload) m = decide (m.type = type) :=
    isRequest_payload type
  have hkept := @foldl_latest _ (isRequest type ∘ Message.payload) _ _ Screen.see
    (fun s => s.kept type) some
    (fun s m hm => by
      rw [htype] at hm
      rw [Screen.kept_see hversion hevent, if_pos (of_decide_eq_true hm)])
    (fun s m hm => by
      rw [htype] at hm
      rw [Screen.kept_see hversion hevent, if_neg (of_decide_eq_false hm)])
    .blank msgs
  rw [latest_map, Option.map_eq_some_iff] at hlast
  obtain ⟨msg', hlast, hpayload⟩ := hlast
  rw [hlast, Message.payload_injective hpayload] at hkept
  exact hkept

/-- A part of the screen is what the last request of its type said. -/
theorem part_of_latest (hversion : type ≠ .getMcuVersion) (hevent : type ≠ .notifyEvent)
    {β : Type} {part : Screen → Option β} {make : β → Message} (hmake : Function.Injective make)
    (hpart : ∀ s : Screen, s.kept type = (part s).map make) {msgs : List Message} {b : β}
    (hlast : latest (isRequest type) (msgs.map Message.payload) = some (make b).payload) :
    part (msgs.foldl Screen.see .blank) = some b := by
  have hkept := kept_of_latest hversion hevent hlast
  rw [hpart] at hkept
  exact Option.map_injective hmake hkept

/-! ## Power -/

theorem isPowerRequest_payload (msg : Message) :
    isPowerRequest msg.payload = true ↔
      msg = .notifyEvent .sleep ∨ msg = .notifyEvent .wakeup := by
  have hsleep : requestNotifyEvent .sleep = (Message.notifyEvent .sleep).payload := rfl
  have hwakeup : requestNotifyEvent .wakeup = (Message.notifyEvent .wakeup).payload := rfl
  unfold isPowerRequest
  rw [Bool.or_eq_true, beq_iff_eq, beq_iff_eq, hsleep, hwakeup]
  constructor
  · exact Or.imp Message.payload_injective Message.payload_injective
  · exact Or.imp (congrArg Message.payload) (congrArg Message.payload)

/-- Only the two power requests change the power. -/
theorem Screen.on_see (s : Screen) {msg : Message} (h : isPowerRequest msg.payload = false) :
    (s.see msg).on = s.on := by
  cases msg with
  | notifyEvent event =>
    cases event with
    | sleep =>
      rw [(isPowerRequest_payload _).mpr (Or.inl rfl)] at h
      cases h
    | wakeup =>
      rw [(isPowerRequest_payload _).mpr (Or.inr rfl)] at h
      cases h
    | _ => rfl
  | _ => rfl

/-- The screen is on as the flag of the daemon says. -/
theorem on_of_flagFollows {d : Daemon} (h : FlagFollows d) {msgs : List Message}
    (hsent : d.sent = msgs.map Message.payload) :
    (msgs.foldl Screen.see .blank).on = d.gIsScreenOn := by
  have hon := @foldl_latest _ (isPowerRequest ∘ Message.payload) _ _ Screen.see Screen.on
    (fun msg => (Screen.blank.see msg).on)
    (fun s m hm => by
      rcases (isPowerRequest_payload m).mp hm with rfl | rfl <;> rfl)
    (fun s m hm => s.on_see hm)
    .blank msgs
  unfold FlagFollows at h
  rw [hsent, latest_map] at h
  rw [hon]
  cases hlast : latest (isPowerRequest ∘ Message.payload) msgs with
  | none =>
    rw [hlast] at h
    have hflag : d.gIsScreenOn ≠ false := by
      intro hoff
      cases h.mp hoff
    exact (Bool.eq_true_of_not_eq_false hflag).symm
  | some msg =>
    rw [hlast] at h
    have hpower : (isPowerRequest ∘ Message.payload) msg = true := latest_pos hlast
    rcases (isPowerRequest_payload msg).mp hpower with rfl | rfl
    · exact (h.mpr rfl).symm
    · have hflag : d.gIsScreenOn ≠ false := by
        intro hoff
        have hpayload : requestNotifyEvent .wakeup = requestNotifyEvent .sleep :=
          Option.some_inj.mp (h.mp hoff)
        exact absurd hpayload (by decide)
      exact (Bool.eq_true_of_not_eq_false hflag).symm

/-! ## The program -/

/-- A screen that gets the requests of a daemon in step shows its state. -/
theorem shows_of_inStep {d : Daemon} (hd : InStep d) (hflag : FlagFollows d)
    {msgs : List Message} (hsent : d.sent = msgs.map Message.payload) :
    (msgs.foldl Screen.see .blank).Shows d := by
  have hlast : ∀ type, latest (isRequest type) (msgs.map Message.payload) = lastRequest type d := by
    intro type
    rw [lastRequest, hsent]
  have hpage : ∀ q : Page, q ≠ .hosts →
      latest (isRequest q.requestType) (msgs.map Message.payload) =
        pagePayload q d.tables d.gHostPage :=
    fun q hq => (hlast q.requestType).trans (hd.page q fun h => absurd h hq)
  constructor
  · exact on_of_flagFollows hflag hsent
  · exact part_of_latest (by decide) (by decide) (fun _ _ => Message.switchPage.inj)
      (fun _ => rfl) ((hlast .switchPage).trans hd.switched)
  · exact part_of_latest (by decide) (by decide) (fun _ _ => Message.updatePorts.inj)
      (fun _ => rfl) (hpage .ports (by decide))
  · exact part_of_latest (by decide) (by decide) (fun _ _ => Message.updateWan.inj)
      (fun _ => rfl) (hpage .wan (by decide))
  · exact part_of_latest (by decide) (by decide) (fun _ _ => Message.updateWifi.inj)
      (fun _ => rfl) (hpage .wifi (by decide))
  · have hbasic := hpage .basicInfo (by decide)
    rw [pagePayload, requestUpdateBasicInfo_eq hd.sound.basicInfo] at hbasic
    exact part_of_latest (by decide) (by decide) (fun _ _ => Message.updateBasicInfo.inj)
      (fun _ => rfl) hbasic
  · intro hhosts
    obtain ⟨p, hp⟩ := pagePayload_hosts_isSome hd.hostsFit hd.hostPage_nonneg
    have hrequest := (hlast .updateHostsPaged).trans ((hd.page .hosts fun _ => hhosts).trans hp)
    obtain ⟨info, _, rfl⟩ := Option.map_eq_some_iff.mp hp
    exact ⟨info, hp, part_of_latest (by decide) (by decide)
      (fun _ _ => Message.updateHostsPaged.inj) (fun _ => rfl) hrequest⟩

/-- A program that waits in its loop at the end of a run was in step all along,
and so was the flag. -/
theorem inStep_runProgram {cfg : Config} {env : ScriptEnv} (halloc : env.hostBlock.isSome)
    {start : Int} {polls : List Poll} (hpolls : ∀ poll ∈ polls, poll.Allowed) {p : Program}
    (h : runProgram cfg env start polls = some p) : InStep p.daemon ∧ FlagFollows p.daemon := by
  obtain ⟨d, hboot, hrun⟩ := Option.bind_eq_some_iff.mp h
  obtain ⟨d', hboot', hd⟩ := inStep_boot halloc start
  cases hboot.symm.trans hboot'
  have hwaiting := Run.run_invariant_of_forall (P := Program.Waiting)
    (fun _ _ _ hp hpoll hround => (hp.round hpoll hround).2) hpolls
    ⟨rfl, hd, Int.natCast_nonneg _⟩ hrun
  have hflag := Run.run_invariant (P := FlagFollows)
    (fun _ _ _ hflag hstep => flagFollows_step hflag hstep) (flagFollows_boot hboot)
    (run_round_cascade hrun).2
  exact ⟨hwaiting.inStep, hflag⟩

/-- In every run of the event loop in which allocations are granted and that goes
on, a screen that reads the bytes of the program shows its state. -/
theorem screen_shows (cfg : Config) {env : ScriptEnv} (halloc : env.hostBlock.isSome)
    (start : Int) {polls : List Poll} (hpolls : ∀ poll ∈ polls, poll.Allowed) {p : Program}
    (h : runProgram cfg env start polls = some p) :
    ∃ s, Screen.read (p.daemon.sent.flatMap frameSend) = some s ∧ s.Shows p.daemon := by
  obtain ⟨hd, hflag⟩ := inStep_runProgram halloc hpolls h
  obtain ⟨d, hboot, hrun⟩ := Option.bind_eq_some_iff.mp h
  have hdaemon : runDaemon cfg env start (daemonEvents polls) = some p.daemon := by
    rw [runDaemon, hboot]
    exact (run_round_cascade hrun).2
  obtain ⟨msgs, hsent⟩ := sent_eq_messages hdaemon
  refine ⟨msgs.foldl Screen.see .blank, ?_, shows_of_inStep hd hflag hsent⟩
  rw [Screen.read, hsent, readRequests_messages, Option.map_some]

theorem screen_shows_keyPress :
    ∃ p s, runProgram { screenTimeout := 10 } grantedEnv 0 keyPressPolls = some p ∧
      Screen.read (p.daemon.sent.flatMap frameSend) = some s ∧ s.Shows p.daemon := by
  have hsome : (runProgram { screenTimeout := 10 } grantedEnv 0 keyPressPolls).isSome := by
    decide +kernel
  have halloc : grantedEnv.hostBlock.isSome := rfl
  obtain ⟨p, hp⟩ := Option.isSome_iff_exists.mp hsome
  obtain ⟨s, hread, hshows⟩ :=
    screen_shows { screenTimeout := 10 } halloc 0 keyPressPolls_allowed hp
  exact ⟨p, s, hp, hread, hshows⟩

end K3ScreenCtrl
