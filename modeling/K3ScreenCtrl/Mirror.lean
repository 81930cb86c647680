import K3ScreenCtrl.RequestFormat
import K3ScreenCtrl.TableInvariants

/-!
# The screen mirrors the daemon

The screen keeps the last request of each type.  `screenMirrors` says that, in
every run that meets no refused allocation, what it keeps is what the daemon
holds: the current page, the four tables of fixed size, and, while the host
page is shown, the part of the host table that belongs on it.

These requests tell what the daemon holds: `eq_of_lastRequest_eq` reads the page,
the tables and the slots of the host page off them.

`InStep` is the invariant that carries this.  A request of one type leaves the
last requests of the other types alone (`latest_pagePayload`), an update
changes only what the next refresh sends (`pagePayload_updatedTables`), and a
move sends the new page before it switches (`latest_pagePayloads`).
-/

namespace K3ScreenCtrl

open CString History

/-! ## The last request of a type -/

/-- A payload is a request of a type. -/
def isRequest (type : RequestType) (payload : List UInt8) : Bool :=
  requestType payload == some type.code

/-- The last request of a type that was sent. -/
def lastRequest (type : RequestType) (d : Daemon) : Option (List UInt8) :=
  latest (isRequest type) d.sent

theorem isRequest_requestSendRaw (type other : RequestType) (data : List UInt8) :
    isRequest type (requestSendRaw other data) = decide (other = type) := by
  unfold isRequest
  rw [requestType_requestSendRaw]
  by_cases h : other = type
  · simp [h]
  · have hcode : other.code ≠ type.code := fun hcode => h (RequestType.code_injective hcode)
    simp [h, hcode]

theorem isRequest_pagePayload {page : Page} {t : Tables} {hostPage : Int} {p : List UInt8}
    (h : pagePayload page t hostPage = some p) (type : RequestType) :
    isRequest type p = decide (page.requestType = type) := by
  unfold isRequest
  rw [requestType_pagePayload h]
  by_cases heq : page.requestType = type
  · simp [heq]
  · have hcode : page.requestType.code ≠ type.code :=
      fun hcode => heq (RequestType.code_injective hcode)
    simp [heq, hcode]

/-- Sending the data of one page. -/
theorem latest_pagePayload {page : Page} {t : Tables} {hostPage : Int} {p : List UInt8}
    (h : pagePayload page t hostPage = some p) (q : Page) (log : List (List UInt8)) :
    latest (isRequest q.requestType) (log ++ [p]) =
      if q = page then pagePayload q t hostPage else latest (isRequest q.requestType) log := by
  split
  · next heq =>
    rw [heq, h]
    apply latest_concat_of_pos
    rw [isRequest_pagePayload h]
    simp
  · next hne =>
    apply latest_append_of_neg
    intro a ha
    rcases List.mem_singleton.mp ha with rfl
    rw [isRequest_pagePayload h]
    have htype : page.requestType ≠ q.requestType :=
      fun heq => hne (Page.requestType_injective heq).symm
    simp [htype]

/-- Sending the data of some pages replaces their last requests. -/
theorem latest_pagePayloads {t : Tables} {hostPage : Int} {pages : List Page}
    {payloads : List (List UInt8)} (h : pagePayloads t hostPage pages = some payloads) (q : Page)
    (log : List (List UInt8)) :
    latest (isRequest q.requestType) (log ++ payloads) =
      if q ∈ pages then pagePayload q t hostPage else latest (isRequest q.requestType) log := by
  induction pages generalizing payloads log with
  | nil =>
    cases h
    rw [List.append_nil]
    rfl
  | cons page pages ih =>
    obtain ⟨p, ps, hp, hps, rfl⟩ := pagePayloads_cons_eq_some h
    rw [List.append_cons, ih hps, latest_pagePayload hp]
    by_cases hq : q ∈ pages
    · simp [hq]
    · simp [hq]

/-- Switch and event requests carry no page data. -/
theorem isRequest_page_requestSendRaw (q : Page) {type : RequestType}
    (h : type = .switchPage ∨ type = .notifyEvent) (data : List UInt8) :
    isRequest q.requestType (requestSendRaw type data) = false := by
  rw [isRequest_requestSendRaw]
  rcases h with rfl | rfl <;> cases q <;> rfl

/-- Event requests carry no page data. -/
theorem isRequest_page_event (q : Page) (event : Event) :
    ∀ p ∈ [requestNotifyEvent event], isRequest q.requestType p = false := by
  intro p hp
  rcases List.mem_singleton.mp hp with rfl
  exact isRequest_page_requestSendRaw q (Or.inr rfl) _

theorem isRequest_page_switch (q page : Page) :
    ∀ p ∈ [requestSwitchPage page], isRequest q.requestType p = false := by
  intro p hp
  rcases List.mem_singleton.mp hp with rfl
  exact isRequest_page_requestSendRaw q (Or.inl rfl) _

/-- A refresh sends no switch. -/
theorem isRequest_switchPage_refresh {page : Page} {t : Tables} {hostPage : Int}
    {payloads : List (List UInt8)} (h : refreshPayloads page t hostPage = some payloads) :
    ∀ p ∈ payloads, isRequest .switchPage p = false := by
  intro p hp
  obtain ⟨q, hq⟩ := mem_pagePayloads h hp
  rw [isRequest_pagePayload hq]
  cases q <;> rfl

/-! ## The invariant -/

/-- The daemon is running, its tables are good, and the last requests agree
with them.  The host request has to agree only while the host page is shown. -/
structure InStep (d : Daemon) : Prop where
  running : d.exited = false
  hostPage_nonneg : 0 ≤ d.gHostPage
  sound : d.tables.Sound
  hostsFit : d.tables.HostsFit
  switched : lastRequest .switchPage d = some (requestSwitchPage d.gCurrentPage)
  page : ∀ q : Page, (q = .hosts → d.gCurrentPage = .hosts) →
    lastRequest q.requestType d = pagePayload q d.tables d.gHostPage

/-- An event that neither ends the process nor meets a refused allocation. -/
def Input.Allowed : Input → Prop
  | .signal .sigalrm env _ => env.hostBlock.isSome
  | .signal .sigterm _ _ => False
  | _ => True

/-- A move never leads to a negative host page. -/
theorem Nav.target_nonneg {nav : Nav} {count : Int} {page page' : Page} {hostPage hostPage' : Int}
    (h : nav.target count page hostPage = some (page', hostPage')) (hpage : 0 ≤ hostPage) :
    0 ≤ hostPage' := by
  unfold Nav.target at h
  split at h
  · cases h
    omega
  · split at h
    · cases h
      omega
    · cases h
  · cases h
    exact hpage
  · cases h
  · split at h
    · cases h
      omega
    · cases h
      exact hpage
  · cases h
    exact hpage

/-- After sending some pages and then requests of other kinds, those pages
agree, and the others do as before. -/
theorem lastRequest_of_sent {d : Daemon} {log payloads others : List (List UInt8)}
    {pages : List Page} (hsent : d.sent = log ++ (payloads ++ others))
    (hpayloads : pagePayloads d.tables d.gHostPage pages = some payloads)
    (hothers : ∀ q : Page, ∀ p ∈ others, isRequest q.requestType p = false) (q : Page) :
    lastRequest q.requestType d =
      if q ∈ pages then pagePayload q d.tables d.gHostPage
      else latest (isRequest q.requestType) log := by
  unfold lastRequest
  rw [hsent, ← List.append_assoc, latest_append_of_neg (hothers q), latest_pagePayloads hpayloads]

/-- An event that sends only event requests and touches neither tables nor
pages. -/
theorem InStep.of_event {d d' : Daemon} {event : Event} (h : InStep d)
    (hrunning : d'.exited = false) (htables : d'.tables = d.tables)
    (hhostPage : d'.gHostPage = d.gHostPage) (hpage : d'.gCurrentPage = d.gCurrentPage)
    (hsent : d'.sent = d.sent ++ [requestNotifyEvent event]) : InStep d' := by
  refine ⟨hrunning, hhostPage ▸ h.hostPage_nonneg, htables ▸ h.sound, htables ▸ h.hostsFit, ?_, ?_⟩
  · unfold lastRequest
    rw [hsent, latest_append_of_neg (by simp [requestNotifyEvent, isRequest_requestSendRaw]), hpage]
    exact h.switched
  · intro q hq
    unfold lastRequest
    rw [hsent, latest_append_of_neg, htables, hhostPage]
    · exact h.page q (fun heq => hpage ▸ hq heq)
    · intro p hp
      rcases List.mem_singleton.mp hp with rfl
      exact isRequest_page_requestSendRaw q (Or.inr rfl) _

/-- A move to a page that sends the page and switches to it. -/
theorem InStep.of_move {d d' : Daemon} {payloads : List (List UInt8)} (h : InStep d)
    (hrunning : d'.exited = false) (htables : d'.tables = d.tables) (hhostPage : 0 ≤ d'.gHostPage)
    (hpayloads : refreshPayloads d'.gCurrentPage d'.tables d'.gHostPage = some payloads)
    (hsent : d'.sent = d.sent ++ (payloads ++ [requestSwitchPage d'.gCurrentPage])) :
    InStep d' := by
  refine ⟨hrunning, hhostPage, htables ▸ h.sound, htables ▸ h.hostsFit, ?_, ?_⟩
  · unfold lastRequest
    rw [hsent, ← List.append_assoc]
    apply latest_concat_of_pos
    exact isRequest_requestSendRaw _ _ _
  · intro q hq
    rw [lastRequest_of_sent hsent hpayloads]
    · split
      · rfl
      · next hnot =>
        have hne : q ≠ .hosts := by
          intro heq
          apply hnot
          rw [hq heq, heq]
          exact mem_refreshedPages _
        -- the other pages of fixed size send the same wherever the cursor is
        have hsame : pagePayload q d'.tables d'.gHostPage = pagePayload q d.tables d.gHostPage := by
          rw [htables]
          cases q <;> first | rfl | exact absurd rfl hne
        rw [hsame]
        exact h.page q (fun heq => absurd heq hne)
    · intro q p hp
      rcases List.mem_singleton.mp hp with rfl
      exact isRequest_page_requestSendRaw q (Or.inl rfl) _

/-- A tick that updates the tables of the current page, sends that page, and
possibly turns the screen off. -/
theorem InStep.of_tick {d d' : Daemon} {env : ScriptEnv} {payloads others : List (List UInt8)}
    (h : InStep d) (halloc : env.hostBlock.isSome) (hrunning : d'.exited = false)
    (htables : d'.tables = updatedTables env d.gCurrentPage d.tables)
    (hhostPage : d'.gHostPage = d.gHostPage) (hpage : d'.gCurrentPage = d.gCurrentPage)
    (hpayloads : refreshPayloads d.gCurrentPage d'.tables d.gHostPage = some payloads)
    (hsent : d'.sent = d.sent ++ (payloads ++ others))
    (hothers : ∀ p ∈ others, ∃ event, p = requestNotifyEvent event) : InStep d' := by
  have hnot : ∀ q : Page, ∀ p ∈ others, isRequest q.requestType p = false := by
    intro q p hp
    obtain ⟨event, rfl⟩ := hothers p hp
    exact isRequest_page_requestSendRaw q (Or.inr rfl) _
  refine ⟨hrunning, hhostPage ▸ h.hostPage_nonneg, ?_, ?_, ?_, ?_⟩
  · rw [htables]
    exact updatedTables_invariant (fun page t ht => ht.updatePageInfo env page) _ h.sound
  · rw [htables]
    exact updatedTables_invariant (fun page t ht => ht.updatePageInfo halloc page) _ h.hostsFit
  · unfold lastRequest
    rw [hsent, latest_append_of_neg, hpage]
    · exact h.switched
    · intro p hp
      rcases List.mem_append.mp hp with hp | hp
      · exact isRequest_switchPage_refresh hpayloads p hp
      · obtain ⟨event, rfl⟩ := hothers p hp
        exact isRequest_requestSendRaw _ _ _
  · intro q hq
    rw [← hhostPage] at hpayloads
    rw [lastRequest_of_sent hsent hpayloads hnot]
    split
    · rfl
    · next hout =>
      rw [htables, pagePayload_updatedTables hout, hhostPage]
      exact h.page q (fun heq => hpage ▸ hq heq)

/-- Every allowed event keeps the screen in step. -/
theorem InStep.step {cfg : Config} {d d' : Daemon} {i : Input} (h : InStep d) (hi : i.Allowed)
    (hstep : step cfg d i = some d') : InStep d' := by
  obtain ⟨_, hcases⟩ := step_cases hstep
  cases hcases with
  | version payload version => exact { h with }
  | empty now => exact h
  | wakeup key rest now hoff => exact h.of_event h.running rfl rfl rfl rfl
  | stay key rest now hon => exact { h with }
  | move key rest now hon nav page hostPage payloads htarget hpayloads =>
    exact h.of_move h.running rfl (Nav.target_nonneg htarget h.hostPage_nonneg) hpayloads rfl
  | sleepKey key rest now hon => exact h.of_event h.running rfl rfl rfl rfl
  | tick env now payloads t ht hpayloads hin =>
    have hsent : d.sent ++ payloads = d.sent ++ (payloads ++ []) := by rw [List.append_nil]
    exact h.of_tick hi h.running ht rfl rfl hpayloads hsent (by simp)
  | tickSleep env now payloads t ht hpayloads hout =>
    exact h.of_tick hi h.running ht rfl rfl hpayloads rfl (by simp)
  | notice signal env now event exited hsignal hevent hexited =>
    have hterm : signal ≠ .sigterm := by
      intro heq
      rw [heq] at hi
      exact hi
    refine h.of_event ?_ rfl rfl rfl rfl
    show exited = false
    rw [hexited hterm]
    exact h.running

/-! ## Runs do not fail -/

/-- A move from a state with a readable host table succeeds. -/
theorem Nav.apply_isSome {d : Daemon} (hfit : d.tables.HostsFit) (hpage : 0 ≤ d.gHostPage)
    (nav : Nav) : ∃ d', nav.apply d = some d' := by
  rw [Nav.apply_eq]
  split
  · next page hostPage htarget =>
    obtain ⟨payloads, hpayloads⟩ :=
      pagePayloads_isSome hfit (Nav.target_nonneg htarget hpage) (refreshedPages page)
    rw [refreshAndSwitch_eq]
    exact ⟨_, Option.map_eq_some_iff.mpr ⟨payloads, hpayloads, rfl⟩⟩
  · exact ⟨d, rfl⟩

/-- Every allowed event is handled. -/
theorem InStep.step_isSome {d : Daemon} {i : Input} (h : InStep d) (hi : i.Allowed)
    (cfg : Config) : ∃ d', K3ScreenCtrl.step cfg d i = some d' := by
  unfold K3ScreenCtrl.step
  rw [if_neg (by simp [h.running])]
  cases i with
  | mcuVersion payload => exact ⟨_, rfl⟩
  | keyPress payload now =>
    cases payload with
    | nil => exact ⟨d, rfl⟩
    | cons key rest =>
      show ∃ d', handleKeyPress now (key :: rest) d = some d'
      cases hscreen : d.gIsScreenOn with
      | false => exact ⟨_, handleKeyPress_of_off hscreen now key rest⟩
      | true =>
        rcases handleKeyPress_of_on key with ⟨nav, hkey⟩ | hkey | hkey
        · rw [hkey now rest d hscreen]
          exact @Nav.apply_isSome (refreshScreenTimeout now d) h.hostsFit h.hostPage_nonneg nav
        · exact ⟨_, hkey now rest d hscreen⟩
        · exact ⟨_, hkey now rest d hscreen⟩
  | signal signal env now =>
    cases signal with
    | sigterm => exact absurd hi (fun h => h)
    | sigusr1 => exact ⟨_, rfl⟩
    | sigusr2 => exact ⟨_, rfl⟩
    | sigalrm =>
      have hfit : (updatedTables env d.gCurrentPage d.tables).HostsFit :=
        updatedTables_invariant (fun page t ht => ht.updatePageInfo hi page) _ h.hostsFit
      obtain ⟨payloads, hpayloads⟩ :=
        pagePayloads_isSome hfit h.hostPage_nonneg (refreshedPages d.gCurrentPage)
      show ∃ d', (pageRefresh (pageUpdate env d)).map (checkScreenTimeout cfg now) = some d'
      rw [pageUpdate_eq, pageRefresh_eq, Option.map_map]
      exact ⟨_, Option.map_eq_some_iff.mpr ⟨payloads, hpayloads, rfl⟩⟩

/-- The start-up leaves the screen in step. -/
theorem inStep_boot {env : ScriptEnv} (halloc : env.hostBlock.isSome) (start : Int) :
    ∃ d, boot env start = some d ∧ InStep d := by
  have hsound : (updateAllInfo env Tables.init).2.Sound :=
    updateAllInfo_invariant (fun page t ht => ht.updatePageInfo env page) Tables.sound_init
  have hfit : (updateAllInfo env Tables.init).2.HostsFit :=
    updateAllInfo_invariant (fun page t ht => ht.updatePageInfo halloc page) Tables.hostsFit_init
  obtain ⟨payloads, hpayloads⟩ :=
    pagePayloads_isSome hfit (Int.le_refl 0) [.basicInfo, .ports, .wan, .wifi, .hosts]
  rw [boot_eq]
  refine ⟨_, Option.map_eq_some_iff.mpr ⟨payloads, hpayloads, rfl⟩, ?_⟩
  refine ⟨rfl, Int.le_refl 0, hsound, hfit, ?_, ?_⟩
  · have hswitch : isRequest .switchPage (requestSwitchPage .wan) = true :=
      isRequest_requestSendRaw _ _ _
    exact latest_concat_of_pos hswitch (requestMcuVersion :: payloads)
  · intro q _
    have hothers : ∀ q : Page, ∀ p ∈ [requestSwitchPage .wan],
        isRequest q.requestType p = false := by
      intro q p hp
      rcases List.mem_singleton.mp hp with rfl
      exact isRequest_page_requestSendRaw q (Or.inl rfl) _
    have hmem : q ∈ [Page.basicInfo, .ports, .wan, .wifi, .hosts] := by
      cases q <;> decide
    rw [@lastRequest_of_sent _ [requestMcuVersion] _ _ _ rfl hpayloads hothers q, if_pos hmem]

/-! ## What the requests tell -/

/-- What the screen keeps tells daemons in step apart: behind the same last
requests there are the same page and the same tables of fixed size, and on the
host page the same slots with the same total. -/
theorem eq_of_lastRequest_eq {d d' : Daemon} (hd : InStep d) (hd' : InStep d')
    (h : ∀ type, lastRequest type d = lastRequest type d') :
    d.gCurrentPage = d'.gCurrentPage ∧ d.tables.gBasicInfo = d'.tables.gBasicInfo ∧
      d.tables.gPortInfo = d'.tables.gPortInfo ∧ d.tables.gWanInfo = d'.tables.gWanInfo ∧
      d.tables.gWifiInfo = d'.tables.gWifiInfo ∧
      (d.gCurrentPage = .hosts → ∀ info info' : HostInfo,
        pagePayload .hosts d.tables d.gHostPage =
          some (requestSendRaw .updateHostsPaged info.bytes) →
        pagePayload .hosts d'.tables d'.gHostPage =
          some (requestSendRaw .updateHostsPaged info'.bytes) → info = info') := by
  have hsame : ∀ msg msg' : Message, some msg.payload = some msg'.payload → msg = msg' :=
    fun _ _ heq => Message.payload_injective (Option.some_inj.mp heq)
  have hfixed : ∀ q : Page, q ≠ .hosts →
      pagePayload q d.tables d.gHostPage = pagePayload q d'.tables d'.gHostPage := by
    intro q hq
    rw [← hd.page q fun heq => absurd heq hq, ← hd'.page q fun heq => absurd heq hq]
    exact h q.requestType
  have hswitch := h .switchPage
  rw [hd.switched, hd'.switched] at hswitch
  have hpage := Message.switchPage.inj (hsame (.switchPage _) (.switchPage _) hswitch)
  have hbasic := hfixed .basicInfo (by decide)
  rw [pagePayload, pagePayload, requestUpdateBasicInfo_eq hd.sound.basicInfo,
    requestUpdateBasicInfo_eq hd'.sound.basicInfo] at hbasic
  refine ⟨hpage, ?_, ?_, ?_, ?_, ?_⟩
  · exact Message.updateBasicInfo.inj (hsame (.updateBasicInfo _) (.updateBasicInfo _) hbasic)
  · exact Message.updatePorts.inj
      (hsame (.updatePorts _) (.updatePorts _) (hfixed .ports (by decide)))
  · exact Message.updateWan.inj (hsame (.updateWan _) (.updateWan _) (hfixed .wan (by decide)))
  · exact Message.updateWifi.inj
      (hsame (.updateWifi _) (.updateWifi _) (hfixed .wifi (by decide)))
  · intro hhosts info info' hinfo hinfo'
    have hrequest := h Page.hosts.requestType
    rw [hd.page .hosts fun _ => hhosts, hd'.page .hosts fun _ => hpage ▸ hhosts, hinfo,
      hinfo'] at hrequest
    exact Message.updateHostsPaged.inj
      (hsame (.updateHostsPaged _) (.updateHostsPaged _) hrequest)

/-! ## Every run -/

/-- Every run without a refused allocation goes to its end, in step with the
screen. -/
theorem inStep_runDaemon {cfg : Config} {env : ScriptEnv} (halloc : env.hostBlock.isSome)
    (start : Int) {inputs : List Input} (hinputs : ∀ i ∈ inputs, i.Allowed) :
    ∃ d, runDaemon cfg env start inputs = some d ∧ InStep d := by
  obtain ⟨d₀, hboot, hd₀⟩ := inStep_boot halloc start
  have hstep : ∀ s i, InStep s → i.Allowed →
      ∃ s', K3ScreenCtrl.step cfg s i = some s' ∧ InStep s' := by
    intro s i hs hi
    obtain ⟨s', hs'⟩ := hs.step_isSome hi cfg
    exact ⟨s', hs', hs.step hi hs'⟩
  obtain ⟨d, hrun, hd⟩ := Run.run_total hstep hinputs hd₀
  refine ⟨d, ?_, hd⟩
  rw [runDaemon, hboot, Option.bind_some, hrun]

/-- In every run without a refused allocation, after every event, the last
switch carries the current page, the last request of each table carries the
table, and on the host page the last host request carries the records from
`g_host_page * HOSTS_PER_PAGE` on. -/
theorem screenMirrors (cfg : Config) (env : ScriptEnv) (start : Int) (inputs : List Input)
    (halloc : env.hostBlock.isSome) (hinputs : ∀ i ∈ inputs, i.Allowed) :
    ∃ d, runDaemon cfg env start inputs = some d ∧
      lastRequest .switchPage d = some (requestSwitchPage d.gCurrentPage) ∧
      lastRequest .updateBasicInfo d =
        some (requestSendRaw .updateBasicInfo d.tables.gBasicInfo.bytes) ∧
      lastRequest .updatePorts d = some (requestSendRaw .updatePorts d.tables.gPortInfo.bytes) ∧
      lastRequest .updateWan d = some (requestSendRaw .updateWan d.tables.gWanInfo.bytes) ∧
      lastRequest .updateWifi d = some (requestSendRaw .updateWifi d.tables.gWifiInfo.bytes) ∧
      (d.gCurrentPage = .hosts →
        ∃ p, requestUpdateHostsPaged d.tables.gHostInfoArray (getHostsCount d)
            (d.gHostPage * HOSTS_PER_PAGE) = some p ∧
          lastRequest .updateHostsPaged d = some p) := by
  obtain ⟨d, hrun, hd⟩ := @inStep_runDaemon cfg env halloc start inputs hinputs
  refine ⟨d, hrun, hd.switched, ?_, ?_, ?_, ?_, ?_⟩
  · have hpage := hd.page .basicInfo (by intro h; cases h)
    rw [pagePayload, requestUpdateBasicInfo_eq hd.sound.basicInfo] at hpage
    exact hpage
  · exact hd.page .ports (by intro h; cases h)
  · exact hd.page .wan (by intro h; cases h)
  · exact hd.page .wifi (by intro h; cases h)
  · intro hhosts
    obtain ⟨p, hp⟩ := pagePayload_hosts_isSome hd.hostsFit hd.hostPage_nonneg
    exact ⟨p, hp, (hd.page .hosts (fun _ => hhosts)).trans hp⟩

/-- No script prints anything, and the allocation is granted. -/
def grantedEnv : ScriptEnv := { silentEnv with hostBlock := some fun _ => .zero }

/-- Every script prints the record of one host with a byte behind it, and the
allocation is granted. -/
def oneHostEnv : ScriptEnv where
  script := fun _ => .ofText [0x31, NEWLINE, 0x70, 0x63, NEWLINE, 0x37, NEWLINE, 0x38, NEWLINE,
    0x39, NEWLINE, 0x30] (by decide) (by decide)
  hostBlock := some fun _ => .zero

/-- Two keys to the right, to the host page, and a refresh there. -/
def oneHostInputs : List Input :=
  [.keyPress [KEY_RIGHT_SHORT] 1, .keyPress [KEY_RIGHT_SHORT] 2, .signal .sigalrm oneHostEnv 3]

theorem screenMirrors_oneHost :
    ∃ d, runDaemon { screenTimeout := 10 } oneHostEnv 0 oneHostInputs = some d ∧
      d.gCurrentPage = .hosts ∧ getHostsCount d = 1 ∧
      lastRequest .switchPage d = some (requestSwitchPage .hosts) ∧
      lastRequest .updateBasicInfo d =
        some (requestSendRaw .updateBasicInfo d.tables.gBasicInfo.bytes) ∧
      lastRequest .updatePorts d = some (requestSendRaw .updatePorts d.tables.gPortInfo.bytes) ∧
      lastRequest .updateWan d = some (requestSendRaw .updateWan d.tables.gWanInfo.bytes) ∧
      lastRequest .updateWifi d = some (requestSendRaw .updateWifi d.tables.gWifiInfo.bytes) ∧
      ∃ p, requestUpdateHostsPaged d.tables.gHostInfoArray 1 (d.gHostPage * HOSTS_PER_PAGE) =
          some p ∧ lastRequest .updateHostsPaged d = some p := by
  obtain ⟨d, hrun, hswitch, hbasic, hports, hwan, hwifi, hhosts⟩ :=
    screenMirrors { screenTimeout := 10 } oneHostEnv 0 oneHostInputs rfl
      (by simp [oneHostInputs, Input.Allowed, oneHostEnv])
  have hend : (runDaemon { screenTimeout := 10 } oneHostEnv 0 oneHostInputs).map
      (fun d => (d.gCurrentPage, getHostsCount d)) = some (.hosts, 1) := by
    decide +kernel
  rw [hrun, Option.map_some, Option.some_inj, Prod.mk_inj] at hend
  obtain ⟨hpage, hcount⟩ := hend
  rw [hpage] at hswitch
  have hslots := hhosts hpage
  rw [hcount] at hslots
  exact ⟨d, hrun, hpage, hcount, hswitch, hbasic, hports, hwan, hwifi, hslots⟩

end K3ScreenCtrl
