import K3ScreenCtrl.Daemon
import K3ScreenCtrl.FrameContent
import K3ScreenCtrl.Lib.Layout

/-!
# The format of the requests

`mcu_proto.h` describes what goes over the line: frames, payloads with a type,
and a structure for each type.  `Message` is a request in those terms, and
`requestLayout` is how it stands on the line, put together from the layouts of
its parts.  So the line can be read back.

* `readRequests_eq_some_iff`: the line is read as a sequence of requests exactly when
  `frame_send` wrote it for that sequence.
* `readRequests_of_runDaemon`: what the daemon writes in a run can be read.
-/

namespace K3ScreenCtrl

open ByteStuffing CString

/-! ## Structures -/

/-- Four bytes as an `unsigned int`. -/
def ofLe32 (a b c d : UInt8) : UInt32 :=
  UInt32.ofNat (a.toNat + 256 * b.toNat + 65536 * c.toNat + 16777216 * d.toNat)

theorem toNat_ofLe32 (a b c d : UInt8) :
    (ofLe32 a b c d).toNat = a.toNat + 256 * b.toNat + 65536 * c.toNat + 16777216 * d.toNat := by
  have ha := a.toNat_lt
  have hb := b.toNat_lt
  have hc := c.toNat_lt
  have hd := d.toNat_lt
  rw [ofLe32, UInt32.toNat_ofNat']
  omega

theorem le32_eq (v : UInt32) :
    le32 v = [UInt8.ofNat v.toNat, UInt8.ofNat (v.toNat / 256), UInt8.ofNat (v.toNat / 65536),
      UInt8.ofNat (v.toNat / 16777216)] := by
  have hbyte : ∀ (w : UInt32) (n : Nat), w.toNat = n → w.toUInt8 = UInt8.ofNat n := by
    rintro w n rfl
    exact UInt8.toNat_inj.mp (by simp)
  have hshift : ∀ (k : UInt32), (v >>> k).toNat = v.toNat / 2 ^ (k.toNat % 32) := by
    intro k
    rw [UInt32.toNat_shiftRight, Nat.shiftRight_eq_div_pow]
  unfold le32
  rw [hbyte v _ rfl, hbyte (v >>> 8) _ (hshift 8), hbyte (v >>> 16) _ (hshift 16),
    hbyte (v >>> 24) _ (hshift 24)]
  rfl

/-- An `unsigned int` from the front. -/
def readLe32 : List UInt8 → Option (UInt32 × List UInt8)
  | a :: b :: c :: d :: rest => some (ofLe32 a b c d, rest)
  | _ => none

theorem readLe32_le32 (v : UInt32) (rest : List UInt8) :
    readLe32 (le32 v ++ rest) = some (v, rest) := by
  have hv := v.toNat_lt
  rw [le32_eq]
  show some (ofLe32 _ _ _ _, rest) = some (v, rest)
  congr 2
  apply UInt32.toNat_inj.mp
  rw [toNat_ofLe32]
  simp only [UInt8.toNat_ofNat']
  omega

theorem le32_of_readLe32 (l : List UInt8) (v : UInt32) (rest : List UInt8)
    (h : readLe32 l = some (v, rest)) : le32 v ++ rest = l := by
  unfold readLe32 at h
  split at h
  · next a b c d rest' =>
    cases h
    have ha := a.toNat_lt
    have hb := b.toNat_lt
    have hc := c.toNat_lt
    have hd := d.toNat_lt
    have hbyte : ∀ (x : UInt8) (n : Nat), n % 256 = x.toNat → UInt8.ofNat n = x := by
      intro x n h
      apply UInt8.toNat_inj.mp
      rw [UInt8.toNat_ofNat']
      exact h
    rw [le32_eq, toNat_ofLe32, hbyte a _ (by omega), hbyte b _ (by omega), hbyte c _ (by omega),
      hbyte d _ (by omega)]
    rfl
  · cases h

/-- An `unsigned int`. -/
def le32Layout : Layout UInt8 UInt32 where
  write := le32
  read := readLe32
  read_write := readLe32_le32
  write_read := le32_of_readLe32

/-- `char a[n]`. -/
def charArrayLayout (n : Nat) : Layout UInt8 (CharArray n) :=
  (Layout.symbol.array n).via
    { toFun := fun a => ⟨a.bytes, a.length_eq⟩
      invFun := fun l => ⟨l.1, l.2⟩
      left_inv := fun _ => rfl
      right_inv := fun _ => rfl }

@[simp] theorem write_charArrayLayout {n : Nat} (a : CharArray n) :
    (charArrayLayout n).write a = a.bytes := by
  show a.bytes.flatMap (fun b => [b]) = a.bytes
  exact List.flatMap_singleton' a.bytes

def portInfoLayout : Layout UInt8 PortInfo :=
  (Layout.symbol.pair (Layout.symbol.pair (Layout.symbol.pair (Layout.symbol.pair
    (Layout.symbol.pair (Layout.symbol.pair (charArrayLayout 2))))))).via
    { toFun := fun p => (p.ethPort1Conn, p.ethPort2Conn, p.ethPort3Conn, p.pad1, p.ethWanConn,
        p.usbConn, p.pad2)
      invFun := fun (port1, port2, port3, pad1, wan, usb, pad2) =>
        ⟨port1, port2, port3, pad1, wan, usb, pad2⟩
      left_inv := fun _ => rfl
      right_inv := fun _ => rfl }

def wanInfoLayout : Layout UInt8 WanInfo :=
  (le32Layout.pair (le32Layout.pair le32Layout)).via
    { toFun := fun w => (w.isConnected, w.txBytesPerSec, w.rxBytesPerSec)
      invFun := fun (isConnected, tx, rx) => ⟨isConnected, tx, rx⟩
      left_inv := fun _ => rfl
      right_inv := fun _ => rfl }

def wifiRadioInfoLayout : Layout UInt8 WifiRadioInfo :=
  ((charArrayLayout 64).pair ((charArrayLayout 64).pair (Layout.symbol.pair (Layout.symbol.pair
    (charArrayLayout 2))))).via
    { toFun := fun r => (r.ssid, r.psk, r.enabled, r.staCount, r.pad)
      invFun := fun (ssid, psk, enabled, staCount, pad) => ⟨ssid, psk, enabled, staCount, pad⟩
      left_inv := fun _ => rfl
      right_inv := fun _ => rfl }

def wifiInfoLayout : Layout UInt8 WifiInfo :=
  (le32Layout.pair (wifiRadioInfoLayout.pair (wifiRadioInfoLayout.pair wifiRadioInfoLayout))).via
    { toFun := fun w => (w.bandMix, w.wl24gInfo, w.wl5gInfo, w.wlVisitorInfo)
      invFun := fun (bandMix, wl24g, wl5g, visitor) => ⟨bandMix, wl24g, wl5g, visitor⟩
      left_inv := fun _ => rfl
      right_inv := fun _ => rfl }

def hostInfoSingleLayout : Layout UInt8 HostInfoSingle :=
  (le32Layout.pair (le32Layout.pair ((charArrayLayout 36).pair le32Layout))).via
    { toFun := fun h => (h.uploadBps, h.downloadBps, h.hostname, h.logo)
      invFun := fun (upload, download, hostname, logo) => ⟨upload, download, hostname, logo⟩
      left_inv := fun _ => rfl
      right_inv := fun _ => rfl }

def hostInfoLayout : Layout UInt8 HostInfo :=
  (Layout.symbol.pair (Layout.symbol.pair ((charArrayLayout 2).pair
    (hostInfoSingleLayout.array HOSTS_PER_PAGE)))).via
    { toFun := fun h => (h.totalHosts, h.currentPageIndex, h.pad, ⟨h.hostInfo, h.length_hostInfo⟩)
      invFun := fun (total, index, pad, hosts) => ⟨total, index, pad, hosts.1, hosts.2⟩
      left_inv := fun _ => rfl
      right_inv := fun _ => rfl }

def basicInfoLayout : Layout UInt8 BasicInfo :=
  ((charArrayLayout 8).pair ((charArrayLayout 8).pair ((charArrayLayout 24).pair
    (charArrayLayout 18)))).via
    { toFun := fun b => (b.productName, b.hwVersion, b.fwVersion, b.macAddrBase)
      invFun := fun (product, hw, fw, mac) => ⟨product, hw, fw, mac⟩
      left_inv := fun _ => rfl
      right_inv := fun _ => rfl }

/-! The layouts are the images that the model sends. -/

theorem write_portInfoLayout (p : PortInfo) : portInfoLayout.write p = p.bytes := by
  show [p.ethPort1Conn] ++ ([p.ethPort2Conn] ++ ([p.ethPort3Conn] ++ ([p.pad1] ++
    ([p.ethWanConn] ++ ([p.usbConn] ++ (charArrayLayout 2).write p.pad2))))) = _
  rw [write_charArrayLayout]
  rfl

theorem write_wanInfoLayout (w : WanInfo) : wanInfoLayout.write w = w.bytes := by
  show le32 w.isConnected ++ (le32 w.txBytesPerSec ++ le32 w.rxBytesPerSec) = _
  rw [WanInfo.bytes, List.append_assoc]

theorem write_wifiRadioInfoLayout (r : WifiRadioInfo) :
    wifiRadioInfoLayout.write r = r.bytes := by
  show (charArrayLayout 64).write r.ssid ++ ((charArrayLayout 64).write r.psk ++ ([r.enabled] ++
    ([r.staCount] ++ (charArrayLayout 2).write r.pad))) = _
  simp [WifiRadioInfo.bytes]

theorem write_wifiInfoLayout (w : WifiInfo) : wifiInfoLayout.write w = w.bytes := by
  show le32 w.bandMix ++ (wifiRadioInfoLayout.write w.wl24gInfo ++
    (wifiRadioInfoLayout.write w.wl5gInfo ++ wifiRadioInfoLayout.write w.wlVisitorInfo)) = _
  simp [WifiInfo.bytes, write_wifiRadioInfoLayout]

theorem write_hostInfoSingleLayout (h : HostInfoSingle) :
    hostInfoSingleLayout.write h = h.bytes := by
  show le32 h.uploadBps ++ (le32 h.downloadBps ++ ((charArrayLayout 36).write h.hostname ++
    le32 h.logo)) = _
  simp [HostInfoSingle.bytes]

theorem write_hostInfoLayout (h : HostInfo) : hostInfoLayout.write h = h.bytes := by
  show [h.totalHosts] ++ ([h.currentPageIndex] ++ ((charArrayLayout 2).write h.pad ++
    h.hostInfo.flatMap hostInfoSingleLayout.write)) = _
  rw [funext write_hostInfoSingleLayout, write_charArrayLayout, HostInfo.bytes, List.append_assoc]
  rfl

theorem write_basicInfoLayout (b : BasicInfo) : basicInfoLayout.write b = b.bytes := by
  show (charArrayLayout 8).write b.productName ++ ((charArrayLayout 8).write b.hwVersion ++
    ((charArrayLayout 24).write b.fwVersion ++ (charArrayLayout 18).write b.macAddrBase)) = _
  simp [BasicInfo.bytes]

/-! ## Requests -/

/-- A page as the four bytes of the enumeration. -/
def Page.word (page : Page) : UInt32 := UInt32.ofNat page.code

/-- A request. -/
inductive Message where
  | getMcuVersion
  | switchPage (page : Page)
  | updatePorts (info : PortInfo)
  | updateWan (info : WanInfo)
  | updateWifi (info : WifiInfo)
  | updateHostsPaged (info : HostInfo)
  | updateBasicInfo (info : BasicInfo)
  | notifyEvent (event : Event)

def Message.type : Message → RequestType
  | .getMcuVersion => .getMcuVersion
  | .switchPage _ => .switchPage
  | .updatePorts _ => .updatePorts
  | .updateWan _ => .updateWan
  | .updateWifi _ => .updateWifi
  | .updateHostsPaged _ => .updateHostsPaged
  | .updateBasicInfo _ => .updateBasicInfo
  | .notifyEvent _ => .notifyEvent

/-- What follows the type byte. -/
def Message.data : Message → List UInt8
  | .getMcuVersion => []
  | .switchPage page => le32 page.word
  | .updatePorts info => info.bytes
  | .updateWan info => info.bytes
  | .updateWifi info => info.bytes
  | .updateHostsPaged info => info.bytes
  | .updateBasicInfo info => info.bytes
  | .notifyEvent event => le32 event.code

/-- The payload that the request functions hand to `frame_send`. -/
def Message.payload (msg : Message) : List UInt8 := requestSendRaw msg.type msg.data

/-- The values of an enumeration have codes, and a code is read as the value in
a list of them. -/
def ofCode? {ι κ : Type} [DecidableEq κ] (values : List ι) (code : ι → κ) (c : κ) : Option ι :=
  values.find? fun v => code v = c

theorem code_of_ofCode? {ι κ : Type} [DecidableEq κ] {values : List ι} {code : ι → κ} {c : κ}
    {v : ι} (h : ofCode? values code c = some v) : code v = c :=
  of_decide_eq_true (List.find?_some h :)

def pages : List Page := [.basicInfo, .ports, .wan, .wifi, .hosts]

def events : List Event :=
  [.wifiOn, .wifiOff, .on24G, .off24G, .on5G, .off5G, .wispOn, .wispOff, .wakeup, .sleep,
    .restoreBackup, .upgrade, .reboot, .reset, .wifiOn2]

def requestTypes : List RequestType :=
  [.getMcuVersion, .switchPage, .updatePorts, .updateWan, .updateWifi, .updateHostsPaged,
    .updateBasicInfo, .notifyEvent]

def pageLayout : Layout UInt8 Page :=
  le32Layout.narrow Page.word (ofCode? pages Page.word) (fun page => by cases page <;> rfl)
    (fun _ _ h => code_of_ofCode? h)

def eventLayout : Layout UInt8 Event :=
  le32Layout.narrow Event.code (ofCode? events Event.code) (fun event => by cases event <;> rfl)
    (fun _ _ h => code_of_ofCode? h)

/-- Read what follows the type byte. -/
def Message.ofData (type : RequestType) (data : List UInt8) : Option Message :=
  match type with
  | .getMcuVersion => (Layout.empty.parse data).map fun _ => .getMcuVersion
  | .switchPage => (pageLayout.parse data).map .switchPage
  | .updatePorts => (portInfoLayout.parse data).map .updatePorts
  | .updateWan => (wanInfoLayout.parse data).map .updateWan
  | .updateWifi => (wifiInfoLayout.parse data).map .updateWifi
  | .updateHostsPaged => (hostInfoLayout.parse data).map .updateHostsPaged
  | .updateBasicInfo => (basicInfoLayout.parse data).map .updateBasicInfo
  | .notifyEvent => (eventLayout.parse data).map .notifyEvent

/-- Read a payload. -/
def Message.ofPayload? : List UInt8 → Option Message
  | header :: code :: data =>
    if header = PAYLOAD_HEADER then
      (ofCode? requestTypes RequestType.code code).bind fun type => Message.ofData type data
    else none
  | _ => none

/-- The data of a request is read back. -/
theorem ofData_data (msg : Message) : Message.ofData msg.type msg.data = some msg := by
  cases msg with
  | getMcuVersion => rfl
  | switchPage page =>
    have h := pageLayout.parse_eq_some_iff.mpr (rfl : pageLayout.write page = _)
    show (pageLayout.parse (pageLayout.write page)).map _ = _
    rw [h]
    rfl
  | updatePorts info =>
    show (portInfoLayout.parse info.bytes).map _ = _
    rw [portInfoLayout.parse_eq_some_iff.mpr (write_portInfoLayout info)]
    rfl
  | updateWan info =>
    show (wanInfoLayout.parse info.bytes).map _ = _
    rw [wanInfoLayout.parse_eq_some_iff.mpr (write_wanInfoLayout info)]
    rfl
  | updateWifi info =>
    show (wifiInfoLayout.parse info.bytes).map _ = _
    rw [wifiInfoLayout.parse_eq_some_iff.mpr (write_wifiInfoLayout info)]
    rfl
  | updateHostsPaged info =>
    show (hostInfoLayout.parse info.bytes).map _ = _
    rw [hostInfoLayout.parse_eq_some_iff.mpr (write_hostInfoLayout info)]
    rfl
  | updateBasicInfo info =>
    show (basicInfoLayout.parse info.bytes).map _ = _
    rw [basicInfoLayout.parse_eq_some_iff.mpr (write_basicInfoLayout info)]
    rfl
  | notifyEvent event =>
    have h := eventLayout.parse_eq_some_iff.mpr (rfl : eventLayout.write event = _)
    show (eventLayout.parse (eventLayout.write event)).map _ = _
    rw [h]
    rfl

/-- No other data is accepted. -/
theorem data_of_ofData {type : RequestType} {data : List UInt8} {msg : Message}
    (h : Message.ofData type data = some msg) : msg.type = type ∧ msg.data = data := by
  cases type <;> obtain ⟨info, hinfo, rfl⟩ := Option.map_eq_some_iff.mp h
  · exact ⟨rfl, Layout.empty.parse_eq_some_iff.mp hinfo⟩
  · exact ⟨rfl, pageLayout.parse_eq_some_iff.mp hinfo⟩
  · exact ⟨rfl, (write_portInfoLayout info).symm.trans (portInfoLayout.parse_eq_some_iff.mp hinfo)⟩
  · exact ⟨rfl, (write_wanInfoLayout info).symm.trans (wanInfoLayout.parse_eq_some_iff.mp hinfo)⟩
  · exact ⟨rfl, (write_wifiInfoLayout info).symm.trans (wifiInfoLayout.parse_eq_some_iff.mp hinfo)⟩
  · exact ⟨rfl, (write_hostInfoLayout info).symm.trans (hostInfoLayout.parse_eq_some_iff.mp hinfo)⟩
  · exact ⟨rfl,
      (write_basicInfoLayout info).symm.trans (basicInfoLayout.parse_eq_some_iff.mp hinfo)⟩
  · exact ⟨rfl, eventLayout.parse_eq_some_iff.mp hinfo⟩

theorem ofPayload?_payload (msg : Message) : Message.ofPayload? msg.payload = some msg := by
  have htype : ofCode? requestTypes RequestType.code msg.type.code = some msg.type := by
    cases msg.type <;> rfl
  show (if PAYLOAD_HEADER = PAYLOAD_HEADER then
    (ofCode? requestTypes RequestType.code msg.type.code).bind _ else none) = _
  rw [if_pos rfl, htype, Option.bind_some, ofData_data]

/-- A payload determines its request, with all that this carries. -/
theorem Message.payload_injective {msg msg' : Message} (h : msg.payload = msg'.payload) :
    msg = msg' := by
  have hread := ofPayload?_payload msg
  rw [h, ofPayload?_payload] at hread
  exact (Option.some_inj.mp hread).symm

theorem payload_of_ofPayload? {p : List UInt8} {msg : Message}
    (h : Message.ofPayload? p = some msg) : msg.payload = p := by
  unfold Message.ofPayload? at h
  split at h
  · split at h
    · next hheader =>
      obtain ⟨type, htype, hdata⟩ := Option.bind_eq_some_iff.mp h
      obtain ⟨rfl, rfl⟩ := data_of_ofData hdata
      rw [hheader, ← code_of_ofCode? htype]
      rfl
    · cases h
  · cases h

/-! ## The line -/

/-- Take the checksum off a content that has it. -/
def checked? (content : List UInt8) : Option (List UInt8) :=
  let p := content.take (content.length - 2)
  if withChecksum p = content then some p else none

/-- A frame, with its checksum. -/
def checkedFrameLayout : Layout UInt8 (List UInt8) :=
  (frameLayout frameMarks).narrow withChecksum checked?
    (fun p => by
      have htake : (withChecksum p).take ((withChecksum p).length - 2) = p := by
        rw [length_withChecksum, Nat.add_sub_cancel, withChecksum, List.take_left]
      show (if withChecksum ((withChecksum p).take ((withChecksum p).length - 2)) =
        withChecksum p then some ((withChecksum p).take _) else none) = some p
      rw [htake, if_pos rfl])
    (fun content p h => by
      unfold checked? at h
      dsimp only at h
      split at h
      · next hchecks =>
        cases h
        exact hchecks
      · cases h)

theorem write_checkedFrameLayout (p : List UInt8) : checkedFrameLayout.write p = frameSend p :=
  (frameSend_eq p).symm

/-- A request on the line. -/
def requestLayout : Layout UInt8 Message :=
  checkedFrameLayout.narrow Message.payload Message.ofPayload? ofPayload?_payload
    (fun _ _ h => payload_of_ofPayload? h)

/-- Read the line as a sequence of requests. -/
def readRequests (line : List UInt8) : Option (List Message) :=
  requestLayout.parseMany line.length line

theorem write_requestLayout (msg : Message) : requestLayout.write msg = frameSend msg.payload :=
  write_checkedFrameLayout msg.payload

theorem write_requestLayout_ne_nil (msg : Message) : requestLayout.write msg ≠ [] := by
  rw [write_requestLayout]
  exact frameSend_ne_nil msg.payload

/-- The line is read as a sequence of requests exactly when it is what
`frame_send` writes for their payloads, one after the other.  So requests are
never run together, split or mistaken for others. -/
theorem readRequests_eq_some_iff (line : List UInt8) (msgs : List Message) :
    readRequests line = some msgs ↔ line = msgs.flatMap fun msg => frameSend msg.payload := by
  rw [readRequests, requestLayout.parseMany_eq_some_iff write_requestLayout_ne_nil (Nat.le_refl _),
    funext write_requestLayout, eq_comm]

/-! ## What the daemon writes -/

section Sent

variable {P : List UInt8 → Prop} {cfg : Config} {env : ScriptEnv} {start : Int}

/-- The payloads of an event have the property `P`, if the four kinds of
requests that the daemon sends have it. -/
theorem forall_sent_step (hswitch : ∀ page, P (requestSwitchPage page))
    (hevent : ∀ event, P (requestNotifyEvent event))
    (hpage : ∀ page t hostPage p, pagePayload page t hostPage = some p → P p) {d d' : Daemon}
    {i : Input} (h : ∀ p ∈ d.sent, P p) (hstep : step cfg d i = some d') :
    ∀ p ∈ d'.sent, P p := by
  have hpages : ∀ {t hostPage pages payloads}, pagePayloads t hostPage pages = some payloads →
      ∀ p ∈ payloads, P p := by
    intro t hostPage pages payloads hpayloads p hp
    obtain ⟨q, hq⟩ := mem_pagePayloads hpayloads hp
    exact hpage q t hostPage p hq
  have happend : ∀ {new}, d'.sent = d.sent ++ new → (∀ p ∈ new, P p) → ∀ p ∈ d'.sent, P p := by
    intro new hsent hnew p hp
    rw [hsent] at hp
    rcases List.mem_append.mp hp with hp | hp
    · exact h p hp
    · exact hnew p hp
  have hone : ∀ event, ∀ p ∈ [requestNotifyEvent event], P p := by
    intro event p hp
    rw [List.mem_singleton.mp hp]
    exact hevent event
  obtain ⟨_, hcases⟩ := step_cases hstep
  cases hcases with
  | version payload version => exact h
  | empty now => exact h
  | wakeup key rest now hoff => exact happend rfl (hone .wakeup)
  | stay key rest now hon => exact h
  | move key rest now hon nav page hostPage payloads htarget hpayloads =>
    refine happend rfl ?_
    intro p hp
    rcases List.mem_append.mp hp with hp | hp
    · exact hpages hpayloads p hp
    · rw [List.mem_singleton.mp hp]
      exact hswitch page
  | sleepKey key rest now hon => exact happend rfl (hone .sleep)
  | tick env now payloads t ht hpayloads hin => exact happend rfl (hpages hpayloads)
  | tickSleep env now payloads t ht hpayloads hout =>
    refine happend rfl ?_
    intro p hp
    rcases List.mem_append.mp hp with hp | hp
    · exact hpages hpayloads p hp
    · exact hone .sleep p hp
  | notice signal env now event exited hsignal hkind hexited => exact happend rfl (hone event)

/-- So have the payloads of a run. -/
theorem forall_sent_runDaemon (hversion : P requestMcuVersion)
    (hswitch : ∀ page, P (requestSwitchPage page))
    (hevent : ∀ event, P (requestNotifyEvent event))
    (hpage : ∀ page t hostPage p, pagePayload page t hostPage = some p → P p)
    {inputs : List Input} {d : Daemon} (h : runDaemon cfg env start inputs = some d) :
    ∀ p ∈ d.sent, P p := by
  obtain ⟨d₀, hboot, hrun⟩ := Option.bind_eq_some_iff.mp h
  refine Run.run_invariant (P := fun d => ∀ p ∈ d.sent, P p)
    (fun _ _ _ hd hstep => forall_sent_step hswitch hevent hpage hd hstep) ?_ hrun
  rw [boot_eq] at hboot
  obtain ⟨payloads, hpayloads, rfl⟩ := Option.map_eq_some_iff.mp hboot
  intro p hp
  have hp' : p ∈ requestMcuVersion :: payloads ++ [requestSwitchPage .wan] := hp
  rcases List.mem_append.mp hp' with hp' | hp'
  · rcases List.mem_cons.mp hp' with rfl | hp'
    · exact hversion
    · obtain ⟨q, hq⟩ := mem_pagePayloads hpayloads hp'
      exact hpage q _ _ p hq
  · rw [List.mem_singleton.mp hp']
    exact hswitch .wan

end Sent

/-- The data of a page travels as a request. -/
theorem exists_message_of_pagePayload {page : Page} {t : Tables} {hostPage : Int} {p : List UInt8}
    (h : pagePayload page t hostPage = some p) : ∃ msg : Message, p = msg.payload := by
  cases page with
  | basicInfo =>
    cases h
    exact ⟨.updateBasicInfo _, rfl⟩
  | ports =>
    cases h
    exact ⟨.updatePorts _, rfl⟩
  | wan =>
    cases h
    exact ⟨.updateWan ⟨_, _, _⟩, rfl⟩
  | wifi =>
    cases h
    exact ⟨.updateWifi _, rfl⟩
  | hosts =>
    obtain ⟨info, _, rfl⟩ := Option.map_eq_some_iff.mp h
    exact ⟨.updateHostsPaged info, rfl⟩

/-- Payloads that are requests, as requests. -/
theorem exists_messages {payloads : List (List UInt8)}
    (h : ∀ p ∈ payloads, ∃ msg : Message, p = msg.payload) :
    ∃ msgs : List Message, payloads = msgs.map Message.payload := by
  induction payloads with
  | nil => exact ⟨[], rfl⟩
  | cons p payloads ih =>
    obtain ⟨msg, hmsg⟩ := h p List.mem_cons_self
    obtain ⟨msgs, hmsgs⟩ := ih fun q hq => h q (List.mem_cons_of_mem p hq)
    exact ⟨msg :: msgs, by rw [List.map_cons, ← hmsg, ← hmsgs]⟩

/-- What the daemon sends is made of requests. -/
theorem sent_eq_messages {cfg : Config} {env : ScriptEnv} {start : Int} {inputs : List Input}
    {d : Daemon} (h : runDaemon cfg env start inputs = some d) :
    ∃ msgs : List Message, d.sent = msgs.map Message.payload :=
  exists_messages <|
    forall_sent_runDaemon ⟨.getMcuVersion, rfl⟩ (fun page => ⟨.switchPage page, rfl⟩)
      (fun event => ⟨.notifyEvent event, rfl⟩)
      (fun _ _ _ _ hp => exists_message_of_pagePayload hp) h

/-- Requests are read off the line. -/
theorem readRequests_messages (msgs : List Message) :
    readRequests ((msgs.map Message.payload).flatMap frameSend) = some msgs := by
  refine (requestLayout.parseMany_eq_some_iff write_requestLayout_ne_nil (Nat.le_refl _)).mpr ?_
  rw [List.flatMap_map, funext write_requestLayout]

/-- Whatever responses, signals and scripts the daemon meets, what it has written
to the line can be read as requests, and they are those that it made, in
order. -/
theorem readRequests_of_runDaemon {cfg : Config} {env : ScriptEnv} {start : Int}
    {inputs : List Input} {d : Daemon} (h : runDaemon cfg env start inputs = some d) :
    ∃ msgs : List Message, d.sent = msgs.map Message.payload ∧
      readRequests (d.sent.flatMap frameSend) = some msgs := by
  obtain ⟨msgs, hmsgs⟩ := sent_eq_messages h
  refine ⟨msgs, hmsgs, ?_⟩
  rw [hmsgs]
  exact readRequests_messages msgs

theorem readRequests_of_runDaemon_keys :
    ∃ d msgs, runDaemon { screenTimeout := 10 } silentEnv 0
        [.keyPress [KEY_LEFT_SHORT] 1, .signal .sigalrm silentEnv 2, .signal .sigterm silentEnv 3] =
          some d ∧
      d.sent = msgs.map Message.payload ∧
        readRequests (d.sent.flatMap frameSend) = some msgs := by
  have hsome : (runDaemon { screenTimeout := 10 } silentEnv 0
      [.keyPress [KEY_LEFT_SHORT] 1, .signal .sigalrm silentEnv 2,
        .signal .sigterm silentEnv 3]).isSome := by
    decide +kernel
  obtain ⟨d, hd⟩ := Option.isSome_iff_exists.mp hsome
  obtain ⟨msgs, hsent, hread⟩ := readRequests_of_runDaemon hd
  exact ⟨d, msgs, hd, hsent, hread⟩

end K3ScreenCtrl
