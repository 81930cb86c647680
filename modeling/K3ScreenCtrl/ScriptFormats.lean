import K3ScreenCtrl.Daemon
import K3ScreenCtrl.TableInvariants

/-!
# The documented script formats

`config.h` says which lines the scripts of the basic-info, port, WAN and WiFi
pages print.  `ScriptFields` is the content of such an output: the value of
each field, in the order of the comment.  `ScriptFields.structBytes` is the
structure of `mcu_proto.h` that the screen should get for it.

`reachesWire_iff` says that the structure always reaches the wire, whatever the
tables held before, and that the updater also answers `SUCCESS` exactly when
`free` leaves the byte behind the output at zero: `update_storage_from_script`
looks at that byte after it has freed the block.
-/

namespace K3ScreenCtrl

open CString Pieces

/-! ## Fields -/

/-- A string field: any bytes except newline and NUL. -/
structure StringField where
  bytes : List UInt8
  newline_not_mem : NEWLINE ∉ bytes
  nul_not_mem : 0 ∉ bytes

/-- A number field: a decimal numeral below a bound. -/
structure NumberField (bound : Nat) where
  digits : List UInt8
  value : Nat
  isNumeral : IsNumeral digits value
  value_lt : value < bound

/-- A number that the code stores in a byte. -/
abbrev ByteField := NumberField 256

/-- A number that the code stores in an `unsigned int`. -/
abbrev UintField := NumberField (2 ^ 31)

/-- A numeral has no newline in it. -/
theorem NumberField.newline_not_mem {bound : Nat} (f : NumberField bound) :
    NEWLINE ∉ f.digits := by
  intro hmem
  have hdigit := f.isNumeral.2.1 _ hmem
  exact absurd hdigit (by decide)

/-- `atoi` reads a number field. -/
theorem NumberField.atoi_digits {bound : Nat} (f : NumberField bound) (h : bound ≤ 2 ^ 31) :
    atoi f.digits = f.value :=
  atoi_of_isNumeral f.isNumeral (Nat.lt_of_lt_of_le f.value_lt h)

theorem ByteField.ofInt_atoi (f : ByteField) :
    UInt8.ofInt (atoi f.digits) = UInt8.ofNat f.value := by
  have hlt := f.value_lt
  have hmod : ((f.value : Int) % 2 ^ 8).toNat = f.value := by omega
  rw [f.atoi_digits (by omega), UInt8.ofInt, hmod]

theorem UintField.ofInt_atoi (f : UintField) :
    UInt32.ofInt (atoi f.digits) = UInt32.ofNat f.value := by
  have hlt := f.value_lt
  have hmod : ((f.value : Int) % 2 ^ 32).toNat = f.value := by omega
  rw [f.atoi_digits (Nat.le_refl _), UInt32.ofInt, hmod]

/-! ## Formats -/

/-- The output of the basic-info script. -/
structure BasicInfoFields where
  model : StringField
  hwVersion : StringField
  fwVersion : StringField
  macAddress : StringField

/-- The output of the port script. -/
structure PortFields where
  lan1 : ByteField
  lan2 : ByteField
  lan3 : ByteField
  wan : ByteField
  usb : ByteField

/-- The output of the WAN script. -/
structure WanFields where
  connected : UintField
  upload : UintField
  download : UintField

/-- The part of the WiFi output that describes one network. -/
structure RadioFields where
  ssid : StringField
  password : StringField
  enabled : ByteField
  clients : ByteField

/-- The output of the WiFi script. -/
structure WifiFields where
  sameSsid : UintField
  radio24g : RadioFields
  radio5g : RadioFields
  visitor : RadioFields

def RadioFields.lines (f : RadioFields) : List (List UInt8) :=
  [f.ssid.bytes, f.password.bytes, f.enabled.digits, f.clients.digits]

/-- `struct _wifi_radio_info` for a network. -/
def RadioFields.structBytes (f : RadioFields) : List UInt8 :=
  cutTo 64 f.ssid.bytes ++ cutTo 64 f.password.bytes ++
    [UInt8.ofNat f.enabled.value, UInt8.ofNat f.clients.value, 0, 0]

/-- The output of a script, by its fields. -/
inductive ScriptFields where
  | basicInfo (f : BasicInfoFields)
  | ports (f : PortFields)
  | wan (f : WanFields)
  | wifi (f : WifiFields)

namespace ScriptFields

def page : ScriptFields → Page
  | .basicInfo _ => .basicInfo
  | .ports _ => .ports
  | .wan _ => .wan
  | .wifi _ => .wifi

/-- The lines of the output, in the documented order. -/
def lines : ScriptFields → List (List UInt8)
  | .basicInfo f => [f.model.bytes, f.hwVersion.bytes, f.fwVersion.bytes, f.macAddress.bytes]
  | .ports f => [f.lan1.digits, f.lan2.digits, f.lan3.digits, f.wan.digits, f.usb.digits]
  | .wan f => [f.connected.digits, f.upload.digits, f.download.digits]
  | .wifi f => f.sameSsid.digits :: (f.radio24g.lines ++ f.radio5g.lines ++ f.visitor.lines)

/-- The output: one field to a line. -/
def text (doc : ScriptFields) : List UInt8 := render NEWLINE doc.lines

/-- The structure that carries the fields, byte by byte. -/
def structBytes : ScriptFields → List UInt8
  | .basicInfo f =>
    cutTo 8 f.model.bytes ++ cutTo 8 f.hwVersion.bytes ++ cutTo 24 f.fwVersion.bytes ++
      cutTo 18 f.macAddress.bytes
  | .ports f =>
    [UInt8.ofNat f.lan1.value, UInt8.ofNat f.lan2.value, UInt8.ofNat f.lan3.value, 0,
      UInt8.ofNat f.wan.value, UInt8.ofNat f.usb.value, 0, 0]
  | .wan f =>
    le32 (UInt32.ofNat f.connected.value) ++ le32 (UInt32.ofNat f.upload.value) ++
      le32 (UInt32.ofNat f.download.value)
  | .wifi f =>
    le32 (UInt32.ofNat f.sameSsid.value) ++ f.radio24g.structBytes ++ f.radio5g.structBytes ++
      f.visitor.structBytes

theorem newline_not_mem (doc : ScriptFields) : ∀ line ∈ doc.lines, NEWLINE ∉ line := by
  cases doc with
  | basicInfo f =>
    simp [lines, f.model.newline_not_mem, f.hwVersion.newline_not_mem,
      f.fwVersion.newline_not_mem, f.macAddress.newline_not_mem]
  | ports f => simp [lines, NumberField.newline_not_mem]
  | wan f => simp [lines, NumberField.newline_not_mem]
  | wifi f =>
    simp [lines, RadioFields.lines, NumberField.newline_not_mem, StringField.newline_not_mem]

end ScriptFields

/-! ## What the stores leave -/

/-- What the stores make of the basic info. -/
def BasicInfoFields.stored (f : BasicInfoFields) (b : BasicInfo) : BasicInfo where
  productName := storeString f.model.bytes b.productName
  hwVersion := storeString f.hwVersion.bytes b.hwVersion
  fwVersion := storeString f.fwVersion.bytes b.fwVersion
  macAddrBase := storeString f.macAddress.bytes b.macAddrBase

theorem BasicInfoFields.padded_stored (f : BasicInfoFields) (b : BasicInfo) :
    (f.stored b).Padded where
  productName := padded_storeString (by omega) f.model.nul_not_mem _
  hwVersion := padded_storeString (by omega) f.hwVersion.nul_not_mem _
  fwVersion := padded_storeString (by omega) f.fwVersion.nul_not_mem _
  macAddrBase := padded_storeString (by omega) f.macAddress.nul_not_mem _

theorem BasicInfoFields.bytes_stored (f : BasicInfoFields) (b : BasicInfo) :
    (f.stored b).bytes =
      cutTo 8 f.model.bytes ++ cutTo 8 f.hwVersion.bytes ++ cutTo 24 f.fwVersion.bytes ++
        cutTo 18 f.macAddress.bytes := by
  show (storeString f.model.bytes b.productName).bytes ++
    (storeString f.hwVersion.bytes b.hwVersion).bytes ++
      (storeString f.fwVersion.bytes b.fwVersion).bytes ++
        (storeString f.macAddress.bytes b.macAddrBase).bytes = _
  rw [storeString_bytes (by omega), storeString_bytes (by omega), storeString_bytes (by omega),
    storeString_bytes (by omega)]

/-- What the stores for one network make of its structure. -/
def RadioFields.stored (f : RadioFields) (r : WifiRadioInfo) : WifiRadioInfo where
  ssid := storeString f.ssid.bytes r.ssid
  psk := storeString f.password.bytes r.psk
  enabled := UInt8.ofInt (atoi f.enabled.digits)
  staCount := UInt8.ofInt (atoi f.clients.digits)
  pad := r.pad

theorem RadioFields.bytes_stored (f : RadioFields) {r : WifiRadioInfo}
    (h : r.pad = CharArray.zero 2) : (f.stored r).bytes = f.structBytes := by
  show (storeString f.ssid.bytes r.ssid).bytes ++ (storeString f.password.bytes r.psk).bytes ++
    [UInt8.ofInt (atoi f.enabled.digits), UInt8.ofInt (atoi f.clients.digits)] ++ r.pad.bytes = _
  rw [storeString_bytes (by omega), storeString_bytes (by omega), f.enabled.ofInt_atoi,
    f.clients.ofInt_atoi, h, List.append_assoc]
  rfl

namespace ScriptFields

/-- The tables after the lines went to the members of the page's structure. -/
def storedIn (doc : ScriptFields) (t : Tables) : Tables :=
  match doc.page with
  | .basicInfo => gBasicInfo.modify (storeTokens basicInfoMembers doc.lines) t
  | .ports => gPortInfo.modify (storeTokens portInfoMembers doc.lines) t
  | .wan => gWanInfo.modify (storeTokens wanInfoMembers doc.lines) t
  | .wifi => gWifiInfo.modify (storeTokens wifiInfoMembers doc.lines) t
  | .hosts => t

/-- The page is sent as the structure that carries the fields, whatever the
tables held before. -/
theorem pagePayload_storedIn (doc : ScriptFields) {t : Tables} (ht : t.Sound) (hostPage : Int) :
    pagePayload doc.page (doc.storedIn t) hostPage =
      some (requestSendRaw doc.page.requestType doc.structBytes) := by
  cases doc with
  | basicInfo f =>
    refine (congrArg some (requestUpdateBasicInfo_eq (f.padded_stored t.gBasicInfo))).trans ?_
    rw [f.bytes_stored]
    rfl
  | ports f =>
    obtain ⟨hpad1, hpad2⟩ := ht.portInfo
    show some (requestSendRaw .updatePorts
      ([UInt8.ofInt (atoi f.lan1.digits), UInt8.ofInt (atoi f.lan2.digits),
        UInt8.ofInt (atoi f.lan3.digits), t.gPortInfo.pad1, UInt8.ofInt (atoi f.wan.digits),
        UInt8.ofInt (atoi f.usb.digits)] ++ t.gPortInfo.pad2.bytes)) = _
    simp only [ByteField.ofInt_atoi, hpad1, hpad2]
    rfl
  | wan f =>
    show some (requestSendRaw .updateWan
      (le32 (UInt32.ofInt (atoi f.connected.digits)) ++
        le32 (UInt32.ofInt (atoi f.upload.digits)) ++
          le32 (UInt32.ofInt (atoi f.download.digits)))) = _
    simp only [UintField.ofInt_atoi]
    rfl
  | wifi f =>
    obtain ⟨hpad24g, hpad5g, hpadVisitor⟩ := ht.wifiInfo
    show some (requestSendRaw .updateWifi
      (le32 (UInt32.ofInt (atoi f.sameSsid.digits)) ++
        (f.radio24g.stored t.gWifiInfo.wl24gInfo).bytes ++
          (f.radio5g.stored t.gWifiInfo.wl5gInfo).bytes ++
            (f.visitor.stored t.gWifiInfo.wlVisitorInfo).bytes)) = _
    rw [f.sameSsid.ofInt_atoi, f.radio24g.bytes_stored hpad24g, f.radio5g.bytes_stored hpad5g,
      f.visitor.bytes_stored hpadVisitor]
    rfl

/-! ## One update -/

theorem length_lines (doc : ScriptFields) :
    doc.lines.length =
      match doc.page with
      | .basicInfo => basicInfoMembers.length
      | .ports => portInfoMembers.length
      | .wan => wanInfoMembers.length
      | .wifi => wifiInfoMembers.length
      | .hosts => 0 := by
  cases doc <;> rfl

/-- An output with as many lines as there are stores is used up, and the
updater then looks at the byte behind it in the freed block. -/
theorem updateStorageFromScript_of_lines {τ : Type} {place : Place Tables τ}
    {members : List (TokenStore τ)} {lines : List (List UInt8)} {run : ScriptRun}
    {out : ScriptOutput} (hrun : run.output = some out) (hout : out.str = render NEWLINE lines)
    (hlines : ∀ line ∈ lines, NEWLINE ∉ line) (hlength : lines.length = members.length)
    (t : Tables) :
    updateStorageFromScript run (members.map (.at place)) t =
      (if (run.overlay out.str.length).getD 0 = 0 then .success else .failure,
        place.modify (storeTokens members lines) t) := by
  have hpieces : pieces NEWLINE out.str = lines := by
    rw [hout, pieces_render hlines]
  have hrest : afterPieces NEWLINE (members.map (TokenStore.at place)).length out.str = [] := by
    rw [afterPieces_eq_nil_iff, hpieces, List.length_map, hlength]
  have hbyte : out.str.getD out.str.length 0 = 0 := by
    rw [List.getD_eq_getElem?_getD, List.getElem?_eq_none (Nat.le_refl _)]
    rfl
  rw [updateStorageFromScript_of_output hrun, hpieces, hrest, storeTokens_at]
  unfold ScriptRun.byteAfterFree
  rw [List.length_nil, Nat.sub_zero, hbyte]

/-- The update of a page from its documented output. -/
theorem updatePageInfo_eq (doc : ScriptFields) {env : ScriptEnv} {out : ScriptOutput}
    (hrun : (env.script doc.page).output = some out) (hout : out.str = doc.text) (t : Tables) :
    updatePageInfo env doc.page t =
      (if ((env.script doc.page).overlay out.str.length).getD 0 = 0 then .success else .failure,
        doc.storedIn t) := by
  have hlength := doc.length_lines
  have hlines := doc.newline_not_mem
  cases doc with
  | basicInfo f => exact updateStorageFromScript_of_lines hrun hout hlines hlength t
  | ports f => exact updateStorageFromScript_of_lines hrun hout hlines hlength t
  | wan f => exact updateStorageFromScript_of_lines hrun hout hlines hlength t
  | wifi f => exact updateStorageFromScript_of_lines hrun hout hlines hlength t

end ScriptFields

/-! ## The wire -/

/-- Updates of other pages do not change what a page sends. -/
theorem pagePayload_updateTables {page : Page} {others : List (ScriptEnv × Page)}
    (hothers : ∀ u ∈ others, u.2 ≠ page) (t : Tables) (hostPage : Int) :
    pagePayload page (updateTables others t) hostPage = pagePayload page t hostPage := by
  have hkeep : ∀ (t' : Tables) (u : ScriptEnv × Page), u.2 ≠ page →
      pagePayload page t' hostPage = pagePayload page t hostPage →
        pagePayload page (updatePageInfo u.1 u.2 t').2 hostPage = pagePayload page t hostPage := by
    intro t' u hu ht'
    rw [pagePayload_updatePageInfo (Ne.symm hu), ht']
  exact updateTables_invariant hkeep hothers rfl

/-- The next send of the page, possibly after updates of other pages, hands the
structure with the fields to `frame_send`. -/
def SendsFields (doc : ScriptFields) (env : ScriptEnv) (d : Daemon) : Prop :=
  ∀ others : List (ScriptEnv × Page), (∀ u ∈ others, u.2 ≠ doc.page) →
    let d' := { d with tables := updateTables others (updatePageInfo env doc.page d.tables).2 }
    sendPageData doc.page d' =
      some (d'.send (PAYLOAD_HEADER :: doc.page.requestType.code :: doc.structBytes))

/-- The update answers `SUCCESS`, and the fields are sent. -/
def ReachesWire (doc : ScriptFields) (env : ScriptEnv) (d : Daemon) : Prop :=
  (updatePageInfo env doc.page d.tables).1 = .success ∧ SendsFields doc env d

/-- The tables of a running daemon are the result of updates. -/
theorem exists_tablesAfter_of_runDaemon {cfg : Config} {env : ScriptEnv} {start : Int}
    {inputs : List Input} {d : Daemon} (h : runDaemon cfg env start inputs = some d) :
    ∃ updates, d.tables = tablesAfter updates := by
  have hupdate : ∀ (env : ScriptEnv) (page : Page) (t : Tables),
      (∃ updates, t = tablesAfter updates) →
        ∃ updates, (updatePageInfo env page t).2 = tablesAfter updates := by
    intro env page t ht
    obtain ⟨updates, rfl⟩ := ht
    refine ⟨updates ++ [(env, page)], ?_⟩
    unfold tablesAfter updateTables
    rw [List.foldl_append]
    rfl
  obtain ⟨d₀, hboot, hrun⟩ := Option.bind_eq_some_iff.mp h
  have hd₀ : ∃ updates, d₀.tables = tablesAfter updates := by
    rw [boot_eq] at hboot
    obtain ⟨_, _, rfl⟩ := Option.map_eq_some_iff.mp hboot
    exact updateAllInfo_invariant (hupdate env) ⟨[], rfl⟩
  refine Run.run_invariant (P := fun d => ∃ updates, d.tables = tablesAfter updates) ?_ hd₀ hrun
  intro d i d' hd hstep
  obtain ⟨_, hcases⟩ := step_cases hstep
  cases hcases with
  | tick env now payloads t ht hpayloads hin =>
    show ∃ updates, t = _
    rw [ht]
    exact updatedTables_invariant (hupdate env) _ hd
  | tickSleep env now payloads t ht hpayloads hout =>
    show ∃ updates, t = _
    rw [ht]
    exact updatedTables_invariant (hupdate env) _ hd
  | _ => exact hd

/-- Whatever updates came before, a documented output is sent field by field.
The update answers `SUCCESS` as well exactly when `free` leaves the byte behind
the output at zero. -/
theorem reachesWire_iff (doc : ScriptFields) (updates : List (ScriptEnv × Page)) (d : Daemon)
    (hd : d.tables = tablesAfter updates) (env : ScriptEnv) (out : ScriptOutput)
    (hrun : (env.script doc.page).output = some out) (hout : out.str = doc.text) :
    SendsFields doc env d ∧
      (ReachesWire doc env d ↔ ((env.script doc.page).overlay out.str.length).getD 0 = 0) := by
  have hsends : SendsFields doc env d := by
    intro others hothers
    dsimp only
    rw [sendPageData_eq]
    dsimp only
    rw [pagePayload_updateTables hothers, doc.updatePageInfo_eq hrun hout, hd,
      doc.pagePayload_storedIn (sound_tablesAfter updates)]
    rfl
  refine ⟨hsends, ?_⟩
  unfold ReachesWire
  rw [doc.updatePageInfo_eq hrun hout]
  constructor
  · intro h
    by_cases hbyte : ((env.script doc.page).overlay out.str.length).getD 0 = 0
    · exact hbyte
    · exact absurd h.1 (by simp [hbyte])
  · intro h
    exact ⟨if_pos h, hsends⟩

/-- The numeral "1". -/
def oneField : UintField where
  digits := [0x31]
  value := 1
  isNumeral := ⟨List.cons_ne_nil _ _, List.forall_mem_singleton.mpr rfl, rfl⟩
  value_lt := by omega

/-- The numeral "0". -/
def zeroField : UintField where
  digits := [0x30]
  value := 0
  isNumeral := ⟨List.cons_ne_nil _ _, List.forall_mem_singleton.mpr rfl, rfl⟩
  value_lt := by omega

/-- The output "1", "0", "0" of the WAN script. -/
def idleWan : ScriptFields :=
  .wan { connected := oneField, upload := zeroField, download := zeroField }

/-- Every script prints that output, and `free` leaves the block alone. -/
def idleWanEnv : ScriptEnv where
  script := fun _ => .ofText idleWan.text (by decide) (by decide)
  hostBlock := none

theorem reachesWire_iff_idleWan :
    SendsFields idleWan idleWanEnv Daemon.init ∧
      (ReachesWire idleWan idleWanEnv Daemon.init ↔
        ((idleWanEnv.script .wan).overlay idleWan.text.length).getD 0 = 0) :=
  reachesWire_iff idleWan [] _ rfl _ _ rfl rfl

/-- The same output with an allocator that links freed blocks and keeps the link, in
a form of its own, in the first eight bytes of the block. -/
def linkingEnv : ScriptEnv where
  script := fun page =>
    { output := (idleWanEnv.script page).output
      overlay := fun offset => if offset < 8 then some 0xb6 else none }
  hostBlock := none

/-- The fields of a short output are stored, and the updater answers failure. -/
theorem reachesWire_counterexample :
    ¬ ∀ (doc : ScriptFields) (updates : List (ScriptEnv × Page)) (d : Daemon),
        d.tables = tablesAfter updates → ∀ (env : ScriptEnv) (out : ScriptOutput),
          (env.script doc.page).output = some out → out.str = doc.text → ReachesWire doc env d := by
  intro hall
  have h := hall idleWan [] Daemon.init rfl linkingEnv _ rfl rfl
  exact absurd h.1 (by decide)

end K3ScreenCtrl
