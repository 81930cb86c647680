import K3ScreenCtrl.HostList
import K3ScreenCtrl.Navigation
import K3ScreenCtrl.ScriptFormats

/-!
# The documented host list

`config.h` says which lines the host script prints for each host: its name, its
upload speed, its download speed and its brand.  `HostListFields` is such an
output, and `HostFields.structBytes` is the record of `mcu_proto.h` that the
screen should get for one host.

`host_info_tokens` has the two speeds the other way round.
`followsDocument_iff` says when no record shows it.  The last host of a list is
never counted, so its speeds do not matter.
-/

namespace K3ScreenCtrl

open CString Cursor Pieces

/-! ## The format -/

/-- The lines of one host. -/
structure HostFields where
  name : StringField
  upload : UintField
  download : UintField
  brand : UintField

/-- The output of the host script: the number of hosts, and the hosts. -/
structure HostListFields where
  count : UintField
  hosts : List HostFields
  count_eq : count.value = hosts.length

def HostFields.lines (h : HostFields) : List (List UInt8) :=
  [h.name.bytes, h.upload.digits, h.download.digits, h.brand.digits]

theorem HostFields.length_lines (h : HostFields) : h.lines.length = 4 := rfl

/-- `struct _host_info_single` for a host, byte by byte. -/
def HostFields.structBytes (h : HostFields) : List UInt8 :=
  le32 (UInt32.ofNat h.upload.value) ++ le32 (UInt32.ofNat h.download.value) ++
    cutTo 36 h.name.bytes ++ le32 (UInt32.ofNat h.brand.value)

theorem HostFields.newline_not_mem (h : HostFields) : ∀ line ∈ h.lines, NEWLINE ∉ line := by
  simp [lines, h.name.newline_not_mem, NumberField.newline_not_mem]

namespace HostListFields

/-- The lines behind the count line. -/
def body (doc : HostListFields) : List (List UInt8) := doc.hosts.flatMap HostFields.lines

/-- The output: one field to a line. -/
def text (doc : HostListFields) : List UInt8 := render NEWLINE (doc.count.digits :: doc.body)

variable (doc : HostListFields)

theorem pieces_text : pieces NEWLINE doc.text = doc.count.digits :: doc.body := by
  apply pieces_render
  intro line hline
  rcases List.mem_cons.mp hline with rfl | hline
  · exact doc.count.newline_not_mem
  · obtain ⟨h, _, hmem⟩ := List.mem_flatMap.mp hline
    exact h.newline_not_mem line hmem

theorem length_body : doc.body.length = 4 * doc.hosts.length :=
  length_flatMap HostFields.length_lines doc.hosts

/-- The lines of host `i` start at line `4 * i`. -/
theorem drop_body {i : Nat} {h : HostFields} (hi : doc.hosts[i]? = some h) :
    ∃ rest, doc.body.drop (4 * i) = h.lines ++ rest := by
  obtain ⟨hlt, hat⟩ := List.getElem?_eq_some_iff.mp hi
  refine ⟨(doc.hosts.drop (i + 1)).flatMap HostFields.lines, ?_⟩
  rw [body, drop_flatMap HostFields.length_lines, List.drop_eq_getElem_cons hlt,
    List.flatMap_cons, hat]

/-- The count line is read as the number of hosts. -/
theorem toNat_announced (old : UInt32) (lines : List (List UInt8)) :
    (announcedHosts old (doc.count.digits :: lines)).toNat = doc.hosts.length := by
  have hlt := doc.count.value_lt
  show (UInt32.ofInt (atoi doc.count.digits)).toNat = _
  rw [doc.count.ofInt_atoi, UInt32.toNat_ofNat', doc.count_eq]
  rw [doc.count_eq] at hlt
  omega

end HostListFields

/-! ## One record -/

/-- What the stores make of the lines of a host. -/
def HostFields.stored (h : HostFields) (r : HostInfoSingle) : HostInfoSingle where
  uploadBps := UInt32.ofNat h.download.value
  downloadBps := UInt32.ofNat h.upload.value
  hostname := storeString h.name.bytes r.hostname
  logo := UInt32.ofNat h.brand.value

theorem storeRecord_lines (h : HostFields) (rest : List (List UInt8)) (r : HostInfoSingle) :
    storeRecord (h.lines ++ rest) r = h.stored r := by
  show storeRecord (h.name.bytes :: h.upload.digits :: h.download.digits :: h.brand.digits :: rest)
    r = _
  rw [storeRecord_cons, h.download.ofInt_atoi, h.upload.ofInt_atoi, h.brand.ofInt_atoi]
  rfl

/-- A record holds the fields of a host. -/
structure HoldsHost (h : HostFields) (r : HostInfoSingle) : Prop where
  hostname : r.hostname.bytes = cutTo 36 h.name.bytes
  upload : r.uploadBps = UInt32.ofNat h.upload.value
  download : r.downloadBps = UInt32.ofNat h.download.value
  logo : r.logo = UInt32.ofNat h.brand.value

theorem HoldsHost.bytes_eq {h : HostFields} {r : HostInfoSingle} (hr : HoldsHost h r) :
    r.bytes = h.structBytes := by
  rw [HostInfoSingle.bytes, hr.upload, hr.download, hr.hostname, hr.logo, HostFields.structBytes]

/-- A stored record holds its host exactly when the two speeds are equal. -/
theorem holdsHost_stored_iff (h : HostFields) (r : HostInfoSingle) :
    HoldsHost h (h.stored r) ↔ h.upload.value = h.download.value := by
  constructor
  · intro hr
    have heq : UInt32.ofNat h.download.value = UInt32.ofNat h.upload.value := hr.upload
    have hup := h.upload.value_lt
    have hdown := h.download.value_lt
    have hnat := congrArg UInt32.toNat heq
    rw [UInt32.toNat_ofNat', UInt32.toNat_ofNat'] at hnat
    omega
  · intro heq
    exact
      { hostname := storeString_bytes (by omega) _ _
        upload := congrArg UInt32.ofNat heq.symm
        download := congrArg UInt32.ofNat heq
        logo := rfl }

/-! ## The table and its messages -/

/-- Record `i` of the table holds a host, and so does its slot in the message of
its page. -/
structure CarriesHost (t : Tables) (i : Nat) (h : HostFields) : Prop where
  record : ∃ r, readHost t.gHostInfoArray i = some r ∧ HoldsHost h r
  message : ∃ payload,
    pagePayload .hosts t ((i / HOSTS_PER_PAGE : Nat) : Int) = some payload ∧
      (payload.drop (2 + 4 + 48 * (i % HOSTS_PER_PAGE))).take 48 = h.structBytes

/-- Every record that the table counts holds the host at its place in the
list. -/
def FollowsDocument (doc : HostListFields) (t : Tables) : Prop :=
  ∀ i < t.gHostInfoElements.toNat, ∃ h, doc.hosts[i]? = some h ∧ CarriesHost t i h

/-- The slot of a record in the message of its page. -/
theorem hostPageRequest_slot {hosts : List HostInfoSingle} {i : Nat} {r : HostInfoSingle}
    (hr : hosts[i]? = some r) :
    ((hostPageRequest hosts (i / HOSTS_PER_PAGE)).drop
        (2 + 4 + 48 * (i % HOSTS_PER_PAGE))).take 48 = r.bytes := by
  have hslot : i % HOSTS_PER_PAGE < HOSTS_PER_PAGE := Nat.mod_lt i (by decide)
  have hget := hostPageInfo_getElem? hosts (i / HOSTS_PER_PAGE) hslot
  rw [Nat.div_add_mod, List.getD_eq_getElem?_getD, hr, Option.getD_some] at hget
  have hpad : (hostPageInfo hosts (i / HOSTS_PER_PAGE)).pad.bytes = [0, 0] := rfl
  rw [← take_drop_flatMap HostInfoSingle.length_bytes hget, hostPageRequest, requestSendRaw,
    HostInfo.bytes, hpad, ← List.drop_drop]
  rfl

/-- A table that holds its hosts sends each of them in its slot. -/
theorem Tables.HoldsHosts.carriesHost_iff {t : Tables} {hosts : List HostInfoSingle}
    (ht : t.HoldsHosts hosts) {i : Nat} {r : HostInfoSingle} (hr : hosts[i]? = some r)
    (h : HostFields) : CarriesHost t i h ↔ HoldsHost h r := by
  obtain ⟨hi, hat⟩ := List.getElem?_eq_some_iff.mp hr
  have hread : readHost t.gHostInfoArray i = some r := by
    rw [ht.read i hi, hat]
  constructor
  · intro hc
    obtain ⟨r', hr', hholds⟩ := hc.record
    rw [hread, Option.some_inj] at hr'
    rw [hr']
    exact hholds
  · intro hholds
    refine ⟨⟨r, hread, hholds⟩, _, hostPagePayload_eq ht _, ?_⟩
    rw [hostPageRequest_slot hr, hholds.bytes_eq]

/-! ## The updater -/

/-- What the updater leaves of a documented list: all hosts but the last, each
in its record, with the speeds exchanged. -/
theorem holdsHosts_updateHostInfo (doc : HostListFields) {run : ScriptRun} {out : ScriptOutput}
    (hrun : run.output = some out) (hout : out.str = doc.text) (record : Nat → HostInfoSingle)
    (t : Tables) (hne : doc.hosts ≠ []) :
    (updateHostInfo run (some record) t).2.gHostInfoElements.toNat = doc.hosts.length - 1 ∧
      ∃ hosts, (updateHostInfo run (some record) t).2.HoldsHosts hosts ∧
        hosts.length = doc.hosts.length - 1 ∧
        ∀ i h, i < doc.hosts.length - 1 → doc.hosts[i]? = some h →
          hosts[i]? = some (h.stored (record i)) := by
  have hpos : 0 < doc.hosts.length := List.length_pos_iff.mpr hne
  have hlt := doc.count.value_lt
  rw [doc.count_eq] at hlt
  have hcount : countedRecords doc.body = doc.hosts.length - 1 := by
    rw [countedRecords, doc.length_body]
    omega
  have hnonzero : ¬ doc.hosts.length = 0 := by omega
  have hdrop : ¬ doc.hosts.length ≤ doc.hosts.length - 1 := by omega
  have hresult : (updateHostInfo run (some record) t).2 =
      { t with
        gHostInfoArray := some (fillHosts doc.hosts.length 0 doc.body
          { size := doc.hosts.length, record := record })
        gHostInfoElements := UInt32.ofNat (doc.hosts.length - 1) } := by
    rw [updateHostInfo_eq hrun, hout, doc.pieces_text]
    simp only [doc.toNat_announced, List.tail_cons, hcount, if_neg hnonzero, if_neg hdrop]
  have helements : (UInt32.ofNat (doc.hosts.length - 1)).toNat = doc.hosts.length - 1 := by
    rw [UInt32.toNat_ofNat']
    omega
  rw [hresult]
  generalize ha : fillHosts doc.hosts.length 0 doc.body
    { size := doc.hosts.length, record := record } = a
  have hsize : a.size = doc.hosts.length := by
    rw [← ha, size_fillHosts]
  refine ⟨helements, (List.range (doc.hosts.length - 1)).map a.record, ?_, by simp, ?_⟩
  · refine ⟨?_, ?_⟩
    · show (UInt32.ofNat (doc.hosts.length - 1)).toInt32.toInt = _
      rw [toInt_toInt32, helements, if_pos (by omega), List.length_map, List.length_range]
    · intro k hk
      rw [List.length_map, List.length_range] at hk
      rw [List.getElem_map, List.getElem_range]
      show (if _ then _ else _) = _
      rw [if_pos (by omega)]
      rfl
  · intro i h hi hhost
    obtain ⟨rest, hrest⟩ := doc.drop_body hhost
    rw [List.getElem?_map, List.getElem?_range hi, Option.map_some, ← ha, record_fillHosts,
      if_pos (by omega), Nat.sub_zero, hrest, storeRecord_lines]

/-- For an empty list the count line is zero, and there is no record to hold
anything. -/
theorem followsDocument_of_nil (doc : HostListFields) {run : ScriptRun} {out : ScriptOutput}
    (hrun : run.output = some out) (hout : out.str = doc.text)
    (hostBlock : Option (Nat → HostInfoSingle)) (t : Tables) (hnil : doc.hosts = []) :
    FollowsDocument doc (updateHostInfo run hostBlock t).2 := by
  have hn := doc.toNat_announced t.gHostInfoElements doc.body
  have hzero : (updateHostInfo run hostBlock t).2.gHostInfoElements.toNat = 0 := by
    rw [hnil, List.length_nil] at hn
    rw [updateHostInfo_eq hrun, hout, doc.pieces_text]
    simp only [hn, if_true]
  intro i hi
  omega

/-- A refused block leaves the count without a record behind it. -/
theorem not_followsDocument_of_refused (doc : HostListFields) {run : ScriptRun}
    {out : ScriptOutput} (hrun : run.output = some out) (hout : out.str = doc.text) (t : Tables)
    (hne : doc.hosts ≠ []) : ¬ FollowsDocument doc (updateHostInfo run none t).2 := by
  have hn := doc.toNat_announced t.gHostInfoElements doc.body
  have hpos : 0 < doc.hosts.length := List.length_pos_iff.mpr hne
  have hnonzero : ¬ doc.hosts.length = 0 := by omega
  intro hall
  rw [updateHostInfo_eq hrun, hout, doc.pieces_text] at hall
  simp only [hn, if_neg hnonzero] at hall
  have hfirst : 0 < (announcedHosts t.gHostInfoElements (doc.count.digits :: doc.body)).toNat := by
    omega
  obtain ⟨h, _, hc⟩ := hall 0 hfirst
  obtain ⟨r, hread, _⟩ := hc.record
  cases hread

/-- With its block the table counts all hosts but the last, and their records
hold them if the speeds are equal. -/
theorem followsDocument_granted_iff (doc : HostListFields) {run : ScriptRun} {out : ScriptOutput}
    (hrun : run.output = some out) (hout : out.str = doc.text) (record : Nat → HostInfoSingle)
    (t : Tables) (hne : doc.hosts ≠ []) :
    FollowsDocument doc (updateHostInfo run (some record) t).2 ↔
      ∀ h ∈ doc.hosts.dropLast, h.upload.value = h.download.value := by
  obtain ⟨hcount, hosts, ht, hlen, hstored⟩ := holdsHosts_updateHostInfo doc hrun hout record t hne
  have hcarries (i : Nat) (h : HostFields) (hi : i < doc.hosts.length - 1)
      (hhost : doc.hosts[i]? = some h) :
      CarriesHost (updateHostInfo run (some record) t).2 i h ↔
        h.upload.value = h.download.value := by
    rw [ht.carriesHost_iff (hstored i h hi hhost), holdsHost_stored_iff]
  rw [List.dropLast_eq_take]
  constructor
  · intro hall h hmem
    obtain ⟨i, hi, hat⟩ := List.mem_take_iff_getElem.mp hmem
    have hhost : doc.hosts[i]? = some h := by
      rw [← hat]
      exact List.getElem?_eq_getElem (by omega)
    obtain ⟨h', hhost', hc⟩ := hall i (by omega)
    rw [hhost, Option.some_inj] at hhost'
    rw [← hhost'] at hc
    exact (hcarries i h (by omega) hhost).mp hc
  · intro hequal i hi
    rw [hcount] at hi
    have hlt : i < doc.hosts.length := by omega
    have hhost : doc.hosts[i]? = some doc.hosts[i] := List.getElem?_eq_getElem hlt
    refine ⟨doc.hosts[i], hhost, (hcarries i _ hi hhost).mpr (hequal _ ?_)⟩
    exact List.mem_take_iff_getElem.mpr ⟨i, by omega, rfl⟩

/-- The records follow the document exactly when no host is listed, or when the
block was granted and the two speeds of every host but the last are equal. -/
theorem followsDocument_iff (doc : HostListFields) (run : ScriptRun) (out : ScriptOutput)
    (hrun : run.output = some out) (hout : out.str = doc.text)
    (hostBlock : Option (Nat → HostInfoSingle)) (t : Tables) :
    FollowsDocument doc (updateHostInfo run hostBlock t).2 ↔
      doc.hosts = [] ∨
        (hostBlock.isSome ∧ ∀ h ∈ doc.hosts.dropLast, h.upload.value = h.download.value) := by
  by_cases hne : doc.hosts = []
  · exact ⟨fun _ => Or.inl hne,
      fun _ => followsDocument_of_nil doc hrun hout hostBlock t hne⟩
  · cases hostBlock with
    | none =>
      refine ⟨fun hall => absurd hall (not_followsDocument_of_refused doc hrun hout t hne), ?_⟩
      intro h
      rcases h with hnil | ⟨hgranted, _⟩
      · exact absurd hnil hne
      · cases hgranted
    | some record =>
      rw [followsDocument_granted_iff doc hrun hout record t hne]
      constructor
      · intro hequal
        exact Or.inr ⟨rfl, hequal⟩
      · intro h
        rcases h with hnil | ⟨_, hequal⟩
        · exact absurd hnil hne
        · exact hequal

/-- The numeral "2". -/
def twoField : UintField where
  digits := [0x32]
  value := 2
  isNumeral := ⟨List.cons_ne_nil _ _, List.forall_mem_singleton.mpr rfl, rfl⟩
  value_lt := by omega

/-- A host "a" with the given speeds. -/
def hostA (upload download : UintField) : HostFields where
  name := { bytes := [0x61], newline_not_mem := by decide, nul_not_mem := by decide }
  upload := upload
  download := download
  brand := zeroField

/-- Two hosts, the second one silent. -/
def twoHosts (upload download : UintField) : HostListFields where
  count := twoField
  hosts := [hostA upload download, hostA zeroField zeroField]
  count_eq := rfl

theorem followsDocument_iff_equalSpeeds :
    FollowsDocument (twoHosts oneField oneField)
        (updateHostInfo (.ofText (twoHosts oneField oneField).text (by decide) (by decide))
          (some fun _ => .zero) .init).2 ↔
      (twoHosts oneField oneField).hosts = [] ∨
        ((some fun _ => HostInfoSingle.zero : Option (Nat → HostInfoSingle)).isSome ∧
          ∀ h ∈ (twoHosts oneField oneField).hosts.dropLast, h.upload.value = h.download.value) :=
  followsDocument_iff (twoHosts oneField oneField) _ _ rfl rfl (some fun _ => .zero) .init

/-- A host that sends and does not receive is shown the other way round. -/
theorem followsDocument_counterexample :
    ¬ ∀ (doc : HostListFields) (run : ScriptRun) (out : ScriptOutput), run.output = some out →
        out.str = doc.text → ∀ (record : Nat → HostInfoSingle) (t : Tables),
          FollowsDocument doc (updateHostInfo run (some record) t).2 := by
  intro hall
  have h := hall (twoHosts oneField zeroField)
    (.ofText (twoHosts oneField zeroField).text (by decide) (by decide)) _ rfl rfl
    (fun _ => .zero) .init
  obtain ⟨host, hhost, hc⟩ := h 0 (by decide)
  cases hhost
  obtain ⟨r, hr, hholds⟩ := hc.record
  cases hr
  exact absurd hholds.upload (by decide)

end K3ScreenCtrl
