import K3ScreenCtrl.InfoCenter

/-!
# The requests to the screen

`requests.c`: each function builds the payload that it hands to `frame_send`.

`request_update_hosts_paged` reads the host table through a pointer, at an
index that it computes from two `int`s.  A read through a null pointer or
outside the block has no defined result, and the payload is then `none`.
-/

namespace K3ScreenCtrl

open CString

/-- `request_send_raw`: the payload of a request. -/
def requestSendRaw (type : RequestType) (data : List UInt8) : List UInt8 :=
  PAYLOAD_HEADER :: type.code :: data

def requestMcuVersion : List UInt8 := requestSendRaw .getMcuVersion []

def requestSwitchPage (page : Page) : List UInt8 :=
  requestSendRaw .switchPage (le32 (UInt32.ofNat page.code))

def requestNotifyEvent (event : Event) : List UInt8 :=
  requestSendRaw .notifyEvent (le32 event.code)

/-- `request_update_wan`.  The `int` parameters carry the bits of the table's
`unsigned` fields. -/
def requestUpdateWan (isConnected txBps rxBps : UInt32) : List UInt8 :=
  let waninfo : WanInfo :=
    { isConnected := isConnected, txBytesPerSec := txBps, rxBytesPerSec := rxBps }
  requestSendRaw .updateWan waninfo.bytes

/-- `request_update_basic_info`: the strings are copied into a cleared
structure. -/
def requestUpdateBasicInfo (prodName hwVer fwVer macAddr : List UInt8) : List UInt8 :=
  let basicInfo : BasicInfo :=
    { productName := copyString prodName (CharArray.zero 8)
      hwVersion := copyString hwVer (CharArray.zero 8)
      fwVersion := copyString fwVer (CharArray.zero 24)
      macAddrBase := copyString macAddr (CharArray.zero 18) }
  requestSendRaw .updateBasicInfo basicInfo.bytes

def requestUpdateWifi (wifiInfo : WifiInfo) : List UInt8 :=
  requestSendRaw .updateWifi wifiInfo.bytes

def requestUpdatePorts (portInfo : PortInfo) : List UInt8 :=
  requestSendRaw .updatePorts portInfo.bytes

/-! ## Host pages -/

/-- `hosts[k]`, where `hosts` may be null and `k` may lie outside the block. -/
def readHost (hosts : Option HostArray) (k : Int) : Option HostInfoSingle :=
  match hosts with
  | none => none
  | some a => if 0 ≤ k ∧ k < a.size then some (a.record k.toNat) else none

/-- `info.host_info[i] = host`. -/
def HostInfo.setHost (info : HostInfo) (i : Nat) (host : HostInfoSingle) : HostInfo where
  totalHosts := info.totalHosts
  currentPageIndex := info.currentPageIndex
  pad := info.pad
  hostInfo := info.hostInfo.set i host
  length_hostInfo := by rw [List.length_set, info.length_hostInfo]

/-- The header of a host page, with no host in it. -/
def HostInfo.header (totalHosts currentPageIndex : UInt8) : HostInfo where
  totalHosts := totalHosts
  currentPageIndex := currentPageIndex
  pad := CharArray.zero 2
  hostInfo := List.replicate HOSTS_PER_PAGE HostInfoSingle.zero
  length_hostInfo := List.length_replicate

/-- The number of hosts that `request_update_hosts_paged` copies. -/
def copylen (len start : Int) : Int :=
  if len - start > HOSTS_PER_PAGE then HOSTS_PER_PAGE else len - start

/-- One round of the copy loop. -/
def copyHost (hosts : Option HostArray) (start : Int) (info : HostInfo) (i : Nat) :
    Option HostInfo :=
  (readHost hosts (start + i)).map fun host => info.setHost i host

/-- `request_update_hosts_paged`. -/
def requestUpdateHostsPaged (hosts : Option HostArray) (len start : Int) : Option (List UInt8) :=
  let info := HostInfo.header (UInt8.ofInt len) (UInt8.ofInt (start.tdiv HOSTS_PER_PAGE))
  let filled := (List.range (copylen len start).toNat).foldlM (copyHost hosts start) info
  filled.map fun info => requestSendRaw .updateHostsPaged info.bytes

/-! ## What the requests are -/

/-- The type byte of a payload. -/
def requestType (payload : List UInt8) : Option UInt8 := payload[1]?

@[simp] theorem requestType_requestSendRaw (type : RequestType) (data : List UInt8) :
    requestType (requestSendRaw type data) = some type.code := rfl

/-- A host page with the given hosts in its first slots. -/
def HostInfo.page (totalHosts currentPageIndex : UInt8) (hosts : List HostInfoSingle)
    (h : hosts.length ≤ HOSTS_PER_PAGE) : HostInfo where
  totalHosts := totalHosts
  currentPageIndex := currentPageIndex
  pad := CharArray.zero 2
  hostInfo := hosts ++ List.replicate (HOSTS_PER_PAGE - hosts.length) HostInfoSingle.zero
  length_hostInfo := by
    rw [List.length_append, List.length_replicate]
    omega

/-- The page index of the first record of a page. -/
theorem tdiv_hostsPerPage (k : Int) : (k * HOSTS_PER_PAGE).tdiv HOSTS_PER_PAGE = k := by
  apply Int.mul_tdiv_cancel
  unfold HOSTS_PER_PAGE
  omega

theorem copylen_le (len start : Int) : (copylen len start).toNat ≤ HOSTS_PER_PAGE := by
  unfold copylen
  split <;> omega

/-- The copy loop fills the slots in order. -/
theorem copyHosts_eq {hosts : Option HostArray} {start : Int} {total index : UInt8}
    (record : Nat → HostInfoSingle) (m : Nat) (hm : m ≤ HOSTS_PER_PAGE)
    (hread : ∀ i < m, readHost hosts (start + i) = some (record i)) :
    (List.range m).foldlM (copyHost hosts start) (HostInfo.header total index) =
      some (HostInfo.page total index ((List.range m).map record) (by simpa using hm)) := by
  induction m with
  | zero => rfl
  | succ m ih =>
    have hlen : ((List.range m).map record).length = m := by simp
    obtain ⟨rest, hrest⟩ : ∃ rest, HOSTS_PER_PAGE - m = rest + 1 :=
      ⟨HOSTS_PER_PAGE - m - 1, by omega⟩
    have hrest' : HOSTS_PER_PAGE - (m + 1) = rest := by omega
    have hstep : (List.range (m + 1)).foldlM (copyHost hosts start) (HostInfo.header total index) =
        ((List.range m).foldlM (copyHost hosts start) (HostInfo.header total index)).bind
          fun info => copyHost hosts start info m := by
      simp [List.range_succ]
    rw [hstep, ih (by omega) fun i hi => hread i (by omega), Option.bind_some, copyHost,
      hread m (by omega), Option.map_some]
    unfold HostInfo.setHost HostInfo.page
    congr 2
    dsimp only
    rw [List.set_append_right _ _ (Nat.le_of_eq hlen), hlen, Nat.sub_self, hrest,
      List.replicate_succ, List.set_cons_zero, List.range_succ, List.map_append, List.length_append,
      hlen]
    simp [hrest']

/-- A host page whose records can be read. -/
theorem requestUpdateHostsPaged_eq {hosts : Option HostArray} {len start : Int}
    (record : Nat → HostInfoSingle)
    (hread : ∀ i < (copylen len start).toNat, readHost hosts (start + i) = some (record i)) :
    requestUpdateHostsPaged hosts len start =
      some (requestSendRaw .updateHostsPaged
        (HostInfo.page (UInt8.ofInt len) (UInt8.ofInt (start.tdiv HOSTS_PER_PAGE))
          ((List.range (copylen len start).toNat).map record)
          (by simpa using copylen_le len start)).bytes) := by
  rw [requestUpdateHostsPaged, copyHosts_eq record _ (copylen_le len start) hread, Option.map_some]

/-- The four strings of the basic info are terminated and zero-padded. -/
structure BasicInfo.Padded (b : BasicInfo) : Prop where
  productName : b.productName.Padded
  hwVersion : b.hwVersion.Padded
  fwVersion : b.fwVersion.Padded
  macAddrBase : b.macAddrBase.Padded

/-- A basic-info request built from padded strings carries the structure as it
is. -/
theorem requestUpdateBasicInfo_eq {b : BasicInfo} (h : b.Padded) :
    requestUpdateBasicInfo b.productName.str b.hwVersion.str b.fwVersion.str b.macAddrBase.str =
      requestSendRaw .updateBasicInfo b.bytes := by
  unfold requestUpdateBasicInfo
  rw [h.productName.copyString_str (by omega), h.hwVersion.copyString_str (by omega),
    h.fwVersion.copyString_str (by omega), h.macAddrBase.copyString_str (by omega)]

end K3ScreenCtrl
