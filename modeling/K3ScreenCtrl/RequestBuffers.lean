import K3ScreenCtrl.Lib.Block
import K3ScreenCtrl.Lib.Run
import K3ScreenCtrl.Transmit

/-!
# The buffers of a request

A request is built in up to three places: a structure on the stack, the command
buffer of `request_send_raw` and the transmit buffer of `frame_send`.  What they
hold before is arbitrary, and the functions clear them or store into them byte
by byte.

The functions here are those of `requests.c` and `frame.c` once more, on blocks
of memory.  Each of them writes the bytes that the functions without memory
build: `frameSendIn_eq` for the frame, `requestSendRawIn_eq` for the command
buffer, and one equation for each request.  None of the equations mentions what
the blocks held.
-/

namespace K3ScreenCtrl

open Block ByteStuffing CString

/-- What the memory that a request uses holds before. -/
structure RequestMemory where
  stack : Nat → UInt8
  cmdbuf : Nat → UInt8
  txbuf : Nat → UInt8

/-! ## The transmit buffer -/

/-- `ESCAPE_AND_APPEND_BYTE`. -/
def escapeAndAppendByteIn (w : Writer UInt8) (byte : UInt8) : Option (Writer UInt8) :=
  if byte = FRAME_HEADER ∨ byte = FRAME_TRAILER ∨ byte = FRAME_ESCAPE then
    (w.put FRAME_ESCAPE).bind fun w => w.put byte
  else w.put byte

/-- `frame_send`: the bytes that it writes to the line. -/
def frameSendIn (mem : RequestMemory) (data : List UInt8) : Option (List UInt8) := do
  let buf ← fill (fresh (txBufferSize data.length) mem.txbuf) 0 (txBufferSize data.length)
  let w ← Writer.put { buf := buf, pos := 0 } FRAME_HEADER
  let w ← data.foldlM escapeAndAppendByteIn w
  let checksum := crcXmodem data
  let w ← escapeAndAppendByteIn w (checksumLow checksum)
  let w ← escapeAndAppendByteIn w (checksumHigh checksum)
  let w ← w.put FRAME_TRAILER
  return w.buf.take w.pos

theorem escapeAndAppendByteIn_eq (w : Writer UInt8) (byte : UInt8) :
    escapeAndAppendByteIn w byte = w.puts (stuffOne frameMarks byte) := by
  unfold escapeAndAppendByteIn
  by_cases h : frameMarks.IsMark byte
  · have hmark : byte = FRAME_HEADER ∨ byte = FRAME_TRAILER ∨ byte = FRAME_ESCAPE := h
    rw [stuffOne_of_isMark h, if_pos hmark]
    simp [Writer.puts]
  · have hmark : ¬ (byte = FRAME_HEADER ∨ byte = FRAME_TRAILER ∨ byte = FRAME_ESCAPE) := h
    rw [stuffOne_of_not_isMark h, if_neg hmark]
    simp [Writer.puts]

theorem foldlM_escapeAndAppendByteIn (data : List UInt8) (w : Writer UInt8) :
    data.foldlM escapeAndAppendByteIn w = w.puts (stuff frameMarks data) := by
  induction data generalizing w with
  | nil => rfl
  | cons byte data ih =>
    rw [List.foldlM_cons, stuff_cons, Writer.puts_append, escapeAndAppendByteIn_eq]
    congr 1
    funext w'
    exact ih w'

/-- The stores of `frame_send`, one after the other. -/
theorem frameSendIn_eq_puts (mem : RequestMemory) (data : List UInt8) :
    frameSendIn mem data =
      ((Writer.after [] (List.replicate (txBufferSize data.length) 0)).puts
        (frameSend data)).map fun w => w.buf.take w.pos := by
  have hframe : frameSend data =
      [FRAME_HEADER] ++ (stuff frameMarks data ++
        (stuffOne frameMarks (checksumLow (crcXmodem data)) ++
          (stuffOne frameMarks (checksumHigh (crcXmodem data)) ++ [FRAME_TRAILER]))) := by
    rw [frameSend_eq, withChecksum, stuff_append, stuff_cons, stuff_cons, stuff_nil]
    simp
  unfold frameSendIn
  rw [fill_fresh, hframe]
  simp only [Writer.puts_append, Writer.puts_singleton, foldlM_escapeAndAppendByteIn,
    escapeAndAppendByteIn_eq, Option.bind_eq_bind, Option.bind_some, Option.pure_def,
    Option.map_eq_bind, Option.bind_assoc, Function.comp_def]
  rfl

/-- A frame that fits its block is written as it is, and otherwise a store
leaves the block. -/
theorem frameSendIn_eq (mem : RequestMemory) (data : List UInt8) :
    frameSendIn mem data = if FitsTxBuffer data then some (frameSend data) else none := by
  rw [frameSendIn_eq_puts, Writer.puts_after, List.length_replicate]
  by_cases hfits : FitsTxBuffer data
  · have hle : (frameSend data).length ≤ txBufferSize data.length := hfits
    rw [if_pos hle, if_pos hfits]
    show some ((frameSend data ++ _).take (frameSend data).length) = _
    rw [List.take_left]
  · have hle : ¬ (frameSend data).length ≤ txBufferSize data.length := hfits
    rw [if_neg hle, if_neg hfits]
    rfl

/-! ## The command buffer -/

/-- `request_send_raw`. -/
def requestSendRawIn (mem : RequestMemory) (type : RequestType) (data : List UInt8) :
    Option (List UInt8) := do
  let cmdbuf ← fill (fresh (data.length + 2) mem.cmdbuf) 0 (data.length + 2)
  let cmdbuf ← store cmdbuf 0 PAYLOAD_HEADER
  let cmdbuf ← store cmdbuf 1 type.code
  let cmdbuf ← copyTo cmdbuf 2 data
  frameSendIn mem cmdbuf

theorem requestSendRawIn_eq (mem : RequestMemory) (type : RequestType) (data : List UInt8) :
    requestSendRawIn mem type data = frameSendIn mem (requestSendRaw type data) := by
  have hheader : store (List.replicate (data.length + 2) (0 : UInt8)) 0 PAYLOAD_HEADER =
      some ([PAYLOAD_HEADER] ++ List.replicate (data.length + 1) 0) :=
    store_replicate [] rfl (data.length + 1) 0 PAYLOAD_HEADER
  have htype : store ([PAYLOAD_HEADER] ++ List.replicate (data.length + 1) 0) 1 type.code =
      some ([PAYLOAD_HEADER] ++ [type.code] ++ List.replicate data.length 0) :=
    store_replicate [PAYLOAD_HEADER] rfl data.length 0 type.code
  have hdata : copyTo ([PAYLOAD_HEADER] ++ [type.code] ++ List.replicate data.length 0) 2 data =
      some (requestSendRaw type data) :=
    copyTo_rest rfl (by simp)
  unfold requestSendRawIn
  rw [fill_fresh]
  simp only [Option.bind_eq_bind, Option.bind_some, hheader, htype, hdata]

/-! ## The structures on the stack -/

def requestMcuVersionIn (mem : RequestMemory) : Option (List UInt8) :=
  requestSendRawIn mem .getMcuVersion []

def requestSwitchPageIn (mem : RequestMemory) (page : Page) : Option (List UInt8) :=
  requestSendRawIn mem .switchPage (le32 (UInt32.ofNat page.code))

def requestNotifyEventIn (mem : RequestMemory) (event : Event) : Option (List UInt8) :=
  requestSendRawIn mem .notifyEvent (le32 event.code)

/-- `request_update_wan`.  The structure is not cleared. -/
def requestUpdateWanIn (mem : RequestMemory) (isConnected txBps rxBps : UInt32) :
    Option (List UInt8) := do
  let waninfo := fresh 12 mem.stack
  let waninfo ← copyTo waninfo 0 (le32 isConnected)
  let waninfo ← copyTo waninfo 4 (le32 txBps)
  let waninfo ← copyTo waninfo 8 (le32 rxBps)
  requestSendRawIn mem .updateWan waninfo

/-- `strncpy(block + start, src, n)`. -/
def strncpyIn (block : List UInt8) (start : Nat) (src : List UInt8) (n : Nat) :
    Option (List UInt8) :=
  copyTo block start (src.take n ++ List.replicate (n - src.length) 0)

/-- `request_update_basic_info`. -/
def requestUpdateBasicInfoIn (mem : RequestMemory) (prodName hwVer fwVer macAddr : List UInt8) :
    Option (List UInt8) := do
  let basicInfo ← fill (fresh 58 mem.stack) 0 58
  let basicInfo ← strncpyIn basicInfo 0 prodName 8
  let basicInfo ← strncpyIn basicInfo 8 hwVer 8
  let basicInfo ← strncpyIn basicInfo 16 fwVer 24
  let basicInfo ← strncpyIn basicInfo 40 macAddr 18
  requestSendRawIn mem .updateBasicInfo basicInfo

def requestUpdateWifiIn (mem : RequestMemory) (wifiInfo : WifiInfo) : Option (List UInt8) :=
  requestSendRawIn mem .updateWifi wifiInfo.bytes

def requestUpdatePortsIn (mem : RequestMemory) (portInfo : PortInfo) : Option (List UInt8) :=
  requestSendRawIn mem .updatePorts portInfo.bytes

/-- One round of the copy loop: `memmove(&info.host_info[i], &hosts[start + i], 48)`. -/
def copyHostIn (hosts : Option HostArray) (start : Int) (info : List UInt8) (i : Nat) :
    Option (List UInt8) :=
  (readHost hosts (start + i)).bind fun host => copyTo info (4 + 48 * i) host.bytes

/-- `request_update_hosts_paged`. -/
def requestUpdateHostsPagedIn (mem : RequestMemory) (hosts : Option HostArray) (len start : Int) :
    Option (List UInt8) := do
  let info ← fill (fresh 244 mem.stack) 0 244
  let info ← store info 0 (UInt8.ofInt len)
  let info ← store info 1 (UInt8.ofInt (start.tdiv HOSTS_PER_PAGE))
  let info ← (List.range (copylen len start).toNat).foldlM (copyHostIn hosts start) info
  requestSendRawIn mem .updateHostsPaged info

theorem requestMcuVersionIn_eq (mem : RequestMemory) :
    requestMcuVersionIn mem = frameSendIn mem requestMcuVersion :=
  requestSendRawIn_eq mem .getMcuVersion []

theorem requestSwitchPageIn_eq (mem : RequestMemory) (page : Page) :
    requestSwitchPageIn mem page = frameSendIn mem (requestSwitchPage page) :=
  requestSendRawIn_eq mem .switchPage _

theorem requestNotifyEventIn_eq (mem : RequestMemory) (event : Event) :
    requestNotifyEventIn mem event = frameSendIn mem (requestNotifyEvent event) :=
  requestSendRawIn_eq mem .notifyEvent _

theorem requestUpdateWifiIn_eq (mem : RequestMemory) (wifiInfo : WifiInfo) :
    requestUpdateWifiIn mem wifiInfo = frameSendIn mem (requestUpdateWifi wifiInfo) :=
  requestSendRawIn_eq mem .updateWifi _

theorem requestUpdatePortsIn_eq (mem : RequestMemory) (portInfo : PortInfo) :
    requestUpdatePortsIn mem portInfo = frameSendIn mem (requestUpdatePorts portInfo) :=
  requestSendRawIn_eq mem .updatePorts _

/-- The three stores fill the WAN structure. -/
theorem requestUpdateWanIn_eq (mem : RequestMemory) (isConnected txBps rxBps : UInt32) :
    requestUpdateWanIn mem isConnected txBps rxBps =
      frameSendIn mem (requestUpdateWan isConnected txBps rxBps) := by
  have hconnected : copyTo (fresh 12 mem.stack) 0 (le32 isConnected) =
      some (le32 isConnected ++ (fresh 12 mem.stack).drop 4) :=
    @copyTo_append _ [] (fresh 12 mem.stack) _ 0 rfl (by simp)
  have htx : copyTo (le32 isConnected ++ (fresh 12 mem.stack).drop 4) 4 (le32 txBps) =
      some (le32 isConnected ++ le32 txBps ++ ((fresh 12 mem.stack).drop 4).drop 4) :=
    copyTo_append rfl (by simp)
  have hrx : copyTo (le32 isConnected ++ le32 txBps ++ ((fresh 12 mem.stack).drop 4).drop 4) 8
      (le32 rxBps) = some (le32 isConnected ++ le32 txBps ++ le32 rxBps) :=
    copyTo_rest rfl (by simp)
  unfold requestUpdateWanIn
  simp only [Option.bind_eq_bind, Option.bind_some, hconnected, htx, hrx, requestSendRawIn_eq]
  rfl

/-- `strncpy` over a whole member stores what a copy into a cleared array
holds. -/
theorem strncpyIn_eq (block : List UInt8) (start : Nat) (src : List UInt8) (n : Nat) :
    strncpyIn block start src n = copyTo block start (copyString src (CharArray.zero n)).bytes := by
  have hdrop : (CharArray.zero n).bytes.drop n = [] := List.drop_of_length_le (by simp)
  show _ = copyTo block start (src.take n ++ List.replicate (n - src.length) 0 ++
    (CharArray.zero n).bytes.drop n)
  rw [hdrop, List.append_nil]
  rfl

/-- The four copies fill the basic info. -/
theorem requestUpdateBasicInfoIn_eq (mem : RequestMemory)
    (prodName hwVer fwVer macAddr : List UInt8) :
    requestUpdateBasicInfoIn mem prodName hwVer fwVer macAddr =
      frameSendIn mem (requestUpdateBasicInfo prodName hwVer fwVer macAddr) := by
  generalize hname : copyString prodName (CharArray.zero 8) = name
  generalize hhw : copyString hwVer (CharArray.zero 8) = hw
  generalize hfw : copyString fwVer (CharArray.zero 24) = fw
  generalize hmac : copyString macAddr (CharArray.zero 18) = mac
  have hcopy₁ : copyTo (List.replicate 58 0) 0 name.bytes =
      some (name.bytes ++ (List.replicate 58 0).drop name.bytes.length) :=
    @copyTo_append _ [] (List.replicate 58 0) _ 0 rfl (by simp)
  have hcopy₂ : copyTo (name.bytes ++ List.replicate 50 0) 8 hw.bytes =
      some (name.bytes ++ hw.bytes ++ (List.replicate 50 0).drop hw.bytes.length) :=
    copyTo_append (by simp) (by simp)
  have hcopy₃ : copyTo (name.bytes ++ hw.bytes ++ List.replicate 42 0) 16 fw.bytes =
      some (name.bytes ++ hw.bytes ++ fw.bytes ++ (List.replicate 42 0).drop fw.bytes.length) :=
    copyTo_append (by simp) (by simp)
  have hcopy₄ : copyTo (name.bytes ++ hw.bytes ++ fw.bytes ++ List.replicate 18 0) 40 mac.bytes =
      some (name.bytes ++ hw.bytes ++ fw.bytes ++ mac.bytes) :=
    copyTo_rest (by simp) (by simp)
  unfold requestUpdateBasicInfoIn requestUpdateBasicInfo
  simp only [fill_fresh, strncpyIn_eq, Option.bind_eq_bind, Option.bind_some, hname, hhw, hfw, hmac,
    hcopy₁, CharArray.length_bytes, List.drop_replicate, hcopy₂, hcopy₃, hcopy₄,
    requestSendRawIn_eq, Nat.reduceSub]
  rfl

/-- A copy of a record into its slot. -/
theorem copyHostIn_eq (hosts : Option HostArray) (start : Int) (info : HostInfo) {i : Nat}
    (hi : i < HOSTS_PER_PAGE) :
    copyHostIn hosts start info.bytes i = (copyHost hosts start info i).map HostInfo.bytes := by
  unfold copyHostIn copyHost
  cases readHost hosts (start + i) with
  | none => rfl
  | some host =>
    have hlt : i < info.hostInfo.length := by rw [info.length_hostInfo]; exact hi
    have hstart : 4 + 48 * i =
        ([info.totalHosts, info.currentPageIndex] ++ info.pad.bytes).length + 48 * i := by simp
    exact copyTo_row HostInfoSingle.length_bytes hlt hstart host

/-- A page without hosts is its header and zeros. -/
theorem HostInfo.bytes_header (total index : UInt8) :
    (HostInfo.header total index).bytes = [total] ++ [index] ++ List.replicate 242 0 := by
  have hzero : HostInfoSingle.zero.bytes = List.replicate 48 0 := rfl
  have hslots : (List.replicate HOSTS_PER_PAGE HostInfoSingle.zero).flatMap HostInfoSingle.bytes =
      List.replicate 240 0 := by
    rw [List.flatMap_replicate, hzero, List.flatten_replicate_replicate]
    rfl
  show [total, index] ++ [0, 0] ++
    (List.replicate HOSTS_PER_PAGE HostInfoSingle.zero).flatMap HostInfoSingle.bytes = _
  rw [hslots, List.append_assoc]
  exact congrArg ([total] ++ [index] ++ ·) (List.replicate_append_replicate (n := 2) (m := 240))

/-- The cleared structure with its header is a page without hosts, and the loop
fills its slots. -/
theorem requestUpdateHostsPagedIn_eq (mem : RequestMemory) (hosts : Option HostArray)
    (len start : Int) :
    requestUpdateHostsPagedIn mem hosts len start =
      (requestUpdateHostsPaged hosts len start).bind (frameSendIn mem) := by
  have htotal (total : UInt8) : store (List.replicate 244 0) 0 total =
      some ([total] ++ List.replicate 243 0) :=
    store_replicate [] rfl 243 0 total
  have hindex (total index : UInt8) : store ([total] ++ List.replicate 243 0) 1 index =
      some (HostInfo.header total index).bytes := by
    rw [HostInfo.bytes_header]
    exact store_replicate [total] rfl 242 0 index
  have hloop (info : HostInfo) :
      (List.range (copylen len start).toNat).foldlM (copyHostIn hosts start) info.bytes =
        ((List.range (copylen len start).toNat).foldlM (copyHost hosts start) info).map
          HostInfo.bytes := by
    refine Run.run_map ?_ info
    intro info i hi
    have hlt := List.mem_range.mp hi
    have hle := copylen_le len start
    exact copyHostIn_eq hosts start info (by omega)
  unfold requestUpdateHostsPagedIn requestUpdateHostsPaged
  simp only [fill_fresh, Option.bind_eq_bind, Option.bind_some, htotal, hindex, hloop,
    Option.bind_map, Function.comp_def, requestSendRawIn_eq]

end K3ScreenCtrl
