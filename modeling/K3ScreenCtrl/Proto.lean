import K3ScreenCtrl.Lib.ByteStuffing
import K3ScreenCtrl.Lib.CString

/-!
# The protocol of the screen controller

`mcu_proto.h`: the three marks of a frame, the request and response types, the
key codes, the pages, and the structures that travel as payloads.

An enumeration is an inductive type with its C value as `code`.  A structure
keeps the members of the C structure, padding included, and `bytes` is its
image in memory on the little-endian target.
-/

namespace K3ScreenCtrl

open CString

/-! ## Frame marks -/

def FRAME_HEADER : UInt8 := 0x01
def FRAME_TRAILER : UInt8 := 0x04
def FRAME_ESCAPE : UInt8 := 0x10
def PAYLOAD_HEADER : UInt8 := 0x30

/-- The marks, for the stuffing library. -/
def frameMarks : ByteStuffing.Marks UInt8 where
  header := FRAME_HEADER
  trailer := FRAME_TRAILER
  escape := FRAME_ESCAPE
  header_ne_trailer := by decide
  header_ne_escape := by decide
  trailer_ne_escape := by decide

@[simp] theorem frameMarks_header : frameMarks.header = FRAME_HEADER := rfl

@[simp] theorem frameMarks_trailer : frameMarks.trailer = FRAME_TRAILER := rfl

@[simp] theorem frameMarks_escape : frameMarks.escape = FRAME_ESCAPE := rfl

/-! ## Enumerations -/

inductive RequestType where
  | getMcuVersion
  | switchPage
  | updatePorts
  | updateWan
  | updateWifi
  | updateHostsPaged
  | updateBasicInfo
  | notifyEvent
deriving DecidableEq, Repr

def RequestType.code : RequestType → UInt8
  | .getMcuVersion => 1
  | .switchPage => 4
  | .updatePorts => 5
  | .updateWan => 6
  | .updateWifi => 7
  | .updateHostsPaged => 8
  | .updateBasicInfo => 9
  | .notifyEvent => 10

theorem RequestType.code_injective {a b : RequestType} (h : a.code = b.code) : a = b := by
  cases a <;> cases b <;> first | rfl | exact absurd h (by decide)

/-- The events of `REQUEST_NOTIFY_EVENT`. -/
inductive Event where
  | wifiOn
  | wifiOff
  | on24G
  | off24G
  | on5G
  | off5G
  | wispOn
  | wispOff
  | wakeup
  | sleep
  | restoreBackup
  | upgrade
  | reboot
  | reset
  | wifiOn2
deriving DecidableEq, Repr

def Event.code : Event → UInt32
  | .wifiOn => 0
  | .wifiOff => 1
  | .on24G => 2
  | .off24G => 3
  | .on5G => 4
  | .off5G => 5
  | .wispOn => 6
  | .wispOff => 7
  | .wakeup => 9
  | .sleep => 10
  | .restoreBackup => 11
  | .upgrade => 12
  | .reboot => 13
  | .reset => 14
  | .wifiOn2 => 15

inductive ResponseType where
  | mcuVersion
  | keyPress
deriving DecidableEq, Repr

def ResponseType.code : ResponseType → UInt8
  | .mcuVersion => 1
  | .keyPress => 3

/-- `RESPONSE_MCU_VERSION`. -/
structure McuVersion where
  patchVer : UInt16
  minorVer : UInt8
  majorVer : UInt8
deriving DecidableEq

/-! The key codes of `RESPONSE_KEY_PRESS` that do something. -/

def KEY_LEFT_SHORT : UInt8 := 1
def KEY_RIGHT_SHORT : UInt8 := 4
def KEY_MIDDLE_SHORT : UInt8 := 7
def KEY_MIDDLE_LONG : UInt8 := 9

/-- The pages of `REQUEST_SWITCH_PAGE`. -/
inductive Page where
  | basicInfo
  | ports
  | wan
  | wifi
  | hosts
deriving DecidableEq, Repr

def Page.code : Page → Nat
  | .basicInfo => 1
  | .ports => 2
  | .wan => 3
  | .wifi => 4
  | .hosts => 5

/-- The page of a C value, if it lies in the range of the enumeration. -/
def Page.ofCode? : Nat → Option Page
  | 1 => some .basicInfo
  | 2 => some .ports
  | 3 => some .wan
  | 4 => some .wifi
  | 5 => some .hosts
  | _ => none

/-- `page++`, short of the last page. -/
def Page.succ : Page → Page
  | .basicInfo => .ports
  | .ports => .wan
  | .wan => .wifi
  | .wifi => .hosts
  | .hosts => .hosts

/-- `page--`, short of the first page. -/
def Page.pred : Page → Page
  | .basicInfo => .basicInfo
  | .ports => .basicInfo
  | .wan => .ports
  | .wifi => .wan
  | .hosts => .wifi

def PAGE_MIN : Page := .basicInfo
def PAGE_MAX : Page := .hosts

/-! ## Structures -/

/-- The four little-endian bytes of an `unsigned int`. -/
def le32 (v : UInt32) : List UInt8 :=
  [v.toUInt8, (v >>> 8).toUInt8, (v >>> 16).toUInt8, (v >>> 24).toUInt8]

@[simp] theorem length_le32 (v : UInt32) : (le32 v).length = 4 := rfl

/-- `PORT_INFO`. -/
structure PortInfo where
  ethPort1Conn : UInt8
  ethPort2Conn : UInt8
  ethPort3Conn : UInt8
  pad1 : UInt8
  ethWanConn : UInt8
  usbConn : UInt8
  pad2 : CharArray 2
deriving DecidableEq

def PortInfo.bytes (p : PortInfo) : List UInt8 :=
  [p.ethPort1Conn, p.ethPort2Conn, p.ethPort3Conn, p.pad1, p.ethWanConn, p.usbConn] ++ p.pad2.bytes

/-- `WAN_INFO`. -/
structure WanInfo where
  isConnected : UInt32
  txBytesPerSec : UInt32
  rxBytesPerSec : UInt32
deriving DecidableEq

def WanInfo.bytes (w : WanInfo) : List UInt8 :=
  le32 w.isConnected ++ le32 w.txBytesPerSec ++ le32 w.rxBytesPerSec

/-- `struct _wifi_radio_info`. -/
structure WifiRadioInfo where
  ssid : CharArray 64
  psk : CharArray 64
  enabled : UInt8
  staCount : UInt8
  pad : CharArray 2
deriving DecidableEq

def WifiRadioInfo.bytes (r : WifiRadioInfo) : List UInt8 :=
  r.ssid.bytes ++ r.psk.bytes ++ [r.enabled, r.staCount] ++ r.pad.bytes

/-- A radio with all fields zero. -/
def WifiRadioInfo.zero : WifiRadioInfo where
  ssid := CharArray.zero 64
  psk := CharArray.zero 64
  enabled := 0
  staCount := 0
  pad := CharArray.zero 2

/-- `WIFI_INFO`. -/
structure WifiInfo where
  bandMix : UInt32
  wl24gInfo : WifiRadioInfo
  wl5gInfo : WifiRadioInfo
  wlVisitorInfo : WifiRadioInfo
deriving DecidableEq

def WifiInfo.bytes (w : WifiInfo) : List UInt8 :=
  le32 w.bandMix ++ w.wl24gInfo.bytes ++ w.wl5gInfo.bytes ++ w.wlVisitorInfo.bytes

/-- `struct _host_info_single`. -/
structure HostInfoSingle where
  uploadBps : UInt32
  downloadBps : UInt32
  hostname : CharArray 36
  logo : UInt32
deriving DecidableEq

def HostInfoSingle.bytes (h : HostInfoSingle) : List UInt8 :=
  le32 h.uploadBps ++ le32 h.downloadBps ++ h.hostname.bytes ++ le32 h.logo

/-- A record of zeros. -/
def HostInfoSingle.zero : HostInfoSingle where
  uploadBps := 0
  downloadBps := 0
  hostname := CharArray.zero 36
  logo := 0

def HOSTS_PER_PAGE : Nat := 5

/-- `HOST_INFO`. -/
structure HostInfo where
  totalHosts : UInt8
  currentPageIndex : UInt8
  pad : CharArray 2
  hostInfo : List HostInfoSingle
  length_hostInfo : hostInfo.length = HOSTS_PER_PAGE

def HostInfo.bytes (h : HostInfo) : List UInt8 :=
  [h.totalHosts, h.currentPageIndex] ++ h.pad.bytes ++ h.hostInfo.flatMap HostInfoSingle.bytes

/-- `BASIC_INFO`. -/
structure BasicInfo where
  productName : CharArray 8
  hwVersion : CharArray 8
  fwVersion : CharArray 24
  macAddrBase : CharArray 18
deriving DecidableEq

def BasicInfo.bytes (b : BasicInfo) : List UInt8 :=
  b.productName.bytes ++ b.hwVersion.bytes ++ b.fwVersion.bytes ++ b.macAddrBase.bytes

/-! The sizes that `sizeof` gives for the structures. -/

@[simp] theorem PortInfo.length_bytes (p : PortInfo) : p.bytes.length = 8 := by
  simp [PortInfo.bytes]

@[simp] theorem WanInfo.length_bytes (w : WanInfo) : w.bytes.length = 12 := by
  simp [WanInfo.bytes]

@[simp] theorem WifiRadioInfo.length_bytes (r : WifiRadioInfo) : r.bytes.length = 132 := by
  simp [WifiRadioInfo.bytes]

@[simp] theorem WifiInfo.length_bytes (w : WifiInfo) : w.bytes.length = 400 := by
  simp [WifiInfo.bytes]

@[simp] theorem HostInfoSingle.length_bytes (h : HostInfoSingle) : h.bytes.length = 48 := by
  simp [HostInfoSingle.bytes]

@[simp] theorem BasicInfo.length_bytes (b : BasicInfo) : b.bytes.length = 58 := by
  simp [BasicInfo.bytes]

end K3ScreenCtrl
