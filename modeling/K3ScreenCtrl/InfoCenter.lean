import K3ScreenCtrl.Proto
import K3ScreenCtrl.Scripts
import K3ScreenCtrl.Tokenizer

/-!
# The info center

The rest of `infocenter.c`: the global tables, the store lists of the five
pages, and the updaters that run a script and fill a table from its output.

The host table is the only one on the heap.  `HostArray` is the block that
`g_host_info_array` points to: its size in records and what each record holds,
stored or not.

The types are those of a 64-bit target.  There the size of the block that
`update_host_info` asks for, at most `2 ^ 32` records of 48 bytes, fits `size_t`.
With a `size_t` of 32 bits the product would wrap from 89478486 hosts on.
-/

namespace K3ScreenCtrl

open CString

/-- `'\n'`. -/
def NEWLINE : UInt8 := 0x0a

/-- The result of an updater. -/
inductive Status where
  | success
  | failure
deriving DecidableEq, Repr

/-- `ret |= status`, where `SUCCESS` is 0 and `FAILURE` is -1. -/
def Status.or : Status → Status → Status
  | .success, s => s
  | .failure, _ => .failure

/-- A block of `size` host records, from `malloc(size * 48)` without a wrap. -/
structure HostArray where
  size : Nat
  record : Nat → HostInfoSingle

/-- Change one record of a block. -/
def HostArray.modify (a : HostArray) (i : Nat) (f : HostInfoSingle → HostInfoSingle) :
    HostArray where
  size := a.size
  record := fun j => if j = i then f (a.record j) else a.record j

/-- The globals of `infocenter.c`. -/
structure Tables where
  gBasicInfo : BasicInfo
  gPortInfo : PortInfo
  gWanInfo : WanInfo
  gWifiInfo : WifiInfo
  gHostInfoArray : Option HostArray
  gHostInfoElements : UInt32

/-- The globals at program start. -/
def Tables.init : Tables where
  gBasicInfo :=
    { productName := CharArray.zero 8, hwVersion := CharArray.zero 8
      fwVersion := CharArray.zero 24, macAddrBase := CharArray.zero 18 }
  gPortInfo :=
    { ethPort1Conn := 0, ethPort2Conn := 0, ethPort3Conn := 0, pad1 := 0, ethWanConn := 0
      usbConn := 0, pad2 := CharArray.zero 2 }
  gWanInfo := { isConnected := 0, txBytesPerSec := 0, rxBytesPerSec := 0 }
  gWifiInfo :=
    { bandMix := 0, wl24gInfo := WifiRadioInfo.zero, wl5gInfo := WifiRadioInfo.zero
      wlVisitorInfo := WifiRadioInfo.zero }
  gHostInfoArray := none
  gHostInfoElements := 0

/-- Change one record of the host table. -/
def Tables.modifyHost (t : Tables) (i : Nat) (f : HostInfoSingle → HostInfoSingle) : Tables :=
  { t with gHostInfoArray := t.gHostInfoArray.map fun a => a.modify i f }

/-! The places that the stores point at. -/

def gBasicInfo : Place Tables BasicInfo where
  modify := fun f t => { t with gBasicInfo := f t.gBasicInfo }
  modify_id := fun _ => rfl
  modify_modify := fun _ _ _ => rfl

def gPortInfo : Place Tables PortInfo where
  modify := fun f t => { t with gPortInfo := f t.gPortInfo }
  modify_id := fun _ => rfl
  modify_modify := fun _ _ _ => rfl

def gWanInfo : Place Tables WanInfo where
  modify := fun f t => { t with gWanInfo := f t.gWanInfo }
  modify_id := fun _ => rfl
  modify_modify := fun _ _ _ => rfl

def gWifiInfo : Place Tables WifiInfo where
  modify := fun f t => { t with gWifiInfo := f t.gWifiInfo }
  modify_id := fun _ => rfl
  modify_modify := fun _ _ _ => rfl

/-- `g_host_info_array[i]`. -/
def gHostInfoRecord (i : Nat) : Place Tables HostInfoSingle where
  modify := fun f t => t.modifyHost i f
  modify_id := by
    intro t
    unfold Tables.modifyHost HostArray.modify
    simp
  modify_modify := by
    intro f g t
    unfold Tables.modifyHost HostArray.modify
    rw [Option.map_map]
    congr 2
    funext a
    show HostArray.mk _ _ = HostArray.mk _ _
    congr
    funext j
    by_cases h : j = i <;> simp [h]

/-- What the scripts and the heap do during one update: the run of each page's
script, and the block that `malloc` returns for the host table, if any, with
what its records hold. -/
structure ScriptEnv where
  script : Page → ScriptRun
  hostBlock : Option (Nat → HostInfoSingle)

/-- No script prints anything. -/
def silentEnv : ScriptEnv where
  script := fun _ => { output := none, overlay := fun _ => none }
  hostBlock := none

/-- `update_storage_from_script`. -/
def updateStorageFromScript (run : ScriptRun) (stores : List (TokenStore Tables)) (t : Tables) :
    Status × Tables :=
  match run.output with
  | none => (.failure, t)
  | some out =>
    let stopped := tokenizeAndStore out.str NEWLINE stores t
    -- `stopped_at` is read after `free(out)`
    let stoppedAt := run.byteAfterFree out (out.str.length - stopped.1.length)
    (if stoppedAt = 0 then .success else .failure, stopped.2)

/-! ## The pages with one fixed structure

The stores of a page, in the order of its `stores` array: the members of the
structure first, and then the global they belong to. -/

def basicInfoMembers : List (TokenStore BasicInfo) :=
  [ .stringOverwrite 8 fun f b => { b with productName := f b.productName }
  , .stringOverwrite 8 fun f b => { b with hwVersion := f b.hwVersion }
  , .stringOverwrite 24 fun f b => { b with fwVersion := f b.fwVersion }
  , .stringOverwrite 18 fun f b => { b with macAddrBase := f b.macAddrBase } ]

def updateBasicInfo (run : ScriptRun) (t : Tables) : Status × Tables :=
  updateStorageFromScript run (basicInfoMembers.map (.at gBasicInfo)) t

def portInfoMembers : List (TokenStore PortInfo) :=
  [ .byte fun v p => { p with ethPort1Conn := v }
  , .byte fun v p => { p with ethPort2Conn := v }
  , .byte fun v p => { p with ethPort3Conn := v }
  , .byte fun v p => { p with ethWanConn := v }
  , .byte fun v p => { p with usbConn := v } ]

def updatePortInfo (run : ScriptRun) (t : Tables) : Status × Tables :=
  updateStorageFromScript run (portInfoMembers.map (.at gPortInfo)) t

def wanInfoMembers : List (TokenStore WanInfo) :=
  [ .uint fun v w => { w with isConnected := v }
  , .uint fun v w => { w with txBytesPerSec := v }
  , .uint fun v w => { w with rxBytesPerSec := v } ]

def updateWanInfo (run : ScriptRun) (t : Tables) : Status × Tables :=
  updateStorageFromScript run (wanInfoMembers.map (.at gWanInfo)) t

def wifiInfoMembers : List (TokenStore WifiInfo) :=
  [ .uint fun v w => { w with bandMix := v }
  , .stringOverwrite 64 fun f w => { w with wl24gInfo.ssid := f w.wl24gInfo.ssid }
  , .stringOverwrite 64 fun f w => { w with wl24gInfo.psk := f w.wl24gInfo.psk }
  , .byte fun v w => { w with wl24gInfo.enabled := v }
  , .byte fun v w => { w with wl24gInfo.staCount := v }
  , .stringOverwrite 64 fun f w => { w with wl5gInfo.ssid := f w.wl5gInfo.ssid }
  , .stringOverwrite 64 fun f w => { w with wl5gInfo.psk := f w.wl5gInfo.psk }
  , .byte fun v w => { w with wl5gInfo.enabled := v }
  , .byte fun v w => { w with wl5gInfo.staCount := v }
  , .stringOverwrite 64 fun f w => { w with wlVisitorInfo.ssid := f w.wlVisitorInfo.ssid }
  , .stringOverwrite 64 fun f w => { w with wlVisitorInfo.psk := f w.wlVisitorInfo.psk }
  , .byte fun v w => { w with wlVisitorInfo.enabled := v }
  , .byte fun v w => { w with wlVisitorInfo.staCount := v } ]

def updateWifiInfo (run : ScriptRun) (t : Tables) : Status × Tables :=
  updateStorageFromScript run (wifiInfoMembers.map (.at gWifiInfo)) t

/-! ## The host table -/

/-- The store of the count line of `update_host_info`. -/
def numberToken : List (TokenStore Tables) :=
  [ .uint fun v t => { t with gHostInfoElements := v } ]

/-- The members of a host record in the order of `host_info_tokens`. -/
def hostInfoMembers : List (TokenStore HostInfoSingle) :=
  [ .stringOverwrite 36 fun f h => { h with hostname := f h.hostname }
  , .uint fun v h => { h with downloadBps := v }
  , .uint fun v h => { h with uploadBps := v }
  , .uint fun v h => { h with logo := v } ]

/-- `host_info_tokens`, re-pointed at record `i`. -/
def hostInfoTokens (i : Nat) : List (TokenStore Tables) :=
  hostInfoMembers.map (.at (gHostInfoRecord i))

/-- The `for` loop of `update_host_info`, with the rounds that are left. -/
def updateHostLoop : Nat → Nat → List UInt8 → Tables → Status × Tables
  | 0, _, _, t => (.success, t)
  | rounds + 1, i, currPos, t =>
    let stopped := tokenizeAndStore currPos NEWLINE (hostInfoTokens i) t
    if stopped.1 = [] then
      -- the output from the script was incomplete
      (.failure, { stopped.2 with gHostInfoElements := UInt32.ofNat i })
    else updateHostLoop rounds (i + 1) stopped.1 stopped.2

/-- `update_host_info`. -/
def updateHostInfo (run : ScriptRun) (hostBlock : Option (Nat → HostInfoSingle)) (t : Tables) :
    Status × Tables :=
  match run.output with
  | none => (.failure, t)
  | some out =>
    let counted := tokenizeAndStore out.str NEWLINE numberToken t
    let elements := counted.2.gHostInfoElements.toNat
    if elements = 0 then (.success, counted.2)
    else
      match hostBlock with
      | none => (.failure, { counted.2 with gHostInfoArray := none })
      | some record =>
        updateHostLoop elements 0 counted.1
          { counted.2 with gHostInfoArray := some { size := elements, record := record } }

/-! ## All pages -/

/-- `update_page_info`. -/
def updatePageInfo (env : ScriptEnv) (page : Page) (t : Tables) : Status × Tables :=
  match page with
  | .basicInfo => updateBasicInfo (env.script .basicInfo) t
  | .ports => updatePortInfo (env.script .ports) t
  | .wan => updateWanInfo (env.script .wan) t
  | .wifi => updateWifiInfo (env.script .wifi) t
  | .hosts => updateHostInfo (env.script .hosts) env.hostBlock t

/-- `update_all_info`. -/
def updateAllInfo (env : ScriptEnv) (t : Tables) : Status × Tables :=
  let basicInfo := updateBasicInfo (env.script .basicInfo) t
  let ports := updatePortInfo (env.script .ports) basicInfo.2
  let wan := updateWanInfo (env.script .wan) ports.2
  let wifi := updateWifiInfo (env.script .wifi) wan.2
  let hosts := updateHostInfo (env.script .hosts) env.hostBlock wifi.2
  ((((basicInfo.1.or ports.1).or wan.1).or wifi.1).or hosts.1, hosts.2)

/-! ## What the updaters do -/

/-- `update_storage_from_script`, in terms of the lines of the output. -/
theorem updateStorageFromScript_of_output {run : ScriptRun} {out : ScriptOutput}
    (h : run.output = some out) (stores : List (TokenStore Tables)) (t : Tables) :
    updateStorageFromScript run stores t =
      (if run.byteAfterFree out
            (out.str.length - (Pieces.afterPieces NEWLINE stores.length out.str).length) = 0
        then .success else .failure,
        storeTokens stores (Pieces.pieces NEWLINE out.str) t) := by
  rw [updateStorageFromScript, h]
  simp only [tokenizeAndStore_eq]

/-- The updater of a structure changes that structure and nothing else, and it
keeps what every store keeps on tokens without a NUL. -/
theorem updateStorageFromScript_at {τ : Type} {place : Place Tables τ}
    {members : List (TokenStore τ)} {P : τ → Prop}
    (h : ∀ store ∈ members, ∀ token, 0 ∉ token → ∀ a, P a → P (tokenStore store token a))
    (run : ScriptRun) (t : Tables) :
    ∃ f, (updateStorageFromScript run (members.map (.at place)) t).2 = place.modify f t ∧
      ∀ a, P a → P (f a) := by
  cases hout : run.output with
  | none =>
    rw [updateStorageFromScript, hout]
    exact ⟨fun a => a, (place.modify_id t).symm, fun a ha => ha⟩
  | some out =>
    rw [updateStorageFromScript_of_output hout, storeTokens_at]
    refine ⟨_, rfl, ?_⟩
    intro a ha
    refine storeTokens_invariant h ?_ ha
    intro token htoken hnul
    exact out.nul_not_mem (Pieces.mem_of_mem_pieces htoken hnul)

end K3ScreenCtrl
