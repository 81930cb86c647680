import K3ScreenCtrl.Daemon
import K3ScreenCtrl.FrameCodec

/-!
# The transmit buffer

`frame_send` stores into a block of `len * 2 + 4` bytes, which its comment
calls the space for escaping every byte, with header and trailer.  The four
bytes are the header, the trailer and two checksum bytes, so the escapes of
the checksum bytes have to fit the room that plain data bytes leave.

`txBuffer_fits_iff` says exactly when they do.  Two plain data bytes are
enough, and nearly every request has them in front: `fitsTxBuffer_of_runDaemon`
says that no run of the daemon hands `frame_send` a payload that does not fit.
-/

namespace K3ScreenCtrl

open ByteStuffing

/-- The bytes that `frame_send` allocates. -/
def txBufferSize (len : Nat) : Nat := len * 2 + 4

/-- The bytes of a string that `frame_send` escapes. -/
def escapedCount (data : List UInt8) : Nat :=
  data.countP fun b => decide (frameMarks.IsMark b)

/-- The bytes of a string that `frame_send` stores as they are. -/
def plainCount (data : List UInt8) : Nat :=
  data.countP fun b => !decide (frameMarks.IsMark b)

/-- The two checksum bytes that `frame_send` appends. -/
def checksumBytes (data : List UInt8) : List UInt8 :=
  [checksumLow (crcXmodem data), checksumHigh (crcXmodem data)]

theorem escapedCount_add_plainCount (data : List UInt8) :
    escapedCount data + plainCount data = data.length := by
  simpa [escapedCount, plainCount] using
    (List.length_eq_countP_add_countP (fun b => decide (frameMarks.IsMark b)) (l := data)).symm

theorem escapedCount_append (l r : List UInt8) :
    escapedCount (l ++ r) = escapedCount l + escapedCount r :=
  List.countP_append

/-- The bytes that `frame_send` stores. -/
theorem length_frameSend_eq (data : List UInt8) :
    (frameSend data).length =
      data.length + escapedCount data + escapedCount (checksumBytes data) + 4 := by
  have hstuff := length_stuff (m := frameMarks) (withChecksum data)
  have hsplit : escapedCount (withChecksum data) =
      escapedCount data + escapedCount (checksumBytes data) :=
    escapedCount_append data (checksumBytes data)
  rw [length_withChecksum] at hstuff
  rw [length_frameSend, hstuff]
  unfold escapedCount at hsplit ⊢
  omega

/-- The frame of a payload fits the block that `frame_send` allocates. -/
def FitsTxBuffer (data : List UInt8) : Prop :=
  (frameSend data).length ≤ txBufferSize data.length

instance (data : List UInt8) : Decidable (FitsTxBuffer data) :=
  inferInstanceAs (Decidable (_ ≤ _))

/-- The frame fits the allocated bytes exactly when no more checksum bytes
than plain data bytes are preceded by an escape. -/
theorem txBuffer_fits_iff (data : List UInt8) :
    FitsTxBuffer data ↔ escapedCount (checksumBytes data) ≤ plainCount data := by
  have hlen := length_frameSend_eq data
  have hcount := escapedCount_add_plainCount data
  unfold FitsTxBuffer txBufferSize
  omega

/-- One data byte, which is escaped, and a checksum of `0x1021`: seven bytes go
into a block of six. -/
theorem txBuffer_fits_counterexample :
    ¬ ∀ data : List UInt8, FitsTxBuffer data := by
  intro hall
  have hlen : (frameSend [0x01]).length = 7 := by decide +kernel
  have hle : (frameSend [0x01]).length ≤ 1 * 2 + 4 := hall [0x01]
  omega

/-! ## The requests of the daemon -/

/-- Two plain data bytes leave room for both checksum bytes. -/
theorem fitsTxBuffer_of_plainCount {data : List UInt8} (h : 2 ≤ plainCount data) :
    FitsTxBuffer data := by
  have hlen := length_frameSend_eq data
  have hcount := escapedCount_add_plainCount data
  have hchecksum : escapedCount (checksumBytes data) ≤ 2 := List.countP_le_length
  unfold FitsTxBuffer txBufferSize
  omega

/-- A request fits if its type byte needs no escape. -/
theorem fitsTxBuffer_requestSendRaw {type : RequestType} (h : ¬ frameMarks.IsMark type.code)
    (data : List UInt8) : FitsTxBuffer (requestSendRaw type data) := by
  have hheader : ¬ frameMarks.IsMark PAYLOAD_HEADER := by decide
  apply fitsTxBuffer_of_plainCount
  rw [requestSendRaw, plainCount, List.countP_cons_of_pos (by simpa using hheader),
    List.countP_cons_of_pos (by simpa using h)]
  omega

theorem fitsTxBuffer_requestNotifyEvent (event : Event) :
    FitsTxBuffer (requestNotifyEvent event) :=
  fitsTxBuffer_requestSendRaw (by decide) _

/-- The type byte of a switch needs an escape, but the upper bytes of the page
number do not. -/
theorem fitsTxBuffer_requestSwitchPage (page : Page) : FitsTxBuffer (requestSwitchPage page) := by
  apply fitsTxBuffer_of_plainCount
  cases page <;> decide

theorem fitsTxBuffer_requestMcuVersion : FitsTxBuffer requestMcuVersion := by
  decide +kernel

theorem fitsTxBuffer_pagePayload {page : Page} {t : Tables} {hostPage : Int} {p : List UInt8}
    (h : pagePayload page t hostPage = some p) : FitsTxBuffer p := by
  cases page with
  | basicInfo =>
    cases h
    exact fitsTxBuffer_requestSendRaw (by decide) _
  | ports =>
    cases h
    exact fitsTxBuffer_requestSendRaw (by decide) _
  | wan =>
    cases h
    exact fitsTxBuffer_requestSendRaw (by decide) _
  | wifi =>
    cases h
    exact fitsTxBuffer_requestSendRaw (by decide) _
  | hosts =>
    obtain ⟨info, _, rfl⟩ := Option.map_eq_some_iff.mp h
    exact fitsTxBuffer_requestSendRaw (by decide) _

theorem fitsTxBuffer_pagePayloads {t : Tables} {hostPage : Int} {pages : List Page}
    {payloads : List (List UInt8)} (h : pagePayloads t hostPage pages = some payloads) :
    ∀ p ∈ payloads, FitsTxBuffer p := by
  intro p hp
  obtain ⟨q, hq⟩ := mem_pagePayloads h hp
  exact fitsTxBuffer_pagePayload hq

/-- All payloads that were handed to `frame_send` fit their blocks. -/
def SentFits (d : Daemon) : Prop := ∀ p ∈ d.sent, FitsTxBuffer p

theorem SentFits.sendAll {d d' : Daemon} {payloads : List (List UInt8)} (h : SentFits d)
    (hnew : ∀ p ∈ payloads, FitsTxBuffer p) (hsent : d'.sent = d.sent ++ payloads) :
    SentFits d' := by
  intro p hp
  rw [hsent] at hp
  rcases List.mem_append.mp hp with hp | hp
  · exact h p hp
  · exact hnew p hp

theorem sentFits_boot {env : ScriptEnv} {start : Int} {d : Daemon} (h : boot env start = some d) :
    SentFits d := by
  rw [boot_eq] at h
  obtain ⟨payloads, hpayloads, rfl⟩ := Option.map_eq_some_iff.mp h
  intro p hp
  have hp' : p ∈ requestMcuVersion :: payloads ++ [requestSwitchPage .wan] := hp
  rcases List.mem_append.mp hp' with hp' | hp'
  · rcases List.mem_cons.mp hp' with rfl | hp'
    · exact fitsTxBuffer_requestMcuVersion
    · exact fitsTxBuffer_pagePayloads hpayloads p hp'
  · rcases List.mem_singleton.mp hp' with rfl
    exact fitsTxBuffer_requestSwitchPage .wan

theorem sentFits_step {cfg : Config} {d d' : Daemon} {i : Input} (h : SentFits d)
    (hstep : step cfg d i = some d') : SentFits d' := by
  have hevent (event : Event) : ∀ p ∈ [requestNotifyEvent event], FitsTxBuffer p := by
    intro p hp
    rcases List.mem_singleton.mp hp with rfl
    exact fitsTxBuffer_requestNotifyEvent event
  obtain ⟨_, hcases⟩ := step_cases hstep
  cases hcases with
  | version payload version => exact h
  | empty now => exact h
  | wakeup key rest now hoff => exact h.sendAll (hevent .wakeup) rfl
  | stay key rest now hon => exact h
  | move key rest now hon nav page hostPage payloads htarget hpayloads =>
    refine h.sendAll ?_ rfl
    intro p hp
    rcases List.mem_append.mp hp with hp | hp
    · exact fitsTxBuffer_pagePayloads hpayloads p hp
    · rcases List.mem_singleton.mp hp with rfl
      exact fitsTxBuffer_requestSwitchPage page
  | sleepKey key rest now hon => exact h.sendAll (hevent .sleep) rfl
  | tick env now payloads t ht hpayloads hin =>
    exact h.sendAll (fitsTxBuffer_pagePayloads hpayloads) rfl
  | tickSleep env now payloads t ht hpayloads hout =>
    refine h.sendAll ?_ rfl
    intro p hp
    rcases List.mem_append.mp hp with hp | hp
    · exact fitsTxBuffer_pagePayloads hpayloads p hp
    · exact hevent .sleep p hp
  | notice signal env now event exited hsignal hevent' hexited => exact h.sendAll (hevent event) rfl

/-- Every frame that a run of the daemon sends fits its block. -/
theorem fitsTxBuffer_of_runDaemon {cfg : Config} {env : ScriptEnv} {start : Int}
    {inputs : List Input} {d : Daemon} (h : runDaemon cfg env start inputs = some d) :
    ∀ p ∈ d.sent, FitsTxBuffer p := by
  obtain ⟨d₀, hboot, hrun⟩ := Option.bind_eq_some_iff.mp h
  exact Run.run_invariant (fun _ _ _ => sentFits_step) (sentFits_boot hboot) hrun

end K3ScreenCtrl
