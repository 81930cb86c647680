import K3ScreenCtrl.Frame

/-!
# The frame codec

What `frameSend` emits and what `frameNotifyReceived` reads back.

* `frameSend_eq` states the encoder in the terms of the stuffing library: a
  header, the stuffed payload and checksum, a trailer.
* `unescape_noise` and `unescape_stuff` are the two facts about the decoder
  loop.  Outside a frame it keeps nothing, whatever the bytes are; inside a
  frame it undoes the stuffing.
* `frameNotifyReceived_noise_frameSend` is the round trip behind line noise.

The decoder counts its bytes in an `unsigned char`, so the round trip is
limited to 253 payload bytes and two checksum bytes.
-/

namespace K3ScreenCtrl

open ByteStuffing

/-! ## The encoder -/

/-- The payload of a frame and its checksum, low byte first. -/
def withChecksum (data : List UInt8) : List UInt8 :=
  data ++ [checksumLow (crcXmodem data), checksumHigh (crcXmodem data)]

@[simp] theorem length_withChecksum (data : List UInt8) :
    (withChecksum data).length = data.length + 2 := by
  simp [withChecksum]

theorem escapeAndAppendByte_eq (buf : List UInt8) (byte : UInt8) :
    escapeAndAppendByte buf byte = buf ++ stuffOne frameMarks byte := by
  unfold escapeAndAppendByte
  by_cases h : frameMarks.IsMark byte
  · have hmark : byte = FRAME_HEADER ∨ byte = FRAME_TRAILER ∨ byte = FRAME_ESCAPE := h
    rw [stuffOne_of_isMark h, if_pos hmark, List.append_assoc]
    rfl
  · have hmark : ¬ (byte = FRAME_HEADER ∨ byte = FRAME_TRAILER ∨ byte = FRAME_ESCAPE) := h
    rw [stuffOne_of_not_isMark h, if_neg hmark]

theorem foldl_escapeAndAppendByte (data buf : List UInt8) :
    data.foldl escapeAndAppendByte buf = buf ++ stuff frameMarks data := by
  induction data generalizing buf with
  | nil => simp
  | cons byte data ih =>
    rw [List.foldl_cons, ih, escapeAndAppendByte_eq, stuff_cons, List.append_assoc]

/-- `frame_send` emits a header, the stuffed payload and checksum, and a
trailer. -/
theorem frameSend_eq (data : List UInt8) :
    frameSend data =
      FRAME_HEADER :: (stuff frameMarks (withChecksum data) ++ [FRAME_TRAILER]) := by
  simp only [frameSend, foldl_escapeAndAppendByte, escapeAndAppendByte_eq, withChecksum,
    stuff_append, stuff_cons, stuff_nil, List.append_nil, List.append_assoc, List.cons_append,
    List.nil_append]

theorem length_frameSend (data : List UInt8) :
    (frameSend data).length = (stuff frameMarks (withChecksum data)).length + 2 := by
  simp [frameSend_eq]

theorem length_frameSend_le (data : List UInt8) :
    (frameSend data).length ≤ 2 * data.length + 6 := by
  have h := length_stuff_le (m := frameMarks) (withChecksum data)
  rw [length_withChecksum] at h
  rw [length_frameSend]
  omega

theorem frameSend_ne_nil (data : List UInt8) : frameSend data ≠ [] := by
  rw [frameSend_eq]
  exact List.cons_ne_nil _ _

/-- The header is the only unescaped header of a frame. -/
theorem unescapedAt_header_frameSend (data : List UInt8) :
    unescapedAt frameMarks FRAME_HEADER false 0 (frameSend data) = [0] := by
  have hstuff := unescapedAt_stuff (show frameMarks.IsMark FRAME_HEADER from Or.inl rfl) 1
    (withChecksum data)
  have hesc : FRAME_HEADER ≠ frameMarks.escape := frameMarks.header_ne_escape
  have hlast : unescapedAt frameMarks FRAME_HEADER false
      (1 + (stuff frameMarks (withChecksum data)).length) [FRAME_TRAILER] = [] := by
    have hne : FRAME_TRAILER ≠ FRAME_HEADER := frameMarks.header_ne_trailer.symm
    simp [unescapedAt, hne]
  rw [frameSend_eq, unescapedAt, if_neg hesc, if_pos rfl, unescapedAt_append, hstuff, pending_stuff,
    hlast]
  rfl

/-- The trailer is the only unescaped trailer of a frame. -/
theorem unescapedAt_trailer_frameSend (data : List UInt8) :
    unescapedAt frameMarks FRAME_TRAILER false 0 (frameSend data) =
      [(frameSend data).length - 1] := by
  have hstuff := unescapedAt_stuff
    (show frameMarks.IsMark FRAME_TRAILER from Or.inr (Or.inl rfl)) 1 (withChecksum data)
  have hesc : FRAME_HEADER ≠ frameMarks.escape := frameMarks.header_ne_escape
  have hne : FRAME_HEADER ≠ FRAME_TRAILER := frameMarks.header_ne_trailer
  have hlast : unescapedAt frameMarks FRAME_TRAILER false
      (1 + (stuff frameMarks (withChecksum data)).length) [FRAME_TRAILER] =
        [1 + (stuff frameMarks (withChecksum data)).length] := by
    have htrailer : FRAME_TRAILER ≠ FRAME_ESCAPE := frameMarks.trailer_ne_escape
    simp [unescapedAt, htrailer]
  have hlen : (frameSend data).length - 1 = 1 + (stuff frameMarks (withChecksum data)).length := by
    rw [length_frameSend]
    omega
  rw [hlen, frameSend_eq, unescapedAt, if_neg hesc, if_neg hne, unescapedAt_append, hstuff,
    pending_stuff, hlast, List.nil_append]

/-! ## The decoder loop -/

@[simp] theorem unescape_nil (s : Unescape) : unescape s [] = s := rfl

@[simp] theorem unescape_cons (s : Unescape) (byte : UInt8) (l : List UInt8) :
    unescape s (byte :: l) = unescape (s.step byte) l := rfl

theorem unescape_append (s : Unescape) (l r : List UInt8) :
    unescape s (l ++ r) = unescape (unescape s l) r :=
  List.foldl_append

section Step

variable (frame : List UInt8) (inFrame : Bool)

/-- Behind an escape byte every byte is data. -/
theorem Unescape.step_escaped (byte : UInt8) :
    Unescape.step ⟨frame, true, inFrame⟩ byte =
      ⟨if inFrame then framePush frame byte else frame, false, inFrame⟩ := rfl

theorem Unescape.step_escape :
    Unescape.step ⟨frame, false, inFrame⟩ FRAME_ESCAPE = ⟨frame, true, inFrame⟩ := rfl

theorem Unescape.step_header :
    Unescape.step ⟨frame, false, inFrame⟩ FRAME_HEADER = ⟨frame, false, true⟩ := rfl

theorem Unescape.step_trailer :
    Unescape.step ⟨frame, false, inFrame⟩ FRAME_TRAILER = ⟨frame, false, false⟩ := rfl

/-- Bytes that are no marks are data. -/
theorem Unescape.step_data {byte : UInt8} (h : ¬ frameMarks.IsMark byte) :
    Unescape.step ⟨frame, false, inFrame⟩ byte =
      ⟨if inFrame then framePush frame byte else frame, false, inFrame⟩ := by
  have hheader : byte ≠ FRAME_HEADER := fun he => h (Or.inl he)
  have htrailer : byte ≠ FRAME_TRAILER := fun he => h (Or.inr (Or.inl he))
  have hesc : byte ≠ FRAME_ESCAPE := fun he => h (Or.inr (Or.inr he))
  cases inFrame <;> simp [Unescape.step, hesc, hheader, htrailer]

end Step

/-- Outside a frame the loop keeps no byte until an unescaped header. -/
theorem unescape_noise (frame noise : List UInt8) (esc : Bool) (i : Nat)
    (h : unescapedAt frameMarks FRAME_HEADER esc i noise = []) :
    unescape ⟨frame, esc, false⟩ noise = ⟨frame, pending frameMarks esc noise, false⟩ := by
  induction noise generalizing esc i with
  | nil => rfl
  | cons byte noise ih =>
    cases esc with
    | true => exact ih false (i + 1) h
    | false =>
      rw [unescape_cons, pending]
      rw [unescapedAt, frameMarks_escape] at h
      by_cases hesc : byte = FRAME_ESCAPE
      · rw [if_pos hesc] at h
        have hpend : decide (byte = frameMarks.escape) = true := decide_eq_true hesc
        rw [hpend, hesc, Unescape.step_escape]
        exact ih true (i + 1) h
      · rw [if_neg hesc] at h
        by_cases hheader : byte = FRAME_HEADER
        · rw [if_pos hheader] at h
          exact absurd h (List.cons_ne_nil _ _)
        · rw [if_neg hheader] at h
          have hstep : Unescape.step ⟨frame, false, false⟩ byte = ⟨frame, false, false⟩ := by
            simp [Unescape.step, hesc, hheader]
          have hpend : decide (byte = frameMarks.escape) = false := decide_eq_false hesc
          rw [hstep, hpend]
          exact ih false (i + 1) h

/-- Inside a frame one stuffed byte is one stored byte. -/
theorem unescape_stuffOne (frame : List UInt8) (byte : UInt8) :
    unescape ⟨frame, false, true⟩ (stuffOne frameMarks byte) =
      ⟨framePush frame byte, false, true⟩ := by
  by_cases h : frameMarks.IsMark byte
  · rw [stuffOne_of_isMark h, unescape_cons, unescape_cons, unescape_nil, frameMarks_escape,
      Unescape.step_escape, Unescape.step_escaped]
    rfl
  · rw [stuffOne_of_not_isMark h, unescape_cons, unescape_nil, Unescape.step_data _ _ h]
    rfl

/-- Inside a frame the loop undoes the stuffing. -/
theorem unescape_stuff (frame content : List UInt8) :
    unescape ⟨frame, false, true⟩ (stuff frameMarks content) =
      ⟨content.foldl framePush frame, false, true⟩ := by
  induction content generalizing frame with
  | nil => rfl
  | cons byte content ih =>
    rw [stuff_cons, unescape_append, unescape_stuffOne, ih, List.foldl_cons]

/-- Up to 255 bytes the counter does not wrap. -/
theorem foldl_framePush (content frame : List UInt8)
    (h : frame.length + content.length ≤ 255) :
    content.foldl framePush frame = frame ++ content := by
  induction content generalizing frame with
  | nil => simp
  | cons byte content ih =>
    rw [List.length_cons] at h
    have hne : frame.length ≠ 255 := by omega
    rw [List.foldl_cons, framePush, if_neg hne, ih _ (by simp; omega), List.append_assoc]
    rfl

/-- A whole frame, read from outside a frame. -/
theorem unescape_frameSend {p : List UInt8} (hp : p.length ≤ 253) :
    unescape Unescape.init (frameSend p) = ⟨withChecksum p, false, false⟩ := by
  rw [frameSend_eq, unescape_cons, Unescape.init, Unescape.step_header, unescape_append,
    unescape_stuff, foldl_framePush _ _ (by simp; omega), List.nil_append, unescape_cons,
    Unescape.step_trailer, unescape_nil]

/-! ## The checksum -/

/-- A decoded payload with its own checksum behind it is delivered. -/
theorem frameNotifyReceived_of_unescape {frameBuf p : List UInt8}
    (h : (unescape Unescape.init frameBuf).frame = withChecksum p) :
    frameNotifyReceived frameBuf = some [p] := by
  have hlen : ¬ (withChecksum p).length < 2 := by simp
  have htake : (withChecksum p).take ((withChecksum p).length - 2) = p := by
    simp [withChecksum]
  have hlow :
      (withChecksum p).getD ((withChecksum p).length - 2) 0 = checksumLow (crcXmodem p) := by
    simp [withChecksum]
  have hhigh :
      (withChecksum p).getD ((withChecksum p).length - 1) 0 = checksumHigh (crcXmodem p) := by
    simp [withChecksum]
  simp only [frameNotifyReceived, h, if_neg hlen, htake, hlow, hhigh, readShort_checksum, if_true]

/-- The decoder survives a buffer exactly when it decodes two bytes. -/
theorem frameNotifyReceived_isSome_iff (frameBuf : List UInt8) :
    (∃ callbacks, frameNotifyReceived frameBuf = some callbacks) ↔
      2 ≤ (unescape Unescape.init frameBuf).frame.length := by
  unfold frameNotifyReceived
  by_cases h : (unescape Unescape.init frameBuf).frame.length < 2
  · simp only [h, if_true]
    constructor
    · intro hsome
      obtain ⟨_, hc⟩ := hsome
      cases hc
    · intro hle
      omega
  · simp only [h, if_false]
    refine ⟨fun _ => by omega, fun _ => ?_⟩
    split_ifs
    · exact ⟨_, rfl⟩
    · exact ⟨_, rfl⟩

/-- A frame on its own is delivered. -/
theorem frameNotifyReceived_frameSend {p : List UInt8} (hp : p.length ≤ 253) :
    frameNotifyReceived (frameSend p) = some [p] :=
  frameNotifyReceived_of_unescape (by rw [unescape_frameSend hp])

/-- The codec round-trips behind line noise, and a frame holds no header and
no trailer unescaped but its own. -/
theorem frameNotifyReceived_noise_frameSend (g p : List UInt8) (hp : p.length ≤ 253)
    (hheader : unescapedAt frameMarks FRAME_HEADER false 0 g = [])
    (hpending : pending frameMarks false g = false) :
    frameNotifyReceived (g ++ frameSend p) = some [p] ∧
      unescapedAt frameMarks FRAME_HEADER false 0 (frameSend p) = [0] ∧
      unescapedAt frameMarks FRAME_TRAILER false 0 (frameSend p) =
        [(frameSend p).length - 1] := by
  have hnoise : unescape Unescape.init g = Unescape.init := by
    have h := unescape_noise [] g false 0 hheader
    rw [hpending] at h
    exact h
  refine ⟨frameNotifyReceived_of_unescape ?_, unescapedAt_header_frameSend p,
    unescapedAt_trailer_frameSend p⟩
  rw [unescape_append, hnoise, unescape_frameSend hp]

/-- Noise with a trailer and an escaped header in it, before a frame that
needs escapes itself. -/
theorem frameNotifyReceived_noise_frameSend_example :
    frameNotifyReceived ([0x04, 0x10, 0x01, 0x77] ++ frameSend [0x30, 0x01, 0x04, 0x10]) =
        some [[0x30, 0x01, 0x04, 0x10]] ∧
      unescapedAt frameMarks FRAME_HEADER false 0 (frameSend [0x30, 0x01, 0x04, 0x10]) = [0] ∧
      unescapedAt frameMarks FRAME_TRAILER false 0 (frameSend [0x30, 0x01, 0x04, 0x10]) =
        [(frameSend [0x30, 0x01, 0x04, 0x10]).length - 1] :=
  frameNotifyReceived_noise_frameSend [0x04, 0x10, 0x01, 0x77] [0x30, 0x01, 0x04, 0x10]
    (by decide) (by decide) (by decide)

end K3ScreenCtrl
