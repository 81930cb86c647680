import K3ScreenCtrl.Checksum
import K3ScreenCtrl.Proto

/-!
# Frames on the serial line

`frame.c`.  `frameSend` builds the bytes that `frame_send` hands to
`serial_write`, `frameNotifyReceived` decodes one buffer, and
`frameNotifySerialRecv` is one call of the receiver with its static buffer.

## What can go wrong is part of the model

`frame_notify_received` computes `frame_pos - 2` from a counter that nothing
bounds from below.  With fewer than two decoded bytes the difference is
negative, `crc_xmodem` gets a huge length, and the read runs off the stack.
`frameNotifyReceived` answers `none` there, and so does every run that gets
there.

The search for the end of a frame looks at `*(last_trailer - 1)`.  When the
trailer is the first byte of the buffer this is the byte in memory before the
buffer.  The model takes that byte as the parameter `before`, and every result
holds for all values of it.
-/

namespace K3ScreenCtrl

open CString

/-! ## Sending -/

/-- `ESCAPE_AND_APPEND_BYTE`. -/
def escapeAndAppendByte (buf : List UInt8) (byte : UInt8) : List UInt8 :=
  if byte = FRAME_HEADER ∨ byte = FRAME_TRAILER ∨ byte = FRAME_ESCAPE then
    buf ++ [FRAME_ESCAPE] ++ [byte]
  else buf ++ [byte]

/-- `frame_send`: the bytes it stores into `buf` and writes to the line. -/
def frameSend (data : List UInt8) : List UInt8 :=
  let buf := [FRAME_HEADER]
  let buf := data.foldl escapeAndAppendByte buf
  let checksum := crcXmodem data
  let buf := escapeAndAppendByte buf (checksumLow checksum)
  let buf := escapeAndAppendByte buf (checksumHigh checksum)
  buf ++ [FRAME_TRAILER]

/-! ## Decoding a buffer -/

/-- The locals of the unescape loop.  `frame` holds the bytes below
`frame_pos`; the bytes above it are never read. -/
structure Unescape where
  frame : List UInt8
  isEscaped : Bool
  isInFrame : Bool
deriving DecidableEq

def Unescape.init : Unescape := ⟨[], false, false⟩

/-- `frame[frame_pos++] = byte`.  `frame_pos` is an `unsigned char`: after
byte 255 it is 0 again, and the next bytes overwrite the frame from its
start. -/
def framePush (frame : List UInt8) (byte : UInt8) : List UInt8 :=
  if frame.length = 255 then [] else frame ++ [byte]

/-- The body of the unescape loop. -/
def Unescape.step (s : Unescape) (byte : UInt8) : Unescape :=
  if s.isEscaped then
    { s with
      frame := if s.isInFrame then framePush s.frame byte else s.frame
      isEscaped := false }
  else if byte = FRAME_ESCAPE then { s with isEscaped := true }
  else if byte = FRAME_HEADER then { s with isInFrame := true }
  else if byte = FRAME_TRAILER then { s with isInFrame := false }
  else if s.isInFrame then { s with frame := framePush s.frame byte }
  else s

/-- The unescape loop over a buffer. -/
def unescape (s : Unescape) (frameBuf : List UInt8) : Unescape :=
  frameBuf.foldl Unescape.step s

/-- `frame_notify_received`: the frames handed to the callback, at most one.
`none` is the out-of-bounds read that a negative `frame_pos - 2` causes. -/
def frameNotifyReceived (frameBuf : List UInt8) : Option (List (List UInt8)) :=
  let frame := (unescape Unescape.init frameBuf).frame
  if frame.length < 2 then none
  else
    let payload := frame.take (frame.length - 2)
    let myCksum := crcXmodem payload
    let msgCksum := readShort (frame.getD (frame.length - 2) 0) (frame.getD (frame.length - 1) 0)
    if myCksum = msgCksum then some [payload] else some []

/-! ## Receiving -/

def RECV_BUF_SIZE : Nat := 2048

/-- What `read` on the serial line meets: an error, or the pending bytes. -/
inductive SerialInput where
  | error
  | bytes (pending : List UInt8)

/-- The static variables of `frame_notify_serial_recv`, and the frames it has
handed to the callback so far. -/
structure Receiver where
  gSerialRecvBuf : CharArray RECV_BUF_SIZE
  gRecvBufPos : Int
  delivered : List (List UInt8)

def Receiver.init : Receiver where
  gSerialRecvBuf := CharArray.zero RECV_BUF_SIZE
  gRecvBufPos := 0
  delivered := []

/-- `serial_read(buf + pos, maxlen)`: `read` copies at most `maxlen` of the
pending bytes to the buffer. -/
def serialRead (buf : CharArray RECV_BUF_SIZE) (pos maxlen : Nat) (pending : List UInt8)
    (h : pos + maxlen ≤ RECV_BUF_SIZE) : CharArray RECV_BUF_SIZE where
  bytes :=
    buf.bytes.take pos ++ pending.take maxlen ++ buf.bytes.drop (pos + (pending.take maxlen).length)
  length_eq := by
    simp only [List.length_append, List.length_take, List.length_drop, CharArray.length_bytes]
    omega

/-- `memchr` in the first `range` bytes from `start` on, as an offset from
`start`. -/
def memchr (buf : List UInt8) (start range : Nat) (c : UInt8) : Option Nat :=
  ((buf.drop start).take range).idxOf? c

/-- `*(last_trailer - 1)`. -/
def byteBefore (before : UInt8) (buf : List UInt8) (lastTrailer : Nat) : UInt8 :=
  if lastTrailer = 0 then before else buf.getD (lastTrailer - 1) 0

/-- The search for an unescaped `FRAME_TRAILER`, from offset `searchPos` on in
the first `pos` bytes.  Each round moves `searchPos` up, so `fuel = pos + 1`
rounds are enough. -/
def searchTrailer (before : UInt8) (buf : List UInt8) (pos : Nat) : Nat → Nat → Option Nat
  | 0, _ => none
  | fuel + 1, searchPos =>
    let remainingSearchRange := pos - searchPos
    if 0 < remainingSearchRange then
      match memchr buf searchPos remainingSearchRange FRAME_TRAILER with
      | none => none
      | some offset =>
        let lastTrailer := searchPos + offset
        if byteBefore before buf lastTrailer ≠ FRAME_ESCAPE then some lastTrailer
        else searchTrailer before buf pos fuel (lastTrailer + 1)
    else none

/-- `frame_notify_serial_recv`.  A negative position makes `serial_read` write
below the buffer, which is undefined. -/
def frameNotifySerialRecv (before : UInt8) (r : Receiver) (input : SerialInput) :
    Option Receiver :=
  if h : 0 ≤ r.gRecvBufPos ∧ r.gRecvBufPos ≤ RECV_BUF_SIZE then
    let pos := r.gRecvBufPos.toNat
    let maxlen := RECV_BUF_SIZE - pos
    let (buf, recvLen) : CharArray RECV_BUF_SIZE × Int :=
      match input with
      | .error => (r.gSerialRecvBuf, -1)
      | .bytes pending =>
        (serialRead r.gSerialRecvBuf pos maxlen pending (by omega), (pending.take maxlen).length)
    let newPos := r.gRecvBufPos + recvLen
    match searchTrailer before buf.bytes newPos.toNat (newPos.toNat + 1) 0 with
    | none => some { r with gSerialRecvBuf := buf, gRecvBufPos := newPos }
    | some lastTrailer =>
      (frameNotifyReceived (buf.bytes.take (lastTrailer + 1))).map fun callbacks =>
        { gSerialRecvBuf := buf
          gRecvBufPos := 0
          delivered := r.delivered ++ callbacks }
  else none

/-- The buffer and the position that a call has after `serial_read`. -/
def Receiver.afterRead (r : Receiver) (input : SerialInput) :
    Option (CharArray RECV_BUF_SIZE × Int) :=
  if h : 0 ≤ r.gRecvBufPos ∧ r.gRecvBufPos ≤ RECV_BUF_SIZE then
    let pos := r.gRecvBufPos.toNat
    let maxlen := RECV_BUF_SIZE - pos
    match input with
    | .error => some (r.gSerialRecvBuf, r.gRecvBufPos + -1)
    | .bytes pending =>
      some (serialRead r.gSerialRecvBuf pos maxlen pending (by omega),
        r.gRecvBufPos + (pending.take maxlen).length)
  else none

end K3ScreenCtrl
