import K3ScreenCtrl.FrameCodec
import K3ScreenCtrl.Lib.Run
import Mathlib.Data.List.Forall2

/-!
# The receiver

`frameNotifySerialRecv` works on a static buffer, a position in it and a
`memchr` loop.  What it does with the bytes of the line is simpler: it appends
what fits to the bytes it holds, and it hands everything up to the first close
to the decoder.  `Collector` is that reading, with the held bytes as a list.

* `searchTrailer_eq` is the loop: it computes `ByteStuffing.findClose` of the
  received bytes.
* `frameNotifySerialRecv_eq` cuts a call into the read and the rest, and
  `recv_refines` is one call and `run_recv_refines` is a run of calls: the
  receiver refines the collector, as long as no read fails.
* `run_collect_of_none` and `run_collect_of_close` say what the chunks of a
  byte string do, whatever the chunks are.
* `deliversInOrder_iff` is the end-to-end result for the frames that
  `frame_send` emits.
-/

namespace K3ScreenCtrl

open ByteStuffing CString

/-! ## The search loop -/

/-- The byte before offset `start + k`, read off the scanned window. -/
theorem byteBefore_add (before : UInt8) (buf : List UInt8) (start k : Nat) {l : List UInt8}
    (hl : ∀ i, i < k → l[i]? = buf[start + i]?) (hk : k ≤ l.length) :
    byteBefore before buf (start + k) = (l.take k).getLastD (byteBefore before buf start) := by
  cases k with
  | zero => simp
  | succ k =>
    have hk' : k < l.length := by omega
    have hget := hl k (Nat.lt_succ_self k)
    have hne : ¬ (start + (k + 1) = 0) := by omega
    have hidx : start + (k + 1) - 1 = start + k := by omega
    rw [byteBefore, if_neg hne, hidx, List.getD_eq_getElem?_getD, ← hget,
      List.getElem?_eq_getElem hk', List.take_succ_eq_append_getElem hk',
      List.getLastD_concat]
    rfl

private theorem searchTrailer_eq_aux (before : UInt8) (buf : List UInt8) (pos : Nat)
    (hpos : pos ≤ buf.length) :
    ∀ (fuel start : Nat), start ≤ pos → pos < start + fuel →
      searchTrailer before buf pos fuel start =
        (findClose frameMarks (byteBefore before buf start) ((buf.take pos).drop start)).map
          (· + start) := by
  intro fuel
  induction fuel with
  | zero =>
    intro start hle hlt
    omega
  | succ fuel ih =>
    intro start hle hlt
    have hwindow : (buf.take pos).drop start = (buf.drop start).take (pos - start) := by
      rw [List.drop_take]
    rw [searchTrailer]
    by_cases hrange : 0 < pos - start
    · rw [if_pos hrange, memchr, ← hwindow]
      generalize hl : (buf.take pos).drop start = l
      have hlen : l.length = pos - start := by
        rw [← hl, List.length_drop, List.length_take]
        omega
      have hget : ∀ i, i < l.length → l[i]? = buf[start + i]? := by
        intro i hi
        rw [← hl, List.getElem?_drop, List.getElem?_take_of_lt (by omega)]
      cases hfind : l.idxOf? FRAME_TRAILER with
      | none =>
        have hmem : frameMarks.trailer ∉ l := List.idxOf?_eq_none_iff.mp hfind
        simp [findClose_of_not_mem hmem]
      | some k =>
        obtain ⟨hk, hat, _⟩ := List.idxOf?_eq_some_iff.mp hfind
        have hlast := byteBefore_add before buf start k
          (fun i hi => hget i (by omega)) (Nat.le_of_lt hk)
        rw [← frameMarks_trailer] at hfind
        rw [findClose_of_idxOf? hfind, ← hlast, frameMarks_escape]
        dsimp only
        by_cases hesc : byteBefore before buf (start + k) = FRAME_ESCAPE
        · have hnext : byteBefore before buf (start + k + 1) = frameMarks.trailer := by
            have := byteBefore_add before buf start (k + 1)
              (fun i hi => hget i (by omega)) (Nat.succ_le_of_lt hk)
            rw [List.take_succ_eq_append_getElem hk, List.getLastD_concat, hat] at this
            exact this
          have hdrop : (buf.take pos).drop (start + k + 1) = l.drop (k + 1) := by
            rw [← hl, List.drop_drop, Nat.add_assoc]
          rw [if_neg (not_not_intro hesc), if_pos hesc,
            ih (start + k + 1) (by omega) (by omega), hnext, hdrop, Option.map_map]
          congr 1
          funext j
          show j + (start + k + 1) = j + (k + 1) + start
          omega
        · rw [if_pos hesc, if_neg hesc, Option.map_some, Nat.add_comm]
    · have hempty : (buf.take pos).drop start = [] := by
        apply List.drop_eq_nil_of_le
        rw [List.length_take]
        omega
      rw [if_neg hrange, hempty]
      rfl

/-- The `memchr` loop finds the first close among the received bytes. -/
theorem searchTrailer_eq (before : UInt8) (buf : List UInt8) {pos : Nat}
    (hpos : pos ≤ buf.length) :
    searchTrailer before buf pos (pos + 1) 0 = findClose frameMarks before (buf.take pos) := by
  rw [searchTrailer_eq_aux before buf pos hpos (pos + 1) 0 (Nat.zero_le _) (by omega)]
  have hid : (fun j => j + 0 : Nat → Nat) = id := rfl
  rw [hid, Option.map_id_apply]
  rfl

/-! ## The collector -/

/-- The receiver without its buffer: the bytes it holds, and the frames it has
delivered. -/
structure Collector where
  held : List UInt8
  delivered : List (List UInt8)
deriving DecidableEq

/-- One read: hold what fits, and decode up to the first close. -/
def Collector.step (before : UInt8) (c : Collector) (pending : List UInt8) : Option Collector :=
  let held := c.held ++ pending.take (RECV_BUF_SIZE - c.held.length)
  match findClose frameMarks before held with
  | none => some { c with held := held }
  | some j =>
    (frameNotifyReceived (held.take (j + 1))).map fun callbacks =>
      { held := [], delivered := c.delivered ++ callbacks }

/-- The position is inside the buffer. -/
def Receiver.Bounded (r : Receiver) : Prop :=
  0 ≤ r.gRecvBufPos ∧ r.gRecvBufPos ≤ RECV_BUF_SIZE

/-- The received bytes, which lie below the position. -/
def Receiver.received (r : Receiver) : List UInt8 :=
  r.gSerialRecvBuf.bytes.take r.gRecvBufPos.toNat

/-- What the collector sees of a receiver. -/
def Receiver.collector (r : Receiver) : Collector where
  held := r.received
  delivered := r.delivered

theorem Receiver.bounded_of_pos_zero {r : Receiver} (h : r.gRecvBufPos = 0) : r.Bounded := by
  unfold Receiver.Bounded RECV_BUF_SIZE
  omega

theorem Receiver.bounded_init : Receiver.init.Bounded := Receiver.bounded_of_pos_zero rfl

@[simp] theorem Receiver.collector_init : Receiver.init.collector = ⟨[], []⟩ := rfl

theorem Receiver.Bounded.length_received {r : Receiver} (h : r.Bounded) :
    (r.received.length : Int) = r.gRecvBufPos := by
  obtain ⟨h0, h1⟩ := h
  rw [Receiver.received, List.length_take, CharArray.length_bytes]
  omega

theorem Receiver.Bounded.pos_eq_zero_iff {r : Receiver} (h : r.Bounded) :
    r.gRecvBufPos = 0 ↔ r.received = [] := by
  rw [← h.length_received, ← List.length_eq_zero_iff]
  omega

/-! ## One call, in parts -/

/-- The buffer that a call hands to `frame_notify_received`. -/
def handedOver (before : UInt8) (r : Receiver) (input : SerialInput) : Option (List UInt8) :=
  (r.afterRead input).bind fun (buf, pos) =>
    (searchTrailer before buf.bytes pos.toNat (pos.toNat + 1) 0).map fun lastTrailer =>
      buf.bytes.take (lastTrailer + 1)

/-- A call reads, and then it hands a buffer over or keeps what it has. -/
theorem frameNotifySerialRecv_eq (before : UInt8) (r : Receiver) (input : SerialInput) :
    frameNotifySerialRecv before r input =
      (r.afterRead input).bind fun (buf, pos) =>
        match handedOver before r input with
        | none => some { r with gSerialRecvBuf := buf, gRecvBufPos := pos }
        | some frameBuf =>
          (frameNotifyReceived frameBuf).map fun callbacks =>
            { gSerialRecvBuf := buf
              gRecvBufPos := 0
              delivered := r.delivered ++ callbacks } := by
  by_cases h : 0 ≤ r.gRecvBufPos ∧ r.gRecvBufPos ≤ RECV_BUF_SIZE
  · cases input with
    | error =>
      simp only [frameNotifySerialRecv, handedOver, Receiver.afterRead, dif_pos h,
        Option.bind_some]
      cases searchTrailer before r.gSerialRecvBuf.bytes (r.gRecvBufPos + -1).toNat
        ((r.gRecvBufPos + -1).toNat + 1) 0 <;> rfl
    | bytes pending =>
      simp only [frameNotifySerialRecv, handedOver, Receiver.afterRead, dif_pos h,
        Option.bind_some]
      split <;> simp_all
  · simp only [frameNotifySerialRecv, Receiver.afterRead, dif_neg h, Option.bind_none]

/-- A read that succeeds appends what fits to the received bytes. -/
theorem Receiver.Bounded.afterRead_bytes {r : Receiver} (h : r.Bounded) (pending : List UInt8) :
    ∃ buf pos, r.afterRead (.bytes pending) = some (buf, pos) ∧ 0 ≤ pos ∧ pos ≤ RECV_BUF_SIZE ∧
      buf.bytes.take pos.toNat =
        r.received ++ pending.take (RECV_BUF_SIZE - r.received.length) := by
  have hlen := h.length_received
  obtain ⟨h0, h1⟩ := h
  have hroom : r.received.length = r.gRecvBufPos.toNat := by omega
  have hbuf := r.gSerialRecvBuf.length_bytes
  rw [hroom]
  generalize hgot : pending.take (RECV_BUF_SIZE - r.gRecvBufPos.toNat) = got
  have hgotlen : got.length ≤ RECV_BUF_SIZE - r.gRecvBufPos.toNat := by
    rw [← hgot, List.length_take]
    omega
  have hpos : (r.gRecvBufPos + (got.length : Int)).toNat = r.gRecvBufPos.toNat + got.length := by
    omega
  refine ⟨serialRead r.gSerialRecvBuf r.gRecvBufPos.toNat (RECV_BUF_SIZE - r.gRecvBufPos.toNat)
    pending (by omega), r.gRecvBufPos + got.length, ?_, by omega, by omega, ?_⟩
  · simp only [Receiver.afterRead, dif_pos (And.intro h0 h1), hgot]
  · rw [hpos]
    simp only [serialRead, hgot]
    apply List.take_left'
    rw [List.length_append, List.length_take, hbuf]
    omega

/-- A call hands over the received bytes up to the first close. -/
theorem Receiver.Bounded.handedOver_bytes {r : Receiver} (h : r.Bounded) (before : UInt8)
    (pending : List UInt8) :
    handedOver before r (.bytes pending) =
      (findClose frameMarks before
          (r.received ++ pending.take (RECV_BUF_SIZE - r.received.length))).map fun j =>
        (r.received ++ pending.take (RECV_BUF_SIZE - r.received.length)).take (j + 1) := by
  obtain ⟨buf, pos, hread, h0, h1, hreceived⟩ := h.afterRead_bytes pending
  have hfit : pos.toNat ≤ buf.bytes.length := by
    rw [CharArray.length_bytes]
    omega
  rw [handedOver, hread, Option.bind_some]
  show (searchTrailer before buf.bytes pos.toNat (pos.toNat + 1) 0).map _ = _
  rw [searchTrailer_eq before buf.bytes hfit, ← hreceived]
  cases hfind : findClose frameMarks before (buf.bytes.take pos.toNat) with
  | none => rfl
  | some j =>
    have hj : j + 1 ≤ pos.toNat := by
      have := findClose_lt hfind
      rw [List.length_take] at this
      omega
    rw [Option.map_some, Option.map_some, List.take_take, Nat.min_eq_left hj]

/-- One call on a read that succeeds refines one step of the collector, and
keeps the position inside the buffer. -/
theorem recv_refines (before : UInt8) {r : Receiver} (h : r.Bounded) (pending : List UInt8) :
    (frameNotifySerialRecv before r (.bytes pending)).map Receiver.collector =
        r.collector.step before pending ∧
      ∀ r', frameNotifySerialRecv before r (.bytes pending) = some r' → r'.Bounded := by
  obtain ⟨buf, pos, hread, h0, h1, hreceived⟩ := h.afterRead_bytes pending
  rw [frameNotifySerialRecv_eq, hread, h.handedOver_bytes before pending, Option.bind_some]
  have hstep : r.collector.step before pending = Collector.step before
      ⟨r.received, r.delivered⟩ pending := rfl
  rw [hstep]
  unfold Collector.step
  dsimp only
  generalize r.received ++ pending.take (RECV_BUF_SIZE - r.received.length) = held at hreceived ⊢
  cases findClose frameMarks before held with
  | none =>
    refine ⟨?_, ?_⟩
    · show some (Receiver.collector ⟨buf, pos, r.delivered⟩) = some ⟨held, r.delivered⟩
      rw [← hreceived]
      rfl
    · intro r' hr'
      cases hr'
      exact ⟨h0, h1⟩
  | some j =>
    refine ⟨?_, ?_⟩
    · show ((frameNotifyReceived (held.take (j + 1))).map _).map Receiver.collector = _
      rw [Option.map_map]
      rfl
    · intro r' hr'
      obtain ⟨callbacks, _, rfl⟩ := Option.map_eq_some_iff.mp hr'
      exact Receiver.bounded_of_pos_zero rfl

/-- A run of successful reads refines a run of the collector. -/
theorem run_recv_refines (before : UInt8) {r : Receiver} (h : r.Bounded)
    (chunks : List (List UInt8)) :
    (Run.run (frameNotifySerialRecv before) r (chunks.map .bytes)).map Receiver.collector =
        Run.run (Collector.step before) r.collector chunks ∧
      ∀ r', Run.run (frameNotifySerialRecv before) r (chunks.map .bytes) = some r' →
        r'.Bounded := by
  induction chunks generalizing r with
  | nil =>
    refine ⟨rfl, ?_⟩
    intro r' hr'
    cases hr'
    exact h
  | cons chunk chunks ih =>
    obtain ⟨hstep, hbound⟩ := recv_refines before h chunk
    rw [List.map_cons, Run.run_cons, Run.run_cons, ← hstep]
    cases hr : frameNotifySerialRecv before r (.bytes chunk) with
    | none => simp
    | some r1 => exact ih (hbound r1 hr)

/-! ## The chunks of a byte string -/

variable {before : UInt8}

/-- Chunks without a close are held. -/
theorem run_collect_of_none {chunks : List (List UInt8)} {held : List UInt8}
    (delivered : List (List UInt8)) (hlen : (held ++ chunks.flatten).length ≤ RECV_BUF_SIZE)
    (hfind : findClose frameMarks before (held ++ chunks.flatten) = none) :
    Run.run (Collector.step before) ⟨held, delivered⟩ chunks =
      some ⟨held ++ chunks.flatten, delivered⟩ := by
  induction chunks generalizing held with
  | nil => simp
  | cons chunk chunks ih =>
    rw [List.flatten_cons, ← List.append_assoc] at hlen hfind ⊢
    have hfit : chunk.take (RECV_BUF_SIZE - held.length) = chunk := by
      apply List.take_of_length_le
      simp only [List.length_append] at hlen
      omega
    have hstep : Collector.step before ⟨held, delivered⟩ chunk =
        some ⟨held ++ chunk, delivered⟩ := by
      simp only [Collector.step, hfit, findClose_eq_none_of_append hfind]
    rw [Run.run_cons, hstep, Option.bind_some]
    exact ih hlen hfind

/-- The last of some non-empty chunks whose only close is their last byte: the
chunks before it have no close. -/
theorem exists_last_chunk {chunks : List (List UInt8)} (hchunks : ∀ c ∈ chunks, c ≠ [])
    (hfind : findClose frameMarks before chunks.flatten = some (chunks.flatten.length - 1)) :
    ∃ init last, chunks = init ++ [last] ∧ chunks.flatten = init.flatten ++ last ∧
      findClose frameMarks before init.flatten = none := by
  have hne : chunks ≠ [] := by
    intro hnil
    rw [hnil] at hfind
    cases hfind
  have hsplit : chunks = chunks.dropLast ++ [chunks.getLast hne] :=
    (List.dropLast_append_getLast hne).symm
  have hflat : chunks.flatten = chunks.dropLast.flatten ++ chunks.getLast hne := by
    conv_lhs => rw [hsplit]
    simp
  have hlast : 0 < (chunks.getLast hne).length :=
    List.length_pos_iff.mpr (hchunks _ (List.getLast_mem hne))
  refine ⟨_, _, hsplit, hflat, ?_⟩
  cases hclose : findClose frameMarks before chunks.dropLast.flatten with
  | none => rfl
  | some k =>
    rw [hflat, findClose_append_of_some _ hclose, List.length_append, Option.some_inj] at hfind
    have := findClose_lt hclose
    omega

/-- Non-empty chunks whose only close is their last byte are decoded as a
whole, during the last chunk. -/
theorem run_collect_of_close {chunks : List (List UInt8)} (delivered : List (List UInt8))
    (hchunks : ∀ c ∈ chunks, c ≠ []) (hlen : chunks.flatten.length ≤ RECV_BUF_SIZE)
    (hfind : findClose frameMarks before chunks.flatten = some (chunks.flatten.length - 1)) :
    Run.run (Collector.step before) ⟨[], delivered⟩ chunks =
      (frameNotifyReceived chunks.flatten).map fun callbacks =>
        ⟨[], delivered ++ callbacks⟩ := by
  obtain ⟨init, last, rfl, hflat, hinit⟩ := exists_last_chunk hchunks hfind
  have hlt := findClose_lt hfind
  rw [hflat] at hlen hfind hlt ⊢
  rw [List.length_append] at hlen
  have hfit : last.take (RECV_BUF_SIZE - init.flatten.length) = last :=
    List.take_of_length_le (by omega)
  have hwhole : (init.flatten ++ last).take ((init.flatten ++ last).length - 1 + 1) =
      init.flatten ++ last := List.take_of_length_le (by omega)
  rw [Run.run_concat_of_eq (run_collect_of_none delivered (by rw [List.nil_append]; omega)
    (by rw [List.nil_append]; exact hinit))]
  simp only [Collector.step, List.nil_append, hfit, hfind, hwhole]

/-! ## Frames in chunks -/

/-- The chunks are non-empty reads that carry the frame of `p`. -/
def SplitsFrame (chunks : List (List UInt8)) (p : List UInt8) : Prop :=
  chunks.flatten = frameSend p ∧ ∀ c ∈ chunks, c ≠ []

instance (chunks : List (List UInt8)) (p : List UInt8) : Decidable (SplitsFrame chunks p) :=
  inferInstanceAs (Decidable (_ ∧ _))

theorem frameSend_fits {p : List UInt8} (hp : p.length ≤ 253) :
    (frameSend p).length ≤ RECV_BUF_SIZE := by
  have := length_frameSend_le p
  unfold RECV_BUF_SIZE
  omega

/-- The search finds the end of a frame unless the last checksum byte is the
escape byte. -/
theorem findClose_frameSend (p : List UInt8) :
    findClose frameMarks before (frameSend p) =
      if checksumHigh (crcXmodem p) = FRAME_ESCAPE then none
      else some ((frameSend p).length - 1) := by
  have h := findClose_frame (m := frameMarks) before (withChecksum p)
  have hlast : (withChecksum p).getLastD frameMarks.header = checksumHigh (crcXmodem p) := by
    simp [withChecksum, List.getLastD_eq_getLast?]
  have hlen : (frameSend p).length - 1 = (stuff frameMarks (withChecksum p)).length.succ := by
    rw [length_frameSend]
    rfl
  rw [hlast] at h
  rw [hlen, frameSend_eq]
  exact h

/-- A frame with a usable checksum is delivered during its last chunk. -/
theorem run_collect_frame {chunks : List (List UInt8)} {p : List UInt8}
    (delivered : List (List UInt8)) (hp : p.length ≤ 253) (hsplit : SplitsFrame chunks p)
    (hgood : checksumHigh (crcXmodem p) ≠ FRAME_ESCAPE) :
    Run.run (Collector.step before) ⟨[], delivered⟩ chunks = some ⟨[], delivered ++ [p]⟩ := by
  obtain ⟨hflat, hne⟩ := hsplit
  have hclose := @findClose_frameSend before p
  rw [if_neg hgood] at hclose
  rw [run_collect_of_close delivered hne (by rw [hflat]; exact frameSend_fits hp)
    (by rw [hflat]; exact hclose), hflat, frameNotifyReceived_frameSend hp, Option.map_some]

/-- A frame whose last checksum byte is the escape byte stays in the buffer. -/
theorem run_collect_frame_of_escape {chunks : List (List UInt8)} {p : List UInt8}
    (delivered : List (List UInt8)) (hp : p.length ≤ 253) (hsplit : SplitsFrame chunks p)
    (hbad : checksumHigh (crcXmodem p) = FRAME_ESCAPE) :
    Run.run (Collector.step before) ⟨[], delivered⟩ chunks = some ⟨frameSend p, delivered⟩ := by
  obtain ⟨hflat, _⟩ := hsplit
  have hclose := @findClose_frameSend before p
  rw [if_pos hbad] at hclose
  have hrun := @run_collect_of_none before chunks [] delivered
    (by simpa [hflat] using frameSend_fits hp) (by simpa [hflat] using hclose)
  rw [hrun, List.nil_append, hflat]

/-- Frames with usable checksums are delivered in order. -/
theorem run_collect_frames {splits : List (List (List UInt8))} {ps : List (List UInt8)}
    (delivered : List (List UInt8)) (hps : ∀ p ∈ ps, p.length ≤ 253)
    (hsplits : List.Forall₂ SplitsFrame splits ps)
    (hgood : ∀ p ∈ ps, checksumHigh (crcXmodem p) ≠ FRAME_ESCAPE) :
    Run.run (Collector.step before) ⟨[], delivered⟩ splits.flatten =
      some ⟨[], delivered ++ ps⟩ := by
  induction hsplits generalizing delivered with
  | nil => simp
  | @cons chunks p splits ps hsplit _ ih =>
    have hframe := @run_collect_frame before chunks p delivered (hps p (by simp)) hsplit
      (hgood p (by simp))
    rw [List.flatten_cons, Run.run_append_of_eq hframe,
      ih _ (fun q hq => hps q (by simp [hq])) (fun q hq => hgood q (by simp [hq])),
      List.append_assoc]
    rfl

/-- If nothing is held after any of the frames, all their checksums are
usable. -/
theorem checksum_of_run_collect {splits : List (List (List UInt8))} {ps : List (List UInt8)}
    (delivered : List (List UInt8)) (hps : ∀ p ∈ ps, p.length ≤ 253)
    (hsplits : List.Forall₂ SplitsFrame splits ps)
    (hempty : ∀ k ≤ splits.length, ∃ c,
      Run.run (Collector.step before) ⟨[], delivered⟩ (splits.take k).flatten = some c ∧
        c.held = []) :
    ∀ p ∈ ps, checksumHigh (crcXmodem p) ≠ FRAME_ESCAPE := by
  induction hsplits generalizing delivered with
  | nil => simp
  | @cons chunks p splits ps hsplit _ ih =>
    have hp : p.length ≤ 253 := hps p (by simp)
    have hgood : checksumHigh (crcXmodem p) ≠ FRAME_ESCAPE := by
      intro hbad
      obtain ⟨c, hrun, hheld⟩ := hempty 1 (by simp)
      rw [List.take_succ_cons, List.take_zero, List.flatten_singleton,
        run_collect_frame_of_escape delivered hp hsplit hbad] at hrun
      cases hrun
      exact frameSend_ne_nil p hheld
    intro q hq
    rcases List.mem_cons.mp hq with rfl | hq
    · exact hgood
    · refine ih (delivered ++ [p]) (fun q hq => hps q (by simp [hq])) ?_ q hq
      intro k hk
      obtain ⟨c, hrun, hheld⟩ := hempty (k + 1) (by simpa using hk)
      rw [List.take_succ_cons, List.flatten_cons,
        Run.run_append_of_eq (run_collect_frame delivered hp hsplit hgood)] at hrun
      exact ⟨c, hrun, hheld⟩

/-! ## End-to-end delivery -/

/-- The callback sees exactly the payloads in order, and the buffer is empty
after the last read of each frame. -/
def DeliversInOrder (before : UInt8) (ps : List (List UInt8))
    (splits : List (List (List UInt8))) : Prop :=
  (∃ r, Run.run (frameNotifySerialRecv before) Receiver.init (splits.flatten.map .bytes) = some r ∧
      r.delivered = ps) ∧
    ∀ k ≤ splits.length, ∃ r,
      Run.run (frameNotifySerialRecv before) Receiver.init ((splits.take k).flatten.map .bytes) =
          some r ∧
        r.gRecvBufPos = 0

/-- A run of the receiver from the empty buffer, as a run of the collector. -/
theorem run_recv_init_iff (chunks : List (List UInt8)) (P : Collector → Prop) :
    (∃ r, Run.run (frameNotifySerialRecv before) Receiver.init (chunks.map .bytes) = some r ∧
        P r.collector) ↔
      ∃ c, Run.run (Collector.step before) ⟨[], []⟩ chunks = some c ∧ P c := by
  have href := (run_recv_refines before Receiver.bounded_init chunks).1
  rw [Receiver.collector_init] at href
  rw [← href]
  constructor
  · rintro ⟨r, hr, hP⟩
    exact ⟨r.collector, by rw [hr, Option.map_some], hP⟩
  · rintro ⟨c, hc, hP⟩
    obtain ⟨r, hr, rfl⟩ := Option.map_eq_some_iff.mp hc
    exact ⟨r, hr, hP⟩

/-- After a run from the empty buffer, the position is 0 exactly when nothing
is held. -/
theorem run_recv_pos_iff (chunks : List (List UInt8)) :
    (∃ r, Run.run (frameNotifySerialRecv before) Receiver.init (chunks.map .bytes) = some r ∧
        r.gRecvBufPos = 0) ↔
      ∃ c, Run.run (Collector.step before) ⟨[], []⟩ chunks = some c ∧ c.held = [] := by
  rw [← run_recv_init_iff chunks (fun c => c.held = [])]
  have hbound := (run_recv_refines before Receiver.bounded_init chunks).2
  constructor
  · rintro ⟨r, hr, hpos⟩
    exact ⟨r, hr, (hbound r hr).pos_eq_zero_iff.mp hpos⟩
  · rintro ⟨r, hr, hheld⟩
    exact ⟨r, hr, (hbound r hr).pos_eq_zero_iff.mpr hheld⟩

/-- Frames arrive end to end exactly when none of their checksums ends, on the
wire, in the escape byte. -/
theorem deliversInOrder_iff (before : UInt8) (ps : List (List UInt8))
    (splits : List (List (List UInt8))) (hps : ∀ p ∈ ps, p.length ≤ 253)
    (hsplits : List.Forall₂ SplitsFrame splits ps) :
    DeliversInOrder before ps splits ↔
      ∀ p ∈ ps, checksumHigh (crcXmodem p) ≠ FRAME_ESCAPE := by
  constructor
  · rintro ⟨_, hempty⟩
    refine @checksum_of_run_collect before splits ps [] hps hsplits ?_
    intro k hk
    exact (@run_recv_pos_iff before _).mp (hempty k hk)
  · intro hgood
    refine ⟨?_, ?_⟩
    · refine (@run_recv_init_iff before splits.flatten (fun c => c.delivered = ps)).mpr ?_
      exact ⟨_, run_collect_frames [] hps hsplits hgood, rfl⟩
    · intro k hk
      refine (@run_recv_pos_iff before _).mpr ?_
      have hsplits' : List.Forall₂ SplitsFrame (splits.take k) (ps.take k) :=
        List.forall₂_take k hsplits
      exact ⟨_, run_collect_frames [] (fun p hp => hps p (List.mem_of_mem_take hp)) hsplits'
        (fun p hp => hgood p (List.mem_of_mem_take hp)), rfl⟩

/-- A key press and an empty payload, cut inside an escape pair. -/
theorem deliversInOrder_iff_example :
    DeliversInOrder 0 [[0x30, 0x03, 0x01], []]
        [[[0x01, 0x30], [0x03, 0x10], [0x01, 0xD7, 0x80, 0x04]], [[0x01, 0x00, 0x00, 0x04]]] ↔
      ∀ p ∈ [[0x30, 0x03, 0x01], []], checksumHigh (crcXmodem p) ≠ FRAME_ESCAPE :=
  deliversInOrder_iff 0 [[0x30, 0x03, 0x01], []] _ (by decide)
    (.cons (by decide +kernel) (.cons (by decide +kernel) .nil))

/-- A version response for firmware 1.0.8.  Its checksum is `0x103f`, so the
last two bytes before the trailer are an escaped escape byte, and the search
takes the trailer for an escaped one. -/
def versionResponse108 : List UInt8 := [0x30, 0x01, 0x08, 0x00, 0x00, 0x01]

/-- Delivery fails for the frame of that response, in one read. -/
theorem deliversInOrder_counterexample :
    ¬ ∀ (before : UInt8) (ps : List (List UInt8)) (splits : List (List (List UInt8))),
        (∀ p ∈ ps, p.length ≤ 253) → List.Forall₂ SplitsFrame splits ps →
          DeliversInOrder before ps splits := by
  intro hall
  have hbad : checksumHigh (crcXmodem versionResponse108) = FRAME_ESCAPE := by decide +kernel
  have hsplit : SplitsFrame [frameSend versionResponse108] versionResponse108 := by
    decide +kernel
  obtain ⟨_, hempty⟩ := hall 0 [versionResponse108] [[frameSend versionResponse108]] (by decide)
    (.cons hsplit .nil)
  obtain ⟨c, hrun, hheld⟩ := (@run_recv_pos_iff 0 _).mp (hempty 1 (by simp))
  rw [List.take_succ_cons, List.take_zero, List.flatten_singleton,
    run_collect_frame_of_escape [] (by decide) hsplit hbad] at hrun
  cases hrun
  exact frameSend_ne_nil _ hheld

end K3ScreenCtrl
