import K3ScreenCtrl.FrameContent
import K3ScreenCtrl.Receiver

/-!
# What the receiver reads

Three things can go wrong inside one call of `frame_notify_serial_recv`: the
search looks at the byte in front of the buffer, the decoder computes
`frame_pos - 2` from too short a frame, and a failed read moves the position.

`searchReads` lists the offsets that the search looks at, so `IndexSafe` can
say that a call stays inside the received bytes.  The results are about whole
runs.  Each says which inputs a run has to meet so that nothing goes wrong in
it, up to and including the call that the run ends in.

* `indexSafe_iff`: no buffer that starts with a trailer, and no frame with
  fewer than two decoded bytes.
* `errorAtomic_iff`: no failed read.
* `receivedWhole_iff`: how a frame is cut into reads makes no difference to
  the buffer that is handed over.
-/

namespace K3ScreenCtrl

open ByteStuffing CString

/-! ## The offsets of the search -/

/-- The offsets that `memchr` looks at: up to the match, or the whole range. -/
def memchrReads (buf : List UInt8) (start range : Nat) (c : UInt8) : List Int :=
  match memchr buf start range c with
  | none => (List.range range).map fun k => (start + k : Nat)
  | some offset => (List.range (offset + 1)).map fun k => (start + k : Nat)

/-- The offsets that `searchTrailer` looks at, round by round. -/
def searchReads (before : UInt8) (buf : List UInt8) (pos : Nat) : Nat → Nat → List Int
  | 0, _ => []
  | fuel + 1, searchPos =>
    let remainingSearchRange := pos - searchPos
    if 0 < remainingSearchRange then
      memchrReads buf searchPos remainingSearchRange FRAME_TRAILER ++
        match memchr buf searchPos remainingSearchRange FRAME_TRAILER with
        | none => []
        | some offset =>
          let lastTrailer := searchPos + offset
          ((lastTrailer : Int) - 1) ::
            if byteBefore before buf lastTrailer ≠ FRAME_ESCAPE then []
            else searchReads before buf pos fuel (lastTrailer + 1)
    else []

/-- `memchr` finds the first match in its range. -/
theorem memchr_spec {buf : List UInt8} {start range offset : Nat} {c : UInt8}
    (h : memchr buf start range c = some offset) :
    offset < range ∧ buf[start + offset]? = some c ∧
      ∀ i < offset, buf[start + i]? ≠ some c := by
  obtain ⟨hlt, hat, hfirst⟩ := List.idxOf?_eq_some_iff.mp h
  have hrange : offset < range := by
    rw [List.length_take] at hlt
    omega
  have hget : ∀ i ≤ offset, ((buf.drop start).take range)[i]? = buf[start + i]? := by
    intro i hi
    rw [List.getElem?_take_of_lt (by omega), List.getElem?_drop]
  refine ⟨hrange, ?_, ?_⟩
  · rw [← hget offset (Nat.le_refl _), List.getElem?_eq_getElem hlt, hat]
  · intro i hi heq
    rw [← hget i (by omega), List.getElem?_eq_getElem (by omega), Option.some_inj] at heq
    exact hfirst i hi heq

theorem mem_memchrReads {buf : List UInt8} {start range : Nat} {c : UInt8} {k : Int}
    (h : k ∈ memchrReads buf start range c) : (start : Int) ≤ k ∧ k < start + range := by
  unfold memchrReads at h
  split at h
  · obtain ⟨i, hi, rfl⟩ := List.mem_map.mp h
    have := List.mem_range.mp hi
    omega
  · next offset hfind =>
    obtain ⟨i, hi, rfl⟩ := List.mem_map.mp h
    have := List.mem_range.mp hi
    have := (memchr_spec hfind).1
    omega

/-- Behind the first byte the search stays inside the received bytes. -/
theorem searchReads_of_pos (before : UInt8) (buf : List UInt8) (pos : Nat) :
    ∀ (fuel start : Nat), 0 < start →
      ∀ k ∈ searchReads before buf pos fuel start, 0 ≤ k ∧ k < (pos : Int) := by
  intro fuel
  induction fuel with
  | zero =>
    intro start _ k hk
    exact absurd hk List.not_mem_nil
  | succ fuel ih =>
    intro start hstart k hk
    rw [searchReads] at hk
    dsimp only at hk
    split at hk
    · rcases List.mem_append.mp hk with hk | hk
      · have := mem_memchrReads hk
        omega
      · split at hk
        · exact absurd hk List.not_mem_nil
        · next offset hfind =>
          have := (memchr_spec hfind).1
          rcases List.mem_cons.mp hk with rfl | hk
          · omega
          · split at hk
            · exact absurd hk List.not_mem_nil
            · exact ih (start + offset + 1) (by omega) k hk
    · exact absurd hk List.not_mem_nil

/-- The search leaves the received bytes exactly when they start with a
trailer. -/
theorem searchReads_inside_iff (before : UInt8) (buf : List UInt8) (pos fuel : Nat) :
    (∀ k ∈ searchReads before buf pos (fuel + 1) 0, 0 ≤ k ∧ k < (pos : Int)) ↔
      (buf.take pos).head? ≠ some FRAME_TRAILER := by
  rw [searchReads]
  dsimp only
  by_cases hrange : 0 < pos - 0
  · have hhead : (buf.take pos).head? = buf[0 + 0]? := by
      rw [List.head?_eq_getElem?, List.getElem?_take_of_lt (by omega)]
    have hreads : ∀ k ∈ memchrReads buf 0 (pos - 0) FRAME_TRAILER, 0 ≤ k ∧ k < (pos : Int) := by
      intro k hk
      have := mem_memchrReads hk
      omega
    rw [if_pos hrange, hhead]
    cases hfind : memchr buf 0 (pos - 0) FRAME_TRAILER with
    | none =>
      have hmem : FRAME_TRAILER ∉ buf.take pos := List.idxOf?_eq_none_iff.mp hfind
      rw [List.append_nil, ← hhead]
      exact ⟨fun _ hat => hmem (List.mem_of_mem_head? hat), fun _ => hreads⟩
    | some offset =>
      have hspec := memchr_spec hfind
      by_cases hzero : offset = 0
      · -- the byte before the trailer is the byte before the buffer
        rw [hzero] at hspec ⊢
        refine ⟨fun hall => ?_, fun hne => absurd hspec.2.1 hne⟩
        have := hall (((0 + 0 : Nat) : Int) - 1) (List.mem_append_right _ List.mem_cons_self)
        omega
      · refine ⟨fun _ => hspec.2.2 0 (by omega), fun _ k hk => ?_⟩
        rcases List.mem_append.mp hk with hk | hk
        · exact hreads k hk
        · rcases List.mem_cons.mp hk with hk | hk
          · omega
          · split at hk
            · exact absurd hk List.not_mem_nil
            · exact searchReads_of_pos before buf pos fuel (0 + offset + 1) (by omega) k hk
  · have hempty : pos = 0 := by omega
    rw [if_neg hrange, hempty]
    simp

/-! ## Index safety -/

/-- One read of the line. -/
def recvChunk (before : UInt8) (r : Receiver) (chunk : List UInt8) : Option Receiver :=
  frameNotifySerialRecv before r (.bytes chunk)

/-- A call stays inside what was received: the search looks only at received
bytes, and what is handed over decodes to at least two bytes. -/
def IndexSafe (before : UInt8) (r : Receiver) (chunk : List UInt8) : Prop :=
  (∃ buf pos, r.afterRead (.bytes chunk) = some (buf, pos) ∧
    ∀ k ∈ searchReads before buf.bytes pos.toNat (pos.toNat + 1) 0, 0 ≤ k ∧ k < pos) ∧
  ∀ frameBuf, handedOver before r (.bytes chunk) = some frameBuf →
    2 ≤ (unescape Unescape.init frameBuf).frame.length

/-- The bytes in the buffer once a chunk was read. -/
def Receiver.withChunk (r : Receiver) (chunk : List UInt8) : List UInt8 :=
  r.received ++ chunk.take (RECV_BUF_SIZE - r.received.length)

/-- The buffer does not start with a trailer, and if it holds a close, the
bytes inside a frame up to there fill the last block of 256 with two or
more. -/
def FrameSound (before : UInt8) (r : Receiver) (chunk : List UInt8) : Prop :=
  (r.withChunk chunk).head? ≠ some FRAME_TRAILER ∧
    ∀ j, findClose frameMarks before (r.withChunk chunk) = some j →
      2 ≤ (framed frameMarks false false ((r.withChunk chunk).take (j + 1))).length % 256

theorem Receiver.Bounded.indexSafe_chunk_iff {r : Receiver} (h : r.Bounded) (before : UInt8)
    (chunk : List UInt8) : IndexSafe before r chunk ↔ FrameSound before r chunk := by
  obtain ⟨buf, pos, hread, h0, h1, hreceived⟩ := h.afterRead_bytes chunk
  have hsearch := searchReads_inside_iff before buf.bytes pos.toNat pos.toNat
  rw [hreceived, Int.toNat_of_nonneg h0] at hsearch
  have hover := h.handedOver_bytes before chunk
  unfold IndexSafe FrameSound
  refine and_congr ?_ ?_
  · rw [hread]
    constructor
    · rintro ⟨buf', pos', heq, hall⟩
      cases heq
      exact hsearch.mp hall
    · intro hhead
      exact ⟨buf, pos, rfl, hsearch.mpr hhead⟩
  · rw [hover]
    constructor
    · intro hall j hj
      rw [← length_frame]
      exact hall _ (Option.map_eq_some_iff.mpr ⟨j, hj, rfl⟩)
    · intro hall frameBuf hframe
      obtain ⟨j, hj, rfl⟩ := Option.map_eq_some_iff.mp hframe
      rw [length_frame]
      exact hall j hj

theorem Receiver.Bounded.recvChunk {before : UInt8} {r r' : Receiver} {chunk : List UInt8}
    (h : r.Bounded) (hstep : recvChunk before r chunk = some r') : r'.Bounded :=
  (recv_refines before h chunk).2 r' hstep

/-- A run stays inside what was received exactly when every buffer that it
searches starts with another byte than a trailer and closes, if it does, on
two decoded bytes. -/
theorem indexSafe_iff (before : UInt8) (chunks : List (List UInt8)) :
    Run.Meets (recvChunk before) (IndexSafe before) Receiver.init chunks ↔
      Run.Meets (recvChunk before) (FrameSound before) Receiver.init chunks :=
  Run.meets_iff (I := Receiver.Bounded) (fun _ chunk hr => hr.indexSafe_chunk_iff before chunk)
    (fun _ _ _ hr _ hstep => hr.recvChunk hstep) Receiver.bounded_init

/-- A lone trailer: the search looks at the byte before the buffer. -/
theorem indexSafe_counterexample :
    ¬ ∀ (before : UInt8) (chunks : List (List UInt8)),
        Run.Meets (recvChunk before) (IndexSafe before) Receiver.init chunks := by
  intro hall
  have hsafe : IndexSafe 0 Receiver.init [FRAME_TRAILER] := (hall 0 [[FRAME_TRAILER]]).1
  exact ((Receiver.bounded_init.indexSafe_chunk_iff 0 [FRAME_TRAILER]).mp hsafe).1 rfl

/-! ## Failed reads -/

/-- A call keeps the position inside the buffer, and if its read fails it
changes neither the held bytes nor the position and delivers nothing. -/
def ErrorAtomic (before : UInt8) (r : Receiver) (input : SerialInput) : Prop :=
  r.Bounded ∧
    (∀ r', frameNotifySerialRecv before r input = some r' → r'.Bounded) ∧
    (input = .error → ∃ r', frameNotifySerialRecv before r input = some r' ∧
      r'.received = r.received ∧ r'.gRecvBufPos = r.gRecvBufPos ∧ r'.delivered = r.delivered)

/-- The read of a call does not fail. -/
def ReadSucceeds (_ : Receiver) (input : SerialInput) : Prop := input ≠ .error

/-- A failed read moves the position: one down, or to 0 if the search then
finds the end of a frame. -/
theorem gRecvBufPos_of_error {before : UInt8} {r r' : Receiver}
    (h : frameNotifySerialRecv before r .error = some r') :
    r'.gRecvBufPos ≠ r.gRecvBufPos := by
  rw [frameNotifySerialRecv_eq] at h
  obtain ⟨⟨buf, pos⟩, hread, h⟩ := Option.bind_eq_some_iff.mp h
  have hpos : pos = r.gRecvBufPos + -1 := by
    unfold Receiver.afterRead at hread
    split at hread
    · exact (congrArg Prod.snd (Option.some_inj.mp hread)).symm
    · cases hread
  cases hover : handedOver before r .error with
  | none =>
    rw [hover] at h
    cases h
    show pos ≠ r.gRecvBufPos
    omega
  | some frameBuf =>
    rw [hover] at h
    obtain ⟨callbacks, _, rfl⟩ := Option.map_eq_some_iff.mp h
    show 0 ≠ r.gRecvBufPos
    -- With position 0 there is nothing to search.
    intro hzero
    rw [handedOver, hread, Option.bind_some, hpos, ← hzero] at hover
    cases hover

theorem errorAtomic_iff_readSucceeds {before : UInt8} {r : Receiver} {input : SerialInput}
    (hr : r.Bounded) : ErrorAtomic before r input ↔ ReadSucceeds r input := by
  cases input with
  | error =>
    refine ⟨fun h => ?_, fun h => absurd rfl h⟩
    obtain ⟨r', hstep, _, hpos, _⟩ := h.2.2 rfl
    exact absurd hpos (gRecvBufPos_of_error hstep)
  | bytes pending =>
    have hne : SerialInput.bytes pending ≠ .error := by
      intro h
      cases h
    exact ⟨fun _ => hne, fun _ => ⟨hr, (recv_refines before hr pending).2, fun h => absurd h hne⟩⟩

/-- The position stays inside the buffer and failed reads change nothing,
along a whole run, exactly when no read that the run gets to fails. -/
theorem errorAtomic_iff (before : UInt8) (inputs : List SerialInput) :
    Run.Meets (frameNotifySerialRecv before) (ErrorAtomic before) Receiver.init inputs ↔
      Run.Meets (frameNotifySerialRecv before) ReadSucceeds Receiver.init inputs := by
  refine Run.meets_iff (I := Receiver.Bounded) (fun r input hr => ?_) ?_ Receiver.bounded_init
  · exact errorAtomic_iff_readSucceeds hr
  · intro r input r' hr hsucceeds hstep
    exact ((errorAtomic_iff_readSucceeds hr).mpr hsucceeds).2.1 r' hstep

/-- One failed read on an empty buffer. -/
theorem errorAtomic_counterexample :
    ¬ ∀ (before : UInt8) (inputs : List SerialInput),
        Run.Meets (frameNotifySerialRecv before) (ErrorAtomic before) Receiver.init inputs := by
  intro hall
  have hatomic : ErrorAtomic 0 Receiver.init .error := (hall 0 [.error]).1
  exact (errorAtomic_iff_readSucceeds Receiver.bounded_init).mp hatomic rfl

/-! ## Chunks -/

/-- The chunks are non-empty reads that carry `w`. -/
def SplitsBytes (chunks : List (List UInt8)) (w : List UInt8) : Prop :=
  chunks.flatten = w ∧ ∀ c ∈ chunks, c ≠ []

instance (chunks : List (List UInt8)) (w : List UInt8) : Decidable (SplitsBytes chunks w) :=
  inferInstanceAs (Decidable (_ ∧ _))

/-- The buffers that the calls of a run hand to `frame_notify_received`. -/
def handedOverBy (before : UInt8) : Receiver → List (List UInt8) → List (List UInt8)
  | _, [] => []
  | r, chunk :: chunks =>
    (handedOver before r (.bytes chunk)).toList ++
      match recvChunk before r chunk with
      | none => []
      | some r' => handedOverBy before r' chunks

/-- The last read hands over all of `w`, no other read hands over anything, and
the buffer is empty afterwards. -/
def ReceivedWhole (before : UInt8) (r : Receiver) (chunks : List (List UInt8)) (w : List UInt8) :
    Prop :=
  handedOverBy before r chunks.dropLast = [] ∧ handedOverBy before r chunks = [w] ∧
    ∃ r', Run.run (recvChunk before) r chunks = some r' ∧ r'.gRecvBufPos = 0

/-- Two lists of reads hand over the same buffers, deliver the same payloads
and leave the same bytes held. -/
def SameEffect (before : UInt8) (r : Receiver) (chunks chunks' : List (List UInt8)) : Prop :=
  handedOverBy before r chunks = handedOverBy before r chunks' ∧
    (Run.run (recvChunk before) r chunks).map Receiver.collector =
      (Run.run (recvChunk before) r chunks').map Receiver.collector

theorem handedOverBy_append {before : UInt8} {r m : Receiver} {xs : List (List UInt8)}
    (h : Run.run (recvChunk before) r xs = some m) (ys : List (List UInt8)) :
    handedOverBy before r (xs ++ ys) = handedOverBy before r xs ++ handedOverBy before m ys := by
  induction xs generalizing r with
  | nil =>
    cases h
    rfl
  | cons chunk xs ih =>
    rw [Run.run_cons] at h
    obtain ⟨r', hstep, hrest⟩ := Option.bind_eq_some_iff.mp h
    rw [List.cons_append, handedOverBy, handedOverBy, hstep]
    show _ ++ handedOverBy before r' (xs ++ ys) = (_ ++ handedOverBy before r' xs) ++ _
    rw [ih hrest, List.append_assoc]

theorem run_recvChunk_eq (before : UInt8) (r : Receiver) (chunks : List (List UInt8)) :
    Run.run (recvChunk before) r chunks =
      Run.run (frameNotifySerialRecv before) r (chunks.map .bytes) := by
  unfold Run.run
  rw [List.foldlM_map]
  rfl

/-- Chunks without a close are held, and no call hands anything over. -/
theorem handedOverBy_of_none {before : UInt8} {chunks : List (List UInt8)} {r : Receiver}
    (hr : r.Bounded) (hlen : (r.received ++ chunks.flatten).length ≤ RECV_BUF_SIZE)
    (hfind : findClose frameMarks before (r.received ++ chunks.flatten) = none) :
    handedOverBy before r chunks = [] ∧
      ∃ m, Run.run (recvChunk before) r chunks = some m ∧ m.Bounded ∧
        m.received = r.received ++ chunks.flatten := by
  induction chunks generalizing r with
  | nil => exact ⟨rfl, r, rfl, hr, by simp⟩
  | cons chunk chunks ih =>
    rw [List.flatten_cons, ← List.append_assoc] at hlen hfind ⊢
    have hfit : chunk.take (RECV_BUF_SIZE - r.received.length) = chunk := by
      apply List.take_of_length_le
      simp only [List.length_append] at hlen
      omega
    have hnone := findClose_eq_none_of_append hfind
    have hover : handedOver before r (.bytes chunk) = none := by
      rw [hr.handedOver_bytes, hfit, hnone, Option.map_none]
    have hcollect : r.collector.step before chunk =
        some ⟨r.received ++ chunk, r.delivered⟩ := by
      show Collector.step before ⟨r.received, r.delivered⟩ chunk = _
      simp only [Collector.step, hfit, hnone]
    have hrefines := (recv_refines before hr chunk).1
    rw [hcollect] at hrefines
    obtain ⟨r', hstep, hheld⟩ := Option.map_eq_some_iff.mp hrefines
    have hreceived : r'.received = r.received ++ chunk := congrArg Collector.held hheld
    have hstep' : recvChunk before r chunk = some r' := hstep
    rw [← hreceived] at hlen hfind ⊢
    obtain ⟨hrest, m, hrun, hm, hheld'⟩ := ih (hr.recvChunk hstep') hlen hfind
    refine ⟨?_, m, ?_, hm, hheld'⟩
    · rw [handedOverBy, hover, hstep']
      exact hrest
    · rw [Run.run_cons, hstep', Option.bind_some, hrun]

/-- Whatever the chunks are, the last one hands over the whole string if its
only close is its last byte. -/
theorem handedOverBy_of_close {before : UInt8} {r : Receiver} {chunks : List (List UInt8)}
    {w : List UInt8} (hr : r.gRecvBufPos = 0) (hsplit : SplitsBytes chunks w)
    (hlen : w.length ≤ RECV_BUF_SIZE)
    (hfind : findClose frameMarks before w = some (w.length - 1)) :
    handedOverBy before r chunks.dropLast = [] ∧ handedOverBy before r chunks = [w] := by
  obtain ⟨rfl, hne⟩ := hsplit
  have hbounded := Receiver.bounded_of_pos_zero hr
  have hempty : r.received = [] := hbounded.pos_eq_zero_iff.mp hr
  obtain ⟨init, last, rfl, hflat, hinit⟩ := exists_last_chunk hne hfind
  have hlt := findClose_lt hfind
  rw [hflat] at hlen hfind hlt ⊢
  rw [List.length_append] at hlen
  have hroom : (r.received ++ init.flatten).length ≤ RECV_BUF_SIZE := by
    rw [hempty, List.nil_append]
    omega
  have hopen : findClose frameMarks before (r.received ++ init.flatten) = none := by
    rw [hempty, List.nil_append]
    exact hinit
  obtain ⟨hquiet, m, hrun, hm, hheld⟩ := handedOverBy_of_none hbounded hroom hopen
  rw [hempty, List.nil_append] at hheld
  have hfit : last.take (RECV_BUF_SIZE - init.flatten.length) = last :=
    List.take_of_length_le (by omega)
  have hwhole : (init.flatten ++ last).take ((init.flatten ++ last).length - 1 + 1) =
      init.flatten ++ last := List.take_of_length_le (by omega)
  have hover : handedOver before m (.bytes last) = some (init.flatten ++ last) := by
    rw [hm.handedOver_bytes, hheld, hfit, hfind, Option.map_some, hwhole]
  refine ⟨?_, ?_⟩
  · rw [List.dropLast_concat]
    exact hquiet
  · rw [handedOverBy_append hrun, hquiet, handedOverBy, hover]
    cases recvChunk before m last <;> rfl

/-- The run decodes the whole string. -/
theorem run_recvChunk_of_close {before : UInt8} {r : Receiver} {chunks : List (List UInt8)}
    {w : List UInt8} (hr : r.gRecvBufPos = 0) (hsplit : SplitsBytes chunks w)
    (hlen : w.length ≤ RECV_BUF_SIZE)
    (hfind : findClose frameMarks before w = some (w.length - 1)) :
    (Run.run (recvChunk before) r chunks).map Receiver.collector =
      (frameNotifyReceived w).map fun callbacks => ⟨[], r.delivered ++ callbacks⟩ := by
  obtain ⟨rfl, hne⟩ := hsplit
  have hbounded := Receiver.bounded_of_pos_zero hr
  have hempty : r.received = [] := hbounded.pos_eq_zero_iff.mp hr
  have hcollector : r.collector = ⟨[], r.delivered⟩ := by
    rw [Receiver.collector, hempty]
  rw [run_recvChunk_eq, (run_recv_refines before hbounded chunks).1, hcollector]
  exact run_collect_of_close r.delivered hne hlen hfind

/-- The string ends in its only trailer that is not directly preceded by an
escape byte, and does not start with a trailer. -/
structure OneClose (w : List UInt8) : Prop where
  not_head : w.head? ≠ some FRAME_TRAILER
  close_iff : ∀ j, (w[j]? = some FRAME_TRAILER ∧ (0 < j → w[j - 1]? ≠ some FRAME_ESCAPE)) ↔
    j + 1 = w.length

theorem OneClose.findClose {w : List UInt8} (h : OneClose w) (hne : w ≠ []) (before : UInt8) :
    findClose frameMarks before w = some (w.length - 1) := by
  have hpos : 0 < w.length := List.length_pos_iff.mpr hne
  have hcloses (j : Nat) : ClosesAt frameMarks before w j ↔ j + 1 = w.length := by
    rw [← h.close_iff j]
    unfold ClosesAt
    cases j with
    | zero =>
      have hhead : w[0]? ≠ some FRAME_TRAILER := by
        rw [← List.head?_eq_getElem?]
        exact h.not_head
      exact ⟨fun hc => absurd hc.1 hhead, fun hc => absurd hc.1 hhead⟩
    | succ j =>
      refine and_congr Iff.rfl ?_
      show w[j]? ≠ some FRAME_ESCAPE ↔ (0 < j + 1 → w[j]? ≠ some FRAME_ESCAPE)
      exact ⟨fun hc _ => hc, fun hc => hc (Nat.succ_pos j)⟩
  refine findClose_eq_some_iff.mpr ⟨(hcloses _).mpr (by omega), ?_⟩
  intro i hi hclose
  have := (hcloses i).mp hclose
  omega

theorem oneClose_emptyPayload : OneClose [0x01, 0x00, 0x00, 0x04] where
  not_head := by decide
  close_iff := by
    intro j
    rcases j with _ | _ | _ | _ | j <;> simp [FRAME_TRAILER, FRAME_ESCAPE]

/-- However a frame is cut into reads, its last read hands over all of it, once,
and empties the buffer, exactly when the frame decodes to two bytes or more. -/
theorem receivedWhole_iff (before : UInt8) (r : Receiver) (w : List UInt8)
    (chunks : List (List UInt8)) (hr : r.gRecvBufPos = 0) (hne : w ≠ [])
    (hlen : w.length ≤ RECV_BUF_SIZE) (hclose : OneClose w) (hsplit : SplitsBytes chunks w) :
    (ReceivedWhole before r chunks w ∧
        ∀ chunks', SplitsBytes chunks' w → SameEffect before r chunks chunks') ↔
      2 ≤ (framed frameMarks false false w).length % 256 := by
  have hfind := hclose.findClose hne before
  obtain ⟨hquiet, hover⟩ := handedOverBy_of_close hr hsplit hlen hfind
  have hrun := run_recvChunk_of_close hr hsplit hlen hfind
  have hnone := frameNotifyReceived_eq_none_iff w
  constructor
  · rintro ⟨⟨_, _, r', hrun', _⟩, _⟩
    by_contra hshort
    rw [hrun', hnone.mpr (by omega)] at hrun
    cases hrun
  · intro hlong
    refine ⟨⟨hquiet, hover, ?_⟩, ?_⟩
    · cases hcalls : frameNotifyReceived w with
      | none =>
        have := hnone.mp hcalls
        omega
      | some callbacks =>
        rw [hcalls, Option.map_some] at hrun
        obtain ⟨r', hrun', hcollector⟩ := Option.map_eq_some_iff.mp hrun
        have hheld : r'.received = [] := congrArg Collector.held hcollector
        have hbounded : r'.Bounded :=
          Run.run_invariant (fun _ _ _ hr hstep => hr.recvChunk hstep)
            (Receiver.bounded_of_pos_zero hr) hrun'
        exact ⟨r', hrun', hbounded.pos_eq_zero_iff.mpr hheld⟩
    · intro chunks' hsplit'
      have hover' := (handedOverBy_of_close hr hsplit' hlen hfind).2
      have hrun' := run_recvChunk_of_close hr hsplit' hlen hfind
      exact ⟨hover.trans hover'.symm, hrun.trans hrun'.symm⟩

/-- The frame of an empty payload, cut behind its header and before its
trailer. -/
theorem receivedWhole_iff_emptyPayload :
    (ReceivedWhole 0 Receiver.init [[0x01], [0x00, 0x00], [0x04]] [0x01, 0x00, 0x00, 0x04] ∧
        ∀ chunks', SplitsBytes chunks' [0x01, 0x00, 0x00, 0x04] →
          SameEffect 0 Receiver.init [[0x01], [0x00, 0x00], [0x04]] chunks') ↔
      2 ≤ (framed frameMarks false false [0x01, 0x00, 0x00, 0x04]).length % 256 :=
  receivedWhole_iff 0 Receiver.init [0x01, 0x00, 0x00, 0x04] [[0x01], [0x00, 0x00], [0x04]] rfl
    (by decide) (by decide) oneClose_emptyPayload (by decide)

theorem oneClose_noise : OneClose [0x30, 0x04] where
  not_head := by decide
  close_iff := by
    intro j
    rcases j with _ | _ | j <;> simp [FRAME_TRAILER, FRAME_ESCAPE]

/-- A byte of noise and a trailer: the decoder computes a checksum of length
-2. -/
theorem receivedWhole_counterexample :
    ¬ ∀ (before : UInt8) (r : Receiver) (w : List UInt8) (chunks : List (List UInt8)),
        r.gRecvBufPos = 0 → w ≠ [] → w.length ≤ RECV_BUF_SIZE → OneClose w →
          SplitsBytes chunks w → ReceivedWhole before r chunks w := by
  intro hall
  obtain ⟨_, _, r', hrun, _⟩ := hall 0 Receiver.init [0x30, 0x04] [[0x30, 0x04]] rfl (by decide)
    (by decide) oneClose_noise (by decide)
  have hsplit : SplitsBytes [[0x30, 0x04]] [0x30, 0x04] := by decide
  have hfind : findClose frameMarks 0 [0x30, 0x04] = some 1 := by decide
  have hcalls := run_recvChunk_of_close (r := Receiver.init) rfl hsplit (by decide) hfind
  rw [hrun] at hcalls
  cases hcalls

end K3ScreenCtrl
