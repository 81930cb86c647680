import K3ScreenCtrl.Receiver

/-!
# When the receiver can get its buffer back

The position returns to 0 only when a frame ends.  The buffer has a fixed
size and no other way to be emptied, so a receiver that holds too much can
never be brought back: with 2048 held bytes the next read asks for 0 bytes.

This module says exactly how much is too much.  `bytesToClose` is a lower
bound on the bytes until a close, and there is always a continuation that
meets it, at most five bytes long.  It is a potential on the decoder state:

* `bytesToClose_le_step`: no byte lowers it by more than one.
* `exists_step_bytesToClose`: some byte lowers it by one.

A close on a frame with fewer than two decoded bytes makes the checksum read
out of bounds, so it ends the run and not the frame.  This is why the
potential counts the decoded bytes as well.
-/

namespace K3ScreenCtrl

open ByteStuffing CString

/-! ## The potential -/

/-- The bytes until a close, outside an escape pair: the missing decoded bytes,
a header if they would not be stored, and the trailer. -/
def closeCost (decoded : Nat) (inFrame : Bool) : Nat :=
  if 2 ≤ decoded then 1 else 2 - decoded + (if inFrame then 0 else 1) + 1

/-- The bytes until a close.  `last` is the last held byte: right after an
escape byte a trailer does not close. -/
def bytesToClose (s : Unescape) (last : UInt8) : Nat :=
  if s.isEscaped then
    closeCost (if s.isInFrame then (framePush s.frame 0).length else s.frame.length) s.isInFrame + 1
  else if last = FRAME_ESCAPE then max 2 (closeCost s.frame.length s.isInFrame)
  else closeCost s.frame.length s.isInFrame

theorem one_le_closeCost (decoded : Nat) (inFrame : Bool) : 1 ≤ closeCost decoded inFrame := by
  unfold closeCost
  split_ifs <;> omega

theorem closeCost_le (decoded : Nat) (inFrame : Bool) : closeCost decoded inFrame ≤ 4 := by
  unfold closeCost
  split_ifs <;> omega

theorem one_le_bytesToClose (s : Unescape) (last : UInt8) : 1 ≤ bytesToClose s last := by
  unfold bytesToClose
  have := one_le_closeCost s.frame.length s.isInFrame
  split
  · omega
  · split <;> omega

/-- Five bytes are always enough. -/
theorem bytesToClose_le (s : Unescape) (last : UInt8) : bytesToClose s last ≤ 5 := by
  unfold bytesToClose
  have h1 := closeCost_le s.frame.length s.isInFrame
  have h2 := closeCost_le
    (if s.isInFrame then (framePush s.frame 0).length else s.frame.length) s.isInFrame
  split
  · omega
  · split <;> omega

/-- One more decoded byte saves at most one byte. -/
theorem closeCost_le_succ (decoded : Nat) :
    closeCost decoded true ≤ closeCost (decoded + 1) true + 1 := by
  simp only [closeCost, if_true]
  split_ifs <;> omega

/-- A header saves at most one byte, and a trailer saves none. -/
theorem closeCost_le_inFrame (decoded : Nat) (inFrame inFrame' : Bool) :
    closeCost decoded inFrame ≤ closeCost decoded inFrame' + 1 := by
  unfold closeCost
  split_ifs <;> omega

theorem length_framePush (frame : List UInt8) (byte : UInt8) :
    (framePush frame byte).length = if frame.length = 255 then 0 else frame.length + 1 := by
  unfold framePush
  split_ifs <;> simp

theorem closeCost_le_framePush (frame : List UInt8) (byte : UInt8) :
    closeCost frame.length true ≤ closeCost (framePush frame byte).length true + 1 := by
  rw [length_framePush]
  split_ifs with h
  · rw [h]
    simp [closeCost]
  · exact closeCost_le_succ frame.length

/-- Outside an escape pair the potential is the larger of the two costs. -/
theorem closeCost_le_bytesToClose {s : Unescape} (last : UInt8) (h : s.isEscaped = false) :
    closeCost s.frame.length s.isInFrame ≤ bytesToClose s last := by
  unfold bytesToClose
  rw [h]
  simp only [Bool.false_eq_true, if_false]
  split_ifs <;> omega

theorem bytesToClose_le_max {s : Unescape} (last : UInt8) (h : s.isEscaped = false) :
    bytesToClose s last ≤ max 2 (closeCost s.frame.length s.isInFrame) := by
  unfold bytesToClose
  rw [h]
  simp only [Bool.false_eq_true, if_false]
  split_ifs <;> omega

/-- The decoder is inside an escape pair only right after an escape byte. -/
def EscapeSeen (s : Unescape) (last : UInt8) : Prop := s.isEscaped = true → last = FRAME_ESCAPE

theorem escapeSeen_step (s : Unescape) (byte : UInt8) : EscapeSeen (s.step byte) byte := by
  intro h
  unfold Unescape.step at h
  split_ifs at h with h1 h2 <;> simp_all

/-- Outside an escape pair a byte other than a trailer saves at most one byte. -/
theorem closeCost_le_step (frame : List UInt8) (inFrame : Bool) {byte : UInt8}
    (h : byte ≠ FRAME_TRAILER) :
    closeCost frame.length inFrame ≤
      bytesToClose (Unescape.step ⟨frame, false, inFrame⟩ byte) byte + 1 := by
  by_cases hmark : frameMarks.IsMark byte
  · rcases hmark with rfl | rfl | rfl
    · have hle := closeCost_le_bytesToClose (s := ⟨frame, false, true⟩) FRAME_HEADER rfl
      have hin := closeCost_le_inFrame frame.length inFrame true
      rw [frameMarks_header, Unescape.step_header]
      simp only at hle
      omega
    · exact absurd rfl h
    · have hpush := closeCost_le_framePush frame 0
      rw [frameMarks_escape, Unescape.step_escape]
      simp only [bytesToClose, if_true]
      cases inFrame with
      | true => simpa using Nat.le_succ_of_le hpush
      | false => simp; omega
  · have hle := closeCost_le_bytesToClose
      (s := ⟨if inFrame then framePush frame byte else frame, false, inFrame⟩) byte rfl
    have hpush := closeCost_le_framePush frame byte
    rw [Unescape.step_data _ _ hmark]
    cases inFrame <;> simp only [if_true, Bool.false_eq_true, if_false] at hle ⊢ <;> omega

/-- No byte that does not close lowers the potential by more than one. -/
theorem bytesToClose_le_step {s : Unescape} {last byte : UInt8}
    (hseen : EscapeSeen s last) (hclose : ¬ (byte = FRAME_TRAILER ∧ last ≠ FRAME_ESCAPE)) :
    bytesToClose s last ≤ bytesToClose (s.step byte) byte + 1 := by
  obtain ⟨frame, esc, inFrame⟩ := s
  cases esc with
  | true =>
    have hlen : (if inFrame then framePush frame byte else frame).length =
        if inFrame then (framePush frame 0).length else frame.length := by
      cases inFrame <;> simp [length_framePush]
    have hle := closeCost_le_bytesToClose (s := ⟨if inFrame then framePush frame byte else frame,
      false, inFrame⟩) byte rfl
    rw [Unescape.step_escaped]
    simp only [hlen] at hle
    simp only [bytesToClose, if_true] at hle ⊢
    omega
  | false =>
    have hmax := bytesToClose_le_max (s := ⟨frame, false, inFrame⟩) last rfl
    simp only at hmax
    by_cases htrailer : byte = FRAME_TRAILER
    · -- An escaped trailer closes the frame for the decoder and not for the search.
      have hlast : last = FRAME_ESCAPE := by
        by_contra hne
        exact hclose ⟨htrailer, hne⟩
      have hpos := one_le_bytesToClose ⟨frame, false, false⟩ byte
      have hle := closeCost_le_bytesToClose (s := ⟨frame, false, false⟩) byte rfl
      have hin := closeCost_le_inFrame frame.length inFrame false
      simp only at hle
      rw [htrailer] at hpos hle ⊢
      rw [Unescape.step_trailer]
      omega
    · have hpos := one_le_bytesToClose (Unescape.step ⟨frame, false, inFrame⟩ byte) byte
      have hcost := closeCost_le_step frame inFrame htrailer
      omega

/-- A byte that closes on two decoded bytes was one byte away. -/
theorem bytesToClose_of_close {s : Unescape} {last byte : UInt8} (hseen : EscapeSeen s last)
    (hclose : byte = FRAME_TRAILER ∧ last ≠ FRAME_ESCAPE)
    (hframe : 2 ≤ (s.step byte).frame.length) : bytesToClose s last = 1 := by
  obtain ⟨frame, esc, inFrame⟩ := s
  obtain ⟨rfl, hlast⟩ := hclose
  have hesc : esc = false := by
    cases esc with
    | false => rfl
    | true => exact absurd (hseen rfl) hlast
  subst hesc
  rw [Unescape.step_trailer] at hframe
  simp only at hframe
  simp [bytesToClose, hlast, closeCost, hframe]

/-- One byte away, the trailer closes on two decoded bytes. -/
theorem close_of_bytesToClose {s : Unescape} {last : UInt8} (h : bytesToClose s last = 1) :
    last ≠ FRAME_ESCAPE ∧ 2 ≤ (s.step FRAME_TRAILER).frame.length := by
  obtain ⟨frame, esc, inFrame⟩ := s
  cases esc with
  | true =>
    simp only [bytesToClose, if_true] at h
    have := one_le_closeCost
      (if inFrame then (framePush frame 0).length else frame.length) inFrame
    omega
  | false =>
    rw [Unescape.step_trailer]
    simp only [bytesToClose, Bool.false_eq_true, if_false] at h
    by_cases hlast : last = FRAME_ESCAPE
    · rw [if_pos hlast] at h
      omega
    · rw [if_neg hlast] at h
      refine ⟨hlast, ?_⟩
      simp only
      by_contra hshort
      rw [closeCost, if_neg hshort] at h
      omega

/-- Further away, some byte that does not close lowers the potential by one. -/
theorem exists_step_bytesToClose {s : Unescape} {last : UInt8} (hseen : EscapeSeen s last)
    (h : 1 < bytesToClose s last) :
    ∃ byte, ¬ (byte = FRAME_TRAILER ∧ last ≠ FRAME_ESCAPE) ∧
      bytesToClose (s.step byte) byte + 1 = bytesToClose s last := by
  obtain ⟨frame, esc, inFrame⟩ := s
  have hdata : ¬ frameMarks.IsMark (0 : UInt8) := by decide
  have hzero : (0 : UInt8) ≠ FRAME_TRAILER := fun he => hdata (Or.inr (Or.inl he))
  have hplain : (0 : UInt8) ≠ FRAME_ESCAPE := fun he => hdata (Or.inr (Or.inr he))
  have hheader : FRAME_HEADER ≠ FRAME_TRAILER := frameMarks.header_ne_trailer
  have hne : FRAME_HEADER ≠ FRAME_ESCAPE := frameMarks.header_ne_escape
  cases esc with
  | true =>
    refine ⟨0, fun hc => hzero hc.1, ?_⟩
    rw [Unescape.step_escaped]
    cases inFrame <;> simp [bytesToClose, hplain]
  | false =>
    by_cases hlong : 2 ≤ frame.length
    · -- Only an escape byte in the way: a header gets past it.
      refine ⟨FRAME_HEADER, fun hc => hheader hc.1, ?_⟩
      rw [Unescape.step_header]
      simp only [bytesToClose, closeCost, hlong, hne, Bool.false_eq_true, if_false, if_true] at h ⊢
      split_ifs at h ⊢ <;> omega
    · cases inFrame with
      | false =>
        refine ⟨FRAME_HEADER, fun hc => hheader hc.1, ?_⟩
        rw [Unescape.step_header]
        simp only [bytesToClose, closeCost, hlong, hne, Bool.false_eq_true, if_false, if_true]
        split_ifs <;> omega
      | true =>
        refine ⟨0, fun hc => hzero hc.1, ?_⟩
        have hlen : (framePush frame 0).length = frame.length + 1 := by
          rw [length_framePush, if_neg (by omega)]
        rw [Unescape.step_data _ _ hdata]
        simp only [bytesToClose, closeCost, hlong, hlen, hplain, Bool.false_eq_true, if_false,
          if_true]
        split_ifs <;> omega

/-! ## The potential over strings -/

/-- A string without a close lowers the potential by its length at most. -/
theorem bytesToClose_le_append {s : Unescape} {last : UInt8} {l : List UInt8}
    (hseen : EscapeSeen s last) (h : findClose frameMarks last l = none) :
    bytesToClose s last ≤ bytesToClose (unescape s l) (l.getLastD last) + l.length := by
  induction l generalizing s last with
  | nil => simp
  | cons b l ih =>
    have hb : ¬ (b = FRAME_TRAILER ∧ last ≠ FRAME_ESCAPE) := by
      intro hc
      rw [findClose_cons_of_close l hc] at h
      cases h
    rw [findClose_cons_of_not_close l hb, Option.map_eq_none_iff] at h
    have hstep := bytesToClose_le_step hseen hb
    have hrest := ih (escapeSeen_step s b) h
    rw [unescape_cons, List.getLastD_cons, List.length_cons]
    omega

/-- A close on two decoded bytes takes as many bytes as the potential says. -/
theorem bytesToClose_le_of_findClose {s : Unescape} {last : UInt8} {l : List UInt8} {j : Nat}
    (hseen : EscapeSeen s last) (h : findClose frameMarks last l = some j)
    (hframe : 2 ≤ (unescape s (l.take (j + 1))).frame.length) : bytesToClose s last ≤ j + 1 := by
  induction l generalizing s last j with
  | nil => cases h
  | cons b l ih =>
    by_cases hb : b = FRAME_TRAILER ∧ last ≠ FRAME_ESCAPE
    · rw [findClose_cons_of_close l hb] at h
      cases h
      exact Nat.le_of_eq (bytesToClose_of_close hseen hb hframe)
    · rw [findClose_cons_of_not_close l hb, Option.map_eq_some_iff] at h
      obtain ⟨k, hk, rfl⟩ := h
      have hstep := bytesToClose_le_step hseen hb
      have hrest := ih (escapeSeen_step s b) hk hframe
      omega

theorem escapeSeen_unescape (before : UInt8) (held : List UInt8) :
    EscapeSeen (unescape Unescape.init held) (held.getLastD before) := by
  rcases List.eq_nil_or_concat held with rfl | ⟨l, b, rfl⟩
  · intro h
    cases h
  · rw [List.concat_eq_append, unescape_append, List.getLastD_concat]
    exact escapeSeen_step _ b

/-! ## The collector -/

variable {before : UInt8}

/-- The bytes that the collector is away from a close. -/
def Collector.bytesToClose (before : UInt8) (c : Collector) : Nat :=
  K3ScreenCtrl.bytesToClose (unescape Unescape.init c.held) (c.held.getLastD before)

/-- Between two reads the held bytes fit the buffer and hold no close. -/
def Collector.Open (before : UInt8) (c : Collector) : Prop :=
  c.held.length ≤ RECV_BUF_SIZE ∧ findClose frameMarks before c.held = none

/-- What one read can do. -/
theorem Collector.step_cases {c c' : Collector} {pending : List UInt8}
    (h : c.step before pending = some c') :
    ∃ got, got = pending.take (RECV_BUF_SIZE - c.held.length) ∧
      ((findClose frameMarks before (c.held ++ got) = none ∧
          c' = { c with held := c.held ++ got }) ∨
        ∃ j callbacks, findClose frameMarks before (c.held ++ got) = some j ∧
          frameNotifyReceived ((c.held ++ got).take (j + 1)) = some callbacks ∧
          c' = ⟨[], c.delivered ++ callbacks⟩) := by
  refine ⟨_, rfl, ?_⟩
  unfold Collector.step at h
  generalize pending.take (RECV_BUF_SIZE - c.held.length) = got at h ⊢
  cases hfind : findClose frameMarks before (c.held ++ got) with
  | none =>
    simp only [hfind] at h
    exact Or.inl ⟨rfl, (Option.some_inj.mp h).symm⟩
  | some j =>
    simp only [hfind] at h
    obtain ⟨callbacks, hcb, hc'⟩ := Option.map_eq_some_iff.mp h
    exact Or.inr ⟨j, callbacks, rfl, hcb, hc'.symm⟩

theorem Collector.open_step {c c' : Collector} {pending : List UInt8} (hopen : c.Open before)
    (h : c.step before pending = some c') : c'.Open before := by
  obtain ⟨got, hgot, ⟨hfind, rfl⟩ | ⟨j, callbacks, _, _, rfl⟩⟩ := Collector.step_cases h
  · refine ⟨?_, hfind⟩
    have hlen : got.length ≤ RECV_BUF_SIZE - c.held.length := by
      rw [hgot, List.length_take]
      omega
    have := hopen.1
    show (c.held ++ got).length ≤ RECV_BUF_SIZE
    rw [List.length_append]
    omega
  · exact ⟨Nat.zero_le _, rfl⟩

/-- A collector that gets empty had room for a close. -/
theorem Collector.fits_of_recovers {c c' : Collector} {chunks : List (List UInt8)}
    (hopen : c.Open before) (hheld : c.held ≠ [])
    (hrun : Run.run (Collector.step before) c chunks = some c') (hempty : c'.held = []) :
    c.held.length + c.bytesToClose before ≤ RECV_BUF_SIZE := by
  induction chunks generalizing c with
  | nil =>
    cases hrun
    exact absurd hempty hheld
  | cons chunk chunks ih =>
    rw [Run.run_cons, Option.bind_eq_some_iff] at hrun
    obtain ⟨c1, hstep, hrest⟩ := hrun
    have hopen1 := Collector.open_step hopen hstep
    have hseen := escapeSeen_unescape before c.held
    obtain ⟨got, hgot, ⟨hfind, rfl⟩ | ⟨j, callbacks, hfind, hcb, rfl⟩⟩ :=
      Collector.step_cases hstep
    · have hne : c.held ++ got ≠ [] := fun h => hheld (List.append_eq_nil_iff.mp h).1
      have hlater := ih hopen1 hne hrest
      rw [findClose_append_of_none _ hopen.2, Option.map_eq_none_iff] at hfind
      have hcost := bytesToClose_le_append hseen hfind
      have hlast : (c.held ++ got).getLastD before = got.getLastD (c.held.getLastD before) := by
        simp [List.getLastD_eq_getLast?, List.getLast?_append, Option.getD_or]
      simp only [Collector.bytesToClose, unescape_append, hlast, List.length_append] at hlater ⊢
      omega
    · have hlen : got.length ≤ RECV_BUF_SIZE - c.held.length := by
        rw [hgot, List.length_take]
        omega
      rw [findClose_append_of_none _ hopen.2, Option.map_eq_some_iff] at hfind
      obtain ⟨k, hk, rfl⟩ := hfind
      have hklt := findClose_lt hk
      have hframe := (frameNotifyReceived_isSome_iff _).mp ⟨callbacks, hcb⟩
      have hsplit : (c.held ++ got).take (k + c.held.length + 1) = c.held ++ got.take (k + 1) := by
        rw [List.take_append, List.take_of_length_le (by omega)]
        congr 2
        omega
      rw [hsplit, unescape_append] at hframe
      have hcost := bytesToClose_le_of_findClose hseen hk hframe
      have := hopen.1
      unfold Collector.bytesToClose
      omega

/-- A collector with room for a close can get empty, one byte at a time. -/
theorem Collector.exists_recovery (n : Nat) {c : Collector} (hopen : c.Open before)
    (hn : c.bytesToClose before = n) (hfits : c.held.length + n ≤ RECV_BUF_SIZE) :
    ∃ chunks c', Run.run (Collector.step before) c chunks = some c' ∧ c'.held = [] := by
  induction n generalizing c with
  | zero =>
    have := one_le_bytesToClose (unescape Unescape.init c.held) (c.held.getLastD before)
    unfold Collector.bytesToClose at hn
    omega
  | succ n ih =>
    have hseen := escapeSeen_unescape before c.held
    have hread (b : UInt8) : [b].take (RECV_BUF_SIZE - c.held.length) = [b] := by
      apply List.take_of_length_le
      rw [List.length_singleton]
      omega
    have hfind (b : UInt8) : findClose frameMarks before (c.held ++ [b]) =
        if b = FRAME_TRAILER ∧ c.held.getLastD before ≠ FRAME_ESCAPE then some c.held.length
        else none := by
      rw [findClose_append_of_none _ hopen.2]
      by_cases hb : b = FRAME_TRAILER ∧ c.held.getLastD before ≠ FRAME_ESCAPE
      · rw [if_pos hb, findClose_cons_of_close _ hb, Option.map_some, Nat.zero_add]
      · rw [if_neg hb, findClose_cons_of_not_close _ hb]
        rfl
    cases n with
    | zero =>
      -- One byte away: the trailer ends the frame.
      obtain ⟨hlast, hframe⟩ := close_of_bytesToClose hn
      have hwhole : (c.held ++ [FRAME_TRAILER]).take (c.held.length + 1) =
          c.held ++ [FRAME_TRAILER] := List.take_of_length_le (by simp)
      obtain ⟨callbacks, hcb⟩ := (frameNotifyReceived_isSome_iff (c.held ++ [FRAME_TRAILER])).mpr
        (by rw [unescape_append]; exact hframe)
      have hclosed : findClose frameMarks before (c.held ++ [FRAME_TRAILER]) =
          some c.held.length := by
        rw [hfind, if_pos ⟨rfl, hlast⟩]
      refine ⟨[[FRAME_TRAILER]], ⟨[], c.delivered ++ callbacks⟩, ?_, rfl⟩
      rw [Run.run_singleton]
      simp only [Collector.step, hread, hclosed, hwhole, hcb, Option.map_some]
    | succ n =>
      obtain ⟨b, hb, hcost⟩ := exists_step_bytesToClose hseen
        (by unfold Collector.bytesToClose at hn; omega)
      have hstep : Collector.step before c [b] = some { c with held := c.held ++ [b] } := by
        simp only [Collector.step, hread, hfind, if_neg hb]
      have hnext : Collector.bytesToClose before { c with held := c.held ++ [b] } = n + 1 := by
        simp only [Collector.bytesToClose, unescape_append, List.getLastD_concat] at hn ⊢
        show K3ScreenCtrl.bytesToClose ((unescape Unescape.init c.held).step b) b = n + 1
        omega
      obtain ⟨chunks, c', hrun, hempty⟩ := ih (Collector.open_step hopen hstep) hnext
        (by simp only [List.length_append, List.length_singleton]; omega)
      exact ⟨[b] :: chunks, c', by rw [Run.run_cons, hstep, Option.bind_some, hrun], hempty⟩

/-! ## The receiver -/

/-- Some continuation of reads brings the position back to 0. -/
def Recovers (before : UInt8) (r : Receiver) : Prop :=
  ∃ (chunks : List (List UInt8)) (r' : Receiver),
    Run.run (frameNotifySerialRecv before) r (chunks.map .bytes) = some r' ∧ r'.gRecvBufPos = 0

/-- The receiver recovers when its collector does. -/
theorem Receiver.Bounded.recovers_iff_collector {r : Receiver} (h : r.Bounded) :
    Recovers before r ↔
      ∃ chunks c', Run.run (Collector.step before) r.collector chunks = some c' ∧ c'.held = [] := by
  constructor
  · rintro ⟨chunks, r', hrun, hpos⟩
    obtain ⟨href, hbounded⟩ := run_recv_refines before h chunks
    rw [hrun, Option.map_some] at href
    exact ⟨chunks, r'.collector, href.symm, (hbounded r' hrun).pos_eq_zero_iff.mp hpos⟩
  · rintro ⟨chunks, c', hrun, hempty⟩
    obtain ⟨href, hbounded⟩ := run_recv_refines before h chunks
    rw [hrun] at href
    obtain ⟨r', hr', rfl⟩ := Option.map_eq_some_iff.mp href
    exact ⟨chunks, r', hr', (hbounded r' hr').pos_eq_zero_iff.mpr hempty⟩

/-- Every reachable receiver is open. -/
theorem open_of_reachable {history : List (List UInt8)} {r : Receiver}
    (hreach : Run.run (frameNotifySerialRecv before) Receiver.init (history.map .bytes) = some r) :
    r.Bounded ∧ r.collector.Open before := by
  obtain ⟨href, hbounded⟩ := run_recv_refines before Receiver.bounded_init history
  rw [hreach, Option.map_some, Receiver.collector_init] at href
  refine ⟨hbounded r hreach, ?_⟩
  exact Run.run_invariant (P := Collector.Open before) (fun _ _ _ => Collector.open_step)
    (s := ⟨[], []⟩) ⟨Nat.zero_le _, rfl⟩ href.symm

/-- A reachable receiver gets its buffer back exactly when nothing is held, or
when a close still fits behind the held bytes. -/
theorem recovers_iff (before : UInt8) (history : List (List UInt8)) (r : Receiver)
    (hreach : Run.run (frameNotifySerialRecv before) Receiver.init (history.map .bytes) = some r) :
    Recovers before r ↔
      r.gRecvBufPos = 0 ∨
        r.gRecvBufPos +
            bytesToClose (unescape Unescape.init r.received) (r.received.getLastD before) ≤
          RECV_BUF_SIZE := by
  obtain ⟨hbounded, hopen⟩ := open_of_reachable hreach
  have hlen := hbounded.length_received
  have hfits : (r.gRecvBufPos +
      bytesToClose (unescape Unescape.init r.received) (r.received.getLastD before) ≤
        RECV_BUF_SIZE) ↔
      r.collector.held.length + r.collector.bytesToClose before ≤ RECV_BUF_SIZE := by
    show _ ↔ r.received.length +
      bytesToClose (unescape Unescape.init r.received) (r.received.getLastD before) ≤ RECV_BUF_SIZE
    omega
  rw [hfits, hbounded.recovers_iff_collector, hbounded.pos_eq_zero_iff]
  constructor
  · rintro ⟨chunks, c', hrun, hempty⟩
    by_cases hheld : r.received = []
    · exact Or.inl hheld
    · exact Or.inr (Collector.fits_of_recovers hopen hheld hrun hempty)
  · intro h
    rcases h with hheld | hroom
    · exact ⟨[], r.collector, rfl, hheld⟩
    · exact Collector.exists_recovery _ hopen rfl hroom

/-- A receiver that has read the start of a frame, up to an escape byte. -/
def midFrameReceiver : Receiver where
  gSerialRecvBuf :=
    serialRead (CharArray.zero RECV_BUF_SIZE) 0 RECV_BUF_SIZE [0x01, 0x30, 0x10] (by decide)
  gRecvBufPos := 3
  delivered := []

theorem recovers_iff_midFrame :
    Recovers 0 midFrameReceiver ↔
      midFrameReceiver.gRecvBufPos = 0 ∨
        midFrameReceiver.gRecvBufPos +
            bytesToClose (unescape Unescape.init midFrameReceiver.received)
              (midFrameReceiver.received.getLastD 0) ≤ RECV_BUF_SIZE :=
  recovers_iff 0 [[0x01, 0x30, 0x10]] midFrameReceiver rfl

/-- A buffer full of noise without a trailer stays full: every later read asks
for 0 bytes. -/
theorem recovers_counterexample :
    ¬ ∀ (before : UInt8) (history : List (List UInt8)) (r : Receiver),
        Run.run (frameNotifySerialRecv before) Receiver.init (history.map .bytes) = some r →
          Recovers before r := by
  intro hall
  have hflat : ([] : List UInt8) ++ [List.replicate RECV_BUF_SIZE (0 : UInt8)].flatten =
      List.replicate RECV_BUF_SIZE 0 := by simp
  have hnoise : FRAME_TRAILER ∉ List.replicate RECV_BUF_SIZE (0 : UInt8) := by
    intro hmem
    exact absurd (List.eq_of_mem_replicate hmem) (by decide)
  have hrun := @run_collect_of_none 0 [List.replicate RECV_BUF_SIZE 0] [] []
    (by rw [hflat, List.length_replicate]) (by rw [hflat]; exact findClose_of_not_mem hnoise)
  rw [hflat] at hrun
  obtain ⟨r, hr, hfull⟩ := (@run_recv_init_iff 0 [List.replicate RECV_BUF_SIZE 0]
    (fun c => c.held = List.replicate RECV_BUF_SIZE 0)).mpr ⟨_, hrun, rfl⟩
  obtain ⟨hbounded, hopen⟩ := open_of_reachable hr
  obtain ⟨chunks, c', hrun', hempty⟩ := hbounded.recovers_iff_collector.mp (hall 0 _ r hr)
  have hne : r.collector.held ≠ [] := by
    rw [hfull]
    exact List.ne_nil_of_length_pos (by rw [List.length_replicate]; decide)
  have hfits := Collector.fits_of_recovers hopen hne hrun' hempty
  have hpos : 1 ≤ r.collector.bytesToClose 0 := one_le_bytesToClose _ _
  rw [hfull, List.length_replicate] at hfits
  omega

end K3ScreenCtrl
