import K3ScreenCtrl.FrameCodec
import Mathlib.Data.List.Induction

/-!
# The content of a received frame

`frame_notify_received` on any buffer, not only on what `frame_send` emits.

The loop stores the bytes inside a frame one after the other, from the first
header of the buffer on, through a counter of type `unsigned char`.  So
`frame[]` ends up with the last incomplete block of 256 of them.

* `unescape_frame` and `foldl_framePush_eq` are these two facts, and
  `frameNotifyReceived_spec` is the decoder in terms of that block.
* `deliversContent_iff` says when the content of a frame is delivered as a
  whole, whatever its length.
* `delivers_behind_truncated_iff` says when a frame survives an interrupted
  one before it.  The counter starts at 0 once for each buffer, not at each
  header.
-/

namespace K3ScreenCtrl

open ByteStuffing

/-! ## The decoder on any buffer -/

/-- The loop stores what is inside a frame. -/
theorem unescape_frame (s : Unescape) (frameBuf : List UInt8) :
    (unescape s frameBuf).frame =
      (framed frameMarks s.isEscaped s.isInFrame frameBuf).foldl framePush s.frame := by
  induction frameBuf generalizing s with
  | nil => rfl
  | cons byte frameBuf ih =>
    obtain ⟨frame, esc, inFrame⟩ := s
    rw [unescape_cons, ih]
    cases esc with
    | true => cases inFrame <;> simp [Unescape.step, framed]
    | false =>
      simp only [Unescape.step, framed, frameMarks_escape, frameMarks_header, frameMarks_trailer,
        Bool.false_eq_true, if_false]
      split_ifs <;> simp_all

/-- What a counter of type `unsigned char` leaves of the stored bytes. -/
def lastBlock (c : List UInt8) : List UInt8 := c.drop (c.length / 256 * 256)

theorem length_lastBlock (c : List UInt8) : (lastBlock c).length = c.length % 256 := by
  rw [lastBlock, List.length_drop]
  omega

theorem lastBlock_of_length_le {c : List UInt8} (h : c.length ≤ 255) : lastBlock c = c := by
  have hzero : c.length / 256 * 256 = 0 := by omega
  rw [lastBlock, hzero, List.drop_zero]

/-- Whole blocks in front of the stored bytes leave no trace. -/
theorem lastBlock_append {c d : List UInt8} (hc : c.length % 256 = 0) :
    lastBlock (c ++ d) = lastBlock d := by
  have hblocks : (c ++ d).length / 256 * 256 = c.length + d.length / 256 * 256 := by
    rw [List.length_append]
    omega
  rw [lastBlock, hblocks, List.drop_append]
  simp [lastBlock]

theorem foldl_framePush_eq (c : List UInt8) : c.foldl framePush [] = lastBlock c := by
  induction c using List.reverseRecOn with
  | nil => rfl
  | append_singleton c byte ih =>
    have hlen := length_lastBlock c
    rw [List.foldl_append, ih, List.foldl_cons, List.foldl_nil, framePush]
    by_cases hfull : (lastBlock c).length = 255
    · have hblocks : (c ++ [byte]).length / 256 * 256 = (c ++ [byte]).length := by
        rw [List.length_append, List.length_singleton]
        omega
      rw [if_pos hfull, lastBlock, hblocks, List.drop_length]
    · have hblocks : (c ++ [byte]).length / 256 * 256 = c.length / 256 * 256 := by
        rw [List.length_append, List.length_singleton]
        omega
      rw [if_neg hfull, lastBlock, lastBlock, hblocks, List.drop_append_of_le_length (by omega)]

/-- The bytes are a payload and its checksum. -/
def Checks (c : List UInt8) : Prop := ∃ q, c = withChecksum q

/-- The two checksum bytes decide. -/
theorem checks_concat_iff {q : List UInt8} {low high : UInt8} :
    Checks (q ++ [low, high]) ↔ crcXmodem q = readShort low high := by
  constructor
  · rintro ⟨p, hp⟩
    have hlen : q.length = p.length := by
      have := congrArg List.length hp
      rw [List.length_append, length_withChecksum, List.length_cons, List.length_singleton] at this
      omega
    obtain ⟨rfl, hbytes⟩ := List.append_inj hp hlen
    simp only [List.cons.injEq, and_true] at hbytes
    rw [hbytes.1, hbytes.2, readShort_checksum]
  · intro h
    obtain ⟨hlow, hhigh⟩ := checksum_readShort low high
    exact ⟨q, by rw [withChecksum, h, hlow, hhigh]⟩

theorem exists_checksum_bytes {c : List UInt8} (h : 2 ≤ c.length) :
    ∃ q low high, c = q ++ [low, high] := by
  have htail : (c.drop (c.length - 2)).length = 2 := by
    rw [List.length_drop]
    omega
  obtain ⟨low, high, htail⟩ := List.length_eq_two.mp htail
  exact ⟨c.take (c.length - 2), low, high, by rw [← htail, List.take_append_drop]⟩

/-- What the decoder makes of the last block. -/
theorem frameNotifyReceived_spec (frameBuf : List UInt8) {block : List UInt8}
    (hblock : lastBlock (framed frameMarks false false frameBuf) = block) :
    (block.length < 2 → frameNotifyReceived frameBuf = none) ∧
      (∀ q, block = withChecksum q → frameNotifyReceived frameBuf = some [q]) ∧
      (2 ≤ block.length → ¬ Checks block → frameNotifyReceived frameBuf = some []) := by
  have hframe : (unescape Unescape.init frameBuf).frame = block := by
    rw [unescape_frame, ← hblock]
    exact foldl_framePush_eq _
  refine ⟨?_, ?_, ?_⟩
  · intro hshort
    simp only [frameNotifyReceived, hframe, if_pos hshort]
  · intro q hq
    exact frameNotifyReceived_of_unescape (hframe.trans hq)
  · intro hlong hbad
    obtain ⟨q, low, high, rfl⟩ := exists_checksum_bytes hlong
    have hne : ¬ crcXmodem q = readShort low high := mt checks_concat_iff.mpr hbad
    simp [frameNotifyReceived, hframe, hne]

/-- A delivered payload is the last block without its checksum. -/
theorem lastBlock_of_delivered {frameBuf q : List UInt8}
    (h : frameNotifyReceived frameBuf = some [q]) :
    lastBlock (framed frameMarks false false frameBuf) = withChecksum q := by
  have hspec := frameNotifyReceived_spec frameBuf rfl
  generalize lastBlock (framed frameMarks false false frameBuf) = block at hspec ⊢
  obtain ⟨hshort, hgood, hbad⟩ := hspec
  by_cases hchecks : Checks block
  · obtain ⟨p, hp⟩ := hchecks
    rw [hgood p hp, Option.some_inj, List.cons.injEq] at h
    rw [hp, h.1]
  · by_cases hlen : block.length < 2
    · rw [hshort hlen] at h
      cases h
    · rw [hbad (by omega) hchecks] at h
      cases h

/-- What the counter says of the stored bytes. -/
theorem length_frame (frameBuf : List UInt8) :
    (unescape Unescape.init frameBuf).frame.length =
      (framed frameMarks false false frameBuf).length % 256 := by
  rw [unescape_frame, ← length_lastBlock, ← foldl_framePush_eq]
  rfl

/-- The decoder survives a buffer exactly when its last block is long
enough. -/
theorem frameNotifyReceived_eq_none_iff (frameBuf : List UInt8) :
    frameNotifyReceived frameBuf = none ↔
      (framed frameMarks false false frameBuf).length % 256 < 2 := by
  have hsome := frameNotifyReceived_isSome_iff frameBuf
  rw [length_frame] at hsome
  constructor
  · intro hnone
    by_contra hlong
    obtain ⟨callbacks, hcalls⟩ := hsome.mpr (by omega)
    rw [hnone] at hcalls
    cases hcalls
  · intro hshort
    cases hcalls : frameNotifyReceived frameBuf with
    | none => rfl
    | some callbacks =>
      have := hsome.mp ⟨callbacks, hcalls⟩
      omega

/-! ## Frames of any length -/

/-- The callback gets the payload of the content, once, if the content ends in
the right checksum, and nothing otherwise. -/
def DeliversContent (frameBuf c : List UInt8) : Prop :=
  (∀ q, c = withChecksum q → frameNotifyReceived frameBuf = some [q]) ∧
    (¬ Checks c → frameNotifyReceived frameBuf = some [])

/-- What is stored of a frame without unescaped marks inside is its content. -/
theorem framed_body {body : List UInt8}
    (hheader : unescapedAt frameMarks FRAME_HEADER false 0 body = [])
    (htrailer : unescapedAt frameMarks FRAME_TRAILER false 0 body = [])
    (hpending : pending frameMarks false body = false) :
    framed frameMarks false false (FRAME_HEADER :: (body ++ [FRAME_TRAILER])) =
      content frameMarks false body := by
  have hopen := framed_header (m := frameMarks) false (body ++ [FRAME_TRAILER])
  have hclose := framed_trailer (m := frameMarks) true []
  rw [frameMarks_header] at hopen
  rw [frameMarks_trailer] at hclose
  rw [hopen, framed_append hheader htrailer, hpending, hclose]
  simp [framed]

/-- The content of a frame is delivered as a whole exactly when it has at most
255 bytes, or neither it nor its last block has a right checksum. -/
theorem deliversContent_iff (body : List UInt8)
    (hheader : unescapedAt frameMarks FRAME_HEADER false 0 body = [])
    (htrailer : unescapedAt frameMarks FRAME_TRAILER false 0 body = [])
    (hpending : pending frameMarks false body = false)
    (hlong : 2 ≤ (content frameMarks false body).length) :
    DeliversContent (FRAME_HEADER :: (body ++ [FRAME_TRAILER])) (content frameMarks false body) ↔
      (content frameMarks false body).length ≤ 255 ∨
        2 ≤ (content frameMarks false body).length % 256 ∧
          ¬ Checks (content frameMarks false body) ∧
          ¬ Checks ((content frameMarks false body).drop
            ((content frameMarks false body).length / 256 * 256)) := by
  have hframed := framed_body hheader htrailer hpending
  generalize content frameMarks false body = c at hlong hframed ⊢
  generalize FRAME_HEADER :: (body ++ [FRAME_TRAILER]) = frameBuf at hframed ⊢
  obtain ⟨hshort, hgood, hbad⟩ := frameNotifyReceived_spec frameBuf rfl
  rw [hframed, length_lastBlock] at hshort hbad
  rw [hframed] at hgood
  by_cases hfits : c.length ≤ 255
  · rw [lastBlock_of_length_le hfits] at hgood hbad
    have hmod : c.length % 256 = c.length := Nat.mod_eq_of_lt (by omega)
    exact ⟨fun _ => Or.inl hfits, fun _ => ⟨hgood, hbad (by omega)⟩⟩
  · have hlt : (lastBlock c).length < c.length := by
      rw [length_lastBlock]
      omega
    constructor
    · intro hdelivers
      right
      -- A right checksum of the whole content cannot be delivered from a shorter block.
      have hchecks : ¬ Checks c := by
        rintro ⟨q, hq⟩
        have hblock := lastBlock_of_delivered (hdelivers.1 q hq)
        rw [hframed, ← hq] at hblock
        rw [hblock] at hlt
        exact absurd hlt (Nat.lt_irrefl _)
      have hcalls := hdelivers.2 hchecks
      refine ⟨?_, hchecks, ?_⟩
      · by_contra hmod
        rw [hshort (by omega)] at hcalls
        cases hcalls
      · rintro ⟨p, hp⟩
        rw [hgood p hp] at hcalls
        cases hcalls
    · intro h
      rcases h with hle | ⟨hmod, hchecks, hblock⟩
      · exact absurd hle hfits
      · exact ⟨fun q hq => absurd ⟨q, hq⟩ hchecks, fun _ => hbad hmod hblock⟩

/-- A frame with an escaped header and an escaped escape in it. -/
theorem deliversContent_iff_example :
    DeliversContent (FRAME_HEADER :: ([0x10, 0x01, 0x21, 0x10, 0x10] ++ [FRAME_TRAILER]))
        (content frameMarks false [0x10, 0x01, 0x21, 0x10, 0x10]) ↔
      (content frameMarks false [0x10, 0x01, 0x21, 0x10, 0x10]).length ≤ 255 ∨
        2 ≤ (content frameMarks false [0x10, 0x01, 0x21, 0x10, 0x10]).length % 256 ∧
          ¬ Checks (content frameMarks false [0x10, 0x01, 0x21, 0x10, 0x10]) ∧
          ¬ Checks ((content frameMarks false [0x10, 0x01, 0x21, 0x10, 0x10]).drop
            ((content frameMarks false [0x10, 0x01, 0x21, 0x10, 0x10]).length / 256 * 256)) :=
  deliversContent_iff [0x10, 0x01, 0x21, 0x10, 0x10] (by decide) (by decide) (by decide)
    (by decide)

/-- The checksum of zeros is zero. -/
theorem crcXmodem_replicate_zero (n : Nat) : crcXmodem (List.replicate n 0) = 0 := by
  have hstep : updateCrcCcitt 0 0 = 0 := by decide
  induction n with
  | zero => rfl
  | succ n ih =>
    rw [crcXmodem, crcCcittGeneric, List.replicate_succ, List.foldl_cons]
    show List.foldl updateCrcCcitt (updateCrcCcitt 0 0) _ = 0
    rw [hstep]
    exact ih

theorem withChecksum_replicate_zero (n : Nat) :
    withChecksum (List.replicate n 0) = List.replicate (n + 2) 0 := by
  rw [withChecksum, crcXmodem_replicate_zero, List.replicate_add]
  rfl

/-- Of 300 zeros with a right checksum, the callback gets 44. -/
theorem deliversContent_counterexample :
    ¬ ∀ body : List UInt8,
        unescapedAt frameMarks FRAME_HEADER false 0 body = [] →
          unescapedAt frameMarks FRAME_TRAILER false 0 body = [] →
            pending frameMarks false body = false →
              (FRAME_HEADER :: (body ++ [FRAME_TRAILER])).length ≤ 2048 →
                2 ≤ (content frameMarks false body).length →
                  DeliversContent (FRAME_HEADER :: (body ++ [FRAME_TRAILER]))
                    (content frameMarks false body) := by
  intro hall
  have hheader : unescapedAt frameMarks FRAME_HEADER false 0
      (stuff frameMarks (withChecksum (List.replicate 300 0))) = [] :=
    unescapedAt_stuff (Or.inl rfl) 0 _
  have htrailer : unescapedAt frameMarks FRAME_TRAILER false 0
      (stuff frameMarks (withChecksum (List.replicate 300 0))) = [] :=
    unescapedAt_stuff (Or.inr (Or.inl rfl)) 0 _
  have hfits : (FRAME_HEADER :: (stuff frameMarks (withChecksum (List.replicate 300 0)) ++
      [FRAME_TRAILER])).length ≤ 2048 := by
    have hle := length_stuff_le (m := frameMarks) (withChecksum (List.replicate 300 0))
    rw [length_withChecksum, List.length_replicate] at hle
    rw [List.length_cons, List.length_append, List.length_singleton]
    omega
  have hlong : 2 ≤ (content frameMarks false
      (stuff frameMarks (withChecksum (List.replicate 300 0)))).length := by
    rw [content_stuff, length_withChecksum]
    omega
  have hcalls := (hall (stuff frameMarks (withChecksum (List.replicate 300 0))) hheader htrailer
    (pending_stuff _) hfits hlong).1 (List.replicate 300 0) (content_stuff _)
  have hblock : lastBlock (framed frameMarks false false
      (FRAME_HEADER :: (stuff frameMarks (withChecksum (List.replicate 300 0)) ++
        [FRAME_TRAILER]))) = withChecksum (List.replicate 44 0) := by
    rw [framed_body hheader htrailer (pending_stuff _), content_stuff, withChecksum_replicate_zero,
      withChecksum_replicate_zero, lastBlock, List.drop_replicate, List.length_replicate]
  rw [(frameNotifyReceived_spec _ rfl).2.1 _ hblock, Option.some_inj, List.cons.injEq] at hcalls
  have := congrArg List.length hcalls.1
  rw [List.length_replicate, List.length_replicate] at this
  omega

/-! ## Frames behind a truncated frame -/

/-- The first part of a frame is a header and bytes without unescaped marks. -/
theorem truncated_cases {q t rest : List UInt8} (hsplit : frameSend q = t ++ rest) (ht : t ≠ [])
    (hrest : rest ≠ []) :
    ∃ body, t = FRAME_HEADER :: body ∧
      unescapedAt frameMarks FRAME_HEADER false 0 body = [] ∧
      unescapedAt frameMarks FRAME_TRAILER false 0 body = [] := by
  obtain ⟨b, body, rfl⟩ := List.exists_cons_of_ne_nil ht
  rw [frameSend_eq, List.cons_append, List.cons.injEq] at hsplit
  obtain ⟨rfl, hbody⟩ := hsplit
  refine ⟨body, rfl, ?_⟩
  -- The trailer is in the part that is missing.
  have hpre : stuff frameMarks (withChecksum q) = body ++ rest.dropLast := by
    have hlast := congrArg List.dropLast hbody
    rwa [List.dropLast_concat, List.dropLast_append_of_ne_nil hrest] at hlast
  have hheader := unescapedAt_stuff (m := frameMarks) (Or.inl rfl) 0 (withChecksum q)
  have htrailer := unescapedAt_stuff (m := frameMarks) (Or.inr (Or.inl rfl)) 0 (withChecksum q)
  rw [hpre, unescapedAt_append, List.append_eq_nil_iff] at hheader htrailer
  exact ⟨hheader.1, htrailer.1⟩

/-- A frame behind the first part of another one is delivered exactly when
that part leaves the counter at 0: it is a bare header, or it carries whole
blocks of 256 bytes. -/
theorem delivers_behind_truncated_iff (p q t rest : List UInt8) (hp : p.length ≤ 253)
    (hsplit : frameSend q = t ++ rest) (ht : t ≠ []) (hrest : rest ≠ [])
    (hpending : pending frameMarks false t = false) :
    frameNotifyReceived (t ++ frameSend p) = some [p] ↔
      (content frameMarks false t.tail).length % 256 = 0 := by
  obtain ⟨body, rfl, hheader, htrailer⟩ := truncated_cases hsplit ht hrest
  have hopen := framed_header (m := frameMarks) false (body ++ frameSend p)
  have hframe := framed_frame (m := frameMarks) true (withChecksum p)
  have hbody : pending frameMarks false body = false := hpending
  rw [frameMarks_header, frameMarks_trailer, ← frameSend_eq] at hframe
  rw [frameMarks_header, framed_append hheader htrailer, hbody, hframe] at hopen
  show frameNotifyReceived (FRAME_HEADER :: (body ++ frameSend p)) = some [p] ↔
    (content frameMarks false body).length % 256 = 0
  generalize content frameMarks false body = c at hopen ⊢
  have hlen : (lastBlock (c ++ withChecksum p)).length = (c.length + (p.length + 2)) % 256 := by
    rw [length_lastBlock, List.length_append, length_withChecksum]
  constructor
  · intro hcalls
    have hblock := lastBlock_of_delivered hcalls
    rw [hopen] at hblock
    rw [hblock, length_withChecksum] at hlen
    omega
  · intro hmod
    refine (frameNotifyReceived_spec _ rfl).2.1 p ?_
    rw [hopen, lastBlock_append hmod]
    exact lastBlock_of_length_le (by rw [length_withChecksum]; omega)

/-- A bare header before a key press. -/
theorem delivers_behind_truncated_iff_header :
    frameNotifyReceived ([0x01] ++ frameSend [0x30, 0x03, 0x01]) = some [[0x30, 0x03, 0x01]] ↔
      (content frameMarks false [0x01].tail).length % 256 = 0 :=
  delivers_behind_truncated_iff [0x30, 0x03, 0x01] [] [0x01] [0x00, 0x00, 0x04] (by decide)
    (by decide +kernel) (by decide) (by decide) (by decide)

/-- A header and one byte before a key press: the checksum is taken over the
wrong bytes. -/
theorem delivers_behind_truncated_counterexample :
    ¬ ∀ p q t rest : List UInt8, p.length ≤ 253 → frameSend q = t ++ rest → t ≠ [] → rest ≠ [] →
        pending frameMarks false t = false → (t ++ frameSend p).length ≤ 2048 →
          frameNotifyReceived (t ++ frameSend p) = some [p] := by
  intro hall
  have hcalls := hall [0x30, 0x03, 0x01] [0x30] [0x01, 0x30] ((frameSend [0x30]).drop 2) (by decide)
    (by decide +kernel) (by decide) (by decide +kernel) (by decide) (by decide +kernel)
  have hreject : frameNotifyReceived ([0x01, 0x30] ++ frameSend [0x30, 0x03, 0x01]) = some [] := by
    decide +kernel
  rw [hreject] at hcalls
  cases hcalls

end K3ScreenCtrl
