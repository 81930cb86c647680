import K3ScreenCtrl.FrameContent
import K3ScreenCtrl.Lib.Stream
import K3ScreenCtrl.Receiver

/-!
# Several frames in one read

`frame_notify_serial_recv` looks for one end of frame in what it holds, and then
sets the position back to 0: what the read brought behind that frame is gone
("Do not support continous frames").  `run_recv_eq_iff_coalesced` says what this
does to a stream of good frames, whatever reads it comes in.

If every read that ends a frame also ends where a frame ends, the callback gets
the first frame that ends in each of these reads, and the others are lost.  If
some read brings the end of a frame and a part of a later one, the rest of that
part comes without its header.  It decodes to nothing, and the checksum is then
taken over -2 bytes (`run_collect_tail`).  Nothing else can happen.
-/

namespace K3ScreenCtrl

open ByteStuffing Stream

variable (before : UInt8)

/-! ## The first close -/

/-- What the buffer has room for behind any unfinished frame. -/
def readRoom : Nat := RECV_BUF_SIZE - 512

/-- The reads up to the first close: the decoder gets what stands before it, and
the rest of the last read is dropped. -/
theorem run_collect_first {unit dropped : List UInt8} {init : List (List UInt8)}
    {last : List UInt8} (delivered : List (List UInt8)) (hlen : unit.length ≤ 512)
    (hclose : findClose frameMarks before unit = some (unit.length - 1))
    (hshort : init.flatten.length < unit.length) (hwhole : init.flatten ++ last = unit ++ dropped)
    (hroom : last.length ≤ readRoom) :
    Run.run (Collector.step before) ⟨[], delivered⟩ (init ++ [last]) =
      (frameNotifyReceived unit).map fun callbacks => ⟨[], delivered ++ callbacks⟩ := by
  obtain ⟨missing, hunit, _⟩ := exists_append_of_length_le hwhole.symm (Nat.le_of_lt hshort)
  have hmissing : missing ≠ [] := by
    rintro rfl
    rw [hunit, List.append_nil] at hshort
    omega
  have hinit : findClose frameMarks before init.flatten = none := by
    cases hfind : findClose frameMarks before init.flatten with
    | none => rfl
    | some j =>
      -- the only close is in the part that is missing
      have hlt := findClose_lt hfind
      have hpos := List.length_pos_iff.mpr hmissing
      rw [hunit, findClose_append_of_some missing hfind, List.length_append,
        Option.some_inj] at hclose
      omega
  have hfit : last.take (RECV_BUF_SIZE - init.flatten.length) = last := by
    apply List.take_of_length_le
    unfold readRoom at hroom
    omega
  have hfits : ([] ++ init.flatten).length ≤ RECV_BUF_SIZE := by
    rw [List.nil_append]
    unfold RECV_BUF_SIZE
    omega
  have htake : (unit ++ dropped).take (unit.length - 1 + 1) = unit := by
    rw [Nat.sub_add_cancel (by omega), List.take_left]
  rw [Run.run_concat_of_eq (run_collect_of_none delivered hfits
    (by rw [List.nil_append]; exact hinit))]
  simp only [Collector.step, List.nil_append, hfit, hwhole, findClose_append_of_some dropped hclose,
    htake]

/-! ## A group of frames -/

/-- A payload whose frame the receiver can find the end of. -/
def Receivable (p : List UInt8) : Prop :=
  p.length ≤ 253 ∧ checksumHigh (crcXmodem p) ≠ FRAME_ESCAPE

instance (p : List UInt8) : Decidable (Receivable p) := inferInstanceAs (Decidable (_ ∧ _))

theorem Receivable.length_frameSend_le {p : List UInt8} (h : Receivable p) :
    (frameSend p).length ≤ 512 := by
  have hlen := K3ScreenCtrl.length_frameSend_le p
  have hp := h.1
  omega

/-- Of a group only the first frame is delivered. -/
theorem run_collect_group {p behind : List UInt8} {init : List (List UInt8)}
    {last : List UInt8} (delivered : List (List UInt8)) (hp : Receivable p)
    (hshort : init.flatten.length < (frameSend p).length)
    (hwhole : init.flatten ++ last = frameSend p ++ behind)
    (hroom : last.length ≤ readRoom) :
    Run.run (Collector.step before) ⟨[], delivered⟩ (init ++ [last]) =
      some ⟨[], delivered ++ [p]⟩ := by
  have hclose := @findClose_frameSend before p
  rw [if_neg hp.2] at hclose
  rw [run_collect_first before delivered hp.length_frameSend_le hclose hshort hwhole hroom,
    frameNotifyReceived_frameSend hp.1, Option.map_some]

/-! ## The rest of a frame -/

/-- A frame, cut where no escape is pending. -/
theorem frameSend_eq_append {q t rest : List UInt8} (h : frameSend q = t ++ rest) (ht : t ≠ [])
    (hrest : rest ≠ []) (hpending : pending frameMarks false t = false) :
    ∃ c d, withChecksum q = c ++ d ∧ rest = stuff frameMarks d ++ [FRAME_TRAILER] := by
  obtain ⟨b, body, rfl⟩ := List.exists_cons_of_ne_nil ht
  rw [frameSend_eq, List.cons_append, List.cons.injEq] at h
  obtain ⟨rfl, hbody⟩ := h
  have hpre : stuff frameMarks (withChecksum q) = body ++ rest.dropLast := by
    have hlast := congrArg List.dropLast hbody
    rwa [List.dropLast_concat, List.dropLast_append_of_ne_nil hrest] at hlast
  have hinner : pending frameMarks false body = false := by
    have hne : ¬ FRAME_HEADER = frameMarks.escape := frameMarks.header_ne_escape
    rwa [pending, decide_eq_false hne] at hpending
  obtain ⟨c, d, hcontent, rfl, hd⟩ := stuff_eq_append hpre hinner
  refine ⟨c, d, hcontent, ?_⟩
  rw [hcontent, stuff_append, List.append_assoc] at hbody
  exact (List.append_cancel_left hbody).symm

/-- The rest of a frame without its header is too short to be a frame. -/
theorem run_collect_tail {q t rest more : List UInt8} {reads : List (List UInt8)}
    (delivered : List (List UInt8)) (hbefore : before ≠ FRAME_ESCAPE) (hq : Receivable q)
    (hsplit : frameSend q = t ++ rest) (ht : t ≠ []) (hrest : rest ≠ [])
    (hpending : pending frameMarks false t = false) (hreads : reads.flatten = rest ++ more)
    (hroom : ∀ read ∈ reads, read.length ≤ readRoom) :
    Run.run (Collector.step before) ⟨[], delivered⟩ reads = none := by
  obtain ⟨c, d, hcontent, rfl⟩ := frameSend_eq_append hsplit ht hrest hpending
  have hlast : d.getLastD before ≠ FRAME_ESCAPE := by
    rcases List.eq_nil_or_concat d with rfl | ⟨front, low, rfl⟩
    · exact hbefore
    · -- the last byte of the content is the upper byte of the checksum
      have hhigh := congrArg List.getLast? hcontent
      rw [withChecksum, List.concat_eq_append, ← List.append_assoc, List.getLast?_concat] at hhigh
      rw [List.concat_eq_append, List.getLastD_concat]
      have hlow : checksumHigh (crcXmodem q) = low := by simpa using hhigh
      exact hlow ▸ hq.2
  have hclose := findClose_stuff_trailer (m := frameMarks) hlast
  have hlen := hq.length_frameSend_le
  rw [hsplit, List.length_append] at hlen
  obtain ⟨init, last, reads', rfl, hshort, hlong⟩ := exists_crossing
    (n := (stuff frameMarks d ++ [FRAME_TRAILER]).length) (by simp)
    (by rw [hreads]; simp)
  have hjoin : init.flatten ++ last ++ reads'.flatten =
      stuff frameMarks d ++ [FRAME_TRAILER] ++ more := by
    rw [← hreads]
    simp
  obtain ⟨dropped, hwhole, _⟩ := exists_append_of_length_le hjoin hlong
  have hrun := run_collect_first before delivered (by omega)
    (by rw [List.length_append, List.length_singleton, Nat.add_sub_cancel]; exact hclose)
    hshort hwhole (hroom last (by simp))
  have hnone : frameNotifyReceived (stuff frameMarks d ++ [FRAME_TRAILER]) = none := by
    have hempty := framed_stuff_trailer (m := frameMarks) d
    rw [frameNotifyReceived_eq_none_iff]
    show (framed frameMarks false false (stuff frameMarks d ++ [frameMarks.trailer])).length %
      256 < 2
    rw [hempty]
    decide
  rw [hnone, Option.map_none] at hrun
  have hreads' : init ++ last :: reads' = init ++ [last] ++ reads' := by simp
  rw [hreads', Run.run_append, hrun, Option.bind_none]

/-! ## Streams of frames -/

theorem pending_frameSend (p : List UInt8) : pending frameMarks false (frameSend p) = false := by
  have hheader : ¬ FRAME_HEADER = frameMarks.escape := frameMarks.header_ne_escape
  have htrailer : ¬ FRAME_TRAILER = frameMarks.escape := frameMarks.trailer_ne_escape
  rw [frameSend_eq, pending, decide_eq_false hheader, pending_append, pending_stuff, pending,
    decide_eq_false htrailer, pending]

theorem pending_frames (ps : List (List UInt8)) (l : List UInt8) :
    pending frameMarks false (joined frameSend ps ++ l) = pending frameMarks false l := by
  induction ps with
  | nil => rfl
  | cons p ps ih =>
    rw [joined_cons, List.append_assoc, pending_append, pending_frameSend]
    exact ih

/-- Reads that bring good frames in groups. -/
theorem run_collect_of_coalesced {reads ps qs : List (List UInt8)}
    (h : Coalesced frameSend reads ps qs) (delivered : List (List UInt8))
    (hps : ∀ p ∈ ps, Receivable p) (hroom : ∀ read ∈ reads, read.length ≤ readRoom) :
    Run.run (Collector.step before) ⟨[], delivered⟩ reads = some ⟨[], delivered ++ qs⟩ := by
  induction h generalizing delivered with
  | nil => simp
  | @group init more rest last p ps qs hshort hwhole _ ih =>
    have hgroup := run_collect_group before delivered (hps p (by simp)) hshort hwhole
      (hroom last (by simp))
    have hreads : init ++ last :: rest = init ++ [last] ++ rest := by simp
    rw [hreads, Run.run_append_of_eq hgroup, ih (delivered ++ [p])
      (fun p hp => hps p (by simp [hp])) (fun read hread => hroom read (by simp [hread])),
      List.append_assoc]
    rfl

/-- If the receiver survives the reads of a stream, they bring it in groups. -/
theorem coalesced_of_run (delivered : List (List UInt8)) (hbefore : before ≠ FRAME_ESCAPE)
    {reads ps : List (List UInt8)} {c : Collector}
    (hps : ∀ p ∈ ps, Receivable p) (hne : ∀ read ∈ reads, read ≠ [])
    (hroom : ∀ read ∈ reads, read.length ≤ readRoom) (hstream : reads.flatten = joined frameSend ps)
    (hpending : ∀ k, pending frameMarks false (reads.take k).flatten = false)
    (hrun : Run.run (Collector.step before) ⟨[], delivered⟩ reads = some c) :
    ∃ qs, c = ⟨[], delivered ++ qs⟩ ∧ Coalesced frameSend reads ps qs := by
  cases ps with
  | nil =>
    cases reads with
    | nil =>
      cases hrun
      exact ⟨[], by simp, .nil⟩
    | cons read reads =>
      refine absurd ?_ (hne read (by simp))
      exact (List.append_eq_nil_iff.mp hstream).1
  | cons p ps =>
    have hp := hps p (by simp)
    have hlong : (frameSend p).length ≤ reads.flatten.length := by
      rw [hstream, joined_cons, List.length_append]
      exact Nat.le_add_right _ _
    obtain ⟨init, last, rest, rfl, hshort, hend⟩ :=
      exists_crossing (List.length_pos_iff.mpr (frameSend_ne_nil p)) hlong
    have hjoin : init.flatten ++ last ++ rest.flatten = frameSend p ++ joined frameSend ps := by
      rw [← joined_cons, ← hstream]
      simp
    obtain ⟨behind, hwhole, hbehind⟩ := exists_append_of_length_le hjoin hend
    have hgroup := run_collect_group before delivered hp hshort hwhole
      (hroom last (by simp))
    have hreads : init ++ last :: rest = init ++ [last] ++ rest := by simp
    rw [hreads, Run.run_append_of_eq hgroup] at hrun
    obtain ⟨whole, ps', part, rfl, rfl, hcut, hinside⟩ := exists_whole_items hbehind.symm
    have hpart_pending : ∀ k, pending frameMarks false (part ++ (rest.take k).flatten) = false := by
      intro k
      have htake := hpending (init.length + 1 + k)
      rw [hreads, ← List.length_singleton (a := last), ← List.length_append,
        List.take_length_add_append, List.flatten_append, List.flatten_append,
        List.flatten_singleton, hwhole, List.append_assoc, List.append_assoc, pending_append,
        pending_frameSend, pending_frames] at htake
      exact htake
    rcases List.eq_nil_or_concat part with rfl | hpart
    · -- the read ends where a frame ends: the rest is a stream again
      obtain ⟨qs, rfl, hrest⟩ := coalesced_of_run (delivered ++ [p]) hbefore
        (fun q hq => hps q (by simp [hq])) (fun read hread => hne read (by simp [hread]))
        (fun read hread => hroom read (by simp [hread])) hcut hpart_pending hrun
      refine ⟨p :: qs, by simp, .group init whole hshort ?_ hrest⟩
      rw [hwhole, List.append_nil]
    · -- the read ends inside a frame, the rest of which comes without its header
      have hpart : part ≠ [] := by
        obtain ⟨front, b, rfl⟩ := hpart
        simp
      obtain ⟨q, ps'', rfl, hshorter⟩ := hinside.resolve_left hpart
      obtain ⟨missing, hq, hmissing⟩ := exists_append_of_length_le hcut.symm (Nat.le_of_lt hshorter)
      have hne_missing : missing ≠ [] := by
        rintro rfl
        rw [hq, List.append_nil] at hshorter
        omega
      have hnone := run_collect_tail before (delivered ++ [p]) hbefore
        (hps q (by simp)) hq hpart hne_missing (by simpa using hpart_pending 0) hmissing
        (fun read hread => hroom read (by simp [hread]))
      rw [hnone] at hrun
      cases hrun
termination_by reads.length

/-- What the receiver delivers of a stream of good frames, in reads that do not
end between an escape and the byte it makes literal: the first frame of every
group, if the reads bring the frames in groups, and otherwise it does not
survive. -/
theorem run_recv_eq_iff_coalesced (hbefore : before ≠ FRAME_ESCAPE)
    (reads ps qs : List (List UInt8)) (hps : ∀ p ∈ ps, Receivable p)
    (hne : ∀ read ∈ reads, read ≠ []) (hroom : ∀ read ∈ reads, read.length ≤ readRoom)
    (hstream : reads.flatten = joined frameSend ps)
    (hpending : ∀ k, pending frameMarks false (reads.take k).flatten = false) :
    (∃ r, Run.run (frameNotifySerialRecv before) Receiver.init (reads.map .bytes) = some r ∧
        r.delivered = qs) ↔
      Coalesced frameSend reads ps qs := by
  have hcollector := @run_recv_init_iff before reads (fun c => c.delivered = qs)
  constructor
  · intro hrun
    obtain ⟨c, hc, hdelivered⟩ := hcollector.mp hrun
    obtain ⟨qs', rfl, hgroups⟩ :=
      coalesced_of_run before [] hbefore hps hne hroom hstream hpending hc
    rw [List.nil_append] at hdelivered
    exact hdelivered ▸ hgroups
  · intro hgroups
    exact hcollector.mpr ⟨_, run_collect_of_coalesced before hgroups [] hps hroom, by simp⟩

/-- Three key presses in three reads: the second read ends the first frame and
brings the second one with it, which is lost. -/
theorem run_recv_eq_iff_coalesced_keys :
    ∃ r, Run.run (frameNotifySerialRecv 0) Receiver.init
        ([[0x01, 0x30, 0x03], [0x10, 0x01, 0xD7, 0x80, 0x04] ++ frameSend [0x30, 0x03, 0x02],
          frameSend [0x30, 0x03, 0x00]].map .bytes) = some r ∧
      r.delivered = [[0x30, 0x03, 0x01], [0x30, 0x03, 0x00]] := by
  refine (run_recv_eq_iff_coalesced 0 (by decide) _
    [[0x30, 0x03, 0x01], [0x30, 0x03, 0x02], [0x30, 0x03, 0x00]] _ (by decide +kernel)
    (by decide +kernel) (by decide +kernel) (by decide +kernel) ?_).mpr ?_
  · intro k
    match k with
    | 0 => rfl
    | 1 => decide +kernel
    | 2 => decide +kernel
    | k + 3 =>
      rw [List.take_of_length_le (by simp)]
      decide +kernel
  · exact .group [[0x01, 0x30, 0x03]] [[0x30, 0x03, 0x02]] (by decide +kernel)
      (by decide +kernel) (.group [] [] (by decide +kernel) (by decide +kernel) .nil)

end K3ScreenCtrl
