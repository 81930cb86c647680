import K3ScreenCtrl.EventLoop
import K3ScreenCtrl.FrameContent
import K3ScreenCtrl.Mirror
import K3ScreenCtrl.ReceiverSafety

/-!
# What the line can break

The serial line can take the program out of its memory in four ways: by a trailer
at the start of its buffer, by a frame that decodes to less than two bytes, by a
response of a type that the table does not know, and by a read after one that
failed on an empty buffer.  `runProgram_isSome_iff` says that there is nothing
else, as long as allocations are granted and each script prints a string that
ends in its block.  Then keys, pages, scripts and signals never decide whether
the program survives; the receiver alone tells.
-/

namespace K3ScreenCtrl

open ByteStuffing CString

/-! ## Rounds -/

/-- `frame_handler` drops the frame, or finds its type in the table. -/
def Dispatched (q rest : List UInt8) : Prop :=
  (withChecksum q ++ rest).getD 0 0 = PAYLOAD_HEADER →
    ∃ e ∈ gResponseHandlers, e.type.code = (withChecksum q ++ rest).getD 1 0

/-- The receiver can handle what it meets: it stands inside its buffer, and a
frame that ends decodes to two bytes at least, and is dispatched if its checksum is
right. -/
def SerialReady.Handled (serial : SerialReady) (r : Receiver) : Prop :=
  0 ≤ r.gRecvBufPos ∧
    ∀ frameBuf, handedOver serial.before r serial.input = some frameBuf →
      2 ≤ (framed frameMarks false false frameBuf).length % 256 ∧
        ∀ q, lastBlock (framed frameMarks false false frameBuf) = withChecksum q →
          Dispatched q serial.rest

def Poll.Handled (r : Receiver) : Poll → Prop
  | .ready (some serial) _ => serial.Handled r
  | _ => True

/-- The search for a trailer looks at received bytes only. -/
def SerialReady.LooksInside (serial : SerialReady) (r : Receiver) : Prop :=
  ∀ buf pos, r.afterRead serial.input = some (buf, pos) →
    ∀ k ∈ searchReads serial.before buf.bytes pos.toNat (pos.toNat + 1) 0,
      0 ≤ k ∧ k < (pos.toNat : Int)

def Poll.LooksInside (r : Receiver) : Poll → Prop
  | .ready (some serial) _ => serial.LooksInside r
  | _ => True

instance (serial : SerialReady) (r : Receiver) : Decidable (serial.LooksInside r) :=
  match h : r.afterRead serial.input with
  | none => isTrue fun _ _ hread => (Option.some_ne_none _ (hread.symm.trans h)).elim
  | some (buf, pos) =>
    decidable_of_iff
      (∀ k ∈ searchReads serial.before buf.bytes pos.toNat (pos.toNat + 1) 0,
        0 ≤ k ∧ k < (pos.toNat : Int))
      ⟨fun hall _ _ hread => by cases h.symm.trans hread; exact hall, fun hall => hall buf pos h⟩

instance (r : Receiver) (poll : Poll) : Decidable (poll.LooksInside r) :=
  match poll with
  | .failed => isTrue trivial
  | .timeout => isTrue trivial
  | .ready none _ => isTrue trivial
  | .ready (some serial) _ => inferInstanceAs (Decidable (serial.LooksInside r))

/-- What the receiver meets does no harm: it can be handled, and the buffer does
not start with a trailer then. -/
def SerialReady.Harmless (serial : SerialReady) (r : Receiver) : Prop :=
  serial.Handled r ∧
    ∀ buf pos, r.afterRead serial.input = some (buf, pos) →
      (buf.bytes.take pos.toNat).head? ≠ some FRAME_TRAILER

def Poll.Harmless (r : Receiver) : Poll → Prop
  | .ready (some serial) _ => serial.Harmless r
  | _ => True

/-- Harmless is what can be handled without a look outside. -/
theorem Poll.harmless_iff (r : Receiver) (poll : Poll) :
    poll.Harmless r ↔ poll.Handled r ∧ poll.LooksInside r := by
  have hserial : ∀ serial : SerialReady,
      serial.Harmless r ↔ serial.Handled r ∧ serial.LooksInside r := by
    intro serial
    refine and_congr_right fun _ => forall_congr' fun buf => forall_congr' fun pos =>
      forall_congr' fun _ => ?_
    exact (searchReads_inside_iff serial.before buf.bytes pos.toNat pos.toNat).symm
  cases poll with
  | failed => exact and_self_iff.symm
  | timeout => exact and_self_iff.symm
  | ready serial signal =>
    cases serial with
    | none => exact and_self_iff.symm
    | some serial => exact hserial serial

/-- The round neither ends the program nor meets a refused allocation. -/
def Poll.Allowed : Poll → Prop
  | .failed => False
  | .ready none (some (.siginfo signal env now)) => (Input.signal signal env now).Allowed
  | _ => True

/-! ## The receiver -/

theorem afterRead_isSome_iff {r : Receiver} (hr : r.gRecvBufPos ≤ RECV_BUF_SIZE)
    (input : SerialInput) : (r.afterRead input).isSome ↔ 0 ≤ r.gRecvBufPos := by
  unfold Receiver.afterRead
  by_cases h : 0 ≤ r.gRecvBufPos
  · rw [dif_pos ⟨h, hr⟩]
    cases input <;> exact ⟨fun _ => h, fun _ => rfl⟩
  · rw [dif_neg fun hin => h hin.1]
    constructor
    · intro hnone
      cases hnone
    · intro hin
      exact absurd hin h

theorem afterRead_le {r : Receiver} {input : SerialInput} {buf : CharArray RECV_BUF_SIZE}
    {pos : Int} (h : r.afterRead input = some (buf, pos)) : pos ≤ RECV_BUF_SIZE := by
  unfold Receiver.afterRead at h
  split at h
  · next hin =>
    cases input with
    | error =>
      cases h
      omega
    | bytes pending =>
      cases h
      have htake : (pending.take (RECV_BUF_SIZE - r.gRecvBufPos.toNat)).length ≤
          RECV_BUF_SIZE - r.gRecvBufPos.toNat := by
        rw [List.length_take]
        exact Nat.min_le_left _ _
      omega
  · cases h

/-- The receiver stays below the end of its buffer. -/
theorem recv_le {before : UInt8} {r r' : Receiver} {input : SerialInput}
    (h : frameNotifySerialRecv before r input = some r') : r'.gRecvBufPos ≤ RECV_BUF_SIZE := by
  rw [frameNotifySerialRecv_eq, Option.bind_eq_some_iff] at h
  obtain ⟨⟨buf, pos⟩, hread, h⟩ := h
  dsimp only at h
  split at h
  · cases h
    exact afterRead_le hread
  · obtain ⟨callbacks, _, rfl⟩ := Option.map_eq_some_iff.mp h
    exact Int.natCast_nonneg _

/-- A call survives exactly inside the buffer, and on a frame of two bytes. -/
theorem recv_isSome_iff {r : Receiver} (hr : r.gRecvBufPos ≤ RECV_BUF_SIZE) (before : UInt8)
    (input : SerialInput) :
    (frameNotifySerialRecv before r input).isSome ↔
      0 ≤ r.gRecvBufPos ∧ ∀ frameBuf, handedOver before r input = some frameBuf →
        2 ≤ (framed frameMarks false false frameBuf).length % 256 := by
  have hread := afterRead_isSome_iff hr input
  have hdecodes (frameBuf : List UInt8) : (frameNotifyReceived frameBuf).isSome ↔
      2 ≤ (framed frameMarks false false frameBuf).length % 256 := by
    rw [Option.isSome_iff_ne_none, Ne, frameNotifyReceived_eq_none_iff, Nat.not_lt]
  rw [frameNotifySerialRecv_eq]
  cases hafter : r.afterRead input with
  | none =>
    rw [hafter] at hread
    rw [Option.bind_none]
    constructor
    · intro h
      cases h
    · intro h
      exact absurd (hread.mpr h.1) Bool.false_ne_true
  | some result =>
    rw [hafter] at hread
    rw [Option.bind_some]
    dsimp only
    cases hhanded : handedOver before r input with
    | none =>
      refine ⟨fun _ => ⟨hread.mp rfl, ?_⟩, fun _ => rfl⟩
      intro frameBuf h
      cases h
    | some frameBuf =>
      rw [Option.isSome_map, hdecodes]
      refine ⟨fun h => ⟨hread.mp rfl, fun _ heq => ?_⟩, fun h => h.2 _ rfl⟩
      cases heq
      exact h

/-- A payload can be read off its bytes and checksum. -/
theorem withChecksum_injective {q q' : List UInt8} (h : withChecksum q = withChecksum q') :
    q = q' := by
  have hlen : q.length = q'.length := by
    have := congrArg List.length h
    simp only [withChecksum, List.length_append, List.length_cons, List.length_nil] at this
    omega
  exact (List.append_inj h hlen).1

/-! ## Handlers -/

/-- A daemon in step survives every call of a handler. -/
theorem callHandler_isSome {d : Daemon} (hd : InStep d) (handler : Handler) (now : Int)
    (payload : List UInt8) (len : Int) : (callHandler handler now payload len d).isSome := by
  cases handler with
  | handleMcuVersion => rfl
  | handleKeyPress =>
    obtain ⟨d', hd'⟩ := hd.step_isSome (i := .keyPress (payload.take len.toNat) now) trivial
      { screenTimeout := 0 }
    rw [step, if_neg (by rw [hd.running]; decide)] at hd'
    exact Option.isSome_iff_exists.mpr ⟨d', hd'⟩

/-- A daemon in step survives a frame exactly if it is dispatched. -/
theorem receiveFrame_isSome_iff {d : Daemon} (hd : InStep d) (now : Int) (q rest : List UInt8) :
    (receiveFrame now (withChecksum q ++ rest) q.length d).isSome ↔ Dispatched q rest := by
  unfold Dispatched
  by_cases hheader : (withChecksum q ++ rest).getD 0 0 = PAYLOAD_HEADER
  · rw [receiveFrame, outcome_frameHandler_of_eq _ hheader]
    by_cases hentry : ∃ e ∈ gResponseHandlers, e.type.code = (withChecksum q ++ rest).getD 1 0
    · obtain ⟨e, _, _, hcalled⟩ := outcome_searchHandlers_of_mem q.length hentry
      rw [hcalled]
      exact ⟨fun _ _ => hentry, fun _ => callHandler_isSome hd e.handler now _ _⟩
    · rw [outcome_searchHandlers_of_not_mem fun e he hcode => hentry ⟨e, he, hcode⟩]
      constructor
      · intro h
        cases h
      · intro h
        exact absurd (h hheader) hentry
  · rw [receiveFrame, frameHandler_of_ne _ hheader]
    exact ⟨fun _ h => absurd h hheader, fun _ => rfl⟩

/-! ## The program -/

/-- The program waits in its loop, in step with the screen. -/
structure Program.Waiting (p : Program) : Prop where
  running : p.returned = false
  inStep : InStep p.daemon
  inside : p.receiver.gRecvBufPos ≤ RECV_BUF_SIZE

/-- A call of the receiver in the loop goes well exactly if its input can be
handled. -/
theorem serialRecv_isSome_iff {p : Program} (hp : p.Waiting) (serial : SerialReady) :
    (p.serialRecv serial).isSome ↔ serial.Handled p.receiver := by
  have hrecv := recv_isSome_iff hp.inside serial.before serial.input
  rw [Program.serialRecv, SerialReady.Handled]
  cases hcall : frameNotifySerialRecv serial.before p.receiver serial.input with
  | none =>
    rw [hcall] at hrecv
    rw [Option.bind_none]
    constructor
    · intro h
      cases h
    · intro h
      have hsome := hrecv.mpr ⟨h.1, fun frameBuf hframe => (h.2 frameBuf hframe).1⟩
      cases hsome
  | some r =>
    rw [hcall] at hrecv
    obtain ⟨hinside, hlong⟩ := hrecv.mp rfl
    rw [Option.bind_some, Option.isSome_map]
    rcases recv_cases hcall with ⟨hnone, hsame⟩ | ⟨frameBuf, hframe, hwhole⟩
    · rw [hsame, List.drop_length, hnone]
      refine ⟨fun _ => ⟨hinside, ?_⟩, fun _ => rfl⟩
      intro frameBuf h
      cases h
    · rw [hframe]
      rcases hwhole with ⟨q, hq, hnew⟩ | ⟨hbad, hsame⟩
      · rw [hnew, List.drop_left]
        simp only [List.foldlM_cons, List.foldlM_nil, bind_pure]
        rw [receiveFrame_isSome_iff hp.inStep]
        constructor
        · intro h
          refine ⟨hinside, fun frameBuf' heq => ⟨hlong frameBuf' (hframe.trans heq), ?_⟩⟩
          cases heq
          intro q' hq'
          rw [← withChecksum_injective (hq.symm.trans hq')]
          exact h
        · exact fun h => (h.2 frameBuf rfl).2 q hq
      · rw [hsame, List.drop_length]
        refine ⟨fun _ => ⟨hinside, fun frameBuf' heq => ?_⟩, fun _ => rfl⟩
        refine ⟨hlong frameBuf' (hframe.trans heq), fun q hq => ?_⟩
        cases heq
        exact absurd ⟨q, hq⟩ hbad

theorem Program.Waiting.not_stopped {p : Program} (hp : p.Waiting) : p.stopped = false := by
  rw [Program.stopped, hp.running, hp.inStep.running]
  rfl

/-- A round goes well exactly if what it meets on the line can be handled. -/
theorem round_isSome_iff (cfg : Config) {p : Program} {poll : Poll} (hp : p.Waiting)
    (hpoll : poll.Allowed) :
    (Program.round cfg p poll).isSome ↔ poll.Handled p.receiver := by
  cases poll with
  | failed => exact hpoll.elim
  | timeout =>
    have hidle : Poll.Idle .timeout := trivial
    rw [round_idle cfg hp.not_stopped hidle]
    exact ⟨fun _ => trivial, fun _ => rfl⟩
  | ready serial signal =>
    cases serial with
    | some serial =>
      rw [round_serial cfg hp.not_stopped]
      exact serialRecv_isSome_iff hp serial
    | none =>
      refine ⟨fun _ => trivial, fun _ => ?_⟩
      cases signal with
      | none =>
        have hidle : Poll.Idle (.ready none none) := trivial
        rw [round_idle cfg hp.not_stopped hidle]
        rfl
      | some read =>
        cases read with
        | failed =>
          have hidle : Poll.Idle (.ready none (some .failed)) := trivial
          rw [round_idle cfg hp.not_stopped hidle]
          rfl
        | siginfo signal env now =>
          obtain ⟨d, hd⟩ := hp.inStep.step_isSome (i := .signal signal env now) hpoll cfg
          rw [step, if_neg (by rw [hp.inStep.running]; decide)] at hd
          have hnotify : signalNotify cfg signal env now p.daemon = some d := hd
          rw [round_signal cfg hp.not_stopped, hnotify]
          rfl

/-- The events in an allowed round are allowed. -/
theorem roundEvents_allowed {poll : Poll} (hpoll : poll.Allowed) (r r' : Receiver) :
    ∀ i ∈ roundEvents r poll r', i.Allowed := by
  intro i hi
  unfold roundEvents at hi
  split at hi
  · obtain ⟨⟨type, payload⟩, _, rfl⟩ := List.mem_map.mp hi
    cases type <;> trivial
  · rw [List.mem_singleton.mp hi]
    exact hpoll
  · cases hi

/-- An allowed round that goes well is a step of the receiver, and the program
waits again. -/
theorem Program.Waiting.round {cfg : Config} {p p' : Program} {poll : Poll} (hp : p.Waiting)
    (hpoll : poll.Allowed) (h : Program.round cfg p poll = some p') :
    receiverRound p.receiver poll = some p'.receiver ∧ p'.Waiting := by
  obtain ⟨hreceiver, hdaemon⟩ := round_cascade h
  refine ⟨hreceiver, ?_, ?_, ?_⟩
  · unfold Program.round at h
    rw [if_neg (by rw [hp.not_stopped]; decide)] at h
    split at h
    · exact hpoll.elim
    · cases h
      exact hp.running
    · exact (serialRecv_cases h).2.1.trans hp.running
    · obtain ⟨d, _, rfl⟩ := Option.map_eq_some_iff.mp h
      exact hp.running
    · cases h
      exact hp.running
    · cases h
      exact hp.running
  · exact Run.run_invariant_of_forall (fun _ _ _ hd hi hstep => hd.step hi hstep)
      (roundEvents_allowed hpoll p.receiver p'.receiver) hp.inStep hdaemon
  · unfold receiverRound at hreceiver
    split at hreceiver
    · exact recv_le hreceiver
    · rw [← Option.some_inj.mp hreceiver]
      exact hp.inside

/-- Whether the program gets to the end of a run, with no look outside of what it
has received, is decided by the receiver alone: it does exactly if each round finds
the receiver inside its buffer, the buffer starts with another byte than a trailer,
and each frame that ends decodes to two bytes at least and, with a right checksum,
is dropped or found in the table. -/
theorem runProgram_isSome_iff (cfg : Config) {env : ScriptEnv} (halloc : env.hostBlock.isSome)
    (start : Int) {polls : List Poll} (hpolls : ∀ poll ∈ polls, poll.Allowed) :
    ((runProgram cfg env start polls).isSome ∧
        Run.Meets receiverRound (fun r poll => poll.LooksInside r) Receiver.init polls) ↔
      Run.Meets receiverRound (fun r poll => poll.Harmless r) Receiver.init polls := by
  obtain ⟨d, hboot, hd⟩ := inStep_boot halloc start
  have hsome : (runProgram cfg env start polls).isSome ↔
      Run.Meets receiverRound (fun r poll => poll.Handled r) Receiver.init polls := by
    rw [runProgram, hboot, Option.bind_some]
    exact Run.run_isSome_iff (f := Program.receiver)
      (fun _ _ hp hpoll => round_isSome_iff cfg hp hpoll)
      (fun _ _ _ hp hpoll hround => hp.round hpoll hround) hpolls
      ⟨rfl, hd, Int.natCast_nonneg _⟩
  rw [hsome, ← Run.meets_and]
  exact Run.meets_iff (I := fun _ => True) (fun r poll _ => (poll.harmless_iff r).symm)
    (fun _ _ _ _ _ _ => trivial) trivial

theorem keyPressPolls_allowed : ∀ poll ∈ keyPressPolls, poll.Allowed := by
  simp [keyPressPolls, readable, Poll.Allowed, Input.Allowed]

theorem runProgram_isSome_iff_keyPress :
    Run.Meets receiverRound (fun r poll => poll.Harmless r) Receiver.init keyPressPolls := by
  have halloc : grantedEnv.hostBlock.isSome := rfl
  refine (runProgram_isSome_iff { screenTimeout := 10 } halloc 0 keyPressPolls_allowed).mp
    ⟨?_, ?_⟩
  · decide +kernel
  · decide +kernel

end K3ScreenCtrl
