import K3ScreenCtrl.Dispatch
import K3ScreenCtrl.Receiver

/-!
# The event loop

`pollin_loop` of `main.c`: wait for one of the two descriptors, and call
`frame_notify_serial_recv` or `signal_notify`.  A frame that the receiver
completes goes to `frame_handler` during the same call.

`Program` is the receiver and the daemon together, and a run of the program
reads one report of `poll` after the other.  What a call meets is part of the
report: the bytes on the line, the byte below the receive buffer, what lies in
`frame[]` behind a frame, the scripts and the clock.

* `runProgram_refines` says that every run of the program is a run of the
  daemon, on the responses in the delivered frames and the signals that were
  read, each in their order.
* `runProgram_of_session` says which run that is when the responses come cut
  into pieces and signals come in between.
-/

namespace K3ScreenCtrl

open ByteStuffing

/-! ## The loop -/

/-- What a call of the receiver meets. -/
structure SerialReady where
  input : SerialInput
  before : UInt8
  rest : List UInt8
  now : Int

/-- What `read` on the signal descriptor answers. -/
inductive SignalRead where
  | failed
  | siginfo (signal : Signal) (env : ScriptEnv) (now : Int)

/-- What `poll` reports: an error, no descriptor in time, or the descriptors
with `POLLIN`. -/
inductive Poll where
  | failed
  | timeout
  | ready (serial : Option SerialReady) (signal : Option SignalRead)

/-- The receiver, the daemon, and whether `pollin_loop` has returned. -/
structure Program where
  receiver : Receiver
  daemon : Daemon
  returned : Bool

/-- The process has ended or is about to. -/
def Program.stopped (p : Program) : Bool := p.returned || p.daemon.exited

/-- `frame_notify_serial_recv` with `frame_handler` as the callback: the frames
that the call delivers are handled, with their checksums behind them. -/
def Program.serialRecv (serial : SerialReady) (p : Program) : Option Program :=
  (frameNotifySerialRecv serial.before p.receiver serial.input).bind fun receiver =>
    let frames := receiver.delivered.drop p.receiver.delivered.length
    (frames.foldlM
        (fun d q => receiveFrame serial.now (withChecksum q ++ serial.rest) q.length d)
        p.daemon).map fun daemon =>
      { p with receiver := receiver, daemon := daemon }

/-- One round of the loop.  The line goes first: a signal that is ready at the
same time waits. -/
def Program.round (cfg : Config) (p : Program) (poll : Poll) : Option Program :=
  if p.stopped then none
  else
    match poll with
    | .failed => some { p with returned := true }
    | .timeout => some p
    | .ready (some serial) _ => p.serialRecv serial
    | .ready none (some (.siginfo signal env now)) =>
      (signalNotify cfg signal env now p.daemon).map fun d => { p with daemon := d }
    | .ready none (some .failed) => some p
    -- only error conditions
    | .ready none none => some p

/-- A run of the program. -/
def runProgram (cfg : Config) (env : ScriptEnv) (start : Int) (polls : List Poll) :
    Option Program :=
  (boot env start).bind fun d => Run.run (Program.round cfg) ⟨Receiver.init, d, false⟩ polls

/-! ## Responses in frames -/

/-- The response in a delivered payload, if it is one that the table knows. -/
def responseOf (q : List UInt8) : Option (ResponseType × List UInt8) :=
  match q with
  | header :: code :: payload =>
    if header = PAYLOAD_HEADER then
      (gResponseHandlers.find? fun e => e.type.code = code).map fun e => (e.type, payload)
    else none
  | _ => none

/-- The content of a payload with a response. -/
theorem eq_of_responseOf {q payload : List UInt8} {type : ResponseType}
    (h : responseOf q = some (type, payload)) : q = PAYLOAD_HEADER :: type.code :: payload := by
  unfold responseOf at h
  split at h
  · next header code payload' =>
    split at h
    · next hheader =>
      obtain ⟨e, he, heq⟩ := Option.map_eq_some_iff.mp h
      have hcode := List.find?_some he
      cases heq
      rw [hheader, ← of_decide_eq_true hcode]
    · cases h
  · cases h

theorem responseOf_response (type : ResponseType) (payload : List UInt8) :
    responseOf (PAYLOAD_HEADER :: type.code :: payload) = some (type, payload) := by
  cases type <;> rfl

/-- A handler that is called with too small a length returns at once. -/
theorem callHandler_of_neg {handler : Handler} {now len : Int} {payload : List UInt8}
    (hlen : len < 0) (d : Daemon) : callHandler handler now payload len d = some d := by
  have hnil : payload.take len.toNat = [] := by
    rw [Int.toNat_of_nonpos (by omega), List.take_zero]
  cases handler with
  | handleMcuVersion =>
    show some (handleMcuVersion (payload.take len.toNat) d) = some d
    rw [hnil]
    rfl
  | handleKeyPress =>
    show handleKeyPress now (payload.take len.toNat) d = some d
    rw [hnil]
    rfl

/-- A frame without a response changes nothing, if it is handled at all.  A
payload that is one header byte long is the odd case: its type is read off the
checksum, and a handler that this finds is called with a length of -1. -/
theorem receiveFrame_of_none {q rest : List UInt8} {now : Int} {d d' : Daemon}
    (hq : responseOf q = none)
    (h : receiveFrame now (withChecksum q ++ rest) q.length d = some d') : d' = d := by
  by_cases hheader : (withChecksum q ++ rest).getD 0 0 = PAYLOAD_HEADER
  · rw [receiveFrame, outcome_frameHandler_of_eq _ hheader] at h
    by_cases hentry : ∃ e ∈ gResponseHandlers, e.type.code = (withChecksum q ++ rest).getD 1 0
    · obtain ⟨e, he, hcode, hcalled⟩ := outcome_searchHandlers_of_mem q.length hentry
      rw [hcalled] at h
      have hshort : (q.length : Int) - 2 < 0 := by
        rcases q with _ | ⟨header, _ | ⟨code, payload⟩⟩
        · show ((0 : Nat) : Int) - 2 < 0
          decide
        · show ((1 : Nat) : Int) - 2 < 0
          decide
        · have hheader' : header = PAYLOAD_HEADER := hheader
          have hcode' : e.type.code = code := hcode
          rw [hheader', ← hcode', responseOf_response] at hq
          cases hq
      dsimp only at h
      rw [callHandler_of_neg hshort d] at h
      exact (Option.some_inj.mp h).symm
    · rw [outcome_searchHandlers_of_not_mem fun e he hcode => hentry ⟨e, he, hcode⟩] at h
      cases h
  · rw [receiveFrame, frameHandler_of_ne _ hheader] at h
    exact (Option.some_inj.mp h).symm

/-- A frame with a response is the event of that response. -/
theorem receiveFrame_of_some (cfg : Config) {q rest payload : List UInt8} {type : ResponseType}
    {now : Int} {d : Daemon} (hrunning : d.exited = false)
    (hq : responseOf q = some (type, payload)) :
    receiveFrame now (withChecksum q ++ rest) q.length d =
      step cfg d (responseInput type payload now) := by
  rw [eq_of_responseOf hq]
  exact receiveFrame_eq_step cfg type payload rest now hrunning

/-! ## Every run is a run of the daemon -/

/-- What a call does with the frame that ends, if one does. -/
theorem recv_cases {before : UInt8} {r r' : Receiver} {input : SerialInput}
    (h : frameNotifySerialRecv before r input = some r') :
    (handedOver before r input = none ∧ r'.delivered = r.delivered) ∨
      ∃ frameBuf, handedOver before r input = some frameBuf ∧
        ((∃ q, lastBlock (framed frameMarks false false frameBuf) = withChecksum q ∧
            r'.delivered = r.delivered ++ [q]) ∨
          (¬ Checks (lastBlock (framed frameMarks false false frameBuf)) ∧
            r'.delivered = r.delivered)) := by
  rw [frameNotifySerialRecv_eq, Option.bind_eq_some_iff] at h
  obtain ⟨⟨buf, pos⟩, _, h⟩ := h
  cases hhanded : handedOver before r input with
  | none =>
    rw [hhanded] at h
    cases h
    exact Or.inl ⟨rfl, rfl⟩
  | some frameBuf =>
    rw [hhanded] at h
    obtain ⟨callbacks, hcallbacks, rfl⟩ := Option.map_eq_some_iff.mp h
    refine Or.inr ⟨frameBuf, rfl, ?_⟩
    obtain ⟨hshort, hgood, hbad⟩ := frameNotifyReceived_spec frameBuf rfl
    by_cases hchecks : Checks (lastBlock (framed frameMarks false false frameBuf))
    · obtain ⟨q, hq⟩ := hchecks
      rw [hgood q hq] at hcallbacks
      cases hcallbacks
      exact Or.inl ⟨q, hq, rfl⟩
    · by_cases hlen : (lastBlock (framed frameMarks false false frameBuf)).length < 2
      · rw [hshort hlen] at hcallbacks
        cases hcallbacks
      · rw [hbad (Nat.not_lt.mp hlen) hchecks] at hcallbacks
        cases hcallbacks
        exact Or.inr ⟨hchecks, List.append_nil _⟩

/-- A call delivers one frame at most. -/
theorem delivered_recv {before : UInt8} {r r' : Receiver} {input : SerialInput}
    (h : frameNotifySerialRecv before r input = some r') :
    r'.delivered = r.delivered ∨ ∃ q, r'.delivered = r.delivered ++ [q] := by
  rcases recv_cases h with ⟨_, hsame⟩ | ⟨_, _, ⟨q, _, hnew⟩ | ⟨_, hsame⟩⟩
  · exact Or.inl hsame
  · exact Or.inr ⟨q, hnew⟩
  · exact Or.inl hsame

/-- A call of the receiver in the loop: the receiver takes its step, and the
daemon handles the frame that this delivers, if any. -/
theorem serialRecv_cases {serial : SerialReady} {p p' : Program}
    (h : p.serialRecv serial = some p') :
    frameNotifySerialRecv serial.before p.receiver serial.input = some p'.receiver ∧
      p'.returned = p.returned ∧
      ((p'.receiver.delivered = p.receiver.delivered ∧ p'.daemon = p.daemon) ∨
        ∃ q, p'.receiver.delivered = p.receiver.delivered ++ [q] ∧
          receiveFrame serial.now (withChecksum q ++ serial.rest) q.length p.daemon =
            some p'.daemon) := by
  obtain ⟨receiver, hrecv, h⟩ := Option.bind_eq_some_iff.mp h
  obtain ⟨daemon, hdaemon, rfl⟩ := Option.map_eq_some_iff.mp h
  refine ⟨hrecv, rfl, ?_⟩
  rcases delivered_recv hrecv with hsame | ⟨q, hnew⟩
  · rw [hsame, List.drop_length, List.foldlM_nil] at hdaemon
    cases hdaemon
    exact Or.inl ⟨hsame, rfl⟩
  · rw [hnew, List.drop_left] at hdaemon
    simp only [List.foldlM_cons, List.foldlM_nil, bind_pure] at hdaemon
    exact Or.inr ⟨q, hnew, hdaemon⟩

/-- What a round does to the receiver. -/
def receiverRound (r : Receiver) : Poll → Option Receiver
  | .ready (some serial) _ => frameNotifySerialRecv serial.before r serial.input
  | _ => some r

/-- The events in a round that takes the receiver from `r` to `r'`: the response
in the frame that it delivers, or the signal that is read. -/
def roundEvents (r : Receiver) (poll : Poll) (r' : Receiver) : List Input :=
  match poll with
  | .ready (some serial) _ =>
    ((r'.delivered.drop r.delivered.length).filterMap responseOf).map fun response =>
      responseInput response.1 response.2 serial.now
  | .ready none (some (.siginfo signal env now)) => [.signal signal env now]
  | _ => []

/-- A round is a step of the receiver, and then the events in it. -/
theorem round_cascade {cfg : Config} {p p' : Program} {poll : Poll}
    (h : Program.round cfg p poll = some p') :
    receiverRound p.receiver poll = some p'.receiver ∧
      Run.run (step cfg) p.daemon (roundEvents p.receiver poll p'.receiver) = some p'.daemon := by
  unfold Program.round at h
  split at h
  · cases h
  · next hrunning =>
    have hexited : p.daemon.exited = false := by
      unfold Program.stopped at hrunning
      simp only [Bool.or_eq_true, not_or, Bool.not_eq_true] at hrunning
      exact hrunning.2
    split at h
    · cases h
      exact ⟨rfl, rfl⟩
    · cases h
      exact ⟨rfl, rfl⟩
    · next serial signal =>
      obtain ⟨hrecv, _, hframe⟩ := serialRecv_cases h
      refine ⟨hrecv, ?_⟩
      rcases hframe with ⟨hsame, hdaemon⟩ | ⟨q, hnew, hframe⟩
      · rw [roundEvents, hsame, List.drop_length, hdaemon]
        rfl
      · rw [roundEvents, hnew, List.drop_left]
        cases hq : responseOf q with
        | none =>
          rw [receiveFrame_of_none hq hframe]
          simp [hq]
        | some response =>
          rw [receiveFrame_of_some cfg hexited hq] at hframe
          simp [hq, hframe]
    · next signal env now =>
      obtain ⟨d, hd, rfl⟩ := Option.map_eq_some_iff.mp h
      refine ⟨rfl, ?_⟩
      rw [roundEvents, Run.run_singleton, step, if_neg (by rw [hexited]; decide)]
      exact hd
    · cases h
      exact ⟨rfl, rfl⟩
    · cases h
      exact ⟨rfl, rfl⟩

/-- A run is a run of the receiver, and a run of the daemon over the events. -/
theorem run_round_cascade {cfg : Config} {polls : List Poll} {p p' : Program}
    (h : Run.run (Program.round cfg) p polls = some p') :
    Run.run receiverRound p.receiver polls = some p'.receiver ∧
      Run.run (step cfg) p.daemon (Run.emitted receiverRound roundEvents p.receiver polls) =
        some p'.daemon :=
  Run.run_cascade (f := Program.receiver) (g := Program.daemon)
    (fun _ _ _ hround => round_cascade hround) h

/-- The events that the rounds pass on to the daemon.  They depend on the
receiver alone. -/
def daemonEvents (polls : List Poll) : List Input :=
  Run.emitted receiverRound roundEvents Receiver.init polls

/-- Every run of the program is a run of the receiver over the rounds, and a run
of the daemon over the responses that this delivers and the signals that the
rounds read, in the order of the rounds. -/
theorem runProgram_refines {cfg : Config} {env : ScriptEnv} {start : Int} {polls : List Poll}
    {p : Program} (h : runProgram cfg env start polls = some p) :
    Run.run receiverRound Receiver.init polls = some p.receiver ∧
      runDaemon cfg env start (daemonEvents polls) = some p.daemon := by
  obtain ⟨d, hboot, hrun⟩ := Option.bind_eq_some_iff.mp h
  obtain ⟨hreceiver, hdaemon⟩ := run_round_cascade hrun
  refine ⟨hreceiver, ?_⟩
  rw [runDaemon, hboot]
  exact hdaemon

/-- A line that becomes readable with the given bytes. -/
def readable (bytes : List UInt8) (now : Int) (waiting : Option SignalRead) : Poll :=
  .ready (some ⟨.bytes bytes, 0, [], now⟩) waiting

/-- A press of the left key in two pieces, with a signal between them. -/
def keyPressPolls : List Poll :=
  [ readable [0x01, 0x30, 0x03, 0x10] 3 none
  , .ready none (some (.siginfo .sigusr1 silentEnv 4))
  , readable [0x01, 0xD7, 0x80, 0x04] 5 (some (.siginfo .sigusr2 silentEnv 5))
  , .timeout ]

theorem runProgram_refines_keyPress :
    ∃ p, runProgram { screenTimeout := 10 } silentEnv 0 keyPressPolls = some p ∧
      Run.run receiverRound Receiver.init keyPressPolls = some p.receiver ∧
      runDaemon { screenTimeout := 10 } silentEnv 0 (daemonEvents keyPressPolls) =
        some p.daemon := by
  have hsome : (runProgram { screenTimeout := 10 } silentEnv 0 keyPressPolls).isSome := by
    decide +kernel
  obtain ⟨p, hp⟩ := Option.isSome_iff_exists.mp hsome
  exact ⟨p, hp, runProgram_refines hp⟩

/-! ## Sessions -/

/-- A response whose frame the receiver can take: it fits, and its checksum does
not end in the escape byte. -/
structure Response where
  type : ResponseType
  payload : List UInt8
  fits : payload.length ≤ 251
  clean : checksumHigh (crcXmodem (PAYLOAD_HEADER :: type.code :: payload)) ≠ FRAME_ESCAPE

def Response.bytes (response : Response) : List UInt8 :=
  PAYLOAD_HEADER :: response.type.code :: response.payload

theorem Response.length_bytes_le (response : Response) : response.bytes.length ≤ 253 := by
  have := response.fits
  simp only [Response.bytes, List.length_cons]
  omega

/-- A round without an event. -/
def Poll.Idle : Poll → Prop
  | .timeout => True
  | .ready none none => True
  | .ready none (some .failed) => True
  | _ => False

/-- What the screen and the system may do while the program runs: send
responses, whose frames arrive in pieces of any size, and signals between any
two pieces.  A signal that is ready together with a piece waits.  The session
can end anywhere; it ends when the process is told to.

`got` are the bytes of a frame that have arrived before. -/
inductive Session : List UInt8 → List Poll → List Input → Prop
  | stop (got : List UInt8) : Session got [] []
  | pollFailed (got : List UInt8) : Session got [.failed] []
  | terminate (got : List UInt8) (env : ScriptEnv) (now : Int) :
    Session got [.ready none (some (.siginfo .sigterm env now))] [.signal .sigterm env now]
  | idle {got : List UInt8} {poll : Poll} {polls : List Poll} {inputs : List Input}
      (hidle : poll.Idle) (rest : Session got polls inputs) : Session got (poll :: polls) inputs
  | signal {got : List UInt8} {polls : List Poll} {inputs : List Input} (signal : Signal)
      (env : ScriptEnv) (now : Int) (hterm : signal ≠ .sigterm)
      (rest : Session got polls inputs) :
    Session got (.ready none (some (.siginfo signal env now)) :: polls)
      (.signal signal env now :: inputs)
  | part {got chunk : List UInt8} {polls : List Poll} {inputs : List Input}
      (tail : List UInt8) (response : Response) (before : UInt8) (mem : List UInt8) (now : Int)
      (waiting : Option SignalRead) (hframe : frameSend response.bytes = got ++ chunk ++ tail)
      (htail : tail ≠ []) (rest : Session (got ++ chunk) polls inputs) :
    Session got (.ready (some ⟨.bytes chunk, before, mem, now⟩) waiting :: polls) inputs
  | last {got chunk : List UInt8} {polls : List Poll} {inputs : List Input}
      (response : Response) (before : UInt8) (mem : List UInt8) (now : Int)
      (waiting : Option SignalRead) (hframe : frameSend response.bytes = got ++ chunk)
      (rest : Session [] polls inputs) :
    Session got (.ready (some ⟨.bytes chunk, before, mem, now⟩) waiting :: polls)
      (responseInput response.type response.payload now :: inputs)

variable {before : UInt8}

/-- Nothing closes a frame before its last byte. -/
theorem findClose_of_part {response : Response} {l tail : List UInt8}
    (hframe : frameSend response.bytes = l ++ tail) (htail : tail ≠ []) :
    findClose frameMarks before l = none := by
  have hclose := @findClose_frameSend before response.bytes
  rw [if_neg (show checksumHigh (crcXmodem response.bytes) ≠ FRAME_ESCAPE from response.clean),
    hframe] at hclose
  have hpos : 0 < tail.length := List.length_pos_iff.mpr htail
  cases hfind : findClose frameMarks before l with
  | none => rfl
  | some k =>
    rw [findClose_append_of_some _ hfind, List.length_append, Option.some_inj] at hclose
    have := findClose_lt hfind
    omega

/-- A piece that does not complete the frame is held. -/
theorem recv_part {r : Receiver} {response : Response} {chunk tail : List UInt8} (h : r.Bounded)
    (hframe : frameSend response.bytes = r.received ++ chunk ++ tail) (htail : tail ≠ []) :
    ∃ r', frameNotifySerialRecv before r (.bytes chunk) = some r' ∧ r'.Bounded ∧
      r'.received = r.received ++ chunk ∧ r'.delivered = r.delivered := by
  obtain ⟨href, hbound⟩ := recv_refines before h chunk
  have hfit := frameSend_fits response.length_bytes_le
  rw [hframe, List.length_append] at hfit
  have hstep : Collector.step before r.collector chunk =
      some ⟨r.received ++ chunk, r.delivered⟩ := by
    have hrun := @run_collect_of_none before [chunk] r.received r.delivered
      (by rw [List.flatten_singleton]; omega)
      (by rw [List.flatten_singleton]; exact findClose_of_part hframe htail)
    rw [Run.run_singleton, List.flatten_singleton] at hrun
    exact hrun
  rw [hstep] at href
  obtain ⟨r', hr', hcollector⟩ := Option.map_eq_some_iff.mp href
  exact ⟨r', hr', hbound r' hr', congrArg Collector.held hcollector,
    congrArg Collector.delivered hcollector⟩

/-- The last piece of a frame delivers it. -/
theorem recv_last {r : Receiver} {response : Response} {chunk : List UInt8} (h : r.Bounded)
    (hframe : frameSend response.bytes = r.received ++ chunk) :
    ∃ r', frameNotifySerialRecv before r (.bytes chunk) = some r' ∧ r'.Bounded ∧
      r'.received = [] ∧ r'.delivered = r.delivered ++ [response.bytes] := by
  obtain ⟨href, hbound⟩ := recv_refines before h chunk
  have hfits := frameSend_fits response.length_bytes_le
  have hclose := @findClose_frameSend before response.bytes
  rw [if_neg (show checksumHigh (crcXmodem response.bytes) ≠ FRAME_ESCAPE from response.clean),
    hframe] at hclose
  have hlt := findClose_lt hclose
  rw [hframe, List.length_append] at hfits
  have hfit : chunk.take (RECV_BUF_SIZE - r.received.length) = chunk :=
    List.take_of_length_le (by omega)
  have hwhole : (r.received ++ chunk).take ((r.received ++ chunk).length - 1 + 1) =
      r.received ++ chunk := List.take_of_length_le (by omega)
  have hstep : Collector.step before r.collector chunk =
      some ⟨[], r.delivered ++ [response.bytes]⟩ := by
    have hheld : r.collector.held = r.received := rfl
    have hdelivered : r.collector.delivered = r.delivered := rfl
    simp only [Collector.step, hheld, hdelivered, hfit, hclose, hwhole]
    rw [← hframe, frameNotifyReceived_frameSend response.length_bytes_le, Option.map_some]
  rw [hstep] at href
  obtain ⟨r', hr', hcollector⟩ := Option.map_eq_some_iff.mp href
  exact ⟨r', hr', hbound r' hr', congrArg Collector.held hcollector,
    congrArg Collector.delivered hcollector⟩

/-- A call of the receiver that delivers nothing. -/
theorem serialRecv_of_same {serial : SerialReady} {p : Program} {r : Receiver}
    (hrecv : frameNotifySerialRecv serial.before p.receiver serial.input = some r)
    (hsame : r.delivered = p.receiver.delivered) :
    p.serialRecv serial = some { p with receiver := r } := by
  rw [Program.serialRecv, hrecv, Option.bind_some]
  simp [hsame]

/-- A call of the receiver that delivers a response. -/
theorem serialRecv_of_response (cfg : Config) {serial : SerialReady} {p : Program} {r : Receiver}
    {response : Response} (hexited : p.daemon.exited = false)
    (hrecv : frameNotifySerialRecv serial.before p.receiver serial.input = some r)
    (hnew : r.delivered = p.receiver.delivered ++ [response.bytes]) :
    p.serialRecv serial =
      (step cfg p.daemon (responseInput response.type response.payload serial.now)).map
        fun d => { p with receiver := r, daemon := d } := by
  rw [Program.serialRecv, hrecv, Option.bind_some, hnew, List.drop_left,
    ← receiveFrame_eq_step cfg response.type response.payload serial.rest serial.now hexited]
  simp only [List.foldlM_cons, List.foldlM_nil, bind_pure]
  rfl

/-- Only the termination signal ends the process. -/
theorem exited_of_step {cfg : Config} {d d' : Daemon} {i : Input}
    (h : step cfg d i = some d') (hterm : ∀ env now, i ≠ .signal .sigterm env now) :
    d'.exited = false := by
  obtain ⟨hrunning, hcases⟩ := step_cases h
  cases hcases with
  | notice signal env now event exited _ _ hexited =>
    have hne : signal ≠ .sigterm := by
      intro heq
      exact hterm env now (by rw [heq])
    exact (hexited hne).trans hrunning
  | _ => exact hrunning

theorem exited_boot {env : ScriptEnv} {start : Int} {d : Daemon} (h : boot env start = some d) :
    d.exited = false := by
  rw [boot_eq] at h
  obtain ⟨payloads, _, rfl⟩ := Option.map_eq_some_iff.mp h
  rfl

theorem responseInput_ne_signal (type : ResponseType) (payload : List UInt8) (now : Int)
    (signal : Signal) (env : ScriptEnv) (now' : Int) :
    responseInput type payload now ≠ .signal signal env now' := by
  cases type <;> exact fun h => by cases h

theorem not_stopped (r : Receiver) {d : Daemon} (hd : d.exited = false) :
    Program.stopped ⟨r, d, false⟩ = false := hd

theorem round_serial (cfg : Config) {p : Program} (hrunning : p.stopped = false)
    (serial : SerialReady) (waiting : Option SignalRead) :
    Program.round cfg p (.ready (some serial) waiting) = p.serialRecv serial := by
  rw [Program.round, if_neg (by rw [hrunning]; decide)]

theorem round_signal (cfg : Config) {p : Program} (hrunning : p.stopped = false)
    (signal : Signal) (env : ScriptEnv) (now : Int) :
    Program.round cfg p (.ready none (some (.siginfo signal env now))) =
      (signalNotify cfg signal env now p.daemon).map fun d => { p with daemon := d } := by
  rw [Program.round, if_neg (by rw [hrunning]; decide)]

theorem round_idle (cfg : Config) {p : Program} (hrunning : p.stopped = false) {poll : Poll}
    (hidle : poll.Idle) : Program.round cfg p poll = some p := by
  unfold Program.round
  rw [if_neg (by rw [hrunning]; decide)]
  unfold Poll.Idle at hidle
  split at hidle <;> first | rfl | exact hidle.elim

/-- A session from a state in which the bytes `got` are held. -/
theorem run_session {cfg : Config} {got : List UInt8} {polls : List Poll} {inputs : List Input}
    (h : Session got polls inputs) :
    ∀ {r : Receiver} {d : Daemon}, r.Bounded → r.received = got → d.exited = false →
      (Run.run (Program.round cfg) ⟨r, d, false⟩ polls).map Program.daemon =
        Run.run (step cfg) d inputs := by
  induction h with
  | stop got => exact fun _ _ _ => rfl
  | pollFailed got =>
    intro r d _ _ hd
    simp [Program.round, Program.stopped, hd]
  | terminate got env now =>
    intro r d _ _ hd
    simp [Program.round, Program.stopped, step, hd, signalNotify]
  | idle hidle rest ih =>
    intro r d hr hgot hd
    rw [Run.run_cons, round_idle cfg (not_stopped r hd) hidle]
    exact ih hr hgot hd
  | signal signal env now hterm rest ih =>
    intro r d hr hgot hd
    have hstep : step cfg d (.signal signal env now) = signalNotify cfg signal env now d :=
      if_neg (by rw [hd]; decide)
    rw [Run.run_cons, Run.run_cons, round_signal cfg (not_stopped r hd), hstep]
    cases hnotify : signalNotify cfg signal env now d with
    | none => rfl
    | some d' =>
      refine ih hr hgot (exited_of_step (hstep.trans hnotify) ?_)
      intro env' now' heq
      cases heq
      exact hterm rfl
  | part tail response before mem now waiting hframe htail rest ih =>
    intro r d hr hgot hd
    subst hgot
    obtain ⟨r', hrecv, hr', hgot', hsame⟩ := recv_part hr hframe htail
    rw [Run.run_cons, round_serial cfg (not_stopped r hd), serialRecv_of_same hrecv hsame]
    exact ih hr' hgot' hd
  | last response before mem now waiting hframe rest ih =>
    intro r d hr hgot hd
    subst hgot
    obtain ⟨r', hrecv, hr', hgot', hnew⟩ := recv_last hr hframe
    rw [Run.run_cons, Run.run_cons, round_serial cfg (not_stopped r hd),
      serialRecv_of_response cfg hd hrecv hnew]
    cases hstep : step cfg d (responseInput response.type response.payload now) with
    | none => rfl
    | some d' =>
      exact ih hr' hgot' (exited_of_step hstep fun env now' =>
        responseInput_ne_signal _ _ _ _ env now')

/-- The program handles a session as its responses and signals, one after the
other: where a frame is cut, which signals come in between, and what was in
memory plays no part. -/
theorem runProgram_of_session {cfg : Config} {env : ScriptEnv} {start : Int} {polls : List Poll}
    {inputs : List Input} (h : Session [] polls inputs) :
    (runProgram cfg env start polls).map Program.daemon = runDaemon cfg env start inputs := by
  unfold runProgram runDaemon
  cases hboot : boot env start with
  | none => rfl
  | some d => exact run_session h Receiver.bounded_init rfl (exited_boot hboot)

/-- The response of the left key. -/
def leftKeyResponse : Response where
  type := .keyPress
  payload := [KEY_LEFT_SHORT]
  fits := by decide
  clean := by decide +kernel

theorem session_keyPress :
    Session [] keyPressPolls
      [.signal .sigusr1 silentEnv 4, .keyPress [KEY_LEFT_SHORT] 5] := by
  refine .part [0x01, 0xD7, 0x80, 0x04] leftKeyResponse 0 [] 3 none
    (by decide +kernel) (by decide) ?_
  refine .signal .sigusr1 silentEnv 4 (by decide) ?_
  refine .last leftKeyResponse 0 [] 5 (some (.siginfo .sigusr2 silentEnv 5))
    (by decide +kernel) ?_
  exact .idle trivial (.stop [])

theorem runProgram_of_session_keyPress :
    (runProgram { screenTimeout := 10 } silentEnv 0 keyPressPolls).map Program.daemon =
      runDaemon { screenTimeout := 10 } silentEnv 0
        [.signal .sigusr1 silentEnv 4, .keyPress [KEY_LEFT_SHORT] 5] :=
  runProgram_of_session session_keyPress

end K3ScreenCtrl
