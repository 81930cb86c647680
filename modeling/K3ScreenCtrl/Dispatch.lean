import K3ScreenCtrl.Daemon
import K3ScreenCtrl.FrameContent

/-!
# Responses

`frame_handler` of `main.c` stands between the receiver and the daemon: it
looks up the type of a frame in `g_response_handlers` and calls the handler.

The receiver passes a pointer into `frame[]`.  The payload is followed there by
its two checksum bytes and by whatever the array held, so the model gives
`frameHandler` all of it, next to `len`.  `Dispatch` lists the bytes that it
looks at.

The loop over the table tests a pointer that is never null.  Without a match it
goes on behind the last entry, where nothing is defined: `Outcome.pastTable`.

* `robustDispatch_iff` says for which frames this goes well.
* `receiveFrame_eq_step` connects the frames of the two known types to the
  events of the daemon.
-/

namespace K3ScreenCtrl

open ByteStuffing

/-! ## The table -/

/-- The functions in `g_response_handlers`. -/
inductive Handler where
  | handleMcuVersion
  | handleKeyPress
deriving DecidableEq

/-- `RESPONSE_HANDLER`. -/
structure ResponseHandler where
  type : ResponseType
  handler : Handler

def gResponseHandlers : List ResponseHandler :=
  [⟨.mcuVersion, .handleMcuVersion⟩, ⟨.keyPress, .handleKeyPress⟩]

/-- What `frame_handler` does with a frame. -/
inductive Outcome where
  | dropped
  | called (handler : Handler) (payload : List UInt8) (len : Int)
  | pastTable
deriving DecidableEq

/-- The offsets of `frame` that are looked at, and what is done. -/
structure Dispatch where
  reads : List Nat
  outcome : Outcome

/-- The loop of `frame_handler`, with the entries that are left. -/
def searchHandlers (frame : List UInt8) (len : Int) : List ResponseHandler → Dispatch
  | [] => ⟨[], .pastTable⟩
  | handler :: handlers =>
    if handler.type.code = frame.getD 1 0 then
      ⟨[1], .called handler.handler (frame.drop 2) (len - 2)⟩
    else
      let rest := searchHandlers frame len handlers
      ⟨1 :: rest.reads, rest.outcome⟩

/-- `frame_handler`. -/
def frameHandler (frame : List UInt8) (len : Int) : Dispatch :=
  if frame.getD 0 0 ≠ PAYLOAD_HEADER then ⟨[0], .dropped⟩
  else
    let rest := searchHandlers frame len gResponseHandlers
    ⟨0 :: rest.reads, rest.outcome⟩

/-- A call of a handler.  Both return at once if `len` is too small for them,
and read below `len` otherwise. -/
def callHandler (handler : Handler) (now : Int) (payload : List UInt8) (len : Int) (d : Daemon) :
    Option Daemon :=
  match handler with
  | .handleMcuVersion => some (handleMcuVersion (payload.take len.toNat) d)
  | .handleKeyPress => handleKeyPress now (payload.take len.toNat) d

/-- The effect of a frame on the daemon. -/
def receiveFrame (now : Int) (frame : List UInt8) (len : Int) (d : Daemon) : Option Daemon :=
  match (frameHandler frame len).outcome with
  | .dropped => some d
  | .called handler payload len => callHandler handler now payload len d
  | .pastTable => none

/-! ## The search -/

/-- Every round of the search looks at the type byte, and there is a first
round. -/
theorem reads_searchHandlers (frame : List UInt8) (len : Int) (handlers : List ResponseHandler) :
    (∀ k ∈ (searchHandlers frame len handlers).reads, k = 1) ∧
      (handlers ≠ [] → 1 ∈ (searchHandlers frame len handlers).reads) := by
  induction handlers with
  | nil => exact ⟨fun k hk => absurd hk List.not_mem_nil, fun h => absurd rfl h⟩
  | cons handler handlers ih =>
    rw [searchHandlers]
    split
    · exact ⟨fun k hk => List.mem_singleton.mp hk, fun _ => List.mem_singleton.mpr rfl⟩
    · refine ⟨fun k hk => ?_, fun _ => List.mem_cons_self⟩
      rcases List.mem_cons.mp hk with hk | hk
      · exact hk
      · exact ih.1 k hk

/-- The first entry of the type is called. -/
theorem outcome_searchHandlers_of_mem {frame : List UInt8} (len : Int)
    {handlers : List ResponseHandler} (h : ∃ e ∈ handlers, e.type.code = frame.getD 1 0) :
    ∃ e ∈ handlers, e.type.code = frame.getD 1 0 ∧
      (searchHandlers frame len handlers).outcome =
        .called e.handler (frame.drop 2) (len - 2) := by
  induction handlers with
  | nil =>
    obtain ⟨e, he, _⟩ := h
    exact absurd he List.not_mem_nil
  | cons handler handlers ih =>
    rw [searchHandlers]
    by_cases hcode : handler.type.code = frame.getD 1 0
    · rw [if_pos hcode]
      exact ⟨handler, List.mem_cons_self, hcode, rfl⟩
    · rw [if_neg hcode]
      obtain ⟨e, he, heq⟩ := h
      rcases List.mem_cons.mp he with rfl | he
      · exact absurd heq hcode
      · obtain ⟨e', he', hcode', hcalled⟩ := ih ⟨e, he, heq⟩
        exact ⟨e', List.mem_cons_of_mem handler he', hcode', hcalled⟩

/-- Without an entry of the type the search leaves the table. -/
theorem outcome_searchHandlers_of_not_mem {frame : List UInt8} {len : Int}
    {handlers : List ResponseHandler} (h : ∀ e ∈ handlers, e.type.code ≠ frame.getD 1 0) :
    (searchHandlers frame len handlers).outcome = .pastTable := by
  induction handlers with
  | nil => rfl
  | cons handler handlers ih =>
    rw [searchHandlers, if_neg (h handler List.mem_cons_self)]
    exact ih fun e he => h e (List.mem_cons_of_mem handler he)

/-! ## Robust dispatch -/

/-- The payload has a type byte, and the table has an entry for it. -/
def Addressed (q : List UInt8) : Prop :=
  ∃ e ∈ gResponseHandlers, ∃ payload, q = PAYLOAD_HEADER :: e.type.code :: payload

/-- What `frame_handler` is to do with a payload `q` that passed the checksum:
it stays inside the payload and the table, hands a handler what follows the
type byte, and leaves the daemon alone if no entry is meant. -/
structure RobustDispatch (q rest : List UInt8) : Prop where
  reads_lt : ∀ k ∈ (frameHandler (withChecksum q ++ rest) q.length).reads, k < q.length
  inside_table : (frameHandler (withChecksum q ++ rest) q.length).outcome ≠ .pastTable
  called : ∀ handler payload len,
    (frameHandler (withChecksum q ++ rest) q.length).outcome = .called handler payload len →
      len = (q.length : Int) - 2 ∧ 0 ≤ len ∧ payload.take len.toNat = q.drop 2
  dropped : ¬ Addressed q → ∀ now d,
    receiveFrame now (withChecksum q ++ rest) q.length d = some d

/-- A frame with another first byte is dropped. -/
theorem frameHandler_of_ne {frame : List UInt8} (len : Int)
    (h : frame.getD 0 0 ≠ PAYLOAD_HEADER) : frameHandler frame len = ⟨[0], .dropped⟩ :=
  if_pos h

theorem reads_frameHandler_of_eq {frame : List UInt8} (len : Int)
    (h : frame.getD 0 0 = PAYLOAD_HEADER) :
    (∀ k ∈ (frameHandler frame len).reads, k = 0 ∨ k = 1) ∧ 1 ∈ (frameHandler frame len).reads := by
  obtain ⟨hreads, hmem⟩ := reads_searchHandlers frame len gResponseHandlers
  rw [frameHandler, if_neg (not_not.mpr h)]
  refine ⟨fun k hk => ?_, List.mem_cons_of_mem 0 (hmem (List.cons_ne_nil _ _))⟩
  rcases List.mem_cons.mp hk with hk | hk
  · exact Or.inl hk
  · exact Or.inr (hreads k hk)

theorem outcome_frameHandler_of_eq {frame : List UInt8} (len : Int)
    (h : frame.getD 0 0 = PAYLOAD_HEADER) :
    (frameHandler frame len).outcome = (searchHandlers frame len gResponseHandlers).outcome := by
  rw [frameHandler, if_neg (not_not.mpr h)]

/-- What lies behind the two header bytes of a frame. -/
theorem drop_frame (header type : UInt8) (payload rest : List UInt8) :
    ((withChecksum (header :: type :: payload) ++ rest).drop 2).take
        (((header :: type :: payload).length : Int) - 2).toNat = payload := by
  have hlen : (((header :: type :: payload).length : Int) - 2).toNat = payload.length := by
    rw [List.length_cons, List.length_cons]
    omega
  rw [hlen, withChecksum]
  simp

/-- A frame with the payload header and a type of the table. -/
theorem frameHandler_of_addressed {q : List UInt8} (h : Addressed q) (rest : List UInt8) :
    ∃ e ∈ gResponseHandlers, ∃ payload, q = PAYLOAD_HEADER :: e.type.code :: payload ∧
      (frameHandler (withChecksum q ++ rest) q.length).outcome =
        .called e.handler ((withChecksum q ++ rest).drop 2) ((q.length : Int) - 2) := by
  obtain ⟨e, he, payload, hq⟩ := h
  have hheader : (withChecksum q ++ rest).getD 0 0 = PAYLOAD_HEADER := by
    rw [hq]
    rfl
  have htype : (withChecksum q ++ rest).getD 1 0 = e.type.code := by
    rw [hq]
    rfl
  obtain ⟨e', he', hcode, hcalled⟩ :=
    outcome_searchHandlers_of_mem q.length ⟨e, he, htype.symm⟩
  refine ⟨e', he', payload, ?_, ?_⟩
  · rw [hcode, htype]
    exact hq
  · rw [outcome_frameHandler_of_eq _ hheader, hcalled]

/-- The first checksum byte of the empty payload is read as a header. -/
theorem not_robustDispatch_nil (rest : List UInt8) : ¬ RobustDispatch [] rest := by
  intro h
  have hheader : (withChecksum [] ++ rest).getD 0 0 ≠ PAYLOAD_HEADER := by
    show checksumLow 0 ≠ PAYLOAD_HEADER
    decide
  have hreads := h.reads_lt
  rw [frameHandler_of_ne _ hheader] at hreads
  exact absurd (hreads 0 List.mem_cons_self) (Nat.lt_irrefl 0)

/-- A frame with another header is dropped after a look at that byte. -/
theorem robustDispatch_of_ne {header : UInt8} (h : header ≠ PAYLOAD_HEADER)
    (tail rest : List UInt8) : RobustDispatch (header :: tail) rest := by
  have hdrop : frameHandler (withChecksum (header :: tail) ++ rest)
      ((header :: tail).length : Int) = ⟨[0], .dropped⟩ := frameHandler_of_ne _ h
  refine ⟨?_, ?_, ?_, ?_⟩
  · intro k hk
    rw [hdrop] at hk
    have := List.mem_singleton.mp hk
    rw [List.length_cons]
    omega
  · intro hpast
    rw [hdrop] at hpast
    cases hpast
  · intro handler payload len hcalled
    rw [hdrop] at hcalled
    cases hcalled
  · intro _ now d
    rw [receiveFrame, hdrop]

theorem robustDispatch_of_addressed {q : List UInt8} (h : Addressed q) (rest : List UInt8) :
    RobustDispatch q rest := by
  obtain ⟨e, he, payload, rfl, hcalled⟩ := frameHandler_of_addressed h rest
  have hfirst : (withChecksum (PAYLOAD_HEADER :: e.type.code :: payload) ++ rest).getD 0 0 =
      PAYLOAD_HEADER := rfl
  refine ⟨?_, ?_, ?_, fun hno => absurd h hno⟩
  · intro k hk
    have := (reads_frameHandler_of_eq _ hfirst).1 k hk
    rw [List.length_cons, List.length_cons]
    omega
  · intro hpast
    rw [hcalled] at hpast
    cases hpast
  · intro handler payload' len hcalled'
    rw [hcalled] at hcalled'
    cases hcalled'
    refine ⟨rfl, ?_, drop_frame _ _ payload rest⟩
    rw [List.length_cons, List.length_cons]
    omega

/-- With the payload header, the type byte is looked at and has to be in the
table. -/
theorem RobustDispatch.addressed {tail rest : List UInt8}
    (h : RobustDispatch (PAYLOAD_HEADER :: tail) rest) : Addressed (PAYLOAD_HEADER :: tail) := by
  have hfirst : (withChecksum (PAYLOAD_HEADER :: tail) ++ rest).getD 0 0 = PAYLOAD_HEADER := rfl
  have htype := h.reads_lt 1 (reads_frameHandler_of_eq _ hfirst).2
  cases tail with
  | nil => exact absurd htype (Nat.lt_irrefl 1)
  | cons type payload =>
    by_contra hno
    refine h.inside_table ?_
    rw [outcome_frameHandler_of_eq _ hfirst]
    apply outcome_searchHandlers_of_not_mem
    intro e he hcode
    have heq : e.type.code = type := hcode
    exact hno ⟨e, he, payload, by rw [heq]⟩

/-- `frame_handler` is robust exactly on the payloads that start with another
byte than `PAYLOAD_HEADER`, and on those with a type of the table. -/
theorem robustDispatch_iff (q rest : List UInt8) :
    RobustDispatch q rest ↔
      (∃ header tail, q = header :: tail ∧ header ≠ PAYLOAD_HEADER) ∨ Addressed q := by
  constructor
  · intro h
    cases q with
    | nil => exact absurd h (not_robustDispatch_nil rest)
    | cons header tail =>
      by_cases hheader : header = PAYLOAD_HEADER
      · rw [hheader] at h ⊢
        exact Or.inr h.addressed
      · exact Or.inl ⟨header, tail, rfl, hheader⟩
  · intro h
    rcases h with ⟨header, tail, rfl, hne⟩ | haddressed
    · exact robustDispatch_of_ne hne tail rest
    · exact robustDispatch_of_addressed haddressed rest

/-- A response of another type: the search for its handler leaves the table. -/
theorem robustDispatch_counterexample : ¬ ∀ q rest : List UInt8, RobustDispatch q rest := by
  intro hall
  exact (hall [PAYLOAD_HEADER, 0x02] []).inside_table rfl

/-! ## Frames and events -/

/-- The event that a response means. -/
def responseInput (type : ResponseType) (payload : List UInt8) (now : Int) : Input :=
  match type with
  | .mcuVersion => .mcuVersion payload
  | .keyPress => .keyPress payload now

/-- A frame of a known type is the event of that type. -/
theorem receiveFrame_eq_step (cfg : Config) (type : ResponseType) (payload rest : List UInt8)
    (now : Int) {d : Daemon} (hrunning : d.exited = false) :
    receiveFrame now (withChecksum (PAYLOAD_HEADER :: type.code :: payload) ++ rest)
        ((PAYLOAD_HEADER :: type.code :: payload).length : Int) d =
      step cfg d (responseInput type payload now) := by
  have hdrop := drop_frame PAYLOAD_HEADER type.code payload rest
  have hrun : ¬ (d.exited = true) := by
    rw [hrunning]
    decide
  unfold step
  rw [if_neg hrun]
  cases type with
  | mcuVersion =>
    show some (handleMcuVersion (((withChecksum _ ++ rest).drop 2).take _) d) = _
    rw [hdrop]
    rfl
  | keyPress =>
    show handleKeyPress now (((withChecksum _ ++ rest).drop 2).take _) d = _
    rw [hdrop]
    rfl

end K3ScreenCtrl
