import Mathlib.Algebra.Order.BigOperators.Group.List
import Mathlib.Algebra.Order.Ring.Nat
import K3ScreenCtrl.Startup

/-!
# From start to exit

`main` with the descriptors that it holds: the pipes of the scripts, the set-up of
the screen, the serial port and the signals, the end of the event loop, and
`cleanup`.  `main_descriptors` follows every descriptor from the command line to the
exit: what is closed, and what is still open at the end.  Nothing that the program
did not open is ever closed, each pipe is closed by its own `pclose`, the serial port
is closed if it was opened, and the one `close` that hits no descriptor is that of
`cleanup` when `serial_setup` has not left an open port behind.  The files below
`/sys/class/gpio` stay open, because `write_file_int` and `write_file_str` do not
close theirs.

The socket that the C library may open for `syslog` is not among them.
-/

namespace K3ScreenCtrl

open Syscall

/-! ## `scripts.c` -/

/-- `script_get_output`, for the script of a page: what it does with its pipe. -/
def scriptPipe (page : Page) : Sys Unit := do
  let fp ← call (.popen page)
  if fp = -1 then
    return ()
  else
    let _ ← call (.pclose fp)
    return ()

/-- The scripts of some pages, one after the other. -/
def scriptPipes : List Page → Sys Unit
  | [] => return ()
  | page :: pages => do
    scriptPipe page
    scriptPipes pages

/-! ## `serial_port.c` and `signals.c` -/

/-- `serial_close`, on `g_serial_fd`. -/
def serialClose (gSerialFd : Int) : Sys Unit := do
  let _ ← call (.close gSerialFd)
  return ()

/-- `serial_setup`: its answer, and what it leaves in `g_serial_fd`. -/
def serialSetup : Sys (Int × Int) := do
  let gSerialFd ← call (.openFile .serialPort)
  if gSerialFd = -1 then
    return (-1, gSerialFd)
  else
    let attrs ← call (.tcgetattr gSerialFd)
    if attrs ≠ 0 then
      serialClose gSerialFd
      return (-1, gSerialFd)
    else
      let _ ← call (.tcflush gSerialFd)
      let ret ← call (.tcsetattr gSerialFd)
      if ret ≠ 0 then
        serialClose gSerialFd
        return (-1, gSerialFd)
      else
        return (gSerialFd, gSerialFd)

/-- `signal_setup`.  That the signals could not be blocked is only reported. -/
def signalSetup : Sys Int := do
  let _ ← call .sigprocmask
  call .signalfd

/-! ## `main` -/

def EIO : Int := 5

/-- How the set-up in `main` ends: with an exit code, or in `pollin_loop`. -/
inductive MainEnd where
  | returned (code : Int)
  | polling (serialFd signalFd : Int)
deriving DecidableEq, Repr

/-- `main` behind the command line and the first update, up to the loop, and what
is then in `g_serial_fd`. -/
def mainSetup (testMode skipReset : Int) : Sys (MainEnd × Int) := do
  if testMode ≠ 0 then
    return (.returned 0, -1)
  else
    let screen ← screenInitialize skipReset
    if screen = FAILURE then
      return (.returned (- EIO), -1)
    else
      let serial ← serialSetup
      if serial.1 < 0 then
        return (.returned (- EIO), serial.2)
      else
        let signalFd ← signalSetup
        if signalFd < 0 then
          return (.returned (- EIO), serial.2)
        else
          return (.polling serial.1 signalFd, serial.2)

/-- How `pollin_loop` ends: `poll` fails, or `SIGTERM` is read. -/
inductive LoopEnd where
  | pollFailed
  | terminated
deriving DecidableEq, Repr

/-- The exit code behind the loop. -/
def LoopEnd.code : LoopEnd → Int
  -- `main` falls off its end
  | .pollFailed => 0
  -- `exit(0)`
  | .terminated => 0

/-- The whole process behind the command line, with how `main` left its set-up and
the exit code.  In the loop the scripts of the pages in `ticked` run, and it opens
nothing else.  At the exit `cleanup` runs. -/
def mainProcess (parsed : Parsed) (ticked : List Page) (loopEnd : LoopEnd) :
    Sys (MainEnd × Int) :=
  match parsed with
  | .exited _ => do
    -- `config_show_help`, before there is a serial port
    serialClose (-1)
    return (.returned 1, 1)
  | .running s => do
    scriptPipes [.basicInfo, .ports, .wan, .wifi, .hosts]
    let setup ← mainSetup s.gConfig.testMode s.gConfig.skipReset
    match setup.1 with
    | .returned code =>
      serialClose setup.2
      return (setup.1, code)
    | .polling _ _ =>
      scriptPipes ticked
      serialClose setup.2
      return (setup.1, loopEnd.code)

/-! ## Descriptors -/

/-- What a descriptor is open to. -/
inductive OpenFile where
  /-- It was open before the program started. -/
  | inherited
  | path (path : Path)
  | signals
  | pipe (page : Page)
deriving DecidableEq, Repr

/-- What the program does not mean to close. -/
def OpenFile.Kept : OpenFile → Prop
  | .inherited => True
  | .path (.gpioDirection _) => True
  | .path (.gpioValue _) => True
  | .path .gpioExport => True
  | .path _ => False
  | .signals => True
  | .pipe _ => False

/-- A `close` that hits no pipe. -/
def besidePipes : Option OpenFile → Bool
  | some (.pipe _) => false
  | _ => true

/-- The descriptors of the process, and what each `close` and each `pclose` so far
has hit. -/
structure Descriptors where
  table : Int → Option OpenFile
  closed : List (Option OpenFile)

/-- The descriptors at the start. -/
def Descriptors.initial (inherited : Nat → Bool) : Descriptors where
  table
    | .ofNat fd => if inherited fd then some .inherited else none
    | .negSucc _ => none
  closed := []

def Descriptors.opened (t : Descriptors) (fd : Int) (file : OpenFile) : Descriptors :=
  { t with table := Function.update t.table fd (some file) }

/-- The descriptors behind a `close`. -/
def Descriptors.closeOf (t : Descriptors) (fd : Int) : Descriptors where
  table := Function.update t.table fd none
  closed := t.closed ++ [t.table fd]

/-- The descriptors behind a call. -/
def Descriptors.see (t : Descriptors) : SysCall × Int → Descriptors
  | (.openFile path, fd) => if fd = -1 then t else t.opened fd (.path path)
  | (.signalfd, fd) => if fd = -1 then t else t.opened fd .signals
  | (.popen page, fd) => if fd = -1 then t else t.opened fd (.pipe page)
  | (.close fd, _) => t.closeOf fd
  | (.pclose fd, _) => t.closeOf fd
  | _ => t

/-- A kernel that hands out descriptors which are not in use, or answers -1. -/
structure HandsOut (kernel : Kernel SysCall Int) (inherited : Nat → Bool) : Prop where
  openFile : ∀ trace path, kernel trace (.openFile path) = -1 ∨
    0 ≤ kernel trace (.openFile path) ∧
      (trace.foldl Descriptors.see (.initial inherited)).table (kernel trace (.openFile path)) =
        none
  signalfd : ∀ trace, kernel trace .signalfd = -1 ∨
    0 ≤ kernel trace .signalfd ∧
      (trace.foldl Descriptors.see (.initial inherited)).table (kernel trace .signalfd) = none
  popen : ∀ trace page, kernel trace (.popen page) = -1 ∨
    0 ≤ kernel trace (.popen page) ∧
      (trace.foldl Descriptors.see (.initial inherited)).table (kernel trace (.popen page)) = none

/-- Besides pipes, the program has closed these files so far, and it has to close
these descriptors.  All others are not meant to be closed. -/
structure Descriptors.Holds (inherited : Nat → Bool) (closed : List (Option OpenFile))
    (owned : List (Int × OpenFile)) (t : Descriptors) : Prop where
  closed_eq : t.closed.filter besidePipes = closed
  keeps : ∀ fd : Nat, inherited fd = true → t.table fd = some .inherited
  owns : ∀ p ∈ owned, t.table p.1 = some p.2
  rest : ∀ fd file, t.table fd = some file → (fd, file) ∈ owned ∨ file.Kept
  nonneg : ∀ fd file, t.table fd = some file → 0 ≤ fd

namespace Descriptors

variable {inherited : Nat → Bool} {closed : List (Option OpenFile)}
  {owned : List (Int × OpenFile)} {t : Descriptors}

theorem Holds.initial (inherited : Nat → Bool) :
    (Descriptors.initial inherited).Holds inherited [] [] where
  closed_eq := rfl
  keeps fd h := if_pos h
  owns p hp := absurd hp List.not_mem_nil
  rest fd file h := by
    cases fd with
    | ofNat fd =>
      replace h : (if inherited fd then some OpenFile.inherited else none) = some file := h
      split at h
      · cases h
        exact Or.inr trivial
      · cases h
    | negSucc fd => cases h
  nonneg fd file h := by
    cases fd with
    | ofNat fd => exact Int.natCast_nonneg fd
    | negSucc fd => cases h

/-- A descriptor that was not in use. -/
theorem Holds.opened (h : t.Holds inherited closed owned) {fd : Int} {file : OpenFile}
    (hfree : t.table fd = none) (hfd : 0 ≤ fd) :
    (t.opened fd file).Holds inherited closed ((fd, file) :: owned) where
  closed_eq := h.closed_eq
  keeps n hn := by
    have hne : (n : Int) ≠ fd := by
      rintro rfl
      rw [h.keeps n hn] at hfree
      cases hfree
    exact (Function.update_of_ne hne _ _).trans (h.keeps n hn)
  owns p hp := by
    rcases List.mem_cons.mp hp with rfl | howned
    · exact Function.update_self _ _ _
    · have hne : p.1 ≠ fd := by
        rintro rfl
        rw [h.owns p howned] at hfree
        cases hfree
      exact (Function.update_of_ne hne _ _).trans (h.owns p howned)
  rest fd' file' h' := by
    by_cases heq : fd' = fd
    · subst heq
      have hfile := (Function.update_self _ _ _).symm.trans h'
      cases hfile
      exact Or.inl List.mem_cons_self
    · have hold := (Function.update_of_ne heq _ _).symm.trans h'
      exact (h.rest fd' file' hold).imp_left (List.mem_cons_of_mem _)
  nonneg fd' file' h' := by
    by_cases heq : fd' = fd
    · exact heq ▸ hfd
    · exact h.nonneg fd' file' ((Function.update_of_ne heq _ _).symm.trans h')

/-- A file that is not meant to be closed need not be remembered. -/
theorem Holds.keep {fd : Int} {file : OpenFile}
    (h : t.Holds inherited closed ((fd, file) :: owned)) (hkept : file.Kept) :
    t.Holds inherited closed owned where
  closed_eq := h.closed_eq
  keeps := h.keeps
  owns p hp := h.owns p (List.mem_cons_of_mem _ hp)
  rest fd' file' h' := by
    rcases h.rest fd' file' h' with hmem | hkept'
    · rcases List.mem_cons.mp hmem with heq | hmem
      · cases heq
        exact Or.inr hkept
      · exact Or.inl hmem
    · exact Or.inr hkept'
  nonneg := h.nonneg

theorem table_closeOf (t : Descriptors) (fd : Int) : (t.closeOf fd).table fd = none :=
  Function.update_self _ _ _

/-- A descriptor that has to be closed. -/
theorem Holds.closeOf {fd : Int} {file : OpenFile}
    (h : t.Holds inherited closed ((fd, file) :: owned)) (hfile : file ≠ .inherited)
    (howned : ∀ p ∈ owned, p.2 ≠ file) :
    (t.closeOf fd).Holds inherited (closed ++ [some file].filter besidePipes) owned where
  closed_eq := by
    show (t.closed ++ [t.table fd]).filter besidePipes = _
    rw [List.filter_append, h.closed_eq, h.owns _ List.mem_cons_self]
  keeps n hn := by
    have hne : (n : Int) ≠ fd := by
      rintro rfl
      have hown := h.owns _ List.mem_cons_self
      rw [h.keeps n hn] at hown
      exact hfile (Option.some_inj.mp hown).symm
    exact (Function.update_of_ne hne _ _).trans (h.keeps n hn)
  owns p hp := by
    have hown := h.owns p (List.mem_cons_of_mem _ hp)
    have hne : p.1 ≠ fd := by
      intro heq
      rw [heq, h.owns _ List.mem_cons_self] at hown
      exact howned p hp (Option.some_inj.mp hown).symm
    exact (Function.update_of_ne hne _ _).trans hown
  rest fd' file' h' := by
    have hne : fd' ≠ fd := by
      rintro rfl
      rw [table_closeOf] at h'
      cases h'
    rcases h.rest fd' file' ((Function.update_of_ne hne _ _).symm.trans h') with hmem | hkept
    · rcases List.mem_cons.mp hmem with heq | hmem
      · cases heq
        exact absurd rfl hne
      · exact Or.inl hmem
    · exact Or.inr hkept
  nonneg fd' file' h' := by
    have hne : fd' ≠ fd := by
      rintro rfl
      rw [table_closeOf] at h'
      cases h'
    exact h.nonneg fd' file' ((Function.update_of_ne hne _ _).symm.trans h')

/-- A `close` of nothing changes nothing. -/
theorem Holds.closeOf_none {fd : Int} (h : t.Holds inherited closed owned)
    (hfree : t.table fd = none) : (t.closeOf fd).Holds inherited (closed ++ [none]) owned := by
  have htable : (t.closeOf fd).table = t.table := by
    show Function.update t.table fd none = t.table
    rw [← hfree, Function.update_eq_self]
  constructor
  · show (t.closed ++ [t.table fd]).filter besidePipes = _
    rw [List.filter_append, h.closed_eq, hfree]
    rfl
  · rw [htable]
    exact h.keeps
  · rw [htable]
    exact h.owns
  · rw [htable]
    exact h.rest
  · rw [htable]
    exact h.nonneg

end Descriptors

/-! ## What each part does to the descriptors -/

section

variable {kernel : Kernel SysCall Int} {inherited : Nat → Bool}
  {closed : List (Option OpenFile)} {owned : List (Int × OpenFile)}

/-- An open file that has to be closed. -/
theorem triple_openOwned (hkernel : HandsOut kernel inherited) (path : Path) :
    Triple kernel Descriptors.see (.initial inherited)
      (Descriptors.Holds inherited closed owned) (call (.openFile path)) fun fd t =>
        if fd = -1 then t.Holds inherited closed owned
        else 0 ≤ fd ∧ t.Holds inherited closed ((fd, .path path) :: owned) := by
  refine Triple.call_of_answer fun trace ht => ?_
  rcases hkernel.openFile trace path with hfailed | ⟨hfd, hfree⟩
  · rw [if_pos hfailed, Descriptors.see, if_pos hfailed]
    exact ht
  · have hne : kernel trace (.openFile path) ≠ -1 := by omega
    rw [if_neg hne, Descriptors.see, if_neg hne]
    exact ⟨hfd, ht.opened hfree hfd⟩

/-- An open file that stays open. -/
theorem triple_openKept (hkernel : HandsOut kernel inherited) {path : Path}
    (hkept : (OpenFile.path path).Kept) :
    Triple kernel Descriptors.see (.initial inherited)
      (Descriptors.Holds inherited closed owned) (call (.openFile path))
      fun _ => Descriptors.Holds inherited closed owned := by
  refine (triple_openOwned hkernel path).post fun fd t ht => ?_
  split at ht
  · exact ht
  · exact ht.2.keep hkept

theorem triple_signalSetup (hkernel : HandsOut kernel inherited) :
    Triple kernel Descriptors.see (.initial inherited)
      (Descriptors.Holds inherited closed owned) signalSetup fun fd t =>
        t.Holds inherited closed owned ∧ (¬ fd < 0 → t.table fd = some .signals) := by
  refine (Triple.call_silent fun _ _ => rfl).bind fun _ => Triple.call_of_answer fun trace ht => ?_
  rcases hkernel.signalfd trace with hfailed | ⟨hfd, hfree⟩
  · rw [Descriptors.see, if_pos hfailed]
    exact ⟨ht, fun hfd => absurd hfd (by omega)⟩
  · rw [Descriptors.see, if_neg (show kernel trace .signalfd ≠ -1 by omega)]
    exact ⟨(ht.opened hfree hfd).keep trivial, fun _ => Function.update_self _ _ _⟩

theorem triple_close {fd : Int} {path : Path} :
    Triple kernel Descriptors.see (.initial inherited)
      (Descriptors.Holds inherited closed [(fd, .path path)]) (call (.close fd))
      fun _ t => t.Holds inherited (closed ++ [some (.path path)]) [] ∧ t.table fd = none :=
  Triple.call fun t _ ht =>
    ⟨ht.closeOf (fun h => by cases h) fun _ h => absurd h List.not_mem_nil, t.table_closeOf fd⟩

theorem triple_close_none {fd : Int} :
    Triple kernel Descriptors.see (.initial inherited)
      (fun t => t.Holds inherited closed owned ∧ t.table fd = none) (call (.close fd))
      fun _ => Descriptors.Holds inherited (closed ++ [none]) owned :=
  Triple.call fun _ _ ht => ht.1.closeOf_none ht.2

/-- A script leaves no pipe behind. -/
theorem triple_scriptPipe (hkernel : HandsOut kernel inherited)
    (howned : ∀ p ∈ owned, ∀ page, p.2 ≠ .pipe page) (page : Page) :
    Triple kernel Descriptors.see (.initial inherited)
      (Descriptors.Holds inherited closed owned) (scriptPipe page)
      fun _ => Descriptors.Holds inherited closed owned := by
  have hopen : Triple kernel Descriptors.see (.initial inherited)
      (Descriptors.Holds inherited closed owned) (call (.popen page)) fun fp t =>
        if fp = -1 then t.Holds inherited closed owned
        else t.Holds inherited closed ((fp, .pipe page) :: owned) := by
    refine Triple.call_of_answer fun trace ht => ?_
    rcases hkernel.popen trace page with hfailed | ⟨hfp, hfree⟩
    · rw [if_pos hfailed, Descriptors.see, if_pos hfailed]
      exact ht
    · have hne : kernel trace (.popen page) ≠ -1 := by omega
      rw [if_neg hne, Descriptors.see, if_neg hne]
      exact ht.opened hfree hfp
  have hclose : ∀ fp, Triple kernel Descriptors.see (.initial inherited)
      (Descriptors.Holds inherited closed ((fp, .pipe page) :: owned)) (call (.pclose fp))
      fun _ => Descriptors.Holds inherited closed owned := by
    refine fun fp => Triple.call fun t _ ht => ?_
    have hclosed := ht.closeOf (fun h => by cases h) fun p hp => howned p hp page
    rwa [show [some (OpenFile.pipe page)].filter besidePipes = [] from rfl,
      List.append_nil] at hclosed
  refine hopen.bind fun fp => Triple.ite ?_ ?_
  · intro hfailed
    simp only [if_pos hfailed]
    exact Triple.pure fun _ ht => ht
  · intro hfp
    simp only [if_neg hfp]
    exact (hclose fp).bind fun _ => Triple.pure fun _ ht => ht

theorem triple_scriptPipes (hkernel : HandsOut kernel inherited)
    (howned : ∀ p ∈ owned, ∀ page, p.2 ≠ .pipe page) (pages : List Page) :
    Triple kernel Descriptors.see (.initial inherited)
      (Descriptors.Holds inherited closed owned) (scriptPipes pages)
      fun _ => Descriptors.Holds inherited closed owned := by
  induction pages with
  | nil => exact Triple.pure fun _ ht => ht
  | cons page pages ih => exact (triple_scriptPipe hkernel howned page).bind fun _ => ih

/-- A write below `/sys/class/gpio` leaves its descriptor open. -/
theorem triple_writeFile_kept (hkernel : HandsOut kernel inherited) {file : Path} {text : Text}
    (hkept : (OpenFile.path file).Kept) :
    Triple kernel Descriptors.see (.initial inherited)
      (Descriptors.Holds inherited closed owned) (writeFile file text)
      fun _ => Descriptors.Holds inherited closed owned := by
  refine (triple_openKept hkernel hkept).bind fun fd => ?_
  refine Triple.ite (fun _ => Triple.pure fun _ ht => ht) fun _ => ?_
  refine (Triple.call_silent fun _ _ => rfl).bind fun ret => ?_
  exact Triple.ite (fun _ => Triple.pure fun _ ht => ht) fun _ => Triple.pure fun _ ht => ht

theorem triple_gpioExport_kept (hkernel : HandsOut kernel inherited) (gpio : Int) :
    Triple kernel Descriptors.see (.initial inherited)
      (Descriptors.Holds inherited closed owned) (gpioExport gpio)
      fun _ => Descriptors.Holds inherited closed owned := by
  have hfound : Triple kernel Descriptors.see (.initial inherited)
      (Descriptors.Holds inherited closed owned) (pathExists (.gpio gpio))
      fun _ => Descriptors.Holds inherited closed owned := by
    refine (Triple.call_silent fun _ _ => rfl).bind fun ret => ?_
    exact Triple.ite (fun _ => Triple.pure fun _ ht => ht) fun _ => Triple.pure fun _ ht => ht
  refine hfound.bind fun found => Triple.ite (fun _ => Triple.pure fun _ ht => ht) fun _ => ?_
  have hkept : (OpenFile.path .gpioExport).Kept := trivial
  refine (triple_writeFile_kept hkernel hkept).bind fun ret => ?_
  exact Triple.ite (fun _ => Triple.pure fun _ ht => ht) fun _ => Triple.pure fun _ ht => ht

/-- What every operation keeps, a `||` of them keeps. -/
theorem anyFailure_keeps {σ : Type} {observe : σ → SysCall × Int → σ} {start : σ}
    {P : σ → Prop} {ps : List (Sys Int)}
    (h : ∀ p ∈ ps, Triple kernel observe start P p fun _ => P) :
    Triple kernel observe start P (anyFailure ps) fun _ => P := by
  induction ps with
  | nil => exact Triple.pure fun _ hs => hs
  | cons p ps ih =>
    refine (h p List.mem_cons_self).bind fun ret => ?_
    refine Triple.ite (fun _ => Triple.pure fun _ hs => hs) fun _ => ?_
    exact ih fun q hq => h q (List.mem_cons_of_mem _ hq)

/-- What `screen_initialize` has closed: `/dev/mem`, if it could be opened. -/
def Descriptors.AfterMem (inherited : Nat → Bool) (t : Descriptors) : Prop :=
  ∃ mem, (mem = [] ∨ mem = [some (OpenFile.path .devMem)]) ∧ t.Holds inherited mem []

theorem triple_maskMemoryByte_mem (hkernel : HandsOut kernel inherited) (addr : BitVec 64)
    (mask fieldValue : BitVec 32) :
    Triple kernel Descriptors.see (.initial inherited) (Descriptors.Holds inherited [] [])
      (maskMemoryByte addr mask fieldValue) fun _ => Descriptors.AfterMem inherited := by
  have hclose : ∀ (memfd ret : Int), Triple kernel Descriptors.see (.initial inherited)
      (Descriptors.Holds inherited [] [(memfd, .path .devMem)])
      (do let _ ← call (.close memfd); return ret : Sys Int)
      fun _ => Descriptors.AfterMem inherited := by
    intro memfd ret
    refine triple_close.bind fun _ => Triple.pure fun t ht => ?_
    exact ⟨_, Or.inr rfl, ht.1⟩
  refine (triple_openOwned hkernel .devMem).bind fun memfd => Triple.ite ?_ ?_
  · intro hneg
    refine Triple.pure fun t ht => ⟨[], Or.inl rfl, ?_⟩
    split at ht
    · exact ht
    · exact absurd ht.1 (Int.not_le.mpr hneg)
  intro hfd
  refine Triple.conseq (P := Descriptors.Holds inherited [] [(memfd, .path .devMem)]) ?_ ?_
    fun _ _ h => h
  swap
  · intro t ht
    rw [if_neg (by omega)] at ht
    exact ht.2
  refine (Triple.call_silent fun _ _ => rfl).bind fun pageSize => ?_
  refine (Triple.call_silent fun _ _ => rfl).bind fun mapped => ?_
  refine Triple.ite (fun _ => hclose memfd _) fun _ => ?_
  refine (Triple.call_silent fun _ _ => rfl).bind fun loaded => ?_
  refine Triple.ite (fun _ => ?_) fun _ => ?_
  · exact (Triple.call_silent fun _ _ => rfl).bind fun _ => hclose memfd _
  · refine (Triple.call_silent fun _ _ => rfl).bind fun _ => ?_
    refine (Triple.call_silent fun _ _ => rfl).bind fun _ => ?_
    exact (Triple.call_silent fun _ _ => rfl).bind fun _ => hclose memfd _

theorem triple_screenInitialize_mem (hkernel : HandsOut kernel inherited) (skipReset : Int) :
    Triple kernel Descriptors.see (.initial inherited) (Descriptors.Holds inherited [] [])
      (screenInitialize skipReset) fun _ => Descriptors.AfterMem inherited := by
  refine (triple_maskMemoryByte_mem hkernel _ _ _).bind fun _ => Triple.of_exists fun mem =>
    Triple.of_fact fun hmem => ?_
  have hafter : ∀ t : Descriptors, t.Holds inherited mem [] → t.AfterMem inherited :=
    fun t ht => ⟨mem, hmem, ht⟩
  have hexport : ∀ gpio, Triple kernel Descriptors.see (.initial inherited)
      (Descriptors.Holds inherited mem []) (gpioExport gpio)
      fun _ => Descriptors.Holds inherited mem [] := fun gpio =>
    triple_gpioExport_kept hkernel gpio
  have hwrite : ∀ file text, (OpenFile.path file).Kept →
      Triple kernel Descriptors.see (.initial inherited)
        (Descriptors.Holds inherited mem []) (writeFile file text)
        fun _ => Descriptors.Holds inherited mem [] := fun file text hkept =>
    triple_writeFile_kept hkernel hkept
  refine Triple.ite (fun _ => Triple.pure fun t ht => hafter t ht) fun _ => ?_
  refine (anyFailure_keeps ?_).bind fun failed =>
    Triple.ite (fun _ => Triple.pure fun t ht => hafter t ht) fun _ => ?_
  · simp only [List.forall_mem_cons]
    exact ⟨hexport _, hexport _, fun _ h => absurd h List.not_mem_nil⟩
  refine (anyFailure_keeps ?_).bind fun failed =>
    Triple.ite (fun _ => Triple.pure fun t ht => hafter t ht) fun _ => ?_
  · simp only [List.forall_mem_cons]
    exact ⟨hwrite _ _ trivial, hwrite _ _ trivial, fun _ h => absurd h List.not_mem_nil⟩
  refine (anyFailure_keeps ?_).bind fun failed =>
    Triple.ite (fun _ => Triple.pure fun t ht => hafter t ht) fun _ =>
      Triple.pure fun t ht => hafter t ht
  · simp only [List.forall_mem_cons]
    exact ⟨hwrite _ _ trivial, hwrite _ _ trivial, hwrite _ _ trivial,
      fun _ h => absurd h List.not_mem_nil⟩

theorem triple_serialClose {fd : Int} :
    Triple kernel Descriptors.see (.initial inherited)
      (Descriptors.Holds inherited closed [(fd, .path .serialPort)]) (serialClose fd)
      fun _ t => t.Holds inherited (closed ++ [some (.path .serialPort)]) [] ∧
        t.table fd = none :=
  triple_close.bind fun _ => Triple.pure fun _ ht => ht

theorem triple_serialClose_none {fd : Int} :
    Triple kernel Descriptors.see (.initial inherited)
      (fun t => t.Holds inherited closed [] ∧ t.table fd = none) (serialClose fd)
      fun _ => Descriptors.Holds inherited (closed ++ [none]) [] :=
  triple_close_none.bind fun _ => Triple.pure fun _ ht => ht

/-- What `serial_setup` answers and leaves: an open port, or none behind the
`g_serial_fd` that is left. -/
def SerialAs (inherited : Nat → Bool) (closed : List (Option OpenFile)) (r : Int × Int)
    (t : Descriptors) : Prop :=
  (r.1 = r.2 ∧ 0 ≤ r.1 ∧ t.Holds inherited closed [(r.2, .path .serialPort)]) ∨
    (r.1 < 0 ∧ t.table r.2 = none ∧
      (t.Holds inherited closed [] ∨
        t.Holds inherited (closed ++ [some (.path .serialPort)]) []))

theorem triple_serialSetup (hkernel : HandsOut kernel inherited) :
    Triple kernel Descriptors.see (.initial inherited) (Descriptors.Holds inherited closed [])
      serialSetup (SerialAs inherited closed) := by
  have hclose : ∀ fd : Int, Triple kernel Descriptors.see (.initial inherited)
      (Descriptors.Holds inherited closed [(fd, .path .serialPort)])
      (do serialClose fd; return (-1, fd)) (SerialAs inherited closed) := by
    intro fd
    refine triple_serialClose.bind fun _ => Triple.pure fun t ht => ?_
    exact Or.inr ⟨Int.negSucc_lt_zero 0, ht.2, Or.inr ht.1⟩
  refine (triple_openOwned hkernel .serialPort).bind fun fd => Triple.ite ?_ ?_
  · intro hfailed
    refine Triple.pure fun t ht => ?_
    rw [if_pos hfailed] at ht
    -- no descriptor is negative
    refine Or.inr ⟨Int.negSucc_lt_zero 0, ?_, Or.inl ht⟩
    cases hfd : t.table fd with
    | none => rfl
    | some file =>
      have hpos := ht.nonneg fd file hfd
      omega
  intro hopen
  simp only [if_neg hopen]
  refine Triple.of_fact fun hfd => ?_
  refine (Triple.call_silent fun _ _ => rfl).bind fun attrs => ?_
  refine Triple.ite (fun _ => hclose fd) fun _ => ?_
  refine (Triple.call_silent fun _ _ => rfl).bind fun _ => ?_
  refine (Triple.call_silent fun _ _ => rfl).bind fun ret => ?_
  exact Triple.ite (fun _ => hclose fd) fun _ => Triple.pure fun t ht => Or.inl ⟨rfl, hfd, ht⟩

/-- What the set-up in `main` leaves: two open descriptors for the loop, or an
exit code. -/
def SetUpAs (inherited : Nat → Bool) (testMode : Int) (r : MainEnd × Int) (t : Descriptors) :
    Prop :=
  ∃ mem, (mem = [] ∨ mem = [some (OpenFile.path .devMem)]) ∧
    ((∃ signalFd, r.1 = .polling r.2 signalFd ∧ t.table signalFd = some .signals ∧
        t.Holds inherited mem [(r.2, .path .serialPort)]) ∨
      (r.1 = .returned (if testMode ≠ 0 then 0 else - EIO) ∧
        (t.Holds inherited mem [(r.2, .path .serialPort)] ∨
          (t.table r.2 = none ∧ (t.Holds inherited mem [] ∨
            t.Holds inherited (mem ++ [some (.path .serialPort)]) [])))))

theorem triple_mainSetup (hkernel : HandsOut kernel inherited) (testMode skipReset : Int) :
    Triple kernel Descriptors.see (.initial inherited) (Descriptors.Holds inherited [] [])
      (mainSetup testMode skipReset) (SetUpAs inherited testMode) := by
  have hnone : ∀ {t : Descriptors} {closed}, t.Holds inherited closed [] → t.table (-1) = none := by
    intro t closed ht
    cases hfd : t.table (-1) with
    | none => rfl
    | some file => exact absurd (ht.nonneg _ file hfd) (by decide)
  refine Triple.ite ?_ ?_
  · intro htest
    refine Triple.pure fun t ht => ⟨[], Or.inl rfl, Or.inr ⟨?_, Or.inr ⟨hnone ht, Or.inl ht⟩⟩⟩
    rw [if_pos htest]
  intro htest
  have hcode : (if testMode ≠ 0 then 0 else - EIO) = - EIO := if_neg htest
  refine (triple_screenInitialize_mem hkernel skipReset).bind fun screen =>
    Triple.of_exists fun mem => Triple.of_fact fun hmem => ?_
  refine Triple.ite ?_ fun _ => ?_
  · intro _
    refine Triple.pure fun t ht => ⟨mem, hmem, Or.inr ⟨?_, Or.inr ⟨hnone ht, Or.inl ht⟩⟩⟩
    rw [hcode]
  refine (triple_serialSetup hkernel).bind fun serial => Triple.ite ?_ ?_
  · intro hneg
    refine Triple.pure fun t ht => ⟨mem, hmem, Or.inr ⟨?_, Or.inr ?_⟩⟩
    · rw [hcode]
    · rcases ht with ⟨_, hpos, _⟩ | ⟨_, hgone⟩
      · exact absurd hneg (Int.not_lt.mpr hpos)
      · exact hgone
  intro hopen
  have hserial : ∀ t, SerialAs inherited mem serial t →
      serial.1 = serial.2 ∧ t.Holds inherited mem [(serial.2, .path .serialPort)] := by
    intro t ht
    rcases ht with ⟨heq, _, ht⟩ | ⟨hneg, _⟩
    · exact ⟨heq, ht⟩
    · exact absurd hneg hopen
  refine Triple.conseq (Triple.of_fact fun heq => ?_) hserial fun _ _ h => h
  refine (triple_signalSetup hkernel).bind fun signalFd => Triple.ite ?_ ?_
  · intro _
    refine Triple.pure fun t ht => ⟨mem, hmem, Or.inr ⟨?_, Or.inl ht.1⟩⟩
    rw [hcode]
  · intro hsignals
    refine Triple.pure fun t ht => ⟨mem, hmem, Or.inl ⟨signalFd, ?_, ht.2 hsignals, ht.1⟩⟩
    rw [heq]

/-! ## At the exit -/

/-- What the process has closed besides pipes: `/dev/mem` if it was open, and the
serial port, once if `main` got an open port and if not, then once if it was opened
at all, with one `close` of nothing behind. -/
def ClosedAs (e : MainEnd) (closed : List (Option OpenFile)) : Prop :=
  ∃ mem tail, closed = mem ++ tail ∧ (mem = [] ∨ mem = [some (OpenFile.path .devMem)]) ∧
    (tail = [some (.path .serialPort)] ∨
      ((∃ code, e = .returned code) ∧
        (tail = [none] ∨ tail = [some (.path .serialPort), none])))

/-- The exit code: 1 behind the help text, 0 in test mode, `-EIO` if the set-up fails,
and 0 once the loop was entered. -/
def exitCode (parsed : Parsed) (e : MainEnd) : Int :=
  match parsed, e with
  | .exited _, _ => 1
  | .running s, .returned _ => if s.gConfig.testMode ≠ 0 then 0 else - EIO
  | .running _, .polling _ _ => 0

/-- The descriptors at the exit, and the exit code. -/
structure ExitAs (inherited : Nat → Bool) (parsed : Parsed) (r : MainEnd × Int)
    (t : Descriptors) : Prop where
  /-- What was open before the program is still open. -/
  inherited : ∀ fd : Nat, inherited fd = true → t.table fd = some .inherited
  /-- No other file is open than those that are never closed. -/
  kept : ∀ fd file, t.table fd = some file → file.Kept
  closed : ClosedAs r.1 (t.closed.filter besidePipes)
  code : r.2 = exitCode parsed r.1

theorem Descriptors.Holds.exitAs {parsed : Parsed} {r : MainEnd × Int} {t : Descriptors}
    (h : t.Holds inherited closed []) (hclosed : ClosedAs r.1 closed)
    (hcode : r.2 = exitCode parsed r.1) : ExitAs inherited parsed r t where
  inherited := h.keeps
  kept fd file hfd := (h.rest fd file hfd).resolve_left List.not_mem_nil
  closed := h.closed_eq ▸ hclosed
  code := hcode

theorem Descriptors.Holds.table_neg {t : Descriptors} (h : t.Holds inherited closed owned)
    {fd : Int} (hfd : fd < 0) : t.table fd = none := by
  cases hfile : t.table fd with
  | none => rfl
  | some file => exact absurd (h.nonneg fd file hfile) (Int.not_le.mpr hfd)

/-- The end of a process whose set-up failed or that is in test mode. -/
theorem triple_exit_returned {s : ConfigState} {serialFd code : Int} :
    Triple kernel Descriptors.see (.initial inherited)
      (SetUpAs inherited s.gConfig.testMode (.returned code, serialFd))
      (do serialClose serialFd; return (.returned code, code))
      (ExitAs inherited (.running s)) := by
  refine Triple.of_exists fun mem => Triple.of_fact fun hmem trace ht => ?_
  have hopen := fun hholds => @triple_serialClose kernel inherited mem serialFd trace hholds
  have hnone := fun closed hholds =>
    @triple_serialClose_none kernel inherited closed serialFd trace hholds
  rcases ht with ⟨signalFd, hend, _⟩ | ⟨hend, hleft⟩
  · cases hend
  have hcode := MainEnd.returned.inj hend
  rcases hleft with hport | ⟨hgone, hleft | hleft⟩
  · exact (hopen hport).1.exitAs ⟨mem, _, rfl, hmem, Or.inl rfl⟩ hcode
  · exact (hnone _ ⟨hleft, hgone⟩).exitAs ⟨mem, _, rfl, hmem, Or.inr ⟨⟨_, rfl⟩, Or.inl rfl⟩⟩ hcode
  · refine (hnone _ ⟨hleft, hgone⟩).exitAs ?_ hcode
    exact ⟨mem, _, List.append_assoc _ _ _, hmem, Or.inr ⟨⟨_, rfl⟩, Or.inr rfl⟩⟩

/-- The loop, and the end of the process behind it. -/
theorem triple_exit_polling (hkernel : HandsOut kernel inherited) {s : ConfigState}
    {serialFd serialFd' signalFd : Int} (ticked : List Page) (loopEnd : LoopEnd) :
    Triple kernel Descriptors.see (.initial inherited)
      (SetUpAs inherited s.gConfig.testMode (.polling serialFd' signalFd, serialFd))
      (do
        scriptPipes ticked
        serialClose serialFd
        return (.polling serialFd' signalFd, loopEnd.code))
      (ExitAs inherited (.running s)) := by
  refine Triple.of_exists fun mem => Triple.of_fact fun hmem => ?_
  have hport : ∀ t : Descriptors,
      (∃ signalFd', MainEnd.polling serialFd' signalFd = .polling serialFd signalFd' ∧
          t.table signalFd' = some .signals ∧
          t.Holds inherited mem [(serialFd, .path .serialPort)]) ∨
        (MainEnd.polling serialFd' signalFd =
            .returned (if s.gConfig.testMode ≠ 0 then 0 else - EIO) ∧
          (t.Holds inherited mem [(serialFd, .path .serialPort)] ∨
            (t.table serialFd = none ∧ (t.Holds inherited mem [] ∨
              t.Holds inherited (mem ++ [some (.path .serialPort)]) [])))) →
      t.Holds inherited mem [(serialFd, .path .serialPort)] := by
    intro t ht
    rcases ht with ⟨_, _, _, hport⟩ | ⟨hend, _⟩
    · exact hport
    · cases hend
  have howned : ∀ p ∈ [(serialFd, OpenFile.path .serialPort)], ∀ page, p.2 ≠ .pipe page := by
    intro p hp page heq
    rw [List.mem_singleton.mp hp] at heq
    cases heq
  refine Triple.conseq ?_ hport fun _ _ h => h
  refine (triple_scriptPipes hkernel howned ticked).bind fun _ => ?_
  refine triple_serialClose.bind fun _ => ?_
  refine Triple.pure fun t ht => ht.1.exitAs ⟨mem, _, rfl, hmem, Or.inl rfl⟩ ?_
  cases loopEnd <;> rfl

/-- Behind `cleanup`, whatever the command line says and whatever has failed: the
descriptors that were open before the program are still open to what they were, no
file is left open that the program means to close, nothing else was closed, and
the exit code tells how the program ended. -/
theorem main_descriptors (hkernel : HandsOut kernel inherited) (parsed : Parsed)
    (ticked : List Page) (loopEnd : LoopEnd) :
    ExitAs inherited parsed (mainProcess parsed ticked loopEnd kernel []).1
      ((mainProcess parsed ticked loopEnd kernel []).2.foldl Descriptors.see
        (.initial inherited)) := by
  have hinitial := Descriptors.Holds.initial inherited
  cases parsed with
  | exited s =>
    have hexit : Triple kernel Descriptors.see (.initial inherited)
        (Descriptors.Holds inherited [] []) (mainProcess (.exited s) ticked loopEnd)
        (ExitAs inherited (.exited s)) := by
      refine Triple.conseq (triple_serialClose_none.bind fun _ => Triple.pure fun t ht => ?_)
        (fun t ht => ⟨ht, ht.table_neg (by decide)⟩) fun _ _ h => h
      exact ht.exitAs ⟨[], _, rfl, Or.inl rfl, Or.inr ⟨⟨1, rfl⟩, Or.inl rfl⟩⟩ rfl
    exact hexit.run hinitial
  | running s =>
    have hexit : Triple kernel Descriptors.see (.initial inherited)
        (Descriptors.Holds inherited [] []) (mainProcess (.running s) ticked loopEnd)
        (ExitAs inherited (.running s)) := by
      refine (triple_scriptPipes hkernel (fun _ h => absurd h List.not_mem_nil) _).bind fun _ => ?_
      refine (triple_mainSetup hkernel s.gConfig.testMode s.gConfig.skipReset).bind fun setup => ?_
      obtain ⟨e, serialFd⟩ := setup
      cases e with
      | returned code => exact triple_exit_returned
      | polling serialFd' signalFd => exact triple_exit_polling hkernel ticked loopEnd
    exact hexit.run hinitial

end

/-- A machine without failures, the descriptors of which are above all answers. -/
def growingKernel : Kernel SysCall Int
  | trace, .openFile _ => 3 + (trace.map fun e => e.2.natAbs).sum
  | trace, .signalfd => 3 + (trace.map fun e => e.2.natAbs).sum
  | trace, .popen _ => 3 + (trace.map fun e => e.2.natAbs).sum
  | _, _ => 0

/-- A descriptor that no call has answered is not open. -/
theorem table_foldl_see {trace : List (SysCall × Int)} {t : Descriptors} {fd : Int}
    (htrace : ∀ e ∈ trace, e.2 ≠ fd) (hfree : t.table fd = none) :
    (trace.foldl Descriptors.see t).table fd = none := by
  induction trace generalizing t with
  | nil => exact hfree
  | cons e trace ih =>
    refine ih (fun e' he' => htrace e' (List.mem_cons_of_mem _ he')) ?_
    have hne : fd ≠ e.2 := (htrace e List.mem_cons_self).symm
    have hopened : ∀ file, (if e.2 = -1 then t else t.opened e.2 file).table fd = none := by
      intro file
      split
      · exact hfree
      · exact (Function.update_of_ne hne _ _).trans hfree
    have hclosed : ∀ fd', (t.closeOf fd').table fd = none := by
      intro fd'
      by_cases heq : fd = fd'
      · exact heq ▸ Function.update_self _ _ _
      · exact (Function.update_of_ne heq _ _).trans hfree
    obtain ⟨call, ret⟩ := e
    cases call with
    | openFile path => exact hopened _
    | signalfd => exact hopened _
    | popen page => exact hopened _
    | close fd' => exact hclosed fd'
    | pclose fd' => exact hclosed fd'
    | _ => exact hfree

theorem handsOut_growingKernel : HandsOut growingKernel fun fd => decide (fd < 3) := by
  have hfresh : ∀ trace : List (SysCall × Int),
      (trace.foldl Descriptors.see (.initial fun fd => decide (fd < 3))).table
        (3 + (trace.map fun e => e.2.natAbs).sum) = none := by
    intro trace
    refine table_foldl_see (fun e he => ?_) ?_
    · have hle : e.2.natAbs ≤ (trace.map fun e => e.2.natAbs).sum :=
        List.single_le_sum (fun _ _ => Nat.zero_le _) _ (List.mem_map_of_mem he)
      omega
    · generalize (trace.map fun e => e.2.natAbs).sum = n
      show (if decide (3 + n < 3) then some OpenFile.inherited else none) = none
      rw [decide_eq_false (by omega)]
      rfl
  have hnonneg : ∀ trace : List (SysCall × Int),
      0 ≤ 3 + (((trace.map fun e => e.2.natAbs).sum : Nat) : Int) := fun trace => by omega
  exact ⟨fun trace _ => Or.inr ⟨hnonneg trace, hfresh trace⟩,
    fun trace => Or.inr ⟨hnonneg trace, hfresh trace⟩,
    fun trace _ => Or.inr ⟨hnonneg trace, hfresh trace⟩⟩

/-- A start without options, two refreshes of the WAN page, and `SIGTERM`. -/
theorem main_descriptors_growingKernel :
    ∃ parsed, configMain (fun _ => false) [] = some parsed ∧
      ExitAs (fun fd => decide (fd < 3)) parsed
        (mainProcess parsed [.wan, .wifi, .wan, .wifi] .terminated growingKernel []).1
        ((mainProcess parsed [.wan, .wifi, .wan, .wifi] .terminated growingKernel []).2.foldl
          Descriptors.see (.initial fun fd => decide (fd < 3))) :=
  ⟨_, rfl, main_descriptors handsOut_growingKernel _ [.wan, .wifi, .wan, .wifi] .terminated⟩

end K3ScreenCtrl
