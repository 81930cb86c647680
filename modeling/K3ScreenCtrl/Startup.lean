import K3ScreenCtrl.CommandLine
import K3ScreenCtrl.Lib.Syscall

/-!
# The start-up

`gpio.c`, `file_util.c`, `mem_util.c`, the setup in `serial_port.c` and in
`signals.c`, and what `main` does with them before the event loop, as programs
that make system calls.  The kernel may answer every call as it likes.

`screen_initialize` steers two pins of the screen.  `screenInitialize_applied`
says what it writes to them, whatever fails: the first part of one fixed list,
and all of it exactly when it answers `SUCCESS`.  `screenInitialize_resets` is
what that means for the screen: one rising edge on the reset line, with the boot
mode line low, or none at all.
-/

namespace K3ScreenCtrl

open Syscall

def SUCCESS : Int := 0
def FAILURE : Int := -1

/-! ## Calls -/

/-- The files that the start-up opens by name. -/
inductive Path where
  /-- `/sys/class/gpio/gpio%d` -/
  | gpio (gpio : Int)
  /-- `/sys/class/gpio/gpio%d/direction` -/
  | gpioDirection (gpio : Int)
  /-- `/sys/class/gpio/gpio%d/value` -/
  | gpioValue (gpio : Int)
  /-- `/sys/class/gpio/export` -/
  | gpioExport
  /-- `/dev/mem` -/
  | devMem
  /-- `/dev/ttyS1` -/
  | serialPort
deriving DecidableEq, Repr

/-- What is written to a file. -/
inductive Text where
  /-- `"%d\n"` -/
  | int (number : Int)
  /-- `"%s\n"` -/
  | str (text : String)
deriving DecidableEq, Repr

/-- The system calls.  The answer of each is the `int` that C gets, except that
`load` answers the byte. -/
inductive SysCall where
  | stat (path : Path)
  | openFile (path : Path)
  /-- To the file that `fd` was opened for. -/
  | dprintf (fd : Int) (path : Path) (text : Text)
  | close (fd : Int)
  | sysconfPageSize
  | mmap (memfd : Int) (mapStart : BitVec 64)
  | load (mapStart dataOffset : BitVec 64)
  | store (mapStart dataOffset : BitVec 64) (byte : BitVec 8)
  | munmap (mapStart : BitVec 64)
  | tcgetattr (fd : Int)
  | tcflush (fd : Int)
  | tcsetattr (fd : Int)
  | sigprocmask
  | signalfd
  /-- The script of a page.  The answer is the descriptor of the pipe, or -1 for the
  null pointer. -/
  | popen (page : Page)
  | pclose (fp : Int)
deriving DecidableEq, Repr

/-- A part of the program, up to its answer. -/
abbrev Sys (α : Type) : Type := Prog SysCall Int α

/-! ## `file_util.c` -/

/-- `write_file_int` and `write_file_str`, which differ in the format only. -/
def writeFile (file : Path) (text : Text) : Sys Int := do
  let fd ← call (.openFile file)
  if fd = -1 then
    return FAILURE
  else
    let ret ← call (.dprintf fd file text)
    if ret < 0 then return FAILURE else return SUCCESS

def writeFileInt (file : Path) (number : Int) : Sys Int := writeFile file (.int number)

def writeFileStr (file : Path) (str : String) : Sys Int := writeFile file (.str str)

/-- `path_exists`. -/
def pathExists (path : Path) : Sys Int := do
  let ret ← call (.stat path)
  if ret < 0 then return FAILURE else return SUCCESS

/-! ## `gpio.c` -/

inductive GpioDirection where
  | gpioIn
  | gpioOut
deriving DecidableEq, Repr

/-- `dir_str`. -/
def GpioDirection.dirStr : GpioDirection → String
  | .gpioIn => "in"
  | .gpioOut => "out"

/-- `gpio_export`: the value of a `||`, so 1 if the pin is there or cannot be
exported, and 0 if it was exported. -/
def gpioExport (gpio : Int) : Sys Int := do
  let found ← pathExists (.gpio gpio)
  if found = SUCCESS then
    return 1
  else
    let ret ← writeFileInt .gpioExport gpio
    if ret ≠ 0 then return 1 else return 0

/-- `gpio_set_direction`. -/
def gpioSetDirection (gpio : Int) (dir : GpioDirection) : Sys Int :=
  writeFileStr (.gpioDirection gpio) dir.dirStr

/-- `gpio_set_value`. -/
def gpioSetValue (gpio value : Int) : Sys Int := writeFileInt (.gpioValue gpio) value

/-! ## `mem_util.c` -/

/-- The loop of `mask_begin_bit`, from bit `i` on with `n` bits to go. -/
def maskBeginBitLoop (mask : BitVec 32) : Nat → Nat → Nat
  | 0, _ => 0
  | n + 1, i => if mask.getLsbD i then i else maskBeginBitLoop mask n (i + 1)

/-- `mask_begin_bit`. -/
def maskBeginBit (mask : BitVec 32) : Nat := maskBeginBitLoop mask 8 0

/-- The byte that `mask_memory_byte` wants to store. -/
def maskedByte (currentByte : BitVec 8) (mask fieldValue : BitVec 32) : BitVec 8 :=
  ((currentByte.setWidth 32 &&& ~~~mask) ||| (fieldValue <<< maskBeginBit mask)).setWidth 8

/-- `addr & ~(page_size - 1)`. -/
def mapStart (addr pageSize : BitVec 64) : BitVec 64 := addr &&& ~~~(pageSize - 1)

/-- `mask_memory_byte`. -/
def maskMemoryByte (addr : BitVec 64) (mask fieldValue : BitVec 32) : Sys Int := do
  let memfd ← call (.openFile .devMem)
  if memfd < 0 then
    return FAILURE
  else
    let pageSize ← call .sysconfPageSize
    let start := mapStart addr (BitVec.ofInt 64 pageSize)
    let dataOffset := addr - start
    let mapped ← call (.mmap memfd start)
    if mapped = -1 then
      let _ ← call (.close memfd)
      return FAILURE
    else
      let loaded ← call (.load start dataOffset)
      let currentByte := BitVec.ofInt 8 loaded
      let data := maskedByte currentByte mask fieldValue
      if currentByte = data then
        let _ ← call (.munmap start)
        let _ ← call (.close memfd)
        return SUCCESS
      else
        let _ ← call (.store start dataOffset data)
        -- what is read back is only reported
        let _ ← call (.load start dataOffset)
        let _ ← call (.munmap start)
        let _ ← call (.close memfd)
        return SUCCESS

/-! ## `main.c` -/

def SCREEN_BOOT_MODE_GPIO : Int := 7
def SCREEN_RESET_GPIO : Int := 8

/-- `a == FAILURE || b == FAILURE || ...`. -/
def anyFailure : List (Sys Int) → Sys Bool
  | [] => return false
  | p :: ps => do
    let ret ← p
    if ret = FAILURE then return true else anyFailure ps

/-- `screen_initialize`. -/
def screenInitialize (skipReset : Int) : Sys Int := do
  let _ ← maskMemoryByte 0x1800c1c1 0xf0 0
  if skipReset ≠ 0 then
    return SUCCESS
  else
    let exportFailed ← anyFailure
      [gpioExport SCREEN_BOOT_MODE_GPIO, gpioExport SCREEN_RESET_GPIO]
    if exportFailed then
      return FAILURE
    else
      let directionFailed ← anyFailure
        [gpioSetDirection SCREEN_BOOT_MODE_GPIO .gpioOut,
          gpioSetDirection SCREEN_RESET_GPIO .gpioOut]
      if directionFailed then
        return FAILURE
      else
        let valueFailed ← anyFailure
          [gpioSetValue SCREEN_BOOT_MODE_GPIO 0, gpioSetValue SCREEN_RESET_GPIO 0,
            gpioSetValue SCREEN_RESET_GPIO 1]
        if valueFailed then return FAILURE else return SUCCESS

/-! ## What is written to the pins -/

variable {kernel : Kernel SysCall Int}

/-- The file steers a pin. -/
def Path.Steers : Path → Prop
  | .gpioDirection _ => True
  | .gpioValue _ => True
  | _ => False

instance (path : Path) : Decidable path.Steers := by
  unfold Path.Steers
  split <;> infer_instance

/-- The texts that were written to the pins, one after the other. -/
def seePins (done : List (Path × Text)) : SysCall × Int → List (Path × Text)
  | (.dprintf _ path text, ret) =>
    if path.Steers ∧ ¬ ret < 0 then done ++ [(path, text)] else done
  | _ => done

/-- What `screen_initialize` means to write to the pins. -/
def pinSequence : List (Path × Text) :=
  [(.gpioDirection SCREEN_BOOT_MODE_GPIO, .str "out"),
    (.gpioDirection SCREEN_RESET_GPIO, .str "out"),
    (.gpioValue SCREEN_BOOT_MODE_GPIO, .int 0),
    (.gpioValue SCREEN_RESET_GPIO, .int 0),
    (.gpioValue SCREEN_RESET_GPIO, .int 1)]

/-- The first `k` of these texts were written. -/
def Applied (k : Nat) (done : List (Path × Text)) : Prop := done = pinSequence.take k

/-- Only a part of them was written. -/
def Stopped (done : List (Path × Text)) : Prop := ∃ k < pinSequence.length, Applied k done

section

variable {σ : Type} {observe : σ → SysCall × Int → σ} {start : σ}

/-- One more operation in front of a `||`. -/
theorem anyFailure_cons {P M F S : σ → Prop} {p : Sys Int} {ps : List (Sys Int)}
    (hp : Triple kernel observe start P p fun ret s =>
      (ret = FAILURE ∧ F s) ∨ (ret ≠ FAILURE ∧ M s))
    (hps : Triple kernel observe start M (anyFailure ps) fun failed s =>
      if failed then F s else S s) :
    Triple kernel observe start P (anyFailure (p :: ps)) fun failed s =>
      if failed then F s else S s := by
  refine hp.bind fun ret => ?_
  refine Triple.ite ?_ ?_
  · intro hret
    refine Triple.pure fun s hs => ?_
    rcases hs with ⟨_, hF⟩ | ⟨hne, _⟩
    · rwa [if_pos rfl]
    · exact absurd hret hne
  · intro hne
    refine hps.conseq (fun s hs => ?_) fun _ _ h => h
    rcases hs with ⟨hret, _⟩ | ⟨_, hM⟩
    · exact absurd hret hne
    · exact hM

theorem anyFailure_nil {F S : σ → Prop} :
    Triple kernel observe start S (anyFailure []) fun failed s => if failed then F s else S s :=
  Triple.pure fun s hs => by rwa [if_neg Bool.false_ne_true]

/-- A write has its effect if it answers `SUCCESS`, and none otherwise. -/
theorem triple_writeFile {P Q : σ → Prop} {file : Path} {text : Text}
    (hopen : ∀ s ret, observe s (.openFile file, ret) = s)
    (hfail : ∀ s fd ret, ret < 0 → P s → P (observe s (.dprintf fd file text, ret)))
    (hdone : ∀ s fd ret, ¬ ret < 0 → P s → Q (observe s (.dprintf fd file text, ret))) :
    Triple kernel observe start P (writeFile file text) fun ret s =>
      (ret = FAILURE ∧ P s) ∨ (ret ≠ FAILURE ∧ Q s) := by
  have hne : SUCCESS ≠ FAILURE := by decide
  refine (Triple.call_silent hopen).bind fun fd => ?_
  refine Triple.ite (fun _ => Triple.pure fun s hs => Or.inl ⟨rfl, hs⟩) fun _ => ?_
  have hcall : Triple kernel observe start P (call (.dprintf fd file text)) fun ret s =>
      (ret < 0 ∧ P s) ∨ (¬ ret < 0 ∧ Q s) := by
    refine Triple.call fun s ret hs => ?_
    by_cases hret : ret < 0
    · exact Or.inl ⟨hret, hfail s fd ret hret hs⟩
    · exact Or.inr ⟨hret, hdone s fd ret hret hs⟩
  refine hcall.bind fun ret => Triple.ite ?_ ?_
  · intro hret
    refine Triple.pure fun s hs => Or.inl ⟨rfl, ?_⟩
    exact hs.elim (fun h => h.2) fun h => absurd hret h.1
  · intro hret
    refine Triple.pure fun s hs => Or.inr ⟨hne, ?_⟩
    exact hs.elim (fun h => absurd h.1 hret) fun h => h.2

end

/-- A write of the next text. -/
theorem writeFile_applied (kernel : Kernel SysCall Int) {k : Nat} {file : Path} {text : Text}
    (hnext : pinSequence[k]? = some (file, text)) (hsteers : file.Steers) :
    Triple kernel seePins [] (Applied k) (writeFile file text) fun ret done =>
      (ret = FAILURE ∧ Stopped done) ∨ (ret ≠ FAILURE ∧ Applied (k + 1) done) := by
  have hk : k < pinSequence.length := (List.getElem?_eq_some_iff.mp hnext).1
  refine (triple_writeFile (P := Applied k) (Q := Applied (k + 1)) (fun _ _ => rfl) ?_ ?_).post ?_
  · intro done fd ret hret hdone
    rwa [seePins, if_neg fun h => h.2 hret]
  · intro done fd ret hret hdone
    rw [seePins, if_pos ⟨hsteers, hret⟩]
    unfold Applied at hdone ⊢
    rw [hdone, List.take_add_one, hnext, Option.toList_some]
  · intro ret done h
    exact h.imp_left fun h => ⟨h.1, k, hk, h.2⟩

/-- An export never fails in the eyes of its caller, and steers no pin. -/
theorem gpioExport_applied (kernel : Kernel SysCall Int) (gpio : Int) :
    Triple kernel seePins [] (Applied 0) (gpioExport gpio) fun ret done =>
      (ret = FAILURE ∧ Stopped done) ∨ (ret ≠ FAILURE ∧ Applied 0 done) := by
  have hone : (1 : Int) ≠ FAILURE := by decide
  have hzero : (0 : Int) ≠ FAILURE := by decide
  have hfound : Triple kernel seePins [] (Applied 0) (pathExists (.gpio gpio))
      fun _ => Applied 0 := by
    refine (Triple.call_silent fun _ _ => rfl).bind fun ret => ?_
    exact Triple.ite (fun _ => Triple.pure fun _ h => h) fun _ => Triple.pure fun _ h => h
  have hwrite : Triple kernel seePins [] (Applied 0) (writeFileInt .gpioExport gpio)
      fun _ => Applied 0 := by
    refine (triple_writeFile (P := Applied 0) (Q := Applied 0) (fun _ _ => rfl) ?_ ?_).post ?_
    · intro done fd ret _ hdone
      rwa [seePins, if_neg fun h => h.1]
    · intro done fd ret _ hdone
      rwa [seePins, if_neg fun h => h.1]
    · intro ret done h
      exact h.elim (fun h => h.2) fun h => h.2
  refine hfound.bind fun found => Triple.ite ?_ ?_
  · exact fun _ => Triple.pure fun _ h => Or.inr ⟨hone, h⟩
  · refine fun _ => hwrite.bind fun ret => Triple.ite ?_ ?_
    · exact fun _ => Triple.pure fun _ h => Or.inr ⟨hone, h⟩
    · exact fun _ => Triple.pure fun _ h => Or.inr ⟨hzero, h⟩

/-- The register of the serial line is no pin. -/
theorem maskMemoryByte_applied (addr : BitVec 64) (mask fieldValue : BitVec 32) :
    Triple kernel seePins [] (Applied 0) (maskMemoryByte addr mask fieldValue)
      fun _ => Applied 0 := by
  have hend : ∀ start memfd, Triple kernel seePins [] (Applied 0)
      (do let _ ← call (.munmap start); let _ ← call (.close memfd); return SUCCESS : Sys Int)
      fun _ => Applied 0 := fun start memfd =>
    (Triple.call_silent fun _ _ => rfl).bind fun _ =>
      (Triple.call_silent fun _ _ => rfl).bind fun _ => Triple.pure fun _ h => h
  refine (Triple.call_silent fun _ _ => rfl).bind fun memfd => ?_
  refine Triple.ite (fun _ => Triple.pure fun _ h => h) fun _ => ?_
  refine (Triple.call_silent fun _ _ => rfl).bind fun pageSize => ?_
  refine (Triple.call_silent fun _ _ => rfl).bind fun mapped => ?_
  refine Triple.ite (fun _ => ?_) fun _ => ?_
  · exact (Triple.call_silent fun _ _ => rfl).bind fun _ => Triple.pure fun _ h => h
  · refine (Triple.call_silent fun _ _ => rfl).bind fun loaded => ?_
    refine Triple.ite (fun _ => hend _ memfd) fun _ => ?_
    exact (Triple.call_silent fun _ _ => rfl).bind fun _ =>
      (Triple.call_silent fun _ _ => rfl).bind fun _ => hend _ memfd

/-- What `screen_initialize` has written to the pins when it answers. -/
def InitializedAs (skipReset ret : Int) (done : List (Path × Text)) : Prop :=
  if skipReset ≠ 0 then ret = SUCCESS ∧ done = []
  else (ret = SUCCESS ∧ done = pinSequence) ∨ (ret = FAILURE ∧ Stopped done)

theorem triple_screenInitialize (kernel : Kernel SysCall Int) (skipReset : Int) :
    Triple kernel seePins [] (Applied 0) (screenInitialize skipReset)
      (InitializedAs skipReset) := by
  refine (maskMemoryByte_applied _ _ _).bind fun _ => ?_
  refine Triple.ite ?_ fun hskip => ?_
  · intro hskip
    refine Triple.pure fun done hdone => ?_
    rw [InitializedAs, if_pos hskip]
    exact ⟨rfl, hdone⟩
  have hfailed : ∀ {P : List (Path × Text) → Prop} {failed : Bool}, failed = true →
      Triple kernel seePins [] (fun done => if failed then Stopped done else P done)
        (return FAILURE : Sys Int) (InitializedAs skipReset) := by
    intro P failed hfailed
    refine Triple.pure fun done hdone => ?_
    rw [if_pos hfailed] at hdone
    rw [InitializedAs, if_neg hskip]
    exact Or.inr ⟨rfl, hdone⟩
  have hexports := anyFailure_cons (gpioExport_applied kernel SCREEN_BOOT_MODE_GPIO)
    (anyFailure_cons (gpioExport_applied kernel SCREEN_RESET_GPIO) anyFailure_nil)
  have hdirections := anyFailure_cons (writeFile_applied kernel (k := 0) rfl trivial)
    (anyFailure_cons (writeFile_applied kernel (k := 1) rfl trivial) anyFailure_nil)
  have hvalues := anyFailure_cons (writeFile_applied kernel (k := 2) rfl trivial)
    (anyFailure_cons (writeFile_applied kernel (k := 3) rfl trivial)
      (anyFailure_cons (writeFile_applied kernel (k := 4) rfl trivial) anyFailure_nil))
  refine hexports.bind fun failed => Triple.ite hfailed fun hnot => ?_
  refine (hdirections.conseq (fun done h => by rwa [if_neg hnot] at h) fun _ _ h => h).bind
    fun failed => Triple.ite hfailed fun hnot => ?_
  refine (hvalues.conseq (fun done h => by rwa [if_neg hnot] at h) fun _ _ h => h).bind
    fun failed => Triple.ite hfailed fun hnot => ?_
  refine Triple.pure fun done hdone => ?_
  rw [if_neg hnot] at hdone
  rw [InitializedAs, if_neg hskip]
  exact Or.inl ⟨rfl, hdone⟩

/-- Whatever fails, and whenever: the pins get the first part of one list, and
all of it exactly if `screen_initialize` answers `SUCCESS`.  With `skip_reset`
they get nothing. -/
theorem screenInitialize_applied (kernel : Kernel SysCall Int) (skipReset : Int) :
    InitializedAs skipReset (screenInitialize skipReset kernel []).1
      ((screenInitialize skipReset kernel []).2.foldl seePins []) :=
  (triple_screenInitialize kernel skipReset).run rfl

/-! ## What the screen sees -/

/-- A pin: whether it is an output, and the level it then has. -/
structure Pin where
  output : Bool
  high : Bool
deriving DecidableEq, Repr

/-- The pins of the board, and what the screen makes of its reset line: the level
of the boot mode line at each rising edge. -/
structure Board where
  pins : Int → Pin
  edges : List Bool

/-- The level of a line: that of the output, or what is connected to it. -/
def Board.line (external : Int → Bool) (b : Board) (gpio : Int) : Bool :=
  if (b.pins gpio).output then (b.pins gpio).high else external gpio

def Board.set (b : Board) (gpio : Int) (pin : Pin) : Board :=
  { b with pins := fun g => if g = gpio then pin else b.pins g }

/-- What a text does in a file of `/sys/class/gpio`: `out` makes the pin a low
output, and the level of an input cannot be set. -/
def Board.apply (b : Board) : Path × Text → Board
  | (.gpioDirection gpio, .str text) =>
    if text = "out" then b.set gpio { output := true, high := false }
    else if text = "in" then b.set gpio { b.pins gpio with output := false }
    else b
  | (.gpioValue gpio, .int value) =>
    if (b.pins gpio).output then b.set gpio { output := true, high := decide (value ≠ 0) } else b
  | _ => b

/-- The board, and the screen with it, behind one write. -/
def Board.step (external : Int → Bool) (b : Board) (written : Path × Text) : Board :=
  let b' := b.apply written
  if b.line external SCREEN_RESET_GPIO = false ∧ b'.line external SCREEN_RESET_GPIO = true then
    { b' with edges := b.edges ++ [b'.line external SCREEN_BOOT_MODE_GPIO] }
  else b'

/-- A write that leaves the reset line alone or low is no reset. -/
theorem edges_step {external : Int → Bool} {b : Board} {written : Path × Text}
    (h : (b.apply written).line external SCREEN_RESET_GPIO = true →
      b.line external SCREEN_RESET_GPIO = true) :
    b.step external written = b.apply written := by
  unfold Board.step
  refine if_neg ?_
  rintro ⟨hlow, hhigh⟩
  rw [h hhigh] at hlow
  cases hlow

theorem line_set_self (external : Int → Bool) (b : Board) (gpio : Int) (high : Bool) :
    (b.set gpio ⟨true, high⟩).line external gpio = high := by
  simp [Board.line, Board.set]

theorem line_set_of_ne (external : Int → Bool) (b : Board) {gpio other : Int} (pin : Pin)
    (h : other ≠ gpio) : (b.set gpio pin).line external other = b.line external other := by
  simp [Board.line, Board.set, h]

/-- A low boot mode line. -/
theorem step_boot (external : Int → Bool) (b : Board) {written : Path × Text}
    (h : b.apply written = b.set SCREEN_BOOT_MODE_GPIO ⟨true, false⟩) :
    b.step external written = b.set SCREEN_BOOT_MODE_GPIO ⟨true, false⟩ := by
  rw [edges_step, h]
  rw [h, line_set_of_ne external b _ (by decide)]
  exact id

/-- A low reset line. -/
theorem step_reset (external : Int → Bool) (b : Board) {written : Path × Text}
    (h : b.apply written = b.set SCREEN_RESET_GPIO ⟨true, false⟩) :
    b.step external written = b.set SCREEN_RESET_GPIO ⟨true, false⟩ := by
  rw [edges_step, h]
  rw [h, line_set_self]
  exact fun hhigh => absurd hhigh Bool.false_ne_true

/-- The board behind the first `k` texts. -/
structure Board.Behind (k : Nat) (b : Board) : Prop where
  edges : b.edges = if k < 5 then [] else [false]
  boot : 1 ≤ k → b.pins SCREEN_BOOT_MODE_GPIO = ⟨true, false⟩
  reset : 2 ≤ k → b.pins SCREEN_RESET_GPIO = ⟨true, decide (5 ≤ k)⟩

theorem Board.Behind.set_boot {k : Nat} {b : Board} (h : b.Behind k) (hk : k = 0 ∨ k = 2) :
    (b.set SCREEN_BOOT_MODE_GPIO ⟨true, false⟩).Behind (k + 1) where
  edges := by
    show b.edges = _
    rw [h.edges, if_pos (by omega), if_pos (by omega)]
  boot := fun _ => rfl
  reset := fun hreset => by
    show b.pins SCREEN_RESET_GPIO = _
    rw [h.reset (by omega), decide_eq_false (by omega), decide_eq_false (by omega)]

theorem Board.Behind.set_reset {k : Nat} {b : Board} (h : b.Behind k) (hk : k = 1 ∨ k = 3) :
    (b.set SCREEN_RESET_GPIO ⟨true, false⟩).Behind (k + 1) where
  edges := by
    show b.edges = _
    rw [h.edges, if_pos (by omega), if_pos (by omega)]
  boot := fun _ => h.boot (by omega)
  reset := fun _ => by
    rw [decide_eq_false (by omega)]
    rfl

/-- The next text. -/
theorem Board.Behind.step {k : Nat} {b : Board} (h : b.Behind k) {written : Path × Text}
    (hnext : pinSequence[k]? = some written) (external : Int → Bool) :
    (b.step external written).Behind (k + 1) := by
  have hk : k < 5 := (List.getElem?_eq_some_iff.mp hnext).1
  match k, hk with
  | 0, _ =>
    cases hnext
    rw [step_boot external b rfl]
    exact h.set_boot (Or.inl rfl)
  | 1, _ =>
    cases hnext
    rw [step_reset external b rfl]
    exact h.set_reset (Or.inl rfl)
  | 2, _ =>
    cases hnext
    have happly : b.apply (.gpioValue SCREEN_BOOT_MODE_GPIO, .int 0) =
        b.set SCREEN_BOOT_MODE_GPIO ⟨true, false⟩ := by
      rw [Board.apply, h.boot (by omega)]
      rfl
    rw [step_boot external b happly]
    exact h.set_boot (Or.inr rfl)
  | 3, _ =>
    cases hnext
    have happly : b.apply (.gpioValue SCREEN_RESET_GPIO, .int 0) =
        b.set SCREEN_RESET_GPIO ⟨true, false⟩ := by
      rw [Board.apply, h.reset (by omega)]
      rfl
    rw [step_reset external b happly]
    exact h.set_reset (Or.inr rfl)
  | 4, _ =>
    cases hnext
    have happly : b.apply (.gpioValue SCREEN_RESET_GPIO, .int 1) =
        b.set SCREEN_RESET_GPIO ⟨true, true⟩ := by
      rw [Board.apply, h.reset (by omega)]
      rfl
    -- the reset line rises
    have hlow : b.line external SCREEN_RESET_GPIO = false := by
      rw [Board.line, h.reset (by omega)]
      rfl
    have hboot : b.line external SCREEN_BOOT_MODE_GPIO = false := by
      rw [Board.line, h.boot (by omega)]
      rfl
    have hedges : b.edges = [] := h.edges
    have hrises : b.line external SCREEN_RESET_GPIO = false ∧
        (b.apply (.gpioValue SCREEN_RESET_GPIO, .int 1)).line external SCREEN_RESET_GPIO =
          true := by
      rw [happly, line_set_self]
      exact ⟨hlow, rfl⟩
    have hlevel : (b.apply (.gpioValue SCREEN_RESET_GPIO, .int 1)).line external
        SCREEN_BOOT_MODE_GPIO = false := by
      rw [happly, line_set_of_ne external b _ (by decide), hboot]
    unfold Board.step
    dsimp only
    rw [if_pos hrises, hlevel, hedges, happly]
    exact ⟨rfl, fun _ => h.boot (by omega), fun _ => rfl⟩

theorem behind_take (external : Int → Bool) (pins : Int → Pin) (k : Nat)
    (hk : k ≤ pinSequence.length) :
    ((pinSequence.take k).foldl (Board.step external) ⟨pins, []⟩).Behind k := by
  induction k with
  | zero => exact ⟨rfl, fun h => by omega, fun h => by omega⟩
  | succ k ih =>
    have hnext := List.getElem?_eq_getElem hk
    rw [List.take_add_one, List.foldl_append, hnext]
    exact (ih (Nat.le_of_succ_le hk)).step hnext external

/-- What the screen makes of its start-up, whatever the pins were before and
whatever fails: one reset with the boot mode low if `screen_initialize` answers
`SUCCESS` and did not skip it, and none otherwise. -/
theorem screenInitialize_resets (kernel : Kernel SysCall Int) (skipReset : Int)
    (external : Int → Bool) (pins : Int → Pin) :
    (((screenInitialize skipReset kernel []).2.foldl seePins []).foldl (Board.step external)
        ⟨pins, []⟩).edges =
      if (screenInitialize skipReset kernel []).1 = SUCCESS ∧ skipReset = 0 then [false]
      else [] := by
  have h := (triple_screenInitialize kernel skipReset).run rfl
  generalize (screenInitialize skipReset kernel []).2.foldl seePins [] = done at h ⊢
  generalize (screenInitialize skipReset kernel []).1 = ret at h ⊢
  unfold InitializedAs at h
  split at h
  · next hskip =>
    rw [h.2, if_neg fun h => hskip h.2]
    rfl
  · next hskip =>
    have hzero : skipReset = 0 := not_not.mp hskip
    rcases h with ⟨hret, rfl⟩ | ⟨hret, k, hk, rfl⟩
    · have hall := behind_take external pins _ (Nat.le_refl pinSequence.length)
      rw [List.take_length] at hall
      rw [if_pos ⟨hret, hzero⟩]
      exact hall.edges
    · have hne : ¬ (ret = SUCCESS ∧ skipReset = 0) := by
        rintro ⟨hsuccess, _⟩
        exact absurd (hret.symm.trans hsuccess) (by decide)
      have hpart := (behind_take external pins k (Nat.le_of_lt hk)).edges
      rw [hpart, if_neg hne]
      exact if_pos hk

end K3ScreenCtrl
