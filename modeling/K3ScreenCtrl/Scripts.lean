import K3ScreenCtrl.Lib.CString

/-!
# Running a script

`scripts.c`: `script_get_output` runs a command and reads its output into a
block that `malloc` returns.  The block is not cleared and the output is not
terminated, so what a reader of the block finds depends on what the block held
before.

`ScriptOutput` is the case the updaters are written for, a string that ends
inside the block.  `ScriptRun` adds what happens to the block when it is freed:
`free` may write over some of its bytes.
-/

namespace K3ScreenCtrl

open CString

def SCRIPT_OUTPUT_BUFFER_SIZE : Nat := 65536

/-- The block that holds a script's output. -/
abbrev ScriptBlock := CharArray SCRIPT_OUTPUT_BUFFER_SIZE

/-- `fread(ret, 1, SCRIPT_OUTPUT_BUFFER_SIZE, fp)` into a block that held
`prior`. -/
def freadBlock (prior : ScriptBlock) (stream : List UInt8) : ScriptBlock where
  bytes := stream.take SCRIPT_OUTPUT_BUFFER_SIZE ++ prior.bytes.drop stream.length
  length_eq := by
    rw [List.length_append, List.length_take, List.length_drop, CharArray.length_bytes]
    omega

/-- `script_get_output`.  `stream` is what the command prints, if `popen`
works, and `prior` is what the block held before. -/
def scriptGetOutput (prior : ScriptBlock) (stream : Option (List UInt8)) : Option ScriptBlock :=
  match stream with
  | none => none
  | some stream => if stream = [] then none else some (freadBlock prior stream)

/-- A string that ends inside the block. -/
structure ScriptOutput where
  str : List UInt8
  nul_not_mem : 0 ∉ str
  length_lt : str.length < SCRIPT_OUTPUT_BUFFER_SIZE

/-- The string at the start of a block, if it ends inside it. -/
def blockString (block : ScriptBlock) : Option ScriptOutput :=
  if h : 0 ∈ block.bytes then
    some
      { str := block.str
        nul_not_mem := block.nul_not_mem_str
        length_lt := CharArray.length_str_lt h }
  else none

/-- One run of a script, as an updater sees it.  `output` is the string that
`script_get_output` returns, if any, and `overlay` is what `free` writes over
the block: the bytes it leaves alone still read as before. -/
structure ScriptRun where
  output : Option ScriptOutput
  overlay : Nat → Option UInt8

/-- The byte at an offset of the freed block. -/
def ScriptRun.byteAfterFree (run : ScriptRun) (out : ScriptOutput) (offset : Nat) : UInt8 :=
  (run.overlay offset).getD (out.str.getD offset 0)

/-- The run that an updater sees when the command prints `stream` and the block
held `prior`.  A block that holds no NUL is read past its end, which has no
defined result. -/
def readScript (prior : ScriptBlock) (stream : Option (List UInt8))
    (overlay : Nat → Option UInt8) : Option ScriptRun :=
  match scriptGetOutput prior stream with
  | none => some { output := none, overlay := overlay }
  | some block =>
    (blockString block).map fun out => { output := some out, overlay := overlay }

/-- A short text as a script's output. -/
def ScriptOutput.ofText (s : List UInt8) (h : 0 ∉ s) (hs : s.length < 100) : ScriptOutput where
  str := s
  nul_not_mem := h
  length_lt := Nat.lt_trans hs (by decide)

/-- The run of a script whose output is a short text, with a `free` that
changes nothing. -/
def ScriptRun.ofText (s : List UInt8) (h : 0 ∉ s) (hs : s.length < 100) : ScriptRun where
  output := some (.ofText s h hs)
  overlay := fun _ => none

end K3ScreenCtrl
