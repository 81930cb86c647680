import K3ScreenCtrl.ScriptFormats
import Mathlib.Data.List.Chain

/-!
# The WAN script

`wan.sh` takes the speeds from two of its runs: it leaves the clock and the
byte counters in a temp file, and the next run divides the differences by the
time in between.

The script is run by the `sh` of the router, which computes in integers of 64
bits.  `date +%s` and the counters of `/proc/net/dev` are not negative, but
they can go down: the clock when it is set, the counters when the interface is
created again.

* `wanScript_next` is a run behind another one.
* `nonneg_shellQuotient_iff` is the sign of one speed.
* `speedsNonneg_iff` says for every sequence of runs when no speed is negative.
* `gWanInfo_updateWanInfo` is what `update_wan_info` makes of an output.
-/

namespace K3ScreenCtrl

open CString Pieces

/-! ## Shell arithmetic -/

/-- A shell integer: 64 bits, in two's complement. -/
def shellInt (x : Int) : Int := x.bmod (2 ^ 64)

/-- The value of `$VAR` in an arithmetic expression.  A variable that is empty
leaves nothing in front of the operator behind it, which counts as 0. -/
def shellValue (var : List UInt8) : Int := shellInt (decimal var)

/-- `$(($A-$B))`. -/
def shellDifference (a b : List UInt8) : Int := shellInt (shellValue a - shellValue b)

/-- `x / y` in an arithmetic expression. -/
def shellQuotient (x y : Int) : Int := shellInt (x.tdiv y)

/-! ## The script -/

/-- What a run of `wan.sh` meets: the addresses of the interface, the clock, and
the byte counters, which are missing if the interface is not listed. -/
structure WanReading where
  ipv4Addr : List UInt8
  ipv6Addr : List UInt8
  currTime : Nat
  currUploadBytes : Option UInt64
  currDownloadBytes : Option UInt64

/-- The text of a counter. -/
def counterText : Option UInt64 → List UInt8
  | none => []
  | some bytes => numeral bytes.toNat

/-- `/tmp/wan_speed_temp`: the lines that were echoed to it. -/
abbrev TempFile := List (List UInt8)

/-- The variables that the `while read line` loop sets. -/
structure LastVars where
  lastTime : List UInt8
  lastUploadBytes : List UInt8
  lastDownloadBytes : List UInt8

def LastVars.unset : LastVars := ⟨[], [], []⟩

/-- The body of the loop, with `LINENO` next to the variables. -/
def readTempLine (s : LastVars × Nat) (line : List UInt8) : LastVars × Nat :=
  let vars :=
    match s.2 with
    | 0 => { s.1 with lastTime := line }
    | 1 => { s.1 with lastUploadBytes := line }
    | 2 => { s.1 with lastDownloadBytes := line }
    | _ => s.1
  (vars, s.2 + 1)

def readTempFile : Option TempFile → LastVars
  | none => .unset
  | some lines => (lines.foldl readTempLine (.unset, 0)).1

/-- What a run prints. -/
structure WanOutput where
  connected : Int
  uploadBps : Int
  downloadBps : Int
deriving DecidableEq

/-- `wan.sh`: the temp file that it leaves, and what it prints. -/
def wanScript (tempFile : Option TempFile) (reading : WanReading) : TempFile × WanOutput :=
  let connected := if reading.ipv4Addr ≠ [] ∨ reading.ipv6Addr ≠ [] then 1 else 0
  let currTime := numeral reading.currTime
  let currUploadBytes := counterText reading.currUploadBytes
  let currDownloadBytes := counterText reading.currDownloadBytes
  let last := readTempFile tempFile
  let written := [currTime, currUploadBytes, currDownloadBytes]
  if last.lastTime = [] ∨ last.lastUploadBytes = [] ∨ last.lastDownloadBytes = [] then
    -- first time of launch
    (written, { connected := connected, uploadBps := 0, downloadBps := 0 })
  else
    let difference := shellDifference currTime last.lastTime
    let timeDeltaS := if difference = 0 then 1 else difference
    (written,
      { connected := connected
        uploadBps :=
          shellQuotient (shellDifference currUploadBytes last.lastUploadBytes) timeDeltaS
        downloadBps :=
          shellQuotient (shellDifference currDownloadBytes last.lastDownloadBytes) timeDeltaS })

/-- What the runs print, one after the other. -/
def wanRuns : Option TempFile → List WanReading → List WanOutput
  | _, [] => []
  | tempFile, reading :: readings =>
    let result := wanScript tempFile reading
    result.2 :: wanRuns (some result.1) readings

/-- No run prints a negative speed, without the temp file at the start. -/
def SpeedsNonneg (readings : List WanReading) : Prop :=
  ∀ out ∈ wanRuns none readings, 0 ≤ out.uploadBps ∧ 0 ≤ out.downloadBps

/-! ## One speed -/

theorem shellInt_bounds (x : Int) : -2 ^ 63 ≤ shellInt x ∧ shellInt x < 2 ^ 63 := by
  have hlow : -((2 ^ 64 : Nat) / 2 : Int) ≤ x.bmod (2 ^ 64) := Int.le_bmod (by decide)
  have hhigh : x.bmod (2 ^ 64) < ((2 ^ 64 : Nat) + 1) / 2 := Int.bmod_lt (by decide)
  unfold shellInt
  omega

theorem shellInt_of_bounds {x : Int} (hlow : -2 ^ 63 ≤ x) (hhigh : x < 2 ^ 63) :
    shellInt x = x := by
  unfold shellInt
  rw [Int.bmod_eq_of_le] <;> omega

/-- The bytes went the way of the clock, or changed by less than one for every
second.  The smallest integer over -1 is no positive integer. -/
def SameDirection (bytes seconds : Int) : Prop :=
  bytes.natAbs < seconds.natAbs ∨ (0 ≤ bytes ∧ 0 ≤ seconds) ∨
    (bytes ≤ 0 ∧ seconds < 0 ∧ ¬ (bytes = -2 ^ 63 ∧ seconds = -1))

/-- The sign of a quotient. -/
theorem tdiv_nonneg_iff {x y : Int} (hy : y ≠ 0) :
    0 ≤ x.tdiv y ↔ x.natAbs < y.natAbs ∨ (0 ≤ x ∧ 0 ≤ y) ∨ (x ≤ 0 ∧ y < 0) := by
  rw [← Int.sign_nonneg_iff, Int.sign_tdiv]
  split
  · next hlt => exact ⟨fun _ => Or.inl hlt, fun _ => Int.le_refl 0⟩
  · next hle =>
    rcases Int.lt_trichotomy x 0 with hx | hx | hx
    · rcases Int.lt_or_gt_of_ne hy with hyneg | hypos
      · rw [Int.sign_eq_neg_one_of_neg hx, Int.sign_eq_neg_one_of_neg hyneg]
        omega
      · rw [Int.sign_eq_neg_one_of_neg hx, Int.sign_eq_one_of_pos hypos]
        omega
    · omega
    · rcases Int.lt_or_gt_of_ne hy with hyneg | hypos
      · rw [Int.sign_eq_one_of_pos hx, Int.sign_eq_neg_one_of_neg hyneg]
        omega
      · rw [Int.sign_eq_one_of_pos hx, Int.sign_eq_one_of_pos hypos]
        omega

/-- A quotient of shell integers is one, but for the smallest over -1. -/
theorem shellQuotient_eq {x y : Int} (hlow : -2 ^ 63 ≤ x) (hhigh : x < 2 ^ 63)
    (hover : ¬ (x = -2 ^ 63 ∧ y = -1)) : shellQuotient x y = x.tdiv y := by
  have habs := Int.natAbs_tdiv_le_natAbs x y
  apply shellInt_of_bounds
  · omega
  · by_contra hge
    -- the quotient has the size of the smallest integer, so the divisor is 1 or -1
    have hq : (x.tdiv y).natAbs = 2 ^ 63 := by omega
    have hx : x = -2 ^ 63 := by omega
    have hxabs : x.natAbs = 2 ^ 63 := by omega
    have hy : y.natAbs = 1 := by
      rw [Int.natAbs_tdiv, hxabs] at hq
      exact (Nat.div_eq_self.mp hq).resolve_left (by decide)
    rcases Int.natAbs_eq_iff.mp hy with hone | hminus
    · rw [hone, Int.natCast_one, Int.tdiv_one] at hge
      omega
    · exact hover ⟨hx, hminus⟩

/-- The sign of a speed, with the divisor that the script puts in for no time. -/
theorem nonneg_shellQuotient_iff {bytes : Int} (hlow : -2 ^ 63 ≤ bytes) (hhigh : bytes < 2 ^ 63)
    (seconds : Int) :
    0 ≤ shellQuotient bytes (if seconds = 0 then 1 else seconds) ↔
      SameDirection bytes seconds := by
  unfold SameDirection
  by_cases hzero : seconds = 0
  · rw [if_pos hzero, shellQuotient, Int.tdiv_one, shellInt_of_bounds hlow hhigh]
    omega
  · rw [if_neg hzero]
    by_cases hover : bytes = -2 ^ 63 ∧ seconds = -1
    · rw [hover.1, hover.2]
      decide
    · rw [shellQuotient_eq hlow hhigh hover, tdiv_nonneg_iff hzero]
      omega

/-! ## One run behind another -/

/-- The value of a counter that may be missing. -/
def counterValue (counter : Option UInt64) : Nat := counter.elim 0 UInt64.toNat

theorem decimal_counterText (counter : Option UInt64) :
    decimal (counterText counter) = counterValue counter := by
  cases counter with
  | none => rfl
  | some bytes => exact (isNumeral_numeral bytes.toNat).2.2

theorem counterText_eq_nil_iff {counter : Option UInt64} :
    counterText counter = [] ↔ counter = none := by
  cases counter with
  | none => exact ⟨fun _ => rfl, fun _ => rfl⟩
  | some bytes =>
    exact ⟨fun h => absurd h (isNumeral_numeral bytes.toNat).1, fun h => nomatch h⟩

theorem shellDifference_eq (a b : List UInt8) :
    shellDifference a b = shellInt ((decimal a : Int) - decimal b) := by
  unfold shellDifference shellValue shellInt
  rw [← Int.sub_bmod]

/-- The seconds between two runs. -/
def secondsBetween (prev curr : WanReading) : Int :=
  shellInt ((curr.currTime : Int) - prev.currTime)

/-- The bytes that a counter went up by. -/
def bytesBetween (prev curr : Option UInt64) : Int :=
  shellInt ((counterValue curr : Int) - counterValue prev)

/-- The lines that a run leaves in the temp file. -/
def WanReading.written (reading : WanReading) : TempFile :=
  [numeral reading.currTime, counterText reading.currUploadBytes,
    counterText reading.currDownloadBytes]

@[simp] theorem wanScript_fst (tempFile : Option TempFile) (reading : WanReading) :
    (wanScript tempFile reading).1 = reading.written := by
  unfold wanScript
  dsimp only
  split <;> rfl

/-- The first run prints zeros. -/
theorem wanScript_first (reading : WanReading) :
    (wanScript none reading).2.uploadBps = 0 ∧ (wanScript none reading).2.downloadBps = 0 :=
  ⟨rfl, rfl⟩

/-- Both speeds of the run `curr` behind the run `prev` have the direction of
time, or the run `prev` saw no counters. -/
def Forward (prev curr : WanReading) : Prop :=
  prev.currUploadBytes = none ∨ prev.currDownloadBytes = none ∨
    (SameDirection (bytesBetween prev.currUploadBytes curr.currUploadBytes)
        (secondsBetween prev curr) ∧
      SameDirection (bytesBetween prev.currDownloadBytes curr.currDownloadBytes)
        (secondsBetween prev curr))

/-- What a run prints behind another one. -/
theorem wanScript_next (prev curr : WanReading) :
    ((wanScript (some prev.written) curr).2.uploadBps,
        (wanScript (some prev.written) curr).2.downloadBps) =
      if prev.currUploadBytes = none ∨ prev.currDownloadBytes = none then (0, 0)
      else
        let seconds := secondsBetween prev curr
        let divisor := if seconds = 0 then 1 else seconds
        (shellQuotient (bytesBetween prev.currUploadBytes curr.currUploadBytes) divisor,
          shellQuotient (bytesBetween prev.currDownloadBytes curr.currDownloadBytes) divisor) := by
  have hread : readTempFile (some prev.written) =
      ⟨numeral prev.currTime, counterText prev.currUploadBytes,
        counterText prev.currDownloadBytes⟩ := rfl
  have htime : numeral prev.currTime ≠ [] := (isNumeral_numeral _).1
  have hvalue (n : Nat) : decimal (numeral n) = n := (isNumeral_numeral n).2.2
  unfold wanScript secondsBetween bytesBetween
  simp only [hread, htime, false_or, counterText_eq_nil_iff, shellDifference_eq, hvalue,
    decimal_counterText]
  split <;> rfl

/-- A run behind another one prints no negative speed exactly when both
differences have the direction of time. -/
theorem nonneg_wanScript_next_iff (prev curr : WanReading) :
    (0 ≤ (wanScript (some prev.written) curr).2.uploadBps ∧
        0 ≤ (wanScript (some prev.written) curr).2.downloadBps) ↔ Forward prev curr := by
  have hnext := Prod.ext_iff.mp (wanScript_next prev curr)
  have hup := shellInt_bounds
    ((counterValue curr.currUploadBytes : Int) - counterValue prev.currUploadBytes)
  have hdown := shellInt_bounds
    ((counterValue curr.currDownloadBytes : Int) - counterValue prev.currDownloadBytes)
  dsimp only at hnext
  rw [hnext.1, hnext.2]
  unfold Forward
  by_cases hmissing : prev.currUploadBytes = none ∨ prev.currDownloadBytes = none
  · rw [if_pos hmissing]
    rcases hmissing with hnone | hnone
    · exact ⟨fun _ => Or.inl hnone, fun _ => ⟨Int.le_refl 0, Int.le_refl 0⟩⟩
    · exact ⟨fun _ => Or.inr (Or.inl hnone), fun _ => ⟨Int.le_refl 0, Int.le_refl 0⟩⟩
  · rw [if_neg hmissing]
    show (0 ≤ shellQuotient (shellInt _) _ ∧ 0 ≤ shellQuotient (shellInt _) _) ↔ _
    rw [nonneg_shellQuotient_iff hup.1 hup.2, nonneg_shellQuotient_iff hdown.1 hdown.2]
    rw [not_or] at hmissing
    simp only [hmissing.1, hmissing.2, false_or]
    rfl

/-! ## Every sequence of runs -/

/-- The runs behind a run print no negative speed exactly when each of them has
the direction of time. -/
theorem nonneg_wanRuns_iff (prev : WanReading) (readings : List WanReading) :
    (∀ out ∈ wanRuns (some prev.written) readings, 0 ≤ out.uploadBps ∧ 0 ≤ out.downloadBps) ↔
      (prev :: readings).IsChain Forward := by
  induction readings generalizing prev with
  | nil => simp [wanRuns]
  | cons curr readings ih =>
    rw [wanRuns, List.forall_mem_cons, wanScript_fst, nonneg_wanScript_next_iff, ih,
      List.isChain_cons_cons]

/-- No run prints a negative speed exactly when every run behind another one has
the direction of time. -/
theorem speedsNonneg_iff (readings : List WanReading) :
    SpeedsNonneg readings ↔ readings.IsChain Forward := by
  cases readings with
  | nil => simp [SpeedsNonneg, wanRuns]
  | cons first readings =>
    have hfirst := wanScript_first first
    rw [SpeedsNonneg, wanRuns, List.forall_mem_cons, wanScript_fst, nonneg_wanRuns_iff, hfirst.1,
      hfirst.2]
    exact ⟨fun h => h.2, fun h => ⟨⟨Int.le_refl 0, Int.le_refl 0⟩, h⟩⟩

/-- A run with the given clock and counters, on a connected interface. -/
def connectedReading (currTime : Nat) (bytes : UInt64) : WanReading where
  ipv4Addr := [0x31]
  ipv6Addr := []
  currTime := currTime
  currUploadBytes := some bytes
  currDownloadBytes := some bytes

/-- The interface is created again between two runs, and its counters start
from 0. -/
theorem speedsNonneg_counterexample : ¬ ∀ readings, SpeedsNonneg readings := by
  intro hall
  have hsecond := hall [connectedReading 100 5000, connectedReading 110 0]
    { connected := 1, uploadBps := -500, downloadBps := -500 } (by decide +kernel)
  exact absurd hsecond.1 (by decide)

/-! ## The updater -/

/-- What a run prints, as text. -/
def WanOutput.lines (out : WanOutput) : List (List UInt8) :=
  [signedNumeral out.connected, signedNumeral out.uploadBps, signedNumeral out.downloadBps]

def WanOutput.text (out : WanOutput) : List UInt8 := render NEWLINE out.lines

theorem newline_not_mem_signedNumeral (v : Int) : NEWLINE ∉ signedNumeral v := by
  have hdigits (n : Nat) : NEWLINE ∉ numeral n :=
    fun hmem => absurd (isDigit_of_mem_numeral hmem) (by decide)
  unfold signedNumeral
  split
  · intro hmem
    rcases List.mem_cons.mp hmem with hminus | hmem
    · exact absurd hminus (by decide)
    · exact hdigits _ hmem
  · exact hdigits _

theorem WanOutput.newline_not_mem (out : WanOutput) : ∀ line ∈ out.lines, NEWLINE ∉ line := by
  simp [lines, newline_not_mem_signedNumeral]

/-- An `unsigned int` takes the bits of a number. -/
theorem toNat_ofInt (v : Int) : ((UInt32.ofInt v).toNat : Int) = v % 2 ^ 32 := by
  rw [UInt32.ofInt, UInt32.toNat_ofNat']
  omega

theorem ofInt_atoi_signedNumeral (v : Int) :
    UInt32.ofInt (atoi (signedNumeral v)) = UInt32.ofInt v := by
  have hbits : ((UInt32.ofInt (atoi (signedNumeral v))).toNat : Int) =
      (UInt32.ofInt v).toNat := by
    rw [toNat_ofInt, toNat_ofInt, atoi_signedNumeral]
    exact Int.bmod_emod
  exact UInt32.toNat_inj.mp (Int.ofNat_inj.mp hbits)

/-- The updater stores the bits of the printed numbers, so a negative speed
becomes one close to `2 ^ 32`. -/
theorem gWanInfo_updateWanInfo {run : ScriptRun} {out : ScriptOutput}
    (hrun : run.output = some out) (printed : WanOutput) (hout : out.str = printed.text)
    (t : Tables) :
    (updateWanInfo run t).2.gWanInfo =
      { isConnected := UInt32.ofInt printed.connected
        txBytesPerSec := UInt32.ofInt printed.uploadBps
        rxBytesPerSec := UInt32.ofInt printed.downloadBps } := by
  have hlength : printed.lines.length = wanInfoMembers.length := rfl
  rw [updateWanInfo, ScriptFields.updateStorageFromScript_of_lines hrun hout
    printed.newline_not_mem hlength]
  show WanInfo.mk (UInt32.ofInt (atoi (signedNumeral printed.connected)))
    (UInt32.ofInt (atoi (signedNumeral printed.uploadBps)))
    (UInt32.ofInt (atoi (signedNumeral printed.downloadBps))) = _
  rw [ofInt_atoi_signedNumeral, ofInt_atoi_signedNumeral, ofInt_atoi_signedNumeral]

/-- A speed of -500 is stored as 4294966796. -/
example : (UInt32.ofInt (-500)).toNat = 4294966796 := by decide

end K3ScreenCtrl
