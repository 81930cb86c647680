import Mathlib.Data.List.Basic
import Mathlib.Tactic.IntervalCases

/-!
# The X-Modem checksum

`crcccitt.c`: the CCITT polynomial, a byte at a time from a table of 256 words.
-/

namespace K3ScreenCtrl

def CRC_POLY_CCITT : UInt16 := 0x1021
def CRC_START_XMODEM : UInt16 := 0x0000

/-- The inner loop of `init_crcccitt_tab`, with `j` rounds to go. -/
def initCrcccittTabLoop : Nat → UInt16 → UInt16 → UInt16
  | 0, crc, _ => crc
  | j + 1, crc, c =>
    let crc' := if (crc ^^^ c) &&& 0x8000 ≠ 0 then (crc <<< 1) ^^^ CRC_POLY_CCITT else crc <<< 1
    initCrcccittTabLoop j crc' (c <<< 1)

/-- `crc_tabccitt[i]`, as `init_crcccitt_tab` fills it. -/
def crcTabccitt (i : UInt16) : UInt16 :=
  initCrcccittTabLoop 8 0 (i <<< 8)

/-- `update_crc_ccitt`, the body of the loop of `crc_ccitt_generic`. -/
def updateCrcCcitt (crc : UInt16) (c : UInt8) : UInt16 :=
  (crc <<< 8) ^^^ crcTabccitt (((crc >>> 8) ^^^ c.toUInt16) &&& 0x00FF)

/-- `crc_ccitt_generic`. -/
def crcCcittGeneric (inputStr : List UInt8) (startValue : UInt16) : UInt16 :=
  inputStr.foldl updateCrcCcitt startValue

/-- `crc_xmodem`. -/
def crcXmodem (inputStr : List UInt8) : UInt16 :=
  crcCcittGeneric inputStr CRC_START_XMODEM

/-- The check value of the X-Modem checksum, for the string `"123456789"`. -/
example : crcXmodem [0x31, 0x32, 0x33, 0x34, 0x35, 0x36, 0x37, 0x38, 0x39] = 0x31C3 := by
  decide +kernel

/-! ## The two checksum bytes -/

/-- `checksum & 0xff`. -/
def checksumLow (checksum : UInt16) : UInt8 := (checksum &&& 0xff).toUInt8

/-- `(checksum & 0xff00) >> 8`. -/
def checksumHigh (checksum : UInt16) : UInt8 := ((checksum &&& 0xff00) >>> 8).toUInt8

/-- `*(unsigned short *)` at two adjacent bytes, little endian. -/
def readShort (low high : UInt8) : UInt16 := low.toUInt16 ||| (high.toUInt16 <<< 8)

/-- The receiver reads back the checksum that the sender splits. -/
theorem readShort_checksum (c : UInt16) : readShort (checksumLow c) (checksumHigh c) = c := by
  apply UInt16.toBitVec_inj.mp
  simp only [readShort, checksumLow, checksumHigh, UInt16.toBitVec_or, UInt16.toBitVec_shiftLeft,
    UInt8.toBitVec_toUInt16, UInt16.toBitVec_toUInt8, UInt16.toBitVec_and,
    UInt16.toBitVec_shiftRight]
  ext i hi
  interval_cases i <;> simp [BitVec.getLsbD_eq_getElem]

/-- Every two bytes are the checksum that the receiver reads off them. -/
theorem checksum_readShort (low high : UInt8) :
    checksumLow (readShort low high) = low ∧ checksumHigh (readShort low high) = high := by
  constructor
  · apply UInt8.toBitVec_inj.mp
    simp only [readShort, checksumLow, UInt16.toBitVec_or, UInt16.toBitVec_shiftLeft,
      UInt8.toBitVec_toUInt16, UInt16.toBitVec_toUInt8, UInt16.toBitVec_and]
    ext i hi
    interval_cases i <;> simp
  · apply UInt8.toBitVec_inj.mp
    simp only [readShort, checksumHigh, UInt16.toBitVec_or, UInt16.toBitVec_shiftLeft,
      UInt8.toBitVec_toUInt16, UInt16.toBitVec_toUInt8, UInt16.toBitVec_and,
      UInt16.toBitVec_shiftRight]
    ext i hi
    interval_cases i <;> simp [BitVec.getLsbD_eq_getElem]

end K3ScreenCtrl
