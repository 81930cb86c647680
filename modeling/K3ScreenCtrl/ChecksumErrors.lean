import K3ScreenCtrl.FrameContent
import K3ScreenCtrl.Lib.ErrorPattern

/-!
# What the checksum detects

The table of `crcccitt.c` holds what a shift register of 16 bits with the
polynomial `CRC_POLY_CCITT` makes of one byte (`crcTabccitt_toBitVec`), so the
byte-wise loop is that register (`crcCcittGeneric_toBitVec`), and it tells two
payloads apart that differ within two adjacent bytes.

`frameNotifyReceived_corruptedPair` takes this to the receiver: a frame that
carries the checksum of another payload of that kind is dropped.

The same holds of every burst of 16 bits, wherever it begins
(`frameNotifyReceived_burst`), and of any three bits of the payload and the
checksum together (`frameNotifyReceived_bitErrors`): the polynomial has an even
number of terms, and the register does not come back to it within the longest
frame.
-/

namespace K3ScreenCtrl

open ByteStuffing ShiftRegister

/-! ## The table is the register -/

theorem CRC_POLY_CCITT_constantTerm : CRC_POLY_CCITT.toBitVec.getLsbD 0 = true := by decide

/-- The test of the table loop is on the top bit. -/
theorem and_0x8000_ne_zero_iff (v : UInt16) : v &&& 0x8000 ≠ 0 ↔ v.toBitVec.msb = true := by
  have hbit : (v &&& 0x8000).toBitVec = if v.toBitVec.msb then 0x8000#16 else 0#16 := by
    rw [BitVec.msb_eq_getLsbD_last]
    exact BitVec.and_twoPow v.toBitVec 15
  rw [ne_eq, ← UInt16.toBitVec_inj, hbit]
  cases v.toBitVec.msb <;> decide

/-- A round of the table loop is a step of the register. -/
theorem initCrcccittTabLoop_toBitVec (j : Nat) (crc c : UInt16) :
    (initCrcccittTabLoop j crc c).toBitVec =
      (shift CRC_POLY_CCITT.toBitVec)^[j] (crc ^^^ c).toBitVec ^^^ (c.toBitVec <<< j) := by
  induction j generalizing crc c with
  | zero =>
    rw [initCrcccittTabLoop, Function.iterate_zero_apply, BitVec.shiftLeft_zero,
      UInt16.toBitVec_xor, BitVec.xor_assoc, BitVec.xor_self, BitVec.xor_zero]
  | succ j ih =>
    -- the loop and the register shift the same difference of `crc` and `c`
    have hstep : ((if (crc ^^^ c) &&& 0x8000 ≠ 0 then (crc <<< 1) ^^^ CRC_POLY_CCITT
        else crc <<< 1) ^^^ (c <<< 1)).toBitVec =
          shift CRC_POLY_CCITT.toBitVec (crc ^^^ c).toBitVec := by
      simp only [and_0x8000_ne_zero_iff]
      rw [shift]
      cases (crc ^^^ c).toBitVec.msb with
      | true =>
        show crc.toBitVec <<< 1 ^^^ CRC_POLY_CCITT.toBitVec ^^^ (c.toBitVec <<< 1) =
          ((crc.toBitVec ^^^ c.toBitVec) <<< 1) ^^^ CRC_POLY_CCITT.toBitVec
        rw [BitVec.shiftLeft_xor_distrib]
        ac_rfl
      | false => exact (BitVec.shiftLeft_xor_distrib crc.toBitVec c.toBitVec 1).symm
    have hshift : (c <<< 1).toBitVec <<< j = c.toBitVec <<< (j + 1) := by
      rw [Nat.add_comm j 1, BitVec.shiftLeft_add]
      rfl
    rw [initCrcccittTabLoop, ih, hstep, Function.iterate_succ_apply, hshift]

/-- A word of the table is what the register makes of a byte. -/
theorem crcTabccitt_toBitVec (i : UInt16) :
    (crcTabccitt i).toBitVec = (shift CRC_POLY_CCITT.toBitVec)^[8] (i.toBitVec <<< 8) := by
  have hover : (i <<< 8).toBitVec <<< 8 = 0#16 := by
    show i.toBitVec <<< 8 <<< 8 = 0#16
    rw [← BitVec.shiftLeft_add]
    exact BitVec.shiftLeft_eq_zero (Nat.le_refl 16)
  rw [crcTabccitt, initCrcccittTabLoop_toBitVec, hover, BitVec.xor_zero, UInt16.zero_xor]
  rfl

theorem updateCrcCcitt_toBitVec (crc : UInt16) (c : UInt8) :
    (updateCrcCcitt crc c).toBitVec =
      absorb CRC_POLY_CCITT.toBitVec crc.toBitVec c.toBitVec := by
  -- the low byte of `crc` is shifted up, the high byte meets `c` in the table
  have hsplit : crc.toBitVec ^^^ top 16 c.toBitVec =
      (crc.toBitVec &&& 0xFF#16) ^^^
        ((((crc >>> 8) ^^^ c.toUInt16) &&& 0x00FF).toBitVec <<< 8) := by
    simp only [top, UInt16.toBitVec_and, UInt16.toBitVec_xor, UInt16.toBitVec_shiftRight,
      UInt8.toBitVec_toUInt16]
    ext i hi
    interval_cases i <;> simp
  have hlow : (shift CRC_POLY_CCITT.toBitVec)^[8] (crc.toBitVec &&& 0xFF#16) =
      crc.toBitVec <<< 8 := by
    rw [iterate_shift_of_clear]
    · ext i hi
      interval_cases i <;> simp
    · intro i hi hiw
      have hhigh : 8 ≤ i := by omega
      interval_cases i <;> simp
  rw [absorb, hsplit, iterate_shift_xor, hlow, updateCrcCcitt, UInt16.toBitVec_xor,
    crcTabccitt_toBitVec]
  rfl

/-- The loop over a string is the register over its bytes. -/
theorem crcCcittGeneric_toBitVec (inputStr : List UInt8) (startValue : UInt16) :
    (crcCcittGeneric inputStr startValue).toBitVec =
      absorbAll CRC_POLY_CCITT.toBitVec startValue.toBitVec (inputStr.map UInt8.toBitVec) := by
  unfold crcCcittGeneric
  induction inputStr generalizing startValue with
  | nil => rfl
  | cons c inputStr ih =>
    rw [List.foldl_cons, ih, updateCrcCcitt_toBitVec]
    rfl

/-! ## Payloads that differ within two adjacent bytes -/

/-- `p` and `p'` have one length, and they differ at most at `i` and `i + 1`. -/
structure DifferWithinPair (p p' : List UInt8) (i : Nat) : Prop where
  length_eq : p'.length = p.length
  outside : ∀ j, j ≠ i → j ≠ i + 1 → p'[j]? = p[j]?

/-- The bytes before the pair, the pair and the bytes behind it. -/
theorem eq_take_pair_drop (p : List UInt8) (i : Nat) :
    p = p.take i ++ (p.drop i).take 2 ++ p.drop (i + 2) := by
  rw [List.append_assoc, ← List.drop_drop, List.take_append_drop, List.take_append_drop]

theorem DifferWithinPair.take_eq {p p' : List UInt8} {i : Nat} (h : DifferWithinPair p p' i) :
    p'.take i = p.take i := by
  apply List.ext_getElem?
  intro j
  by_cases hj : j < i
  · rw [List.getElem?_take_of_lt hj, List.getElem?_take_of_lt hj]
    exact h.outside j (by omega) (by omega)
  · rw [List.getElem?_take_eq_none (by omega), List.getElem?_take_eq_none (by omega)]

theorem DifferWithinPair.drop_eq {p p' : List UInt8} {i : Nat} (h : DifferWithinPair p p' i) :
    p'.drop (i + 2) = p.drop (i + 2) := by
  apply List.ext_getElem?
  intro j
  rw [List.getElem?_drop, List.getElem?_drop]
  exact h.outside (i + 2 + j) (by omega) (by omega)

/-- The checksum tells such payloads apart. -/
theorem crcXmodem_ne_of_differWithinPair {p p' : List UInt8} {i : Nat}
    (h : DifferWithinPair p p' i) (hne : p ≠ p') : crcXmodem p ≠ crcXmodem p' := by
  intro hcrc
  have hpair : (p.drop i).take 2 ≠ (p'.drop i).take 2 := by
    intro heq
    apply hne
    rw [eq_take_pair_drop p i, eq_take_pair_drop p' i, h.take_eq, h.drop_eq, heq]
  have hlen : ((p'.drop i).take 2).length = ((p.drop i).take 2).length := by
    simp only [List.length_take, List.length_drop, h.length_eq]
  have hfit : ((p.drop i).take 2).length ≤ 2 := List.length_take_le 2 _
  have hregister := congrArg UInt16.toBitVec hcrc
  unfold crcXmodem at hregister
  rw [crcCcittGeneric_toBitVec, crcCcittGeneric_toBitVec, eq_take_pair_drop p i,
    eq_take_pair_drop p' i, h.take_eq, h.drop_eq] at hregister
  simp only [List.map_append] at hregister
  refine absorbAll_burst CRC_POLY_CCITT_constantTerm _ ?_ ?_ ?_ hregister
  · rw [List.length_map, List.length_map, hlen]
  · rw [List.length_map]
    omega
  · intro heq
    exact hpair (List.map_injective_iff.mpr (fun _ _ => UInt8.toBitVec_inj.mp) heq)

/-- A frame that holds one payload and the checksum of another, from which it
differs within two adjacent bytes, is dropped. -/
theorem frameNotifyReceived_corruptedPair (p p' frameBuf : List UInt8) (i : Nat)
    (hp : p.length ≤ 253) (hpair : DifferWithinPair p p' i) (hne : p ≠ p')
    (hcontent : framed frameMarks false false frameBuf =
      p' ++ [checksumLow (crcXmodem p), checksumHigh (crcXmodem p)]) :
    frameNotifyReceived frameBuf = some [] := by
  have hlen : (p' ++ [checksumLow (crcXmodem p), checksumHigh (crcXmodem p)]).length =
      p.length + 2 := by
    rw [List.length_append, hpair.length_eq]
    rfl
  have hblock : lastBlock (framed frameMarks false false frameBuf) =
      p' ++ [checksumLow (crcXmodem p), checksumHigh (crcXmodem p)] := by
    rw [hcontent]
    exact lastBlock_of_length_le (by omega)
  refine (frameNotifyReceived_spec frameBuf hblock).2.2 (by omega) ?_
  -- the receiver's checksum is that of `p'`, the frame's is that of `p`
  rw [checks_concat_iff, readShort_checksum]
  exact (crcXmodem_ne_of_differWithinPair hpair hne).symm

/-- The two middle bytes of a payload were changed on the line. -/
theorem frameNotifyReceived_corruptedPair_example :
    frameNotifyReceived [0x01, 0x30, 0x41, 0x42, 0x05, 0x7F, 0x47, 0x04] = some [] := by
  refine frameNotifyReceived_corruptedPair [0x30, 0x02, 0x03, 0x05] [0x30, 0x41, 0x42, 0x05] _ 1
    (by decide) ⟨rfl, ?_⟩ (by decide) (by decide +kernel)
  intro j h1 h2
  match j with
  | 0 => rfl
  | 1 => exact absurd rfl h1
  | 2 => exact absurd rfl h2
  | j + 3 => rfl

/-! ## Bursts of bits -/

/-- The bits of a string, the most significant of each byte first. -/
def bitString (p : List UInt8) : List (BitVec 1) := (p.map UInt8.toBitVec).flatMap bits

theorem map_toBitVec_injective : Function.Injective (List.map UInt8.toBitVec) :=
  List.map_injective_iff.mpr fun _ _ => UInt8.toBitVec_inj.mp

theorem length_bitString (p : List UInt8) : (bitString p).length = p.length * 8 := by
  rw [bitString, length_flatMap_bits, List.length_map]

theorem crcXmodem_ne_of_burst {p p' : List UInt8} {i : Nat}
    (hburst : DifferWithin (bitString p) (bitString p') i 16) (hne : p ≠ p') :
    crcXmodem p ≠ crcXmodem p' := by
  intro hcrc
  have hlen : p'.length = p.length := by
    have hbits := hburst.length_eq
    rw [length_bitString, length_bitString] at hbits
    omega
  have hregister := congrArg UInt16.toBitVec hcrc
  unfold crcXmodem at hregister
  rw [crcCcittGeneric_toBitVec, crcCcittGeneric_toBitVec] at hregister
  refine absorbAll_bit_burst CRC_POLY_CCITT_constantTerm (by decide) _ ?_ hburst ?_ hregister
  · rw [List.length_map, List.length_map, hlen]
  · exact fun heq => hne (map_toBitVec_injective heq)

/-- A frame that holds one payload and the checksum of another, from which it
differs within 16 successive bits, is dropped. -/
theorem frameNotifyReceived_burst (p p' frameBuf : List UInt8) (i : Nat) (hp : p.length ≤ 253)
    (hburst : DifferWithin (bitString p) (bitString p') i 16) (hne : p ≠ p')
    (hcontent : framed frameMarks false false frameBuf =
      p' ++ [checksumLow (crcXmodem p), checksumHigh (crcXmodem p)]) :
    frameNotifyReceived frameBuf = some [] := by
  have hlen : (p' ++ [checksumLow (crcXmodem p), checksumHigh (crcXmodem p)]).length =
      p.length + 2 := by
    have hbits := hburst.length_eq
    rw [length_bitString, length_bitString] at hbits
    rw [List.length_append, List.length_cons, List.length_singleton]
    omega
  have hblock := lastBlock_of_length_le (c := framed frameMarks false false frameBuf)
    (by rw [hcontent, hlen]; omega)
  refine (frameNotifyReceived_spec frameBuf (hblock.trans hcontent)).2.2 (by omega) ?_
  rw [checks_concat_iff, readShort_checksum]
  exact (crcXmodem_ne_of_burst hburst hne).symm

/-- The last two bits of a byte, the next byte and the first six bits of the
third were changed on the line. -/
theorem frameNotifyReceived_burst_threeBytes :
    frameNotifyReceived [0x01, 0x30, 0x41, 0xBD, 0xF9, 0x2F, 0x64, 0x04] = some [] :=
  frameNotifyReceived_burst [0x30, 0x42, 0x42, 0x05] [0x30, 0x41, 0xBD, 0xF9] _ 14
    (by decide) (.of_take_drop rfl (by decide +kernel) (by decide +kernel)) (by decide)
    (by decide +kernel)

/-! ## Few wrong bits -/

theorem CRC_POLY_CCITT_parity : parity CRC_POLY_CCITT.toBitVec = true := by decide

/-- Within the bits of the longest frame the register does not come back to the
polynomial. -/
theorem CRC_POLY_CCITT_order {d : Nat} (hpos : 0 < d) (hd : d < 2040) :
    (shift CRC_POLY_CCITT.toBitVec)^[d] CRC_POLY_CCITT.toBitVec ≠ CRC_POLY_CCITT.toBitVec := by
  have haway : avoids CRC_POLY_CCITT.toBitVec CRC_POLY_CCITT.toBitVec 2040
      (shift CRC_POLY_CCITT.toBitVec CRC_POLY_CCITT.toBitVec) = true := by decide +kernel
  obtain ⟨d, rfl⟩ := Nat.exists_eq_succ_of_ne_zero hpos.ne'
  rw [Function.iterate_succ_apply]
  exact ne_of_avoids haway (by omega)

/-- In how many bits two strings differ. -/
def bitErrors (c c' : List UInt8) : Nat := flips (c.map UInt8.toBitVec) (c'.map UInt8.toBitVec)

theorem bitErrors_append {p p' : List UInt8} (hlen : p'.length = p.length) (q q' : List UInt8) :
    bitErrors (p ++ q) (p' ++ q') = bitErrors p p' + bitErrors q q' := by
  induction p generalizing p' with
  | nil =>
    rw [List.length_eq_zero_iff.mp hlen]
    exact (Nat.zero_add _).symm
  | cons b p ih =>
    cases p' with
    | nil => cases hlen
    | cons b' p' =>
      simp only [bitErrors, List.cons_append, List.map_cons, flips_cons] at ih ⊢
      rw [ih (Nat.succ.inj hlen), Nat.add_assoc]

/-- The two checksum bytes hold the bits of the checksum. -/
theorem readShort_toBitVec (low high : UInt8) :
    (readShort low high).toBitVec = high.toBitVec ++ low.toBitVec := by
  simp only [readShort, UInt16.toBitVec_or, UInt16.toBitVec_shiftLeft, UInt8.toBitVec_toUInt16]
  apply BitVec.eq_of_getLsbD_eq
  intro i hi
  rw [BitVec.getLsbD_append]
  interval_cases i <;> simp

theorem bitErrors_checksum (low high low' high' : UInt8) :
    bitErrors [low, high] [low', high'] =
      flips [(readShort low high).toBitVec] [(readShort low' high').toBitVec] := by
  rw [flips_singleton, readShort_toBitVec, readShort_toBitVec, BitVec.xor_append, bits_append,
    List.count_append, Nat.add_comm, bitErrors]
  simp only [List.map_cons, List.map_nil, flips_cons]
  rfl

/-- The checksum and the payload together: two of them that differ in three bits
at most are the same. -/
theorem eq_of_bitErrors_le_three {p q : List UInt8} (hp : p.length ≤ 253)
    (hlen : q.length = p.length)
    (hbits : bitErrors p q + flips [(crcXmodem p).toBitVec] [(crcXmodem q).toBitVec] ≤ 3) :
    p = q := by
  unfold crcXmodem at hbits
  rw [crcCcittGeneric_toBitVec, crcCcittGeneric_toBitVec] at hbits
  apply map_toBitVec_injective
  refine eq_of_flips_le_three CRC_POLY_CCITT_constantTerm CRC_POLY_CCITT_parity (by decide) _
    (by rw [List.length_map, List.length_map, hlen]) ?_ hbits
  intro d hpos hd
  rw [List.length_map] at hd
  exact CRC_POLY_CCITT_order hpos (by omega)

/-- A frame that differs from a good one in one, two or three bits of the payload
and the checksum is dropped. -/
theorem frameNotifyReceived_bitErrors (p c frameBuf : List UInt8) (hp : p.length ≤ 253)
    (hlen : c.length = p.length + 2) (hne : c ≠ withChecksum p)
    (hbits : bitErrors (withChecksum p) c ≤ 3)
    (hcontent : framed frameMarks false false frameBuf = c) :
    frameNotifyReceived frameBuf = some [] := by
  have hblock := lastBlock_of_length_le (c := framed frameMarks false false frameBuf)
    (by rw [hcontent, hlen]; omega)
  refine (frameNotifyReceived_spec frameBuf (hblock.trans hcontent)).2.2 (by omega) ?_
  obtain ⟨q, low, high, rfl⟩ := exists_checksum_bytes (c := c) (by omega)
  rw [List.length_append, List.length_cons, List.length_singleton, Nat.add_right_cancel_iff] at hlen
  rw [checks_concat_iff]
  intro hchecks
  -- a second right checksum, three bits away at most
  apply hne
  rw [withChecksum, bitErrors_append hlen, bitErrors_checksum, readShort_checksum,
    ← hchecks] at hbits
  obtain ⟨hlow, hhigh⟩ := checksum_readShort low high
  rw [eq_of_bitErrors_le_three hp hlen hbits, withChecksum, hchecks, hlow, hhigh]

/-- Three bits far apart were changed on the line, one of them in the checksum. -/
theorem frameNotifyReceived_bitErrors_three :
    frameNotifyReceived [0x01, 0xB0, 0x42, 0x42, 0x07, 0x2F, 0x65, 0x04] = some [] :=
  frameNotifyReceived_bitErrors [0x30, 0x42, 0x42, 0x05] [0xB0, 0x42, 0x42, 0x07, 0x2F, 0x65] _
    (by decide) rfl (by decide +kernel) (by decide +kernel) (by decide +kernel)

/-- Four wrong bits can go unnoticed, in the pattern of the polynomial. -/
example : bitErrors (withChecksum [0x02, 0x02, 0x02]) (withChecksum [0x03, 0x12, 0x23]) = 4 := by
  decide +kernel

end K3ScreenCtrl
