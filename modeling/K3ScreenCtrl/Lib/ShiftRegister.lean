import Mathlib.Logic.Function.Iterate

/-!
# Linear feedback shift registers

A register of `w` bits that takes in words of `m` bits, the most significant
bit first: the remainder of a polynomial division, as cyclic redundancy checks
compute it.

The division is linear (`iterate_shift_xor`), and if the polynomial has a
constant term it loses nothing (`shift_injective`).  So the register tells two
words apart, and two runs that once differ go on to differ
(`absorbAll_injective`).  Words that fit the register together are told apart
as well (`absorbAll_words_injective`), and therefore two inputs of one length
whose differences lie within a window of `w` bits are (`absorbAll_burst`).
-/

namespace ShiftRegister

variable {w m : Nat}

/-- One step: shift out the top bit, and if it was set subtract the
polynomial. -/
def shift (poly r : BitVec w) : BitVec w :=
  if r.msb then (r <<< 1) ^^^ poly else r <<< 1

/-- A word at the top of a register. -/
def top (w : Nat) (c : BitVec m) : BitVec w := c.setWidth w <<< (w - m)

/-- Take in a word. -/
def absorb (poly r : BitVec w) (c : BitVec m) : BitVec w :=
  (shift poly)^[m] (r ^^^ top w c)

/-- Take in words, one after the other. -/
def absorbAll (poly r : BitVec w) (words : List (BitVec m)) : BitVec w :=
  words.foldl (absorb poly) r

variable {poly : BitVec w}

@[simp] theorem absorbAll_nil (r : BitVec w) :
    absorbAll poly r ([] : List (BitVec m)) = r := rfl

@[simp] theorem absorbAll_cons (r : BitVec w) (c : BitVec m) (words : List (BitVec m)) :
    absorbAll poly r (c :: words) = absorbAll poly (absorb poly r c) words := rfl

theorem absorbAll_append (r : BitVec w) (words more : List (BitVec m)) :
    absorbAll poly r (words ++ more) = absorbAll poly (absorbAll poly r words) more :=
  List.foldl_append

/-! ## Shifting -/

/-- A step is linear. -/
theorem shift_xor (a b : BitVec w) : shift poly (a ^^^ b) = shift poly a ^^^ shift poly b := by
  have hcancel : (a <<< 1) ^^^ (b <<< 1) = (a <<< 1) ^^^ poly ^^^ ((b <<< 1) ^^^ poly) := by
    rw [BitVec.xor_assoc, BitVec.xor_comm poly, BitVec.xor_assoc, BitVec.xor_self,
      BitVec.xor_zero]
  unfold shift
  rw [BitVec.msb_xor, BitVec.shiftLeft_xor_distrib]
  cases a.msb with
  | true =>
    cases b.msb with
    | true => exact hcancel
    | false =>
      show (a <<< 1) ^^^ (b <<< 1) ^^^ poly = (a <<< 1) ^^^ poly ^^^ (b <<< 1)
      ac_rfl
  | false =>
    cases b.msb with
    | true => exact BitVec.xor_assoc _ _ _
    | false => rfl

theorem iterate_shift_xor (n : Nat) (a b : BitVec w) :
    (shift poly)^[n] (a ^^^ b) = (shift poly)^[n] a ^^^ (shift poly)^[n] b := by
  induction n generalizing a b with
  | zero => rfl
  | succ n ih =>
    rw [Function.iterate_succ_apply, shift_xor, ih]
    rfl

/-- With a constant term in the polynomial, only zero is shifted to zero. -/
theorem eq_zero_of_shift_eq_zero (hpoly : poly.getLsbD 0 = true) {r : BitVec w}
    (h : shift poly r = 0#w) : r = 0#w := by
  have hw : 0 < w := BitVec.lt_of_getLsbD hpoly
  unfold shift at h
  cases hmsb : r.msb with
  | true =>
    -- the lowest bit of the result is the constant term
    have hlow := congrArg (BitVec.getLsbD · 0) h
    simp [hmsb, hpoly] at hlow
  | false =>
    rw [hmsb, if_neg Bool.false_ne_true] at h
    apply BitVec.eq_of_getLsbD_eq
    intro i hi
    rw [BitVec.getLsbD_zero]
    by_cases hlast : i = w - 1
    · rw [hlast, ← BitVec.msb_eq_getLsbD_last, hmsb]
    · have hbit := congrArg (BitVec.getLsbD · (i + 1)) h
      have hlt : i + 1 < w := by omega
      simpa [hi, hlt] using hbit

theorem shift_injective (hpoly : poly.getLsbD 0 = true) : Function.Injective (shift poly) := by
  intro a b hab
  have hzero : shift poly (a ^^^ b) = 0#w := by rw [shift_xor, hab, BitVec.xor_self]
  exact BitVec.xor_eq_zero_iff.mp (eq_zero_of_shift_eq_zero hpoly hzero)

theorem iterate_shift_injective (hpoly : poly.getLsbD 0 = true) (n : Nat) :
    Function.Injective (shift poly)^[n] :=
  (shift_injective hpoly).iterate n

/-- Clear top bits are shifted out without the polynomial. -/
theorem iterate_shift_of_clear (n : Nat) {r : BitVec w}
    (hclear : ∀ i, w ≤ i + n → i < w → r.getLsbD i = false) :
    (shift poly)^[n] r = r <<< n := by
  induction n generalizing r with
  | zero => rw [Function.iterate_zero_apply, BitVec.shiftLeft_zero]
  | succ n ih =>
    have hmsb : r.msb = false := by
      rw [BitVec.msb_eq_getLsbD_last]
      by_cases hw : 0 < w
      · exact hclear (w - 1) (by omega) (by omega)
      · exact BitVec.getLsbD_of_ge r _ (by omega)
    have hstep : shift poly r = r <<< 1 := by rw [shift, hmsb, if_neg Bool.false_ne_true]
    rw [Function.iterate_succ_apply, hstep, ih, ← BitVec.shiftLeft_add, Nat.add_comm]
    intro i hi hiw
    rw [BitVec.getLsbD_shiftLeft]
    by_cases hzero : i < 1
    · simp [hzero]
    · rw [hclear (i - 1) (by omega) (by omega), Bool.and_false]

/-! ## Taking in words -/

/-- The register forgets nothing of what it held. -/
theorem absorb_injective (hpoly : poly.getLsbD 0 = true) (c : BitVec m) :
    Function.Injective fun r => absorb poly r c := by
  intro a b hab
  exact (BitVec.xor_left_inj _).mp (iterate_shift_injective hpoly m hab)

theorem absorbAll_injective (hpoly : poly.getLsbD 0 = true) (words : List (BitVec m)) :
    Function.Injective fun r => absorbAll poly r words := by
  induction words with
  | nil => exact Function.injective_id
  | cons c words ih => exact ih.comp (absorb_injective hpoly c)

/-- Words packed into a register, the first one at the top. -/
def pack (w : Nat) : List (BitVec m) → BitVec w
  | [] => 0#w
  | c :: words => top w c ^^^ (pack w words >>> m)

theorem getLsbD_top (c : BitVec m) (i : Nat) :
    (top w c).getLsbD i = (decide (i < w) && !decide (i < w - m) && c.getLsbD (i - (w - m))) := by
  rw [top, BitVec.getLsbD_shiftLeft, BitVec.getLsbD_setWidth]
  by_cases hi : i < w
  · have hlt : i - (w - m) < w := by omega
    simp [hi, hlt]
  · simp [hi]

/-- Packed words leave the rest of the register clear. -/
theorem getLsbD_pack_of_lt {words : List (BitVec m)} (hfit : words.length * m ≤ w) {i : Nat}
    (hi : i < w - words.length * m) : (pack w words).getLsbD i = false := by
  induction words generalizing i with
  | nil => simp [pack]
  | cons c words ih =>
    rw [List.length_cons, Nat.succ_mul] at hfit hi
    rw [pack, BitVec.getLsbD_xor, getLsbD_top, BitVec.getLsbD_ushiftRight,
      ih (by omega) (by omega)]
    have hlow : i < w - m := by omega
    simp [hlow]

/-- Packing keeps the words. -/
theorem pack_injective {words words' : List (BitVec m)} (hlen : words'.length = words.length)
    (hfit : words.length * m ≤ w) (h : pack w words = pack w words') : words = words' := by
  induction words generalizing words' with
  | nil => exact (List.length_eq_zero_iff.mp hlen).symm
  | cons c words ih =>
    cases words' with
    | nil => cases hlen
    | cons c' words' =>
      rw [List.length_cons, List.length_cons, Nat.succ.injEq] at hlen
      rw [List.length_cons, Nat.succ_mul] at hfit
      have hbit := fun i => congrArg (BitVec.getLsbD · i) h
      simp only [pack, BitVec.getLsbD_xor, getLsbD_top, BitVec.getLsbD_ushiftRight] at hbit
      have hhead : c = c' := by
        -- the top bits of the register are those of the first word
        apply BitVec.eq_of_getLsbD_eq
        intro i hi
        have hat := hbit (w - m + i)
        have hover : (pack w words).getLsbD (m + (w - m + i)) = false :=
          BitVec.getLsbD_of_ge _ _ (by omega)
        have hover' : (pack w words').getLsbD (m + (w - m + i)) = false :=
          BitVec.getLsbD_of_ge _ _ (by omega)
        have hin : w - m + i < w := by omega
        have habove : ¬ w - m + i < w - m := by omega
        simpa [hover, hover', hin, habove] using hat
      have htail : pack w words = pack w words' := by
        -- the bits below them are those of the other words
        apply BitVec.eq_of_getLsbD_eq
        intro i hi
        by_cases hlow : i < w - words.length * m
        · rw [getLsbD_pack_of_lt (by omega) hlow,
            getLsbD_pack_of_lt (by rw [hlen]; omega) (by rw [hlen]; exact hlow)]
        · have hat := hbit (i - m)
          have hsum : m + (i - m) = i := by omega
          have hbelow : i - m < w - m := by omega
          simpa [hsum, hbelow] using hat
      rw [hhead, ih hlen (by omega) htail]

/-- Words that fit the register together are shifted in as one. -/
theorem absorbAll_eq_pack {words : List (BitVec m)} (hfit : words.length * m ≤ w)
    (r : BitVec w) :
    absorbAll poly r words = (shift poly)^[words.length * m] (r ^^^ pack w words) := by
  induction words generalizing r with
  | nil => simp [pack]
  | cons c words ih =>
    rw [List.length_cons, Nat.succ_mul] at hfit ⊢
    -- the words behind the first are `m` places further down, and come up as they were
    have hraise : (shift poly)^[m] (pack w words >>> m) = pack w words := by
      rw [iterate_shift_of_clear]
      · apply BitVec.eq_of_getLsbD_eq
        intro i hi
        rw [BitVec.getLsbD_shiftLeft, BitVec.getLsbD_ushiftRight]
        by_cases him : i < m
        · rw [getLsbD_pack_of_lt (by omega) (i := i) (by omega)]
          simp [him]
        · have hsum : m + (i - m) = i := by omega
          simp [hi, him, hsum]
      · intro i hi hiw
        rw [BitVec.getLsbD_ushiftRight]
        exact BitVec.getLsbD_of_ge _ _ (by omega)
    rw [absorbAll_cons, ih (by omega), absorb, Function.iterate_add_apply, pack,
      ← BitVec.xor_assoc, iterate_shift_xor m (r ^^^ top w c), hraise]

/-- The register tells words apart that fit it together. -/
theorem absorbAll_words_injective (hpoly : poly.getLsbD 0 = true) {r : BitVec w}
    {words words' : List (BitVec m)} (hlen : words'.length = words.length)
    (hfit : words.length * m ≤ w) (h : absorbAll poly r words = absorbAll poly r words') :
    words = words' := by
  rw [absorbAll_eq_pack hfit, absorbAll_eq_pack (by rw [hlen]; exact hfit), hlen] at h
  exact pack_injective hlen hfit
    ((BitVec.xor_right_inj _).mp (iterate_shift_injective hpoly _ h))

/-- A change within a window of the register's width changes the register. -/
theorem absorbAll_burst (hpoly : poly.getLsbD 0 = true) (r : BitVec w)
    {front window window' back : List (BitVec m)} (hlen : window'.length = window.length)
    (hfit : window.length * m ≤ w) (hne : window ≠ window') :
    absorbAll poly r (front ++ window ++ back) ≠ absorbAll poly r (front ++ window' ++ back) := by
  intro h
  simp only [absorbAll_append] at h
  exact hne (absorbAll_words_injective hpoly hlen hfit (absorbAll_injective hpoly back h))

end ShiftRegister
