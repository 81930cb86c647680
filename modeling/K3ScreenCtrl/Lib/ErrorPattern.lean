import K3ScreenCtrl.Lib.ShiftRegister

/-!
# Error patterns

What a shift register makes of words, bit by bit.  A register takes in a word as
it takes in the bits of the word, the most significant first
(`absorbAll_flatMap_bits`), and the difference of two runs is a run over the
difference of the words (`absorbAll_xor`).  So whether two checked texts can be
mistaken for each other is a question about the register that starts at zero and
takes in their *error pattern*.

A polynomial with an even number of terms keeps the parity of what is taken in
(`parity_absorbAll`), and a register that does not come back to the polynomial
in fewer steps than the text has bits tells two bits apart.  Together: two
different checked texts differ in four bits at least
(`eq_of_flips_le_three`).
-/

namespace ShiftRegister

variable {w m : Nat} {poly : BitVec w}

/-! ## Bit by bit -/

/-- The bits of a word, the most significant first. -/
def bits (c : BitVec m) : List (BitVec 1) :=
  List.ofFn fun i : Fin m => BitVec.ofBool (c.getMsbD i)

@[simp] theorem length_bits (c : BitVec m) : (bits c).length = m := List.length_ofFn

theorem getElem?_bits (c : BitVec m) {i : Nat} (hi : i < m) :
    (bits c)[i]? = some (BitVec.ofBool (c.getMsbD i)) := by
  simp [bits, hi]

theorem bits_injective : Function.Injective (bits (m := m)) := by
  intro c c' h
  apply BitVec.eq_of_getMsbD_eq
  intro i hi
  have hbit := congrArg (fun e : List (BitVec 1) => e[i]?) h
  simp only [getElem?_bits _ hi, Option.some.injEq] at hbit
  have hlow := congrArg (BitVec.getLsbD · 0) hbit
  simpa using hlow

/-- Bits packed into a register stand at its top. -/
theorem getLsbD_pack_bit {e : List (BitVec 1)} (hfit : e.length ≤ w) {i : Nat} (hi : i < w) :
    (pack w e).getLsbD i = (e[w - 1 - i]?.getD 0#1).getLsbD 0 := by
  induction e generalizing i with
  | nil => simp [pack]
  | cons b e ih =>
    rw [List.length_cons] at hfit
    rw [pack, BitVec.getLsbD_xor, getLsbD_top, BitVec.getLsbD_ushiftRight]
    by_cases htop : i = w - 1
    · have hover : (pack w e).getLsbD (1 + i) = false := BitVec.getLsbD_of_ge _ _ (by omega)
      have hfirst : w - 1 - i = 0 := by omega
      rw [hover, hfirst, htop]
      simp [show w - 1 < w by omega]
    · have hnext : w - 1 - i = w - 1 - (1 + i) + 1 := by omega
      rw [ih (by omega) (by omega), hnext, List.getElem?_cons_succ]
      simp [show i < w - 1 by omega]

theorem pack_bits (hfit : m ≤ w) (c : BitVec m) : pack w (bits c) = top w c := by
  apply BitVec.eq_of_getLsbD_eq
  intro i hi
  rw [getLsbD_pack_bit (by rw [length_bits]; exact hfit) hi, getLsbD_top]
  by_cases hlow : i < w - m
  · rw [List.getElem?_eq_none (by rw [length_bits]; omega)]
    simp [hlow]
  · have hat : m - 1 - (w - 1 - i) = i - (w - m) := by omega
    rw [getElem?_bits _ (show w - 1 - i < m by omega), Option.getD_some]
    simp [hlow, hi, BitVec.getMsbD, hat, show w - 1 - i < m by omega]

/-- A word is taken in bit by bit. -/
theorem absorb_eq_bits (hfit : m ≤ w) (r : BitVec w) (c : BitVec m) :
    absorb poly r c = absorbAll poly r (bits c) := by
  rw [absorbAll_eq_pack (by rw [length_bits]; omega), pack_bits hfit, length_bits, Nat.mul_one,
    absorb]

theorem absorbAll_flatMap_bits (hfit : m ≤ w) (r : BitVec w) (words : List (BitVec m)) :
    absorbAll poly r words = absorbAll poly r (words.flatMap bits) := by
  induction words generalizing r with
  | nil => rfl
  | cons c words ih =>
    rw [List.flatMap_cons, absorbAll_append, absorbAll_cons, absorb_eq_bits hfit, ih]

theorem length_flatMap_bits (words : List (BitVec m)) :
    (words.flatMap bits).length = words.length * m := by
  induction words with
  | nil => simp
  | cons c words ih =>
    rw [List.flatMap_cons, List.length_append, length_bits, ih, List.length_cons, Nat.succ_mul,
      Nat.add_comm]

theorem flatMap_bits_injective {words words' : List (BitVec m)}
    (hlen : words'.length = words.length) (h : words.flatMap bits = words'.flatMap bits) :
    words = words' := by
  induction words generalizing words' with
  | nil => exact (List.length_eq_zero_iff.mp hlen).symm
  | cons c words ih =>
    cases words' with
    | nil => cases hlen
    | cons c' words' =>
      rw [List.flatMap_cons, List.flatMap_cons] at h
      obtain ⟨hhead, htail⟩ := List.append_inj h (by rw [length_bits, length_bits])
      rw [bits_injective hhead, ih (Nat.succ.inj hlen) htail]

theorem bits_append {n : Nat} (c : BitVec m) (d : BitVec n) : bits (c ++ d) = bits c ++ bits d := by
  apply List.ext_getElem?
  intro i
  by_cases hhigh : i < m
  · rw [List.getElem?_append_left (by rw [length_bits]; exact hhigh), getElem?_bits _ hhigh,
      getElem?_bits _ (by omega), BitVec.getMsbD_append, if_neg (by omega)]
  · rw [List.getElem?_append_right (by rw [length_bits]; omega), length_bits]
    by_cases hlow : i < m + n
    · rw [getElem?_bits _ hlow, getElem?_bits _ (by omega), BitVec.getMsbD_append,
        if_pos (by omega)]
    · rw [List.getElem?_eq_none (by rw [length_bits]; omega),
        List.getElem?_eq_none (by rw [length_bits]; omega)]

/-! ## Bursts -/

/-- `e` and `e'` have one length, and differ at most at the `n` places from `i` on. -/
structure DifferWithin {α : Type} (e e' : List α) (i n : Nat) : Prop where
  length_eq : e'.length = e.length
  outside : ∀ j, j < i ∨ i + n ≤ j → e'[j]? = e[j]?

theorem DifferWithin.take_eq {α : Type} {e e' : List α} {i n : Nat} (h : DifferWithin e e' i n) :
    e'.take i = e.take i := by
  apply List.ext_getElem?
  intro j
  by_cases hj : j < i
  · rw [List.getElem?_take_of_lt hj, List.getElem?_take_of_lt hj]
    exact h.outside j (Or.inl hj)
  · rw [List.getElem?_take_eq_none (by omega), List.getElem?_take_eq_none (by omega)]

theorem DifferWithin.drop_eq {α : Type} {e e' : List α} {i n : Nat} (h : DifferWithin e e' i n) :
    e'.drop (i + n) = e.drop (i + n) := by
  apply List.ext_getElem?
  intro j
  rw [List.getElem?_drop, List.getElem?_drop]
  exact h.outside (i + n + j) (Or.inr (Nat.le_add_right _ _))

theorem DifferWithin.of_take_drop {α : Type} {e e' : List α} {i n : Nat}
    (hlen : e'.length = e.length) (htake : e'.take i = e.take i)
    (hdrop : e'.drop (i + n) = e.drop (i + n)) : DifferWithin e e' i n := by
  refine ⟨hlen, ?_⟩
  rintro j (hj | hj)
  · rw [← List.getElem?_take_of_lt hj, htake, List.getElem?_take_of_lt hj]
  · obtain ⟨k, rfl⟩ := Nat.exists_eq_add_of_le hj
    rw [← List.getElem?_drop, hdrop, List.getElem?_drop]

/-- What stands before the window, the window, and what stands behind it. -/
theorem eq_take_window_drop {α : Type} (e : List α) (i n : Nat) :
    e = e.take i ++ (e.drop i).take n ++ e.drop (i + n) := by
  rw [List.append_assoc, ← List.drop_drop, List.take_append_drop, List.take_append_drop]

/-- Two texts whose bits differ within a window of the register's width are told
apart, wherever in their words the window begins. -/
theorem absorbAll_bit_burst (hpoly : poly.getLsbD 0 = true) (hfit : m ≤ w) (r : BitVec w)
    {words words' : List (BitVec m)} (hlen : words'.length = words.length) {i : Nat}
    (hburst : DifferWithin (words.flatMap bits) (words'.flatMap bits) i w) (hne : words ≠ words') :
    absorbAll poly r words ≠ absorbAll poly r words' := by
  have hwindow : ((words.flatMap bits).drop i).take w ≠ ((words'.flatMap bits).drop i).take w := by
    intro heq
    apply hne
    apply flatMap_bits_injective hlen
    rw [eq_take_window_drop (words.flatMap bits) i w, eq_take_window_drop (words'.flatMap bits) i w,
      hburst.take_eq, hburst.drop_eq, heq]
  have hwidth : (((words.flatMap bits).drop i).take w).length * 1 ≤ w := by
    rw [Nat.mul_one]
    exact List.length_take_le w _
  rw [absorbAll_flatMap_bits hfit, absorbAll_flatMap_bits hfit,
    eq_take_window_drop (words.flatMap bits) i w, eq_take_window_drop (words'.flatMap bits) i w,
    hburst.take_eq, hburst.drop_eq]
  refine absorbAll_burst hpoly r ?_ hwidth hwindow
  simp only [List.length_take, List.length_drop, hburst.length_eq]

/-! ## Differences -/

theorem top_xor (c c' : BitVec m) : top w (c ^^^ c') = top w c ^^^ top w c' := by
  rw [top, BitVec.setWidth_xor, BitVec.shiftLeft_xor_distrib]
  rfl

theorem absorb_xor (r r' : BitVec w) (c c' : BitVec m) :
    absorb poly (r ^^^ r') (c ^^^ c') = absorb poly r c ^^^ absorb poly r' c' := by
  have hswap : r ^^^ r' ^^^ (top w c ^^^ top w c') = r ^^^ top w c ^^^ (r' ^^^ top w c') := by
    ac_rfl
  rw [absorb, top_xor, hswap, iterate_shift_xor]
  rfl

/-- The places at which words differ. -/
def errors (words words' : List (BitVec m)) : List (BitVec m) :=
  List.zipWith (· ^^^ ·) words words'

/-- The difference of two runs is a run over the difference. -/
theorem absorbAll_xor (r r' : BitVec w) {words words' : List (BitVec m)}
    (hlen : words'.length = words.length) :
    absorbAll poly (r ^^^ r') (errors words words') =
      absorbAll poly r words ^^^ absorbAll poly r' words' := by
  induction words generalizing r r' words' with
  | nil =>
    rw [List.length_eq_zero_iff.mp hlen]
    rfl
  | cons c words ih =>
    cases words' with
    | nil => cases hlen
    | cons c' words' =>
      show absorbAll poly (absorb poly (r ^^^ r') (c ^^^ c')) (errors words words') = _
      rw [absorb_xor, ih _ _ (Nat.succ.inj hlen)]
      rfl

/-- How many bits are set. -/
def weight (words : List (BitVec m)) : Nat := (words.flatMap bits).count 1#1

/-- In how many bits words differ. -/
def flips (words words' : List (BitVec m)) : Nat := weight (errors words words')

/-! ## Parity -/

/-- Whether `f` holds at an odd number of the places below `n`. -/
def oddBelow (f : Nat → Bool) : Nat → Bool
  | 0 => false
  | n + 1 => oddBelow f n ^^ f n

theorem oddBelow_xor (f g : Nat → Bool) (n : Nat) :
    oddBelow (fun i => f i ^^ g i) n = (oddBelow f n ^^ oddBelow g n) := by
  induction n with
  | zero => rfl
  | succ n ih =>
    rw [oddBelow, ih, oddBelow, oddBelow]
    generalize oddBelow f n = a, oddBelow g n = b
    cases a <;> cases b <;> cases f n <;> cases g n <;> rfl

theorem oddBelow_of_clear {f : Nat → Bool} {n : Nat} (hclear : ∀ i < n, f i = false) :
    oddBelow f n = false := by
  induction n with
  | zero => rfl
  | succ n ih =>
    rw [oddBelow, ih fun i hi => hclear i (by omega), hclear n (by omega)]
    rfl

/-- Places moved up by one. -/
theorem oddBelow_succ {f g : Nat → Bool} {n : Nat} (hzero : g 0 = false)
    (hsucc : ∀ i < n, g (i + 1) = f i) : oddBelow g (n + 1) = oddBelow f n := by
  induction n with
  | zero =>
    show (false ^^ g 0) = false
    rw [hzero]
    rfl
  | succ n ih =>
    rw [oddBelow, ih fun i hi => hsucc i (by omega), hsucc n (by omega)]
    rfl

/-- Whether an odd number of the bits are set. -/
def parity (r : BitVec w) : Bool := oddBelow r.getLsbD w

theorem parity_zero : parity (0#w) = false :=
  oddBelow_of_clear fun _ _ => BitVec.getLsbD_zero

theorem parity_xor (r r' : BitVec w) : parity (r ^^^ r') = (parity r ^^ parity r') := by
  have hbits : (r ^^^ r').getLsbD = fun i => r.getLsbD i ^^ r'.getLsbD i :=
    funext fun i => BitVec.getLsbD_xor
  rw [parity, hbits, oddBelow_xor]
  rfl

/-- Only the top bit is lost. -/
theorem parity_shiftLeft_one (r : BitVec w) : parity (r <<< 1) = (parity r ^^ r.msb) := by
  cases w with
  | zero => rw [BitVec.eq_nil r]; rfl
  | succ v =>
    have hlow : oddBelow (r <<< 1).getLsbD (v + 1) = oddBelow r.getLsbD v := by
      apply oddBelow_succ
      · simp
      · intro i hi
        rw [BitVec.getLsbD_shiftLeft]
        simp [show i + 1 < v + 1 by omega]
    rw [parity, hlow, parity, oddBelow, BitVec.msb_eq_getLsbD_last, Nat.add_sub_cancel,
      Bool.xor_assoc, Bool.xor_self, Bool.xor_false]

/-- A polynomial of an even number of terms, the one that is shifted out
included, keeps the parity. -/
theorem parity_shift (hodd : parity poly = true) (r : BitVec w) :
    parity (shift poly r) = parity r := by
  unfold shift
  cases hmsb : r.msb with
  | true =>
    show parity (r <<< 1 ^^^ poly) = parity r
    rw [parity_xor, parity_shiftLeft_one, hmsb, hodd, Bool.xor_assoc, Bool.xor_self,
      Bool.xor_false]
  | false =>
    show parity (r <<< 1) = parity r
    rw [parity_shiftLeft_one, hmsb, Bool.xor_false]

theorem parity_top (hw : 0 < w) (b : BitVec 1) : parity (top w b) = b.getLsbD 0 := by
  cases w with
  | zero => cases hw
  | succ v =>
    have hlow : oddBelow (top (v + 1) b).getLsbD v = false := by
      apply oddBelow_of_clear
      intro i hi
      rw [getLsbD_top]
      simp [hi]
    rw [parity, oddBelow, hlow, getLsbD_top]
    simp

theorem bit_cases (b : BitVec 1) : b = 0#1 ∨ b = 1#1 := BitVec.eq_zero_or_eq_one b

/-- The register has the parity of what it took in. -/
theorem parity_absorbAll (hw : 0 < w) (hodd : parity poly = true) (r : BitVec w)
    (e : List (BitVec 1)) :
    parity (absorbAll poly r e) = (parity r ^^ decide (e.count 1#1 % 2 = 1)) := by
  induction e generalizing r with
  | nil => simp
  | cons b e ih =>
    have hstep : parity (absorb poly r b) = (parity r ^^ b.getLsbD 0) := by
      show parity (shift poly (r ^^^ top w b)) = _
      rw [parity_shift hodd, parity_xor, parity_top hw]
    rw [absorbAll_cons, ih, hstep]
    rcases bit_cases b with rfl | rfl
    · simp
    · rw [List.count_cons_self, Bool.xor_assoc]
      congr 1
      rcases Nat.mod_two_eq_zero_or_one (e.count 1#1) with heven | hodd'
      · simp [heven, show (e.count 1#1 + 1) % 2 = 1 by omega]
      · simp [hodd', show (e.count 1#1 + 1) % 2 = 0 by omega]

/-! ## Few bits -/

/-- The first bit that is set. -/
theorem exists_first_bit {e : List (BitVec 1)} (h : 0 < e.count 1#1) :
    ∃ j back, e = List.replicate j 0#1 ++ 1#1 :: back := by
  induction e with
  | nil => simp at h
  | cons b e ih =>
    rcases bit_cases b with rfl | rfl
    · obtain ⟨j, back, rfl⟩ := ih (by simpa using h)
      exact ⟨j + 1, back, rfl⟩
    · exact ⟨0, e, rfl⟩

theorem absorb_zero_bit (r : BitVec w) : absorb poly r 0#1 = shift poly r := by
  show shift poly (r ^^^ top w 0#1) = shift poly r
  rw [top, BitVec.setWidth_zero, BitVec.zero_shiftLeft, BitVec.xor_zero]

/-- Clear bits only shift. -/
theorem absorbAll_replicate_zero (j : Nat) (r : BitVec w) :
    absorbAll poly r (List.replicate j 0#1) = (shift poly)^[j] r := by
  induction j generalizing r with
  | zero => rfl
  | succ j ih =>
    rw [List.replicate_succ, absorbAll_cons, absorb_zero_bit, ih, Function.iterate_succ_apply]

theorem absorbAll_of_clear {e : List (BitVec 1)} (h : e.count 1#1 = 0) (r : BitVec w) :
    absorbAll poly r e = (shift poly)^[e.length] r := by
  have hzeros : e = List.replicate e.length 0#1 := by
    apply List.eq_replicate_of_mem
    intro b hb
    rcases bit_cases b with hzero | rfl
    · exact hzero
    · exact absurd hb (List.count_eq_zero.mp h)
  rw [hzeros, absorbAll_replicate_zero, List.length_replicate]

/-- A set bit puts the polynomial on top of what the register shifts. -/
theorem absorb_one_bit (hw : 0 < w) (r : BitVec w) :
    absorb poly r 1#1 = shift poly r ^^^ poly := by
  have htop : shift poly (top w 1#1) = poly := by
    have hmsb : (top w 1#1).msb = true := by
      rw [BitVec.msb_eq_getLsbD_last, getLsbD_top]
      simp [show w - 1 < w by omega]
    have hout : top w 1#1 <<< 1 = 0#w := by
      rw [top, ← BitVec.shiftLeft_add, Nat.sub_add_cancel hw]
      exact BitVec.shiftLeft_eq_zero (Nat.le_refl w)
    rw [shift, hmsb, if_pos rfl, hout, BitVec.zero_xor]
  show shift poly (r ^^^ top w 1#1) = _
  rw [shift_xor, htop]

theorem shift_zero : shift poly (0#w) = 0#w := by
  rw [shift, BitVec.msb_zero, if_neg Bool.false_ne_true, BitVec.zero_shiftLeft]

theorem iterate_shift_zero (n : Nat) : (shift poly)^[n] (0#w) = 0#w := by
  induction n with
  | zero => rfl
  | succ n ih => rw [Function.iterate_succ_apply, shift_zero, ih]

/-- One to three bits that are set do not leave the register at zero. -/
theorem absorbAll_ne_zero (hpoly : poly.getLsbD 0 = true) (hodd : parity poly = true)
    {e : List (BitVec 1)}
    (horder : ∀ d, 0 < d → d < e.length → (shift poly)^[d] poly ≠ poly)
    (hpos : 0 < e.count 1#1) (hle : e.count 1#1 ≤ 3) : absorbAll poly 0#w e ≠ 0#w := by
  have hw : 0 < w := BitVec.lt_of_getLsbD hpoly
  intro hzero
  have hparity := parity_absorbAll hw hodd 0#w e
  rw [hzero, parity_zero, Bool.false_xor] at hparity
  have heven : e.count 1#1 % 2 ≠ 1 := of_decide_eq_false hparity.symm
  have htwo : e.count 1#1 = 2 := by omega
  -- the first bit sets the register to the polynomial, the second must clear it
  obtain ⟨j, back, rfl⟩ := exists_first_bit hpos
  have hback : back.count 1#1 = 1 := by simpa [List.count_append, List.count_replicate] using htwo
  obtain ⟨k, rest, rfl⟩ := exists_first_bit (e := back) (by omega)
  have hrest : rest.count 1#1 = 0 := by
    simpa [List.count_append, List.count_replicate] using hback
  rw [absorbAll_append, absorbAll_replicate_zero, iterate_shift_zero, absorbAll_cons,
    absorb_one_bit hw, shift_zero, BitVec.zero_xor, absorbAll_append, absorbAll_replicate_zero,
    absorbAll_cons, absorb_one_bit hw, absorbAll_of_clear hrest,
    ← Function.iterate_succ_apply' (shift poly)] at hzero
  have hclear : (shift poly)^[k + 1] poly ^^^ poly = 0#w :=
    iterate_shift_injective hpoly rest.length (by rw [hzero, iterate_shift_zero])
  refine horder (k + 1) (Nat.succ_pos k) ?_ (BitVec.xor_eq_zero_iff.mp hclear)
  simp only [List.length_append, List.length_replicate, List.length_cons]
  omega

/-- Whether the register stays away from `target` for `n` steps. -/
def avoids (poly target : BitVec w) : Nat → BitVec w → Bool
  | 0, _ => true
  | n + 1, r => r != target && avoids poly target n (shift poly r)

theorem ne_of_avoids {target : BitVec w} {n : Nat} {r : BitVec w}
    (h : avoids poly target n r = true) {d : Nat} (hd : d < n) : (shift poly)^[d] r ≠ target := by
  induction n generalizing r d with
  | zero => cases hd
  | succ n ih =>
    rw [avoids, Bool.and_eq_true, bne_iff_ne] at h
    cases d with
    | zero => exact h.1
    | succ d => exact ih h.2 (Nat.lt_of_succ_lt_succ hd)

/-! ## Checked texts -/

theorem eq_zero_of_clear {c : BitVec m} (h : (bits c).count 1#1 = 0) : c = 0#m := by
  apply BitVec.eq_of_getMsbD_eq
  intro i hi
  have hmem := List.mem_of_getElem? (getElem?_bits c hi)
  rw [BitVec.getMsbD_zero]
  cases hbit : c.getMsbD i with
  | false => rfl
  | true =>
    rw [hbit] at hmem
    exact absurd hmem (List.count_eq_zero.mp h)

theorem weight_cons (c : BitVec m) (words : List (BitVec m)) :
    weight (c :: words) = (bits c).count 1#1 + weight words := by
  rw [weight, List.flatMap_cons, List.count_append]
  rfl

theorem flips_cons (c c' : BitVec m) (words words' : List (BitVec m)) :
    flips (c :: words) (c' :: words') = (bits (c ^^^ c')).count 1#1 + flips words words' :=
  weight_cons _ _

theorem flips_singleton (c c' : BitVec m) :
    flips [c] [c'] = (bits (c ^^^ c')).count 1#1 :=
  flips_cons c c' [] []

theorem length_errors {words words' : List (BitVec m)} (hlen : words'.length = words.length) :
    (errors words words').length = words.length := by
  rw [errors, List.length_zipWith, hlen, Nat.min_self]

theorem eq_of_flips_eq_zero {words words' : List (BitVec m)}
    (hlen : words'.length = words.length) (h : flips words words' = 0) : words = words' := by
  induction words generalizing words' with
  | nil => exact (List.length_eq_zero_iff.mp hlen).symm
  | cons c words ih =>
    cases words' with
    | nil => cases hlen
    | cons c' words' =>
      rw [flips_cons] at h
      have hhead : c ^^^ c' = 0#m := eq_zero_of_clear (by omega)
      rw [BitVec.xor_eq_zero_iff.mp hhead, ih (Nat.succ.inj hlen) (by omega)]

/-- A register that takes in what it holds is cleared. -/
theorem absorb_self (r : BitVec w) : absorb poly r r = 0#w := by
  rw [absorb, top, BitVec.setWidth_eq, Nat.sub_self, BitVec.shiftLeft_zero, BitVec.xor_self,
    iterate_shift_zero]

/-- Two texts that differ in three bits at most, those of their checks counted
in, are one text. -/
theorem eq_of_flips_le_three (hpoly : poly.getLsbD 0 = true) (hodd : parity poly = true)
    (hfit : m ≤ w) (r : BitVec w) {words words' : List (BitVec m)}
    (hlen : words'.length = words.length)
    (horder : ∀ d, 0 < d → d < words.length * m + w → (shift poly)^[d] poly ≠ poly)
    (hflips : flips words words' +
      flips [absorbAll poly r words] [absorbAll poly r words'] ≤ 3) :
    words = words' := by
  have hrun : absorbAll poly (r ^^^ r) (errors words words') =
      absorbAll poly r words ^^^ absorbAll poly r words' := absorbAll_xor r r hlen
  generalize absorbAll poly r words = check at hflips hrun
  generalize absorbAll poly r words' = check' at hflips hrun
  rw [BitVec.xor_self] at hrun
  rw [flips_singleton] at hflips
  -- the error pattern of the texts and of their checks leaves nothing behind
  have hclear : absorbAll poly 0#w
      ((errors words words').flatMap bits ++ bits (check ^^^ check')) = 0#w := by
    rw [absorbAll_append, ← absorbAll_flatMap_bits hfit, hrun, ← absorb_eq_bits (Nat.le_refl w),
      absorb_self]
  have hcount : ((errors words words').flatMap bits ++ bits (check ^^^ check')).count 1#1 =
      flips words words' + (bits (check ^^^ check')).count 1#1 :=
    List.count_append
  by_cases hzero : flips words words' = 0
  · exact eq_of_flips_eq_zero hlen hzero
  · refine absurd hclear (absorbAll_ne_zero hpoly hodd ?_ (by omega) (by omega))
    intro d hd hlt
    refine horder d hd ?_
    rw [List.length_append, length_flatMap_bits, length_bits, length_errors hlen] at hlt
    exact hlt

end ShiftRegister
