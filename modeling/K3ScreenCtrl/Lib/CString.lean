import Mathlib.Algebra.Group.Int.Defs
import Mathlib.Algebra.Group.Nat.Defs
import Mathlib.Data.List.Basic
import Mathlib.Data.List.TakeWhile

/-!
# Fixed-size character arrays and C strings

The string and number routines of the C library, as far as a program that
fills fixed-size `char` arrays needs them.

A C string is the list of its bytes before the terminating NUL.  A `char`
array is a list of bytes that carries its length, so a copy that would run
past the end of the array cannot be written down: `CharArray.strncpy` asks for
a proof that the count is at most the size.

`cutTo n s` is what a field of `n` bytes is meant to hold: `s` cut to `n - 1`
bytes and padded with zeros.  `storeString_bytes` and `copyString_bytes` say
that the two copy idioms of C produce it.

`numeral` and `signedNumeral` write numbers, and `atoi_signedNumeral` reads them
back.
-/

namespace CString

/-! ## Arrays -/

/-- `char a[n]`. -/
structure CharArray (n : Nat) where
  bytes : List UInt8
  length_eq : bytes.length = n
deriving DecidableEq

namespace CharArray

variable {n : Nat}

@[simp] theorem length_bytes (a : CharArray n) : a.bytes.length = n := a.length_eq

@[ext] theorem ext {a b : CharArray n} (h : a.bytes = b.bytes) : a = b := by
  cases a
  cases b
  simpa using h

/-- An array of zeros. -/
def zero (n : Nat) : CharArray n := ⟨List.replicate n 0, List.length_replicate⟩

@[simp] theorem bytes_zero : (zero n).bytes = List.replicate n 0 := rfl

/-- The C string at the start of an array. -/
def str (a : CharArray n) : List UInt8 := a.bytes.takeWhile (· != 0)

theorem nul_not_mem_str (a : CharArray n) : 0 ∉ a.str := by
  intro hmem
  unfold str at hmem
  exact absurd (List.mem_takeWhile_imp hmem) (by decide)

/-- A string that is terminated inside its array is shorter than the array. -/
theorem length_str_lt {a : CharArray n} (h : 0 ∈ a.bytes) : a.str.length < n := by
  have hpre : a.str <+: a.bytes := List.takeWhile_prefix _
  have hle : a.str.length ≤ n := by simpa using hpre.length_le
  refine Nat.lt_of_le_of_ne hle ?_
  intro heq
  have hall : a.str = a.bytes := hpre.eq_of_length (by rw [heq, length_bytes])
  exact nul_not_mem_str a (hall ▸ h)

/-- `strncpy(dst, src, k)`: at most `k` bytes of `src`, padded with zeros up
to `k`.  What lies above `k` stays. -/
def strncpy (dst : CharArray n) (src : List UInt8) (k : Nat) (hk : k ≤ n) : CharArray n where
  bytes := src.take k ++ List.replicate (k - src.length) 0 ++ dst.bytes.drop k
  length_eq := by
    simp only [List.length_append, List.length_take, List.length_replicate, List.length_drop,
      length_bytes]
    omega

/-- `a[n - 1] = 0`. -/
def terminate (a : CharArray n) : CharArray n where
  bytes := a.bytes.set (n - 1) 0
  length_eq := by simp

end CharArray

/-! ## The two copy idioms -/

/-- `s` cut to `n - 1` bytes and padded with zeros to `n` bytes. -/
def cutTo (n : Nat) (s : List UInt8) : List UInt8 :=
  s.take (n - 1) ++ List.replicate (n - min (n - 1) s.length) 0

/-- The string in a field that was filled by `cutTo`. -/
theorem takeWhile_cutTo {n : Nat} {s : List UInt8} (hn : 0 < n) (hs : 0 ∉ s) :
    (cutTo n s).takeWhile (· != 0) = s.take (n - 1) := by
  have hpad : n - min (n - 1) s.length = (n - 1 - min (n - 1) s.length) + 1 := by omega
  have hne : ∀ b ∈ s.take (n - 1), (b != 0) = true := by
    intro b hb
    have : b ≠ 0 := fun h => hs (h ▸ List.mem_of_mem_take hb)
    simpa using this
  rw [cutTo, hpad, List.replicate_succ, List.takeWhile_append_of_pos hne]
  simp

/-- `strncpy(dst, s, n - 1); dst[n - 1] = 0;` -/
def storeString {n : Nat} (s : List UInt8) (dst : CharArray n) : CharArray n :=
  (dst.strncpy s (n - 1) (Nat.sub_le n 1)).terminate

/-- A terminated copy overwrites the whole array, whatever it held. -/
theorem storeString_bytes {n : Nat} (hn : 0 < n) (s : List UInt8) (dst : CharArray n) :
    (storeString s dst).bytes = cutTo n s := by
  obtain ⟨k, rfl⟩ : ∃ k, n = k + 1 := ⟨n - 1, by omega⟩
  have hlen : (s.take k ++ List.replicate (k - s.length) (0 : UInt8)).length = k := by
    simp only [List.length_append, List.length_take, List.length_replicate]
    omega
  have hdrop : (dst.bytes.drop k).set 0 (0 : UInt8) = [0] := by
    have hone : (dst.bytes.drop k).length = 1 := by simp
    obtain ⟨x, hx⟩ := List.length_eq_one_iff.mp hone
    simp [hx]
  have hpad : k + 1 - min k s.length = (k - s.length) + 1 := by omega
  simp only [storeString, CharArray.terminate, CharArray.strncpy, cutTo, Nat.add_sub_cancel]
  rw [List.set_append_right _ _ (Nat.le_of_eq hlen), hlen, Nat.sub_self, hdrop, hpad,
    List.replicate_succ', List.append_assoc]

/-- `strncpy(dst, src, sizeof(dst))` of a string that fits an equal field. -/
def copyString {n : Nat} (src : List UInt8) (dst : CharArray n) : CharArray n :=
  dst.strncpy src n (Nat.le_refl n)

/-- A copy of a terminated, zero-padded field is that field. -/
theorem copyString_bytes {n : Nat} (hn : 0 < n) {s : List UInt8} (hs : 0 ∉ s)
    {src dst : CharArray n} (hsrc : src.bytes = cutTo n s) :
    (copyString src.str dst).bytes = src.bytes := by
  have hdrop : dst.bytes.drop n = [] := by simp
  have hshort : (s.take (n - 1)).take n = s.take (n - 1) := by
    rw [List.take_take, Nat.min_eq_right (Nat.sub_le n 1)]
  simp only [copyString, CharArray.strncpy, CharArray.str, hsrc, takeWhile_cutTo hn hs, hdrop,
    hshort, List.append_nil, List.length_take]
  rfl

/-- A field that was filled by a terminated copy. -/
def CharArray.Padded {n : Nat} (a : CharArray n) : Prop := ∃ s, 0 ∉ s ∧ a.bytes = cutTo n s

theorem CharArray.padded_zero (n : Nat) : (CharArray.zero n).Padded := by
  refine ⟨[], List.not_mem_nil, ?_⟩
  simp [cutTo]

theorem padded_storeString {n : Nat} (hn : 0 < n) {s : List UInt8} (hs : 0 ∉ s)
    (dst : CharArray n) : (storeString s dst).Padded :=
  ⟨s, hs, storeString_bytes hn s dst⟩

/-- A copy of a padded field is that field. -/
theorem CharArray.Padded.copyString_str {n : Nat} {src : CharArray n} (h : src.Padded) (hn : 0 < n)
    (dst : CharArray n) : copyString src.str dst = src := by
  obtain ⟨s, hs, hsrc⟩ := h
  exact CharArray.ext (copyString_bytes hn hs hsrc)

/-! ## Numbers -/

/-- `isspace` in the C locale. -/
def isSpace (b : UInt8) : Bool := b == 0x20 || (0x09 ≤ b && b ≤ 0x0d)

/-- `isdigit`. -/
def isDigit (b : UInt8) : Bool := 0x30 ≤ b && b ≤ 0x39

/-- The value of a string of decimal digits. -/
def decimal (digits : List UInt8) : Nat :=
  digits.foldl (fun v b => 10 * v + (b.toNat - 0x30)) 0

/-- The digits that `atoi` reads, with their sign. -/
def atoiDigits (s : List UInt8) : Int :=
  decimal (s.takeWhile isDigit)

/-- `atoi`: white space, an optional sign, and the digits up to the first
other byte.  A numeral out of range is undefined in C; the value wraps here as
it does in a two's-complement accumulator. -/
def atoi (s : List UInt8) : Int :=
  match s.dropWhile isSpace with
  | 0x2d :: rest => (-atoiDigits rest).bmod (2 ^ 32)
  | 0x2b :: rest => (atoiDigits rest).bmod (2 ^ 32)
  | rest => (atoiDigits rest).bmod (2 ^ 32)

theorem atoi_lt (s : List UInt8) : atoi s < 2 ^ 31 := by
  have hbmod : ∀ x : Int, x.bmod (2 ^ 32) < 2 ^ 31 := by
    intro x
    have h : x.bmod (2 ^ 32) < (2 ^ 32 + 1) / 2 := Int.bmod_lt (by decide)
    omega
  unfold atoi
  split <;> exact hbmod _

/-- `s` is a decimal numeral of value `v`. -/
def IsNumeral (s : List UInt8) (v : Nat) : Prop :=
  s ≠ [] ∧ (∀ b ∈ s, isDigit b = true) ∧ decimal s = v

theorem atoiDigits_of_isNumeral {s : List UInt8} {v : Nat} (h : IsNumeral s v) :
    atoiDigits s = v := by
  rw [atoiDigits, List.takeWhile_eq_self_iff.mpr h.2.1, h.2.2]

/-- `atoi` reads a numeral. -/
theorem atoi_of_isNumeral_bmod {s : List UInt8} {v : Nat} (h : IsNumeral s v) :
    atoi s = (v : Int).bmod (2 ^ 32) := by
  have hval := atoiDigits_of_isNumeral h
  obtain ⟨hne, hdigits, _⟩ := h
  obtain ⟨b, rest, rfl⟩ := List.exists_cons_of_ne_nil hne
  have hb : isDigit b = true := hdigits b (by simp)
  have hrange : 0x30 ≤ b ∧ b ≤ 0x39 := by simpa [isDigit] using hb
  have hspace : isSpace b = false := by
    simp only [isSpace, Bool.or_eq_false_iff, beq_eq_false_iff_ne, Bool.and_eq_false_iff,
      decide_eq_false_iff_not, UInt8.le_iff_toNat_le, ne_eq, ← UInt8.toNat_inj] at hrange ⊢
    simp at hrange ⊢
    omega
  have hminus : b ≠ 0x2d := by
    intro h
    rw [h] at hrange
    exact absurd hrange.1 (by decide)
  have hplus : b ≠ 0x2b := by
    intro h
    rw [h] at hrange
    exact absurd hrange.1 (by decide)
  have hdrop : (b :: rest).dropWhile isSpace = b :: rest := by
    rw [List.dropWhile_cons_of_neg (by simp [hspace])]
  rw [atoi, hdrop]
  split
  · next heq => exact absurd (List.cons.inj heq).1 hminus
  · next heq => exact absurd (List.cons.inj heq).1 hplus
  · rw [hval]

/-- `atoi` reads a numeral that fits an `int`. -/
theorem atoi_of_isNumeral {s : List UInt8} {v : Nat} (h : IsNumeral s v) (hv : v < 2 ^ 31) :
    atoi s = v := by
  rw [atoi_of_isNumeral_bmod h, Int.bmod_eq_of_le] <;> omega

/-- `atoi` reads a numeral behind a minus sign. -/
theorem atoi_minus_of_isNumeral {s : List UInt8} {v : Nat} (h : IsNumeral s v) :
    atoi (0x2d :: s) = (-(v : Int)).bmod (2 ^ 32) := by
  have hdrop : (0x2d :: s).dropWhile isSpace = 0x2d :: s :=
    List.dropWhile_cons_of_neg (by decide)
  rw [atoi, hdrop]
  show (-atoiDigits s).bmod (2 ^ 32) = _
  rw [atoiDigits_of_isNumeral h]

/-! ## Writing numbers -/

/-- The decimal numeral of a number. -/
def numeral (n : Nat) : List UInt8 := (Nat.toDigits 10 n).map fun c => UInt8.ofNat c.toNat

/-- The numeral of a number with its sign. -/
def signedNumeral (v : Int) : List UInt8 :=
  if v < 0 then 0x2d :: numeral v.natAbs else numeral v.natAbs

theorem isDigit_digitChar {k : Nat} (hk : k < 10) :
    isDigit (UInt8.ofNat k.digitChar.toNat) = true ∧
      (UInt8.ofNat k.digitChar.toNat).toNat - 0x30 = k := by
  match k, hk with
  | 0, _ | 1, _ | 2, _ | 3, _ | 4, _ | 5, _ | 6, _ | 7, _ | 8, _ | 9, _ => exact ⟨rfl, rfl⟩

theorem numeral_of_lt {n : Nat} (h : n < 10) : numeral n = [UInt8.ofNat n.digitChar.toNat] := by
  rw [numeral, Nat.toDigits_of_lt_base h]
  rfl

theorem numeral_of_le {n : Nat} (h : 10 ≤ n) :
    numeral n = numeral (n / 10) ++ [UInt8.ofNat (n % 10).digitChar.toNat] := by
  rw [numeral, numeral, Nat.toDigits_of_base_le (by decide) h, List.map_append]
  rfl

theorem decimal_append_singleton (digits : List UInt8) (b : UInt8) :
    decimal (digits ++ [b]) = 10 * decimal digits + (b.toNat - 0x30) := by
  rw [decimal, List.foldl_append]
  rfl

theorem isNumeral_numeral (n : Nat) : IsNumeral (numeral n) n := by
  induction n using Nat.strongRecOn with
  | ind n ih =>
    by_cases hn : n < 10
    · have hdigit := isDigit_digitChar hn
      rw [numeral_of_lt hn]
      refine ⟨List.cons_ne_nil _ _, List.forall_mem_singleton.mpr hdigit.1, ?_⟩
      show 10 * 0 + _ = n
      rw [hdigit.2, Nat.mul_zero, Nat.zero_add]
    · have hdigit := isDigit_digitChar (Nat.mod_lt n (show 0 < 10 by decide))
      have hfront := ih (n / 10) (by omega)
      rw [numeral_of_le (by omega)]
      refine ⟨List.append_ne_nil_of_left_ne_nil hfront.1 _, ?_, ?_⟩
      · intro b hb
        rcases List.mem_append.mp hb with hb | hb
        · exact hfront.2.1 b hb
        · rw [List.mem_singleton.mp hb]
          exact hdigit.1
      · rw [decimal_append_singleton, hfront.2.2, hdigit.2]
        omega

theorem isDigit_of_mem_numeral {n : Nat} {b : UInt8} (hb : b ∈ numeral n) : isDigit b = true :=
  (isNumeral_numeral n).2.1 b hb

/-- `atoi` reads back what was written, as far as an `int` goes. -/
theorem atoi_signedNumeral (v : Int) : atoi (signedNumeral v) = v.bmod (2 ^ 32) := by
  rw [signedNumeral]
  split
  · have habs : -(v.natAbs : Int) = v := by omega
    rw [atoi_minus_of_isNumeral (isNumeral_numeral _), habs]
  · have habs : (v.natAbs : Int) = v := by omega
    rw [atoi_of_isNumeral_bmod (isNumeral_numeral _), habs]

end CString
