import K3ScreenCtrl.Startup

/-!
# One byte of memory

`mask_memory_byte` writes a field of one byte of physical memory through a page
that it maps for that.  `maskMemoryByte_effect` says what becomes of the memory:
no access misses the page, the page is given back, no other byte changes, the
bits under the mask are those of the value, and a bit beside the mask changes
exactly when the value does not fit the mask and spills into it.
-/

namespace K3ScreenCtrl

open Syscall

/-! ## The mask -/

/-- The loop finds the first bit that is set. -/
theorem maskBeginBitLoop_le {mask : BitVec 32} {n i j : Nat} (hj : i + j < i + n)
    (hset : mask.getLsbD (i + j) = true) : maskBeginBitLoop mask n i ≤ i + j := by
  induction n generalizing i j with
  | zero => omega
  | succ n ih =>
    rw [maskBeginBitLoop]
    split
    · omega
    · next hclear =>
      cases j with
      | zero => exact absurd hset hclear
      | succ j =>
        have hsum : i + (j + 1) = i + 1 + j := by omega
        rw [hsum] at hset ⊢
        exact ih (by omega) hset

/-- The field begins below every bit of the mask. -/
theorem maskBeginBit_le {mask : BitVec 32} {i : Nat} (hi : i < 8)
    (hset : mask.getLsbD i = true) : maskBeginBit mask ≤ i := by
  have hset' : mask.getLsbD (0 + i) = true := by rwa [Nat.zero_add]
  have h := maskBeginBitLoop_le (show 0 + i < 0 + 8 by omega) hset'
  rwa [Nat.zero_add] at h

/-- A bit of the stored byte. -/
theorem getLsbD_maskedByte (currentByte : BitVec 8) (mask fieldValue : BitVec 32) {i : Nat}
    (hi : i < 8) :
    (maskedByte currentByte mask fieldValue).getLsbD i =
      ((currentByte.getLsbD i && !mask.getLsbD i) ||
        (decide (maskBeginBit mask ≤ i) && fieldValue.getLsbD (i - maskBeginBit mask))) := by
  have hwide : i < 32 := by omega
  unfold maskedByte
  simp only [BitVec.getLsbD_setWidth, BitVec.getLsbD_or, BitVec.getLsbD_and, BitVec.getLsbD_not,
    BitVec.getLsbD_shiftLeft, hi, hwide, decide_true, Bool.true_and]
  by_cases hbegin : maskBeginBit mask ≤ i
  · simp [hbegin, Nat.not_lt.mpr hbegin]
  · simp [hbegin, Nat.lt_of_not_le hbegin]

/-! ## The page -/

/-- The physical memory, and what the program has mapped of it. -/
@[ext]
structure DevMem where
  bytes : BitVec 64 → BitVec 8
  /-- The start of the page that is mapped. -/
  mapped : Option (BitVec 64)
  /-- Some access missed the page. -/
  faulted : Bool

/-- The memory of a program that has mapped nothing. -/
def DevMem.idle (bytes : BitVec 64 → BitVec 8) : DevMem := ⟨bytes, none, false⟩

/-- The memory behind a call, with pages of `2 ^ k` bytes.  `munmap` counts as
unmapping whatever it answers: it has no reason to fail on the whole of a page
that is mapped, and the program does not look. -/
def DevMem.see (k : Nat) (m : DevMem) : SysCall × Int → DevMem
  | (.mmap _ start, ret) => if ret = -1 then m else { m with mapped := some start }
  | (.munmap _, _) => { m with mapped := none }
  | (.load start offset, _) =>
    if m.mapped = some start ∧ offset.toNat < 2 ^ k then m else { m with faulted := true }
  | (.store start offset byte, _) =>
    if m.mapped = some start ∧ offset.toNat < 2 ^ k then
      { m with bytes := Function.update m.bytes (start + offset) byte }
    else { m with faulted := true }
  | _ => m

/-- A kernel whose `/dev/mem` is the memory, in pages of `2 ^ k` bytes. -/
structure MapsMemory (kernel : Kernel SysCall Int) (bytes : BitVec 64 → BitVec 8) (k : Nat) :
    Prop where
  load : ∀ trace start offset, kernel trace (.load start offset) =
    ((trace.foldl (DevMem.see k) (.idle bytes)).bytes (start + offset)).toNat
  pageSize : ∀ trace, kernel trace .sysconfPageSize = 2 ^ k
  bounded : k < 63

/-- The start of the page and the offset in it lead to the address. -/
theorem mapStart_add_offset (addr pageSize : BitVec 64) :
    mapStart addr pageSize + (addr - mapStart addr pageSize) = addr := by
  rw [BitVec.add_comm, BitVec.sub_add_cancel]

/-- What is left of an address above its page. -/
theorem sub_mapStart (addr pageSize : BitVec 64) :
    addr - mapStart addr pageSize = addr &&& (pageSize - 1) := by
  have hdisjoint : (addr &&& (pageSize - 1)) &&& mapStart addr pageSize = 0#64 := by
    ext i hi
    simp only [mapStart, BitVec.getElem_and, BitVec.getElem_not, BitVec.getElem_zero]
    cases addr[i] <;> cases (pageSize - 1)[i] <;> rfl
  have hsplit : (addr &&& (pageSize - 1)) + mapStart addr pageSize = addr := by
    rw [BitVec.add_eq_or_of_and_eq_zero _ _ hdisjoint]
    ext i hi
    simp only [mapStart, BitVec.getElem_or, BitVec.getElem_and, BitVec.getElem_not]
    cases addr[i] <;> cases (pageSize - 1)[i] <;> rfl
  calc addr - mapStart addr pageSize
      = (addr &&& (pageSize - 1)) + mapStart addr pageSize - mapStart addr pageSize := by
        rw [hsplit]
    _ = addr &&& (pageSize - 1) := BitVec.add_sub_cancel _ _

/-- The offset is inside the page. -/
theorem offset_lt {k : Nat} (hk : k < 63) (addr : BitVec 64) :
    (addr - mapStart addr (BitVec.ofInt 64 (2 ^ k))).toNat < 2 ^ k := by
  have hpow : 2 ^ k < 2 ^ 64 := Nat.pow_lt_pow_right (by decide) (by omega)
  have hpos : 0 < 2 ^ k := Nat.two_pow_pos k
  have hsize : BitVec.ofInt 64 (2 ^ k) = BitVec.ofNat 64 (2 ^ k) := by
    rw [← BitVec.ofInt_natCast]
    norm_cast
  have hmask : (BitVec.ofNat 64 (2 ^ k) - 1).toNat = 2 ^ k - 1 := by
    rw [BitVec.toNat_sub_of_le]
    · rw [BitVec.toNat_ofNat, Nat.mod_eq_of_lt hpow]
      rfl
    · rw [BitVec.le_def, BitVec.toNat_ofNat, Nat.mod_eq_of_lt hpow]
      exact hpos
  rw [sub_mapStart, BitVec.toNat_and, hsize, hmask, Nat.and_two_pow_sub_one_eq_mod]
  exact Nat.mod_lt _ hpos

/-! ## The memory -/

section

variable {kernel : Kernel SysCall Int} {bytes : BitVec 64 → BitVec 8} {k : Nat}

/-- A load from the page that is mapped answers the byte there. -/
theorem triple_load (hmaps : MapsMemory kernel bytes k) {m : DevMem} {start offset : BitVec 64}
    (hmapped : m.mapped = some start) (hoffset : offset.toNat < 2 ^ k) :
    Triple kernel (DevMem.see k) (.idle bytes) (fun s => s = m) (call (.load start offset))
      fun loaded s => BitVec.ofInt 8 loaded = m.bytes (start + offset) ∧ s = m := by
  refine Triple.call_of_answer fun trace hs => ⟨?_, ?_⟩
  · rw [hmaps.load, hs, BitVec.ofInt_natCast, BitVec.ofNat_toNat, BitVec.setWidth_eq]
  · rw [hs]
    exact if_pos ⟨hmapped, hoffset⟩

/-- The memory that `mask_memory_byte` means to leave. -/
def DevMem.masked (bytes : BitVec 64 → BitVec 8) (addr : BitVec 64) (mask fieldValue : BitVec 32) :
    DevMem :=
  .idle (Function.update bytes addr (maskedByte (bytes addr) mask fieldValue))

/-- What a run leaves, on each of its ways: it maps nothing, it finds the byte as
it should be, or it stores it. -/
theorem triple_maskMemoryByte (hmaps : MapsMemory kernel bytes k) (addr : BitVec 64)
    (mask fieldValue : BitVec 32) :
    Triple kernel (DevMem.see k) (.idle bytes) (fun m => m = .idle bytes)
      (maskMemoryByte addr mask fieldValue) fun ret m =>
        (ret = FAILURE ∧ m = .idle bytes) ∨
          (ret = SUCCESS ∧ m = .masked bytes addr mask fieldValue) := by
  have hpage : Triple kernel (DevMem.see k) (.idle bytes) (fun m => m = .idle bytes)
      (call .sysconfPageSize) fun pageSize m => pageSize = 2 ^ k ∧ m = .idle bytes :=
    Triple.call_of_answer fun trace hs => ⟨hmaps.pageSize trace, hs⟩
  have hinside := offset_lt hmaps.bounded addr
  have haddr := mapStart_add_offset addr (BitVec.ofInt 64 (2 ^ k))
  -- the page while it is mapped
  have hend : ∀ (memfd : Int) (start : BitVec 64) (b : BitVec 64 → BitVec 8),
      b = (DevMem.masked bytes addr mask fieldValue).bytes →
      Triple kernel (DevMem.see k) (.idle bytes) (fun m => m = ⟨b, some start, false⟩)
        (do
          let _ ← call (.munmap start)
          let _ ← call (.close memfd)
          return SUCCESS) fun ret m =>
        (ret = FAILURE ∧ m = .idle bytes) ∨
          (ret = SUCCESS ∧ m = .masked bytes addr mask fieldValue) := by
    intro memfd start b hb
    have hunmap : Triple kernel (DevMem.see k) (.idle bytes) (fun m => m = ⟨b, some start, false⟩)
        (call (.munmap start)) fun _ m => m = .masked bytes addr mask fieldValue :=
      Triple.call fun m ret hm => by rw [hm, hb]; rfl
    exact hunmap.bind fun _ => (Triple.call_silent fun _ _ => rfl).bind fun _ =>
      Triple.pure fun m hm => Or.inr ⟨rfl, hm⟩
  refine (Triple.call_silent fun _ _ => rfl).bind fun memfd => ?_
  refine Triple.ite (fun _ => Triple.pure fun m hm => Or.inl ⟨rfl, hm⟩) fun _ => ?_
  refine hpage.bind fun pageSize => Triple.of_fact fun hsize => ?_
  subst hsize
  dsimp only
  generalize hstart : mapStart addr (BitVec.ofInt 64 (2 ^ k)) = start at hinside haddr ⊢
  have hmmap : Triple kernel (DevMem.see k) (.idle bytes) (fun m => m = .idle bytes)
      (call (.mmap memfd start)) fun mapped m =>
        if mapped = -1 then m = .idle bytes else m = ⟨bytes, some start, false⟩ := by
    refine Triple.call fun m ret hm => ?_
    subst hm
    by_cases hret : ret = -1
    · rw [if_pos hret]
      exact if_pos hret
    · rw [if_neg hret]
      exact if_neg hret
  refine hmmap.bind fun mapped => Triple.ite ?_ ?_
  · intro hfailed
    refine (Triple.call_silent fun _ _ => rfl).bind fun _ => Triple.pure fun m hm => ?_
    rw [if_pos hfailed] at hm
    exact Or.inl ⟨rfl, hm⟩
  intro hmapped
  simp only [if_neg hmapped]
  have hload := triple_load hmaps (m := ⟨bytes, some start, false⟩) rfl hinside
  refine hload.bind fun loaded => Triple.of_fact fun hbyte => ?_
  dsimp only at hbyte ⊢
  rw [hbyte, haddr]
  refine Triple.ite ?_ ?_
  · intro hsame
    refine hend memfd start bytes ?_
    show bytes = Function.update bytes addr _
    rw [← hsame, Function.update_eq_self]
  · intro _
    have hstore : Triple kernel (DevMem.see k) (.idle bytes)
        (fun m => m = ⟨bytes, some start, false⟩)
        (call (.store start (addr - start) (maskedByte (bytes addr) mask fieldValue)))
        fun _ m => m = ⟨(DevMem.masked bytes addr mask fieldValue).bytes, some start, false⟩ := by
      refine Triple.call fun m ret hm => ?_
      subst hm
      refine (if_pos ⟨rfl, hinside⟩).trans ?_
      rw [haddr]
      rfl
    have hback := triple_load hmaps
      (m := ⟨(DevMem.masked bytes addr mask fieldValue).bytes, some start, false⟩) rfl hinside
    refine hstore.bind fun _ => hback.bind fun _ => Triple.of_fact fun _ => ?_
    exact hend memfd start _ rfl

end

/-- A field of a byte, before and after. -/
structure FieldStored (mask fieldValue : BitVec 32) (old new : BitVec 8) : Prop where
  /-- The bits under the mask are those of the value, from its lowest on. -/
  inside : ∀ i < 8, mask.getLsbD i = true →
    new.getLsbD i = fieldValue.getLsbD (i - maskBeginBit mask)
  /-- The only other bits that change are those that the value spills into. -/
  beside : ∀ i < 8, mask.getLsbD i = false →
    (new.getLsbD i ≠ old.getLsbD i ↔ old.getLsbD i = false ∧
      maskBeginBit mask ≤ i ∧ fieldValue.getLsbD (i - maskBeginBit mask) = true)

theorem fieldStored_maskedByte (mask fieldValue : BitVec 32) (old : BitVec 8) :
    FieldStored mask fieldValue old (maskedByte old mask fieldValue) where
  inside i hi hset := by
    rw [getLsbD_maskedByte _ _ _ hi, hset, decide_eq_true (maskBeginBit_le hi hset)]
    simp
  beside i hi hclear := by
    rw [getLsbD_maskedByte _ _ _ hi, hclear]
    cases old.getLsbD i <;> simp

/-- What `mask_memory_byte` does to a memory, whatever fails: its accesses stay in
the page, which it gives back; if it answers `FAILURE` the memory is as before, and
otherwise one byte of it has the field stored. -/
theorem maskMemoryByte_effect {kernel : Kernel SysCall Int} {bytes : BitVec 64 → BitVec 8}
    {k : Nat} (hmaps : MapsMemory kernel bytes k) (addr : BitVec 64)
    (mask fieldValue : BitVec 32) {ret : Int} {m : DevMem}
    (hret : (maskMemoryByte addr mask fieldValue kernel []).1 = ret)
    (hm : (maskMemoryByte addr mask fieldValue kernel []).2.foldl (DevMem.see k) (.idle bytes) =
      m) :
    m.faulted = false ∧ m.mapped = none ∧
      ((ret = FAILURE ∧ m.bytes = bytes) ∨
        (ret = SUCCESS ∧ (∀ a, a ≠ addr → m.bytes a = bytes a) ∧
          FieldStored mask fieldValue (bytes addr) (m.bytes addr))) := by
  have h := (triple_maskMemoryByte hmaps addr mask fieldValue).run rfl
  rw [hret, hm] at h
  rcases h with ⟨hret, rfl⟩ | ⟨hret, rfl⟩
  · exact ⟨rfl, rfl, Or.inl ⟨hret, rfl⟩⟩
  · refine ⟨rfl, rfl, Or.inr ⟨hret, fun a ha => Function.update_of_ne ha _ _, ?_⟩⟩
    have hstored : (DevMem.masked bytes addr mask fieldValue).bytes addr =
        maskedByte (bytes addr) mask fieldValue := Function.update_self _ _ _
    rw [hstored]
    exact fieldStored_maskedByte mask fieldValue (bytes addr)

/-- A machine with pages of 4 KiB, all of its memory `0xff`, and no failures. -/
def fullMemory : Kernel SysCall Int
  | trace, .load start offset =>
    ((trace.foldl (DevMem.see 12) (.idle fun _ => 0xff)).bytes (start + offset)).toNat
  | _, .sysconfPageSize => 2 ^ 12
  | _, _ => 3

/-- The memory of that machine behind the call of `screen_initialize`. -/
def screenMemory : DevMem :=
  (maskMemoryByte 0x1800c1c1 0xf0 0 fullMemory []).2.foldl (DevMem.see 12) (.idle fun _ => 0xff)

theorem maskMemoryByte_effect_screen :
    screenMemory.faulted = false ∧ screenMemory.mapped = none ∧
      ((SUCCESS = FAILURE ∧ screenMemory.bytes = fun _ => 0xff) ∨
        (SUCCESS = SUCCESS ∧ (∀ a, a ≠ 0x1800c1c1 → screenMemory.bytes a = 0xff) ∧
          FieldStored 0xf0 0 0xff (screenMemory.bytes 0x1800c1c1))) :=
  have hmaps : MapsMemory fullMemory (fun _ => 0xff) 12 :=
    ⟨fun _ _ _ => rfl, fun _ => rfl, by decide⟩
  maskMemoryByte_effect hmaps 0x1800c1c1 0xf0 0 rfl rfl

end K3ScreenCtrl
