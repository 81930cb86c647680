import K3ScreenCtrl.Lib.Cursor
import Mathlib.Data.List.Basic

/-!
# Blocks of memory

A block is the list of its cells.  A fresh block holds whatever memory held
(`fresh`), and the operations of `string.h` answer `none` when they would leave
the block.

The rules follow a block that is filled from the front: behind the cells that
were written, `written`, the block ends in `rest`, and nothing has to be known
of `rest`.

* `copyTo_append` is one copy, and `copyTo_row` is a copy over one row of a
  table.
* `Writer` is the idiom `buf[pos++] = a`; `puts_after` is any number of them.
-/

namespace Block

variable {α : Type}

/-- A block of `n` cells that still holds what memory held before. -/
def fresh (n : Nat) (prior : Nat → α) : List α := (List.range n).map prior

/-- `memmove(block + start, src, n)`, where `src` are the `n` cells that are
read. -/
def copyTo (block : List α) (start : Nat) (src : List α) : Option (List α) :=
  if start + src.length ≤ block.length then
    some (block.take start ++ src ++ block.drop (start + src.length))
  else none

/-- `block[i] = a`. -/
def store (block : List α) (i : Nat) (a : α) : Option (List α) := copyTo block i [a]

/-- `memset(block, a, n)`. -/
def fill (block : List α) (a : α) (n : Nat) : Option (List α) :=
  copyTo block 0 (List.replicate n a)

@[simp] theorem length_fresh (n : Nat) (prior : Nat → α) : (fresh n prior).length = n := by
  simp [fresh]

/-- A copy behind the cells that were written. -/
theorem copyTo_append {written rest src : List α} {start : Nat} (hstart : start = written.length)
    (hfit : src.length ≤ rest.length) :
    copyTo (written ++ rest) start src = some (written ++ src ++ rest.drop src.length) := by
  rw [copyTo, if_pos (by rw [hstart, List.length_append]; omega), hstart, List.take_left,
    List.drop_append, List.drop_of_length_le (by omega), List.nil_append]
  congr 3
  omega

/-- A copy over all of the rest. -/
theorem copyTo_rest {written rest src : List α} {start : Nat} (hstart : start = written.length)
    (hfit : src.length = rest.length) :
    copyTo (written ++ rest) start src = some (written ++ src) := by
  rw [copyTo_append hstart (Nat.le_of_eq hfit), hfit, List.drop_length, List.append_nil]

/-- A fill of the whole block leaves nothing of what it held. -/
theorem fill_fresh (n : Nat) (prior : Nat → α) (a : α) :
    fill (fresh n prior) a n = some (List.replicate n a) :=
  @copyTo_rest α [] (fresh n prior) (List.replicate n a) 0 rfl (by simp)

/-- A store into the front of cells that are all alike. -/
theorem store_replicate (written : List α) {start : Nat} (hstart : start = written.length)
    (n : Nat) (a b : α) :
    store (written ++ List.replicate (n + 1) a) start b =
      some (written ++ [b] ++ List.replicate n a) :=
  copyTo_append hstart (by simp)

/-- A copy over row `i` of a table whose rows have one width. -/
theorem copyTo_row {β : Type} {f : β → List α} {width : Nat} (hwidth : ∀ b, (f b).length = width)
    {header : List α} {rows : List β} {i start : Nat} (hi : i < rows.length)
    (hstart : start = header.length + width * i) (b : β) :
    copyTo (header ++ rows.flatMap f) start (f b) =
      some (header ++ (rows.set i b).flatMap f) := by
  have hfront : ((rows.take i).flatMap f).length = width * i := by
    rw [Cursor.length_flatMap hwidth, List.length_take_of_le (Nat.le_of_lt hi)]
  have hrows : rows.flatMap f =
      (rows.take i).flatMap f ++ (f rows[i] ++ (rows.drop (i + 1)).flatMap f) := by
    conv_lhs => rw [← List.take_append_drop i rows, List.drop_eq_getElem_cons hi]
    rw [List.flatMap_append, List.flatMap_cons]
  rw [hrows, ← List.append_assoc header,
    copyTo_append (by rw [hstart, List.length_append, hfront])
      (by rw [List.length_append, hwidth, hwidth]; omega),
    hwidth, ← hwidth rows[i], List.drop_left, List.set_eq_take_append_cons_drop, if_pos hi,
    List.flatMap_append, List.flatMap_cons]
  simp only [List.append_assoc]

/-! ## Writers -/

/-- A block that is filled through an index. -/
structure Writer (α : Type) where
  buf : List α
  pos : Nat

/-- `buf[pos++] = a`. -/
def Writer.put (w : Writer α) (a : α) : Option (Writer α) :=
  (store w.buf w.pos a).map fun buf => { buf := buf, pos := w.pos + 1 }

def Writer.puts (w : Writer α) (as : List α) : Option (Writer α) := as.foldlM Writer.put w

/-- The writer behind the cells that it wrote. -/
def Writer.after (written rest : List α) : Writer α where
  buf := written ++ rest
  pos := written.length

theorem Writer.puts_singleton (w : Writer α) (a : α) : w.puts [a] = w.put a := by
  simp [puts]

theorem Writer.puts_append (w : Writer α) (as bs : List α) :
    w.puts (as ++ bs) = (w.puts as).bind fun w => w.puts bs := by
  simp only [puts, List.foldlM_append, Option.bind_eq_bind]

/-- A writer stores what fits the rest of its block. -/
theorem Writer.puts_after (written rest as : List α) :
    (Writer.after written rest).puts as =
      if as.length ≤ rest.length then some (.after (written ++ as) (rest.drop as.length))
      else none := by
  induction as generalizing written rest with
  | nil =>
    rw [List.length_nil, if_pos (Nat.zero_le _), List.append_nil]
    rfl
  | cons a as ih =>
    have hcons : (Writer.after written rest).puts (a :: as) =
        ((Writer.after written rest).put a).bind fun w => w.puts as := rfl
    rw [hcons, put, store]
    cases rest with
    | nil =>
      have hfull : copyTo (Writer.after written []).buf (Writer.after written []).pos [a] = none :=
        if_neg (by simp [after])
      rw [hfull, if_neg (by simp)]
      rfl
    | cons b rest =>
      have hstore : copyTo (Writer.after written (b :: rest)).buf
          (Writer.after written (b :: rest)).pos [a] = some (written ++ [a] ++ rest) :=
        copyTo_append rfl (by simp)
      have hafter : ({ buf := written ++ [a] ++ rest
                       pos := (Writer.after written (b :: rest)).pos + 1 } : Writer α) =
          .after (written ++ [a]) rest := by
        simp [after]
      rw [hstore, Option.map_some, hafter, Option.bind_some, ih]
      simp

end Block
