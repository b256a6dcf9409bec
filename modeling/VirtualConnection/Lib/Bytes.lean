import Mathlib.Algebra.Order.Ring.Int
import Mathlib.Data.List.Basic
import Mathlib.Data.Nat.Basic

/-!
# Bytes

Memory as lists of bytes and numbers in network order.

* `overwrite`, `load?`, `store?`: copying into and out of a memory area; the checked forms are
  `none` when a byte outside the area would be touched.
* `Area n`: a memory area of exactly `n` bytes; `Area.store` keeps the size.
* `toBE`, `ofBE`: big-endian numbers of `k` bytes.
* `piece`: the `i`-th piece of a byte string cut into pieces of `c` bytes.
-/

namespace Bytes

/-! ## Memory areas -/

/-- `mem` with `bytes` copied to offset `off`. -/
def overwrite (mem : List UInt8) (off : ℕ) (bytes : List UInt8) : List UInt8 :=
  mem.take off ++ bytes ++ mem.drop (off + bytes.length)

/-- Read `len` bytes at `off`; `none` when some of them lie outside `mem`. -/
def load? (mem : List UInt8) (off len : ℕ) : Option (List UInt8) :=
  if off + len ≤ mem.length then some ((mem.drop off).take len) else none

/-- Copy `bytes` to `off`; `none` when some of them would lie outside `mem`. -/
def store? (mem : List UInt8) (off : ℕ) (bytes : List UInt8) : Option (List UInt8) :=
  if off + bytes.length ≤ mem.length then some (overwrite mem off bytes) else none

theorem length_overwrite {mem bytes : List UInt8} {off : ℕ} (h : off + bytes.length ≤ mem.length) :
    (overwrite mem off bytes).length = mem.length := by
  simp only [overwrite, List.length_append, List.length_take, List.length_drop]
  omega

theorem getElem?_overwrite {mem bytes : List UInt8} {off : ℕ}
    (h : off + bytes.length ≤ mem.length) (i : ℕ) :
    (overwrite mem off bytes)[i]? =
      if off ≤ i ∧ i < off + bytes.length then bytes[i - off]? else mem[i]? := by
  have htake : (mem.take off).length = off := by simp; omega
  unfold overwrite
  by_cases h1 : i < off
  · rw [if_neg (by omega), List.append_assoc, List.getElem?_append_left (by omega),
      List.getElem?_take_of_lt h1]
  · by_cases h2 : i < off + bytes.length
    · rw [if_pos ⟨by omega, h2⟩, List.append_assoc, List.getElem?_append_right (by omega), htake,
        List.getElem?_append_left (by omega)]
    · rw [if_neg (by omega), List.getElem?_append_right (by simp; omega), List.getElem?_drop]
      congr 1
      simp
      omega

theorem getD_overwrite {mem bytes : List UInt8} {off : ℕ}
    (h : off + bytes.length ≤ mem.length) (i : ℕ) :
    (overwrite mem off bytes).getD i 0 =
      if off ≤ i ∧ i < off + bytes.length then bytes.getD (i - off) 0 else mem.getD i 0 := by
  simp only [List.getD_eq_getElem?_getD, getElem?_overwrite h]
  split <;> rfl

theorem load_overwrite {mem bytes : List UInt8} {off : ℕ}
    (h : off + bytes.length ≤ mem.length) :
    ((overwrite mem off bytes).drop off).take bytes.length = bytes := by
  have htake : (mem.take off).length = off := by simp; omega
  rw [overwrite, List.append_assoc, List.drop_left' htake, List.take_left' rfl]

theorem overwrite_overwrite {mem first second : List UInt8} {off : ℕ}
    (h : off + first.length ≤ mem.length) (hl : second.length = first.length) :
    overwrite (overwrite mem off first) off second = overwrite mem off second := by
  have htake : (overwrite mem off first).take off = mem.take off := by
    rw [overwrite, List.append_assoc, List.take_left' (by simp; omega)]
  have hlen : (mem.take off ++ first).length = off + second.length := by simp; omega
  rw [overwrite, htake, overwrite, ← hlen, List.drop_left' rfl, overwrite, hl]

theorem take_overwrite {mem bytes : List UInt8} {off n : ℕ}
    (h : off + bytes.length ≤ mem.length) (hn : n ≤ off) :
    (overwrite mem off bytes).take n = mem.take n := by
  rw [overwrite, List.append_assoc, List.take_append_of_le_length (by simp; omega),
    List.take_take, Nat.min_eq_left hn]

theorem drop_overwrite {mem bytes : List UInt8} {off n : ℕ}
    (h : off + bytes.length ≤ mem.length) (hn : off + bytes.length ≤ n) :
    (overwrite mem off bytes).drop n = mem.drop n := by
  have hl : (mem.take off ++ bytes).length = off + bytes.length := by simp; omega
  rw [overwrite, List.drop_append, List.drop_eq_nil_of_le (by omega), hl, List.drop_drop,
    List.nil_append]
  congr 1
  omega

theorem overwrite_append_replicate (front bytes : List UInt8) (k : ℕ) :
    overwrite (front ++ List.replicate k 0) front.length bytes =
      front ++ bytes ++ List.replicate (k - bytes.length) 0 := by
  rw [overwrite, List.take_left' rfl, List.drop_append, List.drop_eq_nil_of_le (by omega),
    List.nil_append, Nat.add_sub_cancel_left, List.drop_replicate]

/-- A memory area of `n` bytes. -/
abbrev Area (n : ℕ) := {bytes : List UInt8 // bytes.length = n}

namespace Area

variable {n : ℕ}

def zero (n : ℕ) : Area n := ⟨List.replicate n 0, List.length_replicate⟩

def store (a : Area n) (off : ℕ) (bytes : List UInt8) (h : off + bytes.length ≤ n) : Area n :=
  ⟨overwrite a.1 off bytes, by rw [length_overwrite (by rw [a.2]; exact h), a.2]⟩

end Area

/-! ## Network order -/

/-- The last `k` bytes of `n`, most significant first. -/
def toBE : ℕ → ℕ → List UInt8
  | 0, _ => []
  | k + 1, n => UInt8.ofNat (n / 256 ^ k) :: toBE k n

/-- The number a byte string stands for, most significant byte first. -/
def ofBE : List UInt8 → ℕ
  | [] => 0
  | b :: bs => b.toNat * 256 ^ bs.length + ofBE bs

@[simp] theorem length_toBE (k n : ℕ) : (toBE k n).length = k := by
  induction k with
  | zero => rfl
  | succ k ih => simp [toBE, ih]

/-- The round trip: `k` bytes keep a number modulo `256 ^ k`. -/
theorem ofBE_toBE (k n : ℕ) : ofBE (toBE k n) = n % 256 ^ k := by
  induction k with
  | zero => simp [toBE, ofBE, Nat.mod_one]
  | succ k ih =>
    have hb : (UInt8.ofNat (n / 256 ^ k)).toNat = n / 256 ^ k % 256 := UInt8.toNat_ofNat'
    rw [toBE, ofBE, length_toBE, ih, hb, Nat.pow_succ, Nat.mod_mul, Nat.mul_comm, Nat.add_comm]

/-! ## Cutting into pieces -/

/-- Piece number `i` of `bytes`, cut into pieces of `c` bytes; the last one may be shorter. -/
def piece (c : ℕ) (bytes : List UInt8) (i : ℕ) : List UInt8 := (bytes.drop (c * i)).take c

theorem length_piece (c : ℕ) (bytes : List UInt8) (i : ℕ) :
    (piece c bytes i).length = min c (bytes.length - c * i) := by
  simp [piece]

/-- The first `n` pieces, put together, are the first `c * n` bytes. -/
theorem flatMap_piece (c : ℕ) (bytes : List UInt8) (n : ℕ) :
    (List.range n).flatMap (piece c bytes) = bytes.take (c * n) := by
  induction n with
  | zero => simp
  | succ n ih =>
    rw [List.range_succ, List.flatMap_append, ih, List.flatMap_singleton, piece, Nat.mul_succ,
      List.take_add]

theorem flatMap_piece_of_le {c n : ℕ} {bytes : List UInt8} (h : bytes.length ≤ c * n) :
    (List.range n).flatMap (piece c bytes) = bytes := by
  rw [flatMap_piece, List.take_of_length_le h]

/-- The pieces of areas put behind each other are the areas. -/
theorem piece_flatMap {n : ℕ} (areas : List (Area n)) {k : ℕ} (hk : k < areas.length) :
    piece n (areas.flatMap fun a => a.1) k = areas[k].1 := by
  induction areas generalizing k with
  | nil => simp at hk
  | cons a areas ih =>
    have ha : a.1.length = n := a.2
    cases k with
    | zero =>
      simp only [piece, Nat.mul_zero, List.drop_zero, List.flatMap_cons, List.getElem_cons_zero]
      rw [List.take_append_of_le_length (le_of_eq ha.symm), List.take_of_length_le (le_of_eq ha)]
    | succ k =>
      have hdrop : a.1.length ≤ n * (k + 1) := by rw [ha]; exact Nat.le_mul_of_pos_right n k.succ_pos
      have hsub : n * (k + 1) - a.1.length = n * k := by rw [ha, Nat.mul_succ, Nat.add_sub_cancel]
      simp only [piece, List.flatMap_cons, List.getElem_cons_succ] at ih ⊢
      rw [List.drop_append, List.drop_eq_nil_of_le hdrop, List.nil_append, hsub]
      exact ih (by simpa using hk)

theorem length_flatMap_area {n : ℕ} (areas : List (Area n)) :
    (areas.flatMap fun a => a.1).length = n * areas.length := by
  induction areas with
  | nil => simp
  | cons a areas ih =>
    have ha : a.1.length = n := a.2
    rw [List.flatMap_cons, List.length_append, ih, ha, List.length_cons, Nat.mul_succ, Nat.add_comm]

end Bytes
