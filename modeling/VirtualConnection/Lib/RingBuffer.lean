import Mathlib.Algebra.Group.Fin.Basic
import Mathlib.Algebra.Order.Ring.Int
import Mathlib.Logic.Function.Basic

/-!
# Ring buffer

The latest `n` items of a sequence, in an array that is written round and round. `last` is where the
latest item is, and `back k` the item `k` places before it.
-/

namespace RingBuffer

structure Ring (α : Type*) (n : ℕ) where
  slots : Fin n → α
  last : Fin n

namespace Ring

variable {α : Type*} {n : ℕ} [NeZero n]

def push (r : Ring α n) (x : α) : Ring α n where
  slots := Function.update r.slots (r.last + 1) x
  last := r.last + 1

def back (r : Ring α n) (k : Fin n) : α := r.slots (r.last - k)

/-- The items are pushed from the right end of the list on: the latest is its head. -/
def pushAll (r : Ring α n) (l : List α) : Ring α n := l.foldr (fun x r => r.push x) r

variable {r : Ring α n} {x : α} {l : List α}

theorem pushAll_concat : r.pushAll (l ++ [x]) = (r.push x).pushAll l := List.foldr_append

theorem back_push_zero : (r.push x).back 0 = x := by
  simp [back, push]

theorem back_push_succ {k : Fin n} (hk : k + 1 ≠ 0) : (r.push x).back (k + 1) = r.back k := by
  have hne : r.last - k ≠ r.last + 1 := by
    intro h
    have hzero : r.last + 1 - (k + 1) = r.last + 1 := by rw [add_sub_add_right_eq_sub, h]
    exact hk (sub_eq_self.mp hzero)
  rw [back, push, add_sub_add_right_eq_sub]
  exact Function.update_of_ne hne x r.slots

theorem mk_succ {k : ℕ} (hk : k + 1 < n) :
    (⟨k + 1, hk⟩ : Fin n) = ⟨k, Nat.lt_of_succ_lt hk⟩ + 1 := by
  apply Fin.ext
  rw [Fin.val_add, Fin.val_one', Nat.add_mod_mod, Nat.mod_eq_of_lt hk]

/-- The ring holds the latest items in the order in which they came. -/
theorem back_pushAll {k : ℕ} (hk : k < n) (hl : k < l.length) :
    (r.pushAll l).back ⟨k, hk⟩ = l[k] := by
  induction l generalizing k with
  | nil => exact absurd hl (Nat.not_lt_zero k)
  | cons x l ih =>
    cases k with
    | zero =>
      have hzero : (⟨0, hk⟩ : Fin n) = 0 := Fin.ext (by simp)
      rw [hzero]
      exact back_push_zero
    | succ k =>
      have hne : (⟨k, Nat.lt_of_succ_lt hk⟩ : Fin n) + 1 ≠ 0 := by
        rw [← mk_succ hk]
        exact fun h => Nat.succ_ne_zero k (congrArg Fin.val h)
      rw [mk_succ hk]
      exact (back_push_succ hne).trans (ih _ (Nat.lt_of_succ_lt_succ hl))

/-- A full ring has nothing else. -/
theorem slots_eq_back (r : Ring α n) (i : Fin n) : r.slots i = r.back (r.last - i) := by
  rw [back, sub_sub_cancel]

end Ring

end RingBuffer
