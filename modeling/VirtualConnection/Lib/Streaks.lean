import Mathlib.Data.List.Basic

/-!
# Streaks

How often a value stands at the head of a list in a row. With the latest element first, this is what a
counter holds that is reset by every other value.
-/

namespace Streaks

variable {α : Type*} [DecidableEq α]

def streak (v : α) (xs : List α) : ℕ := (xs.takeWhile (· = v)).length

variable {v w : α} {xs : List α}

@[simp] theorem streak_nil : streak v [] = 0 := rfl

@[simp] theorem streak_cons_self : streak v (v :: xs) = streak v xs + 1 := by
  simp [streak]

theorem streak_cons_of_ne (h : w ≠ v) : streak v (w :: xs) = 0 := by
  simp [streak, h]

/-- The latest `n` elements are all `v`. -/
theorem take_eq_replicate_iff {n : ℕ} : xs.take n = List.replicate n v ↔ n ≤ streak v xs := by
  induction n generalizing xs with
  | zero => simp
  | succ n ih =>
    cases xs with
    | nil => simp
    | cons w xs =>
      rw [List.take_succ_cons, List.replicate_succ, List.cons.injEq, ih]
      by_cases hw : w = v
      · subst hw
        simp
      · simp [hw, streak_cons_of_ne hw]

theorem streak_replicate_append (n : ℕ) :
    streak v (List.replicate n v ++ xs) = n + streak v xs := by
  induction n with
  | zero => simp
  | succ n ih =>
    rw [List.replicate_succ, List.cons_append, streak_cons_self, ih]
    omega

end Streaks
