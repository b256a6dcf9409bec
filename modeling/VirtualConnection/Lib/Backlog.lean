import Mathlib.Algebra.BigOperators.Intervals
import Mathlib.Algebra.Order.Group.Int

/-!
# Backlog

A slotted server: `init` waits at the start, the amount `arr k` arrives in slot `k`, at most `cap k`
is served there, and the rest waits for the next slot. Capacities may change from slot to slot.

* `pending`, `offered`, `served`: what waits before a slot, what the slot has to serve, and what it
  serves.
* `load`: what some consecutive slots bring, with the initial amount for the first of all.
* `lt_pending_iff`, `lt_offered_iff`: the backlog exceeds a bound when the load of some slots that
  end here exceeds their capacities by that much. This turns a statement about the recursion into
  one about sums of the inputs.
-/

namespace Backlog

/-- What the slots from `j` up to `k` add up to. -/
def total (f : ℕ → ℤ) (j k : ℕ) : ℤ := ∑ i ∈ Finset.Ico j k, f i

@[simp] theorem total_self (f : ℕ → ℤ) (k : ℕ) : total f k k = 0 := by
  simp [total]

theorem total_succ (f : ℕ → ℤ) {j k : ℕ} (h : j ≤ k) : total f j (k + 1) = total f j k + f k :=
  Finset.sum_Ico_succ_top h f

variable (init : ℤ) (cap arr : ℕ → ℤ)

/-- What is left over before slot `k`. -/
def pending : ℕ → ℤ
  | 0 => init
  | k + 1 => pending k + arr k - min (pending k + arr k) (cap k)

def offered (k : ℕ) : ℤ := pending init cap arr k + arr k

def served (k : ℕ) : ℤ := min (offered init cap arr k) (cap k)

def load (j k : ℕ) : ℤ := (if j = 0 then init else 0) + total arr j k

variable {init cap arr}

@[simp] theorem pending_zero : pending init cap arr 0 = init := rfl

theorem pending_succ (k : ℕ) :
    pending init cap arr (k + 1) = offered init cap arr k - served init cap arr k := rfl

theorem load_self {k : ℕ} (h : k ≠ 0) : load init arr k k = 0 := by
  simp [load, h]

theorem load_succ {j k : ℕ} (h : j ≤ k) :
    load init arr j (k + 1) = load init arr j k + arr k := by
  rw [load, total_succ arr h, load, add_assoc]

theorem pending_nonneg (hinit : 0 ≤ init) (k : ℕ) : 0 ≤ pending init cap arr k := by
  cases k with
  | zero => exact hinit
  | succ k =>
    have := min_le_left (offered init cap arr k) (cap k)
    rw [pending_succ, served]
    omega

theorem offered_nonneg (hinit : 0 ≤ init) (harr : ∀ k, 0 ≤ arr k) (k : ℕ) :
    0 ≤ offered init cap arr k :=
  add_nonneg (pending_nonneg hinit k) (harr k)

theorem served_nonneg (hinit : 0 ≤ init) (hcap : ∀ k, 0 ≤ cap k) (harr : ∀ k, 0 ≤ arr k) (k : ℕ) :
    0 ≤ served init cap arr k :=
  le_min (offered_nonneg hinit harr k) (hcap k)

theorem served_le (k : ℕ) : served init cap arr k ≤ cap k := min_le_right ..

/-- A slot that does not serve its whole capacity serves everything. -/
theorem pending_succ_of_served_lt {k : ℕ} (h : served init cap arr k < cap k) :
    pending init cap arr (k + 1) = 0 := by
  have : served init cap arr k = offered init cap arr k := by
    rcases min_choice (offered init cap arr k) (cap k) with hm | hm
    · exact hm
    · rw [served, hm] at h
      exact absurd h (lt_irrefl _)
  rw [pending_succ, this, sub_self]

/-- Nothing is lost: what arrived has been served or waits. -/
theorem total_served_add_pending (k : ℕ) :
    total (served init cap arr) 0 k + pending init cap arr k = init + total arr 0 k := by
  induction k with
  | zero => simp
  | succ k ih =>
    have hserved := total_succ (served init cap arr) (Nat.zero_le k)
    have harr := total_succ arr (Nat.zero_le k)
    rw [pending_succ, offered]
    omega

/-- Nothing is served before it arrives. -/
theorem total_served_le (hinit : 0 ≤ init) (k : ℕ) :
    total (served init cap arr) 0 k ≤ init + total arr 0 k := by
  have hsum := @total_served_add_pending init cap arr k
  have hpending := @pending_nonneg init cap arr hinit k
  omega

theorem offered_le (hinit : 0 ≤ init) (hcap : ∀ k, 0 ≤ cap k) (harr : ∀ k, 0 ≤ arr k) (k : ℕ) :
    offered init cap arr k ≤ init + total arr 0 (k + 1) := by
  have hserved : 0 ≤ total (served init cap arr) 0 k :=
    Finset.sum_induction _ (0 ≤ ·) (fun _ _ => add_nonneg) (le_refl 0)
      fun i _ => served_nonneg hinit hcap harr i
  have hsum := @total_served_add_pending init cap arr k
  have htotal := total_succ arr (Nat.zero_le k)
  rw [offered]
  omega

theorem lt_pending_succ_iff (x : ℤ) (k : ℕ) :
    x < pending init cap arr (k + 1) ↔ x < 0 ∨ x + cap k < offered init cap arr k := by
  rw [pending_succ, served]
  rcases le_total (offered init cap arr k) (cap k) with hle | hle
  · rw [min_eq_left hle]
    omega
  · rw [min_eq_right hle]
    omega

/-- What a slot has to serve is the worst excess of some slots that end here: the last one's
arrivals are there, and its capacity has not been used yet. -/
theorem lt_offered_iff (x : ℤ) (k : ℕ) :
    x < offered init cap arr k ↔ ∃ j ≤ k, x + total cap j k < load init arr j (k + 1) := by
  induction k generalizing x with
  | zero => simp [offered, load, total]
  | succ k ih =>
    have hlast : ∀ j ≤ k + 1, load init arr j (k + 1 + 1) = load init arr j (k + 1) + arr (k + 1) :=
      fun j => load_succ
    have hpending := @lt_pending_succ_iff init cap arr (x - arr (k + 1)) k
    rw [ih] at hpending
    have hoffered : x < offered init cap arr (k + 1) ↔
        x - arr (k + 1) < pending init cap arr (k + 1) := by
      rw [offered]
      omega
    rw [hoffered, hpending]
    constructor
    · rintro (hneg | ⟨j, hj, hlt⟩)
      · refine ⟨k + 1, le_refl _, ?_⟩
        rw [hlast _ (le_refl _), load_self (Nat.succ_ne_zero k), total_self]
        omega
      · refine ⟨j, by omega, ?_⟩
        rw [hlast j (by omega), total_succ cap hj]
        omega
    · rintro ⟨j, hj, hlt⟩
      rw [hlast j hj] at hlt
      rcases hj.lt_or_eq with hj' | rfl
      · rw [total_succ cap (by omega)] at hlt
        exact .inr ⟨j, by omega, by omega⟩
      · rw [load_self (Nat.succ_ne_zero k), total_self] at hlt
        exact .inl (by omega)

theorem lt_pending_iff {x : ℤ} (hx : 0 ≤ x) (k : ℕ) :
    x < pending init cap arr k ↔ ∃ j ≤ k, x + total cap j k < load init arr j k := by
  cases k with
  | zero => simp [load]
  | succ k =>
    have hcap : ∀ j ≤ k, total cap j (k + 1) = total cap j k + cap k := fun j => total_succ cap
    rw [lt_pending_succ_iff, lt_offered_iff]
    constructor
    · rintro (hneg | ⟨j, hj, hlt⟩)
      · exact absurd hneg (by omega)
      · refine ⟨j, by omega, ?_⟩
        rw [hcap j hj]
        omega
    · rintro ⟨j, hj, hlt⟩
      rcases hj.lt_or_eq with hj' | rfl
      · rw [hcap j (by omega)] at hlt
        exact .inr ⟨j, by omega, by omega⟩
      · rw [load_self (Nat.succ_ne_zero k), total_self] at hlt
        exact absurd hlt (by omega)

theorem pending_eq_zero_iff (hinit : 0 ≤ init) (k : ℕ) :
    pending init cap arr k = 0 ↔ ∀ j ≤ k, load init arr j k ≤ total cap j k := by
  have hlt := @lt_pending_iff init cap arr 0 (le_refl 0) k
  have hnonneg := @pending_nonneg init cap arr hinit k
  constructor
  · intro h j hj
    by_contra hgt
    have := hlt.mpr ⟨j, hj, by omega⟩
    omega
  · intro h
    by_contra hne
    obtain ⟨j, hj, hgt⟩ := hlt.mp (by omega)
    have := h j hj
    omega

theorem lt_served_iff {x : ℤ} {k : ℕ} (hcap : x < cap k) :
    x < served init cap arr k ↔ ∃ j ≤ k, x + total cap j k < load init arr j (k + 1) := by
  rw [served, lt_min_iff, lt_offered_iff]
  exact and_iff_left hcap

/-- Once nothing arrives and nothing waits, it stays so. -/
theorem pending_eq_zero_of_silent (hcap : ∀ k, 0 ≤ cap k) {k m : ℕ}
    (h : pending init cap arr k = 0) (hsilent : ∀ i, k ≤ i → arr i = 0) (hkm : k ≤ m) :
    pending init cap arr m = 0 := by
  induction m, hkm using Nat.le_induction with
  | base => exact h
  | succ m hkm ih =>
    have hoffered : offered init cap arr m = 0 := by rw [offered, ih, hsilent m hkm, add_zero]
    rw [pending_succ, served, hoffered, min_eq_left (hcap m), sub_zero]

end Backlog
