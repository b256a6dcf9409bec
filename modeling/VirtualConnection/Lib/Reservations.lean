import Mathlib.Algebra.Order.Ring.Int
import Mathlib.Algebra.BigOperators.Group.List.Basic
import Mathlib.Data.List.Nodup
import Mathlib.Data.List.Range

/-!
# Reservations

Jobs that reserve ranges of numbers one behind the other and use them up at their own pace. A job
`b` reserves the `size b` numbers from `base b` on and has used the first `progress b` of them.

* `Laid k jobs`: the ranges are laid end to end from `k` on.
* `issued`: the numbers used so far. They never repeat, and they are all there once every job is
  through.
* `getElem?_flatMap`: what job `b` has at its place `j` is at place `base b + j` of the whole.
-/

namespace Reservations

variable {β γ : Type*} {base size progress : β → ℕ} {k : ℕ} {jobs pre post : List β} {b b' : β}

/-- The ranges of the jobs are laid end to end from `k` on. -/
def Laid (base size : β → ℕ) : ℕ → List β → Prop
  | _, [] => True
  | k, b :: jobs => base b = k ∧ Laid base size (k + size b) jobs

/-- How many numbers are reserved. -/
def total (size : β → ℕ) (jobs : List β) : ℕ := (jobs.map size).sum

/-- The numbers used so far, job by job. -/
def issued (base progress : β → ℕ) (jobs : List β) : List ℕ :=
  jobs.flatMap fun b => List.range' (base b) (progress b)

@[simp] theorem total_append (as bs : List β) : total size (as ++ bs) = total size as + total size bs
    := by
  simp [total]

@[simp] theorem total_cons (b : β) (bs : List β) : total size (b :: bs) = size b + total size bs := by
  simp [total]

theorem laid_append {as bs : List β} :
    Laid base size k (as ++ bs) ↔ Laid base size k as ∧ Laid base size (k + total size as) bs := by
  induction as generalizing k with
  | nil => simp [Laid, total]
  | cons a as ih => simp [Laid, ih, and_assoc, Nat.add_assoc]

theorem Laid.snoc (h : Laid base size k jobs) (hb : base b = k + total size jobs) :
    Laid base size k (jobs ++ [b]) :=
  laid_append.mpr ⟨h, hb, trivial⟩

theorem Laid.replace (h : Laid base size k (pre ++ b :: post)) (hbase : base b' = base b)
    (hsize : size b' = size b) : Laid base size k (pre ++ b' :: post) := by
  obtain ⟨hpre, hb, hpost⟩ := laid_append.mp h
  exact laid_append.mpr ⟨hpre, hbase.trans hb, by rwa [hsize]⟩

theorem issued_sublist (h : Laid base size k jobs) (hp : ∀ b ∈ jobs, progress b ≤ size b) :
    (issued base progress jobs).Sublist (List.range' k (total size jobs)) := by
  induction jobs generalizing k with
  | nil => exact List.nil_sublist _
  | cons b jobs ih =>
    obtain ⟨hb, hrest⟩ := h
    rw [issued, List.flatMap_cons, total_cons, ← List.range'_append_1, hb]
    exact (List.range'_sublist_right.mpr (hp b List.mem_cons_self)).append
      (ih hrest fun c hc => hp c (List.mem_cons_of_mem _ hc))

theorem issued_advance (hbase : base b' = base b) (hp : progress b' = progress b + 1) :
    (issued base progress (pre ++ b' :: post)).Perm
      ((base b + progress b) :: issued base progress (pre ++ b :: post)) := by
  simp only [issued, List.flatMap_append, List.flatMap_cons, hbase, hp, List.range'_1_concat]
  rw [List.append_assoc, List.singleton_append, ← List.append_assoc, ← List.append_assoc]
  exact List.perm_middle

/-- When every job is through, all reserved numbers have been used. -/
theorem issued_complete (h : Laid base size k jobs) (hp : ∀ b ∈ jobs, progress b = size b) :
    issued base progress jobs = List.range' k (total size jobs) := by
  induction jobs generalizing k with
  | nil => rfl
  | cons b jobs ih =>
    obtain ⟨hb, hrest⟩ := h
    have hrec := ih hrest fun c hc => hp c (List.mem_cons_of_mem _ hc)
    rw [issued] at hrec
    rw [issued, List.flatMap_cons, total_cons, ← List.range'_append_1, hb, hrec,
      hp b List.mem_cons_self]

section Contents

variable {f : β → List γ}

theorem length_flatMap (hf : ∀ b ∈ jobs, (f b).length = size b) :
    (jobs.flatMap f).length = total size jobs := by
  induction jobs with
  | nil => rfl
  | cons b jobs ih =>
    rw [List.flatMap_cons, List.length_append, total_cons, hf b List.mem_cons_self,
      ih fun c hc => hf c (List.mem_cons_of_mem _ hc)]

theorem getElem?_flatMap (h : Laid base size 0 (pre ++ b :: post))
    (hf : ∀ c ∈ pre ++ b :: post, (f c).length = size c) {j : ℕ} (hj : j < size b) :
    ((pre ++ b :: post).flatMap f)[base b + j]? = (f b)[j]? := by
  obtain ⟨-, hb, -⟩ := laid_append.mp h
  have hpre : (pre.flatMap f).length = base b := by
    rw [length_flatMap fun c hc => hf c (List.mem_append_left _ hc), hb, Nat.zero_add]
  rw [List.flatMap_append, List.getElem?_append_right (by omega), hpre, List.flatMap_cons,
    List.getElem?_append_left (by rw [hf b (by simp)]; omega), Nat.add_sub_cancel_left]

end Contents

end Reservations
