import Mathlib.Algebra.Order.Ring.Int
import Mathlib.Algebra.BigOperators.Group.List.Basic

/-!
# Transfer

Moving a block of bytes by system calls that may move only a part of it. A call moves some of what
is left and returns how much, or it returns -1 and sets the error number. A call that succeeds leaves
the error number alone, so that the number a caller sees may be an old one.

* `transfer`: repeat the call until the block is through or a call returns 0 or -1.
* `Through`, `Halted`: the lists of results with which a transfer comes to an end, whole or early.
* `transfer_eq_some`: a transfer ends in one of these two ways, with the matching outcome.
-/

namespace Transfer

/-- What a call did: it moved `n` bytes and returned `n`, or it failed. -/
inductive Syscall where
  | moved (n : ℕ)
  | failed (errno : ℕ)
  deriving DecidableEq, Repr

/-- What the loop returns, the error number after it, and the bytes it has moved. -/
structure Outcome where
  res : Int
  errno : ℕ
  moved : ℕ
  deriving DecidableEq, Repr

/-- The loop after `done` of `length` bytes; `none` when the results run out before it returns, or
when one of them is more than what was left to move. -/
def transfer (length errno : ℕ) : ℕ → List Syscall → Option Outcome
  | done, [] => if done < length then none else some ⟨done, errno, done⟩
  | done, call :: calls =>
    if done < length then
      match call with
      | .moved 0 => some ⟨0, errno, done⟩
      | .moved (n + 1) =>
        if done + (n + 1) ≤ length then transfer length errno (done + (n + 1)) calls else none
      | .failed e => some ⟨-1, e, done⟩
    else some ⟨done, errno, done⟩

def Through (length : ℕ) (calls : List Syscall) : Prop :=
  ∃ (sizes : List ℕ) (rest : List Syscall), calls = sizes.map Syscall.moved ++ rest ∧ (∀ n ∈ sizes, 0 < n) ∧ sizes.sum = length

/-- After `moved` of `length` bytes a call returns 0 or -1, which leaves the error number `e`;
`errno` is the error number before. -/
def Halted (length errno moved e : ℕ) (calls : List Syscall) : Prop :=
  ∃ (sizes : List ℕ) (last : Syscall) (rest : List Syscall),
    calls = sizes.map Syscall.moved ++ last :: rest ∧ (∀ n ∈ sizes, 0 < n) ∧
    sizes.sum = moved ∧ moved < length ∧ (last = .failed e ∨ last = .moved 0 ∧ e = errno)

variable {length errno done moved e : ℕ} {calls rest : List Syscall} {sizes : List ℕ} {o : Outcome}

theorem Halted.lt (h : Halted length errno moved e calls) : moved < length := by
  obtain ⟨_, _, _, _, _, _, hlt, _⟩ := h
  exact hlt

theorem transfer_sizes (hpos : ∀ n ∈ sizes, 0 < n) (hle : done + sizes.sum ≤ length) :
    transfer length errno done (sizes.map Syscall.moved ++ rest) =
      transfer length errno (done + sizes.sum) rest := by
  induction sizes generalizing done with
  | nil => simp
  | cons n sizes ih =>
    obtain ⟨m, rfl⟩ := Nat.exists_eq_add_of_lt (hpos n (by simp))
    simp only [List.sum_cons, zero_add] at hle ⊢
    have hlt : done < length := by omega
    have hfit : done + (m + 1) ≤ length := by omega
    simp only [List.map_cons, List.cons_append, transfer, hlt, hfit, if_true]
    rw [ih (fun k hk => hpos k (by simp [hk])) (by omega), Nat.add_assoc]

theorem transfer_length : transfer length errno length calls = some ⟨length, errno, length⟩ := by
  cases calls <;> simp [transfer]

theorem transfer_through (errno : ℕ) (h : Through length calls) :
    transfer length errno 0 calls = some ⟨length, errno, length⟩ := by
  obtain ⟨sizes, rest, rfl, hpos, hsum⟩ := h
  rw [transfer_sizes hpos (by omega), hsum, Nat.zero_add]
  exact transfer_length

theorem transfer_halted (h : Halted length errno moved e calls) :
    ∃ res, -1 ≤ res ∧ res ≤ 0 ∧ transfer length errno 0 calls = some ⟨res, e, moved⟩ := by
  obtain ⟨sizes, last, rest, rfl, hpos, hsum, hlt, hlast⟩ := h
  rw [transfer_sizes hpos (by omega), hsum, Nat.zero_add]
  rcases hlast with rfl | ⟨rfl, rfl⟩
  · exact ⟨-1, by decide, by decide, by simp [transfer, hlt]⟩
  · exact ⟨0, by decide, by decide, by simp [transfer, hlt]⟩

theorem through_or_halted (hle : done ≤ length) (h : transfer length errno done calls = some o) :
    Through (length - done) calls ∨ ∃ moved e, Halted (length - done) errno moved e calls := by
  induction calls generalizing done with
  | nil =>
    simp only [transfer] at h
    split at h
    · cases h
    · exact .inl ⟨[], [], rfl, by simp, by simp; omega⟩
  | cons call calls ih =>
    simp only [transfer] at h
    split at h
    · next hlt =>
      split at h
      · exact .inr ⟨0, errno, [], _, calls, rfl, by simp, rfl, by omega, .inr ⟨rfl, rfl⟩⟩
      · next n =>
        split at h
        · next hfit =>
          rcases ih hfit h with ⟨sizes, rest, rfl, hpos, hsum⟩ |
            ⟨moved, e, sizes, last, rest, rfl, hpos, hsum, hlt', hlast⟩
          · exact .inl ⟨(n + 1) :: sizes, rest, rfl, by simpa using hpos, by simp; omega⟩
          · exact .inr ⟨n + 1 + moved, e, (n + 1) :: sizes, last, rest, rfl, by simpa using hpos,
              by simp; omega, by omega, hlast⟩
        · cases h
      · next e => exact .inr ⟨0, e, [], _, calls, rfl, by simp, rfl, by omega, .inl rfl⟩
    · exact .inl ⟨[], _, rfl, by simp, by simp; omega⟩

/-- **A transfer ends whole or halted.** -/
theorem transfer_eq_some (h : transfer length errno 0 calls = some o) :
    (Through length calls ∧ o = ⟨length, errno, length⟩) ∨
      (Halted length errno o.moved o.errno calls ∧ -1 ≤ o.res ∧ o.res ≤ 0) := by
  rcases through_or_halted (Nat.zero_le length) h with ht | ⟨moved, e, hh⟩
  · have := transfer_through errno ht
    exact .inl ⟨ht, Option.some.inj (h.symm.trans this)⟩
  · obtain ⟨res, hlow, hres, ho⟩ := transfer_halted hh
    obtain rfl := Option.some.inj (h.symm.trans ho)
    exact .inr ⟨hh, hlow, hres⟩

/-- Where and with which error number a transfer halts is fixed by the results. -/
theorem Halted.unique (h : Halted length errno moved e calls)
    (ho : transfer length errno 0 calls = some o) : o.res ≤ 0 ∧ o.errno = e ∧ o.moved = moved := by
  obtain ⟨res, -, hres, hr⟩ := transfer_halted h
  obtain rfl := Option.some.inj (ho.symm.trans hr)
  exact ⟨hres, rfl, rfl⟩

end Transfer
