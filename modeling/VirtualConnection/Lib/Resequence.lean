import Mathlib.Algebra.Order.Ring.Int
import Mathlib.Data.List.Basic
import Mathlib.Data.List.Nodup
import Mathlib.Data.List.Range
import Mathlib.Data.List.Perm.Subperm
import Mathlib.Order.Bounds.Basic

/-!
# Resequencing

Putting numbered items back in order. Items of any type arrive in any order; `key` numbers them.
What has been released is `out`, what has to wait is `pending`, and `next` is the number to be
released next. `InOrder` says that these three are the right ones for the items that `arrived`.

An implementation handles one arrival by a few list operations and then moves items from
`pending` to `out`. Each operation has a rule here (`accept`, `defer`, `ignore`, `move`, `drop`,
`settle`); between the operations `next` may already be in `pending`, which is what `Settling`
allows and `InOrder` does not.

The order `R` of `pending` is a parameter: `<` where numbers never repeat, `≤` where they may.
-/

namespace Resequence

variable {α : Type*}

/-- `out`, `pending` and `next` account for `arrived`, but `pending` may still hold numbers up to
`next`. -/
structure Settling (key : α → ℕ) (R : ℕ → ℕ → Prop) (arrived out pending : List α)
    (next : ℕ) : Prop where
  out_keys : out.map key = List.range next
  sorted : pending.Pairwise fun a b => R (key a) (key b)
  sound : ∀ x, x ∈ out ∨ x ∈ pending → x ∈ arrived
  complete : ∀ x ∈ arrived, key x < next ∨ ∃ y ∈ pending, key y = key x

/-- The released items are `0, 1, ..., next - 1` in order and what waits lies above `next`. -/
structure InOrder (key : α → ℕ) (R : ℕ → ℕ → Prop) (arrived out pending : List α)
    (next : ℕ) : Prop extends Settling key R arrived out pending next where
  gap : ∀ x ∈ pending, next < key x

variable {key : α → ℕ} {R : ℕ → ℕ → Prop} {arrived out pending : List α} {next : ℕ} {x y : α}

namespace InOrder

theorem empty : InOrder key R [] [] [] 0 :=
  { out_keys := rfl, sorted := .nil, sound := by simp, complete := by simp, gap := by simp }

/-- The number due is the least one that has not arrived. -/
theorem isLeast (h : InOrder key R arrived out pending next) :
    IsLeast {n | ∀ x ∈ arrived, key x ≠ n} next := by
  constructor
  · rintro x hx rfl
    rcases h.complete x hx with hlt | ⟨y, hy, he⟩
    · exact Nat.lt_irrefl _ hlt
    · have := h.gap y hy
      omega
  · intro n hn
    by_contra hlt
    have hmem : n ∈ out.map key := by
      rw [h.out_keys]; exact List.mem_range.mpr (by omega)
    obtain ⟨x, hx, rfl⟩ := List.mem_map.mp hmem
    exact hn x (h.sound x (.inl hx)) rfl

/-- The item whose number is due is released at once. -/
theorem accept (h : InOrder key R arrived out pending next) (hx : key x = next) :
    Settling key R (arrived ++ [x]) (out ++ [x]) pending (next + 1) where
  out_keys := by simp [h.out_keys, hx, List.range_succ]
  sorted := h.sorted
  sound := by
    intro y hy
    simp only [List.mem_append, List.mem_singleton] at hy ⊢
    rcases hy with (hy | rfl) | hy
    · exact .inl (h.sound y (.inl hy))
    · exact .inr rfl
    · exact .inl (h.sound y (.inr hy))
  complete := by
    intro y hy
    rcases List.mem_append.mp hy with hy | hy
    · rcases h.complete y hy with hlt | hp
      · exact .inl (by omega)
      · exact .inr hp
    · rw [List.mem_singleton.mp hy]; exact .inl (by omega)

/-- An item that is early waits, at its place in the order. -/
theorem defer {pending' : List α} (h : InOrder key R arrived out pending next)
    (hx : next < key x) (hp : pending'.Perm (x :: pending))
    (hs : pending'.Pairwise fun a b => R (key a) (key b)) :
    InOrder key R (arrived ++ [x]) out pending' next where
  out_keys := h.out_keys
  sorted := hs
  sound := by
    intro y hy
    rw [hp.mem_iff, List.mem_cons] at hy
    rw [List.mem_append, List.mem_singleton]
    rcases hy with hy | rfl | hy
    · exact .inl (h.sound y (.inl hy))
    · exact .inr rfl
    · exact .inl (h.sound y (.inr hy))
  complete := by
    intro y hy
    rcases List.mem_append.mp hy with hy | hy
    · rcases h.complete y hy with hlt | ⟨z, hz, he⟩
      · exact .inl hlt
      · exact .inr ⟨z, hp.mem_iff.mpr (List.mem_cons_of_mem _ hz), he⟩
    · rw [List.mem_singleton.mp hy]
      exact .inr ⟨x, hp.mem_iff.mpr List.mem_cons_self, rfl⟩
  gap := by
    intro y hy
    rcases List.mem_cons.mp (hp.mem_iff.mp hy) with rfl | hy
    · exact hx
    · exact h.gap y hy

/-- An item whose number has been released already may be thrown away. -/
theorem ignore (h : InOrder key R arrived out pending next) (hx : key x < next) :
    InOrder key R (arrived ++ [x]) out pending next where
  out_keys := h.out_keys
  sorted := h.sorted
  sound := fun y hy => List.mem_append_left _ (h.sound y hy)
  complete := by
    intro y hy
    rcases List.mem_append.mp hy with hy | hy
    · exact h.complete y hy
    · rw [List.mem_singleton.mp hy]; exact .inl hx
  gap := h.gap

end InOrder

namespace Settling

theorem out_length (h : Settling key R arrived out pending next) : out.length = next := by
  have := congrArg List.length h.out_keys
  simpa using this

/-- The `n`-th released item is the one numbered `n`. -/
theorem key_getElem (h : Settling key R arrived out pending next) {n : ℕ} (hn : n < out.length) :
    key out[n] = n := by
  have he : (out.map key)[n]? = (List.range next)[n]? := by rw [h.out_keys]
  have hlt : n < next := h.out_length ▸ hn
  simpa [hn, hlt] using he

/-- No more items are released than have arrived. -/
theorem next_le (h : Settling key R arrived out pending next) : next ≤ arrived.length := by
  have hnd : out.Nodup := List.Nodup.of_map key (by rw [h.out_keys]; exact List.nodup_range)
  have := (hnd.subperm fun y hy => h.sound y (.inl hy)).length_le
  rwa [h.out_length] at this

/-- Nothing from a missing number on is released. -/
theorem next_le_of_missing {n : ℕ} (h : Settling key R arrived out pending next)
    (hn : ∀ x ∈ arrived, key x ≠ n) : next ≤ n := by
  by_contra hlt
  have hmem : n ∈ out.map key := by
    rw [h.out_keys]; exact List.mem_range.mpr (by omega)
  obtain ⟨x, hx, he⟩ := List.mem_map.mp hmem
  exact hn x (h.sound x (.inl hx)) he

/-- The first waiting item is due: it moves to the released ones. -/
theorem move (h : Settling key R arrived out (y :: pending) next) (hy : key y = next) :
    Settling key R arrived (out ++ [y]) pending (next + 1) where
  out_keys := by simp [h.out_keys, hy, List.range_succ]
  sorted := h.sorted.of_cons
  sound := by
    intro z hz
    rw [List.mem_append, List.mem_singleton] at hz
    rcases hz with (hz | rfl) | hz
    · exact h.sound z (.inl hz)
    · exact h.sound z (.inr List.mem_cons_self)
    · exact h.sound z (.inr (List.mem_cons_of_mem _ hz))
  complete := by
    intro z hz
    rcases h.complete z hz with hlt | ⟨w, hw, he⟩
    · exact .inl (by omega)
    · rcases List.mem_cons.mp hw with rfl | hw
      · exact .inl (by omega)
      · exact .inr ⟨w, hw, he⟩

/-- The first waiting item was released before under the same number: it is dropped. -/
theorem drop (h : Settling key R arrived out (y :: pending) next) (hy : key y < next) :
    Settling key R arrived out pending next where
  out_keys := h.out_keys
  sorted := h.sorted.of_cons
  sound := by
    intro z hz
    exact h.sound z (hz.imp_right (List.mem_cons_of_mem _))
  complete := by
    intro z hz
    rcases h.complete z hz with hlt | ⟨w, hw, he⟩
    · exact .inl hlt
    · rcases List.mem_cons.mp hw with rfl | hw
      · exact .inl (by omega)
      · exact .inr ⟨w, hw, he⟩

/-- Nothing waits, or the first waiting item is early: everything is in order. -/
theorem settle (hR : ∀ a b, R a b → a ≤ b) (h : Settling key R arrived out pending next)
    (hd : ∀ y ∈ pending.head?, next < key y) : InOrder key R arrived out pending next := by
  refine { h with gap := ?_ }
  cases pending with
  | nil => simp
  | cons y ys =>
    have hy : next < key y := hd y rfl
    intro z hz
    rcases List.mem_cons.mp hz with rfl | hz
    · exact hy
    · have := hR _ _ (List.rel_of_pairwise_cons h.sorted hz)
      omega

end Settling

end Resequence
