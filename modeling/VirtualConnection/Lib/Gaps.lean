import Mathlib.Algebra.Order.Ring.Int
import Mathlib.Data.List.Basic

/-!
# Gaps

What is missing in a list of numbers. `gaps` reads the list once, with the number that is due next in
hand: a larger number leaves a range open, and a smaller one is passed over. The ranges are always
disjoint; they are the numbers that do not occur, up to the largest, exactly when the list is `Ranked`:
no number comes only behind a larger one.

A list is kept `Ranked` by a few operations, one rule for each: append a larger number, insert one that
is there already, drop those in front of the number that is due.
-/

namespace Gaps

/-- The ranges, both ends included. -/
def gaps : ℤ → List ℤ → List (ℤ × ℤ)
  | _, [] => []
  | next, n :: rest =>
    if next < n then (next, n - 1) :: gaps (n + 1) rest
    else if n = next then gaps (n + 1) rest
    else gaps next rest

/-- The first number that is no smaller than `k`. -/
def firstFrom (k : ℤ) (ns : List ℤ) : Option ℤ := ns.find? fun n => k ≤ n

/-- Each number from `next` on comes before all larger ones, once at least. -/
def Ranked (next : ℤ) (ns : List ℤ) : Prop := ∀ k ∈ ns, next ≤ k → firstFrom k ns = some k

variable {next k m w : ℤ} {ns l r : List ℤ}

/-! ## The first number from `k` on -/

theorem firstFrom_cons (k n : ℤ) (rest : List ℤ) :
    firstFrom k (n :: rest) = if k ≤ n then some n else firstFrom k rest := by
  by_cases h : k ≤ n <;> simp [firstFrom, h]

theorem firstFrom_append (k : ℤ) (l r : List ℤ) :
    firstFrom k (l ++ r) = (firstFrom k l).or (firstFrom k r) := List.find?_append

theorem firstFrom_eq_none : firstFrom k ns = none ↔ ∀ n ∈ ns, n < k := by
  simp [firstFrom]

theorem mem_of_firstFrom (h : firstFrom k ns = some m) : m ∈ ns ∧ k ≤ m :=
  ⟨List.mem_of_find?_eq_some h, by simpa using List.find?_some h⟩

/-! ## The ranges -/

/-- `k` is in a range when the first number from there on is a larger one. -/
theorem mem_gaps_iff (ns : List ℤ) : ∀ next, (∃ g ∈ gaps next ns, g.1 ≤ k ∧ k ≤ g.2) ↔
    next ≤ k ∧ ∃ n, firstFrom k ns = some n ∧ n ≠ k := by
  induction ns with
  | nil =>
    intro next
    simp [gaps, firstFrom]
  | cons n rest ih =>
    intro next
    rw [firstFrom_cons]
    unfold gaps
    by_cases hgap : next < n
    · rw [if_pos hgap, List.exists_mem_cons_iff, ih]
      by_cases hk : k ≤ n
      · rw [if_pos hk]
        constructor
        · rintro (⟨hlow, hhigh⟩ | ⟨hlow, -⟩)
          · exact ⟨hlow, n, rfl, by omega⟩
          · omega
        · rintro ⟨hlow, x, hx, hne⟩
          obtain rfl := Option.some.inj hx
          exact .inl ⟨hlow, by omega⟩
      · rw [if_neg hk]
        constructor
        · rintro (⟨-, hhigh⟩ | ⟨-, hx⟩)
          · omega
          · exact ⟨by omega, hx⟩
        · rintro ⟨-, hx⟩
          exact .inr ⟨by omega, hx⟩
    · rw [if_neg hgap]
      by_cases hdue : n = next
      · rw [if_pos hdue, ih]
        by_cases hk : k ≤ n
        · rw [if_pos hk]
          constructor
          · rintro ⟨hlow, -⟩
            omega
          · rintro ⟨hlow, x, hx, hne⟩
            obtain rfl := Option.some.inj hx
            omega
        · rw [if_neg hk]
          exact and_congr_left fun _ => by omega
      · rw [if_neg hdue, ih]
        refine and_congr_right fun hlow => ?_
        rw [if_neg (by omega)]

theorem next_le_of_mem_gaps (ns : List ℤ) : ∀ next, ∀ g ∈ gaps next ns, next ≤ g.1 ∧ g.1 ≤ g.2 := by
  induction ns with
  | nil => simp [gaps]
  | cons n rest ih =>
    intro next g hg
    unfold gaps at hg
    split at hg
    · rcases List.mem_cons.mp hg with rfl | hg
      · exact ⟨le_rfl, by dsimp only; omega⟩
      · obtain ⟨hlow, hne⟩ := ih _ g hg
        exact ⟨by omega, hne⟩
    · split at hg
      · obtain ⟨hlow, hne⟩ := ih _ g hg
        exact ⟨by omega, hne⟩
      · exact ih _ g hg

/-- Every range lies above the ones before it. -/
theorem gaps_pairwise (ns : List ℤ) : ∀ next, (gaps next ns).Pairwise fun g g' => g.2 < g'.1 := by
  induction ns with
  | nil => simp [gaps]
  | cons n rest ih =>
    intro next
    unfold gaps
    split
    · refine List.pairwise_cons.mpr ⟨fun g hg => ?_, ih _⟩
      have := (next_le_of_mem_gaps rest _ g hg).1
      dsimp only
      omega
    · split
      · exact ih _
      · exact ih _

/-- The ranges are what is missing up to the largest number, exactly for a ranked list. -/
theorem gaps_exact_iff : (∀ k, (∃ g ∈ gaps next ns, g.1 ≤ k ∧ k ≤ g.2) ↔
    next ≤ k ∧ (∃ n ∈ ns, k ≤ n) ∧ k ∉ ns) ↔ Ranked next ns := by
  constructor
  · intro h k hk hnext
    cases hfirst : firstFrom k ns with
    | none => exact absurd (firstFrom_eq_none.mp hfirst k hk) (lt_irrefl k)
    | some n =>
      by_cases hne : n = k
      · rw [hne]
      · have hgap := (h k).mp ((mem_gaps_iff ns next).mpr ⟨hnext, n, hfirst, hne⟩)
        exact absurd hk hgap.2.2
  · intro h k
    rw [mem_gaps_iff]
    refine and_congr_right fun hnext => ?_
    constructor
    · rintro ⟨n, hfirst, hne⟩
      obtain ⟨hn, hle⟩ := mem_of_firstFrom hfirst
      refine ⟨⟨n, hn, hle⟩, fun hk => hne ?_⟩
      exact Option.some.inj (hfirst.symm.trans (h k hk hnext))
    · rintro ⟨⟨n, hn, hle⟩, hk⟩
      cases hfirst : firstFrom k ns with
      | none => exact absurd (firstFrom_eq_none.mp hfirst n hn) (not_lt.mpr hle)
      | some x => exact ⟨x, rfl, fun he => hk (he ▸ (mem_of_firstFrom hfirst).1)⟩

/-! ## Ranked lists -/

theorem ranked_nil : Ranked next [] := by simp [Ranked]

theorem Ranked.append (h : Ranked next ns) (hm : ∀ n ∈ ns, n < m) : Ranked next (ns ++ [m]) := by
  intro k hk hnext
  rw [firstFrom_append]
  rcases List.mem_append.mp hk with hk | hk
  · rw [h k hk hnext, Option.some_or]
  · obtain rfl := List.mem_singleton.mp hk
    rw [firstFrom_eq_none.mpr hm]
    simp [firstFrom]

/-- A number that is there already may come again behind itself. -/
theorem Ranked.again (h : Ranked next (l ++ r)) (hm : m ∈ l) : Ranked next (l ++ m :: r) := by
  have hsame : ∀ k, firstFrom k (l ++ m :: r) = firstFrom k (l ++ r) := by
    intro k
    rw [firstFrom_append, firstFrom_append, firstFrom_cons]
    cases hfirst : firstFrom k l with
    | some x => rfl
    | none => rw [if_neg (not_le.mpr (firstFrom_eq_none.mp hfirst m hm))]
  intro k hk hnext
  rw [hsame]
  refine h k ?_ hnext
  simp only [List.mem_append, List.mem_cons] at hk ⊢
  rcases hk with hk | rfl | hk
  · exact .inl hk
  · exact .inl hm
  · exact .inr hk

theorem Ranked.drop {next' : ℤ} (h : Ranked next (l ++ r)) (hle : next ≤ next')
    (hl : ∀ n ∈ l, n < next') : Ranked next' r := by
  intro k hk hnext
  have hfirst := h k (List.mem_append_right l hk) (hle.trans hnext)
  rwa [firstFrom_append, firstFrom_eq_none.mpr fun n hn => (hl n hn).trans_le hnext,
    Option.none_or] at hfirst

/-- A number occurs before each larger one. -/
theorem Ranked.mem_of_lt (h : Ranked next (l ++ w :: r)) (hm : m ∈ l ++ w :: r) (hw : m < w)
    (hnext : next ≤ m) : m ∈ l := by
  have hfirst := h m hm hnext
  rw [firstFrom_append, firstFrom_cons, if_pos hw.le] at hfirst
  cases hfl : firstFrom m l with
  | none =>
    rw [hfl, Option.none_or] at hfirst
    exact absurd (Option.some.inj hfirst) hw.ne'
  | some x =>
    rw [hfl, Option.some_or] at hfirst
    exact Option.some.inj hfirst ▸ (mem_of_firstFrom hfl).1

end Gaps
