import Mathlib.Algebra.Order.Ring.Int
import Mathlib.Data.List.Basic

/-!
# Runs

Guarded executable step functions and what holds along their runs. `step s l` is `.ok s'` when
label `l` is enabled in `s` and leads to `s'`, and `.error e` when it is not (or when it faults).

* `run`: replay a list of labels.
* `Reached`: the states met along a replay, the first and the last included.
* `AllSteps`: a condition on (state, label) met at every step that is taken.

`throughout_of_allSteps` is the guarded form of the usual induction, for a property that only
survives steps meeting a condition, and `throughout_iff_allSteps` the exact form: when every step
that misses the condition leads to a state without the property, the condition is what separates
the good runs from the bad ones. `throughout_iff_allSteps_of` is the same among runs that meet
another condition.
-/

namespace Runs

variable {σ ℓ ε : Type*}

/-- Replay `ls` from `s`; the first error stops it. -/
def run (step : σ → ℓ → Except ε σ) : σ → List ℓ → Except ε σ
  | s, [] => .ok s
  | s, l :: ls =>
    match step s l with
    | .ok s' => run step s' ls
    | .error e => .error e

/-- `t` is met while replaying `ls` from `s`. -/
inductive Reached (step : σ → ℓ → Except ε σ) : σ → List ℓ → σ → Prop where
  | here {s : σ} {ls : List ℓ} : Reached step s ls s
  | next {s s' t : σ} {l : ℓ} {ls : List ℓ} :
      step s l = .ok s' → Reached step s' ls t → Reached step s (l :: ls) t

/-- Every step taken while replaying `ls` from `s` meets `C`. -/
def AllSteps (step : σ → ℓ → Except ε σ) (C : σ → ℓ → Prop) : σ → List ℓ → Prop
  | _, [] => True
  | s, l :: ls => ∀ s', step s l = .ok s' → C s l ∧ AllSteps step C s' ls

variable {step : σ → ℓ → Except ε σ}

@[simp] theorem run_nil (s : σ) : run step s [] = .ok s := rfl

theorem run_cons_ok {s s' : σ} {l : ℓ} (ls : List ℓ) (h : step s l = .ok s') :
    run step s (l :: ls) = run step s' ls := by
  simp [run, h]

theorem run_cons_eq_ok {s t : σ} {l : ℓ} {ls : List ℓ} :
    run step s (l :: ls) = .ok t ↔ ∃ s', step s l = .ok s' ∧ run step s' ls = .ok t := by
  cases h : step s l with
  | ok s' => simp [run, h]
  | error e => simp [run, h]

/-- A view of the last state of a replay, for replays that can be computed. -/
theorem exists_run_of_view {τ : Type*} (view : σ → τ) {v : τ} {s : σ} {ls : List ℓ}
    (h : (run step s ls).toOption.map view = some v) : ∃ t, run step s ls = .ok t ∧ view t = v := by
  cases hr : run step s ls with
  | error e => rw [hr] at h; cases h
  | ok t => rw [hr] at h; exact ⟨t, rfl, Option.some.inj h⟩

theorem view_of_run {τ : Type*} (view : σ → τ) {v : τ} {s t : σ} {ls : List ℓ}
    (hr : run step s ls = .ok t) (h : (run step s ls).toOption.map view = some v) : view t = v := by
  rw [hr] at h
  exact Option.some.inj h

theorem run_append {s t : σ} {ls ms : List ℓ} :
    run step s (ls ++ ms) = .ok t ↔ ∃ s', run step s ls = .ok s' ∧ run step s' ms = .ok t := by
  induction ls generalizing s with
  | nil => simp
  | cons l ls ih =>
    simp only [List.cons_append, run_cons_eq_ok, ih]
    constructor
    · rintro ⟨s₁, h₁, s₂, h₂, h₃⟩; exact ⟨s₂, ⟨s₁, h₁, h₂⟩, h₃⟩
    · rintro ⟨s₂, ⟨s₁, h₁, h₂⟩, h₃⟩; exact ⟨s₁, h₁, s₂, h₂, h₃⟩

theorem run_snoc {s t : σ} {ls : List ℓ} {l : ℓ} :
    run step s (ls ++ [l]) = .ok t ↔ ∃ s', run step s ls = .ok s' ∧ step s' l = .ok t := by
  simp only [run_append, run_cons_eq_ok]
  simp

theorem Reached.of_run {s t : σ} {ls : List ℓ} (h : run step s ls = .ok t) :
    Reached step s ls t := by
  induction ls generalizing s with
  | nil => cases h; exact .here
  | cons l ls ih =>
    obtain ⟨s', hs, hr⟩ := run_cons_eq_ok.mp h
    exact .next hs (ih hr)

theorem AllSteps.mono {C D : σ → ℓ → Prop} (hCD : ∀ s l, C s l → D s l) {s : σ} {ls : List ℓ}
    (h : AllSteps step C s ls) : AllSteps step D s ls := by
  induction ls generalizing s with
  | nil => trivial
  | cons l ls ih => exact fun s' hs => ⟨hCD s l (h s' hs).1, ih (h s' hs).2⟩

theorem AllSteps.and {C D : σ → ℓ → Prop} {s : σ} {ls : List ℓ} (hC : AllSteps step C s ls)
    (hD : AllSteps step D s ls) : AllSteps step (fun s l => C s l ∧ D s l) s ls := by
  induction ls generalizing s with
  | nil => trivial
  | cons l ls ih =>
    exact fun s' hs => ⟨⟨(hC s' hs).1, (hD s' hs).1⟩, ih (hC s' hs).2 (hD s' hs).2⟩

theorem AllSteps.of_labels {C : σ → ℓ → Prop} {ls : List ℓ} (h : ∀ l ∈ ls, ∀ s, C s l) (s : σ) :
    AllSteps step C s ls := by
  induction ls generalizing s with
  | nil => trivial
  | cons l ls ih =>
    exact fun s' _ => ⟨h l (by simp) s, ih (fun m hm => h m (by simp [hm])) s'⟩

theorem AllSteps.snoc {C : σ → ℓ → Prop} {ls : List ℓ} {l : ℓ} {s : σ} (h : AllSteps step C s ls)
    (hl : ∀ t, run step s ls = .ok t → C t l) : AllSteps step C s (ls ++ [l]) := by
  induction ls generalizing s with
  | nil => exact fun s' _ => ⟨hl s rfl, trivial⟩
  | cons m ls ih =>
    exact fun s' hs => ⟨(h s' hs).1, ih (h s' hs).2 fun t ht => hl t (by rwa [run_cons_ok ls hs])⟩

/-- Whether the steps of a replay meet a condition can be computed. -/
instance AllSteps.decidable {C : σ → ℓ → Prop} [∀ s l, Decidable (C s l)] :
    ∀ (s : σ) (ls : List ℓ), Decidable (AllSteps step C s ls)
  | _, [] => .isTrue trivial
  | s, l :: ls =>
    match h : step s l with
    | .error _ => .isTrue fun _ hs => nomatch h.symm.trans hs
    | .ok s' =>
      have : Decidable (AllSteps step C s' ls) := AllSteps.decidable s' ls
      decidable_of_iff (C s l ∧ AllSteps step C s' ls)
        ⟨fun hc _ ht => Except.ok.inj (h.symm.trans ht) ▸ hc, fun hall => hall s' h⟩

section Invariants

variable {Inv P : σ → Prop} {C : σ → ℓ → Prop}

/-- The guarded induction: the invariant only has to survive the steps that meet `C`. -/
theorem throughout_of_allSteps
    (hstep : ∀ s l s', Inv s → C s l → step s l = .ok s' → Inv s') {s t : σ} {ls : List ℓ}
    (h0 : Inv s) (hC : AllSteps step C s ls) (h : Reached step s ls t) : Inv t := by
  induction h with
  | here => exact h0
  | next hs _ ih =>
    obtain ⟨hc, hrest⟩ := hC _ hs
    exact ih (hstep _ _ _ h0 hc hs) hrest

/-- The exact form, among the runs whose steps all meet `D`: when missing `C` from a state with the
invariant always costs `P`, the runs on which `P` holds throughout are the runs whose steps all meet
`C`. -/
theorem throughout_iff_allSteps_of {D : σ → ℓ → Prop} (hP : ∀ s, Inv s → P s)
    (hstep : ∀ s l s', Inv s → D s l → C s l → step s l = .ok s' → Inv s')
    (hbad : ∀ s l s', Inv s → D s l → ¬ C s l → step s l = .ok s' → ¬ P s') {s : σ} {ls : List ℓ}
    (h0 : Inv s) (hD : AllSteps step D s ls) :
    (∀ t, Reached step s ls t → P t) ↔ AllSteps step C s ls := by
  constructor
  · intro hall
    induction ls generalizing s with
    | nil => trivial
    | cons l ls ih =>
      intro s' hs
      obtain ⟨hd, hrest⟩ := hD s' hs
      have hc : C s l := by
        by_contra hn
        exact hbad s l s' h0 hd hn hs (hall s' (.next hs .here))
      exact ⟨hc, ih (hstep s l s' h0 hd hc hs) hrest fun t ht => hall t (.next hs ht)⟩
  · intro hC t ht
    exact hP t (throughout_of_allSteps (fun s l s' hi hcd => hstep s l s' hi hcd.1 hcd.2) h0
      (hD.and hC) ht)

theorem throughout_iff_allSteps (hP : ∀ s, Inv s → P s)
    (hstep : ∀ s l s', Inv s → C s l → step s l = .ok s' → Inv s')
    (hbad : ∀ s l s', Inv s → ¬ C s l → step s l = .ok s' → ¬ P s') {s : σ} {ls : List ℓ}
    (h0 : Inv s) : (∀ t, Reached step s ls t → P t) ↔ AllSteps step C s ls :=
  throughout_iff_allSteps_of hP (fun s l s' hi _ => hstep s l s' hi)
    (fun s l s' hi _ => hbad s l s' hi) h0
    (AllSteps.of_labels (C := fun _ _ => True) (fun _ _ _ => trivial) s)

end Invariants

end Runs
