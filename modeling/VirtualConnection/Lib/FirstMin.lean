import Mathlib.Data.List.MinMax

/-!
# First minimum

`List.argmin` names the first of the elements at which a function is least.
`argmin_eq_argmin_iff` says when a coarser function names the same element.
-/

namespace FirstMin

variable {α β γ : Type*} [LinearOrder β] [LinearOrder γ] {f : α → β} {g : α → γ} {l : List α} {m : α}

/-- What comes before the first minimum is greater, and what comes after it is not less. -/
theorem argmin_eq_some_iff : l.argmin f = some m ↔
    ∃ before after, l = before ++ m :: after ∧ (∀ a ∈ before, f m < f a) ∧ ∀ a ∈ after, f m ≤ f a := by
  constructor
  · intro h
    induction l generalizing m with
    | nil => cases h
    | cons a l ih =>
      rw [List.argmin_cons] at h
      cases hl : l.argmin f with
      | none =>
        rw [hl] at h
        obtain rfl : a = m := Option.some.inj h
        exact ⟨[], l, rfl, by simp, by simp [List.argmin_eq_none.mp hl]⟩
      | some c =>
        rw [hl] at h
        dsimp only at h
        split at h
        · next hlt =>
          obtain rfl : c = m := Option.some.inj h
          obtain ⟨before, after, rfl, hbefore, hafter⟩ := ih hl
          exact ⟨a :: before, after, rfl, List.forall_mem_cons.mpr ⟨hlt, hbefore⟩, hafter⟩
        · next hge =>
          obtain rfl : a = m := Option.some.inj h
          exact ⟨[], l, rfl, by simp,
            fun b hb => le_trans (not_lt.mp hge) (List.le_of_mem_argmin hb hl)⟩
  · rintro ⟨before, after, rfl, hbefore, hafter⟩
    induction before with
    | nil =>
      rw [List.nil_append, List.argmin_cons]
      cases hl : after.argmin f with
      | none => rfl
      | some c => exact if_neg (not_lt.mpr (hafter c (List.argmin_mem hl)))
    | cons a before ih =>
      obtain ⟨ha, hbefore⟩ := List.forall_mem_cons.mp hbefore
      rw [List.cons_append, List.argmin_cons, ih hbefore]
      exact if_pos ha

/-- A function that is coarser names the same element exactly when it tells the first minimum from
everything before it. -/
theorem argmin_eq_argmin_iff (hg : ∀ a b, f a ≤ f b → g a ≤ g b) : l.argmin g = l.argmin f ↔
    ∀ before after m, l = before ++ m :: after → (∀ a ∈ before, f m < f a) →
      (∀ a ∈ after, f m ≤ f a) → ∀ a ∈ before, g m < g a := by
  constructor
  · intro h before after m hl hbefore hafter a ha
    have hf : l.argmin f = some m := argmin_eq_some_iff.mpr ⟨before, after, hl, hbefore, hafter⟩
    obtain ⟨before', after', hl', hbefore', -⟩ := argmin_eq_some_iff.mp (h.trans hf)
    -- both splits are at the first occurrence of `m`
    rcases List.append_eq_append_iff.mp (hl.symm.trans hl') with ⟨c, rfl, -⟩ | ⟨c, rfl, hc⟩
    · exact hbefore' a (List.mem_append_left c ha)
    · cases c with
      | nil => exact hbefore' a (by simpa using ha)
      | cons b c =>
        obtain rfl : m = b := (List.cons.inj hc).1
        exact absurd (hbefore m (by simp)) (lt_irrefl _)
  · intro h
    cases hf : l.argmin f with
    | none =>
      rw [List.argmin_eq_none.mp hf]
      rfl
    | some m =>
      obtain ⟨before, after, hl, hbefore, hafter⟩ := argmin_eq_some_iff.mp hf
      exact argmin_eq_some_iff.mpr ⟨before, after, hl, h before after m hl hbefore hafter,
        fun a ha => hg m a (hafter a ha)⟩

end FirstMin
