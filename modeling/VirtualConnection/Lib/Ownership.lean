import Mathlib.Data.Multiset.AddSub
import Mathlib.Data.Multiset.Count

/-!
# Ownership

Who may touch which item of a pool. Items are handed from place to place; `Exclusive` says that no
item is at two of them, with one exception:

* `own`: the places where an item is alone (free lists, hands, queues).
* `shared`: the register that may lend out copies of an item it keeps.
* `copies`: where lent copies go, and where an item is on its way to the register.

`live` lists the items that exist. There is a rule for every way in which an item moves. Giving an
item back from the register (`reclaim`) needs that no copy of it is out.

`Accounted` says in addition that every item is at one of the places, where nothing is lent: an item
that is dropped is `lost`.

`Discipline` is what both have in common for code that makes and destroys items: it is followed once
for the two of them.
-/

namespace Ownership

variable {α : Type*} [DecidableEq α]

/-- No item is at two places, except that the register's items may have copies out. -/
structure Exclusive (live : List α) (own shared copies : Multiset α) : Prop where
  once : ∀ p, own.count p + shared.count p ≤ 1
  apart : ∀ p, p ∉ shared → own.count p + copies.count p ≤ 1
  alive : ∀ p, p ∈ own ∨ p ∈ shared ∨ p ∈ copies → p ∈ live

variable {live : List α} {own shared copies : Multiset α} {p : α}

namespace Exclusive

theorem empty : Exclusive ([] : List α) 0 0 0 :=
  ⟨by simp, by simp, by simp⟩

theorem congr {own' shared' copies' : Multiset α} (h : Exclusive live own shared copies)
    (ho : own = own') (hs : shared = shared') (hc : copies = copies') :
    Exclusive live own' shared' copies' := by
  subst ho hs hc
  exact h

/-- An owned item is there once and nowhere else. -/
theorem alone (h : Exclusive live own shared copies) (hp : p ∈ own) :
    own.count p = 1 ∧ p ∉ shared ∧ p ∉ copies := by
  have honce := h.once p
  have hown := Multiset.one_le_count_iff_mem.mpr hp
  have hs : p ∉ shared := Multiset.count_eq_zero.mp (by omega)
  have hapart := h.apart p hs
  exact ⟨by omega, hs, Multiset.count_eq_zero.mp (by omega)⟩

theorem not_mem_of_cons (h : Exclusive live (p ::ₘ own) shared copies) :
    p ∉ own ∧ p ∉ shared ∧ p ∉ copies := by
  obtain ⟨hone, hs, hc⟩ := h.alone (Multiset.mem_cons_self p own)
  rw [Multiset.count_cons_self] at hone
  exact ⟨Multiset.count_eq_zero.mp (by omega), hs, hc⟩

theorem acquire (h : Exclusive live own shared copies) (hp : p ∉ live) :
    Exclusive (p :: live) (p ::ₘ own) shared copies where
  once := by
    intro q
    have hq := h.once q
    rw [Multiset.count_cons]
    split
    · next he =>
      subst he
      have hown := Multiset.count_eq_zero.mpr fun hm => hp (h.alive q (.inl hm))
      have hs := Multiset.count_eq_zero.mpr fun hm => hp (h.alive q (.inr (.inl hm)))
      omega
    · exact hq
  apart := by
    intro q hqs
    have hq := h.apart q hqs
    rw [Multiset.count_cons]
    split
    · next he =>
      subst he
      have hown := Multiset.count_eq_zero.mpr fun hm => hp (h.alive q (.inl hm))
      have hc := Multiset.count_eq_zero.mpr fun hm => hp (h.alive q (.inr (.inr hm)))
      omega
    · exact hq
  alive := by
    intro q hq
    rw [Multiset.mem_cons] at hq
    rw [List.mem_cons]
    rcases hq with (rfl | hq) | hq
    · exact .inl rfl
    · exact .inr (h.alive q (.inl hq))
    · exact .inr (h.alive q (.inr hq))

/-- An owned item sets out for the register. -/
theorem pass (h : Exclusive live (p ::ₘ own) shared copies) :
    Exclusive live own shared (p ::ₘ copies) where
  once := fun q => by
    have hq := h.once q
    have hle := Multiset.count_le_count_cons q p own
    omega
  apart := fun q hqs => by
    have hq := h.apart q hqs
    rw [Multiset.count_cons] at hq ⊢
    omega
  alive := by
    intro q hq
    rw [Multiset.mem_cons] at hq
    rcases hq with hq | hq | rfl | hq
    · exact h.alive q (.inl (Multiset.mem_cons_of_mem hq))
    · exact h.alive q (.inr (.inl hq))
    · exact h.alive q (.inl (Multiset.mem_cons_self q own))
    · exact h.alive q (.inr (.inr hq))

/-- The register lends out a copy. -/
theorem lend (h : Exclusive live own shared copies) (hp : p ∈ shared) :
    Exclusive live own shared (p ::ₘ copies) where
  once := h.once
  apart := by
    intro q hqs
    have hne : q ≠ p := fun he => hqs (he ▸ hp)
    rw [Multiset.count_cons_of_ne hne]
    exact h.apart q hqs
  alive := by
    intro q hq
    rw [Multiset.mem_cons] at hq
    rcases hq with hq | hq | rfl | hq
    · exact h.alive q (.inl hq)
    · exact h.alive q (.inr (.inl hq))
    · exact h.alive q (.inr (.inl hp))
    · exact h.alive q (.inr (.inr hq))

/-- An item arrives at the register. -/
theorem file (h : Exclusive live own shared (p ::ₘ copies)) (hp : p ∉ shared) :
    Exclusive live own (p ::ₘ shared) copies where
  once := by
    intro q
    have hq := h.once q
    rw [Multiset.count_cons]
    split
    · next he =>
      subst he
      have hs := Multiset.count_eq_zero.mpr hp
      have hapart := h.apart q hp
      rw [Multiset.count_cons_self] at hapart
      omega
    · exact hq
  apart := by
    intro q hqs
    have hq := h.apart q fun hm => hqs (Multiset.mem_cons_of_mem hm)
    have hle := Multiset.count_le_count_cons q p copies
    omega
  alive := by
    intro q hq
    rw [Multiset.mem_cons] at hq
    rcases hq with hq | (rfl | hq) | hq
    · exact h.alive q (.inl hq)
    · exact h.alive q (.inr (.inr (Multiset.mem_cons_self q copies)))
    · exact h.alive q (.inr (.inl hq))
    · exact h.alive q (.inr (.inr (Multiset.mem_cons_of_mem hq)))

theorem forget (h : Exclusive live own shared (p ::ₘ copies)) :
    Exclusive live own shared copies where
  once := h.once
  apart := fun q hqs => by
    have hq := h.apart q hqs
    have hle := Multiset.count_le_count_cons q p copies
    omega
  alive := fun q hq => h.alive q (hq.imp_right fun hq => hq.imp_right Multiset.mem_cons_of_mem)

/-- The register gives back an item of which no copy is out. -/
theorem reclaim (h : Exclusive live own (p ::ₘ shared) copies) (hp : p ∉ copies) :
    Exclusive live (p ::ₘ own) shared copies where
  once := fun q => by
    have hq := h.once q
    rw [Multiset.count_cons] at hq ⊢
    omega
  apart := by
    intro q hqs
    rw [Multiset.count_cons]
    split
    · next he =>
      subst he
      have hone := h.once q
      have hc := Multiset.count_eq_zero.mpr hp
      rw [Multiset.count_cons_self] at hone
      omega
    · next hne =>
      exact h.apart q fun hm => (Multiset.mem_cons.mp hm).elim hne hqs
  alive := by
    intro q hq
    rw [Multiset.mem_cons] at hq
    rcases hq with (rfl | hq) | hq | hq
    · exact h.alive q (.inr (.inl (Multiset.mem_cons_self q shared)))
    · exact h.alive q (.inl hq)
    · exact h.alive q (.inr (.inl (Multiset.mem_cons_of_mem hq)))
    · exact h.alive q (.inr (.inr hq))

/-- An owned item is lost track of. -/
theorem lose (h : Exclusive live (p ::ₘ own) shared copies) :
    Exclusive live own shared copies where
  once := fun q => by
    have hq := h.once q
    have hle := Multiset.count_le_count_cons q p own
    omega
  apart := fun q hqs => by
    have hq := h.apart q hqs
    have hle := Multiset.count_le_count_cons q p own
    omega
  alive := fun q hq => h.alive q (hq.imp_left Multiset.mem_cons_of_mem)

/-- An owned item ceases to exist. -/
theorem release (h : Exclusive live (p ::ₘ own) shared copies) :
    Exclusive (live.erase p) own shared copies where
  once := h.lose.once
  apart := h.lose.apart
  alive := by
    intro q hq
    obtain ⟨ho, hs, hc⟩ := h.not_mem_of_cons
    have hne : q ≠ p := by
      rintro rfl
      rcases hq with hq | hq | hq
      · exact ho hq
      · exact hs hq
      · exact hc hq
    exact (List.mem_erase_of_ne hne).mpr (h.lose.alive q hq)

end Exclusive

/-! ## Nothing is lost -/

/-- The items that exist are those at the places, each once. -/
structure Accounted {β : Type*} (live : List β) (places : Multiset β) : Prop where
  nodup : live.Nodup
  whole : (live : Multiset β) = places

namespace Accounted

variable {β : Type*} {live : List β} {places : Multiset β} {p : β}

theorem empty : Accounted ([] : List β) 0 := ⟨List.nodup_nil, rfl⟩

theorem congr {places' : Multiset β} (h : Accounted live places) (hp : places = places') :
    Accounted live places' := hp ▸ h

theorem mem_iff (h : Accounted live places) : p ∈ live ↔ p ∈ places := by
  rw [← h.whole, Multiset.mem_coe]

theorem acquire (h : Accounted live places) (hp : p ∉ live) :
    Accounted (p :: live) (p ::ₘ places) :=
  ⟨List.nodup_cons.mpr ⟨hp, h.nodup⟩, by rw [← Multiset.cons_coe, h.whole]⟩

theorem release [DecidableEq β] (h : Accounted live (p ::ₘ places)) : Accounted (live.erase p) places :=
  ⟨h.nodup.erase p, by rw [← Multiset.coe_erase, h.whole, Multiset.erase_cons_head]⟩

/-- An item that leaves its place for nowhere still exists. -/
theorem lost (h : Accounted live (p ::ₘ places)) : p ∈ live ∧ p ∉ places := by
  refine ⟨h.mem_iff.mpr (Multiset.mem_cons_self p places), ?_⟩
  have hnodup := Multiset.coe_nodup.mpr h.nodup
  rw [h.whole] at hnodup
  exact (Multiset.nodup_cons.mp hnodup).1

end Accounted

/-! ## Making and destroying -/

/-- A property of the items that exist and of the places of one's own, as far as making an item and
destroying one keep it. -/
structure Discipline (P : List α → Multiset α → Prop) : Prop where
  acquire : ∀ {live own p}, P live own → p ∉ live → P (p :: live) (p ::ₘ own)
  release : ∀ {live own p}, P live (p ::ₘ own) → P (live.erase p) own

theorem Exclusive.discipline (shared copies : Multiset α) :
    Discipline fun live own => Exclusive live own shared copies where
  acquire := Exclusive.acquire
  release := Exclusive.release

theorem Accounted.discipline : Discipline (@Accounted α) where
  acquire := Accounted.acquire
  release := Accounted.release

/-- The places hold items that exist, none more often than it exists. -/
theorem Discipline.within : Discipline fun (live : List α) own => own ≤ (live : Multiset α) where
  acquire := by
    intro live own p h _
    rw [← Multiset.cons_coe]
    exact Multiset.cons_le_cons p h
  release := by
    intro live own p h
    rw [← Multiset.coe_erase]
    have herase := Multiset.erase_le_erase p h
    rwa [Multiset.erase_cons_head] at herase

end Ownership
