import Mathlib.Data.List.Nodup

/-!
# Keyed

A map as the list of its items, each of which knows its key, in the order of insertion.

* `find`: the item under a key.
* `insert`: an item is added unless there is one under its key.
* `modify`: the item under a key is changed where it is.
* `upsert`: the item under a key is changed, after it has been added if there is none.

`find_insert`, `find_modify` and `find_upsert` say what is found afterwards, and the keys stay distinct.
-/

namespace Keyed

variable {κ β : Type*} [DecidableEq κ]

def find (key : β → κ) (k : κ) (l : List β) : Option β := l.find? fun e => key e = k

def insert (key : β → κ) (e : β) (l : List β) : List β :=
  if (find key (key e) l).isSome then l else l ++ [e]

def modify (key : β → κ) (k : κ) (f : β → β) : List β → List β
  | [] => []
  | e :: l => if key e = k then f e :: l else e :: modify key k f l

/-- `e` is what is added if nothing is found. -/
def upsert (key : β → κ) (e : β) (f : β → β) (l : List β) : List β :=
  modify key (key e) f (match find key (key e) l with
    | none => insert key e l
    | some _ => l)

variable {key : β → κ} {k k' : κ} {e : β} {l : List β} {f : β → β}

theorem find_eq_none : find key k l = none ↔ k ∉ l.map key := by
  simp [find]

theorem find_insert :
    find key k (insert key e l) = (find key k l).or (if key e = k then some e else none) := by
  unfold insert
  split
  · next hfound =>
    obtain ⟨e', he'⟩ := Option.isSome_iff_exists.mp hfound
    by_cases hk : key e = k
    · subst hk
      simp [he']
    · simp [hk]
  · simp [find, List.find?_append]

theorem find_modify (hf : ∀ e, key (f e) = key e) :
    find key k (modify key k' f l) = if k = k' then (find key k l).map f else find key k l := by
  induction l with
  | nil => simp [modify, find]
  | cons e l ih =>
    simp only [find] at ih
    by_cases hk' : key e = k'
    · rw [modify, if_pos hk']
      by_cases hk : key e = k
      · have hkk : k = k' := hk.symm.trans hk'
        simp [find, hf, hk, hkk]
      · have hkk : ¬ k = k' := fun h => hk (hk'.trans h.symm)
        simp [find, hf, hk, hkk]
    · rw [modify, if_neg hk']
      by_cases hk : key e = k
      · have hkk : ¬ k = k' := fun h => hk' (hk.trans h)
        simp [find, hk, hkk]
      · simp only [find, List.find?_cons, hk, decide_false]
        exact ih

theorem nodup_insert (h : (l.map key).Nodup) : ((insert key e l).map key).Nodup := by
  unfold insert
  split
  · exact h
  · next hfound =>
    have hnew : key e ∉ l.map key :=
      find_eq_none.mp (Option.not_isSome_iff_eq_none.mp hfound)
    rw [List.map_append, List.map_singleton, List.nodup_append_comm]
    exact List.nodup_cons.mpr ⟨hnew, h⟩

theorem map_modify (hf : ∀ e, key (f e) = key e) : (modify key k f l).map key = l.map key := by
  induction l with
  | nil => rfl
  | cons e l ih =>
    rw [modify]
    split
    · rw [List.map_cons, List.map_cons, hf]
    · rw [List.map_cons, List.map_cons, ih]

theorem forall_insert {P : β → Prop} (h : ∀ e ∈ l, P e) (he : P e) : ∀ e' ∈ insert key e l, P e' := by
  unfold insert
  split
  · exact h
  · intro e' he'
    rcases List.mem_append.mp he' with he' | he'
    · exact h e' he'
    · rwa [List.mem_singleton.mp he']

theorem forall_modify {P : β → Prop} (h : ∀ e ∈ l, P e) (hf : ∀ e, P e → P (f e)) :
    ∀ e ∈ modify key k f l, P e := by
  induction l with
  | nil => exact h
  | cons e l ih =>
    obtain ⟨he, hl⟩ := List.forall_mem_cons.mp h
    rw [modify]
    split
    · exact List.forall_mem_cons.mpr ⟨hf e he, hl⟩
    · exact List.forall_mem_cons.mpr ⟨he, ih hl⟩

theorem find_upsert (hf : ∀ e, key (f e) = key e) :
    find key k (upsert key e f l) =
      if k = key e then some (f ((find key k l).getD e)) else find key k l := by
  rw [upsert, find_modify hf]
  by_cases hk : k = key e
  · subst hk
    cases h : find key (key e) l with
    | none => simp [find_insert, h]
    | some e' => simp [h]
  · cases h : find key (key e) l with
    | none => simp [find_insert, hk, Ne.symm hk]
    | some e' => simp [hk]

theorem nodup_upsert (hf : ∀ e, key (f e) = key e) (h : (l.map key).Nodup) :
    ((upsert key e f l).map key).Nodup := by
  rw [upsert, map_modify hf]
  split
  · exact nodup_insert h
  · exact h

theorem forall_upsert {P : β → Prop} (h : ∀ e ∈ l, P e) (he : P e) (hf : ∀ e, P e → P (f e)) :
    ∀ e' ∈ upsert key e f l, P e' := by
  refine forall_modify ?_ hf
  split
  · exact forall_insert h he
  · exact h

end Keyed
