import Mathlib.Data.List.Forall2
import Mathlib.Data.List.GetD
import VirtualConnection.Linux.NMPolicyHistoryBased

/-!
# Linux.TrafficMerge

The merge of the predicted traffic of the foreground and of the background app. The length comes from
the background app when there is one: a longer foreground sequence is cut off, and a shorter one is
read past its end.
-/

namespace VirtualConnection
namespace Linux
namespace NMPolicyHistoryBased

open Text (ok_bind exists_ok_of_bind)

/-- How long a sequence is, and its elements with 0 for the missing ones. -/
def trafficLength (traffic : Option (List Int32)) : ℕ := (traffic.getD []).length

def trafficOrZero (traffic : Option (List Int32)) (i : ℕ) : ℤ := ((traffic.getD []).getD i 0).toInt

/-- The merged sequence is there, as long as the longer one, and the sum of both at every place. -/
def MergesCompletely (fgTraffic bgTraffic : Option (List Int32)) : Prop :=
  ∃ merged, mergeTraffic fgTraffic bgTraffic = .ok merged ∧
    merged.length = max (trafficLength fgTraffic) (trafficLength bgTraffic) ∧
    ∀ i, ∀ hi : i < merged.length,
      merged[i].toInt = trafficOrZero fgTraffic i + trafficOrZero bgTraffic i

/-- Two sequences are equally long, their lengths are `int`s, and so are their sums. -/
structure Mergeable (fgTraffic bgTraffic : Option (List Int32)) : Prop where
  sameLength : ∀ fg bg, fgTraffic = some fg → bgTraffic = some bg → fg.length = bg.length
  fgLength : trafficLength fgTraffic < 2 ^ 31
  bgLength : trafficLength bgTraffic < 2 ^ 31
  sums : ∀ i, -2 ^ 31 ≤ trafficOrZero fgTraffic i + trafficOrZero bgTraffic i ∧
    trafficOrZero fgTraffic i + trafficOrZero bgTraffic i < 2 ^ 31

/-! ## The loop -/

section Loop

variable {α β ε : Type}

/-- A traversal succeeds when it does at every element. -/
theorem mapM_eq_ok_iff {f : α → Except ε β} {xs : List α} {ys : List β} :
    xs.mapM f = .ok ys ↔ List.Forall₂ (fun x y => f x = .ok y) xs ys := by
  induction xs generalizing ys with
  | nil =>
    rw [List.mapM_nil, List.forall₂_nil_left_iff]
    exact ⟨fun h => (Except.ok.inj h).symm, fun h => congrArg Except.ok h.symm⟩
  | cons x xs ih =>
    rw [List.mapM_cons, List.forall₂_cons_left_iff]
    constructor
    · intro h
      obtain ⟨y, hx, h⟩ := exists_ok_of_bind h
      obtain ⟨zs, hxs, h⟩ := exists_ok_of_bind h
      exact ⟨y, zs, hx, ih.mp hxs, (Except.ok.inj h).symm⟩
    · rintro ⟨y, zs, hx, hxs, rfl⟩
      rw [hx, ok_bind, ih.mpr hxs, ok_bind]
      rfl

/-- A loop over indices collects what its body returns for each of them. -/
theorem mapM_range_eq_ok_iff {f : ℕ → Except ε β} {n : ℕ} {ys : List β} :
    (List.range n).mapM f = .ok ys ↔
      ys.length = n ∧ ∀ i, ∀ hi : i < ys.length, f i = .ok ys[i] := by
  rw [mapM_eq_ok_iff, List.forall₂_iff_get]
  constructor
  · rintro ⟨hlength, hget⟩
    refine ⟨by simpa using hlength.symm, fun i hi => ?_⟩
    simpa using hget i (hlength ▸ hi) hi
  · rintro ⟨hlength, hget⟩
    refine ⟨by simpa using hlength.symm, fun i _ hi => ?_⟩
    simpa using hget i hi

end Loop

variable {fgTraffic bgTraffic : Option (List Int32)}

theorem trafficAt_eq_ok_iff {traffic : Option (List Int32)} {i : ℕ} {x : Int32} :
    trafficAt traffic i = .ok x ↔
      (traffic = none ∧ x = 0) ∨ ∃ xs, traffic = some xs ∧ xs[i]? = some x := by
  unfold trafficAt
  cases traffic with
  | none => simp [eq_comm]
  | some xs => cases hx : xs[i]? <;> simp [hx]

/-- A sequence that is read at a place is there, or too short for nothing. -/
theorem trafficAt_spec {traffic : Option (List Int32)} {i : ℕ} {x : Int32}
    (h : trafficAt traffic i = .ok x) :
    x.toInt = trafficOrZero traffic i ∧ (traffic ≠ none → i < trafficLength traffic) := by
  rcases trafficAt_eq_ok_iff.mp h with ⟨rfl, rfl⟩ | ⟨xs, rfl, hx⟩
  · exact ⟨rfl, fun h => absurd rfl h⟩
  · obtain ⟨hi, rfl⟩ := List.getElem?_eq_some_iff.mp hx
    refine ⟨?_, fun _ => hi⟩
    rw [trafficOrZero, Option.getD_some, List.getD_eq_getElem _ _ hi]

theorem exists_trafficAt {traffic : Option (List Int32)} {i : ℕ}
    (h : traffic = none ∨ i < trafficLength traffic) :
    ∃ x, trafficAt traffic i = .ok x ∧ x.toInt = trafficOrZero traffic i := by
  cases traffic with
  | none => exact ⟨0, rfl, rfl⟩
  | some xs =>
    have hi : i < xs.length := h.resolve_left nofun
    refine ⟨xs[i], by simp [trafficAt, hi], ?_⟩
    rw [trafficOrZero, Option.getD_some, List.getD_eq_getElem _ _ hi]

/-- What the loop runs to is no more than the length of the sequence it is taken from. -/
theorem toNat_ofNat_le (n : ℕ) : (Int32.ofNat n).toInt.toNat ≤ n := by
  have hbmod : (Int32.ofNat n).toInt = (n : ℤ).bmod (2 ^ 32) := Int32.toInt_ofNat'
  rw [hbmod, Int.bmod_def]
  split <;> omega

theorem toNat_ofNat_eq_iff (n : ℕ) : (Int32.ofNat n).toInt.toNat = n ↔ n < 2 ^ 31 := by
  constructor
  · intro h
    have := (Int32.ofNat n).toInt_lt
    omega
  · intro h
    rw [Int32.toInt_ofNat_of_lt h]
    exact Int.toNat_natCast n

/-- The merged sequence of some run of the loop. -/
theorem mergeTraffic_eq_ok_iff {merged : List Int32} :
    mergeTraffic fgTraffic bgTraffic = .ok merged ↔
      merged.length = (predictedTrafficLength fgTraffic bgTraffic).toInt.toNat ∧
        ∀ i, ∀ hi : i < merged.length, ∃ fg bg, trafficAt fgTraffic i = .ok fg ∧
          trafficAt bgTraffic i = .ok bg ∧ merged[i] = fg + bg := by
  unfold mergeTraffic
  rw [mapM_range_eq_ok_iff]
  refine and_congr_right fun _ => forall_congr' fun i => forall_congr' fun hi => ?_
  cases hfg : trafficAt fgTraffic i with
  | error f => simp [bind, Except.bind]
  | ok fg =>
    cases hbg : trafficAt bgTraffic i with
    | error f => simp [bind, Except.bind]
    | ok bg => simp [bind, Except.bind, pure, Except.pure, eq_comm]

/-- The sequence that the length of the loop is taken from. -/
def lengthSource (fgTraffic bgTraffic : Option (List Int32)) : ℕ :=
  if bgTraffic = none then trafficLength fgTraffic else trafficLength bgTraffic

theorem predictedTrafficLength_toNat : (predictedTrafficLength fgTraffic bgTraffic).toInt.toNat =
    (Int32.ofNat (lengthSource fgTraffic bgTraffic)).toInt.toNat := by
  cases fgTraffic <;> cases bgTraffic <;> rfl

theorem lengthSource_le :
    lengthSource fgTraffic bgTraffic ≤ max (trafficLength fgTraffic) (trafficLength bgTraffic) := by
  unfold lengthSource
  split
  · exact le_max_left ..
  · exact le_max_right ..

theorem trafficOrZero_of_le {traffic : Option (List Int32)} {i : ℕ}
    (h : trafficLength traffic ≤ i) : trafficOrZero traffic i = 0 := by
  rw [trafficOrZero, List.getD_eq_default _ _ h]
  rfl

namespace Mergeable

theorem max_eq (h : Mergeable fgTraffic bgTraffic) :
    max (trafficLength fgTraffic) (trafficLength bgTraffic) = lengthSource fgTraffic bgTraffic := by
  cases bgTraffic with
  | none => exact max_eq_left (Nat.zero_le _)
  | some bg =>
    refine max_eq_right ?_
    cases fgTraffic with
    | none => exact Nat.zero_le _
    | some fg => exact (h.sameLength fg bg rfl rfl).le

/-- Below the length of the loop either sequence can be read. -/
theorem readable (h : Mergeable fgTraffic bgTraffic) {i : ℕ}
    (hi : i < lengthSource fgTraffic bgTraffic) :
    (fgTraffic = none ∨ i < trafficLength fgTraffic) ∧
      (bgTraffic = none ∨ i < trafficLength bgTraffic) := by
  cases fgTraffic with
  | none =>
    cases bgTraffic with
    | none => exact ⟨.inl rfl, .inl rfl⟩
    | some bg => exact ⟨.inl rfl, .inr hi⟩
  | some fg =>
    cases bgTraffic with
    | none => exact ⟨.inr hi, .inl rfl⟩
    | some bg => exact ⟨.inr (hi.trans_eq (h.sameLength fg bg rfl rfl).symm), .inr hi⟩

theorem mergesCompletely (h : Mergeable fgTraffic bgTraffic) :
    MergesCompletely fgTraffic bgTraffic := by
  have hloop : (predictedTrafficLength fgTraffic bgTraffic).toInt.toNat =
      lengthSource fgTraffic bgTraffic := by
    rw [predictedTrafficLength_toNat, toNat_ofNat_eq_iff, ← h.max_eq]
    exact max_lt h.fgLength h.bgLength
  have hplace : ∀ i, ∃ x : Int32, i < lengthSource fgTraffic bgTraffic →
      (∃ fg bg, trafficAt fgTraffic i = .ok fg ∧ trafficAt bgTraffic i = .ok bg ∧ x = fg + bg) ∧
        x.toInt = trafficOrZero fgTraffic i + trafficOrZero bgTraffic i := by
    intro i
    by_cases hi : i < lengthSource fgTraffic bgTraffic
    · obtain ⟨hfg, hbg⟩ := h.readable hi
      obtain ⟨fg, hfg, hfg'⟩ := exists_trafficAt hfg
      obtain ⟨bg, hbg, hbg'⟩ := exists_trafficAt hbg
      have hsum := h.sums i
      refine ⟨fg + bg, fun _ => ⟨⟨fg, bg, hfg, hbg, rfl⟩, ?_⟩⟩
      rw [Int32.toInt_add, hfg', hbg']
      exact Int.bmod_eq_of_le (by omega) (by omega)
    · exact ⟨0, fun h => absurd h hi⟩
  choose merged hmerged using hplace
  refine ⟨(List.range (lengthSource fgTraffic bgTraffic)).map merged,
    mergeTraffic_eq_ok_iff.mpr ⟨by simpa using hloop.symm, fun i hi => ?_⟩, ?_, fun i hi => ?_⟩
  · simpa using (hmerged i (by simpa using hi)).1
  · rw [List.length_map, List.length_range, h.max_eq]
  · simpa using (hmerged i (by simpa using hi)).2

end Mergeable

/-- The merge is complete exactly for sequences of one length, whose sums are `int`s. -/
theorem mergesCompletely_iff :
    MergesCompletely fgTraffic bgTraffic ↔ Mergeable fgTraffic bgTraffic := by
  refine ⟨?_, Mergeable.mergesCompletely⟩
  rintro ⟨merged, hmerge, hlength, hsum⟩
  obtain ⟨hloop, hread⟩ := mergeTraffic_eq_ok_iff.mp hmerge
  have hle := @lengthSource_le fgTraffic bgTraffic
  have hwrap := toNat_ofNat_le (lengthSource fgTraffic bgTraffic)
  rw [predictedTrafficLength_toNat] at hloop
  -- The loop runs to the length of its source at most, which is that of the longer sequence at most.
  have hsource : (Int32.ofNat (lengthSource fgTraffic bgTraffic)).toInt.toNat =
      lengthSource fgTraffic bgTraffic := by omega
  have hsmall := (toNat_ofNat_eq_iff _).mp hsource
  refine ⟨fun fg bg hfg hbg => ?_, by omega, by omega, fun i => ?_⟩
  · subst hfg hbg
    have hbgLength : lengthSource (some fg) (some bg) = bg.length := rfl
    have hmax : max fg.length bg.length = merged.length := hlength.symm
    rcases Nat.lt_or_ge fg.length bg.length with hlt | hge
    · obtain ⟨x, _, hx, -⟩ := hread fg.length (by omega)
      exact absurd ((trafficAt_spec hx).2 (Option.some_ne_none _)) (lt_irrefl fg.length)
    · omega
  · rcases Nat.lt_or_ge i merged.length with hi | hi
    · rw [← hsum i hi]
      exact ⟨merged[i].le_toInt, merged[i].toInt_lt⟩
    · rw [trafficOrZero_of_le (by omega), trafficOrZero_of_le (by omega)]
      decide

/-- A second more of background traffic than of foreground traffic. -/
theorem not_mergesCompletely_longer : ¬ MergesCompletely (some [1000]) (some [500, 500]) := by
  rintro ⟨merged, hmerge, -⟩
  have hfault : mergeTraffic (some [1000]) (some [500, 500]) = .error .outOfBounds := by decide
  rw [hfault] at hmerge
  cases hmerge

end NMPolicyHistoryBased
end Linux
end VirtualConnection
