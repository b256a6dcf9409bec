import VirtualConnection.Android.Receiving
import VirtualConnection.Lib.Gaps

/-!
# Android.RetransmitRequests

Retransmission requests against what has arrived. `__checkAndRequestRetransmitMissingSegment` reads the
pending queue from front to back, and `enqueue` puts an early segment behind the first larger one: a new
number that is not the largest stays unnoticed, and its gap is requested though it has arrived.

`namesGaps_iff`: the requests name exactly the gaps, in every state of a run, when each early segment
comes `InRank`.
-/

namespace VirtualConnection
namespace Android

open Gaps Linux

namespace Queue

variable {α : Type} {seqNo : α → Int32} {segment : α} {pending : List α} {q : Queue α}

/-- An early segment comes to the end, or behind the first larger one. -/
theorem insertPending_cases (seqNo : α → Int32) (segment : α) (pending : List α) :
    ((∀ w ∈ pending, seqNo w ≤ seqNo segment) ∧
        insertPending seqNo segment pending = pending ++ [segment]) ∨
      ∃ l w r, pending = l ++ w :: r ∧ (∀ x ∈ l, seqNo x ≤ seqNo segment) ∧
        seqNo segment < seqNo w ∧ insertPending seqNo segment pending = l ++ w :: segment :: r := by
  induction pending with
  | nil => exact .inl ⟨by simp, rfl⟩
  | cons walker rest ih =>
    by_cases hgt : seqNo walker > seqNo segment
    · exact .inr ⟨[], walker, rest, rfl, by simp, hgt, by simp [insertPending, hgt]⟩
    · have hle : seqNo walker ≤ seqNo segment := Int32.not_lt.mp hgt
      rcases ih with ⟨hall, hins⟩ | ⟨l, w, r, rfl, hl, hw, hins⟩
      · refine .inl ⟨fun w hw => ?_, by simp [insertPending, hgt, hins]⟩
        rcases List.mem_cons.mp hw with rfl | hw
        · exact hle
        · exact hall w hw
      · refine .inr ⟨walker :: l, w, r, rfl, fun x hx => ?_, hw, by simp [insertPending, hgt, hins]⟩
        rcases List.mem_cons.mp hx with rfl | hx
        · exact hle
        · exact hl x hx

/-- The last loop stops at a first element that is early. -/
theorem drainPending_of_head {b : Bool}
    (h : ∀ x ∈ pending.head?, q.mExpectedSeqNo < seqNo x) :
    (drainPending seqNo b q pending).2 = { q with mPendingQueue := pending } := by
  cases pending with
  | nil => rfl
  | cons walker rest =>
    have hw := h walker rfl
    simp [drainPending, hw, Int32.lt_asymm hw]

end Queue

/-! ## The numbers of the pending segments -/

/-- The numbers, as integers. -/
def ints (ns : List Int32) : List ℤ := ns.map Int32.toInt

variable {ns ms : List Int32} {n m e : Int32}

theorem mem_ints : n.toInt ∈ ints ns ↔ n ∈ ns :=
  List.mem_map_of_injective fun _ _ h => Int32.toInt_inj.mp h

theorem ints_append (ns ms : List Int32) : ints (ns ++ ms) = ints ns ++ ints ms := List.map_append

theorem forall_mem_ints {k : ℤ} : (∀ x ∈ ints ns, x < k) ↔ ∀ n ∈ ns, n.toInt < k := by
  simp [ints]

/-- `seqNo + 1` is one more, except for the last number of all. -/
theorem toInt_succ (h : n ≠ Int32.maxValue) : (n + 1).toInt = n.toInt + 1 := by
  have hle := n.le_toInt
  have hlt := n.toInt_lt
  have hne : n.toInt ≠ 2 ^ 31 - 1 := fun he => h (Int32.toInt_inj.mp he)
  rw [Int32.toInt_add, Int32.toInt_one, Int.bmod_eq_of_le (by omega) (by omega)]

theorem toInt_pred (h : m < n) : (n - 1).toInt = n.toInt - 1 := by
  have hlow := m.le_toInt
  have hhigh := n.toInt_lt
  have hlt := Int32.lt_iff_toInt_lt.mp h
  rw [Int32.toInt_sub, Int32.toInt_one, Int.bmod_eq_of_le (by omega) (by omega)]

/-- Nothing comes behind the last number of all, where the scan would start again from the lowest
one. -/
def MaxLast (ns : List Int32) : Prop := Int32.maxValue ∉ ns.dropLast

theorem missingSegments_eq_gaps (pending : List Segment) : ∀ next : Int32,
    MaxLast (pending.map Segment.getSeqNo) →
      (missingSegments next pending).map (fun g => (g.1.toInt, g.2.toInt)) =
        gaps next.toInt (ints (pending.map Segment.getSeqNo)) := by
  induction pending with
  | nil =>
    intro next _
    rfl
  | cons segment rest ih =>
    intro next hlast
    have hsucc : MaxLast (rest.map Segment.getSeqNo) ∧
        (missingSegments (segment.getSeqNo + 1) rest).map (fun g => (g.1.toInt, g.2.toInt)) =
          gaps (segment.getSeqNo.toInt + 1) (ints (rest.map Segment.getSeqNo)) := by
      cases rest with
      | nil => exact ⟨by simp [MaxLast], rfl⟩
      | cons x rest =>
        rw [MaxLast, List.map_cons, List.map_cons, List.dropLast_cons_cons, List.mem_cons,
          not_or] at hlast
        refine ⟨hlast.2, ?_⟩
        rw [ih _ hlast.2, toInt_succ fun he => hlast.1 he.symm]
    simp only [missingSegments, List.map_cons, ints, gaps]
    by_cases hgap : segment.getSeqNo > next
    · rw [if_pos hgap, if_pos (Int32.lt_iff_toInt_lt.mp hgap), List.map_cons, hsucc.2,
        toInt_pred hgap]
      rfl
    · rw [if_neg hgap, if_neg fun h => hgap (Int32.lt_iff_toInt_lt.mpr h)]
      by_cases hdue : segment.getSeqNo = next
      · rw [if_pos hdue, if_pos (congrArg Int32.toInt hdue), hsucc.2]
        rfl
      · rw [if_neg hdue, if_neg fun h => hdue (Int32.toInt_inj.mp h), ih _ hsucc.1]
        rfl

theorem le_maxValue (n : Int32) : n ≤ Int32.maxValue := by
  have := n.toInt_lt
  exact Int32.le_iff_toInt_le.mpr (by rw [Int32.toInt_maxValue]; omega)

/-- A scan that goes on from the lowest number asks for it. -/
theorem missing_from_min {x : Segment} (rest : List Segment) (hx : 0 ≤ x.getSeqNo) :
    ∃ g ∈ missingSegments Int32.minValue (x :: rest), g.1 = Int32.minValue ∧ g.1 ≤ g.2 := by
  have hlt : Int32.minValue < x.getSeqNo := Int32.lt_of_lt_of_le (by decide) hx
  rw [missingSegments, if_pos hlt]
  have hle : Int32.minValue ≤ x.getSeqNo - 1 := by
    have hlt' := Int32.lt_iff_toInt_lt.mp hlt
    exact Int32.le_iff_toInt_le.mpr (by rw [toInt_pred hlt]; omega)
  exact ⟨_, List.mem_cons_self, rfl, hle⟩

/-- Behind the last number of all the scan asks for the lowest one. -/
theorem exists_missing_min (pending : List Segment) (hnonneg : ∀ x ∈ pending, 0 ≤ x.getSeqNo) :
    ∀ next : Int32, ¬ MaxLast (pending.map Segment.getSeqNo) →
      ∃ g ∈ missingSegments next pending, g.1 = Int32.minValue ∧ g.1 ≤ g.2 := by
  induction pending with
  | nil => simp [MaxLast]
  | cons segment rest ih =>
    intro next hlast
    have ih' := ih fun x hx => hnonneg x (List.mem_cons_of_mem _ hx)
    cases rest with
    | nil => simp [MaxLast] at hlast
    | cons x rest =>
      rw [MaxLast, List.map_cons, List.map_cons, List.dropLast_cons_cons, not_not,
        List.mem_cons] at hlast
      have hbehind : ∃ g ∈ missingSegments (segment.getSeqNo + 1) (x :: rest),
          g.1 = Int32.minValue ∧ g.1 ≤ g.2 := by
        rcases hlast with hmax | hlast
        · have hwrap : segment.getSeqNo + 1 = Int32.minValue := by
            rw [← hmax]
            rfl
          rw [hwrap]
          exact missing_from_min rest (hnonneg x (by simp))
        · exact ih' _ (not_not.mpr hlast)
      rw [missingSegments]
      split
      · obtain ⟨g, hg, hmin⟩ := hbehind
        exact ⟨g, List.mem_cons_of_mem _ hg, hmin⟩
      · next hgap =>
        split
        · exact hbehind
        · next hdue =>
          rcases hlast with hmax | hlast
          · have hnext : next ≤ segment.getSeqNo := hmax ▸ le_maxValue next
            exact absurd (Int32.le_antisymm (Int32.not_lt.mp hgap) hnext) hdue
          · exact ih' _ (not_not.mpr hlast)

/-! ## An early number comes in -/

/-- The new number is the largest, or has been there before; while the last number of all waits, it
does not come right behind that one. -/
def Ranks (ns : List Int32) (n : Int32) : Prop :=
  (∀ w ∈ ns, w < n) ∨
    n ∈ ns ∧ (Int32.maxValue ∈ ns → ∃ w ∈ ns, n < w ∧ w ≠ Int32.maxValue)

theorem mem_dropLast_append_singleton : Int32.maxValue ∈ (ns ++ [n]).dropLast ↔ Int32.maxValue ∈ ns := by
  rw [List.dropLast_concat]

/-- It comes to the end. -/
theorem ranks_iff_append (hranked : Ranked e.toInt (ints ns)) (hle : ∀ w ∈ ns, w ≤ n) :
    MaxLast (ns ++ [n]) ∧ Ranked e.toInt (ints (ns ++ [n])) ↔ Ranks ns n := by
  rw [MaxLast, mem_dropLast_append_singleton]
  constructor
  · rintro ⟨hmax, -⟩
    by_cases hn : n ∈ ns
    · exact .inr ⟨hn, fun h => absurd h hmax⟩
    · refine .inl fun w hw => Int32.lt_of_le_of_ne (hle w hw) fun he => hn (he ▸ hw)
  · rintro (hlt | ⟨hn, hmax⟩)
    · refine ⟨fun hmem => Int32.lt_irrefl (Int32.lt_of_lt_of_le (hlt _ hmem) (le_maxValue n)), ?_⟩
      rw [ints_append]
      refine hranked.append (forall_mem_ints.mpr fun w hw => ?_)
      exact Int32.lt_iff_toInt_lt.mp (hlt w hw)
    · refine ⟨fun hmem => ?_, ?_⟩
      · obtain ⟨w, hw, hlt, -⟩ := hmax hmem
        exact Int32.not_lt.mpr (hle w hw) hlt
      · rw [ints_append]
        have hnil : Ranked e.toInt (ints ns ++ []) := by rwa [List.append_nil]
        exact hnil.again (mem_ints.mpr hn)

/-- Behind a larger number there is room for another one, unless that is the last of all. -/
theorem maxLast_behind_iff {l r : List Int32} {w : Int32} (hlast : MaxLast (l ++ w :: r))
    (hw : n < w) : MaxLast (l ++ w :: n :: r) ↔ w ≠ Int32.maxValue := by
  have hn : Int32.maxValue ≠ n := fun he => Int32.not_lt.mpr (le_maxValue w) (he ▸ hw)
  rw [MaxLast, List.dropLast_append_of_ne_nil (by simp)] at hlast ⊢
  cases r with
  | nil => simpa [eq_comm] using fun _ => hlast
  | cons y r =>
    simp only [List.dropLast_cons_cons, List.mem_append, List.mem_cons, not_or] at hlast ⊢
    exact iff_of_true ⟨hlast.1, hlast.2.1, hn, hlast.2.2⟩ fun he => hlast.2.1 he.symm

/-- It comes behind the first larger one. -/
theorem ranks_iff_behind {l r : List Int32} {w : Int32} (hlast : MaxLast (l ++ w :: r))
    (hranked : Ranked e.toInt (ints (l ++ w :: r))) (he : e < n) (hl : ∀ x ∈ l, x ≤ n) (hw : n < w) :
    MaxLast (l ++ w :: n :: r) ∧ Ranked e.toInt (ints (l ++ w :: n :: r)) ↔
      Ranks (l ++ w :: r) n := by
  have hnw := Int32.lt_iff_toInt_lt.mp hw
  have hen := (Int32.lt_iff_toInt_lt.mp he).le
  have hints : ∀ r, ints (l ++ w :: r) = ints l ++ w.toInt :: ints r := fun r => by simp [ints]
  have hcons : ints (n :: r) = n.toInt :: ints r := rfl
  -- a number is taken for what it is when it stands before the larger one
  have hbefore : ∀ {r}, Ranked e.toInt (ints (l ++ w :: r)) → n ∈ l ++ w :: r → n ∈ l := by
    intro r hranked hn
    rw [hints] at hranked
    refine mem_ints.mp (hranked.mem_of_lt ?_ hnw hen)
    rw [← hints]
    exact mem_ints.mpr hn
  rw [maxLast_behind_iff hlast hw]
  constructor
  · rintro ⟨hmax, hranked'⟩
    have hn : n ∈ l := hbefore hranked' (by simp)
    exact .inr ⟨List.mem_append_left _ hn, fun _ => ⟨w, by simp, hw, hmax⟩⟩
  · rintro (hlt | ⟨hn, hmax⟩)
    · exact absurd (hlt w (by simp)) (Int32.lt_asymm hw)
    · refine ⟨?_, ?_⟩
      · rintro rfl
        obtain ⟨x, hx, hnx, hne⟩ := hmax (by simp)
        rcases List.mem_append.mp hx with hx | hx
        · exact Int32.not_lt.mpr (hl x hx) hnx
        · cases r with
          | nil => exact hne (List.mem_singleton.mp hx)
          | cons y r => exact hlast (by simp)
      · have hagain : Ranked e.toInt ((ints l ++ [w.toInt]) ++ ints r) := by
          simpa [hints] using hranked
        have hin : n.toInt ∈ ints l ++ [w.toInt] :=
          List.mem_append_left _ (mem_ints.mpr (hbefore hranked hn))
        simpa [hints, hcons] using hagain.again hin

/-! ## What has arrived -/

/-- Up to the number that is due all have arrived, and from there on those that wait. -/
structure Tracing (arrived : List Int32) (expected : Int32) (ns : List Int32) : Prop where
  nonneg : 0 ≤ expected
  below : ∀ n, 0 ≤ n → n < expected → n ∈ arrived
  pending : ∀ n ∈ ns, 0 ≤ n
  early : ∀ n, expected ≤ n → (n ∈ arrived ↔ n ∈ ns)
  ranked : Ranked expected.toInt (ints ns)
  last : MaxLast ns

/-- Some number has not arrived yet. -/
def Unfinished (arrived : List Int32) : Prop := ∃ n, 0 ≤ n ∧ n ∉ arrived

variable {arrived arrived' : List Int32} {pending : List Segment}

theorem lt_succ (h : e ≠ Int32.maxValue) : e < e + 1 := by
  refine Int32.lt_iff_toInt_lt.mpr ?_
  rw [toInt_succ h]
  omega

theorem le_of_lt_succ (h : e ≠ Int32.maxValue) (hn : n < e + 1) : n ≤ e := by
  have hlt := Int32.lt_iff_toInt_lt.mp hn
  rw [toInt_succ h] at hlt
  exact Int32.le_iff_toInt_le.mpr (by omega)

theorem lt_of_succ_le (h : e ≠ Int32.maxValue) (hn : e + 1 ≤ n) : e < n :=
  Int32.lt_of_lt_of_le (lt_succ h) hn

/-- The number that was due has arrived. -/
theorem Tracing.advance (h : Tracing arrived e ns) (hsub : arrived ⊆ arrived') (hdue : e ∈ arrived')
    (hearly : ∀ n, e < n → (n ∈ arrived' ↔ n ∈ ns)) (hmissing : Unfinished arrived') :
    e < e + 1 ∧ Tracing arrived' (e + 1) ns := by
  have hbelow : ∀ n, 0 ≤ n → n ≤ e → n ∈ arrived' := by
    intro n h0 hle
    by_cases he : n = e
    · exact he ▸ hdue
    · exact hsub (h.below n h0 (Int32.lt_of_le_of_ne hle he))
  have hmax : e ≠ Int32.maxValue := by
    rintro rfl
    obtain ⟨n, h0, hn⟩ := hmissing
    exact hn (hbelow n h0 (le_maxValue n))
  have hsucc := lt_succ hmax
  refine ⟨hsucc, Int32.le_of_lt (Int32.lt_of_le_of_lt h.nonneg hsucc), fun n h0 hn => ?_, h.pending,
    fun n hn => hearly n (lt_of_succ_le hmax hn), ?_, h.last⟩
  · exact hbelow n h0 (le_of_lt_succ hmax hn)
  · have hle := Int32.le_iff_toInt_le.mp (Int32.le_of_lt hsucc)
    have hnil : Ranked e.toInt ([] ++ ints ns) := h.ranked
    exact hnil.drop hle (by simp)

/-- A number below the due one leaves the queue. -/
theorem Tracing.tail (h : Tracing arrived e (n :: ns)) (hn : n < e) : Tracing arrived e ns where
  nonneg := h.nonneg
  below := h.below
  pending := fun m hm => h.pending m (List.mem_cons_of_mem _ hm)
  early := by
    intro m hm
    have hne : m ≠ n := fun he => Int32.not_lt.mpr hm (he ▸ hn)
    rw [h.early m hm, List.mem_cons, or_iff_right hne]
  ranked := by
    have hcons : Ranked e.toInt ([n.toInt] ++ ints ns) := h.ranked
    refine hcons.drop le_rfl fun m hm => ?_
    rw [List.mem_singleton.mp hm]
    exact Int32.lt_iff_toInt_lt.mp hn
  last := by
    have hlast := h.last
    cases ns with
    | nil => simp [MaxLast]
    | cons m ns =>
      rw [MaxLast, List.dropLast_cons_cons, List.mem_cons, not_or] at hlast
      exact hlast.2

/-- The last loop of `enqueue` moves on over what has arrived. -/
theorem drainPending_tracing (hmissing : Unfinished arrived) (pending : List Segment) :
    ∀ (q : Queue Segment) (b : Bool),
      Tracing arrived q.mExpectedSeqNo (pending.map Segment.getSeqNo) →
      ∃ q', (Queue.drainPending Segment.getSeqNo b q pending).2 = q' ∧
        Tracing arrived q'.mExpectedSeqNo (q'.mPendingQueue.map Segment.getSeqNo) ∧
        ∀ x ∈ q'.mPendingQueue.head?, q'.mExpectedSeqNo < x.getSeqNo := by
  induction pending with
  | nil => exact fun q b h => ⟨_, rfl, h, by simp [Queue.drainPending]⟩
  | cons walker rest ih =>
    intro q b h
    unfold Queue.drainPending
    split
    · next hlt => exact ih q b (h.tail hlt)
    · next hle =>
      split
      · next hlt => exact ⟨_, rfl, h, fun x hx => Option.some.inj hx ▸ hlt⟩
      · next hge =>
        have hdue : walker.getSeqNo = q.mExpectedSeqNo :=
          Int32.le_antisymm (Int32.not_lt.mp hge) (Int32.not_lt.mp hle)
        have hin : q.mExpectedSeqNo ∈ arrived :=
          (h.early _ Int32.le_rfl).mpr (by simp [hdue])
        obtain ⟨hsucc, hadvance⟩ := h.advance (fun _ => id) hin
          (fun n hn => h.early n (Int32.le_of_lt hn)) hmissing
        exact ih (q.offerLast walker) true (hadvance.tail (hdue ▸ hsucc))

/-! ## The gaps -/

/-- The requested ranges are disjoint, and together they are the numbers from the due one to the
largest pending one that have not arrived. -/
structure NamesGaps (arrived : List Int32) (expected : Int32) (pending : List Segment)
    (ranges : List (Int32 × Int32)) : Prop where
  disjoint : ranges.Pairwise fun g g' => ∀ k : ℤ, ¬ ((g.1.toInt ≤ k ∧ k ≤ g.2.toInt) ∧
    (g'.1.toInt ≤ k ∧ k ≤ g'.2.toInt))
  union : ∀ k : ℤ, (∃ g ∈ ranges, g.1.toInt ≤ k ∧ k ≤ g.2.toInt) ↔
    expected.toInt ≤ k ∧ (∃ x ∈ pending, k ≤ x.getSeqNo.toInt) ∧ ∀ n ∈ arrived, n.toInt ≠ k

/-- With all early arrivals in the pending queue, the scan names the gaps when their order is right. -/
theorem missingSegments_namesGaps_iff (h0 : 0 ≤ e) (hpending : ∀ x ∈ pending, 0 ≤ x.getSeqNo)
    (hearly : ∀ n, e ≤ n → (n ∈ arrived ↔ n ∈ pending.map Segment.getSeqNo)) :
    NamesGaps arrived e pending (missingSegments e pending) ↔
      MaxLast (pending.map Segment.getSeqNo) ∧
        Ranked e.toInt (ints (pending.map Segment.getSeqNo)) := by
  have hsame : ∀ k : ℤ, e.toInt ≤ k → ((∀ n ∈ arrived, n.toInt ≠ k) ↔
      k ∉ ints (pending.map Segment.getSeqNo)) := by
    intro k hk
    constructor
    · intro harrived hin
      obtain ⟨n, hn, rfl⟩ := List.mem_map.mp hin
      exact harrived n ((hearly n (Int32.le_iff_toInt_le.mpr hk)).mpr hn) rfl
    · rintro hnot n hn rfl
      exact hnot (mem_ints.mpr ((hearly n (Int32.le_iff_toInt_le.mpr hk)).mp hn))
  have hlargest : ∀ k : ℤ, (∃ x ∈ pending, k ≤ x.getSeqNo.toInt) ↔
      ∃ n ∈ ints (pending.map Segment.getSeqNo), k ≤ n := by
    simp [ints]
  have hranges : MaxLast (pending.map Segment.getSeqNo) → ∀ k : ℤ,
      ((∃ g ∈ gaps e.toInt (ints (pending.map Segment.getSeqNo)), g.1 ≤ k ∧ k ≤ g.2) ↔
        ∃ g ∈ missingSegments e pending, g.1.toInt ≤ k ∧ k ≤ g.2.toInt) := by
    intro hlast k
    rw [← missingSegments_eq_gaps pending e hlast]
    simp
  constructor
  · intro h
    have hlast : MaxLast (pending.map Segment.getSeqNo) := by
      by_contra hlast
      obtain ⟨g, hg, hmin, hle⟩ := exists_missing_min pending hpending e hlast
      have hlow := ((h.union g.1.toInt).mp ⟨g, hg, le_rfl, Int32.le_iff_toInt_le.mp hle⟩).1
      have hnonneg := Int32.le_iff_toInt_le.mp h0
      rw [hmin, Int32.toInt_minValue] at hlow
      rw [Int32.toInt_zero] at hnonneg
      omega
    refine ⟨hlast, gaps_exact_iff.mp fun k => ?_⟩
    rw [hranges hlast, h.union, ← hlargest]
    exact and_congr_right fun hk => and_congr_right fun _ => hsame k hk
  · rintro ⟨hlast, hranked⟩
    refine ⟨?_, fun k => ?_⟩
    · have hpairwise := gaps_pairwise (ints (pending.map Segment.getSeqNo)) e.toInt
      rw [← missingSegments_eq_gaps pending e hlast, List.pairwise_map] at hpairwise
      refine hpairwise.imp fun hlt k hk => ?_
      omega
    · rw [← hranges hlast, gaps_exact_iff.mpr hranked, ← hlargest]
      exact and_congr_right fun hk => and_congr_right fun _ => (hsame k hk).symm

/-! ## One arrival -/

namespace Queue

variable {q : Queue Segment} {segment : Segment}

/-- The queue between two calls: the number that is due is not in it. -/
structure Traced (arrived : List Int32) (q : Queue Segment) : Prop extends
    Tracing arrived q.mExpectedSeqNo (q.mPendingQueue.map Segment.getSeqNo) where
  head : ∀ x ∈ q.mPendingQueue.head?, q.mExpectedSeqNo < x.getSeqNo

/-- An early segment comes in its rank; the others always do. -/
def InRank (q : Queue Segment) (segment : Segment) : Prop :=
  q.mExpectedSeqNo < segment.getSeqNo →
    Ranks (q.mPendingQueue.map Segment.getSeqNo) segment.getSeqNo

theorem traced_empty : Traced [] (empty : Queue Segment) where
  nonneg := Int32.le_rfl
  below := fun n h0 hn => absurd hn (Int32.not_lt.mpr h0)
  pending := by simp [empty]
  early := by simp [empty]
  ranked := ranked_nil
  last := by simp [MaxLast, empty]
  head := by simp [empty]

theorem Traced.namesGaps (h : Traced arrived q) :
    NamesGaps arrived q.mExpectedSeqNo q.mPendingQueue
      (missingSegments q.mExpectedSeqNo q.mPendingQueue) := by
  refine (missingSegments_namesGaps_iff h.nonneg (fun x hx => ?_) h.early).mpr ⟨h.last, h.ranked⟩
  exact h.pending _ (List.mem_map_of_mem hx)

theorem Traced.drain {b : Bool} (hmissing : Unfinished arrived)
    (h : Tracing arrived q.mExpectedSeqNo (pending.map Segment.getSeqNo)) :
    Traced arrived (drainPending Segment.getSeqNo b q pending).2 := by
  obtain ⟨_, rfl, htracing, hhead⟩ := drainPending_tracing hmissing pending q b h
  exact ⟨htracing, hhead⟩

/-- The other parts of `Tracing` for an early arrival do not depend on its place. -/
theorem Traced.insert (h : Traced arrived q) (hearly : q.mExpectedSeqNo < segment.getSeqNo) :
    (∀ x ∈ insertPending Segment.getSeqNo segment q.mPendingQueue, 0 ≤ x.getSeqNo) ∧
      ∀ n, q.mExpectedSeqNo ≤ n → (n ∈ arrived ++ [segment.getSeqNo] ↔
        n ∈ (insertPending Segment.getSeqNo segment q.mPendingQueue).map Segment.getSeqNo) := by
  have hperm : (insertPending Segment.getSeqNo segment q.mPendingQueue).Perm
      (segment :: q.mPendingQueue) := insertPending_perm segment q.mPendingQueue
  refine ⟨fun x hx => ?_, fun n hn => ?_⟩
  · rcases List.mem_cons.mp (hperm.mem_iff.mp hx) with rfl | hx
    · exact Int32.le_of_lt (Int32.lt_of_le_of_lt h.nonneg hearly)
    · exact h.pending _ (List.mem_map_of_mem hx)
  · rw [(hperm.map Segment.getSeqNo).mem_iff, List.map_cons, List.mem_cons, List.mem_append,
      List.mem_singleton, h.early n hn, or_comm]

/-- Whether the order of the pending queue is right afterwards. -/
theorem Traced.ranks_iff (h : Traced arrived q) (hearly : q.mExpectedSeqNo < segment.getSeqNo) :
    MaxLast ((insertPending Segment.getSeqNo segment q.mPendingQueue).map Segment.getSeqNo) ∧
        Ranked q.mExpectedSeqNo.toInt
          (ints ((insertPending Segment.getSeqNo segment q.mPendingQueue).map Segment.getSeqNo)) ↔
      Ranks (q.mPendingQueue.map Segment.getSeqNo) segment.getSeqNo := by
  rcases insertPending_cases Segment.getSeqNo segment q.mPendingQueue with
    ⟨hle, hins⟩ | ⟨l, w, r, hpending, hle, hw, hins⟩
  · rw [hins, List.map_append]
    exact ranks_iff_append h.ranked (List.forall_mem_map.mpr hle)
  · have hlast := h.last
    have hranked := h.ranked
    rw [hpending, List.map_append, List.map_cons] at hlast hranked
    rw [hins, hpending, List.map_append, List.map_append]
    exact ranks_iff_behind hlast hranked hearly (List.forall_mem_map.mpr hle) hw

theorem Traced.enqueue (h : Traced arrived q)
    (hunfinished : Unfinished (arrived ++ [segment.getSeqNo])) (hrank : InRank q segment) :
    Traced (arrived ++ [segment.getSeqNo]) (q.enqueue Segment.getSeqNo segment).2 := by
  have hsub : arrived ⊆ arrived ++ [segment.getSeqNo] := List.subset_append_left _ _
  unfold Queue.enqueue
  split
  · next hdue =>
    have hearly : ∀ n, q.mExpectedSeqNo < n → (n ∈ arrived ++ [segment.getSeqNo] ↔
        n ∈ q.mPendingQueue.map Segment.getSeqNo) := by
      intro n hn
      have hne : n ≠ segment.getSeqNo := fun he => Int32.lt_irrefl ((he.trans hdue) ▸ hn)
      simp [hne, h.early n (Int32.le_of_lt hn)]
    exact Traced.drain hunfinished (h.advance hsub (by simp [hdue]) hearly hunfinished).2
  · next hne =>
    split
    · next hlate =>
      refine ⟨⟨h.nonneg, fun n h0 hn => hsub (h.below n h0 hn), h.pending, fun n hn => ?_, h.ranked,
        h.last⟩, h.head⟩
      have hne : n ≠ segment.getSeqNo := fun he => Int32.not_lt.mpr hn (he ▸ hlate)
      simp [hne, h.early n hn]
    · next hge =>
      have hearly : q.mExpectedSeqNo < segment.getSeqNo :=
        Int32.lt_of_le_of_ne (Int32.not_lt.mp hge) fun he => hne he.symm
      obtain ⟨hpending, hmem⟩ := h.insert hearly
      obtain ⟨hlast, hranked⟩ := (h.ranks_iff hearly).mpr (hrank hearly)
      exact Traced.drain hunfinished ⟨h.nonneg, fun n h0 hn => hsub (h.below n h0 hn),
        List.forall_mem_map.mpr hpending, hmem, hranked, hlast⟩

/-- An early segment that is out of rank stays in the queue, and the gaps are wrong. -/
theorem Traced.not_namesGaps (h : Traced arrived q) (hrank : ¬ InRank q segment) :
    ¬ NamesGaps (arrived ++ [segment.getSeqNo])
      (q.enqueue Segment.getSeqNo segment).2.mExpectedSeqNo
      (q.enqueue Segment.getSeqNo segment).2.mPendingQueue
      (missingSegments (q.enqueue Segment.getSeqNo segment).2.mExpectedSeqNo
        (q.enqueue Segment.getSeqNo segment).2.mPendingQueue) := by
  obtain ⟨hearly, hranks⟩ := Classical.not_imp.mp hrank
  have hhead : ∀ x ∈ (insertPending Segment.getSeqNo segment q.mPendingQueue).head?,
      q.mExpectedSeqNo < x.getSeqNo := by
    cases hpending : q.mPendingQueue with
    | nil => exact fun x hx => Option.some.inj hx ▸ hearly
    | cons walker rest =>
      have hwalker := h.head walker (by rw [hpending]; rfl)
      intro x hx
      rw [insertPending] at hx
      split at hx <;> exact Option.some.inj hx ▸ hwalker
  have hq : (q.enqueue Segment.getSeqNo segment).2 =
      { q with mPendingQueue := insertPending Segment.getSeqNo segment q.mPendingQueue } := by
    have hne : segment.getSeqNo ≠ q.mExpectedSeqNo := fun he => Int32.lt_irrefl (he ▸ hearly)
    rw [Queue.enqueue, if_neg hne, if_neg (Int32.lt_asymm hearly)]
    exact drainPending_of_head hhead
  obtain ⟨hpending, hmem⟩ := h.insert hearly
  rw [hq]
  rw [missingSegments_namesGaps_iff h.nonneg hpending hmem, h.ranks_iff hearly]
  exact hranks

end Queue

/-! ## Runs of the receiver -/

/-- The numbers that a message asks for. -/
def ControlMessage.range : ControlMessage → Option (Int32 × Int32)
  | .retransmit _ seqNoStart seqNoEnd => some (seqNoStart, seqNoEnd)
  | .queueStatus .. => none

/-- A receiver, and the numbers of the segments that have arrived. -/
structure Arrivals where
  receiver : Receiver
  arrived : SegSeqNumType → List Int32

namespace Arrivals

inductive Label where
  | receive (segment : Segment)
  | take (t : SegSeqNumType)

def init : Arrivals := ⟨.init, fun _ => []⟩

/-- No call fails. -/
def step (s : Arrivals) : Label → Except Empty Arrivals
  | .receive segment =>
    .ok { s with
      receiver := s.receiver.receive segment
      arrived :=
        if segment.isAck then s.arrived
        else Function.update s.arrived segment.numType
          (s.arrived segment.numType ++ [segment.getSeqNo]) }
  | .take t => .ok { s with receiver := s.receiver.take t }

/-- What `__checkAndRequestRetransmitMissingSegment` would ask for now. -/
def Names (s : Arrivals) : Prop :=
  ∀ t, NamesGaps (s.arrived t) (s.receiver.queues t).mExpectedSeqNo
    (s.receiver.queues t).mPendingQueue
    ((s.receiver.requestRetransmit t).filterMap ControlMessage.range)

/-- Some number of the segment's type is still missing, so the expected number does not overflow. -/
def Unfinished (s : Arrivals) : Label → Prop
  | .receive segment => segment.isAck = false →
    Android.Unfinished (s.arrived segment.numType ++ [segment.getSeqNo])
  | .take _ => True

def InRank (s : Arrivals) : Label → Prop
  | .receive segment => segment.isAck = false →
    (s.receiver.queues segment.numType).InRank segment
  | .take _ => True

/-- Each queue with its arrivals. -/
def Traced (s : Arrivals) : Prop := ∀ t, (s.receiver.queues t).Traced (s.arrived t)

variable {s s' : Arrivals}

theorem ranges_requestRetransmit (r : Receiver) (t : SegSeqNumType) :
    (r.requestRetransmit t).filterMap ControlMessage.range =
      missingSegments (r.queues t).mExpectedSeqNo (r.queues t).mPendingQueue := by
  unfold Receiver.requestRetransmit
  rw [List.filterMap_map]
  exact List.filterMap_some

theorem traced_init : Traced init := fun _ => Queue.traced_empty

theorem Traced.names (h : Traced s) : s.Names := by
  intro t
  rw [ranges_requestRetransmit]
  exact (h t).namesGaps

theorem Traced.step (h : Traced s) {l : Label} (hunfinished : Unfinished s l) (hrank : InRank s l)
    (hs : s.step l = .ok s') : Traced s' := by
  cases l with
  | receive segment =>
    obtain rfl := Except.ok.inj hs
    intro t
    by_cases hack : segment.isAck = true
    · simpa [Receiver.receive, hack] using h t
    · have hack' : segment.isAck = false := by simpa using hack
      by_cases ht : t = segment.numType
      · subst ht
        simpa [Receiver.receive, hack'] using (h segment.numType).enqueue (hunfinished hack')
          (hrank hack')
      · simpa [Receiver.receive, hack', Function.update_of_ne ht] using h t
  | take t =>
    obtain rfl := Except.ok.inj hs
    intro t'
    by_cases ht : t' = t
    · subst ht
      have hkeep : ((s.receiver.queues t').dequeue.2).mPendingQueue =
            (s.receiver.queues t').mPendingQueue ∧
          ((s.receiver.queues t').dequeue.2).mExpectedSeqNo =
            (s.receiver.queues t').mExpectedSeqNo := by
        unfold Queue.dequeue
        split <;> exact ⟨rfl, rfl⟩
      refine ⟨?_, ?_⟩
      · simpa [Receiver.take, hkeep] using (h t').toTracing
      · simpa [Receiver.take, hkeep] using (h t').head
    · simpa [Receiver.take, Function.update_of_ne ht] using h t'

theorem Traced.not_names (h : Traced s) {l : Label} (hrank : ¬ InRank s l)
    (hs : s.step l = .ok s') : ¬ s'.Names := by
  cases l with
  | take t => exact absurd trivial hrank
  | receive segment =>
    obtain rfl := Except.ok.inj hs
    obtain ⟨hack, hrank⟩ := Classical.not_imp.mp hrank
    intro hnames
    have hsegment := hnames segment.numType
    rw [ranges_requestRetransmit] at hsegment
    refine (h segment.numType).not_namesGaps hrank ?_
    simpa [Receiver.receive, hack] using hsegment

/-- **Requests name the gaps.** Among the runs in which some number of each type stays missing, those
throughout which the requests name exactly the gaps are the ones in which each early segment comes in
its rank. -/
theorem namesGaps_iff (ls : List Label)
    (hunfinished : Runs.AllSteps step Unfinished init ls) :
    (∀ t, Runs.Reached step init ls t → t.Names) ↔ Runs.AllSteps step InRank init ls :=
  Runs.throughout_iff_allSteps_of (fun _ => Traced.names)
    (fun _ _ _ h hu hr hs => h.step hu hr hs) (fun _ _ _ h _ hr hs => h.not_names hr hs)
    traced_init hunfinished

/-- A data frame without a payload. -/
def frame (seqNo : UInt32) : Segment := (serializeSegmentHeader { Segment.zero with seqNo := seqNo }).data

/-- One early segment: its gap is requested. -/
theorem namesGaps_iff_early :
    ∃ t, Runs.Reached step init [.receive (frame 2)] t ∧ t.Names := by
  have hrun : Runs.run step init [.receive (frame 2)] =
      .ok ⟨Receiver.init.receive (frame 2), Function.update (fun _ => []) (frame 2).numType
        [(frame 2).getSeqNo]⟩ := rfl
  have hunfinished : Runs.AllSteps step Unfinished init [.receive (frame 2)] := by
    rintro _ ⟨⟩
    exact ⟨fun _ => ⟨7, by decide, by decide +kernel⟩, trivial⟩
  have hrank : Runs.AllSteps step InRank init [.receive (frame 2)] := by
    rintro _ ⟨⟩
    exact ⟨fun _ _ => .inl (by simp [init, Receiver.init, Queue.empty]), trivial⟩
  exact ⟨_, .of_run hrun, (namesGaps_iff _ hunfinished).mpr hrank _ (.of_run hrun)⟩

/-- After 5 and 3 the scan meets 5 first, and asks for 3 again. -/
theorem arrived_requested : ∃ t, Runs.Reached step init [.receive (frame 5), .receive (frame 3)] t ∧
    ¬ t.Names := by
  obtain ⟨t, hr, hview⟩ : ∃ t, Runs.run step init [.receive (frame 5), .receive (frame 3)] = .ok t ∧
      ((t.receiver.requestRetransmit .kSNData).filterMap ControlMessage.range, t.arrived .kSNData) =
        ([(0, 4)], [5, 3]) :=
    Runs.exists_run_of_view (fun t : Arrivals =>
      ((t.receiver.requestRetransmit .kSNData).filterMap ControlMessage.range, t.arrived .kSNData))
      (by decide +kernel)
  obtain ⟨hranges, harrived⟩ := Prod.mk.inj hview
  refine ⟨t, .of_run hr, fun hnames => ?_⟩
  have hunion := (hnames .kSNData).union 3
  rw [hranges, harrived] at hunion
  have hthree := hunion.mp ⟨(0, 4), List.mem_singleton_self _, by decide, by decide⟩
  exact hthree.2.2 3 (by simp) (by decide)

end Arrivals

end Android
end VirtualConnection
