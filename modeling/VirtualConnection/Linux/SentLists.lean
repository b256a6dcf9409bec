import Mathlib.Data.Set.Insert
import VirtualConnection.Lib.Runs
import VirtualConnection.Lib.Text
import VirtualConnection.Linux.SegmentManager

/-!
# Linux.SentLists

The sent lists against what they stand for. `SentNumbers` is, for each type, the set of the numbers
that were added and have not been deallocated since; the lists of the manager hold these numbers in
increasing order, whatever the order in which the senders complete.

`SentCall.other` is what happens to the manager between two calls: segments are taken from the pool
and numbered, queued, failed. It may change everything but the sent lists and the numbers of the
segments in them.
-/

namespace VirtualConnection
namespace Linux

/-- What the sent lists stand for. -/
abbrev SentNumbers := SegSeqNumType → Set UInt32

namespace SentNumbers

def empty : SentNumbers := fun _ => ∅

def add (numbers : SentNumbers) (segType : SegSeqNumType) (seqNo : UInt32) : SentNumbers :=
  Function.update numbers segType (insert seqNo (numbers segType))

def deallocate (numbers : SentNumbers) (lastSeqNoControl lastSeqNoData : UInt32) : SentNumbers
  | .kSNData => {n ∈ numbers .kSNData | lastSeqNoData < n}
  | .kSNControl => {n ∈ numbers .kSNControl | lastSeqNoControl < n}

end SentNumbers

namespace SentLists

open SegmentManager Ownership

structure SentRun where
  sm : SegmentManager
  numbers : SentNumbers

inductive SentCall where
  | add (segType : SegSeqNumType) (seg : Addr)
  | deallocate (lastSeqNoControl lastSeqNoData : UInt32)
  | retransmit (segType : Int) (seqNoStart seqNoEnd : UInt32)
  | other (sm : SegmentManager)

/-- The sent list of one type is the same in both, with the same numbers. -/
def sameSent (sm sm' : SegmentManager) (segType : SegSeqNumType) : Bool :=
  sm'.mSentSegmentLists segType == sm.mSentSegmentLists segType &&
    (sm.mSentSegmentLists segType).all fun seg => sm'.seqNo seg == sm.seqNo seg

def step (s : SentRun) : SentCall → Except Stop SentRun
  | .add segType seg =>
    .ok ⟨s.sm.addSentSegmentToList segType seg, s.numbers.add segType (s.sm.seqNo seg)⟩
  | .deallocate lastSeqNoControl lastSeqNoData =>
    match s.sm.deallocateSentSegmentsByPeer lastSeqNoControl lastSeqNoData with
    | .error e => .error e
    | .ok sm => .ok ⟨sm, s.numbers.deallocate lastSeqNoControl lastSeqNoData⟩
  | .retransmit segType seqNoStart seqNoEnd =>
    .ok ⟨s.sm.retransmitMissingSegmentsByPeer segType seqNoStart seqNoEnd, s.numbers⟩
  | .other sm =>
    if sameSent s.sm sm .kSNData && sameSent s.sm sm .kSNControl then .ok ⟨sm, s.numbers⟩
    else .error .waiting

/-- `sm` with its sent lists emptied, and no number added yet. -/
def start (sm : SegmentManager) : SentRun :=
  ⟨{ sm with mSentSegmentLists := fun _ => [] }, .empty⟩

/-! ## The loops -/

/-- The segments of a sent list that a deallocation up to `lastSeqNo` takes out. -/
def acknowledged (sm : SegmentManager) (lastSeqNo : UInt32) (sent : List Addr) : List Addr :=
  sent.filter fun p => sm.seqNo p ≤ lastSeqNo

def unacknowledged (sm : SegmentManager) (lastSeqNo : UInt32) (sent : List Addr) : List Addr :=
  sent.filter fun p => lastSeqNo < sm.seqNo p

/-- The loop of `retransmit_missing_segments_by_peer`. `seq_no` is an `int` in it, and a `uint32_t`
again in each comparison. -/
def retransmitLoop (seqNoStart seqNoEnd : UInt32) : List Addr → SegmentManager → SegmentManager
  | [], sm => sm
  | segment :: rest, sm =>
    let seqNo : Int32 := (sm.seqNo segment).toInt32
    if seqNo.toUInt32 ≥ seqNoStart ∧ seqNo.toUInt32 ≤ seqNoEnd then
      retransmitLoop seqNoStart seqNoEnd rest (sm.addFailedSegmentToList segment)
    else retransmitLoop seqNoStart seqNoEnd rest sm

variable {sm sm' : SegmentManager} {s s' : SentRun} {t : SegSeqNumType} {n : UInt32}

theorem isRequested_addFailedSegmentToList (seg : Addr) :
    (sm.addFailedSegmentToList seg).isRequested = sm.isRequested := rfl

theorem retransmitLoop_eq (seqNoStart seqNoEnd : UInt32) (sent : List Addr) (sm : SegmentManager) :
    retransmitLoop seqNoStart seqNoEnd sent sm =
      { sm with mFailedSegmentList := sm.mFailedSegmentList ++
          sent.filter (sm.isRequested seqNoStart seqNoEnd) } := by
  induction sent generalizing sm with
  | nil => simp [retransmitLoop]
  | cons segment rest ih =>
    rw [retransmitLoop]
    split
    · next hreq =>
      have hin : sm.isRequested seqNoStart seqNoEnd segment = true := by
        simpa [isRequested] using hreq
      rw [ih, List.filter_cons_of_pos hin, isRequested_addFailedSegmentToList]
      simp [addFailedSegmentToList]
    · next hreq =>
      have hout : ¬ sm.isRequested seqNoStart seqNoEnd segment = true := by
        simpa [isRequested] using hreq
      rw [ih, List.filter_cons_of_neg hout]

theorem retransmitMissingSegmentsByPeer_eq_loop {segType : Int} (ht : segSeqNumType? segType = some t)
    (seqNoStart seqNoEnd : UInt32) :
    sm.retransmitMissingSegmentsByPeer segType seqNoStart seqNoEnd =
      retransmitLoop seqNoStart seqNoEnd (sm.mSentSegmentLists t) sm := by
  rw [retransmitMissingSegmentsByPeer, ht, retransmitLoop_eq]

theorem segSeqNumType?_eq_none {segType : Int} :
    segSeqNumType? segType = none ↔ segType < 0 ∨ 2 ≤ segType := by
  constructor
  · intro h
    by_contra hn
    obtain rfl | rfl : segType = 0 ∨ segType = 1 := by omega
    · cases h
    · cases h
  · intro h
    rw [segSeqNumType?]
    · rintro rfl
      omega
    · rintro rfl
      omega

/-! ## What deallocation gives back -/

section Deallocation

variable {control data lastSeqNo : UInt32} {l : List Addr}

def withSent (sm : SegmentManager) (sent : SegSeqNumType → List Addr) : SegmentManager :=
  { sm with mSentSegmentLists := sent }

theorem shrinkIfBig_withSent (sent : SegSeqNumType → List Addr) :
    (withSent sm sent).shrinkIfBig = sm.shrinkIfBig.map (withSent · sent) := by
  by_cases hbig : sm.mFreeList.length > kSegFreeThreshold
  · simp only [shrinkIfBig, withSent, hbig, if_true]
    cases shrinkFreeSegmentList (kSegFreeThreshold / 2) sm.mFreeList sm.allocated with
    | error e => rfl
    | ok r => rfl
  · simp only [shrinkIfBig, withSent, hbig, if_false]
    rfl

theorem addFreeSegmentToList_withSent (sent : SegSeqNumType → List Addr) (seg : Addr) :
    (withSent sm sent).addFreeSegmentToList seg =
      (sm.addFreeSegmentToList seg).map (withSent · sent) := by
  rw [addFreeSegmentToList, addFreeSegmentToList, ← shrinkIfBig_withSent]
  rfl

/-- Giving segments back does not look at the sent lists. -/
theorem foldlM_withSent (sent : SegSeqNumType → List Addr) :
    l.foldlM addFreeSegmentToList (withSent sm sent) =
      (l.foldlM addFreeSegmentToList sm).map (withSent · sent) := by
  induction l generalizing sm with
  | nil => rfl
  | cons seg rest ih =>
    rw [List.foldlM_cons, List.foldlM_cons, addFreeSegmentToList_withSent]
    cases sm.addFreeSegmentToList seg with
    | error e => rfl
    | ok sm₁ => exact ih

theorem addFreeSegmentToList_frame {seg : Addr} (h : sm.addFreeSegmentToList seg = .ok sm') :
    sm'.heap = sm.heap ∧ sm'.mSentSegmentLists = sm.mSentSegmentLists := by
  obtain ⟨_, _, rfl, _⟩ := addFreeSegmentToList_ok h
  exact ⟨rfl, rfl⟩

theorem foldlM_frame (h : l.foldlM addFreeSegmentToList sm = .ok sm') :
    sm'.heap = sm.heap ∧ sm'.mSentSegmentLists = sm.mSentSegmentLists := by
  induction l generalizing sm with
  | nil =>
    cases h
    exact ⟨rfl, rfl⟩
  | cons seg rest ih =>
    rw [List.foldlM_cons] at h
    obtain ⟨sm₁, h₁, h₂⟩ := Text.exists_ok_of_bind h
    obtain ⟨hheap, hsent⟩ := addFreeSegmentToList_frame h₁
    obtain ⟨hheap', hsent'⟩ := ih h₂
    exact ⟨hheap'.trans hheap, hsent'.trans hsent⟩

theorem acknowledged_congr (hheap : sm'.heap = sm.heap) :
    acknowledged sm' lastSeqNo = acknowledged sm lastSeqNo ∧
      unacknowledged sm' lastSeqNo = unacknowledged sm lastSeqNo := by
  have hnum : sm'.seqNo = sm.seqNo := by
    funext p
    rw [SegmentManager.seqNo, SegmentManager.seqNo, hheap]
  constructor
  · funext sent
    rw [acknowledged, acknowledged, hnum]
  · funext sent
    rw [unacknowledged, unacknowledged, hnum]

/-- One loop of the deallocation, its walk and its calls apart. -/
theorem deallocateLoop_eq (sent : List Addr) (sm : SegmentManager) :
    deallocateLoop lastSeqNo sent sm =
      ((acknowledged sm lastSeqNo sent).foldlM addFreeSegmentToList sm).map
        fun sm' => (unacknowledged sm lastSeqNo sent, sm') := by
  induction sent generalizing sm with
  | nil => rfl
  | cons segment rest ih =>
    rw [deallocateLoop]
    split
    · next hle =>
      have hack : acknowledged sm lastSeqNo (segment :: rest) =
          segment :: acknowledged sm lastSeqNo rest :=
        List.filter_cons_of_pos (by simpa using hle)
      have hunack : unacknowledged sm lastSeqNo (segment :: rest) =
          unacknowledged sm lastSeqNo rest :=
        List.filter_cons_of_neg (by simpa using hle)
      rw [hack, hunack, List.foldlM_cons]
      cases h₁ : sm.addFreeSegmentToList segment with
      | error e => rfl
      | ok sm₁ =>
        obtain ⟨hack₁, hunack₁⟩ : acknowledged sm₁ lastSeqNo = acknowledged sm lastSeqNo ∧
            unacknowledged sm₁ lastSeqNo = unacknowledged sm lastSeqNo :=
          acknowledged_congr (addFreeSegmentToList_frame h₁).1
        rw [← hack₁, ← hunack₁]
        exact ih sm₁
    · next hgt =>
      have hack : acknowledged sm lastSeqNo (segment :: rest) = acknowledged sm lastSeqNo rest :=
        List.filter_cons_of_neg (by simpa using hgt)
      have hunack : unacknowledged sm lastSeqNo (segment :: rest) =
          segment :: unacknowledged sm lastSeqNo rest :=
        List.filter_cons_of_pos (by simpa using hgt)
      rw [hack, hunack, ih]
      cases (acknowledged sm lastSeqNo rest).foldlM addFreeSegmentToList sm with
      | error e => rfl
      | ok sm₁ => rfl

theorem deallocateSentSegments_eq :
    sm.deallocateSentSegments t lastSeqNo =
      ((acknowledged sm lastSeqNo (sm.mSentSegmentLists t)).foldlM addFreeSegmentToList sm).map
        fun sm' => withSent sm' (Function.update sm.mSentSegmentLists t
          (unacknowledged sm lastSeqNo (sm.mSentSegmentLists t))) := by
  rw [deallocateSentSegments, deallocateLoop_eq]
  cases h : (acknowledged sm lastSeqNo (sm.mSentSegmentLists t)).foldlM addFreeSegmentToList sm with
  | error e => rfl
  | ok sm₁ =>
    rw [← (foldlM_frame h).2]
    rfl

/-- What a deallocation takes out: control segments first, each list in its order. -/
def removed (sm : SegmentManager) (control data : UInt32) : List Addr :=
  acknowledged sm control (sm.mSentSegmentLists .kSNControl) ++
    acknowledged sm data (sm.mSentSegmentLists .kSNData)

/-- What a deallocation leaves in the sent lists. -/
def remaining (sm : SegmentManager) (control data : UInt32) : SegSeqNumType → List Addr :=
  fun t => unacknowledged sm (SegmentManager.lastSeqNo control data t) (sm.mSentSegmentLists t)

theorem deallocateSentSegmentsByPeer_bind :
    sm.deallocateSentSegmentsByPeer control data =
      sm.deallocateSentSegments .kSNControl control >>= fun sm₁ =>
        sm₁.deallocateSentSegments .kSNData data >>= shrinkIfBig := by
  rw [deallocateSentSegmentsByPeer]
  cases sm.deallocateSentSegments .kSNControl control with
  | error e => rfl
  | ok sm₁ =>
    dsimp only [Text.ok_bind]
    cases sm₁.deallocateSentSegments .kSNData data with
    | error e => rfl
    | ok sm₂ => rfl

/-- The deallocation is one `add_free_segment_to_list` for each segment that is taken out. -/
theorem deallocateSentSegmentsByPeer_eq :
    sm.deallocateSentSegmentsByPeer control data =
      (removed sm control data).foldlM addFreeSegmentToList sm >>= fun sm' =>
        (withSent sm' (remaining sm control data)).shrinkIfBig := by
  rw [deallocateSentSegmentsByPeer_bind, deallocateSentSegments_eq, removed, List.foldlM_append]
  cases h : (acknowledged sm control (sm.mSentSegmentLists .kSNControl)).foldlM
      addFreeSegmentToList sm with
  | error e => rfl
  | ok sm₁ =>
    obtain ⟨hheap, hsent⟩ := foldlM_frame h
    -- the manager between the two loops
    let sm₂ := withSent sm₁ (Function.update sm.mSentSegmentLists .kSNControl
      (unacknowledged sm control (sm.mSentSegmentLists .kSNControl)))
    obtain ⟨hack, hunack⟩ : acknowledged sm₂ data = acknowledged sm data ∧
        unacknowledged sm₂ data = unacknowledged sm data := acknowledged_congr hheap
    have hdata : sm₂.mSentSegmentLists .kSNData = sm.mSentSegmentLists .kSNData := rfl
    have hloop : sm₂.deallocateSentSegments .kSNData data =
        ((acknowledged sm data (sm.mSentSegmentLists .kSNData)).foldlM addFreeSegmentToList sm₁).map
          fun sm' => withSent sm' (remaining sm control data) := by
      rw [deallocateSentSegments_eq, hack, hunack, hdata, foldlM_withSent]
      cases (acknowledged sm data (sm.mSentSegmentLists .kSNData)).foldlM
          addFreeSegmentToList sm₁ with
      | error e => rfl
      | ok sm₃ =>
        have hlists : Function.update sm₂.mSentSegmentLists .kSNData
            (unacknowledged sm data (sm.mSentSegmentLists .kSNData)) = remaining sm control data := by
          funext t
          cases t with
          | kSNData => rfl
          | kSNControl => rfl
        rw [hlists]
        rfl
    calc (sm₂.deallocateSentSegments .kSNData data >>= shrinkIfBig)
        = ((acknowledged sm data (sm.mSentSegmentLists .kSNData)).foldlM addFreeSegmentToList sm₁).map
            (fun sm' => withSent sm' (remaining sm control data)) >>= shrinkIfBig := by rw [hloop]
      _ = _ := by
        rw [Text.ok_bind]
        cases (acknowledged sm data (sm.mSentSegmentLists .kSNData)).foldlM
            addFreeSegmentToList sm₁ with
        | error e => rfl
        | ok sm₃ => rfl

/-! ### It succeeds -/

/-- `l` can be given back: these segments are allocated, and none is given back twice. -/
def Returnable (sm : SegmentManager) (l : List Addr) : Prop :=
  (sm.mFreeList : Multiset Addr) + l ≤ (sm.allocated : Multiset Addr)

theorem shrinkFreeSegmentList_succeeds (threshold : ℕ) {freeList : List Addr} :
    ∀ {allocated : List Addr}, (freeList : Multiset Addr) ≤ allocated →
      ∃ r, shrinkFreeSegmentList threshold freeList allocated = .ok r := by
  induction freeList with
  | nil => exact fun _ => ⟨_, rfl⟩
  | cons toFree rest ih =>
    intro allocated h
    have hmem : toFree ∈ allocated := Multiset.mem_of_le h List.mem_cons_self
    by_cases hbig : (toFree :: rest).length > threshold
    · rw [← Multiset.cons_coe] at h
      rw [shrinkFreeSegmentList, if_pos hbig, if_pos hmem]
      exact ih (Discipline.within.release h)
    · rw [shrinkFreeSegmentList, if_neg hbig]
      exact ⟨_, rfl⟩

theorem shrinkIfBig_succeeds (h : (sm.mFreeList : Multiset Addr) ≤ sm.allocated) :
    ∃ sm', sm.shrinkIfBig = .ok sm' := by
  obtain ⟨r, hr⟩ := shrinkFreeSegmentList_succeeds (kSegFreeThreshold / 2) h
  rw [shrinkIfBig]
  split
  · rw [hr]
    exact ⟨_, rfl⟩
  · exact ⟨_, rfl⟩

theorem foldlM_succeeds (h : Returnable sm l) :
    ∃ sm', l.foldlM addFreeSegmentToList sm = .ok sm' ∧
      (sm'.mFreeList : Multiset Addr) ≤ sm'.allocated := by
  induction l generalizing sm with
  | nil => exact ⟨sm, rfl, by simpa [Returnable] using h⟩
  | cons seg rest ih =>
    have hcons : seg ::ₘ ((sm.mFreeList : Multiset Addr) + rest) ≤ sm.allocated := by
      rwa [Returnable, ← Multiset.cons_coe, Multiset.add_cons] at h
    have hfree : ((seg :: sm.mFreeList : List Addr) : Multiset Addr) ≤ sm.allocated := by
      rw [← Multiset.cons_coe]
      exact le_trans (Multiset.cons_le_cons seg (Multiset.le_add_right _ _)) hcons
    obtain ⟨sm₁, hadd⟩ : ∃ sm₁, sm.addFreeSegmentToList seg = .ok sm₁ := shrinkIfBig_succeeds hfree
    obtain ⟨freeList, allocated, rfl, hkeep⟩ := addFreeSegmentToList_ok hadd
    have hrest : Returnable { sm with allocated := allocated, mFreeList := freeList } rest :=
      hkeep Discipline.within hcons
    obtain ⟨sm', h', hle⟩ := ih hrest
    refine ⟨sm', ?_, hle⟩
    rw [List.foldlM_cons, hadd]
    exact h'

theorem deallocateSentSegmentsByPeer_succeeds (h : Returnable sm (removed sm control data)) :
    ∃ sm', sm.deallocateSentSegmentsByPeer control data = .ok sm' := by
  obtain ⟨sm₁, h₁, hle⟩ := foldlM_succeeds h
  rw [deallocateSentSegmentsByPeer_eq, h₁]
  exact shrinkIfBig_succeeds hle

end Deallocation

/-! ## Ordered sets -/

/-- Each sent list holds its numbers, once each and in increasing order. -/
structure OrderedSets (s : SentRun) : Prop where
  increasing : ∀ t, (s.sm.mSentSegmentLists t).Pairwise fun p q => s.sm.seqNo p < s.sm.seqNo q
  members : ∀ t n, n ∈ (s.sm.mSentSegmentLists t).map s.sm.seqNo ↔ n ∈ s.numbers t

theorem orderedSets_start (sm : SegmentManager) : OrderedSets (start sm) where
  increasing := fun _ => .nil
  members := fun t n => by simp [start, SentNumbers.empty]

theorem orderedSets_add (h : OrderedSets s) (t : SegSeqNumType) (seg : Addr) :
    OrderedSets ⟨s.sm.addSentSegmentToList t seg, s.numbers.add t (s.sm.seqNo seg)⟩ := by
  obtain ⟨l, hadd, hl⟩ := addSentSegmentToList_spec seg (h.increasing t)
  have hlist : l.Pairwise (fun p q => s.sm.seqNo p < s.sm.seqNo q) ∧
      ∀ n, n ∈ l.map s.sm.seqNo ↔ n = s.sm.seqNo seg ∨ n ∈ s.numbers t := by
    rcases hl with ⟨⟨p, hp, he⟩, rfl⟩ | ⟨_, hperm, hsort⟩
    · refine ⟨h.increasing t, fun n => ?_⟩
      have hseg : s.sm.seqNo seg ∈ s.numbers t := (h.members t _).mp (List.mem_map.mpr ⟨p, hp, he⟩)
      rw [h.members]
      exact ⟨.inr, fun hn => hn.elim (fun he' => he' ▸ hseg) id⟩
    · refine ⟨hsort, fun n => ?_⟩
      rw [(hperm.map _).mem_iff, List.map_cons, List.mem_cons, h.members]
  rw [hadd]
  constructor
  · intro t'
    by_cases ht : t' = t
    · subst ht
      simpa [SegmentManager.seqNo] using hlist.1
    · simpa [SegmentManager.seqNo, ht] using h.increasing t'
  · intro t' n
    by_cases ht : t' = t
    · subst ht
      simpa [SegmentManager.seqNo, SentNumbers.add] using hlist.2 n
    · simpa [SegmentManager.seqNo, SentNumbers.add, ht] using h.members t' n

theorem mem_deallocate {numbers : SentNumbers} {control data : UInt32} :
    n ∈ numbers.deallocate control data t ↔
      n ∈ numbers t ∧ lastSeqNo control data t < n := by
  cases t with
  | kSNData => rfl
  | kSNControl => rfl

/-- The numbers of the segments that a filter on the number picks out of a sent list. -/
theorem OrderedSets.mem_map_filter (h : OrderedSets s) (P : UInt32 → Prop) [DecidablePred P] :
    n ∈ ((s.sm.mSentSegmentLists t).filter fun p => P (s.sm.seqNo p)).map s.sm.seqNo ↔
      n ∈ s.numbers t ∧ P n := by
  rw [← h.members]
  simp only [List.mem_map, List.mem_filter, decide_eq_true_eq]
  constructor
  · rintro ⟨p, ⟨hp, hn⟩, rfl⟩
    exact ⟨⟨p, hp, rfl⟩, hn⟩
  · rintro ⟨⟨p, hp, rfl⟩, hn⟩
    exact ⟨p, ⟨hp, hn⟩, rfl⟩

theorem orderedSets_deallocate {control data : UInt32} (h : OrderedSets s)
    (hs : s.sm.deallocateSentSegmentsByPeer control data = .ok sm) :
    OrderedSets ⟨sm, s.numbers.deallocate control data⟩ := by
  obtain ⟨freeList, allocated, rfl, _⟩ := deallocateSentSegmentsByPeer_ok hs
  constructor
  · exact fun t => (h.increasing t).filter _
  · intro t n
    rw [mem_deallocate, ← UInt32.not_le]
    exact h.mem_map_filter (¬ · ≤ lastSeqNo control data t)

/-- The sent lists and the numbers in them are all that matters. -/
theorem OrderedSets.congr (h : OrderedSets s)
    (hsame : ∀ t, sm.mSentSegmentLists t = s.sm.mSentSegmentLists t ∧
      ∀ p ∈ s.sm.mSentSegmentLists t, sm.seqNo p = s.sm.seqNo p) : OrderedSets ⟨sm, s.numbers⟩ := by
  constructor
  · intro t
    obtain ⟨hlist, hnum⟩ := hsame t
    rw [hlist]
    refine (h.increasing t).imp_of_mem fun hp hq hlt => ?_
    rwa [hnum _ hp, hnum _ hq]
  · intro t n
    obtain ⟨hlist, hnum⟩ := hsame t
    rw [hlist, List.map_congr_left hnum]
    exact h.members t n

theorem sameSent_iff : sameSent sm sm' t = true ↔
    sm'.mSentSegmentLists t = sm.mSentSegmentLists t ∧
      ∀ p ∈ sm.mSentSegmentLists t, sm'.seqNo p = sm.seqNo p := by
  simp [sameSent]

theorem step_orderedSets (h : OrderedSets s) {call : SentCall} (hs : step s call = .ok s') :
    OrderedSets s' := by
  cases call with
  | add segType seg =>
    cases hs
    exact orderedSets_add h segType seg
  | deallocate lastSeqNoControl lastSeqNoData =>
    rw [step] at hs
    split at hs
    · cases hs
    · next sm₁ h₁ =>
      cases hs
      exact orderedSets_deallocate h h₁
  | retransmit segType seqNoStart seqNoEnd =>
    cases hs
    cases ht : segSeqNumType? segType with
    | none => exact h.congr fun t => by simp [retransmitMissingSegmentsByPeer, ht]
    | some t =>
      rw [retransmitMissingSegmentsByPeer_eq_loop ht, retransmitLoop_eq]
      exact h.congr fun _ => ⟨rfl, fun _ _ => rfl⟩
  | other sm =>
    rw [step] at hs
    split at hs
    · next hsame =>
      cases hs
      rw [Bool.and_eq_true, sameSent_iff, sameSent_iff] at hsame
      refine h.congr fun t => ?_
      cases t with
      | kSNData => exact hsame.1
      | kSNControl => exact hsame.2
    · cases hs

theorem reached_orderedSets {calls : List SentCall}
    (h : Runs.Reached step (start sm) calls s) : OrderedSets s :=
  Runs.throughout_of_allSteps (C := fun _ _ => True) (fun _ _ _ hi _ hs => step_orderedSets hi hs)
    (orderedSets_start sm) (Runs.AllSteps.of_labels (fun _ _ _ => trivial) _) h

/-- A deallocation takes out exactly the numbers up to the last ones, and gives every segment that
it takes out to the free list, one call for each. -/
structure DeallocatesExactly (s : SentRun) (control data : UInt32) : Prop where
  givesBack : s.sm.deallocateSentSegmentsByPeer control data =
    (removed s.sm control data).foldlM addFreeSegmentToList s.sm >>= fun sm' =>
      (withSent sm' (remaining s.sm control data)).shrinkIfBig
  removedNumbers : ∀ t n,
    n ∈ (acknowledged s.sm (lastSeqNo control data t) (s.sm.mSentSegmentLists t)).map s.sm.seqNo ↔
      n ∈ s.numbers t ∧ n ≤ lastSeqNo control data t
  remainingNumbers : ∀ t n, n ∈ (remaining s.sm control data t).map s.sm.seqNo ↔
    n ∈ s.numbers t ∧ lastSeqNo control data t < n
  succeeds : Returnable s.sm (removed s.sm control data) →
    ∃ sm', s.sm.deallocateSentSegmentsByPeer control data = .ok sm'

/-- A retransmission appends the listed segments with numbers from `a` to `b` to the failed list, in
increasing order, and changes nothing else. -/
structure RetransmitsExactly (s : SentRun) (segType : Int) (a b : UInt32) : Prop where
  invalid : segType < 0 ∨ 2 ≤ segType → s.sm.retransmitMissingSegmentsByPeer segType a b = s.sm
  valid : ∀ t, segSeqNumType? segType = some t → ∃ requested,
    s.sm.retransmitMissingSegmentsByPeer segType a b =
      { s.sm with mFailedSegmentList := s.sm.mFailedSegmentList ++ requested } ∧
    requested.Sublist (s.sm.mSentSegmentLists t) ∧
    requested.Pairwise (fun p q => s.sm.seqNo p < s.sm.seqNo q) ∧
    ∀ n, n ∈ requested.map s.sm.seqNo ↔ n ∈ s.numbers t ∧ a ≤ n ∧ n ≤ b

theorem OrderedSets.deallocatesExactly (h : OrderedSets s) (control data : UInt32) :
    DeallocatesExactly s control data where
  givesBack := deallocateSentSegmentsByPeer_eq
  removedNumbers := fun t _ => h.mem_map_filter (· ≤ lastSeqNo control data t)
  remainingNumbers := fun t _ => h.mem_map_filter (lastSeqNo control data t < ·)
  succeeds := deallocateSentSegmentsByPeer_succeeds

theorem OrderedSets.retransmitsExactly (h : OrderedSets s) (segType : Int) (a b : UInt32) :
    RetransmitsExactly s segType a b where
  invalid := by
    intro ht
    rw [retransmitMissingSegmentsByPeer, segSeqNumType?_eq_none.mpr ht]
  valid := by
    intro t ht
    refine ⟨_, (retransmitMissingSegmentsByPeer_eq_loop ht a b).trans (retransmitLoop_eq a b _ _),
      List.filter_sublist, (h.increasing t).filter _, fun n => ?_⟩
    exact h.mem_map_filter fun n => n ≥ a ∧ n ≤ b

/-- The sent lists are ordered sets, in every run: each holds exactly the numbers that were added
and have not been deallocated since, in increasing order, and the two calls of the peer take from
them, or copy, exactly what they name. -/
theorem sent_lists_ordered_sets {sm : SegmentManager} {calls : List SentCall} {s : SentRun}
    (h : Runs.Reached step (start sm) calls s) :
    OrderedSets s ∧ (∀ control data, DeallocatesExactly s control data) ∧
      ∀ segType a b, RetransmitsExactly s segType a b :=
  have hsets := reached_orderedSets h
  ⟨hsets, hsets.deallocatesExactly, hsets.retransmitsExactly⟩

/-- Three segments with the numbers 5, 3 and 5. -/
def threeSegments : SegmentManager :=
  { SegmentManager.init with
    heap := fun p => { Segment.zero with seqNo := if p = 1 then 3 else 5 }
    allocated := [0, 1, 2] }

/-- They complete in this order; the last repeats a number. The 3 is asked for again, and then
acknowledged. -/
theorem sent_lists_ordered_sets_three : ∃ s,
    (s.sm.mSentSegmentLists .kSNData = [0] ∧ s.sm.mFailedSegmentList = [1] ∧ s.sm.mFreeList = [1]) ∧
    OrderedSets s := by
  have hview : (Runs.run step (start threeSegments) [.add .kSNData 0, .add .kSNData 1,
      .add .kSNData 2, .retransmit 0 0 4, .deallocate 9 4]).toOption.map
      (fun s => (s.sm.mSentSegmentLists .kSNData, s.sm.mFailedSegmentList, s.sm.mFreeList)) =
      some ([0], [1], [1]) := rfl
  obtain ⟨s, hr, hv⟩ := Runs.exists_run_of_view _ hview
  simp only [Prod.mk.injEq] at hv
  exact ⟨s, hv, (sent_lists_ordered_sets (Runs.Reached.of_run hr)).1⟩

end SentLists
end Linux
end VirtualConnection
