import Mathlib.Data.Multiset.AddSub
import Mathlib.Logic.Function.Basic
import VirtualConnection.Lib.Ownership
import VirtualConnection.Linux.SegmentQueue

/-!
# Linux.SegmentManager

`SegmentManager.cpp`: the pool of segments and the lists that point into it. A `Segment *` is an
address into `heap`; `allocated` are the addresses that `calloc` has returned and `free` has not
taken back. Which address `calloc` returns is up to its caller here, as long as it is not in use.

Every function runs under the lock of the list it works on, so it is one step. The counter of the
free list is its length.
-/

namespace VirtualConnection
namespace Linux

abbrev Addr := ℕ

def kSegFreeThreshold : ℕ := 256

structure SegmentManager where
  heap : Addr → Segment
  allocated : List Addr
  mFreeList : List Addr
  mNextSeqNo : SegSeqNumType → UInt32
  mSegmentQueues : SegQueueType → SegmentQueue Addr
  mFailedSegmentList : List Addr
  mSentSegmentLists : SegSeqNumType → List Addr

namespace SegmentManager

def init : SegmentManager where
  heap := fun _ => .zero
  allocated := []
  mFreeList := []
  mNextSeqNo := fun _ => 0
  mSegmentQueues := fun _ => .empty
  mFailedSegmentList := []
  mSentSegmentLists := fun _ => []

def seqNo (sm : SegmentManager) (seg : Addr) : UInt32 := (sm.heap seg).seqNo

def getNextSeqNo (sm : SegmentManager) (seqNumType : SegSeqNumType) (numSegments : UInt32) :
    UInt32 × SegmentManager :=
  (sm.mNextSeqNo seqNumType,
    { sm with
      mNextSeqNo := Function.update sm.mNextSeqNo seqNumType
        (sm.mNextSeqNo seqNumType + numSegments) })

/-! ## Queues -/

def enqueue (sm : SegmentManager) (queueType : SegQueueType) (seg : Addr) :
    Except Stop SegmentManager :=
  match (sm.mSegmentQueues queueType).enqueue sm.seqNo seg with
  | .error f => .error (.fault f)
  | .ok (_, q) => .ok { sm with mSegmentQueues := Function.update sm.mSegmentQueues queueType q }

/-- `none` is `kSQUnknown`. -/
def getTargetQueueType (sm : SegmentManager) : SegDequeueType → Option SegQueueType
  | .kDeqSendControlData =>
    if (sm.mSegmentQueues .kSQSendControl).getQueueLength ≠ 0 then some .kSQSendControl
    else if (sm.mSegmentQueues .kSQSendData).getQueueLength ≠ 0 then some .kSQSendData
    else none
  | .kDeqRecvControl => some .kSQRecvControl
  | .kDeqRecvData => some .kSQRecvData

/-- `dequeue` after the wait for a segment, which may end without one. -/
def dequeue (sm : SegmentManager) (dequeueType : SegDequeueType) :
    Except Stop (Option Addr × SegmentManager) :=
  match sm.getTargetQueueType dequeueType with
  | none => .ok (none, sm)
  | some queueType =>
    match (sm.mSegmentQueues queueType).dequeue with
    | .error f => .error (.fault f)
    | .ok (seg, q) =>
      .ok (some seg, { sm with mSegmentQueues := Function.update sm.mSegmentQueues queueType q })

/-! ## Free segments -/

/-- `fresh` is what `calloc` returns when the free list is empty. -/
def popFreeSegment (sm : SegmentManager) (fresh : Addr) : Except Stop (Addr × SegmentManager) :=
  match sm.mFreeList with
  | [] =>
    if fresh ∈ sm.allocated then .error .waiting
    else .ok (fresh, { sm with
      heap := Function.update sm.heap fresh .zero
      allocated := fresh :: sm.allocated })
  | seg :: rest =>
    .ok (seg, { sm with
      heap := Function.update sm.heap seg { sm.heap seg with seqNo := 0, len := 0, flag := 0 }
      mFreeList := rest })

/-- The loop of `shrink_free_segment_list`: what it leaves of the free list and of `allocated`. -/
def shrinkFreeSegmentList (threshold : ℕ) : List Addr → List Addr →
    Except Stop (List Addr × List Addr)
  | [], allocated => .ok ([], allocated)
  | toFree :: rest, allocated =>
    if (toFree :: rest).length > threshold then
      if toFree ∈ allocated then shrinkFreeSegmentList threshold rest (allocated.erase toFree)
      else .error (.fault .invalidFree)
    else .ok (toFree :: rest, allocated)

/-- `if (unlikely(mFreeSegmentListSize > kSegFreeThreshold))`. -/
def shrinkIfBig (sm : SegmentManager) : Except Stop SegmentManager :=
  if sm.mFreeList.length > kSegFreeThreshold then
    match shrinkFreeSegmentList (kSegFreeThreshold / 2) sm.mFreeList sm.allocated with
    | .error e => .error e
    | .ok (freeList, allocated) => .ok { sm with mFreeList := freeList, allocated := allocated }
  else .ok sm

def addFreeSegmentToList (sm : SegmentManager) (seg : Addr) : Except Stop SegmentManager :=
  shrinkIfBig { sm with mFreeList := seg :: sm.mFreeList }

/-! ## Failed and sent segments -/

def addFailedSegmentToList (sm : SegmentManager) (seg : Addr) : SegmentManager :=
  { sm with mFailedSegmentList := sm.mFailedSegmentList ++ [seg] }

def popFailedSegment (sm : SegmentManager) : Option Addr × SegmentManager :=
  match sm.mFailedSegmentList with
  | [] => (none, sm)
  | seg :: rest => (some seg, { sm with mFailedSegmentList := rest })

/-- The backward walk of `add_sent_segment_to_list`, over the reversed list. -/
def insertSent (seqNo : Addr → UInt32) (segToAdd : Addr) : List Addr → List Addr
  | [] => [segToAdd]
  | segment :: rest =>
    if seqNo segment < seqNo segToAdd then segToAdd :: segment :: rest
    else if seqNo segment > seqNo segToAdd then segment :: insertSent seqNo segToAdd rest
    else segment :: rest

def addSentSegmentToList (sm : SegmentManager) (segType : SegSeqNumType) (segToAdd : Addr) :
    SegmentManager :=
  { sm with
    mSentSegmentLists := Function.update sm.mSentSegmentLists segType
      (insertSent sm.seqNo segToAdd (sm.mSentSegmentLists segType).reverse).reverse }

/-- One of the two loops of `deallocate_sent_segments_by_peer`: the part of the sent list that
stays, and the manager with the rest given back. -/
def deallocateLoop (lastSeqNo : UInt32) : List Addr → SegmentManager →
    Except Stop (List Addr × SegmentManager)
  | [], sm => .ok ([], sm)
  | segment :: rest, sm =>
    if sm.seqNo segment ≤ lastSeqNo then
      match sm.addFreeSegmentToList segment with
      | .error e => .error e
      | .ok sm' => deallocateLoop lastSeqNo rest sm'
    else
      match deallocateLoop lastSeqNo rest sm with
      | .error e => .error e
      | .ok (kept, sm') => .ok (segment :: kept, sm')

/-- The loop over the sent list of one type. `last_seq_no >= 0` holds for every `uint32_t`. -/
def deallocateSentSegments (sm : SegmentManager) (segType : SegSeqNumType) (lastSeqNo : UInt32) :
    Except Stop SegmentManager :=
  match deallocateLoop lastSeqNo (sm.mSentSegmentLists segType) sm with
  | .error e => .error e
  | .ok (kept, sm') =>
    .ok { sm' with mSentSegmentLists := Function.update sm'.mSentSegmentLists segType kept }

def deallocateSentSegmentsByPeer (sm : SegmentManager) (lastSeqNoControl lastSeqNoData : UInt32) :
    Except Stop SegmentManager :=
  match sm.deallocateSentSegments .kSNControl lastSeqNoControl with
  | .error e => .error e
  | .ok sm =>
    match sm.deallocateSentSegments .kSNData lastSeqNoData with
    | .error e => .error e
    | .ok sm => sm.shrinkIfBig

/-- The `int` values of `SegSeqNumType`. -/
def segSeqNumType? : Int → Option SegSeqNumType
  | 0 => some .kSNData
  | 1 => some .kSNControl
  | _ => none

/-- `seq_no >= seq_no_start && seq_no <= seq_no_end`, compared as unsigned numbers. -/
def isRequested (sm : SegmentManager) (seqNoStart seqNoEnd : UInt32) (segment : Addr) : Bool :=
  sm.seqNo segment ≥ seqNoStart ∧ sm.seqNo segment ≤ seqNoEnd

/-- The sent segments that are asked for are appended to the failed list; they stay in the sent
list. -/
def retransmitMissingSegmentsByPeer (sm : SegmentManager) (segType : Int)
    (seqNoStart seqNoEnd : UInt32) : SegmentManager :=
  match segSeqNumType? segType with
  | none => sm
  | some t =>
    { sm with
      mFailedSegmentList := sm.mFailedSegmentList ++
        (sm.mSentSegmentLists t).filter (sm.isRequested seqNoStart seqNoEnd) }

/-! ## Where segments are -/

section Places

open Ownership

variable {sm sm' : SegmentManager} {seg fresh : Addr}

def sendQueued (sm : SegmentManager) : Multiset Addr :=
  ((sm.mSegmentQueues .kSQSendData).segments : Multiset Addr) +
    ((sm.mSegmentQueues .kSQSendControl).segments : Multiset Addr)

def recvQueued (sm : SegmentManager) : Multiset Addr :=
  ((sm.mSegmentQueues .kSQRecvData).segments : Multiset Addr) +
    ((sm.mSegmentQueues .kSQRecvControl).segments : Multiset Addr)

def filed (sm : SegmentManager) : Multiset Addr :=
  (sm.mSentSegmentLists .kSNData : Multiset Addr) +
    (sm.mSentSegmentLists .kSNControl : Multiset Addr)

theorem mem_filed : seg ∈ sm.filed ↔ ∃ t, seg ∈ sm.mSentSegmentLists t := by
  simp only [filed, Multiset.mem_add, Multiset.mem_coe]
  constructor
  · rintro (h | h)
    · exact ⟨_, h⟩
    · exact ⟨_, h⟩
  · rintro ⟨t, h⟩
    cases t with
    | kSNData => exact .inl h
    | kSNControl => exact .inr h

theorem enqueue_ok {queueType : SegQueueType} (h : sm.enqueue queueType seg = .ok sm') :
    ∃ b q, (sm.mSegmentQueues queueType).enqueue sm.seqNo seg = .ok (b, q) ∧
      sm' = { sm with mSegmentQueues := Function.update sm.mSegmentQueues queueType q } := by
  rw [enqueue] at h
  split at h
  · cases h
  · next b q hq => cases h; exact ⟨b, q, hq, rfl⟩

theorem enqueue_send {t : SegSeqNumType} (h : sm.enqueue (sendQueueType t) seg = .ok sm') :
    sm'.sendQueued = seg ::ₘ sm.sendQueued ∧ sm'.recvQueued = sm.recvQueued := by
  obtain ⟨b, q, hq, rfl⟩ := enqueue_ok h
  have hp := Multiset.coe_eq_coe.mpr (SegmentQueue.enqueue_segments hq)
  rw [← Multiset.cons_coe] at hp
  cases t <;> simp only [sendQueueType] at hp <;>
    simp [sendQueued, recvQueued, sendQueueType, Function.update, hp]

theorem enqueue_recv {isControl : Bool}
    (h : sm.enqueue (if isControl then .kSQRecvControl else .kSQRecvData) seg = .ok sm') :
    sm'.recvQueued = seg ::ₘ sm.recvQueued ∧ sm'.sendQueued = sm.sendQueued := by
  obtain ⟨b, q, hq, rfl⟩ := enqueue_ok h
  have hp := Multiset.coe_eq_coe.mpr (SegmentQueue.enqueue_segments hq)
  rw [← Multiset.cons_coe] at hp
  cases isControl <;> simp only [if_true, Bool.false_eq_true, if_false] at hp <;>
    simp [sendQueued, recvQueued, Function.update, hp]

theorem dequeue_ok {dequeueType : SegDequeueType} (h : sm.dequeue dequeueType = .ok (some seg, sm')) :
    ∃ queueType q, sm.getTargetQueueType dequeueType = some queueType ∧
      (sm.mSegmentQueues queueType).dequeue = .ok (seg, q) ∧
      sm' = { sm with mSegmentQueues := Function.update sm.mSegmentQueues queueType q } := by
  rw [dequeue] at h
  split at h
  · cases h
  · next queueType ht =>
    split at h
    · cases h
    · next seg' q hq => cases h; exact ⟨queueType, q, ht, hq, rfl⟩

theorem dequeue_send (h : sm.dequeue .kDeqSendControlData = .ok (some seg, sm')) :
    sm.sendQueued = seg ::ₘ sm'.sendQueued ∧ sm'.recvQueued = sm.recvQueued := by
  obtain ⟨queueType, q, ht, hq, rfl⟩ := dequeue_ok h
  have hp := congrArg (fun l : List Addr => (l : Multiset Addr)) (SegmentQueue.dequeue_segments hq)
  simp only [← Multiset.cons_coe] at hp
  rw [getTargetQueueType] at ht
  split at ht
  · cases ht
    simp [sendQueued, recvQueued, Function.update, hp]
  · split at ht
    · cases ht
      simp [sendQueued, recvQueued, Function.update, hp]
    · cases ht

theorem dequeue_recv {isControl : Bool}
    (h : sm.dequeue (if isControl then .kDeqRecvControl else .kDeqRecvData) = .ok (some seg, sm')) :
    sm.recvQueued = seg ::ₘ sm'.recvQueued ∧ sm'.sendQueued = sm.sendQueued := by
  obtain ⟨queueType, q, ht, hq, rfl⟩ := dequeue_ok h
  have hp := congrArg (fun l : List Addr => (l : Multiset Addr)) (SegmentQueue.dequeue_segments hq)
  simp only [← Multiset.cons_coe] at hp
  cases isControl <;> cases ht <;> simp [sendQueued, recvQueued, Function.update, hp]

/-! ## Free segments change hands -/

variable {P : List Addr → Multiset Addr → Prop} {own : Multiset Addr}

theorem popFreeSegment_ok (h : sm.popFreeSegment fresh = .ok (seg, sm')) :
    ∃ freeList allocated v,
      sm' = { sm with
        heap := Function.update sm.heap seg v
        allocated := allocated
        mFreeList := freeList } ∧
      ∀ {P : List Addr → Multiset Addr → Prop} {own : Multiset Addr}, Discipline P →
        P sm.allocated ((sm.mFreeList : Multiset Addr) + own) →
        P allocated (seg ::ₘ ((freeList : Multiset Addr) + own)) := by
  rw [popFreeSegment] at h
  split at h
  · next hf =>
    split at h
    · cases h
    · next hfresh =>
      cases h
      exact ⟨[], _, .zero, by rw [hf],
        fun hP he => by rw [hf] at he; exact hP.acquire he hfresh⟩
  · next seg' rest hf =>
    cases h
    refine ⟨rest, sm.allocated, _, rfl, fun _ he => ?_⟩
    rwa [hf, ← Multiset.cons_coe, Multiset.cons_add] at he

theorem shrinkFreeSegmentList_keeps (hP : Discipline P) {threshold : ℕ} (freeList : List Addr) :
    ∀ {allocated allocated' freeList' : List Addr},
      shrinkFreeSegmentList threshold freeList allocated = .ok (freeList', allocated') →
      P allocated ((freeList : Multiset Addr) + own) →
      P allocated' ((freeList' : Multiset Addr) + own) := by
  induction freeList with
  | nil =>
    intro allocated allocated' freeList' h he
    cases h
    exact he
  | cons toFree rest ih =>
    intro allocated allocated' freeList' h he
    rw [shrinkFreeSegmentList] at h
    split at h
    · split at h
      · rw [← Multiset.cons_coe, Multiset.cons_add] at he
        exact ih h (hP.release he)
      · cases h
    · cases h
      exact he

theorem shrinkIfBig_ok (h : sm.shrinkIfBig = .ok sm') :
    ∃ freeList allocated,
      sm' = { sm with allocated := allocated, mFreeList := freeList } ∧
      ∀ {P : List Addr → Multiset Addr → Prop} {own : Multiset Addr}, Discipline P →
        P sm.allocated ((sm.mFreeList : Multiset Addr) + own) →
        P allocated ((freeList : Multiset Addr) + own) := by
  rw [shrinkIfBig] at h
  split at h
  · split at h
    · cases h
    · next freeList allocated hs =>
      cases h
      exact ⟨freeList, allocated, rfl, fun hP => shrinkFreeSegmentList_keeps hP _ hs⟩
  · cases h
    exact ⟨_, _, rfl, fun _ => id⟩

theorem addFreeSegmentToList_ok (h : sm.addFreeSegmentToList seg = .ok sm') :
    ∃ freeList allocated,
      sm' = { sm with allocated := allocated, mFreeList := freeList } ∧
      ∀ {P : List Addr → Multiset Addr → Prop} {own : Multiset Addr}, Discipline P →
        P sm.allocated (seg ::ₘ ((sm.mFreeList : Multiset Addr) + own)) →
        P allocated ((freeList : Multiset Addr) + own) := by
  obtain ⟨freeList, allocated, rfl, hex⟩ := shrinkIfBig_ok h
  refine ⟨freeList, allocated, rfl, fun hP he => hex hP ?_⟩
  rwa [← Multiset.cons_coe, Multiset.cons_add]

/-! ## Sent lists -/

/-- The loop gives back the acknowledged segments and keeps the others. The invariant survives if
no copy of an acknowledged segment is out. -/
theorem deallocateLoop_ok {lastSeqNo : UInt32} (sent : List Addr) :
    ∀ {sm sm' : SegmentManager} {kept : List Addr},
      deallocateLoop lastSeqNo sent sm = .ok (kept, sm') →
      kept = sent.filter (fun p => ¬ sm.seqNo p ≤ lastSeqNo) ∧ ∃ freeList allocated,
        sm' = { sm with allocated := allocated, mFreeList := freeList } ∧
        ∀ {own shared copies : Multiset Addr},
          (∀ p ∈ sent, sm.seqNo p ≤ lastSeqNo → p ∉ copies) →
          Exclusive sm.allocated ((sm.mFreeList : Multiset Addr) + own) (sent + shared) copies →
          Exclusive allocated ((freeList : Multiset Addr) + own) (kept + shared) copies := by
  induction sent with
  | nil =>
    intro sm sm' kept h
    cases h
    exact ⟨rfl, _, _, rfl, fun _ he => he⟩
  | cons segment rest ih =>
    intro sm sm' kept h
    rw [deallocateLoop] at h
    split at h
    · next hle =>
      split at h
      · cases h
      · next sm₁ h₁ =>
        obtain ⟨freeList₁, allocated₁, rfl, hex₁⟩ := addFreeSegmentToList_ok h₁
        obtain ⟨rfl, freeList, allocated, rfl, hex⟩ := ih h
        have hacked : decide (¬ sm.seqNo segment ≤ lastSeqNo) = false := by simpa using hle
        refine ⟨?_, freeList, allocated, rfl, fun {own shared copies} hc he => ?_⟩
        · rw [List.filter_cons_of_neg (by simpa using hle)]
          rfl
        · refine hex (fun p hp => hc p (List.mem_cons_of_mem _ hp))
            (hex₁ (Exclusive.discipline _ _) ?_)
          rw [← Multiset.cons_coe, Multiset.cons_add] at he
          exact he.reclaim (hc segment List.mem_cons_self hle)
    · next hgt =>
      split at h
      · cases h
      · next kept₁ sm₁ h₁ =>
        cases h
        obtain ⟨rfl, freeList, allocated, rfl, hex⟩ := ih h₁
        refine ⟨?_, freeList, allocated, rfl, fun {own shared copies} hc he => ?_⟩
        · rw [List.filter_cons_of_pos (by simpa using hgt)]
        · rw [← Multiset.cons_coe, Multiset.cons_add, ← Multiset.add_cons] at he ⊢
          exact hex (fun p hp => hc p (List.mem_cons_of_mem _ hp)) he

theorem deallocateSentSegments_ok {t : SegSeqNumType} {lastSeqNo : UInt32}
    (h : sm.deallocateSentSegments t lastSeqNo = .ok sm') :
    ∃ freeList allocated,
      sm' = { sm with
        allocated := allocated
        mFreeList := freeList
        mSentSegmentLists := Function.update sm.mSentSegmentLists t
          ((sm.mSentSegmentLists t).filter fun p => ¬ sm.seqNo p ≤ lastSeqNo) } ∧
      ∀ {own copies : Multiset Addr},
        (∀ p ∈ sm.mSentSegmentLists t, sm.seqNo p ≤ lastSeqNo → p ∉ copies) →
        Exclusive sm.allocated ((sm.mFreeList : Multiset Addr) + own) sm.filed copies →
        Exclusive allocated ((freeList : Multiset Addr) + own) sm'.filed copies := by
  rw [deallocateSentSegments] at h
  split at h
  · cases h
  · next kept sm₁ h₁ =>
    cases h
    obtain ⟨rfl, freeList, allocated, rfl, hex⟩ := deallocateLoop_ok _ h₁
    refine ⟨freeList, allocated, rfl, fun {own copies} hc he => ?_⟩
    cases t with
    | kSNData => simpa [filed, Function.update] using hex hc he
    | kSNControl =>
      rw [filed, Multiset.add_comm (sm.mSentSegmentLists .kSNData : Multiset Addr)] at he
      have hfiled : ∀ kept : List Addr, (kept : Multiset Addr) + sm.mSentSegmentLists .kSNData =
          sm.mSentSegmentLists .kSNData + (kept : Multiset Addr) := fun _ => Multiset.add_comm _ _
      have hres := hex hc he
      rw [hfiled] at hres
      simpa [filed, Function.update] using hres

/-- The number up to which a QueueStatus acknowledges the segments of one type. -/
def lastSeqNo (lastSeqNoControl lastSeqNoData : UInt32) : SegSeqNumType → UInt32
  | .kSNData => lastSeqNoData
  | .kSNControl => lastSeqNoControl

theorem deallocateSentSegmentsByPeer_ok {control data : UInt32}
    (h : sm.deallocateSentSegmentsByPeer control data = .ok sm') :
    ∃ freeList allocated,
      sm' = { sm with
        allocated := allocated
        mFreeList := freeList
        mSentSegmentLists := fun t =>
          (sm.mSentSegmentLists t).filter fun p => ¬ sm.seqNo p ≤ lastSeqNo control data t } ∧
      ∀ {own copies : Multiset Addr},
        (∀ t, ∀ p ∈ sm.mSentSegmentLists t, sm.seqNo p ≤ lastSeqNo control data t → p ∉ copies) →
        Exclusive sm.allocated ((sm.mFreeList : Multiset Addr) + own) sm.filed copies →
        Exclusive allocated ((freeList : Multiset Addr) + own) sm'.filed copies := by
  rw [deallocateSentSegmentsByPeer] at h
  split at h
  · cases h
  · next sm₁ h₁ =>
    split at h
    · cases h
    · next sm₂ h₂ =>
      obtain ⟨freeList₁, allocated₁, rfl, hex₁⟩ := deallocateSentSegments_ok h₁
      obtain ⟨freeList₂, allocated₂, rfl, hex₂⟩ := deallocateSentSegments_ok h₂
      obtain ⟨freeList, allocated, rfl, hex⟩ := shrinkIfBig_ok h
      refine ⟨freeList, allocated, ?_, fun {own copies} hc he => ?_⟩
      · congr 1
        funext t
        cases t <;> simp [Function.update, seqNo, lastSeqNo]
      · exact hex (Exclusive.discipline _ _)
          (hex₂ (fun p hp => hc .kSNData p (by simpa [Function.update] using hp))
            (hex₁ (hc .kSNControl) he))

/-- On a list in descending order the walk finds the number, or inserts in order. -/
theorem insertSent_spec (seg : Addr) {num : Addr → UInt32} {l : List Addr}
    (hs : l.Pairwise fun a b => num b < num a) :
    ((∃ p ∈ l, num p = num seg) ∧ insertSent num seg l = l) ∨
      ((∀ p ∈ l, num p ≠ num seg) ∧ (insertSent num seg l).Perm (seg :: l) ∧
        (insertSent num seg l).Pairwise fun a b => num b < num a) := by
  induction l with
  | nil => exact .inr ⟨by simp, .refl _, by simp [insertSent]⟩
  | cons segment rest ih =>
    have hrest : ∀ p ∈ rest, num p < num segment := fun p hp => List.rel_of_pairwise_cons hs hp
    rw [insertSent]
    split
    · next hlt =>
      refine .inr ⟨fun p hp he => ?_, .refl _, ?_⟩
      · rcases List.mem_cons.mp hp with rfl | hp
        · exact absurd he (UInt32.ne_of_lt hlt)
        · exact absurd he (UInt32.ne_of_lt (UInt32.lt_trans (hrest p hp) hlt))
      · refine List.pairwise_cons.mpr ⟨fun p hp => ?_, hs⟩
        rcases List.mem_cons.mp hp with rfl | hp
        · exact hlt
        · exact UInt32.lt_trans (hrest p hp) hlt
    · next hge =>
      split
      · next hgt =>
        rcases ih hs.of_cons with ⟨⟨p, hp, he⟩, hi⟩ | ⟨hne, hperm, hsort⟩
        · exact .inl ⟨⟨p, List.mem_cons_of_mem _ hp, he⟩, by rw [hi]⟩
        · refine .inr ⟨fun p hp he => ?_, (hperm.cons segment).trans (.swap seg segment rest), ?_⟩
          · rcases List.mem_cons.mp hp with rfl | hp
            · exact absurd he.symm (UInt32.ne_of_lt hgt)
            · exact hne p hp he
          · refine List.pairwise_cons.mpr ⟨fun p hp => ?_, hsort⟩
            rcases List.mem_cons.mp (hperm.mem_iff.mp hp) with rfl | hp
            · exact hgt
            · exact hrest p hp
      · next hle =>
        have he : num segment = num seg :=
          UInt32.le_antisymm (UInt32.not_lt.mp hle) (UInt32.not_lt.mp hge)
        exact .inl ⟨⟨segment, List.mem_cons_self, he⟩, rfl⟩

/-- Filing a segment in a sorted sent list: it is there already, or it gets its place. -/
theorem addSentSegmentToList_spec (seg : Addr) {t : SegSeqNumType}
    (hs : (sm.mSentSegmentLists t).Pairwise fun a b => sm.seqNo a < sm.seqNo b) :
    ∃ l, sm.addSentSegmentToList t seg =
        { sm with mSentSegmentLists := Function.update sm.mSentSegmentLists t l } ∧
      (((∃ p ∈ sm.mSentSegmentLists t, sm.seqNo p = sm.seqNo seg) ∧ l = sm.mSentSegmentLists t) ∨
        ((∀ p ∈ sm.mSentSegmentLists t, sm.seqNo p ≠ sm.seqNo seg) ∧
          l.Perm (seg :: sm.mSentSegmentLists t) ∧
          l.Pairwise fun a b => sm.seqNo a < sm.seqNo b)) := by
  refine ⟨_, rfl, ?_⟩
  rcases insertSent_spec seg (List.pairwise_reverse.mpr hs) with
    ⟨⟨p, hp, he⟩, hi⟩ | ⟨hne, hperm, hsort⟩
  · exact .inl ⟨⟨p, List.mem_reverse.mp hp, he⟩, by rw [hi, List.reverse_reverse]⟩
  · refine .inr ⟨fun p hp => hne p (List.mem_reverse.mpr hp), ?_, List.pairwise_reverse.mpr hsort⟩
    exact (List.reverse_perm _).trans (hperm.trans ((List.reverse_perm _).cons seg))

end Places

end SegmentManager
end Linux
end VirtualConnection
