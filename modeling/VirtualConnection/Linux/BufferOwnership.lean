import Mathlib.Data.List.Perm.Basic
import VirtualConnection.Linux.Traffic

/-!
# Linux.BufferOwnership

Where the segments of a segment manager are while its threads work. A segment moves through the
free list, the hand of a caller, a queue, the hand of a sender thread, the failed list and the sent
lists; `Owned` says that it is at one of these places only. The exception are the sent lists: a
Retransmit puts a second pointer to a sent segment into the failed list and leaves it where it is.

A QueueStatus gives sent segments back to the free list and does not look for such copies.
`NoCopyOut` is what saves it: with it every step keeps `Owned`, and with `Owned` the bytes of a
segment on its way stay as they were written (`Intact`).

* `buffers_unshared`: what holds in every run in which no QueueStatus meets a copy.
* `freed_while_failed`: the shortest run in which one does.
-/

namespace VirtualConnection
namespace Linux

open Bytes Ownership

/-! ## Stamps -/

/-- `seg` is `w` up to the media timestamp. -/
def Stamped (w seg : Segment) : Prop := seg = w ∨ ∃ sec usec, seg = w.stampMedia sec usec

theorem Segment.stampMedia_stampMedia (w : Segment) (sec usec sec' usec' : UInt32) :
    (w.stampMedia sec usec).stampMedia sec' usec' = w.stampMedia sec' usec' := by
  have hdata : 20 + (toBE 4 sec.toNat ++ toBE 4 usec.toNat).length ≤ w.data.1.length := by
    rw [w.data.2]; simp [segmentDataSize, kSegSize, kSegHeaderSize]
  simp only [stampMedia, Area.store]
  congr 2
  exact overwrite_overwrite hdata (by simp)

theorem Stamped.stampMedia {w seg : Segment} (h : Stamped w seg) (sec usec : UInt32) :
    seg.stampMedia sec usec = w.stampMedia sec usec := by
  rcases h with rfl | ⟨sec', usec', rfl⟩
  · rfl
  · exact w.stampMedia_stampMedia sec' usec' sec usec

theorem Stamped.seqNo {w seg : Segment} (h : Stamped w seg) : seg.seqNo = w.seqNo := by
  rcases h with rfl | ⟨sec, usec, rfl⟩ <;> rfl

theorem Stamped.isControl {w seg : Segment} (h : Stamped w seg) : seg.isControl = w.isControl := by
  rcases h with rfl | ⟨sec, usec, rfl⟩ <;> rfl

theorem Stamped.trans {w seg seg' : Segment} (h : Stamped w seg) (h' : Stamped seg seg') :
    Stamped w seg' := by
  rcases h' with rfl | ⟨sec, usec, rfl⟩
  · exact h
  · exact .inr ⟨sec, usec, h.stampMedia sec usec⟩

/-- A frame carries what was written for its stream and number, with some media timestamp. -/
def Transmission.WasWritten (tr : Transmission) (written : List Segment) : Prop :=
  ∃ w ∈ written, w.numType = tr.segType ∧ w.seqNo = tr.seqNo ∧
    ∃ sec usec, tr.frame = (w.stampMedia sec usec).data

namespace Traffic

/-! ## Places -/

def atHand (s : Traffic) : Multiset Addr :=
  (s.calls.filterMap Call.seg : Multiset Addr) + (s.receivers : Multiset Addr) +
    (s.consumers : Multiset Addr)

/-- The places where a segment is alone, apart from the free list. -/
def alone (s : Traffic) : Multiset Addr := s.atHand + s.sm.sendQueued + s.sm.recvQueued

/-- The failed list and the segments in the hands of the sender threads. -/
def lent (s : Traffic) : Multiset Addr :=
  (s.sm.mFailedSegmentList : Multiset Addr) + (s.senders.map Pass.segmentToSend : Multiset Addr)

/-- The segment is on its way to the peer. -/
def inUse (s : Traffic) (p : Addr) : Prop := p ∈ s.sm.sendQueued ∨ p ∈ s.sm.filed ∨ p ∈ s.lent

/-- No segment is at two places, except for copies of sent segments. -/
def Owned (s : Traffic) : Prop :=
  Exclusive s.sm.allocated ((s.sm.mFreeList : Multiset Addr) + s.alone) s.sm.filed s.lent

/-- The segments on their way to the peer hold what was written, and the frames that went out held
it too. -/
structure Intact (s : Traffic) : Prop where
  sorted : ∀ t, (s.sm.mSentSegmentLists t).Pairwise fun a b => s.sm.seqNo a < s.sm.seqNo b
  sentType : ∀ t, ∀ p ∈ s.sm.mSentSegmentLists t, (s.sm.heap p).numType = t
  passType : ∀ pass ∈ s.senders, (s.sm.heap pass.segmentToSend).isControl = pass.isControl
  content : ∀ p, s.inUse p → ∃ w ∈ s.written, Stamped w (s.sm.heap p)
  frames : ∀ tr ∈ s.transmitted, tr.WasWritten s.written

theorem owned_init : Owned init := by
  have h : (init.sm.mFreeList : Multiset Addr) + init.alone = 0 := rfl
  rw [Owned, h]
  exact Exclusive.empty

variable {s s' : Traffic}

theorem inUse_pass {pass : Pass} (h : pass ∈ s.senders) : s.inUse pass.segmentToSend :=
  .inr (.inr (Multiset.mem_add.mpr (.inr (Multiset.mem_coe.mpr (List.mem_map_of_mem h)))))

/-- Segments may change places as long as those on their way keep their contents, and those that
set out hold what was written. -/
theorem Intact.mono (h : Intact s)
    (hheap : ∀ p, s.inUse p → Stamped (s.sm.heap p) (s'.sm.heap p))
    (hsent : ∀ t, (s'.sm.mSentSegmentLists t).Sublist (s.sm.mSentSegmentLists t))
    (hpass : ∀ pass ∈ s'.senders, s.inUse pass.segmentToSend ∧
      (s.sm.heap pass.segmentToSend).isControl = pass.isControl)
    (hin : ∀ p, s'.inUse p → s.inUse p ∨ ∃ w ∈ s'.written, Stamped w (s'.sm.heap p))
    (hw : s.written ⊆ s'.written)
    (htr : ∀ tr ∈ s'.transmitted, tr ∈ s.transmitted ∨ tr.WasWritten s'.written) : Intact s' := by
  have hsame : ∀ t, ∀ p ∈ s'.sm.mSentSegmentLists t, Stamped (s.sm.heap p) (s'.sm.heap p) :=
    fun t p hp => hheap p (.inr (.inl (SegmentManager.mem_filed.mpr ⟨t, (hsent t).subset hp⟩)))
  refine ⟨fun t => ?_, fun t p hp => ?_, fun pass hp => ?_, fun p hp => ?_, fun tr ht => ?_⟩
  · refine ((h.sorted t).sublist (hsent t)).imp_of_mem fun {a b} ha hb hab => ?_
    rwa [SegmentManager.seqNo, SegmentManager.seqNo, (hsame t a ha).seqNo, (hsame t b hb).seqNo]
  · rw [Segment.numType, (hsame t p hp).isControl]
    exact h.sentType t p ((hsent t).subset hp)
  · rw [(hheap _ (hpass pass hp).1).isControl]
    exact (hpass pass hp).2
  · rcases hin p hp with hp | hp
    · obtain ⟨w, hmem, hst⟩ := h.content p hp
      exact ⟨w, hw hmem, hst.trans (hheap p hp)⟩
    · exact hp
  · rcases htr tr ht with ht | ht
    · obtain ⟨w, hmem, hrest⟩ := h.frames tr ht
      exact ⟨w, hw hmem, hrest⟩
    · exact ht

theorem Intact.congr (h : Intact s) (hheap : ∀ p, s.inUse p → s'.sm.heap p = s.sm.heap p)
    (hsent : s'.sm.mSentSegmentLists = s.sm.mSentSegmentLists) (hpass : s'.senders = s.senders)
    (hfailed : s'.sm.mFailedSegmentList = s.sm.mFailedSegmentList)
    (hqueued : s'.sm.sendQueued = s.sm.sendQueued) (hw : s'.written = s.written)
    (htr : s'.transmitted = s.transmitted) : Intact s' := by
  refine h.mono (fun p hp => .inl (hheap p hp)) (fun t => by rw [hsent]) (fun pass hp => ?_)
    (fun p hp => .inl ?_) (by rw [hw]; exact List.Subset.refl _) (fun tr ht => .inl (htr ▸ ht))
  · rw [hpass] at hp
    exact ⟨inUse_pass hp, h.passType pass hp⟩
  · simpa only [inUse, lent, SegmentManager.filed, hsent, hpass, hfailed, hqueued] using hp

/-! ## Lists of hands -/

theorem exists_split {α : Type*} {l : List α} {i : ℕ} {a : α} (h : l[i]? = some a) :
    ∃ pre post, l = pre ++ a :: post ∧ (∀ b, l.set i b = pre ++ b :: post) ∧
      l.eraseIdx i = pre ++ post := by
  obtain ⟨hi, rfl⟩ := List.getElem?_eq_some_iff.mp h
  refine ⟨l.take i, l.drop (i + 1), ?_, fun b => ?_, ?_⟩
  · rw [List.getElem_cons_drop, List.take_append_drop]
  · rw [List.set_eq_take_append_cons_drop, if_pos hi]
  · rw [List.eraseIdx_eq_take_drop_succ]

theorem coe_eraseIdx {l : List Addr} {k : ℕ} {seg : Addr} (h : l[k]? = some seg) :
    (l : Multiset Addr) = seg ::ₘ (l.eraseIdx k : Multiset Addr) := by
  obtain ⟨pre, post, hl, -, he⟩ := exists_split h
  rw [he, hl, ← Multiset.coe_add, ← Multiset.cons_coe, Multiset.add_cons, Multiset.coe_add]

theorem callHands_pop {calls : List Call} {i : ℕ} {call call' : SendCall} {base : UInt32} {seg : Addr}
    (h : calls[i]? = some ⟨call, base, none⟩) :
    ((calls.set i ⟨call', base, some seg⟩).filterMap Call.seg : Multiset Addr) =
      seg ::ₘ (calls.filterMap Call.seg : Multiset Addr) := by
  obtain ⟨pre, post, hl, hs, -⟩ := exists_split h
  rw [hs, hl, Multiset.cons_coe]
  simp [List.filterMap_append]

theorem callHands_push {calls : List Call} {i : ℕ} {call : SendCall} (call' : SendCall)
    {base : UInt32} {seg : Addr} (h : calls[i]? = some ⟨call, base, some seg⟩) :
    (calls.filterMap Call.seg : Multiset Addr) =
      seg ::ₘ ((calls.set i ⟨call', base, none⟩).filterMap Call.seg : Multiset Addr) := by
  obtain ⟨pre, post, hl, hs, -⟩ := exists_split h
  rw [hs, hl, Multiset.cons_coe]
  simp [List.filterMap_append]

/-! ## Ownership, label by label -/

theorem owned_reserve (h : Owned s) (data : Packet) (isControl : Bool) (sec usec : UInt32) :
    Owned (s.reserve data isControl sec usec) := by
  have ha : (s.reserve data isControl sec usec).alone = s.alone := by
    simp [alone, atHand, reserve, SegmentManager.getNextSeqNo, SegmentManager.sendQueued,
      SegmentManager.recvQueued]
  rw [Owned, ha]
  exact h

theorem owned_pop {i : ℕ} {fresh : Addr} (h : Owned s) (hs : s.pop i fresh = .ok s') :
    Owned s' := by
  obtain ⟨call, base, seg, sm, hc, -, hp, rfl⟩ := pop_ok hs
  obtain ⟨freeList, allocated, v, rfl, hex⟩ := SegmentManager.popFreeSegment_ok hp
  refine (hex (Exclusive.discipline _ _) h).congr ?_ rfl rfl
  simp only [alone, atHand, callHands_pop hc, Multiset.add_cons, Multiset.cons_add]
  rfl

theorem owned_push {i : ℕ} (h : Owned s) (hs : s.push i = .ok s') : Owned s' := by
  obtain ⟨call, base, seg, sm, hc, he, rfl⟩ := push_ok hs
  obtain ⟨hsend, hrecv⟩ := SegmentManager.enqueue_send he
  obtain ⟨b, q, -, rfl⟩ := SegmentManager.enqueue_ok he
  refine h.congr ?_ rfl rfl
  simp only [alone, atHand, callHands_push call.next hc, hsend, hrecv,
    Multiset.add_cons, Multiset.cons_add]
  rfl

theorem owned_takeFailed {adapter : ℕ} (h : Owned s) (hs : s.takeFailed adapter = .ok s') :
    Owned s' := by
  obtain ⟨seg, rest, hf, rfl⟩ := takeFailed_ok hs
  refine h.congr rfl rfl ?_
  simp only [lent, hf, startPass, List.map_append, List.map_cons, List.map_nil,
    ← Multiset.coe_add, ← Multiset.cons_coe, Multiset.add_cons, Multiset.cons_add,
    Multiset.coe_nil, Multiset.add_zero]

theorem owned_takeQueued {adapter : ℕ} (h : Owned s) (hs : s.takeQueued adapter = .ok s') :
    Owned s' := by
  obtain ⟨seg, sm, hd, rfl⟩ := takeQueued_ok hs
  obtain ⟨hsend, hrecv⟩ := SegmentManager.dequeue_send hd
  obtain ⟨queueType, q, -, -, rfl⟩ := SegmentManager.dequeue_ok hd
  rw [Owned, alone, hsend, ← hrecv] at h
  simp only [Multiset.add_cons, Multiset.cons_add] at h
  refine h.pass.congr rfl rfl ?_
  simp only [lent, startPass, List.map_append, List.map_cons, List.map_nil,
    ← Multiset.coe_add, ← Multiset.cons_coe, Multiset.add_cons, Multiset.coe_nil,
    Multiset.add_zero]

theorem owned_transmit {k : ℕ} {sec usec : UInt32} {result : SendResult} (h : Owned s)
    (hs : s.transmit k sec usec result = .ok s') : Owned s' := by
  obtain ⟨adapter, seg, isControl, hk, rfl⟩ := transmit_ok hs
  obtain ⟨pre, post, hl, hset, -⟩ := exists_split hk
  refine h.congr rfl rfl ?_
  rw [lent, lent, hset, hl]
  simp only [List.map_append, List.map_cons]

theorem lent_eraseIdx {k : ℕ} {pass : Pass} (hk : s.senders[k]? = some pass) :
    s.lent = pass.segmentToSend ::ₘ ((s.sm.mFailedSegmentList : Multiset Addr) +
      ((s.senders.eraseIdx k).map Pass.segmentToSend : Multiset Addr)) := by
  obtain ⟨pre, post, hl, -, he⟩ := exists_split hk
  rw [he, lent, hl]
  simp only [List.map_append, List.map_cons, ← Multiset.coe_add, ← Multiset.cons_coe,
    Multiset.add_cons]

theorem lent_fail {k : ℕ} {pass : Pass} (hk : s.senders[k]? = some pass) :
    lent { s with
      sm := s.sm.addFailedSegmentToList pass.segmentToSend
      senders := s.senders.eraseIdx k } = s.lent := by
  rw [lent_eraseIdx hk]
  simp only [lent, SegmentManager.addFailedSegmentToList, ← Multiset.coe_add, ← Multiset.cons_coe,
    Multiset.add_cons, Multiset.cons_add, Multiset.coe_nil, Multiset.add_zero]

theorem owned_fail {k : ℕ} {pass : Pass} (h : Owned s) (hk : s.senders[k]? = some pass) :
    Owned { s with
      sm := s.sm.addFailedSegmentToList pass.segmentToSend
      senders := s.senders.eraseIdx k } := by
  exact h.congr rfl rfl (lent_fail hk).symm

theorem coe_filed_update (sm : SegmentManager) (t : SegSeqNumType) {l : List Addr} {seg : Addr}
    (hp : l.Perm (seg :: sm.mSentSegmentLists t)) :
    SegmentManager.filed { sm with mSentSegmentLists := Function.update sm.mSentSegmentLists t l } =
      seg ::ₘ sm.filed := by
  have hl := Multiset.coe_eq_coe.mpr hp
  rw [← Multiset.cons_coe] at hl
  cases t <;> simp only [SegmentManager.filed, Function.update] <;> simp [hl]

/-- Filing a sent segment: a copy of one that is filed already is recognised by its number. -/
theorem owned_file {k : ℕ} (h : Owned s) (hi : Intact s) (hs : s.file k = .ok s') : Owned s' := by
  obtain ⟨pass, hk, ⟨-, rfl⟩ | ⟨-, rfl⟩⟩ := file_ok hs
  · obtain ⟨l, hadd, hl⟩ := SegmentManager.addSentSegmentToList_spec pass.segmentToSend
      (hi.sorted (seqNumType pass.isControl))
    rw [Owned, lent_eraseIdx hk] at h
    rw [hadd]
    rcases hl with ⟨-, rfl⟩ | ⟨hne, hperm, -⟩
    · rw [Function.update_eq_self]
      exact h.forget
    · refine (h.file fun hm => ?_).congr rfl (coe_filed_update _ _ hperm).symm rfl
      obtain ⟨t, ht⟩ := SegmentManager.mem_filed.mp hm
      have htype : t = seqNumType pass.isControl := by
        rw [← hi.sentType t _ ht, Segment.numType, hi.passType pass (List.mem_of_getElem? hk)]
      exact hne _ (htype ▸ ht) rfl
  · exact owned_fail h hk

/-- What a QueueStatus must meet: no copy of a segment that it acknowledges is out. -/
def NoCopyOut (s : Traffic) (control data : UInt32) : Prop :=
  ∀ t, ∀ p ∈ s.sm.mSentSegmentLists t, s.sm.seqNo p ≤ SegmentManager.lastSeqNo control data t →
    p ∉ s.sm.mFailedSegmentList ∧ ∀ pass ∈ s.senders, pass.segmentToSend ≠ p

instance (s : Traffic) (control data : UInt32) : Decidable (s.NoCopyOut control data) :=
  inferInstanceAs (Decidable (∀ t, ∀ p ∈ s.sm.mSentSegmentLists t,
    s.sm.seqNo p ≤ SegmentManager.lastSeqNo control data t →
      p ∉ s.sm.mFailedSegmentList ∧ ∀ pass ∈ s.senders, pass.segmentToSend ≠ p))

theorem owned_queueStatus {control data : UInt32} (h : Owned s) (hc : s.NoCopyOut control data)
    (hs : s.queueStatus control data = .ok s') : Owned s' := by
  obtain ⟨sm, hd, rfl⟩ := queueStatus_ok hs
  obtain ⟨freeList, allocated, rfl, hex⟩ := SegmentManager.deallocateSentSegmentsByPeer_ok hd
  refine hex (fun t p hp hle hm => ?_) h
  obtain ⟨hfail, hpass⟩ := hc t p hp hle
  rcases Multiset.mem_add.mp hm with hm | hm
  · exact hfail hm
  · obtain ⟨pass, hp', he⟩ := List.mem_map.mp hm
    exact hpass pass hp' he

theorem owned_retransmit (h : Owned s) (segType : Int) (seqNoStart seqNoEnd : UInt32) :
    Owned (s.retransmit segType seqNoStart seqNoEnd) := by
  have hlend : ∀ (l : List Addr) (copies : Multiset Addr), (∀ p ∈ l, p ∈ s.sm.filed) →
      Exclusive s.sm.allocated ((s.sm.mFreeList : Multiset Addr) + s.alone) s.sm.filed copies →
      Exclusive s.sm.allocated ((s.sm.mFreeList : Multiset Addr) + s.alone) s.sm.filed
        ((l : Multiset Addr) + copies) := by
    intro l copies hl he
    induction l with
    | nil => simpa using he
    | cons p l ih =>
      rw [← Multiset.cons_coe, Multiset.cons_add]
      exact (ih fun q hq => hl q (List.mem_cons_of_mem _ hq)).lend (hl p List.mem_cons_self)
  rw [retransmit, SegmentManager.retransmitMissingSegmentsByPeer]
  split
  · exact h
  · next t ht =>
    refine (hlend ((s.sm.mSentSegmentLists t).filter (s.sm.isRequested seqNoStart seqNoEnd)) _
      (fun p hp => SegmentManager.mem_filed.mpr ⟨t, List.mem_of_mem_filter hp⟩) h).congr rfl rfl ?_
    rw [lent, lent, ← Multiset.add_assoc, ← Multiset.coe_add,
      Multiset.add_comm (s.sm.mFailedSegmentList : Multiset Addr)]

theorem owned_recvPop {fresh : Addr} (h : Owned s) (hs : s.recvPop fresh = .ok s') :
    Owned s' := by
  obtain ⟨seg, sm, hp, rfl⟩ := recvPop_ok hs
  obtain ⟨freeList, allocated, v, rfl, hex⟩ := SegmentManager.popFreeSegment_ok hp
  refine (hex (Exclusive.discipline _ _) h).congr ?_ rfl rfl
  simp only [alone, atHand, ← Multiset.coe_add, ← Multiset.cons_coe, Multiset.coe_nil,
    Multiset.add_zero, Multiset.add_cons, Multiset.cons_add]
  rfl

theorem owned_recvDrop (h : Owned s) (k : ℕ) : Owned (s.recvDrop k) := by
  cases hk : s.receivers[k]? with
  | none =>
    have he : s.receivers.eraseIdx k = s.receivers :=
      List.eraseIdx_of_length_le (List.getElem?_eq_none_iff.mp hk)
    rw [recvDrop, he]
    exact h
  | some seg =>
    rw [Owned, alone, atHand, coe_eraseIdx hk] at h
    simp only [Multiset.add_cons, Multiset.cons_add] at h
    exact h.lose

theorem owned_recvPush {k : ℕ} {frame : Area segmentDataSize} (h : Owned s)
    (hs : s.recvPush k frame = .ok s') : Owned s' := by
  obtain ⟨seg, sm, hk, -, he, rfl⟩ := recvPush_ok hs
  obtain ⟨hrecv, hsend⟩ := SegmentManager.enqueue_recv he
  obtain ⟨b, q, -, rfl⟩ := SegmentManager.enqueue_ok he
  refine h.congr ?_ rfl rfl
  simp only [alone, atHand, coe_eraseIdx hk, hsend, hrecv, Multiset.add_cons, Multiset.cons_add]
  rfl

theorem owned_consume {isControl : Bool} (h : Owned s) (hs : s.consume isControl = .ok s') :
    Owned s' := by
  obtain ⟨seg, sm, hd, rfl⟩ := consume_ok hs
  obtain ⟨hrecv, hsend⟩ := SegmentManager.dequeue_recv hd
  obtain ⟨queueType, q, -, -, rfl⟩ := SegmentManager.dequeue_ok hd
  refine h.congr ?_ rfl rfl
  rw [alone, hrecv, ← hsend]
  simp only [alone, atHand, ← Multiset.coe_add, ← Multiset.cons_coe, Multiset.coe_nil,
    Multiset.add_zero, Multiset.add_cons, Multiset.cons_add]

theorem owned_consumerDrop (h : Owned s) (k : ℕ) : Owned (s.consumerDrop k) := by
  cases hk : s.consumers[k]? with
  | none =>
    have he : s.consumers.eraseIdx k = s.consumers :=
      List.eraseIdx_of_length_le (List.getElem?_eq_none_iff.mp hk)
    rw [consumerDrop, he]
    exact h
  | some seg =>
    rw [Owned, alone, atHand, coe_eraseIdx hk] at h
    simp only [Multiset.add_cons, Multiset.cons_add] at h
    exact h.lose

theorem owned_release {k : ℕ} (h : Owned s) (hs : s.release k = .ok s') : Owned s' := by
  obtain ⟨seg, sm, hk, ha, rfl⟩ := release_ok hs
  obtain ⟨freeList, allocated, rfl, hex⟩ := SegmentManager.addFreeSegmentToList_ok ha
  rw [Owned, alone, atHand, coe_eraseIdx hk] at h
  simp only [Multiset.add_cons, Multiset.cons_add] at h
  exact hex (Exclusive.discipline _ _) h

/-! ## Contents, label by label -/

/-- A segment that is alone somewhere is not on its way to the peer. -/
theorem not_inUse {own : Multiset Addr} {live : List Addr} {seg : Addr}
    (h : Exclusive live (seg ::ₘ own) s.sm.filed s.lent)
    (hq : ∀ p, p ∈ s.sm.sendQueued → p ∈ own) : ¬ s.inUse seg := by
  obtain ⟨ho, hs, hc⟩ := h.not_mem_of_cons
  rintro (hm | hm | hm)
  · exact ho (hq seg hm)
  · exact hs hm
  · exact hc hm

theorem mem_alone_of_sendQueued {p : Addr} (hp : p ∈ s.sm.sendQueued) : p ∈ s.alone :=
  Multiset.mem_add.mpr (.inl (Multiset.mem_add.mpr (.inr hp)))

/-- Writing to a segment that is not on its way leaves the others as they are. -/
theorem heap_update_of_not_inUse {seg p : Addr} {v : Segment} (h : ¬ s.inUse seg)
    (hp : s.inUse p) : Function.update s.sm.heap seg v p = s.sm.heap p :=
  Function.update_of_ne (fun he => h (by rwa [← he])) _ _

/-- A segment from the free list, or a new one, is not on its way. -/
theorem popFreeSegment_inUse {fresh seg : Addr} {sm : SegmentManager} (ho : Owned s)
    (hp : s.sm.popFreeSegment fresh = .ok (seg, sm)) :
    ∃ freeList allocated v,
      sm = { s.sm with
        heap := Function.update s.sm.heap seg v
        allocated := allocated
        mFreeList := freeList } ∧
      ∀ p, s.inUse p → Function.update s.sm.heap seg v p = s.sm.heap p := by
  obtain ⟨freeList, allocated, v, rfl, hex⟩ := SegmentManager.popFreeSegment_ok hp
  have hfree := not_inUse (hex (Exclusive.discipline _ _) ho) fun p hp =>
    Multiset.mem_add.mpr (.inr (mem_alone_of_sendQueued hp))
  exact ⟨freeList, allocated, v, rfl, fun p hp => heap_update_of_not_inUse hfree hp⟩

theorem intact_pop {i : ℕ} {fresh : Addr} (ho : Owned s) (h : Intact s)
    (hs : s.pop i fresh = .ok s') : Intact s' := by
  obtain ⟨call, base, seg, sm, hc, -, hp, rfl⟩ := pop_ok hs
  obtain ⟨freeList, allocated, v, rfl, hsame⟩ := popFreeSegment_inUse ho hp
  exact h.congr hsame rfl rfl rfl rfl rfl rfl

theorem intact_recvPop {fresh : Addr} (ho : Owned s) (h : Intact s)
    (hs : s.recvPop fresh = .ok s') : Intact s' := by
  obtain ⟨seg, sm, hp, rfl⟩ := recvPop_ok hs
  obtain ⟨freeList, allocated, v, rfl, hsame⟩ := popFreeSegment_inUse ho hp
  exact h.congr hsame rfl rfl rfl rfl rfl rfl

theorem not_inUse_call {i : ℕ} {call : SendCall} {base : UInt32} {seg : Addr} (ho : Owned s)
    (hc : s.calls[i]? = some ⟨call, base, some seg⟩) : ¬ s.inUse seg := by
  rw [Owned, alone, atHand, callHands_push call hc] at ho
  simp only [Multiset.add_cons, Multiset.cons_add] at ho
  exact not_inUse ho fun p hp =>
    Multiset.mem_add.mpr (.inr (Multiset.mem_add.mpr (.inl (Multiset.mem_add.mpr (.inr hp)))))

theorem intact_push {i : ℕ} (ho : Owned s) (h : Intact s) (hs : s.push i = .ok s') :
    Intact s' := by
  obtain ⟨call, base, seg, sm, hc, he, rfl⟩ := push_ok hs
  obtain ⟨hsend, -⟩ := SegmentManager.enqueue_send he
  obtain ⟨b, q, -, rfl⟩ := SegmentManager.enqueue_ok he
  have hfree := not_inUse_call ho hc
  refine h.mono (fun p hp => .inl (heap_update_of_not_inUse hfree hp)) (fun t => .refl _)
    (fun pass hp => ⟨inUse_pass hp, h.passType pass hp⟩) (fun p hp => ?_)
    (List.subset_append_left _ _) (fun tr ht => .inl ht)
  rcases hp with hp | hp | hp
  · rw [hsend, Multiset.mem_cons] at hp
    rcases hp with rfl | hp
    · exact .inr ⟨_, List.mem_append_right _ (List.mem_singleton_self _),
        .inl (Function.update_self _ _ _)⟩
    · exact .inl (.inl hp)
  · exact .inl (.inr (.inl hp))
  · exact .inl (.inr (.inr hp))

theorem not_inUse_receiver {k : ℕ} {seg : Addr} (ho : Owned s) (hk : s.receivers[k]? = some seg) :
    ¬ s.inUse seg := by
  rw [Owned, alone, atHand, coe_eraseIdx hk] at ho
  simp only [Multiset.add_cons, Multiset.cons_add] at ho
  exact not_inUse ho fun p hp =>
    Multiset.mem_add.mpr (.inr (Multiset.mem_add.mpr (.inl (Multiset.mem_add.mpr (.inr hp)))))

theorem intact_recvPush {k : ℕ} {frame : Area segmentDataSize} (ho : Owned s) (h : Intact s)
    (hs : s.recvPush k frame = .ok s') : Intact s' := by
  obtain ⟨seg, sm, hk, -, he, rfl⟩ := recvPush_ok hs
  obtain ⟨-, hsend⟩ := SegmentManager.enqueue_recv he
  obtain ⟨b, q, -, rfl⟩ := SegmentManager.enqueue_ok he
  exact h.congr (fun p hp => heap_update_of_not_inUse (not_inUse_receiver ho hk) hp)
    rfl rfl rfl hsend rfl rfl

theorem intact_consume {isControl : Bool} (h : Intact s) (hs : s.consume isControl = .ok s') :
    Intact s' := by
  obtain ⟨seg, sm, hd, rfl⟩ := consume_ok hs
  obtain ⟨-, hsend⟩ := SegmentManager.dequeue_recv hd
  obtain ⟨queueType, q, -, -, rfl⟩ := SegmentManager.dequeue_ok hd
  exact h.congr (fun p hp => rfl) rfl rfl rfl hsend rfl rfl

theorem intact_release {k : ℕ} (h : Intact s) (hs : s.release k = .ok s') : Intact s' := by
  obtain ⟨seg, sm, -, ha, rfl⟩ := release_ok hs
  obtain ⟨freeList, allocated, rfl, -⟩ := SegmentManager.addFreeSegmentToList_ok ha
  exact h.congr (fun p hp => rfl) rfl rfl rfl rfl rfl rfl

theorem intact_startPass (sm : SegmentManager) (adapter : ℕ) {seg : Addr} (h : Intact s)
    (hseg : s.inUse seg) (hheap : sm.heap = s.sm.heap)
    (hsent : sm.mSentSegmentLists = s.sm.mSentSegmentLists)
    (hin : ∀ p, (s.startPass sm adapter seg).inUse p → s.inUse p) :
    Intact (s.startPass sm adapter seg) := by
  refine h.mono (fun p _ => .inl (congrFun hheap p)) (fun t => ?_) (fun pass hp => ?_)
    (fun p hp => .inl (hin p hp)) (List.Subset.refl _) (fun tr ht => .inl ht)
  · rw [startPass, hsent]
  · rcases List.mem_append.mp hp with hp | hp
    · exact ⟨inUse_pass hp, h.passType pass hp⟩
    · obtain rfl := List.mem_singleton.mp hp
      exact ⟨hseg, rfl⟩

theorem intact_takeFailed {adapter : ℕ} (h : Intact s) (hs : s.takeFailed adapter = .ok s') :
    Intact s' := by
  obtain ⟨seg, rest, hf, rfl⟩ := takeFailed_ok hs
  have hseg : s.inUse seg := .inr (.inr (by simp [lent, hf]))
  refine intact_startPass _ _ h hseg rfl rfl fun p hp => ?_
  rcases hp with hp | hp | hp
  · exact .inl hp
  · exact .inr (.inl hp)
  · refine .inr (.inr ?_)
    simp only [lent, startPass, hf, List.map_append, Multiset.mem_add, Multiset.mem_coe,
      List.mem_append, List.map_cons, List.map_nil, List.mem_cons, List.not_mem_nil,
      or_false] at hp ⊢
    rcases hp with hp | hp | hp
    · exact .inl (.inr hp)
    · exact .inr hp
    · exact .inl (.inl hp)

theorem intact_takeQueued {adapter : ℕ} (h : Intact s) (hs : s.takeQueued adapter = .ok s') :
    Intact s' := by
  obtain ⟨seg, sm, hd, rfl⟩ := takeQueued_ok hs
  obtain ⟨hsend, -⟩ := SegmentManager.dequeue_send hd
  obtain ⟨queueType, q, -, -, rfl⟩ := SegmentManager.dequeue_ok hd
  have hseg : s.inUse seg := .inl (by rw [hsend]; exact Multiset.mem_cons_self _ _)
  have hpass := intact_startPass
    { s.sm with mSegmentQueues := Function.update s.sm.mSegmentQueues queueType q } adapter h hseg
    rfl rfl fun p hp => ?_
  · exact hpass.congr (fun p _ => rfl) rfl rfl rfl rfl rfl rfl
  rcases hp with hp | hp | hp
  · exact .inl (by rw [hsend]; exact Multiset.mem_cons_of_mem hp)
  · exact .inr (.inl hp)
  · simp only [lent, startPass, List.map_append, Multiset.mem_add, Multiset.mem_coe,
      List.mem_append, List.map_cons, List.map_nil, List.mem_singleton] at hp
    rcases hp with hp | hp | rfl
    · exact .inr (.inr (Multiset.mem_add.mpr (.inl hp)))
    · exact .inr (.inr (Multiset.mem_add.mpr (.inr hp)))
    · exact hseg

theorem intact_transmit {k : ℕ} {sec usec : UInt32} {result : SendResult} (h : Intact s)
    (hs : s.transmit k sec usec result = .ok s') : Intact s' := by
  obtain ⟨adapter, seg, isControl, hk, rfl⟩ := transmit_ok hs
  obtain ⟨pre, post, hl, hset, -⟩ := exists_split hk
  have hmem := List.mem_of_getElem? hk
  have hmap : (s.senders.set k ⟨adapter, seg, isControl, some result⟩).map Pass.segmentToSend =
      s.senders.map Pass.segmentToSend := by
    rw [hset, hl, List.map_append, List.map_append, List.map_cons, List.map_cons]
  refine h.mono (fun p hp => ?_) (fun t => .refl _) (fun pass hp => ?_) (fun p hp => .inl ?_)
    (List.Subset.refl _) (fun tr ht => ?_)
  · by_cases he : p = seg
    · subst he
      exact .inr ⟨sec, usec, Function.update_self _ _ _⟩
    · exact .inl (Function.update_of_ne he _ _)
  · rcases List.mem_or_eq_of_mem_set hp with hp | rfl
    · exact ⟨inUse_pass hp, h.passType pass hp⟩
    · have huse : s.inUse seg := inUse_pass hmem
      exact ⟨huse, h.passType ⟨adapter, seg, isControl, none⟩ hmem⟩
  · rw [inUse, lent, hmap] at hp
    exact hp
  · rcases List.mem_append.mp ht with ht | ht
    · exact .inl ht
    · obtain rfl := List.mem_singleton.mp ht
      obtain ⟨w, hw, hst⟩ := h.content seg (inUse_pass hmem)
      refine .inr ⟨w, hw, ?_, hst.seqNo.symm, sec, usec, by rw [hst.stampMedia]⟩
      rw [Segment.numType, ← hst.isControl, h.passType _ hmem]

theorem intact_fail {k : ℕ} {pass : Pass} (h : Intact s) (hk : s.senders[k]? = some pass) :
    Intact { s with
      sm := s.sm.addFailedSegmentToList pass.segmentToSend
      senders := s.senders.eraseIdx k } := by
  refine h.mono (fun p _ => .inl rfl) (fun t => .refl _) (fun pass' hp => ?_)
    (fun p hp => .inl ?_) (List.Subset.refl _) (fun tr ht => .inl ht)
  · have hp' := List.mem_of_mem_eraseIdx hp
    exact ⟨inUse_pass hp', h.passType _ hp'⟩
  · rcases hp with hp | hp | hp
    · exact .inl hp
    · exact .inr (.inl hp)
    · refine .inr (.inr ?_)
      rw [lent_eraseIdx hk]
      simp only [lent, SegmentManager.addFailedSegmentToList, Multiset.mem_add, Multiset.mem_coe,
        Multiset.mem_cons, List.mem_append, List.mem_singleton] at hp ⊢
      rcases hp with (hp | hp) | hp
      · exact .inr (.inl hp)
      · exact .inl hp
      · exact .inr (.inr hp)

theorem intact_file {k : ℕ} (h : Intact s) (hs : s.file k = .ok s') : Intact s' := by
  obtain ⟨pass, hk, ⟨-, rfl⟩ | ⟨-, rfl⟩⟩ := file_ok hs
  · obtain ⟨l, hadd, hl⟩ := SegmentManager.addSentSegmentToList_spec pass.segmentToSend
      (h.sorted (seqNumType pass.isControl))
    have hmem := List.mem_of_getElem? hk
    have hseg := inUse_pass hmem
    have hnew : ∀ p ∈ l, p = pass.segmentToSend ∨
        p ∈ s.sm.mSentSegmentLists (seqNumType pass.isControl) := by
      intro p hp
      rcases hl with ⟨-, rfl⟩ | ⟨-, hperm, -⟩
      · exact .inr hp
      · exact List.mem_cons.mp (hperm.mem_iff.mp hp)
    rw [hadd]
    have hlist : ∀ t, ∀ p ∈ Function.update s.sm.mSentSegmentLists (seqNumType pass.isControl) l t,
        (p = pass.segmentToSend ∧ t = seqNumType pass.isControl) ∨
          p ∈ s.sm.mSentSegmentLists t := by
      intro t p hp
      by_cases ht : t = seqNumType pass.isControl
      · subst ht
        rw [Function.update_self] at hp
        exact (hnew p hp).imp_left fun he => ⟨he, rfl⟩
      · rw [Function.update_of_ne ht] at hp
        exact .inr hp
    refine ⟨fun t => ?_, fun t p hp => ?_, fun pass' hp => ?_, fun p hp => ?_, h.frames⟩
    · by_cases ht : t = seqNumType pass.isControl
      · subst ht
        simp only [Function.update_self]
        rcases hl with ⟨-, rfl⟩ | ⟨-, -, hsort⟩
        · exact h.sorted _
        · exact hsort
      · simp only [Function.update_of_ne ht]
        exact h.sorted t
    · rcases hlist t p hp with ⟨rfl, rfl⟩ | hp
      · rw [Segment.numType, h.passType pass hmem]
      · exact h.sentType t p hp
    · exact h.passType pass' (List.mem_of_mem_eraseIdx hp)
    · refine h.content p ?_
      rcases hp with hp | hp | hp
      · exact .inl hp
      · obtain ⟨t, hp⟩ := SegmentManager.mem_filed.mp hp
        rcases hlist t p hp with ⟨rfl, -⟩ | hp
        · exact hseg
        · exact .inr (.inl (SegmentManager.mem_filed.mpr ⟨t, hp⟩))
      · refine .inr (.inr ?_)
        rw [lent_eraseIdx hk]
        exact Multiset.mem_cons_of_mem hp
  · exact intact_fail h hk

theorem intact_queueStatus {control data : UInt32} (h : Intact s)
    (hs : s.queueStatus control data = .ok s') : Intact s' := by
  obtain ⟨sm, hd, rfl⟩ := queueStatus_ok hs
  obtain ⟨freeList, allocated, rfl, -⟩ := SegmentManager.deallocateSentSegmentsByPeer_ok hd
  refine h.mono (fun p _ => .inl rfl) (fun t => List.filter_sublist)
    (fun pass hp => ⟨inUse_pass hp, h.passType pass hp⟩) (fun p hp => .inl ?_)
    (List.Subset.refl _) (fun tr ht => .inl ht)
  rcases hp with hp | hp | hp
  · exact .inl hp
  · obtain ⟨t, hp⟩ := SegmentManager.mem_filed.mp hp
    exact .inr (.inl (SegmentManager.mem_filed.mpr ⟨t, List.mem_of_mem_filter hp⟩))
  · exact .inr (.inr hp)

theorem intact_retransmit (h : Intact s) (segType : Int) (seqNoStart seqNoEnd : UInt32) :
    Intact (s.retransmit segType seqNoStart seqNoEnd) := by
  rw [retransmit, SegmentManager.retransmitMissingSegmentsByPeer]
  split
  · exact h
  · next t ht =>
    refine h.mono (fun p _ => .inl rfl) (fun t => .refl _)
      (fun pass hp => ⟨inUse_pass hp, h.passType pass hp⟩) (fun p hp => .inl ?_)
      (List.Subset.refl _) (fun tr ht => .inl ht)
    rcases hp with hp | hp | hp
    · exact .inl hp
    · exact .inr (.inl hp)
    · simp only [lent, Multiset.mem_add, Multiset.mem_coe, List.mem_append, List.mem_filter] at hp
      rcases hp with (hp | ⟨hp, -⟩) | hp
      · exact .inr (.inr (Multiset.mem_add.mpr (.inl hp)))
      · exact .inr (.inl (SegmentManager.mem_filed.mpr ⟨t, hp⟩))
      · exact .inr (.inr (Multiset.mem_add.mpr (.inr hp)))

/-! ## Every run -/

/-- A free segment is nowhere else, and what went out is what was written. -/
structure BuffersUnshared (s : Traffic) : Prop where
  once : s.sm.mFreeList.Nodup
  queues : ∀ p ∈ s.sm.mFreeList, ∀ t, p ∉ (s.sm.mSegmentQueues t).segments
  failed : ∀ p ∈ s.sm.mFreeList, p ∉ s.sm.mFailedSegmentList
  sent : ∀ p ∈ s.sm.mFreeList, ∀ t, p ∉ s.sm.mSentSegmentLists t
  callers : ∀ p ∈ s.sm.mFreeList, ∀ c ∈ s.calls, c.seg ≠ some p
  senders : ∀ p ∈ s.sm.mFreeList, ∀ pass ∈ s.senders, pass.segmentToSend ≠ p
  receivers : ∀ p ∈ s.sm.mFreeList, p ∉ s.receivers
  consumers : ∀ p ∈ s.sm.mFreeList, p ∉ s.consumers
  frames : ∀ tr ∈ s.transmitted, tr.WasWritten s.written

theorem buffersUnshared_of_owned (ho : Owned s) (hi : Intact s) : BuffersUnshared s := by
  have hcount : ∀ p ∈ s.sm.mFreeList, s.sm.mFreeList.count p = 1 ∧ p ∉ s.alone ∧
      p ∉ s.sm.filed ∧ p ∉ s.lent := by
    intro p hp
    obtain ⟨hone, hs, hc⟩ := Exclusive.alone ho (Multiset.mem_add.mpr (.inl hp))
    rw [Multiset.count_add, Multiset.coe_count] at hone
    have hfree := List.count_pos_iff.mpr hp
    exact ⟨by omega, Multiset.count_eq_zero.mp (by omega), hs, hc⟩
  have halone : ∀ p ∈ s.sm.mFreeList, p ∉ s.atHand ∧ p ∉ s.sm.sendQueued ∧ p ∉ s.sm.recvQueued := by
    intro p hp
    have h := (hcount p hp).2.1
    simp only [alone, Multiset.mem_add, not_or] at h
    exact ⟨h.1.1, h.1.2, h.2⟩
  have hhand : ∀ p ∈ s.sm.mFreeList, p ∉ s.calls.filterMap Call.seg ∧ p ∉ s.receivers ∧
      p ∉ s.consumers := by
    intro p hp
    have h := (halone p hp).1
    simp only [atHand, Multiset.mem_add, Multiset.mem_coe, not_or] at h
    exact ⟨h.1.1, h.1.2, h.2⟩
  have hlent : ∀ p ∈ s.sm.mFreeList, p ∉ s.sm.mFailedSegmentList ∧
      p ∉ s.senders.map Pass.segmentToSend := by
    intro p hp
    have h := (hcount p hp).2.2.2
    simpa only [lent, Multiset.mem_add, Multiset.mem_coe, not_or] using h
  refine ⟨?_, fun p hp t => ?_, fun p hp => (hlent p hp).1, fun p hp t ht => ?_,
    fun p hp c hc he => ?_, fun p hp pass hpass he => ?_, fun p hp => (hhand p hp).2.1,
    fun p hp => (hhand p hp).2.2, hi.frames⟩
  · refine List.nodup_iff_count_le_one.mpr fun p => ?_
    by_cases hp : p ∈ s.sm.mFreeList
    · exact (hcount p hp).1.le
    · rw [List.count_eq_zero_of_not_mem hp]
      exact Nat.zero_le _
  · obtain ⟨-, hsend, hrecv⟩ := halone p hp
    simp only [SegmentManager.sendQueued, SegmentManager.recvQueued, Multiset.mem_add,
      Multiset.mem_coe, not_or] at hsend hrecv
    cases t with
    | kSQSendData => exact hsend.1
    | kSQRecvData => exact hrecv.1
    | kSQSendControl => exact hsend.2
    | kSQRecvControl => exact hrecv.2
  · exact (hcount p hp).2.2.1 (SegmentManager.mem_filed.mpr ⟨t, ht⟩)
  · exact (hhand p hp).1 (List.mem_filterMap.mpr ⟨c, hc, he⟩)
  · exact (hlent p hp).2 (List.mem_map.mpr ⟨pass, hpass, he⟩)

/-- The steps that keep ownership: all, as long as no QueueStatus meets a copy. -/
def Unlent (s : Traffic) : Label → Prop
  | .queueStatus control data => s.NoCopyOut control data
  | _ => True

theorem intact_init : Intact init where
  sorted := fun _ => .nil
  sentType := nofun
  passType := nofun
  content := fun p hp => by simp [inUse, SegmentManager.sendQueued, SegmentManager.filed, lent, init,
    SegmentManager.init, SegmentQueue.segments, SegmentQueue.empty] at hp
  frames := nofun

/-- Every step that meets the condition keeps each segment at its place and each frame intact. -/
theorem step_owned (s : Traffic) (l : Label) (s' : Traffic) (h : Owned s ∧ Intact s)
    (hc : Unlent s l) (hs : step s l = .ok s') : Owned s' ∧ Intact s' := by
  obtain ⟨ho, hi⟩ := h
  cases l with
  | reserve data isControl sec usec =>
    cases hs
    exact ⟨owned_reserve ho data isControl sec usec,
      hi.congr (fun _ _ => rfl) rfl rfl rfl rfl rfl rfl⟩
  | pop i fresh => exact ⟨owned_pop ho hs, intact_pop ho hi hs⟩
  | push i => exact ⟨owned_push ho hs, intact_push ho hi hs⟩
  | takeFailed adapter => exact ⟨owned_takeFailed ho hs, intact_takeFailed hi hs⟩
  | takeQueued adapter => exact ⟨owned_takeQueued ho hs, intact_takeQueued hi hs⟩
  | transmit k sec usec result => exact ⟨owned_transmit ho hs, intact_transmit hi hs⟩
  | refuse k =>
    obtain ⟨pass, hk, -, rfl⟩ := refuse_ok hs
    exact ⟨owned_fail ho hk, intact_fail hi hk⟩
  | file k => exact ⟨owned_file ho hi hs, intact_file hi hs⟩
  | queueStatus control data => exact ⟨owned_queueStatus ho hc hs, intact_queueStatus hi hs⟩
  | retransmit segType seqNoStart seqNoEnd =>
    cases hs
    exact ⟨owned_retransmit ho _ _ _, intact_retransmit hi _ _ _⟩
  | recvPop fresh => exact ⟨owned_recvPop ho hs, intact_recvPop ho hi hs⟩
  | recvDrop k =>
    cases hs
    exact ⟨owned_recvDrop ho k, hi.congr (fun _ _ => rfl) rfl rfl rfl rfl rfl rfl⟩
  | recvPush k frame => exact ⟨owned_recvPush ho hs, intact_recvPush ho hi hs⟩
  | consume isControl => exact ⟨owned_consume ho hs, intact_consume hi hs⟩
  | consumerDrop k =>
    cases hs
    exact ⟨owned_consumerDrop ho k, hi.congr (fun _ _ => rfl) rfl rfl rfl rfl rfl rfl⟩
  | release k => exact ⟨owned_release ho hs, intact_release hi hs⟩

theorem reached_owned {ls : List Label} (hC : Runs.AllSteps step Unlent init ls)
    (hr : Runs.Reached step init ls s) : Owned s ∧ Intact s :=
  Runs.throughout_of_allSteps step_owned ⟨owned_init, intact_init⟩ hC hr

def oneByte : Packet := ⟨[65], by decide, by decide⟩

/-- One segment of one byte is written, sent and filed. -/
def sendOnce : List Label :=
  [.reserve oneByte false 0 0, .pop 0 7, .push 0, .takeQueued 0, .transmit 0 0 0 .sent, .file 0]

/-- A second adapter retransmits it. -/
def sendTwice : List Label :=
  sendOnce ++ [.retransmit 0 0 0, .takeFailed 1, .transmit 0 1 0 .sent, .file 0]

end Traffic
end Linux
end VirtualConnection
