import VirtualConnection.Linux.Streams

/-!
# Linux.Holding

Which sequence numbers Linux still holds: those of the segments in the send queues, the failed list,
the sent lists, and in the hands of the sender threads. A number that has been enqueued is held
until a QueueStatus acknowledges it (`step_holds`), through every other step of every thread.

The frame of a segment that was written tells the number and the stream it was written for
(`Serialized`), whatever media timestamp it is sent with.
-/

namespace VirtualConnection
namespace Linux

open Bytes

/-- The header in `data` agrees with the fields. -/
def Serialized (w : Segment) : Prop :=
  (readHeader w.data).seqNo = w.seqNo ∧ (readHeader w.data).flag = w.flag

theorem Serialized.stampMedia {w : Segment} (h : Serialized w) (sec usec : UInt32) :
    (readHeader (w.stampMedia sec usec).data).seqNo = w.seqNo ∧
      (readHeader (w.stampMedia sec usec).data).flag = w.flag := by
  obtain ⟨hseq, hflag⟩ := h
  have hfit : 20 + (toBE 4 sec.toNat ++ toBE 4 usec.toNat).length ≤ segmentDataSize := by
    simp [segmentDataSize, kSegSize, kSegHeaderSize]
  exact ⟨(headerField_store hfit (by decide)).trans hseq,
    (headerField_store hfit (by decide)).trans hflag⟩

theorem serialized_writeSegment (call : SendCall) (seg : Segment) :
    Serialized (call.writeSegment seg) :=
  ⟨(SendCall.readHeader_writeSegment call seg).1, (SendCall.readHeader_writeSegment call seg).2.2⟩

theorem isAck_writeSegment (call : SendCall) (seg : Segment) :
    (call.writeSegment seg).isAck = false := by
  show (SendCall.flag call.moreFragments call.isControl &&& kSegFlagAck != 0) = false
  cases call.moreFragments <;> cases call.isControl <;> decide

namespace Traffic

variable {s s' : Traffic} {t : SegSeqNumType} {n : UInt32}

/-- The number has been enqueued for its stream. -/
def Wrote (s : Traffic) (t : SegSeqNumType) (n : UInt32) : Prop :=
  ∃ w ∈ s.written, w.numType = t ∧ w.seqNo = n

/-- A segment with this number is on its way. -/
def Holds (s : Traffic) (t : SegSeqNumType) (n : UInt32) : Prop :=
  ∃ p, s.inUse p ∧ (s.sm.heap p).numType = t ∧ (s.sm.heap p).seqNo = n

/-- The segments that are on their way, as a list. -/
def onWay (s : Traffic) : List Addr :=
  (s.sm.mSegmentQueues .kSQSendData).segments ++ (s.sm.mSegmentQueues .kSQSendControl).segments ++
    s.sm.mSentSegmentLists .kSNData ++ s.sm.mSentSegmentLists .kSNControl ++
    s.sm.mFailedSegmentList ++ s.senders.map Pass.segmentToSend

theorem mem_onWay {p : Addr} : p ∈ s.onWay ↔ s.inUse p := by
  simp only [onWay, inUse, lent, SegmentManager.sendQueued, SegmentManager.filed, List.mem_append,
    Multiset.mem_add, Multiset.mem_coe]
  tauto

instance (s : Traffic) (t : SegSeqNumType) (n : UInt32) : Decidable (s.Holds t n) :=
  decidable_of_iff (∃ p ∈ s.onWay, (s.sm.heap p).numType = t ∧ (s.sm.heap p).seqNo = n)
    (by simp only [mem_onWay, Holds])

instance (s : Traffic) (t : SegSeqNumType) (n : UInt32) : Decidable (s.Wrote t n) :=
  inferInstanceAs (Decidable (∃ w ∈ s.written, w.numType = t ∧ w.seqNo = n))

theorem Stamped.numType {w seg : Segment} (h : Stamped w seg) : seg.numType = w.numType := by
  unfold Segment.numType
  rw [h.isControl]

theorem Holds.mono (h : s.Holds t n) (hheap : ∀ p, s.inUse p → Stamped (s.sm.heap p) (s'.sm.heap p))
    (hin : ∀ p, s.inUse p → s'.inUse p) : s'.Holds t n := by
  obtain ⟨p, hp, ht, hn⟩ := h
  exact ⟨p, hin p hp, (Stamped.numType (hheap p hp)).trans ht, ((hheap p hp).seqNo).trans hn⟩

/-- Segments that change hands on the way are still on their way. -/
theorem Holds.pass (h : s.Holds t n) (hheap : ∀ p, s.inUse p → Stamped (s.sm.heap p) (s'.sm.heap p))
    (hq : s'.sm.sendQueued = s.sm.sendQueued) (hf : s'.sm.filed = s.sm.filed)
    (hl : ∀ p, p ∈ s.lent → p ∈ s'.lent) : s'.Holds t n := by
  refine h.mono hheap fun p hp => ?_
  unfold inUse at hp ⊢
  rw [hq, hf]
  exact hp.imp id (Or.imp id (hl p))

theorem holds_fail {k : ℕ} {pass : Pass} (h : s.Holds t n) (hk : s.senders[k]? = some pass) :
    Holds { s with
      sm := s.sm.addFailedSegmentToList pass.segmentToSend
      senders := s.senders.eraseIdx k } t n := by
  refine h.pass (fun p _ => .inl rfl) rfl rfl fun p hp => ?_
  rw [lent_fail hk]
  exact hp

theorem holds_push {i : ℕ} (ho : Owned s) (h : s.Holds t n) (hs : s.push i = .ok s') :
    s'.Holds t n := by
  obtain ⟨call, base, seg, sm, hc, he, rfl⟩ := push_ok hs
  obtain ⟨hsend, -⟩ := SegmentManager.enqueue_send he
  obtain ⟨b, q, -, rfl⟩ := SegmentManager.enqueue_ok he
  refine h.mono (fun p hp => .inl (heap_update_of_not_inUse (not_inUse_call ho hc) hp)) ?_
  rintro p (hp | hp)
  · left
    rw [hsend]
    exact Multiset.mem_cons_of_mem hp
  · exact .inr hp

theorem holds_takeQueued {adapter : ℕ} (h : s.Holds t n) (hs : s.takeQueued adapter = .ok s') :
    s'.Holds t n := by
  obtain ⟨seg, sm, hd, rfl⟩ := takeQueued_ok hs
  obtain ⟨hsend, -⟩ := SegmentManager.dequeue_send hd
  obtain ⟨queueType, q, -, -, rfl⟩ := SegmentManager.dequeue_ok hd
  refine h.mono (fun p _ => .inl rfl) ?_
  rintro p (hp | hp | hp)
  · rw [hsend] at hp
    rcases Multiset.mem_cons.mp hp with rfl | hp
    · exact .inr (.inr (by simp [lent, startPass]))
    · exact .inl hp
  · exact .inr (.inl hp)
  · right; right
    simp only [lent, startPass, Multiset.mem_add, Multiset.mem_coe, List.map_append,
      List.mem_append] at hp ⊢
    exact hp.imp id .inl

theorem holds_file {k : ℕ} (hi : Intact s) (h : s.Holds t n) (hs : s.file k = .ok s') :
    s'.Holds t n := by
  obtain ⟨pass, hk, ⟨-, rfl⟩ | ⟨-, rfl⟩⟩ := file_ok hs
  swap
  · exact holds_fail h hk
  obtain ⟨l, hadd, hl⟩ := SegmentManager.addSentSegmentToList_spec pass.segmentToSend
    (hi.sorted (seqNumType pass.isControl))
  have hpass : (s.sm.heap pass.segmentToSend).numType = seqNumType pass.isControl := by
    rw [Segment.numType, hi.passType pass (List.mem_of_getElem? hk)]
  have hsub : ∀ p ∈ s.sm.mSentSegmentLists (seqNumType pass.isControl), p ∈ l := by
    intro p hp
    rcases hl with ⟨-, rfl⟩ | ⟨-, hperm, -⟩
    · exact hp
    · exact hperm.mem_iff.mpr (List.mem_cons_of_mem _ hp)
  obtain ⟨p₀, hp₀, hseq⟩ : ∃ p ∈ l, s.sm.seqNo p = s.sm.seqNo pass.segmentToSend := by
    rcases hl with ⟨hdup, rfl⟩ | ⟨-, hperm, -⟩
    · exact hdup
    · exact ⟨_, hperm.mem_iff.mpr List.mem_cons_self, rfl⟩
  rw [hadd]
  have hfiled : ∀ p ∈ l, p ∈ SegmentManager.filed { s.sm with
      mSentSegmentLists := Function.update s.sm.mSentSegmentLists (seqNumType pass.isControl) l } :=
    fun p hp => SegmentManager.mem_filed.mpr ⟨seqNumType pass.isControl, by simpa using hp⟩
  have htype₀ : (s.sm.heap p₀).numType = seqNumType pass.isControl := by
    rcases hl with ⟨-, rfl⟩ | ⟨-, hperm, -⟩
    · exact hi.sentType _ p₀ hp₀
    · rcases List.mem_cons.mp (hperm.mem_iff.mp hp₀) with rfl | hmem
      · exact hpass
      · exact hi.sentType _ p₀ hmem
  obtain ⟨p, hp, ht, hn⟩ := h
  rcases hp with hp | hp | hp
  · exact ⟨p, .inl hp, ht, hn⟩
  · refine ⟨p, .inr (.inl ?_), ht, hn⟩
    obtain ⟨t', hp⟩ := SegmentManager.mem_filed.mp hp
    by_cases ht' : t' = seqNumType pass.isControl
    · subst ht'
      exact hfiled p (hsub p hp)
    · exact SegmentManager.mem_filed.mpr ⟨t', by simpa [Function.update_of_ne ht'] using hp⟩
  · rw [lent_eraseIdx hk] at hp
    rcases Multiset.mem_cons.mp hp with rfl | hp
    · -- filed, or found to be there under its number
      exact ⟨p₀, .inr (.inl (hfiled p₀ hp₀)), htype₀.trans (hpass.symm.trans ht), hseq.trans hn⟩
    · exact ⟨p, .inr (.inr hp), ht, hn⟩

/-- What a QueueStatus frees is acknowledged by it. -/
theorem holds_queueStatus {control data : UInt32} (hi : Intact s) (h : s.Holds t n)
    (hs : s.queueStatus control data = .ok s') :
    s'.Holds t n ∨ n ≤ SegmentManager.lastSeqNo control data t := by
  obtain ⟨sm, hd, rfl⟩ := queueStatus_ok hs
  obtain ⟨freeList, allocated, rfl, -⟩ := SegmentManager.deallocateSentSegmentsByPeer_ok hd
  obtain ⟨p, hp | hp | hp, ht, hn⟩ := h
  · exact .inl ⟨p, .inl hp, ht, hn⟩
  · obtain ⟨t', hp⟩ := SegmentManager.mem_filed.mp hp
    obtain rfl : t' = t := (hi.sentType t' p hp).symm.trans ht
    by_cases hle : s.sm.seqNo p ≤ SegmentManager.lastSeqNo control data t'
    · exact .inr (hn ▸ hle)
    · refine .inl ⟨p, .inr (.inl (SegmentManager.mem_filed.mpr ⟨t', ?_⟩)), ht, hn⟩
      exact List.mem_filter.mpr ⟨hp, by simpa using hle⟩
  · exact .inl ⟨p, .inr (.inr hp), ht, hn⟩

/-- **What is held stays held until a QueueStatus acknowledges it.** -/
theorem step_holds {l : Label} (ho : Owned s) (hi : Intact s) (h : s.Holds t n)
    (hs : step s l = .ok s') : s'.Holds t n ∨
      ∃ control data, l = .queueStatus control data ∧
        n ≤ SegmentManager.lastSeqNo control data t := by
  have hsame : s'.sm.heap = s.sm.heap → s'.sm.sendQueued = s.sm.sendQueued →
      s'.sm.filed = s.sm.filed → s'.lent = s.lent → s'.Holds t n := by
    intro hheap hq hf hl
    exact h.pass (fun p _ => .inl (congrFun hheap p)) hq hf fun p hp => hl ▸ hp
  cases l with
  | reserve data isControl sec usec => cases hs; exact .inl (hsame rfl rfl rfl rfl)
  | pop i fresh =>
    obtain ⟨call, base, seg, sm, hc, -, hp, rfl⟩ := pop_ok hs
    obtain ⟨freeList, allocated, v, rfl, hfree⟩ := popFreeSegment_inUse ho hp
    exact .inl (h.mono (fun p hp => .inl (hfree p hp)) fun p hp => hp)
  | push i => exact .inl (holds_push ho h hs)
  | takeFailed adapter =>
    obtain ⟨seg, rest, hf, rfl⟩ := takeFailed_ok hs
    refine .inl (hsame rfl rfl rfl ?_)
    simp only [lent, hf, startPass, List.map_append, List.map_cons, List.map_nil,
      ← Multiset.coe_add, ← Multiset.cons_coe, Multiset.add_cons, Multiset.cons_add,
      Multiset.coe_nil, Multiset.add_zero]
  | takeQueued adapter => exact .inl (holds_takeQueued h hs)
  | transmit k sec usec result =>
    obtain ⟨adapter, seg, isControl, hk, rfl⟩ := transmit_ok hs
    obtain ⟨pre, post, hl, hset, -⟩ := exists_split hk
    refine .inl (h.pass (fun p _ => ?_) rfl rfl fun p hp => ?_)
    · by_cases he : p = seg
      · subst he
        exact .inr ⟨sec, usec, Function.update_self _ _ _⟩
      · exact .inl (Function.update_of_ne he _ _)
    · rw [lent, hset]
      rw [lent, hl] at hp
      simpa only [List.map_append, List.map_cons] using hp
  | refuse k =>
    obtain ⟨pass, hk, -, rfl⟩ := refuse_ok hs
    exact .inl (holds_fail h hk)
  | file k => exact .inl (holds_file hi h hs)
  | queueStatus control data =>
    exact (holds_queueStatus hi h hs).imp_right fun hle => ⟨control, data, rfl, hle⟩
  | retransmit segType seqNoStart seqNoEnd =>
    cases hs
    refine .inl ?_
    rw [retransmit, SegmentManager.retransmitMissingSegmentsByPeer]
    split
    · exact h
    · refine h.pass (fun p _ => .inl rfl) rfl rfl fun p hp => ?_
      simp only [lent, Multiset.mem_add, Multiset.mem_coe, List.mem_append] at hp ⊢
      exact hp.imp .inl id
  | recvPop fresh =>
    obtain ⟨seg, sm, hp, rfl⟩ := recvPop_ok hs
    obtain ⟨freeList, allocated, v, rfl, hfree⟩ := popFreeSegment_inUse ho hp
    exact .inl (h.mono (fun p hp => .inl (hfree p hp)) fun p hp => hp)
  | recvDrop k => cases hs; exact .inl (hsame rfl rfl rfl rfl)
  | recvPush k frame =>
    obtain ⟨seg, sm, hk, -, he, rfl⟩ := recvPush_ok hs
    obtain ⟨-, hsend⟩ := SegmentManager.enqueue_recv he
    obtain ⟨b, q, -, rfl⟩ := SegmentManager.enqueue_ok he
    refine .inl (h.mono
      (fun p hp => .inl (heap_update_of_not_inUse (not_inUse_receiver ho hk) hp)) fun p hp => ?_)
    unfold inUse at hp ⊢
    rwa [hsend]
  | consume isControl =>
    obtain ⟨seg, sm, hd, rfl⟩ := consume_ok hs
    obtain ⟨-, hsend⟩ := SegmentManager.dequeue_recv hd
    obtain ⟨queueType, q, -, -, rfl⟩ := SegmentManager.dequeue_ok hd
    exact .inl (hsame rfl hsend rfl rfl)
  | consumerDrop k => cases hs; exact .inl (hsame rfl rfl rfl rfl)
  | release k =>
    obtain ⟨seg, sm, -, ha, rfl⟩ := release_ok hs
    obtain ⟨freeList, allocated, rfl, -⟩ := SegmentManager.addFreeSegmentToList_ok ha
    exact .inl (hsame rfl rfl rfl rfl)

/-! ## What is written -/

/-- Only `push` writes, and what it writes is in the send queue. -/
theorem step_written {l : Label} (hs : step s l = .ok s') : s'.written = s.written ∨
    ∃ call seg, s'.written = s.written ++ [SendCall.writeSegment call seg] ∧
      s'.Holds (SendCall.writeSegment call seg).numType (SendCall.writeSegment call seg).seqNo := by
  cases l with
  | push i =>
    obtain ⟨call, base, seg, sm, hc, he, rfl⟩ := push_ok hs
    obtain ⟨hsend, -⟩ := SegmentManager.enqueue_send he
    obtain ⟨b, q, -, rfl⟩ := SegmentManager.enqueue_ok he
    refine .inr ⟨call, s.sm.heap seg, rfl, seg, .inl ?_, ?_, ?_⟩
    · rw [hsend]
      exact Multiset.mem_cons_self _ _
    · simp
    · simp
  | reserve data isControl sec usec => cases hs; exact .inl rfl
  | pop i fresh => obtain ⟨call, base, seg, sm, -, -, -, rfl⟩ := pop_ok hs; exact .inl rfl
  | takeFailed adapter => obtain ⟨seg, rest, -, rfl⟩ := takeFailed_ok hs; exact .inl rfl
  | takeQueued adapter => obtain ⟨seg, sm, -, rfl⟩ := takeQueued_ok hs; exact .inl rfl
  | transmit k sec usec result =>
    obtain ⟨adapter, seg, isControl, -, rfl⟩ := transmit_ok hs
    exact .inl rfl
  | refuse k => obtain ⟨pass, -, -, rfl⟩ := refuse_ok hs; exact .inl rfl
  | file k => obtain ⟨pass, -, ⟨-, rfl⟩ | ⟨-, rfl⟩⟩ := file_ok hs <;> exact .inl rfl
  | queueStatus control data => obtain ⟨sm, -, rfl⟩ := queueStatus_ok hs; exact .inl rfl
  | retransmit segType seqNoStart seqNoEnd => cases hs; exact .inl rfl
  | recvPop fresh => obtain ⟨seg, sm, -, rfl⟩ := recvPop_ok hs; exact .inl rfl
  | recvDrop k => cases hs; exact .inl rfl
  | recvPush k frame => obtain ⟨seg, sm, -, -, -, rfl⟩ := recvPush_ok hs; exact .inl rfl
  | consume isControl => obtain ⟨seg, sm, -, rfl⟩ := consume_ok hs; exact .inl rfl
  | consumerDrop k => cases hs; exact .inl rfl
  | release k => obtain ⟨seg, sm, -, -, rfl⟩ := release_ok hs; exact .inl rfl

/-- Every written segment is a data or control segment with its header in place. -/
def Framable (s : Traffic) : Prop := ∀ w ∈ s.written, Serialized w ∧ w.isAck = false

theorem step_framable {l : Label} (h : Framable s) (hs : step s l = .ok s') : Framable s' := by
  rcases step_written hs with he | ⟨call, seg, he, -⟩
  · intro w hw
    exact h w (he ▸ hw)
  · intro w hw
    rw [he] at hw
    rcases List.mem_append.mp hw with hw | hw
    · exact h w hw
    · obtain rfl := List.mem_singleton.mp hw
      exact ⟨serialized_writeSegment call seg, isAck_writeSegment call seg⟩

theorem step_wrote {l : Label} (hs : step s l = .ok s') (h : s'.Wrote t n) :
    s.Wrote t n ∨ s'.Holds t n := by
  obtain ⟨w, hw, ht, hn⟩ := h
  rcases step_written hs with he | ⟨call, seg, he, hheld⟩
  · exact .inl ⟨w, he ▸ hw, ht, hn⟩
  · rw [he] at hw
    rcases List.mem_append.mp hw with hw | hw
    · exact .inl ⟨w, hw, ht, hn⟩
    · obtain rfl := List.mem_singleton.mp hw
      exact .inr (ht ▸ hn ▸ hheld)

theorem Wrote.step {l : Label} (hs : step s l = .ok s') (h : s.Wrote t n) : s'.Wrote t n := by
  obtain ⟨w, hw, ht, hn⟩ := h
  rcases step_written hs with he | ⟨call, seg, he, -⟩
  · exact ⟨w, he ▸ hw, ht, hn⟩
  · exact ⟨w, he ▸ List.mem_append_left _ hw, ht, hn⟩

/-- The numbers stay below the number of reserved segments. -/
theorem Wrote.lt (h : InStream s t) (hw : s.Wrote t n) : n.toNat < s.numSegments t := by
  obtain ⟨w, hw, ht, rfl⟩ := hw
  have hp := h.pieces w (List.mem_filter.mpr ⟨hw, by simpa using ht⟩)
  have hlen : (s.stream t).length = s.numSegments t :=
    Reservations.length_flatMap fun j _ => j.length_pieces
  rw [← hlen]
  exact (List.getElem?_eq_some_iff.mp hp).1

end Traffic
end Linux
end VirtualConnection
