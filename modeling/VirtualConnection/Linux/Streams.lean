import VirtualConnection.Lib.Reservations
import VirtualConnection.Linux.BufferOwnership

/-!
# Linux.Streams

What the two send queues deliver while any number of calls of `send_to_segment_manager` run side by
side. A call reserves a range of numbers; its segments are enqueued in any order relative to those
of other calls, and the queue sorts them.

The pieces of a call are known from the moment of its reservation (`Job.pieces`), and the stream of
one type is the concatenation of the pieces of all its calls in the order of reservation.

* `InStream`: the invariant for one type, on top of ownership of the buffers.
* `sends_in_order`: what has been dequeued is a prefix of the stream.
-/

namespace VirtualConnection
namespace Linux

open Bytes Ownership Reservations

structure Piece where
  seqNo : UInt32
  mf : Bool
  control : Bool
  payload : List UInt8
  deriving DecidableEq

def Segment.piece (seg : Segment) : Piece := ⟨seg.seqNo, seg.isMF, seg.isControl, seg.payload⟩

structure Job where
  call : SendCall
  base : UInt32

namespace Job

def start (j : Job) : ℕ := j.base.toNat
def size (j : Job) : ℕ := j.call.data.numOfSegments
def progress (j : Job) : ℕ := j.call.segIdx

/-- The segments of the call: numbered from `base` on, MF on all but the last. -/
def pieces (j : Job) : List Piece :=
  (List.range j.size).map fun i =>
    ⟨j.base + UInt32.ofNat i, decide (i + 1 < j.size), j.call.isControl,
      Bytes.piece kSegSize j.call.data.bytes i⟩

theorem length_pieces (j : Job) : j.pieces.length = j.size := by simp [pieces]

theorem pieces_getElem? (j : Job) {i : ℕ} (h : i < j.size) :
    j.pieces[i]? = some ⟨j.base + UInt32.ofNat i, decide (i + 1 < j.size), j.call.isControl,
      Bytes.piece kSegSize j.call.data.bytes i⟩ := by
  simp [pieces, h]

/-- The payloads of a call, put together, are its bytes. -/
theorem flatMap_payload (j : Job) : j.pieces.flatMap Piece.payload = j.call.data.bytes := by
  rw [pieces, List.flatMap_map]
  refine flatMap_piece_of_le ?_
  have := Packet.lt_numOfSegments j.call.data j.size
  simp only [size] at this ⊢
  omega

/-- MF is set on every segment of a call except its last. -/
theorem map_mf (j : Job) : j.pieces.map Piece.mf = List.replicate (j.size - 1) true ++ [false] := by
  have hpos : 0 < j.size := by
    have := Packet.lt_numOfSegments j.call.data 0
    have := j.call.data.nonempty
    simp only [size]
    omega
  refine List.ext_getElem (by simp [pieces]; omega) fun i h1 h2 => ?_
  simp only [pieces, List.map_map, List.getElem_map, List.getElem_range, Function.comp_apply]
  rw [List.getElem_append]
  split
  · next hi => simp at hi; simp; omega
  · next hi => simp at hi; simp; omega

end Job

namespace Traffic

variable {s s' : Traffic} {t : SegSeqNumType}

def jobOf (c : Call) : Job := ⟨c.call, c.base⟩

/-- The calls of one type, in the order of their reservations. -/
def jobs (s : Traffic) (t : SegSeqNumType) : List Job :=
  (s.calls.map jobOf).filter fun j => j.call.numType = t

/-- The concatenation of the segments of all calls of one type. -/
def stream (s : Traffic) (t : SegSeqNumType) : List Piece := (s.jobs t).flatMap Job.pieces

def numSegments (s : Traffic) (t : SegSeqNumType) : ℕ := total Job.size (s.jobs t)

def writtenOf (s : Traffic) (t : SegSeqNumType) : List Segment :=
  s.written.filter fun w => w.numType = t

theorem filter_numType_append (l : List Segment) (w : Segment) (t : SegSeqNumType) :
    (l ++ [w]).filter (fun w => w.numType = t) =
      l.filter (fun w => w.numType = t) ++ if w.numType = t then [w] else [] := by
  by_cases h : w.numType = t <;> simp [h]

def sendQueue (s : Traffic) (t : SegSeqNumType) : SegmentQueue Segment :=
  (s.sm.mSegmentQueues (sendQueueType t)).map s.sm.heap

/-- The calls are in the middle of their loops. -/
structure Calling (s : Traffic) : Prop where
  valid : ∀ c ∈ s.calls, c.call.Valid c.base
  more : ∀ c ∈ s.calls, c.seg ≠ none → c.call.segIdx < c.call.data.numOfSegments

/-- The stream of one type: which numbers are reserved, written, waiting and taken. -/
structure InStream (s : Traffic) (t : SegSeqNumType) : Prop where
  next : s.sm.mNextSeqNo t = UInt32.ofNat (s.numSegments t)
  laid : Laid Job.start Job.size 0 (s.jobs t)
  queue : SegmentQueue.Inv Segment.seqNo (s.writtenOf t) (s.taken t) (s.sendQueue t)
  numbers : ((s.writtenOf t).map (SegmentQueue.key Segment.seqNo)).Perm
    (issued Job.start Job.progress (s.jobs t))
  pieces : ∀ w ∈ s.writtenOf t, (s.stream t)[w.seqNo.toNat]? = some w.piece

theorem calling_init : Calling init := ⟨nofun, nofun⟩

theorem inStream_init (t : SegSeqNumType) : InStream init t where
  next := rfl
  laid := trivial
  queue := SegmentQueue.inv_empty
  numbers := .refl _
  pieces := nofun

/-- Every piece of the stream carries the number of its place. -/
theorem stream_seqNo (h : Laid Job.start Job.size 0 (s.jobs t)) (hn : s.numSegments t < 2 ^ 32) :
    (s.stream t).map (fun p => p.seqNo.toNat) = List.range (s.numSegments t) := by
  have hall : ∀ (js : List Job) (k : ℕ), Laid Job.start Job.size k js →
      k + total Job.size js < 2 ^ 32 →
      (js.flatMap Job.pieces).map (fun p => p.seqNo.toNat) = List.range' k (total Job.size js) := by
    intro js
    induction js with
    | nil => intro k _ _; rfl
    | cons j js ih =>
      intro k ⟨hj, hrest⟩ hk
      rw [total_cons] at hk
      rw [List.flatMap_cons, List.map_append, total_cons, ← List.range'_append_1,
        ih (k + j.size) hrest (by omega)]
      congr 1
      refine List.ext_getElem (by simp [Job.pieces]) fun i h1 h2 => ?_
      have hi : i < j.size := by simpa using h2
      simp only [Job.start] at hj
      have hi' : (UInt32.ofNat i).toNat = i := by
        rw [UInt32.toNat_ofNat']; exact Nat.mod_eq_of_lt (by omega)
      simp only [Job.pieces, List.map_map, List.getElem_map, List.getElem_range,
        Function.comp_apply, List.getElem_range', UInt32.toNat_add, hi']
      omega
  rw [List.range_eq_range']
  exact hall (s.jobs t) 0 h (by rwa [Nat.zero_add])

/-- What has been taken is a prefix of the stream, and all of it once every call has returned and
the queue is drained. -/
theorem taken_prefix (h : InStream s t) :
    (s.taken t).map Segment.piece <+: s.stream t ∧
      ((∀ j ∈ s.jobs t, j.progress = j.size) → (s.sendQueue t).mMainQueue = [] →
        (s.taken t).map Segment.piece = s.stream t) := by
  have hio := h.queue.inOrder
  have hlen : (s.stream t).length = s.numSegments t :=
    length_flatMap fun j _ => j.length_pieces
  -- whatever was delivered is the piece at its place
  have hpiece : ∀ i (hi : i < (s.taken t ++ (s.sendQueue t).mMainQueue).length),
      (s.stream t)[i]? = some ((s.taken t ++ (s.sendQueue t).mMainQueue)[i]).piece := by
    intro i hi
    have hmem := hio.sound _ (.inl (List.getElem_mem hi))
    rw [← h.pieces _ hmem]
    exact congrArg _ (hio.key_getElem hi).symm
  have hget : ∀ i (hi : i < (s.taken t).length),
      (s.stream t)[i]? = some ((s.taken t)[i]).piece := by
    intro i hi
    rw [hpiece i (by simp; omega), List.getElem_append_left hi]
  constructor
  · refine List.prefix_iff_eq_take.mpr (List.ext_getElem? fun i => ?_)
    rw [List.length_map, List.getElem?_take, List.getElem?_map]
    split
    · next hi => rw [hget i hi, List.getElem?_eq_getElem hi]; rfl
    · next hi => rw [List.getElem?_eq_none (by omega)]; rfl
  · intro hall hmain
    rw [hmain, List.append_nil] at hio
    have htaken : s.numSegments t ≤ (s.taken t).length := by
      rw [hio.out_length]
      by_contra hlt
      have hissued := issued_complete h.laid hall
      have hmem : (s.sendQueue t).mExpectedSeqNo.toNat ∈
          (s.writtenOf t).map (SegmentQueue.key Segment.seqNo) := by
        rw [h.numbers.mem_iff, hissued, List.mem_range'_1]
        simp only [numSegments] at hlt
        omega
      obtain ⟨w, hw, he⟩ := List.mem_map.mp hmem
      exact hio.isLeast.1 w hw he
    refine List.ext_getElem? fun i => ?_
    rw [List.getElem?_map]
    rcases Nat.lt_or_ge i (s.taken t).length with hi | hi
    · rw [hget i hi, List.getElem?_eq_getElem hi]
      rfl
    · rw [List.getElem?_eq_none hi, List.getElem?_eq_none (by omega)]
      rfl

/-! ## Steps -/

theorem mem_sendQueued {p : Addr} (hp : p ∈ (s.sm.mSegmentQueues (sendQueueType t)).segments) :
    p ∈ s.sm.sendQueued := by
  cases t with
  | kSNData => exact Multiset.mem_add.mpr (.inl hp)
  | kSNControl => exact Multiset.mem_add.mpr (.inr hp)

theorem not_mem_lent {p : Addr} (ho : Owned s) (hp : p ∈ s.sm.sendQueued) : p ∉ s.lent :=
  (Exclusive.alone ho (Multiset.mem_add.mpr (.inr (mem_alone_of_sendQueued hp)))).2.2

/-- No step writes to a queued segment. -/
theorem step_heap {l : Label} (ho : Owned s) (hs : step s l = .ok s') {p : Addr}
    (hp : p ∈ s.sm.sendQueued) : s'.sm.heap p = s.sm.heap p := by
  have hq : ∀ q, q ∈ s.sm.sendQueued → q ∈ (s.sm.mFreeList : Multiset Addr) + s.alone :=
    fun q hq => Multiset.mem_add.mpr (.inr (mem_alone_of_sendQueued hq))
  cases l with
  | reserve data isControl sec usec => cases hs; rfl
  | pop i fresh =>
    obtain ⟨call, base, seg, sm, -, -, hpop, rfl⟩ := pop_ok hs
    obtain ⟨freeList, allocated, v, rfl, hsame⟩ := popFreeSegment_inUse ho hpop
    exact hsame p (.inl hp)
  | push i =>
    obtain ⟨call, base, seg, sm, hc, he, rfl⟩ := push_ok hs
    obtain ⟨b, q, -, rfl⟩ := SegmentManager.enqueue_ok he
    exact heap_update_of_not_inUse (not_inUse_call ho hc) (.inl hp)
  | takeFailed adapter => obtain ⟨seg, rest, -, rfl⟩ := takeFailed_ok hs; rfl
  | takeQueued adapter =>
    obtain ⟨seg, sm, hd, rfl⟩ := takeQueued_ok hs
    obtain ⟨queueType, q, -, -, rfl⟩ := SegmentManager.dequeue_ok hd
    rfl
  | transmit k sec usec result =>
    obtain ⟨adapter, seg, isControl, hk, rfl⟩ := transmit_ok hs
    refine Function.update_of_ne (fun he => not_mem_lent ho hp ?_) _ _
    rw [lent_eraseIdx hk, he]
    exact Multiset.mem_cons_self _ _
  | refuse k => obtain ⟨pass, -, -, rfl⟩ := refuse_ok hs; rfl
  | file k => obtain ⟨pass, -, ⟨-, rfl⟩ | ⟨-, rfl⟩⟩ := file_ok hs <;> rfl
  | queueStatus control data =>
    obtain ⟨sm, hd, rfl⟩ := queueStatus_ok hs
    obtain ⟨freeList, allocated, rfl, -⟩ := SegmentManager.deallocateSentSegmentsByPeer_ok hd
    rfl
  | retransmit segType seqNoStart seqNoEnd =>
    cases hs
    rw [retransmit, SegmentManager.retransmitMissingSegmentsByPeer]
    split <;> rfl
  | recvPop fresh =>
    obtain ⟨seg, sm, hpop, rfl⟩ := recvPop_ok hs
    obtain ⟨freeList, allocated, v, rfl, hsame⟩ := popFreeSegment_inUse ho hpop
    exact hsame p (.inl hp)
  | recvDrop k => cases hs; rfl
  | recvPush k frame =>
    obtain ⟨seg, sm, hk, -, he, rfl⟩ := recvPush_ok hs
    obtain ⟨b, q, -, rfl⟩ := SegmentManager.enqueue_ok he
    exact heap_update_of_not_inUse (not_inUse_receiver ho hk) (.inl hp)
  | consume isControl =>
    obtain ⟨seg, sm, hd, rfl⟩ := consume_ok hs
    obtain ⟨queueType, q, -, -, rfl⟩ := SegmentManager.dequeue_ok hd
    rfl
  | consumerDrop k => cases hs; rfl
  | release k =>
    obtain ⟨seg, sm, -, ha, rfl⟩ := release_ok hs
    obtain ⟨freeList, allocated, rfl, -⟩ := SegmentManager.addFreeSegmentToList_ok ha
    rfl

theorem sendQueue_congr
    (hq : s'.sm.mSegmentQueues (sendQueueType t) = s.sm.mSegmentQueues (sendQueueType t))
    (hheap : ∀ p ∈ s.sm.sendQueued, s'.sm.heap p = s.sm.heap p) :
    s'.sendQueue t = s.sendQueue t := by
  rw [sendQueue, hq]
  exact SegmentQueue.map_congr fun p hp => hheap p (mem_sendQueued hp)

theorem InStream.congr (h : InStream s t) (hjobs : s'.jobs t = s.jobs t)
    (hnext : s'.sm.mNextSeqNo = s.sm.mNextSeqNo) (hqueue : s'.sendQueue t = s.sendQueue t)
    (hw : s'.written = s.written) (ht : s'.taken = s.taken) : InStream s' t where
  next := by rw [hnext, numSegments, hjobs]; exact h.next
  laid := by rw [hjobs]; exact h.laid
  queue := by rw [writtenOf, hw, ht, hqueue]; exact h.queue
  numbers := by rw [writtenOf, hw, hjobs]; exact h.numbers
  pieces := by rw [writtenOf, hw, stream, hjobs]; exact h.pieces

theorem jobs_reserve (s : Traffic) (data : Packet) (isControl : Bool) (sec usec : UInt32)
    (t : SegSeqNumType) :
    (s.reserve data isControl sec usec).jobs t =
      s.jobs t ++ if seqNumType isControl = t then
        [⟨SendCall.start data isControl sec usec (s.sm.mNextSeqNo t), s.sm.mNextSeqNo t⟩] else [] := by
  simp only [jobs, reserve, SegmentManager.getNextSeqNo, List.map_append, List.filter_append,
    List.map_cons, List.map_nil, jobOf]
  congr 1
  by_cases ht : seqNumType isControl = t
  · subst ht
    rw [if_pos rfl, List.filter_cons_of_pos]
    · rfl
    · simp [SendCall.numType, SendCall.start]
  · rw [if_neg ht, List.filter_cons_of_neg]
    · rfl
    · exact fun he => ht (of_decide_eq_true he)

theorem inStream_reserve (h : InStream s t) (data : Packet) (isControl : Bool) (sec usec : UInt32)
    (hn : (s.reserve data isControl sec usec).numSegments t < 2 ^ 32) :
    InStream (s.reserve data isControl sec usec) t := by
  have hjobs := jobs_reserve s data isControl sec usec t
  by_cases ht : seqNumType isControl = t
  · rw [if_pos ht] at hjobs
    have htotal : (s.reserve data isControl sec usec).numSegments t =
        s.numSegments t + data.numOfSegments := by
      rw [numSegments, hjobs, total_append]
      simp [numSegments, total, Job.size, SendCall.start]
    have hstart : (s.sm.mNextSeqNo t).toNat = s.numSegments t := by
      rw [h.next, UInt32.toNat_ofNat']
      exact Nat.mod_eq_of_lt (by omega)
    refine ⟨?_, ?_, h.queue, ?_, fun w hw => ?_⟩
    · rw [htotal, UInt32.ofNat_add, ← h.next]
      subst ht
      exact Function.update_self _ _ _
    · rw [hjobs]
      refine h.laid.snoc ?_
      rw [Nat.zero_add]
      exact hstart
    · rw [hjobs]
      refine h.numbers.trans ?_
      simp [issued, Job.progress, SendCall.start]
    · have hp := h.pieces w hw
      have hlt := (List.getElem?_eq_some_iff.mp hp).1
      rw [stream] at hp hlt
      rw [stream, hjobs, List.flatMap_append, List.getElem?_append_left hlt]
      exact hp
  · rw [if_neg ht, List.append_nil] at hjobs
    refine ⟨?_, by rw [hjobs]; exact h.laid, h.queue, by rw [hjobs]; exact h.numbers, ?_⟩
    · rw [numSegments, hjobs]
      exact (Function.update_of_ne (fun he => ht he.symm) _ _).trans h.next
    · rw [stream, hjobs]
      exact h.pieces

theorem jobs_pop {i : ℕ} {call : SendCall} {base : UInt32} {seg : Addr}
    (hc : s.calls[i]? = some ⟨call, base, none⟩) :
    (s.calls.set i ⟨call, base, some seg⟩).map jobOf = s.calls.map jobOf := by
  obtain ⟨pre, post, hl, hset, -⟩ := exists_split hc
  rw [hset, hl]
  simp [jobOf]

theorem jobs_push {i : ℕ} {call : SendCall} {base : UInt32} {seg : Addr}
    (hc : s.calls[i]? = some ⟨call, base, some seg⟩) :
    ∃ pre post, s.jobs call.numType = pre ++ ⟨call, base⟩ :: post ∧
      ((s.calls.set i ⟨call.next, base, none⟩).map jobOf).filter
        (fun j => j.call.numType = call.numType) = pre ++ ⟨call.next, base⟩ :: post ∧
      ∀ t, t ≠ call.numType →
        ((s.calls.set i ⟨call.next, base, none⟩).map jobOf).filter (fun j => j.call.numType = t) =
          s.jobs t := by
  obtain ⟨pre, post, hl, hset, -⟩ := exists_split hc
  refine ⟨(pre.map jobOf).filter fun j => j.call.numType = call.numType,
    (post.map jobOf).filter fun j => j.call.numType = call.numType, ?_, ?_, fun t ht => ?_⟩
  · rw [jobs, hl, List.map_append, List.map_cons, List.filter_append,
      List.filter_cons_of_pos (by simp [jobOf])]
    rfl
  · rw [hset, List.map_append, List.map_cons, List.filter_append,
      List.filter_cons_of_pos (by simp [jobOf, SendCall.next, SendCall.numType])]
    rfl
  · have hne : ¬ call.numType = t := fun he => ht he.symm
    rw [jobs, hset, hl, List.map_append, List.map_cons, List.filter_append, List.map_append,
      List.map_cons, List.filter_append,
      List.filter_cons_of_neg (by exact fun he => hne (of_decide_eq_true he)),
      List.filter_cons_of_neg (by exact fun he => hne (of_decide_eq_true he))]

theorem progress_le (hv : Calling s) : ∀ j ∈ s.jobs t, j.progress ≤ j.size := by
  intro j hj
  obtain ⟨c, hc, rfl⟩ := List.mem_map.mp (List.mem_of_mem_filter hj)
  exact (hv.valid c hc).le

theorem calling_push {i : ℕ} (hv : Calling s) (hs : s.push i = .ok s') : Calling s' := by
  obtain ⟨call, base, seg, sm, hc, -, rfl⟩ := push_ok hs
  have hmem := List.mem_of_getElem? hc
  constructor
  · intro c hc'
    rcases List.mem_or_eq_of_mem_set hc' with hc' | rfl
    · exact hv.valid c hc'
    · exact (hv.valid _ hmem).next (hv.more _ hmem (by simp))
  · intro c hc' hseg
    rcases List.mem_or_eq_of_mem_set hc' with hc' | rfl
    · exact hv.more c hc' hseg
    · exact absurd rfl hseg

theorem calling_pop {i : ℕ} {fresh : Addr} (hv : Calling s) (hs : s.pop i fresh = .ok s') :
    Calling s' := by
  obtain ⟨call, base, seg, sm, hc, hlt, -, rfl⟩ := pop_ok hs
  have hmem := List.mem_of_getElem? hc
  constructor
  · intro c hc'
    rcases List.mem_or_eq_of_mem_set hc' with hc' | rfl
    · exact hv.valid c hc'
    · exact hv.valid ⟨call, base, none⟩ hmem
  · intro c hc' hseg
    rcases List.mem_or_eq_of_mem_set hc' with hc' | rfl
    · exact hv.more c hc' hseg
    · exact hlt

theorem calling_reserve (hv : Calling s) (data : Packet) (isControl : Bool) (sec usec : UInt32) :
    Calling (s.reserve data isControl sec usec) := by
  constructor
  · intro c hc
    rcases List.mem_append.mp hc with hc | hc
    · exact hv.valid c hc
    · obtain rfl := List.mem_singleton.mp hc
      exact SendCall.valid_start _ _ _ _ _
  · intro c hc hseg
    rcases List.mem_append.mp hc with hc | hc
    · exact hv.more c hc hseg
    · obtain rfl := List.mem_singleton.mp hc
      exact absurd rfl hseg

/-- A job of the stream writes its next piece. Its number was not written before, so the queue
sorts it in. -/
theorem InStream.advance (w : Segment) (b : Bool) {pre post : List Job} {j j' : Job}
    (h : InStream s t) (hn : s.numSegments t < 2 ^ 32) (hjobs : s.jobs t = pre ++ j :: post)
    (hjobs' : s'.jobs t = pre ++ j' :: post) (hstart : j'.start = j.start) (hsize : j'.size = j.size)
    (hpieces : j'.pieces = j.pieces) (hprogress : j'.progress = j.progress + 1)
    (hle : ∀ j ∈ s'.jobs t, j.progress ≤ j.size) (hnext : s'.sm.mNextSeqNo = s.sm.mNextSeqNo)
    (hw : s'.writtenOf t = s.writtenOf t ++ [w]) (hpiece : j.pieces[j.progress]? = some w.piece)
    (hq : (s.sendQueue t).enqueue Segment.seqNo w = .ok (b, s'.sendQueue t))
    (ht : s'.taken = s.taken) : InStream s' t := by
  have hlaid := h.laid
  rw [hjobs] at hlaid
  have hlaid' : Laid Job.start Job.size 0 (s'.jobs t) := by
    rw [hjobs']
    exact hlaid.replace hstart hsize
  have htotal : s'.numSegments t = s.numSegments t := by
    rw [numSegments, numSegments, hjobs, hjobs']
    simp only [total_append, total_cons, hsize]
  have hlt : j.progress < j.size := by
    have := hle j' (by rw [hjobs']; simp)
    omega
  -- the number is the one of the turn
  have hnum : w.seqNo.toNat = j.start + j.progress := by
    have hbase := (laid_append.mp hlaid).2.1
    rw [numSegments, hjobs, total_append, total_cons] at hn
    have hseq : w.seqNo = j.base + UInt32.ofNat j.progress := by
      rw [Job.pieces_getElem? _ hlt] at hpiece
      exact (congrArg Piece.seqNo (Option.some.inj hpiece)).symm
    rw [hseq, UInt32.toNat_add, UInt32.toNat_ofNat']
    simp only [Job.start] at hbase ⊢
    omega
  -- and it is used once
  have hnumbers : ((s'.writtenOf t).map (SegmentQueue.key Segment.seqNo)).Perm
      (issued Job.start Job.progress (s'.jobs t)) := by
    have hkey : SegmentQueue.key Segment.seqNo w = j.start + j.progress := hnum
    rw [hw, hjobs', List.map_append, List.map_singleton, hkey]
    refine (List.perm_append_singleton _ _).trans ((h.numbers.cons _).trans ?_)
    rw [hjobs]
    exact (issued_advance hstart hprogress).symm
  have hsub := issued_sublist hlaid' hle
  have hnodup := hnumbers.nodup_iff.mpr (hsub.nodup List.nodup_range')
  have hnew : ∀ x ∈ s.writtenOf t, x.seqNo ≠ w.seqNo := by
    intro x hx hne
    rw [hw, List.map_append, List.map_singleton] at hnodup
    refine (List.nodup_append.mp hnodup).2.2 _ (List.mem_map_of_mem hx) _
      (List.mem_singleton_self _) ?_
    rw [SegmentQueue.key, SegmentQueue.key, hne]
  have hcount : (s.writtenOf t).length + 1 < 2 ^ 32 := by
    have h1 := hnumbers.length_eq
    have h2 := hsub.length_le
    rw [List.length_range'] at h2
    simp only [hw, List.length_map, List.length_append, List.length_singleton] at h1
    simp only [numSegments] at htotal hn
    omega
  have hstream : s'.stream t = s.stream t := by
    rw [stream, stream, hjobs, hjobs']
    simp only [List.flatMap_append, List.flatMap_cons, hpieces]
  refine ⟨by rw [hnext, htotal]; exact h.next, hlaid', ?_, hnumbers, fun x hx => ?_⟩
  · obtain ⟨b', q', hok, hinv, -, -⟩ := SegmentQueue.enqueue_spec h.queue hnew hcount
    rw [hq] at hok
    cases hok
    rw [hw, ht]
    exact hinv
  · rw [hstream]
    rw [hw] at hx
    rcases List.mem_append.mp hx with hx | hx
    · exact h.pieces x hx
    · obtain rfl := List.mem_singleton.mp hx
      rw [hnum, stream, hjobs]
      exact (getElem?_flatMap hlaid (fun j _ => j.length_pieces) hlt).trans hpiece

/-- One turn of a call, in the stream of its type and in the other one. -/
theorem inStream_push {i : ℕ} (ho : Owned s) (hv : Calling s) (h : InStream s t)
    (hn : s.numSegments t < 2 ^ 32) (hs : s.push i = .ok s') : InStream s' t := by
  have hv' := calling_push hv hs
  have hheap := fun p (hp : p ∈ s.sm.sendQueued) => step_heap (l := .push i) ho hs hp
  obtain ⟨call, base, seg, sm, hc, he, rfl⟩ := push_ok hs
  obtain ⟨b, q, hq, rfl⟩ := SegmentManager.enqueue_ok he
  have hmem := List.mem_of_getElem? hc
  obtain ⟨pre, post, hjobs, hjobs', hother⟩ := jobs_push hc
  have hspec : SendCall.IsPiece call.data call.isControl base call.segIdx
      (call.writeSegment (s.sm.heap seg)) :=
    SendCall.writeSegment_spec (hv.valid _ hmem) (s.sm.heap seg)
  have htype : (call.writeSegment (s.sm.heap seg)).numType = call.numType := by
    rw [Segment.numType, hspec.control, SendCall.numType]
  by_cases ht : t = call.numType
  · subst ht
    have hlt : call.segIdx < call.data.numOfSegments := hv.more _ hmem (by simp)
    refine h.advance (call.writeSegment (s.sm.heap seg)) b hn hjobs hjobs' rfl rfl rfl rfl
      (fun j hj => progress_le hv' j hj) rfl ?_ ?_ ?_ rfl
    · rw [writtenOf, filter_numType_append, if_pos htype]
      rfl
    · refine (Job.pieces_getElem? ⟨call, base⟩ hlt).trans ?_
      rw [Segment.piece, hspec.seqNo, hspec.mf, hspec.control, hspec.payload]
      rfl
    · have hmap := SegmentQueue.enqueue_map (Function.update s.sm.heap seg
        (call.writeSegment (s.sm.heap seg))) Segment.seqNo hq
      have hold : (s.sm.mSegmentQueues (sendQueueType call.numType)).map (Function.update s.sm.heap seg
          (call.writeSegment (s.sm.heap seg))) = s.sendQueue call.numType :=
        SegmentQueue.map_congr fun p hp => hheap p (mem_sendQueued hp)
      rw [Function.update_self, hold] at hmap
      simpa [sendQueue] using hmap
  · have hwritten : List.filter (fun w => decide (w.numType = t))
        (s.written ++ [call.writeSegment (s.sm.heap seg)]) = s.writtenOf t := by
      rw [filter_numType_append, if_neg (by rw [htype]; exact fun he => ht he.symm),
        List.append_nil]
      rfl
    have hqueue : sendQueueType t ≠ sendQueueType call.numType := by
      intro he
      cases t <;> cases hct : call.numType <;> simp_all [sendQueueType]
    have hj := hother t ht
    refine ⟨?_, ?_, ?_, ?_, ?_⟩
    · rw [numSegments, jobs, hj]
      exact h.next
    · rw [jobs, hj]
      exact h.laid
    · rw [writtenOf, hwritten, sendQueue_congr (Function.update_of_ne hqueue _ _) hheap]
      exact h.queue
    · rw [writtenOf, hwritten, jobs, hj]
      exact h.numbers
    · rw [writtenOf, hwritten, stream, jobs, hj]
      exact h.pieces

theorem inStream_takeQueued {adapter : ℕ} (h : ∀ t, InStream s t)
    (hs : s.takeQueued adapter = .ok s') : InStream s' t := by
  obtain ⟨seg, sm, hd, rfl⟩ := takeQueued_ok hs
  obtain ⟨queueType, q, htarget, hq, rfl⟩ := SegmentManager.dequeue_ok hd
  obtain ⟨t₀, rfl⟩ : ∃ t₀, queueType = sendQueueType t₀ := by
    rw [SegmentManager.getTargetQueueType] at htarget
    split at htarget
    · cases htarget; exact ⟨.kSNControl, rfl⟩
    · split at htarget
      · cases htarget; exact ⟨.kSNData, rfl⟩
      · cases htarget
  have hmap : (s.sendQueue t₀).dequeue = .ok (s.sm.heap seg, q.map s.sm.heap) :=
    SegmentQueue.dequeue_map hq
  obtain ⟨rest, hmain, -⟩ := SegmentQueue.dequeue_eq_ok.mp hmap
  have htype : (s.sm.heap seg).numType = t₀ := by
    have hmem := (h t₀).queue.inOrder.sound (s.sm.heap seg) (.inl (by rw [hmain]; simp))
    exact of_decide_eq_true (List.mem_filter.mp hmem).2
  by_cases ht : t = t₀
  · subst ht
    have h' := h t
    refine ⟨h'.next, h'.laid, ?_, h'.numbers, h'.pieces⟩
    obtain ⟨q', hok, hinv⟩ := SegmentQueue.dequeue_spec h'.queue hmain
    rw [hmap] at hok
    cases hok
    rw [htype]
    simpa [sendQueue, startPass, writtenOf] using hinv
  · have hqueue : sendQueueType t ≠ sendQueueType t₀ := by
      intro he
      cases t <;> cases t₀ <;> simp_all [sendQueueType]
    have h' := h t
    refine ⟨h'.next, h'.laid, ?_, h'.numbers, h'.pieces⟩
    rw [htype]
    simpa [sendQueue, startPass, writtenOf, Function.update_of_ne hqueue,
      Function.update_of_ne ht] using h'.queue

/-! ## Every run -/

/-- Only a reservation changes the number of segments. -/
theorem numSegments_step {l : Label} (hs : step s l = .ok s') (t : SegSeqNumType) :
    (∃ data isControl sec usec, l = .reserve data isControl sec usec) ∨
      s'.numSegments t = s.numSegments t := by
  have hsame : s'.calls.map jobOf = s.calls.map jobOf →
      (∃ data isControl sec usec, l = .reserve data isControl sec usec) ∨
        s'.numSegments t = s.numSegments t := by
    intro he
    right
    rw [numSegments, numSegments, jobs, jobs, he]
  cases l with
  | reserve data isControl sec usec => exact .inl ⟨data, isControl, sec, usec, rfl⟩
  | pop i fresh =>
    obtain ⟨call, base, seg, sm, hc, -, -, rfl⟩ := pop_ok hs
    exact hsame (jobs_pop hc)
  | push i =>
    obtain ⟨call, base, seg, sm, hc, -, rfl⟩ := push_ok hs
    obtain ⟨pre, post, hjobs, hjobs', hother⟩ := jobs_push hc
    right
    by_cases ht : t = call.numType
    · subst ht
      rw [numSegments, numSegments, hjobs, jobs, hjobs']
      simp only [total_append, total_cons]
      rfl
    · exact congrArg (total Job.size) (hother t ht)
  | takeFailed adapter => obtain ⟨seg, rest, -, rfl⟩ := takeFailed_ok hs; exact hsame rfl
  | takeQueued adapter => obtain ⟨seg, sm, -, rfl⟩ := takeQueued_ok hs; exact hsame rfl
  | transmit k sec usec result =>
    obtain ⟨adapter, seg, isControl, -, rfl⟩ := transmit_ok hs
    exact hsame rfl
  | refuse k => obtain ⟨pass, -, -, rfl⟩ := refuse_ok hs; exact hsame rfl
  | file k => obtain ⟨pass, -, ⟨-, rfl⟩ | ⟨-, rfl⟩⟩ := file_ok hs <;> exact hsame rfl
  | queueStatus control data => obtain ⟨sm, -, rfl⟩ := queueStatus_ok hs; exact hsame rfl
  | retransmit segType seqNoStart seqNoEnd => cases hs; exact hsame rfl
  | recvPop fresh => obtain ⟨seg, sm, -, rfl⟩ := recvPop_ok hs; exact hsame rfl
  | recvDrop k => cases hs; exact hsame rfl
  | recvPush k frame => obtain ⟨seg, sm, -, -, -, rfl⟩ := recvPush_ok hs; exact hsame rfl
  | consume isControl => obtain ⟨seg, sm, -, rfl⟩ := consume_ok hs; exact hsame rfl
  | consumerDrop k => cases hs; exact hsame rfl
  | release k => obtain ⟨seg, sm, -, -, rfl⟩ := release_ok hs; exact hsame rfl

theorem numSegments_le {l : Label} (hs : step s l = .ok s') (t : SegSeqNumType) :
    s.numSegments t ≤ s'.numSegments t := by
  rcases numSegments_step hs t with ⟨data, isControl, sec, usec, rfl⟩ | he
  · cases hs
    rw [numSegments, numSegments, jobs_reserve, total_append]
    exact Nat.le_add_right _ _
  · exact he.ge

/-- Everything that holds while the numbers have not run out. -/
structure Flowing (s : Traffic) : Prop where
  owned : Owned s
  intact : Intact s
  calling : Calling s
  streams : (∀ t, s.numSegments t < 2 ^ 32) → ∀ t, InStream s t

theorem flowing_init : Flowing init :=
  ⟨owned_init, intact_init, calling_init, fun _ => inStream_init⟩

theorem step_calling {l : Label} (h : Calling s) (hs : step s l = .ok s') : Calling s' := by
  have hsame : s'.calls = s.calls → Calling s' := fun he => ⟨he ▸ h.valid, he ▸ h.more⟩
  cases l with
  | reserve data isControl sec usec => cases hs; exact calling_reserve h _ _ _ _
  | pop i fresh => exact calling_pop h hs
  | push i => exact calling_push h hs
  | takeFailed adapter => obtain ⟨seg, rest, -, rfl⟩ := takeFailed_ok hs; exact hsame rfl
  | takeQueued adapter => obtain ⟨seg, sm, -, rfl⟩ := takeQueued_ok hs; exact hsame rfl
  | transmit k sec usec result =>
    obtain ⟨adapter, seg, isControl, -, rfl⟩ := transmit_ok hs
    exact hsame rfl
  | refuse k => obtain ⟨pass, -, -, rfl⟩ := refuse_ok hs; exact hsame rfl
  | file k => obtain ⟨pass, -, ⟨-, rfl⟩ | ⟨-, rfl⟩⟩ := file_ok hs <;> exact hsame rfl
  | queueStatus control data => obtain ⟨sm, -, rfl⟩ := queueStatus_ok hs; exact hsame rfl
  | retransmit segType seqNoStart seqNoEnd => cases hs; exact hsame rfl
  | recvPop fresh => obtain ⟨seg, sm, -, rfl⟩ := recvPop_ok hs; exact hsame rfl
  | recvDrop k => cases hs; exact hsame rfl
  | recvPush k frame => obtain ⟨seg, sm, -, -, -, rfl⟩ := recvPush_ok hs; exact hsame rfl
  | consume isControl => obtain ⟨seg, sm, -, rfl⟩ := consume_ok hs; exact hsame rfl
  | consumerDrop k => cases hs; exact hsame rfl
  | release k => obtain ⟨seg, sm, -, -, rfl⟩ := release_ok hs; exact hsame rfl

theorem step_inStream {l : Label} (ho : Owned s) (hv : Calling s) (h : ∀ t, InStream s t)
    (hn : ∀ t, s'.numSegments t < 2 ^ 32) (hs : step s l = .ok s') : InStream s' t := by
  have hheap := fun p (hp : p ∈ s.sm.sendQueued) => step_heap ho hs hp
  have hqueue : s'.sm.mSegmentQueues (sendQueueType t) = s.sm.mSegmentQueues (sendQueueType t) →
      s'.sendQueue t = s.sendQueue t := fun he => sendQueue_congr he hheap
  cases l with
  | reserve data isControl sec usec =>
    cases hs
    exact inStream_reserve (h t) data isControl sec usec (hn t)
  | pop i fresh =>
    obtain ⟨call, base, seg, sm, hc, -, hpop, rfl⟩ := pop_ok hs
    obtain ⟨freeList, allocated, v, rfl, -⟩ := SegmentManager.popFreeSegment_ok hpop
    exact (h t).congr (by rw [jobs, jobs_pop hc]; rfl) rfl (hqueue rfl) rfl rfl
  | push i => exact inStream_push ho hv (h t) ((numSegments_le hs t).trans_lt (hn t)) hs
  | takeFailed adapter =>
    obtain ⟨seg, rest, -, rfl⟩ := takeFailed_ok hs
    exact (h t).congr rfl rfl (hqueue rfl) rfl rfl
  | takeQueued adapter => exact inStream_takeQueued h hs
  | transmit k sec usec result =>
    obtain ⟨adapter, seg, isControl, -, rfl⟩ := transmit_ok hs
    exact (h t).congr rfl rfl (hqueue rfl) rfl rfl
  | refuse k =>
    obtain ⟨pass, -, -, rfl⟩ := refuse_ok hs
    exact (h t).congr rfl rfl (hqueue rfl) rfl rfl
  | file k =>
    obtain ⟨pass, -, ⟨-, rfl⟩ | ⟨-, rfl⟩⟩ := file_ok hs <;>
      exact (h t).congr rfl rfl (hqueue rfl) rfl rfl
  | queueStatus control data =>
    obtain ⟨sm, hd, rfl⟩ := queueStatus_ok hs
    obtain ⟨freeList, allocated, rfl, -⟩ := SegmentManager.deallocateSentSegmentsByPeer_ok hd
    exact (h t).congr rfl rfl (hqueue rfl) rfl rfl
  | retransmit segType seqNoStart seqNoEnd =>
    cases hs
    have hsm : (s.retransmit segType seqNoStart seqNoEnd).sm.mNextSeqNo = s.sm.mNextSeqNo ∧
        (s.retransmit segType seqNoStart seqNoEnd).sm.mSegmentQueues = s.sm.mSegmentQueues := by
      rw [retransmit, SegmentManager.retransmitMissingSegmentsByPeer]
      split <;> exact ⟨rfl, rfl⟩
    exact (h t).congr rfl hsm.1 (hqueue (congrFun hsm.2 _)) rfl rfl
  | recvPop fresh =>
    obtain ⟨seg, sm, hpop, rfl⟩ := recvPop_ok hs
    obtain ⟨freeList, allocated, v, rfl, -⟩ := SegmentManager.popFreeSegment_ok hpop
    exact (h t).congr rfl rfl (hqueue rfl) rfl rfl
  | recvDrop k => cases hs; exact (h t).congr rfl rfl (hqueue rfl) rfl rfl
  | recvPush k frame =>
    obtain ⟨seg, sm, -, -, he, rfl⟩ := recvPush_ok hs
    obtain ⟨b, q, -, rfl⟩ := SegmentManager.enqueue_ok he
    refine (h t).congr rfl rfl (hqueue (Function.update_of_ne ?_ _ _)) rfl rfl
    cases t <;> cases (readHeader frame).isControl <;> simp [sendQueueType]
  | consume isControl =>
    obtain ⟨seg, sm, hd, rfl⟩ := consume_ok hs
    obtain ⟨queueType, q, ht, -, rfl⟩ := SegmentManager.dequeue_ok hd
    refine (h t).congr rfl rfl (hqueue (Function.update_of_ne ?_ _ _)) rfl rfl
    cases t <;> cases isControl <;> cases ht <;> simp [sendQueueType]
  | consumerDrop k => cases hs; exact (h t).congr rfl rfl (hqueue rfl) rfl rfl
  | release k =>
    obtain ⟨seg, sm, -, ha, rfl⟩ := release_ok hs
    obtain ⟨freeList, allocated, rfl, -⟩ := SegmentManager.addFreeSegmentToList_ok ha
    exact (h t).congr rfl rfl (hqueue rfl) rfl rfl

theorem step_flowing (s : Traffic) (l : Label) (s' : Traffic) (h : Flowing s) (hc : Unlent s l)
    (hs : step s l = .ok s') : Flowing s' := by
  obtain ⟨ho, hi⟩ := step_owned s l s' ⟨h.owned, h.intact⟩ hc hs
  refine ⟨ho, hi, step_calling h.calling hs, fun hn t => ?_⟩
  exact step_inStream h.owned h.calling
    (h.streams fun t => (numSegments_le hs t).trans_lt (hn t)) hn hs

theorem reached_flowing {ls : List Label} (hC : Runs.AllSteps step Unlent init ls)
    (hr : Runs.Reached step init ls s) : Flowing s :=
  Runs.throughout_of_allSteps step_flowing flowing_init hC hr

/-- What callers and sender threads do by themselves, without control messages of the peer. -/
def Label.IsSending : Label → Prop
  | .reserve .. | .pop .. | .push .. | .takeFailed .. | .takeQueued .. | .transmit .. | .refuse ..
  | .file .. => True
  | _ => False

/-- The messages of one type in the order of their reservations: numbered without gap or repeat,
contiguous, complete, and dequeued in this order. -/
structure SentInOrder (s : Traffic) (t : SegSeqNumType) : Prop where
  numbered : (s.stream t).map (fun p => p.seqNo.toNat) = List.range (s.stream t).length
  payload : ∀ j ∈ s.jobs t, j.pieces.flatMap Piece.payload = j.call.data.bytes
  mf : ∀ j ∈ s.jobs t, j.pieces.map Piece.mf = List.replicate (j.size - 1) true ++ [false]
  taken : (s.taken t).map Segment.piece <+: s.stream t
  drained : (∀ c ∈ s.calls, c.call.segIdx = c.call.data.numOfSegments) →
    (s.sm.mSegmentQueues (sendQueueType t)).mMainQueue = [] →
    (s.taken t).map Segment.piece = s.stream t

/-- **Concurrent senders never mix messages.** Whatever the order in which calls reserve, enqueue
and sender threads dequeue, with fewer than `2 ^ 32` segments of a type: what has been dequeued is
a prefix of the messages in the order of their reservations, and all of them in the end. -/
theorem sends_in_order {ls : List Label} (hl : ∀ l ∈ ls, l.IsSending)
    (hr : Runs.Reached step init ls s) (hn : ∀ t, s.numSegments t < 2 ^ 32) (t : SegSeqNumType) :
    SentInOrder s t := by
  have hC : Runs.AllSteps step Unlent init ls := by
    refine .of_labels (fun l hl' s => ?_) _
    have := hl l hl'
    cases l <;> trivial
  have hi := (reached_flowing hC hr).streams hn t
  obtain ⟨htaken, hdrained⟩ := taken_prefix hi
  have hlen : (s.stream t).length = s.numSegments t := length_flatMap fun j _ => j.length_pieces
  refine ⟨?_, fun j _ => j.flatMap_payload, fun j _ => j.map_mf, htaken, fun hall hmain => ?_⟩
  · rw [hlen]
    exact stream_seqNo hi.laid (hn t)
  · refine hdrained (fun j hj => ?_) (by rw [sendQueue, SegmentQueue.map, hmain]; rfl)
    obtain ⟨c, hc, rfl⟩ := List.mem_map.mp (List.mem_of_mem_filter hj)
    exact hall c hc

/-- Two messages of one segment each; the second is enqueued first. -/
theorem sends_in_order_crossed :
    ∃ s, Runs.Reached step init [.reserve oneByte false 0 0, .reserve oneByte false 0 0, .pop 1 7,
        .push 1, .pop 0 8, .push 0, .takeQueued 0] s ∧
      s.numSegments .kSNData = 2 ∧ SentInOrder s .kSNData := by
  obtain ⟨s, hr, hview⟩ : ∃ s, Runs.run step init [.reserve oneByte false 0 0,
        .reserve oneByte false 0 0, .pop 1 7, .push 1, .pop 0 8, .push 0, .takeQueued 0] = .ok s ∧
      (s.numSegments .kSNData, s.numSegments .kSNControl) = (2, 0) :=
    Runs.exists_run_of_view
      (fun s : Traffic => (s.numSegments .kSNData, s.numSegments .kSNControl)) rfl
  obtain ⟨hdata, hcontrol⟩ := Prod.mk.inj hview
  refine ⟨s, .of_run hr, hdata, sends_in_order (by simp [Label.IsSending]) (.of_run hr) ?_ _⟩
  intro t
  cases t with
  | kSNData => rw [hdata]; decide
  | kSNControl => rw [hcontrol]; decide

end Traffic
end Linux
end VirtualConnection
