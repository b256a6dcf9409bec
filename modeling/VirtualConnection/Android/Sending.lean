import VirtualConnection.Android.Receiving
import VirtualConnection.Linux.Sending

/-!
# Android.Sending

The sending side of `SegmentManager.java` with `SenderThread.java`: calls of
`send_to_segment_manager` that reserve numbers and enqueue their segments, the two send queues, the
failed sending queue, and at most one segment in the hand of the sender thread of each adapter. A
segment that `send` has accepted is recycled at once.

`getNextSeqNo` is one step here. A `Segment` object has one owner at a time, and `initByteArray`
gives it a new byte array when it is used again, so segments are values.

`Conserves` says where the numbers are. Below the number that a send queue expects, each one is in
that queue or has been taken out; the enqueued ones from there on wait in the pending queue. What has
been taken out is in a hand, in the failed sending queue, or with the peer.
-/

namespace VirtualConnection
namespace Android

open Bytes Linux

/-! ## Segments -/

namespace Segment

/-- `setByteArrayForMetadataField`. -/
def setField (segment : Segment) (value : UInt32) (fieldOffset : ℕ)
    (h : fieldOffset + 4 ≤ segmentDataSize) : Segment :=
  segment.store fieldOffset (toBE 4 value.toNat) (by simpa using h)

/-- `initByteArray`. -/
def initByteArray : Segment := Area.zero _

def setFlag (segment : Segment) (flag : UInt32) : Segment := segment.setField flag 8 (by decide)

def setMetadataNormal (segment : Segment) (seqNo : Int32) (length sec usec : UInt32) : Segment :=
  segment.setField seqNo.toUInt32 0 (by decide)
    |>.setField length 4 (by decide)
    |>.setField 0 8 (by decide)
    |>.setField sec 12 (by decide)
    |>.setField usec 16 (by decide)
    |>.setField 0 20 (by decide)
    |>.setField 0 24 (by decide)

def setMoreFragmentFlag (segment : Segment) : Segment :=
  segment.setFlag (segment.getFlag ||| kSegFlagMF)

def setControlFlag (segment : Segment) : Segment :=
  segment.setFlag (segment.getFlag ||| kSegFlagControl)

def setAckFlag (segment : Segment) : Segment :=
  segment.setFlag (segment.getFlag ||| kSegFlagAck)

/-- `setMetadataAck` with the fields of the segment that is acknowledged. -/
def setMetadataAck (segment : Segment) (length : UInt32) (received : Segment) : Segment :=
  segment.setField (headerField received 0) 0 (by decide)
    |>.setField length 4 (by decide)
    |>.setField received.getFlag 8 (by decide)
    |>.setAckFlag
    |>.setField (headerField received 12) 12 (by decide)
    |>.setField (headerField received 16) 16 (by decide)
    |>.setField (headerField received 20) 20 (by decide)
    |>.setField (headerField received 24) 24 (by decide)

def setPayloadData (segment : Segment) (bytes : List UInt8)
    (h : kSegHeaderSize + bytes.length ≤ segmentDataSize) : Segment :=
  segment.store kSegHeaderSize bytes h

theorem headerField_setField {segment : Segment} {value : UInt32} {off : ℕ}
    (h : off + 4 ≤ segmentDataSize) : headerField (segment.setField value off h) off = value := by
  have hfit : off + (toBE 4 value.toNat).length ≤ segment.1.length := by
    rw [segment.2]
    simpa using h
  refine headerField_of_take ?_
  have hload := load_overwrite hfit
  rwa [length_toBE] at hload

theorem headerField_setField_of_ne {segment : Segment} {value : UInt32} {off field : ℕ}
    (h : off + 4 ≤ segmentDataSize) (hne : field + 4 ≤ off ∨ off + 4 ≤ field) :
    headerField (segment.setField value off h) field = headerField segment field := by
  rcases hne with hne | hne
  · exact headerField_store _ hne
  · have hfit : off + (toBE 4 value.toNat).length ≤ segment.1.length := by
      rw [segment.2]
      simpa using h
    have hdrop := drop_overwrite hfit (n := field) (by simpa using hne)
    rw [headerField, headerField, setField, Area.store, hdrop]

theorem setMetadataNormal_spec (segment : Segment) (seqNo : Int32) (length sec usec : UInt32) :
    (segment.setMetadataNormal seqNo length sec usec).getSeqNo = seqNo ∧
      (segment.setMetadataNormal seqNo length sec usec).getFlag = 0 := by
  constructor
  · unfold getSeqNo setMetadataNormal
    iterate 6 rw [headerField_setField_of_ne _ (.inl (by decide))]
    rw [headerField_setField]
    rfl
  · unfold getFlag setMetadataNormal
    iterate 4 rw [headerField_setField_of_ne _ (.inl (by decide))]
    rw [headerField_setField]

theorem setFlag_spec (segment : Segment) (flag : UInt32) :
    (segment.setFlag flag).getSeqNo = segment.getSeqNo ∧ (segment.setFlag flag).getFlag = flag := by
  constructor
  · unfold getSeqNo setFlag
    rw [headerField_setField_of_ne _ (.inl (by decide))]
  · exact headerField_setField _

theorem setPayloadData_spec (segment : Segment) (bytes : List UInt8)
    (h : kSegHeaderSize + bytes.length ≤ segmentDataSize) :
    (segment.setPayloadData bytes h).getSeqNo = segment.getSeqNo ∧
      (segment.setPayloadData bytes h).getFlag = segment.getFlag := by
  constructor
  · unfold getSeqNo setPayloadData
    rw [headerField_store _ (by decide)]
  · exact headerField_store _ (by decide)

/-- The segment has this number of this stream, and is no acknowledgement. -/
def Carries (segment : Segment) (t : SegSeqNumType) (n : Int32) : Prop :=
  segment.isAck = false ∧ segment.numType = t ∧ segment.getSeqNo = n

instance (segment : Segment) (t : SegSeqNumType) (n : Int32) : Decidable (segment.Carries t n) :=
  inferInstanceAs (Decidable (_ ∧ _ ∧ _))

theorem flag_or_ack (flag : UInt32) : (flag ||| kSegFlagAck) &&& kSegFlagAck ≠ 0 := by
  have hbit : (flag ||| kSegFlagAck) &&& kSegFlagAck = kSegFlagAck := by
    refine UInt32.toBitVec_inj.mp ?_
    ext i hi
    simpa using Or.inr
  rw [hbit]
  decide

theorem isAck_setMetadataAck (segment : Segment) (length : UInt32) (received : Segment) :
    (segment.setMetadataAck length received).isAck = true := by
  have hflag : (segment.setMetadataAck length received).getFlag =
      received.getFlag ||| kSegFlagAck := by
    unfold setMetadataAck setAckFlag setFlag getFlag
    rw [headerField_setField_of_ne _ (.inl (by decide)),
      headerField_setField_of_ne _ (.inl (by decide)),
      headerField_setField_of_ne _ (.inl (by decide)),
      headerField_setField_of_ne _ (.inl (by decide)), headerField_setField, headerField_setField]
  rw [isAck, hflag]
  simpa using flag_or_ack received.getFlag

end Segment

/-- What the callers of `send_to_segment_manager` hand over: its `data_length` is an `int`, and not
0. -/
structure Packet where
  bytes : List UInt8
  nonempty : 0 < bytes.length
  fits : bytes.length < 2 ^ 31

/-- `num_of_segments`, in the arithmetic of an `int`. -/
def Packet.numOfSegments (data : Packet) : Int32 :=
  (Int32.ofNat data.bytes.length + Int32.ofNat kSegSize - 1) / Int32.ofNat kSegSize

/-- A call of `send_to_segment_manager` once `getNextSeqNo` has returned. -/
structure SendCall where
  data : Packet
  isControl : Bool
  allocatedSeqNo : Int32
  offset : ℕ
  segIdx : ℕ

namespace SendCall

def start (data : Packet) (isControl : Bool) (allocatedSeqNo : Int32) : SendCall :=
  ⟨data, isControl, allocatedSeqNo, 0, 0⟩

def numType (call : SendCall) : SegSeqNumType := seqNumType call.isControl

def payloadLength (call : SendCall) : ℕ :=
  if call.data.bytes.length - call.offset < kSegSize then call.data.bytes.length - call.offset
  else kSegSize

/-- What `System.arraycopy` takes from the packet. -/
def payload (call : SendCall) : List UInt8 :=
  (call.data.bytes.drop call.offset).take call.payloadLength

theorem payload_fits (call : SendCall) :
    kSegHeaderSize + call.payload.length ≤ segmentDataSize := by
  have hlen : call.payloadLength ≤ kSegSize := by
    unfold payloadLength
    split <;> omega
  have htake : call.payload.length ≤ call.payloadLength := List.length_take_le _ _
  simp only [segmentDataSize]
  omega

/-- Whether there is another turn of the loop. -/
def Continues (call : SendCall) : Prop := (call.segIdx : ℤ) < call.data.numOfSegments.toInt

instance (call : SendCall) : Decidable call.Continues := inferInstanceAs (Decidable (_ < _))

def header (call : SendCall) (sec usec : UInt32) : Segment :=
  let segment := Segment.initByteArray.setMetadataNormal call.allocatedSeqNo
    (UInt32.ofNat call.payloadLength) sec usec
  let segment :=
    if call.offset + call.payloadLength < call.data.bytes.length then segment.setMoreFragmentFlag
    else segment
  if call.isControl then segment.setControlFlag else segment

def segmentToEnqueue (call : SendCall) (sec usec : UInt32) : Segment :=
  (call.header sec usec).setPayloadData call.payload call.payload_fits

def next (call : SendCall) : SendCall :=
  { call with
    allocatedSeqNo := call.allocatedSeqNo + 1
    offset := call.offset + call.payloadLength
    segIdx := call.segIdx + 1 }

theorem flag_ack (more control : Bool) :
    (Linux.SendCall.flag more control &&& kSegFlagAck != 0) = false := by
  revert more control; decide

theorem header_spec (call : SendCall) (sec usec : UInt32) :
    (call.header sec usec).getSeqNo = call.allocatedSeqNo ∧
      (call.header sec usec).getFlag = Linux.SendCall.flag
        (call.offset + call.payloadLength < call.data.bytes.length) call.isControl := by
  obtain ⟨hseq, hflag⟩ := Segment.setMetadataNormal_spec Segment.initByteArray
    call.allocatedSeqNo (UInt32.ofNat call.payloadLength) sec usec
  unfold header Linux.SendCall.flag Segment.setControlFlag Segment.setMoreFragmentFlag
  by_cases hmore : call.offset + call.payloadLength < call.data.bytes.length <;>
    cases call.isControl <;> simp [hmore, hseq, hflag, Segment.setFlag_spec]

theorem segmentToEnqueue_carries (call : SendCall) (sec usec : UInt32) :
    (call.segmentToEnqueue sec usec).Carries call.numType call.allocatedSeqNo := by
  obtain ⟨hseq, hflag⟩ := call.header_spec sec usec
  obtain ⟨hseq', hflag'⟩ := (call.header sec usec).setPayloadData_spec call.payload call.payload_fits
  refine ⟨?_, ?_, hseq'.trans hseq⟩
  · rw [Segment.isAck, segmentToEnqueue, hflag', hflag]
    exact flag_ack _ _
  · rw [Segment.numType, Segment.isControl, segmentToEnqueue, hflag', hflag, numType,
      Linux.SendCall.flag_control]

end SendCall

/-- The segment of `sendAckSegment`. -/
def ackSegment (received : Segment) : Segment :=
  (Segment.initByteArray.setMetadataAck 3 received).setPayloadData "ACK".toUTF8.data.toList
    (by decide)

theorem isAck_ackSegment (received : Segment) : (ackSegment received).isAck = true := by
  unfold ackSegment Segment.isAck
  rw [(Segment.setPayloadData_spec _ _ _).2]
  exact Segment.isAck_setMetadataAck Segment.initByteArray 3 received

/-! ## The adapter -/

inductive ClientSocketState where
  | kClosed
  | kOpening
  | kOpened
  | kClosing
  deriving DecidableEq, Repr

inductive ClientAdapterState where
  | kDisconnected
  | kConnecting
  | kActive
  | kDisconnecting
  | kGoingSleep
  | kSleeping
  | kWakingUp
  deriving DecidableEq, Repr

/-- What the sender thread sees of its adapter. -/
structure ClientAdapter where
  mState : ClientAdapterState
  isDisconnectingOnPurpose : Bool
  isSuspended : Bool
  mClientSocket : ClientSocketState
  deriving DecidableEq, Repr

/-- `ClientSocket.send`; `impl` is what `sendImpl` returns, if it is called. -/
def ClientSocketState.send (socket : ClientSocketState) (impl : Int) : Int × ClientSocketState :=
  if socket ≠ .kOpened then (-1, socket) else (impl, if impl < 0 then .kClosed else socket)

namespace ClientAdapter

/-- `ClientAdapter.send`, on an adapter whose socket is there. -/
def send (adapter : ClientAdapter) (impl : Int) : Int × ClientAdapter :=
  if adapter.mState = .kSleeping ∨ adapter.mState = .kGoingSleep ∨ adapter.mState = .kWakingUp then
    (-1, adapter)
  else if adapter.mState ≠ .kActive then (-1, adapter)
  else
    let r := adapter.mClientSocket.send impl
    (r.1, { adapter with mClientSocket := r.2 })

end ClientAdapter

/-! ## The sender -/

/-- `hands` has what the sender threads hold, and `enqueued` what `enqueue` was called with. -/
structure Sender where
  mNextSendSeqNo : SegSeqNumType → Int32
  calls : List SendCall
  queues : SegSeqNumType → Queue Segment
  mFailedSendingQueue : List Segment
  hands : ℕ → Option Segment
  enqueued : List Segment

namespace Sender

def init : Sender := ⟨fun _ => 0, [], fun _ => .empty, [], fun _ => none, []⟩

/-- A call of `send_to_segment_manager` begins: `getNextSeqNo`. -/
def reserve (s : Sender) (data : Packet) (isControl : Bool) : Sender :=
  let t := seqNumType isControl
  { s with
    mNextSendSeqNo := Function.update s.mNextSendSeqNo t (s.mNextSendSeqNo t + data.numOfSegments)
    calls := s.calls ++ [.start data isControl (s.mNextSendSeqNo t)] }

/-- `enqueue` with `kSQSendControl` or `kSQSendData`. -/
def enqueue (s : Sender) (t : SegSeqNumType) (segment : Segment) : Sender :=
  { s with
    queues := Function.update s.queues t ((s.queues t).enqueue Segment.getSeqNo segment).2
    enqueued := s.enqueued ++ [segment] }

/-- A turn of the loop of call number `i`. -/
def push (s : Sender) (i : ℕ) (sec usec : UInt32) : Except Stop Sender :=
  match s.calls[i]? with
  | none => .error .waiting
  | some call =>
    if call.Continues then
      .ok (({ s with calls := s.calls.set i call.next } : Sender).enqueue call.numType
        (call.segmentToEnqueue sec usec))
    else .error .waiting

def addFailedSegmentToList (s : Sender) (segment : Segment) : Sender :=
  { s with mFailedSendingQueue := s.mFailedSendingQueue ++ [segment] }

/-- `popFailedSegment`, by the sender thread of the adapter. -/
def popFailedSegment (s : Sender) (adapter : ℕ) : Except Stop Sender :=
  match s.hands adapter, s.mFailedSendingQueue with
  | none, segment :: rest =>
    .ok { s with
      mFailedSendingQueue := rest
      hands := Function.update s.hands adapter (some segment) }
  | _, _ => .error .waiting

/-- The queue that `dequeue` takes from; it waits while both are empty. -/
def targetQueueType (s : Sender) : Option SegSeqNumType :=
  if (s.queues .kSNControl).mQueueLength ≠ 0 then some .kSNControl
  else if (s.queues .kSNData).mQueueLength ≠ 0 then some .kSNData
  else none

/-- `dequeue(kDeqSendControlData)`. -/
def dequeue (s : Sender) (adapter : ℕ) : Except Stop Sender :=
  match s.hands adapter, s.targetQueueType with
  | none, some t =>
    .ok { s with
      queues := Function.update s.queues t (s.queues t).dequeue.2
      hands := Function.update s.hands adapter (s.queues t).dequeue.1 }
  | _, _ => .error .waiting

/-- The rest of a turn of `senderThreadLoop`: the segment in hand goes to the failed sending queue,
or it is sent and recycled. The last component is what the connection takes. -/
def turn (s : Sender) (a : ℕ) (adapter : ClientAdapter) (impl : Int) :
    Except Stop (Sender × ClientAdapter × Option Segment) :=
  match s.hands a with
  | none => .error .waiting
  | some segmentToSend =>
    let s' := { s with hands := Function.update s.hands a none }
    if adapter.mState = .kDisconnecting ∨ adapter.mState = .kDisconnected ∨
        adapter.isDisconnectingOnPurpose then
      .ok (s'.addFailedSegmentToList segmentToSend, adapter, none)
    else if adapter.isSuspended then .ok (s'.addFailedSegmentToList segmentToSend, adapter, none)
    else if (adapter.send impl).1 < 0 then
      .ok (s'.addFailedSegmentToList segmentToSend, (adapter.send impl).2, none)
    else .ok (s', (adapter.send impl).2, some segmentToSend)

end Sender

/-! ## Where the numbers are -/

namespace Queue

/-- The numbers below the expected one are out or in the queue, and the other ones that were enqueued
wait. -/
structure Conserves (t : SegSeqNumType) (out enqueued : Int32 → Prop) (q : Queue Segment) : Prop where
  below : ∀ n, 0 ≤ n → n < q.mExpectedSeqNo → out n ∨ ∃ x ∈ q.mQueue, x.Carries t n
  waiting : ∀ n, enqueued n → n < q.mExpectedSeqNo ∨ ∃ x ∈ q.mPendingQueue, x.Carries t n
  pending : ∀ x ∈ q.mPendingQueue, x.Carries t x.getSeqNo ∧ enqueued x.getSeqNo

variable {t : SegSeqNumType} {out enqueued : Int32 → Prop} {q : Queue Segment} {segment : Segment}
  {pending : List Segment}

theorem conserves_empty : Conserves t out (fun _ => False) (empty : Queue Segment) where
  below := fun _ h0 hlt => absurd hlt (Int32.not_lt.mpr h0)
  waiting := nofun
  pending := nofun

/-- A segment below the expected number need not wait. -/
theorem Conserves.drop (h : Conserves t out enqueued { q with mPendingQueue := segment :: pending })
    (hlt : segment.getSeqNo < q.mExpectedSeqNo) :
    Conserves t out enqueued { q with mPendingQueue := pending } where
  below := h.below
  waiting := by
    intro n hn
    rcases h.waiting n hn with hlow | ⟨x, hx, hn⟩
    · exact .inl hlow
    · rcases List.mem_cons.mp hx with rfl | hx
      · exact .inl (hn.2.2 ▸ hlt)
      · exact .inr ⟨x, hx, hn⟩
  pending := fun x hx => h.pending x (List.mem_cons_of_mem _ hx)

theorem lt_add_one {n m : Int32} (hm : m.toInt + 1 < 2 ^ 31) : n < m + 1 ↔ n < m ∨ n = m := by
  have hlow := Int32.le_toInt m
  have hone : (m + 1).toInt = m.toInt + 1 := by
    rw [Int32.toInt_add, Int32.toInt_one]
    exact Int.bmod_eq_of_le (by omega) (by omega)
  rw [Int32.lt_iff_toInt_lt, Int32.lt_iff_toInt_lt, hone, ← Int32.toInt_inj]
  omega

theorem Conserves.offerLast
    (h : Conserves t out enqueued { q with mPendingQueue := segment :: pending })
    (hmax : segment.getSeqNo.toInt + 1 < 2 ^ 31) (he : segment.getSeqNo = q.mExpectedSeqNo) :
    Conserves t out enqueued { q.offerLast segment with mPendingQueue := pending } where
  below := by
    intro n h0 hlt
    rcases (lt_add_one (he ▸ hmax)).mp hlt with hlt | rfl
    · rcases h.below n h0 hlt with hout | ⟨x, hx, hn⟩
      · exact .inl hout
      · exact .inr ⟨x, List.mem_append_left _ hx, hn⟩
    · refine .inr ⟨segment, List.mem_append_right _ (by simp), ?_⟩
      exact he ▸ (h.pending segment List.mem_cons_self).1
  waiting := by
    intro n hn
    have hstep := (lt_add_one (n := n) (he ▸ hmax)).mpr
    rcases h.waiting n hn with hlow | ⟨x, hx, hn⟩
    · exact .inl (hstep (.inl hlow))
    · rcases List.mem_cons.mp hx with rfl | hx
      · exact .inl (hstep (.inr (hn.2.2 ▸ he)))
      · exact .inr ⟨x, hx, hn⟩
  pending := fun x hx => h.pending x (List.mem_cons_of_mem _ hx)

/-- The last loop of `enqueue`: induction on the pending list. -/
theorem Conserves.drainPending (hmax : ∀ n, enqueued n → n.toInt + 1 < 2 ^ 31)
    (pending : List Segment) : ∀ (b : Bool) (q : Queue Segment),
      Conserves t out enqueued { q with mPendingQueue := pending } →
      Conserves t out enqueued (Queue.drainPending Segment.getSeqNo b q pending).2 := by
  induction pending with
  | nil => intro b q h; exact h
  | cons walker rest ih =>
    intro b q h
    unfold Queue.drainPending
    split
    · next hgt => exact ih b q (h.drop hgt)
    · next hle =>
      split
      · exact h
      · next hge =>
        have he : walker.getSeqNo = q.mExpectedSeqNo :=
          Int32.le_antisymm (Int32.not_lt.mp hge) (Int32.not_lt.mp hle)
        have hwalker := hmax _ (h.pending walker List.mem_cons_self).2
        exact ih true (q.offerLast walker) (h.offerLast hwalker he)

/-- **`enqueue` loses no number.** -/
theorem Conserves.enqueue (h : Conserves t out enqueued q)
    (hmine : segment.Carries t segment.getSeqNo)
    (hmax : ∀ n, enqueued n ∨ n = segment.getSeqNo → n.toInt + 1 < 2 ^ 31) :
    Conserves t out (fun n => enqueued n ∨ n = segment.getSeqNo)
      (q.enqueue Segment.getSeqNo segment).2 := by
  have hseg := hmax _ (.inr rfl)
  have hnew : Conserves t out (fun n => enqueued n ∨ n = segment.getSeqNo)
      { q with mPendingQueue := segment :: q.mPendingQueue } := by
    refine ⟨h.below, fun n hn => ?_, fun x hx => ?_⟩
    · rcases hn with hn | rfl
      · rcases h.waiting n hn with hlow | ⟨x, hx, hn⟩
        · exact .inl hlow
        · exact .inr ⟨x, List.mem_cons_of_mem _ hx, hn⟩
      · exact .inr ⟨segment, List.mem_cons_self, hmine⟩
    · rcases List.mem_cons.mp hx with rfl | hx
      · exact ⟨hmine, .inr rfl⟩
      · exact (h.pending x hx).imp id .inl
  unfold Queue.enqueue
  split
  · next he => exact (hnew.offerLast hseg he).drainPending hmax q.mPendingQueue true _
  · split
    · next hlt => exact hnew.drop hlt
    · have hperm : (insertPending Segment.getSeqNo segment q.mPendingQueue).Perm _ :=
        insertPending_perm segment q.mPendingQueue
      refine Conserves.drainPending hmax _ false q ⟨hnew.below, fun n hn => ?_, fun x hx => ?_⟩
      · exact (hnew.waiting n hn).imp id fun ⟨x, hx, hxn⟩ => ⟨x, hperm.mem_iff.mpr hx, hxn⟩
      · exact hnew.pending x (hperm.mem_iff.mp hx)

theorem Conserves.dequeue (h : Conserves t out enqueued q) :
    Conserves t (fun n => out n ∨ ∃ x, q.dequeue.1 = some x ∧ x.Carries t n) enqueued
      q.dequeue.2 := by
  unfold Queue.dequeue
  split
  · exact ⟨fun n h0 hlt => (h.below n h0 hlt).imp .inl id, h.waiting, h.pending⟩
  · next segment rest hq =>
    refine ⟨fun n h0 hlt => ?_, h.waiting, h.pending⟩
    rcases h.below n h0 hlt with hout | ⟨x, hx, hn⟩
    · exact .inl (.inl hout)
    · rw [hq] at hx
      rcases List.mem_cons.mp hx with rfl | hx
      · exact .inl (.inr ⟨_, rfl, hn⟩)
      · exact .inr ⟨x, hx, hn⟩

theorem Conserves.mono {out' enqueued' : Int32 → Prop} (h : Conserves t out enqueued q)
    (hout : ∀ n, out n → out' n) (henq : ∀ n, enqueued n ↔ enqueued' n) :
    Conserves t out' enqueued' q where
  below := fun n h0 hlt => (h.below n h0 hlt).imp (hout n) id
  waiting := fun n hn => h.waiting n ((henq n).mpr hn)
  pending := fun x hx => (h.pending x hx).imp id (henq _).mp

end Queue

namespace Sender

/-- A segment that was taken out of its send queue, and not yet sent, has the number. -/
def Taken (s : Sender) (t : SegSeqNumType) (n : Int32) : Prop :=
  (∃ x ∈ s.mFailedSendingQueue, x.Carries t n) ∨ ∃ a x, s.hands a = some x ∧ x.Carries t n

/-- A segment in a send queue, in a pending queue, in the failed sending queue or in a hand has the
number. -/
def Holds (s : Sender) (t : SegSeqNumType) (n : Int32) : Prop :=
  (∃ x ∈ (s.queues t).mQueue, x.Carries t n) ∨ (∃ x ∈ (s.queues t).mPendingQueue, x.Carries t n) ∨
    s.Taken t n

/-- The number was assigned, and its segment enqueued. -/
def Enqueued (s : Sender) (t : SegSeqNumType) (n : Int32) : Prop := ∃ x ∈ s.enqueued, x.Carries t n

instance (s : Sender) (t : SegSeqNumType) (n : Int32) : Decidable (s.Enqueued t n) :=
  inferInstanceAs (Decidable (∃ x ∈ s.enqueued, x.Carries t n))

/-- The call goes through without an overflow. -/
structure Reserved (next : Int32) (call : SendCall) : Prop where
  nonneg : 0 ≤ call.allocatedSeqNo.toInt
  fits : call.allocatedSeqNo.toInt + call.data.numOfSegments.toInt ≤ next.toInt + call.segIdx

/-- What the sender has taken out of its queues is still there, or it is `out`. -/
structure Conserves (out : SegSeqNumType → Int32 → Prop) (s : Sender) : Prop where
  queues : ∀ t, (s.queues t).Conserves t (fun n => out t n ∨ s.Taken t n) (s.Enqueued t)
  nonneg : ∀ t, 0 ≤ (s.mNextSendSeqNo t).toInt
  numbers : ∀ t n, s.Enqueued t n → 0 ≤ n.toInt ∧ n.toInt < (s.mNextSendSeqNo t).toInt
  calls : ∀ call ∈ s.calls, Reserved (s.mNextSendSeqNo call.numType) call

variable {out out' : SegSeqNumType → Int32 → Prop} {s s' : Sender}

theorem conserves_init : Conserves out init where
  queues := fun t => Queue.conserves_empty.mono (fun _ => id) (by simp [Enqueued, init])
  nonneg := by intro t; cases t <;> decide
  numbers := by simp [Enqueued, init]
  calls := by simp [init]

/-- **Every enqueued number is out or held.** -/
theorem Conserves.holds (h : Conserves out s) {t : SegSeqNumType} {n : Int32}
    (hn : s.Enqueued t n) : out t n ∨ s.Holds t n := by
  have h0 : 0 ≤ n := Int32.le_iff_toInt_le.mpr (h.numbers t n hn).1
  rcases (h.queues t).waiting n hn with hlt | hpending
  · rcases (h.queues t).below n h0 hlt with (hout | htaken) | hqueue
    · exact .inl hout
    · exact .inr (.inr (.inr htaken))
    · exact .inr (.inl hqueue)
  · exact .inr (.inr (.inl hpending))

/-- What leaves the failed sending queue or a hand must be out. -/
theorem Conserves.of_taken {failed : List Segment} {hands : ℕ → Option Segment}
    (h : Conserves out s) (ht : ∀ t n, out t n ∨ s.Taken t n → out' t n ∨
      ({ s with mFailedSendingQueue := failed, hands := hands } : Sender).Taken t n) :
    Conserves out' { s with mFailedSendingQueue := failed, hands := hands } where
  queues := fun t => (h.queues t).mono (ht t) fun _ => Iff.rfl
  nonneg := h.nonneg
  numbers := h.numbers
  calls := h.calls

theorem Conserves.mono (h : Conserves out s) (hout : ∀ t n, out t n → out' t n) :
    Conserves out' s :=
  h.of_taken fun t n ht => ht.imp (hout t n) id

theorem Conserves.reserve (h : Conserves out s) {data : Packet} {isControl : Bool}
    (hnum : 0 ≤ data.numOfSegments.toInt)
    (hfit : (s.mNextSendSeqNo (seqNumType isControl)).toInt + data.numOfSegments.toInt < 2 ^ 31) :
    Conserves out (s.reserve data isControl) := by
  have hnext : ∀ t, (s.mNextSendSeqNo t).toInt ≤
      ((s.reserve data isControl).mNextSendSeqNo t).toInt ∧ (t = seqNumType isControl →
        ((s.reserve data isControl).mNextSendSeqNo t).toInt =
          (s.mNextSendSeqNo t).toInt + data.numOfSegments.toInt) := by
    intro t
    by_cases ht : t = seqNumType isControl
    · subst ht
      have h0 := h.nonneg (seqNumType isControl)
      have hsum : (s.mNextSendSeqNo (seqNumType isControl) + data.numOfSegments).toInt =
          (s.mNextSendSeqNo (seqNumType isControl)).toInt + data.numOfSegments.toInt := by
        rw [Int32.toInt_add]
        exact Int.bmod_eq_of_le (by omega) (by omega)
      simp only [Sender.reserve, Function.update_self, hsum]
      exact ⟨by omega, fun _ => by omega⟩
    · simp [Sender.reserve, ht]
  refine ⟨h.queues, fun t => (h.nonneg t).trans (hnext t).1, fun t n hn => ?_, fun call hc => ?_⟩
  · obtain ⟨h0, hlt⟩ := h.numbers t n hn
    exact ⟨h0, hlt.trans_le (hnext t).1⟩
  · rcases List.mem_append.mp hc with hc | hc
    · obtain ⟨h0, hfits⟩ := h.calls call hc
      have hle := (hnext call.numType).1
      exact ⟨h0, by omega⟩
    · obtain rfl := List.mem_singleton.mp hc
      have heq := (hnext (seqNumType isControl)).2 rfl
      refine ⟨h.nonneg _, ?_⟩
      show (s.mNextSendSeqNo (seqNumType isControl)).toInt + data.numOfSegments.toInt ≤
        ((s.reserve data isControl).mNextSendSeqNo (seqNumType isControl)).toInt + ((0 : ℕ) : ℤ)
      omega

theorem enqueued_enqueue {t : SegSeqNumType} {segment : Segment} {m : Int32}
    (hm : segment.Carries t m) (t' : SegSeqNumType) (n : Int32) :
    (s.enqueue t segment).Enqueued t' n ↔ s.Enqueued t' n ∨ t' = t ∧ n = m := by
  have hseg : segment.Carries t' n ↔ t' = t ∧ n = m := by
    obtain ⟨hack, rfl, rfl⟩ := hm
    unfold Segment.Carries
    exact ⟨fun ⟨_, ht, hn⟩ => ⟨ht.symm, hn.symm⟩, fun ⟨ht, hn⟩ => ⟨hack, ht.symm, hn.symm⟩⟩
  rw [← hseg]
  simp only [Enqueued, enqueue, List.mem_append, List.mem_singleton]
  constructor
  · rintro ⟨x, hx | rfl, hn⟩
    · exact .inl ⟨x, hx, hn⟩
    · exact .inr hn
  · rintro (⟨x, hx, hn⟩ | hn)
    · exact ⟨x, .inl hx, hn⟩
    · exact ⟨segment, .inr rfl, hn⟩

theorem Conserves.enqueue (h : Conserves out s) {t : SegSeqNumType} {segment : Segment} {m : Int32}
    (hm : segment.Carries t m) (h0 : 0 ≤ m.toInt) (hlt : m.toInt < (s.mNextSendSeqNo t).toInt) :
    Conserves out (s.enqueue t segment) := by
  have hmax : ∀ n, s.Enqueued t n ∨ n = segment.getSeqNo → n.toInt + 1 < 2 ^ 31 := by
    have hnext := Int32.toInt_lt (s.mNextSendSeqNo t)
    rintro n (hn | rfl)
    · have := (h.numbers t n hn).2
      omega
    · rw [hm.2.2]
      omega
  refine ⟨fun t' => ?_, h.nonneg, fun t' n hn => ?_, h.calls⟩
  · have henq := enqueued_enqueue (s := s) hm t'
    by_cases ht : t' = t
    · subst ht
      have hq := (h.queues t').enqueue (hm.2.2.symm ▸ hm) hmax
      simp only [Sender.enqueue, Function.update_self]
      refine hq.mono (fun _ => id) fun n => ?_
      rw [hm.2.2]
      exact ((henq n).trans (by simp)).symm
    · simp only [Sender.enqueue, Function.update_of_ne ht]
      exact (h.queues t').mono (fun _ => id) fun n => ((henq n).trans (by simp [ht])).symm
  · rcases (enqueued_enqueue hm t' n).mp hn with hn | ⟨rfl, rfl⟩
    · exact h.numbers t' n hn
    · exact ⟨h0, hlt⟩

theorem Conserves.push (h : Conserves out s) {i : ℕ} {sec usec : UInt32}
    (hs : s.push i sec usec = .ok s') : Conserves out s' := by
  unfold Sender.push at hs
  split at hs
  · cases hs
  next call hcall =>
  split at hs
  · next hcont =>
    cases hs
    obtain ⟨h0, hfits⟩ := h.calls call (List.mem_of_getElem? hcall)
    have hlt : call.allocatedSeqNo.toInt < (s.mNextSendSeqNo call.numType).toInt := by
      unfold SendCall.Continues at hcont
      omega
    have hone : (call.allocatedSeqNo + 1).toInt = call.allocatedSeqNo.toInt + 1 := by
      have hnext := Int32.toInt_lt (s.mNextSendSeqNo call.numType)
      rw [Int32.toInt_add, Int32.toInt_one]
      exact Int.bmod_eq_of_le (by omega) (by omega)
    have hcalls : Conserves out { s with calls := s.calls.set i call.next } := by
      refine { h with calls := fun c hc => ?_ }
      rcases List.mem_or_eq_of_mem_set hc with hc | rfl
      · exact h.calls c hc
      · have hnext : Reserved (s.mNextSendSeqNo call.numType) call.next := by
          constructor <;> simp only [SendCall.next, hone] <;> omega
        exact hnext
    exact hcalls.enqueue (call.segmentToEnqueue_carries sec usec) h0 hlt
  · cases hs

theorem Conserves.popFailedSegment (h : Conserves out s) {adapter : ℕ}
    (hs : s.popFailedSegment adapter = .ok s') : Conserves out s' := by
  unfold Sender.popFailedSegment at hs
  split at hs
  · next segment rest hhand hfailed =>
    cases hs
    refine h.of_taken fun t n ht => ht.imp id ?_
    rintro (⟨x, hx, hn⟩ | ⟨a, x, hx, hn⟩)
    · rw [hfailed] at hx
      rcases List.mem_cons.mp hx with rfl | hx
      · exact .inr ⟨adapter, x, by simp, hn⟩
      · exact .inl ⟨x, hx, hn⟩
    · have ha : a ≠ adapter := by
        rintro rfl
        simp [hhand] at hx
      exact .inr ⟨a, x, by simpa [ha] using hx, hn⟩
  · cases hs

theorem Conserves.dequeue (h : Conserves out s) {adapter : ℕ}
    (hs : s.dequeue adapter = .ok s') : Conserves out s' := by
  unfold Sender.dequeue at hs
  split at hs
  · next t hhand _ =>
    cases hs
    have hkeep : ∀ t' n, s.Taken t' n → ({ s with
        queues := Function.update s.queues t (s.queues t).dequeue.2
        hands := Function.update s.hands adapter (s.queues t).dequeue.1 } : Sender).Taken t' n := by
      rintro t' n (hx | ⟨a, x, hx, hn⟩)
      · exact .inl hx
      · have ha : a ≠ adapter := by
          rintro rfl
          simp [hhand] at hx
        exact .inr ⟨a, x, by simpa [ha] using hx, hn⟩
    refine ⟨fun t' => ?_, h.nonneg, h.numbers, h.calls⟩
    by_cases ht : t' = t
    · subst ht
      have hq := (h.queues t').dequeue
      simp only [Function.update_self]
      refine hq.mono (fun n hn => ?_) fun _ => Iff.rfl
      rcases hn with (hout | htaken) | ⟨x, hx, hxn⟩
      · exact .inl hout
      · exact .inr (hkeep t' n htaken)
      · exact .inr (.inr ⟨adapter, x, by simpa using hx, hxn⟩)
    · simp only [Function.update_of_ne ht]
      exact (h.queues t').mono (fun n hn => hn.imp id (hkeep t' n)) fun _ => Iff.rfl
  · cases hs

/-- A turn of the loop: the segment in hand fails, or the connection takes it. -/
theorem Conserves.turn (h : Conserves out s) {a : ℕ} {adapter adapter' : ClientAdapter}
    {impl : Int} {sent : Option Segment} (hs : s.turn a adapter impl = .ok (s', adapter', sent)) :
    Conserves (fun t n => out t n ∨ ∃ x, sent = some x ∧ x.Carries t n) s' := by
  unfold Sender.turn at hs
  split at hs
  · cases hs
  next segment hhand =>
  have hrest : ∀ t n, s.Taken t n →
      ({ s with hands := Function.update s.hands a none } : Sender).Taken t n ∨
        segment.Carries t n := by
    rintro t n (hx | ⟨b, x, hx, hn⟩)
    · exact .inl (.inl hx)
    · by_cases hb : b = a
      · subst hb
        obtain rfl := Option.some.inj (hhand.symm.trans hx)
        exact .inr hn
      · exact .inl (.inr ⟨b, x, by simpa [hb] using hx, hn⟩)
  have hfail : Conserves out (({ s with hands := Function.update s.hands a none } :
      Sender).addFailedSegmentToList segment) := by
    refine h.of_taken fun t n ht => ht.imp id fun htaken => ?_
    rcases hrest t n htaken with (⟨x, hx, hn⟩ | hx) | hn
    · exact .inl ⟨x, List.mem_append_left _ hx, hn⟩
    · exact .inr hx
    · exact .inl ⟨segment, List.mem_append_right _ (by simp), hn⟩
  simp only at hs
  split at hs
  · cases hs
    exact hfail.mono fun t n => .inl
  split at hs
  · cases hs
    exact hfail.mono fun t n => .inl
  split at hs
  · cases hs
    exact hfail.mono fun t n => .inl
  · cases hs
    refine h.of_taken fun t n ht => ?_
    rcases ht with hout | htaken
    · exact .inl (.inl hout)
    · rcases hrest t n htaken with htaken | hn
      · exact .inr htaken
      · exact .inl (.inr ⟨segment, rfl, hn⟩)

end Sender

end Android
end VirtualConnection
