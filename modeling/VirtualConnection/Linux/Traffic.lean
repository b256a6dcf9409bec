import VirtualConnection.Lib.Runs
import VirtualConnection.Linux.SegmentManager
import VirtualConnection.Linux.Sending

/-!
# Linux.Traffic

The threads that work on one segment manager: callers of `send_to_segment_manager`, one sender
thread for each adapter, receiver threads, and callers of `recv_from_segment_manager`. Control
messages of the peer (Retransmit, QueueStatus) come in at any time.

Each label of `step` is what one thread does under one lock. What a thread holds in its local
variables is part of the state, so that every order of the threads' steps is a list of labels. The
fields `written`, `taken` and `transmitted` record what happened; no step depends on them.

A label that its thread cannot take (no such call, nothing to dequeue) is `waiting`.
-/

namespace VirtualConnection
namespace Linux

open Bytes

/-- `ServerAdapter::send`: the media timestamp at offsets 20 and 24 of the frame. -/
def Segment.stampMedia (seg : Segment) (sec usec : UInt32) : Segment :=
  { seg with
    data := seg.data.store 20 (toBE 4 sec.toNat ++ toBE 4 usec.toNat)
      (by simp [segmentDataSize, kSegSize, kSegHeaderSize]) }

/-- A call of `send_to_segment_manager`: its loop, the first number it reserved, and the segment
between `pop_free_segment` and `enqueue`. -/
structure Call where
  call : SendCall
  base : UInt32
  seg : Option Addr

/-- What `sender_loop` makes of the result of `ServerAdapter::send`: `res == len`, or one of the
branches that put the segment into the failed list. -/
inductive SendResult where
  | sent
  | notSent
  deriving DecidableEq, Repr

/-- The local variables of a pass of `sender_loop`. -/
structure Pass where
  adapter : ℕ
  segmentToSend : Addr
  isControl : Bool
  result : Option SendResult
  deriving DecidableEq

/-- A frame handed to the socket, with the stream and the number it was sent for. -/
structure Transmission where
  adapter : ℕ
  segType : SegSeqNumType
  seqNo : UInt32
  frame : Area segmentDataSize

structure Traffic where
  sm : SegmentManager
  calls : List Call
  senders : List Pass
  receivers : List Addr
  consumers : List Addr
  written : List Segment
  taken : SegSeqNumType → List Segment
  transmitted : List Transmission

namespace Traffic

def init : Traffic where
  sm := .init
  calls := []
  senders := []
  receivers := []
  consumers := []
  written := []
  taken := fun _ => []
  transmitted := []

/-! ## Callers of `send_to_segment_manager` -/

/-- `get_next_seq_no`. -/
def reserve (s : Traffic) (data : Packet) (isControl : Bool) (sec usec : UInt32) : Traffic :=
  let (base, sm) := s.sm.getNextSeqNo (seqNumType isControl) (UInt32.ofNat data.numOfSegments)
  { s with
    sm := sm
    calls := s.calls ++ [⟨SendCall.start data isControl sec usec base, base, none⟩] }

/-- `pop_free_segment` in call number `i`. -/
def pop (s : Traffic) (i : ℕ) (fresh : Addr) : Except Stop Traffic :=
  match s.calls[i]? with
  | some ⟨call, base, none⟩ =>
    if call.segIdx < call.data.numOfSegments then
      match s.sm.popFreeSegment fresh with
      | .error e => .error e
      | .ok (seg, sm) => .ok { s with sm := sm, calls := s.calls.set i ⟨call, base, some seg⟩ }
    else .error .waiting
  | _ => .error .waiting

/-- The rest of the turn in call number `i`: write the segment and enqueue it. -/
def push (s : Traffic) (i : ℕ) : Except Stop Traffic :=
  match s.calls[i]? with
  | some ⟨call, base, some seg⟩ =>
    let sm := { s.sm with
      heap := Function.update s.sm.heap seg (call.writeSegment (s.sm.heap seg)) }
    match sm.enqueue (sendQueueType call.numType) seg with
    | .error e => .error e
    | .ok sm => .ok { s with
        sm := sm
        calls := s.calls.set i ⟨call.next, base, none⟩
        written := s.written ++ [call.writeSegment (s.sm.heap seg)] }
  | _ => .error .waiting

/-! ## Sender threads -/

/-- A pass that has just got its segment. -/
def startPass (s : Traffic) (sm : SegmentManager) (adapter : ℕ) (seg : Addr) : Traffic :=
  { s with
    sm := sm
    senders := s.senders ++ [⟨adapter, seg, (s.sm.heap seg).isControl, none⟩] }

/-- The sender thread of this adapter is in the middle of a pass. -/
def busy (s : Traffic) (adapter : ℕ) : Bool := s.senders.any fun pass => pass.adapter = adapter

/-- `pop_failed_segment`. -/
def takeFailed (s : Traffic) (adapter : ℕ) : Except Stop Traffic :=
  if s.busy adapter then .error .waiting
  else
    match s.sm.popFailedSegment with
    | (none, _) => .error .waiting
    | (some seg, sm) => .ok (s.startPass sm adapter seg)

/-- `dequeue(kDeqSendControlData)`. -/
def takeQueued (s : Traffic) (adapter : ℕ) : Except Stop Traffic :=
  if s.busy adapter then .error .waiting
  else
    match s.sm.dequeue .kDeqSendControlData with
    | .error e => .error e
    | .ok (none, _) => .error .waiting
    | .ok (some seg, sm) =>
      .ok { s.startPass sm adapter seg with
        taken := Function.update s.taken (s.sm.heap seg).numType
          (s.taken (s.sm.heap seg).numType ++ [s.sm.heap seg]) }

/-- `ServerAdapter::send` hands the frame to the socket; the socket's result is up to the label. -/
def transmit (s : Traffic) (k : ℕ) (sec usec : UInt32) (result : SendResult) :
    Except Stop Traffic :=
  match s.senders[k]? with
  | some ⟨adapter, seg, isControl, none⟩ =>
    let stamped := (s.sm.heap seg).stampMedia sec usec
    .ok { s with
      sm := { s.sm with heap := Function.update s.sm.heap seg stamped }
      senders := s.senders.set k ⟨adapter, seg, isControl, some result⟩
      transmitted := s.transmitted ++
        [⟨adapter, seqNumType isControl, stamped.seqNo, stamped.data⟩] }
  | _ => .error .waiting

/-- `ServerAdapter::send` returns before it reaches the socket, or the pass finds the loop paused:
the segment goes to the failed list. -/
def refuse (s : Traffic) (k : ℕ) : Except Stop Traffic :=
  match s.senders[k]? with
  | some ⟨_, seg, _, none⟩ =>
    .ok { s with sm := s.sm.addFailedSegmentToList seg, senders := s.senders.eraseIdx k }
  | _ => .error .waiting

/-- The end of a pass after `ServerAdapter::send`. -/
def file (s : Traffic) (k : ℕ) : Except Stop Traffic :=
  match s.senders[k]? with
  | some ⟨_, seg, isControl, some .sent⟩ =>
    .ok { s with
      sm := s.sm.addSentSegmentToList (seqNumType isControl) seg
      senders := s.senders.eraseIdx k }
  | some ⟨_, seg, _, some .notSent⟩ =>
    .ok { s with sm := s.sm.addFailedSegmentToList seg, senders := s.senders.eraseIdx k }
  | _ => .error .waiting

/-! ## Control messages of the peer -/

def queueStatus (s : Traffic) (lastSeqNoControl lastSeqNoData : UInt32) : Except Stop Traffic :=
  match s.sm.deallocateSentSegmentsByPeer lastSeqNoControl lastSeqNoData with
  | .error e => .error e
  | .ok sm => .ok { s with sm := sm }

def retransmit (s : Traffic) (segType : Int) (seqNoStart seqNoEnd : UInt32) : Traffic :=
  { s with sm := s.sm.retransmitMissingSegmentsByPeer segType seqNoStart seqNoEnd }

/-! ## Receiving -/

/-- `pop_free_segment` in a `receiver_loop`. -/
def recvPop (s : Traffic) (fresh : Addr) : Except Stop Traffic :=
  match s.sm.popFreeSegment fresh with
  | .error e => .error e
  | .ok (seg, sm) => .ok { s with sm := sm, receivers := s.receivers ++ [seg] }

/-- A pass that receives nothing or an ACK, and the segment popped at the end of a pass: nobody
gives it back. -/
def recvDrop (s : Traffic) (k : ℕ) : Traffic := { s with receivers := s.receivers.eraseIdx k }

/-- A pass that receives a frame. -/
def recvPush (s : Traffic) (k : ℕ) (frame : Area segmentDataSize) : Except Stop Traffic :=
  match s.receivers[k]? with
  | some seg =>
    if (readHeader frame).isAck then .error .waiting
    else
      let sm := { s.sm with heap := Function.update s.sm.heap seg (readHeader frame) }
      let queueType := if (readHeader frame).isControl then .kSQRecvControl else .kSQRecvData
      match sm.enqueue queueType seg with
      | .error e => .error e
      | .ok sm => .ok { s with sm := sm, receivers := s.receivers.eraseIdx k }
  | none => .error .waiting

/-- `dequeue` in `recv_from_segment_manager`. -/
def consume (s : Traffic) (isControl : Bool) : Except Stop Traffic :=
  match s.sm.dequeue (if isControl then .kDeqRecvControl else .kDeqRecvData) with
  | .error e => .error e
  | .ok (none, _) => .error .waiting
  | .ok (some seg, sm) => .ok { s with sm := sm, consumers := s.consumers ++ [seg] }

/-- The segment of an empty message is not given back. -/
def consumerDrop (s : Traffic) (k : ℕ) : Traffic := { s with consumers := s.consumers.eraseIdx k }

/-- `add_free_segment_to_list` in `recv_from_segment_manager`. -/
def release (s : Traffic) (k : ℕ) : Except Stop Traffic :=
  match s.consumers[k]? with
  | none => .error .waiting
  | some seg =>
    match s.sm.addFreeSegmentToList seg with
    | .error e => .error e
    | .ok sm => .ok { s with sm := sm, consumers := s.consumers.eraseIdx k }

/-! ## Steps -/

inductive Label where
  | reserve (data : Packet) (isControl : Bool) (sec usec : UInt32)
  | pop (i : ℕ) (fresh : Addr)
  | push (i : ℕ)
  | takeFailed (adapter : ℕ)
  | takeQueued (adapter : ℕ)
  | transmit (k : ℕ) (sec usec : UInt32) (result : SendResult)
  | refuse (k : ℕ)
  | file (k : ℕ)
  | queueStatus (lastSeqNoControl lastSeqNoData : UInt32)
  | retransmit (segType : Int) (seqNoStart seqNoEnd : UInt32)
  | recvPop (fresh : Addr)
  | recvDrop (k : ℕ)
  | recvPush (k : ℕ) (frame : Area segmentDataSize)
  | consume (isControl : Bool)
  | consumerDrop (k : ℕ)
  | release (k : ℕ)

def step (s : Traffic) : Label → Except Stop Traffic
  | .reserve data isControl sec usec => .ok (s.reserve data isControl sec usec)
  | .pop i fresh => s.pop i fresh
  | .push i => s.push i
  | .takeFailed adapter => s.takeFailed adapter
  | .takeQueued adapter => s.takeQueued adapter
  | .transmit k sec usec result => s.transmit k sec usec result
  | .refuse k => s.refuse k
  | .file k => s.file k
  | .queueStatus lastSeqNoControl lastSeqNoData => s.queueStatus lastSeqNoControl lastSeqNoData
  | .retransmit segType seqNoStart seqNoEnd => .ok (s.retransmit segType seqNoStart seqNoEnd)
  | .recvPop fresh => s.recvPop fresh
  | .recvDrop k => .ok (s.recvDrop k)
  | .recvPush k frame => s.recvPush k frame
  | .consume isControl => s.consume isControl
  | .consumerDrop k => .ok (s.consumerDrop k)
  | .release k => s.release k

/-! ## What a step can do -/

variable {s s' : Traffic}

theorem pop_ok {i : ℕ} {fresh : Addr} (h : s.pop i fresh = .ok s') :
    ∃ call base seg sm, s.calls[i]? = some ⟨call, base, none⟩ ∧
      call.segIdx < call.data.numOfSegments ∧ s.sm.popFreeSegment fresh = .ok (seg, sm) ∧
      s' = { s with sm := sm, calls := s.calls.set i ⟨call, base, some seg⟩ } := by
  rw [pop] at h
  split at h
  · next call base hc =>
    split at h
    · next hlt =>
      split at h
      · cases h
      · next seg sm hp => cases h; exact ⟨call, base, seg, sm, hc, hlt, hp, rfl⟩
    · cases h
  · cases h

theorem push_ok {i : ℕ} (h : s.push i = .ok s') :
    ∃ call base seg sm, s.calls[i]? = some ⟨call, base, some seg⟩ ∧
      SegmentManager.enqueue
        { s.sm with heap := Function.update s.sm.heap seg (call.writeSegment (s.sm.heap seg)) }
        (sendQueueType call.numType) seg = .ok sm ∧
      s' = { s with
        sm := sm
        calls := s.calls.set i ⟨call.next, base, none⟩
        written := s.written ++ [call.writeSegment (s.sm.heap seg)] } := by
  rw [push] at h
  split at h
  · next call base seg hc =>
    dsimp only at h
    split at h
    · cases h
    · next sm he => cases h; exact ⟨call, base, seg, sm, hc, he, rfl⟩
  · cases h

theorem takeFailed_ok {adapter : ℕ} (h : s.takeFailed adapter = .ok s') :
    ∃ seg rest, s.sm.mFailedSegmentList = seg :: rest ∧
      s' = s.startPass { s.sm with mFailedSegmentList := rest } adapter seg := by
  rw [takeFailed] at h
  split at h
  · cases h
  · rw [SegmentManager.popFailedSegment] at h
    split at h
    · cases h
    · next seg sm hp =>
      split at hp
      · cases hp
      · next rest hf => cases hp; cases h; exact ⟨seg, rest, hf, rfl⟩

theorem takeQueued_ok {adapter : ℕ} (h : s.takeQueued adapter = .ok s') :
    ∃ seg sm, s.sm.dequeue .kDeqSendControlData = .ok (some seg, sm) ∧
      s' = { s.startPass sm adapter seg with
        taken := Function.update s.taken (s.sm.heap seg).numType
          (s.taken (s.sm.heap seg).numType ++ [s.sm.heap seg]) } := by
  rw [takeQueued] at h
  split at h
  · cases h
  · split at h
    · cases h
    · cases h
    · next seg sm hd => cases h; exact ⟨seg, sm, hd, rfl⟩

theorem transmit_ok {k : ℕ} {sec usec : UInt32} {result : SendResult}
    (h : s.transmit k sec usec result = .ok s') :
    ∃ adapter seg isControl, s.senders[k]? = some ⟨adapter, seg, isControl, none⟩ ∧
      s' = { s with
        sm := { s.sm with
          heap := Function.update s.sm.heap seg ((s.sm.heap seg).stampMedia sec usec) }
        senders := s.senders.set k ⟨adapter, seg, isControl, some result⟩
        transmitted := s.transmitted ++
          [⟨adapter, seqNumType isControl, (s.sm.heap seg).seqNo,
            ((s.sm.heap seg).stampMedia sec usec).data⟩] } := by
  rw [transmit] at h
  split at h
  · next adapter seg isControl hk => cases h; exact ⟨adapter, seg, isControl, hk, rfl⟩
  · cases h

theorem refuse_ok {k : ℕ} (h : s.refuse k = .ok s') :
    ∃ pass, s.senders[k]? = some pass ∧ pass.result = none ∧
      s' = { s with
        sm := s.sm.addFailedSegmentToList pass.segmentToSend
        senders := s.senders.eraseIdx k } := by
  rw [refuse] at h
  split at h
  · next hk => cases h; exact ⟨_, hk, rfl, rfl⟩
  · cases h

theorem file_ok {k : ℕ} (h : s.file k = .ok s') :
    ∃ pass, s.senders[k]? = some pass ∧
      (pass.result = some .sent ∧
          s' = { s with
            sm := s.sm.addSentSegmentToList (seqNumType pass.isControl) pass.segmentToSend
            senders := s.senders.eraseIdx k } ∨
        pass.result = some .notSent ∧
          s' = { s with
            sm := s.sm.addFailedSegmentToList pass.segmentToSend
            senders := s.senders.eraseIdx k }) := by
  rw [file] at h
  split at h
  · next hk => cases h; exact ⟨_, hk, .inl ⟨rfl, rfl⟩⟩
  · next hk => cases h; exact ⟨_, hk, .inr ⟨rfl, rfl⟩⟩
  · cases h

theorem queueStatus_ok {control data : UInt32} (h : s.queueStatus control data = .ok s') :
    ∃ sm, s.sm.deallocateSentSegmentsByPeer control data = .ok sm ∧ s' = { s with sm := sm } := by
  rw [queueStatus] at h
  split at h
  · cases h
  · next sm hd => cases h; exact ⟨sm, hd, rfl⟩

theorem recvPop_ok {fresh : Addr} (h : s.recvPop fresh = .ok s') :
    ∃ seg sm, s.sm.popFreeSegment fresh = .ok (seg, sm) ∧
      s' = { s with sm := sm, receivers := s.receivers ++ [seg] } := by
  rw [recvPop] at h
  split at h
  · cases h
  · next seg sm hp => cases h; exact ⟨seg, sm, hp, rfl⟩

theorem recvPush_ok {k : ℕ} {frame : Area segmentDataSize} (h : s.recvPush k frame = .ok s') :
    ∃ seg sm, s.receivers[k]? = some seg ∧ (readHeader frame).isAck = false ∧
      SegmentManager.enqueue { s.sm with heap := Function.update s.sm.heap seg (readHeader frame) }
        (if (readHeader frame).isControl then .kSQRecvControl else .kSQRecvData) seg = .ok sm ∧
      s' = { s with sm := sm, receivers := s.receivers.eraseIdx k } := by
  rw [recvPush] at h
  split at h
  · next seg hk =>
    split at h
    · cases h
    · next hack =>
      dsimp only at h
      split at h
      · cases h
      · next sm he => cases h; exact ⟨seg, sm, hk, by simpa using hack, he, rfl⟩
  · cases h

theorem consume_ok {isControl : Bool} (h : s.consume isControl = .ok s') :
    ∃ seg sm, s.sm.dequeue (if isControl then .kDeqRecvControl else .kDeqRecvData) =
        .ok (some seg, sm) ∧
      s' = { s with sm := sm, consumers := s.consumers ++ [seg] } := by
  rw [consume] at h
  split at h
  · cases h
  · cases h
  · next seg sm hd => cases h; exact ⟨seg, sm, hd, rfl⟩

theorem release_ok {k : ℕ} (h : s.release k = .ok s') :
    ∃ seg sm, s.consumers[k]? = some seg ∧ s.sm.addFreeSegmentToList seg = .ok sm ∧
      s' = { s with sm := sm, consumers := s.consumers.eraseIdx k } := by
  rw [release] at h
  split at h
  · cases h
  · next seg hk =>
    split at h
    · cases h
    · next sm ha => cases h; exact ⟨seg, sm, hk, ha, rfl⟩

end Traffic
end Linux
end VirtualConnection
