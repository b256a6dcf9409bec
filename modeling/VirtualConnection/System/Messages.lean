import Mathlib.Data.List.ReduceOption
import VirtualConnection.Android.ProtocolManager
import VirtualConnection.Linux.ProtocolManager
import VirtualConnection.Linux.Traffic

/-!
# System.Messages

A message of `Core::send` on Linux, as frames, to `recv_from_segment_manager` on Android. The frames
are what `ServerAdapter::send` hands to the socket, with any media timestamps.

`message_transferred`: frames that arrive in order are queued in order, and the receiver takes exactly
the frames of the message out of the queue and returns the message.
-/

namespace VirtualConnection
namespace LinuxToAndroid

open Bytes Linux

/-- A frame that a segment is sent as. -/
def IsFrame (sent : Linux.Segment) (frame : Android.Segment) : Prop :=
  ∃ sec usec, frame = (sent.stampMedia sec usec).data

/-- Piece number `i` of a packet, in a received frame. -/
structure Framed (data : Linux.Packet) (isControl : Bool) (base : UInt32) (i : ℕ)
    (frame : Android.Segment) : Prop where
  seqNo : frame.getSeqNo = (base + UInt32.ofNat i).toInt32
  control : frame.isControl = isControl
  carried : Carried data i (readHeader frame)

/-! ## Frames -/

structure HasHeader (seg : Linux.Segment) (frame : Android.Segment) : Prop where
  seqNo : (readHeader frame).seqNo = seg.seqNo
  len : (readHeader frame).len = seg.len
  flag : (readHeader frame).flag = seg.flag

theorem HasHeader.stampMedia {seg : Linux.Segment} (h : HasHeader seg seg.data) (sec usec : UInt32) :
    HasHeader seg (seg.stampMedia sec usec).data := by
  have hfit : 20 + (toBE 4 sec.toNat ++ toBE 4 usec.toNat).length ≤ segmentDataSize := by
    simp [segmentDataSize, kSegSize, kSegHeaderSize]
  exact ⟨(headerField_store hfit (by decide)).trans h.seqNo,
    (headerField_store hfit (by decide)).trans h.len,
    (headerField_store hfit (by decide)).trans h.flag⟩

theorem drop_stampMedia (seg : Linux.Segment) (sec usec : UInt32) :
    (seg.stampMedia sec usec).data.1.drop kSegHeaderSize = seg.data.1.drop kSegHeaderSize := by
  have hlen : (toBE 4 sec.toNat ++ toBE 4 usec.toNat).length = 8 := by simp
  have hdata := seg.data.2
  refine drop_overwrite ?_ (by rw [hlen]; decide)
  simp only [hlen, hdata]
  decide

theorem hasHeader_segments (free : ℕ → Linux.Segment) (k : ℕ) : ∀ call : Linux.SendCall,
    ∀ seg ∈ call.segments free k, HasHeader seg seg.data := by
  induction k with
  | zero => exact fun _ _ h => nomatch h
  | succ k ih =>
    intro call seg hseg
    rcases List.mem_cons.mp hseg with rfl | hseg
    · obtain ⟨hseq, hlen, hflag⟩ := SendCall.readHeader_writeSegment call (free call.segIdx)
      exact ⟨hseq, hlen, hflag⟩
    · exact ih call.next seg hseg

theorem framed_of_isPiece {data : Linux.Packet} {isControl : Bool} {base : UInt32} {i : ℕ}
    {sent : Linux.Segment} {frame : Android.Segment} (hp : SendCall.IsPiece data isControl base i sent)
    (hh : HasHeader sent sent.data) (hf : IsFrame sent frame) : Framed data isControl base i frame := by
  obtain ⟨sec, usec, rfl⟩ := hf
  have hheader := hh.stampMedia sec usec
  refine ⟨congrArg UInt32.toInt32 (hheader.seqNo.trans hp.seqNo), ?_, ?_⟩
  · rw [← hp.control]
    exact congrArg (fun flag => flag &&& kSegFlagControl != 0) hheader.flag
  · exact hp.carried ⟨hheader.len, hheader.flag, drop_stampMedia sent sec usec⟩

section CoreSend

variable {sPacketId : UInt16} {dat : List UInt8} {hfits : dat.length + kProtHeaderSize < 2 ^ 32}
  {isControl : Bool} {sec usec base : UInt32} {free : ℕ → Linux.Segment}
  {frames : List Android.Segment}

theorem framed (hframes : List.Forall₂ IsFrame
    (coreSend sPacketId dat hfits isControl sec usec base free) frames) :
    List.Forall₂ (Framed (corePacket sPacketId dat hfits) isControl base)
      (List.range (corePacket sPacketId dat hfits).numOfSegments) frames := by
  obtain ⟨hl, hp⟩ := List.forall₂_iff_get.mp
    (sendToSegmentManager_spec (corePacket sPacketId dat hfits) isControl sec usec base free)
  obtain ⟨hl', hf⟩ := List.forall₂_iff_get.mp hframes
  exact List.forall₂_iff_get.mpr ⟨hl.trans hl', fun i h1 h2 =>
    framed_of_isPiece (hp i h1 (hl ▸ h1)) (hasHeader_segments free _ _ _ (List.get_mem _ _))
      (hf i (hl ▸ h1) h2)⟩

end CoreSend

/-! ## The receive queue -/

section Receiving

variable {data : Linux.Packet} {pd : Linux.ProtocolData} {dat : List UInt8} {isControl : Bool}
  {base : UInt32}

/-- `receiverThreadLoop` enqueues the frames one after the other. -/
def enqueueAll (q : Android.Queue Android.Segment) (frames : List Android.Segment) :
    Android.Queue Android.Segment :=
  frames.foldl (fun q frame => (q.enqueue Android.Segment.getSeqNo frame).2) q

/-- Frames in order go to the end of the queue, whatever the numbers are. -/
theorem enqueueAll_spec (k : ℕ) : ∀ (i : ℕ) (frames : List Android.Segment)
    (q : Android.Queue Android.Segment),
    List.Forall₂ (Framed data isControl base) (List.range' i k) frames →
    q.mPendingQueue = [] → q.mExpectedSeqNo = (base + UInt32.ofNat i).toInt32 →
    (enqueueAll q frames).mQueue = q.mQueue ++ frames := by
  induction k with
  | zero =>
    intro i frames q hf _ _
    obtain rfl := List.forall₂_nil_left_iff.mp hf
    simp [enqueueAll]
  | succ k ih =>
    intro i frames q hf hpending hexpected
    rw [List.range'_succ] at hf
    obtain ⟨frame, frames, hframe, hrest, rfl⟩ := List.forall₂_cons_left_iff.mp hf
    have henqueue : (q.enqueue Android.Segment.getSeqNo frame).2 =
        { q.offerLast frame with mPendingQueue := [] } := by
      simp [Android.Queue.enqueue, hframe.seqNo, hexpected, hpending, Android.Queue.drainPending]
    have hnext : (q.offerLast frame).mExpectedSeqNo = (base + UInt32.ofNat (i + 1)).toInt32 := by
      have hone : UInt32.ofNat 1 = 1 := rfl
      simp only [Android.Queue.offerLast, hexpected, UInt32.ofNat_add, hone, ← UInt32.add_assoc,
        UInt32.toInt32_add]
      rfl
    have hih := ih (i + 1) frames _ hrest (congrArg Android.Queue.mPendingQueue henqueue)
      ((congrArg Android.Queue.mExpectedSeqNo henqueue).trans hnext)
    rw [enqueueAll, List.foldl_cons]
    refine hih.trans ?_
    rw [henqueue]
    simp [Android.Queue.offerLast]

def filled (dat : List UInt8) (position : ℕ) : List UInt8 :=
  dat.take position ++ List.replicate (dat.length - position) 0

theorem length_filled (dat : List UInt8) (position : ℕ) : (filled dat position).length = dat.length := by
  simp [filled]
  omega

theorem overwrite_filled (dat : List UInt8) {position n : ℕ} (h : position ≤ dat.length) :
    overwrite (filled dat position) position ((dat.drop position).take n) =
      filled dat (min (position + n) dat.length) := by
  have hlen : (dat.take position).length = position := by simp [h]
  have hover := overwrite_append_replicate (dat.take position) ((dat.drop position).take n)
    (dat.length - position)
  rw [hlen] at hover
  rw [filled, hover, ← List.take_add, filled]
  congr 1
  · rw [← List.take_eq_take_min]
  · congr 1
    simp
    omega

theorem toInt_toInt32 {n : UInt32} (h : n.toNat < 2 ^ 31) : n.toInt32.toInt = n.toNat := by
  show n.toBitVec.toInt = n.toNat
  rw [BitVec.toInt_eq_toNat_of_lt]
  · rfl
  · show 2 * n.toNat < 2 ^ 32
    omega

theorem getLength_carried {i : ℕ} {frame : Android.Segment} (h : Carried data i (readHeader frame)) :
    frame.getLength.toInt = (piece kSegSize data.bytes i).length := by
  have hpiece := length_piece kSegSize data.bytes i
  have hlen : (readHeader frame).len.toNat = (piece kSegSize data.bytes i).length := h.len
  have hsmall : (readHeader frame).len.toNat < 2 ^ 31 := by
    rw [hlen, hpiece, kSegSize]
    omega
  exact (toInt_toInt32 hsmall).trans (congrArg Nat.cast hlen)

theorem arraycopy_carried (skip destPos : ℕ) (dest : List UInt8) {i : ℕ} {frame : Android.Segment}
    (h : Carried data i (readHeader frame)) (hskip : skip ≤ (piece kSegSize data.bytes i).length)
    (hfit : destPos + ((piece kSegSize data.bytes i).length - skip) ≤ dest.length) :
    Android.arraycopy frame.getPayloadData skip dest destPos
        (((piece kSegSize data.bytes i).length - skip : ℕ) : ℤ) =
      .ok (overwrite dest destPos ((piece kSegSize data.bytes i).drop skip)) := by
  have hpiece := length_piece kSegSize data.bytes i
  have hpayload : frame.getPayloadData.take (piece kSegSize data.bytes i).length =
      piece kSegSize data.bytes i := by
    have hp := h.payload
    rwa [Segment.payload, h.len] at hp
  have hsize : frame.getPayloadData.length = kSegSize := by
    have hdata := frame.2
    simp [Android.Segment.getPayloadData, hdata, segmentDataSize]
  rw [Android.arraycopy_eq (by simp only [kSegSize] at *; omega) hfit, ← List.drop_take, hpayload]

theorem recvRest_last {i : ℕ} (dequeued : List (Option Android.Segment))
    (hmf : ¬ i + 1 < data.numOfSegments) (hlast : dat.length ≤ 512 * i + 506) :
    Android.recvRest (decide (i + 1 < data.numOfSegments))
        (filled dat (min (512 * i + 506) dat.length)) (min (512 * i + 506) dat.length) dequeued =
      .ok (dat, dequeued) := by
  rw [decide_eq_false hmf, Nat.min_eq_right hlast]
  simp [Android.recvRest, filled]

/-- The second loop: induction on what `dequeue` returns, null or not. -/
theorem recvRest_spec (hdata : data.bytes = serialize pd dat) {next : List Android.Segment}
    (dequeued : List (Option Android.Segment)) : ∀ (k i : ℕ) (frames : List Android.Segment),
      List.Forall₂ (Framed data isControl base) (List.range' (i + 1) k) frames →
      i + 1 + k = data.numOfSegments → dequeued.reduceOption = frames ++ next →
      ∃ rest, Android.recvRest (decide (i + 1 < data.numOfSegments))
          (filled dat (min (512 * i + 506) dat.length)) (min (512 * i + 506) dat.length) dequeued =
            .ok (dat, rest) ∧ rest.reduceOption = next := by
  have hbytes : data.bytes.length = 6 + dat.length := by simp [hdata, serialize]; omega
  have hlt : ∀ i, i < data.numOfSegments ↔ 512 * i < 6 + dat.length := by
    intro i
    rw [Linux.Packet.lt_numOfSegments, hbytes, kSegSize]
  induction dequeued with
  | nil =>
    intro k i frames hf hk hdequeued
    cases k with
    | zero =>
      obtain rfl := List.forall₂_nil_left_iff.mp hf
      have hlast := (hlt (i + 1)).not.mp (by omega)
      exact ⟨_, recvRest_last _ (by omega) (by omega), hdequeued⟩
    | succ k =>
      rw [List.range'_succ] at hf
      obtain ⟨frame, frames, -, -, rfl⟩ := List.forall₂_cons_left_iff.mp hf
      cases hdequeued
  | cons result dequeued ih =>
    intro k i frames hf hk hdequeued
    cases k with
    | zero =>
      obtain rfl := List.forall₂_nil_left_iff.mp hf
      have hlast := (hlt (i + 1)).not.mp (by omega)
      exact ⟨_, recvRest_last _ (by omega) (by omega), hdequeued⟩
    | succ k =>
      have hmore := (hlt (i + 1)).mp (by omega)
      rw [decide_eq_true (by omega)]
      cases result with
      | none =>
        obtain ⟨rest, hrest, hnext⟩ := ih (k + 1) i frames hf hk hdequeued
        rw [decide_eq_true (by omega)] at hrest
        exact ⟨rest, hrest, hnext⟩
      | some frame =>
        rw [List.range'_succ] at hf
        obtain ⟨frame', frames, hframe, hf', rfl⟩ := List.forall₂_cons_left_iff.mp hf
        obtain ⟨rfl, hdequeued'⟩ := List.cons.inj hdequeued
        have hpiece : piece kSegSize data.bytes (i + 1) = (dat.drop (512 * i + 506)).take 512 := by
          rw [hdata, piece_succ_serialize]
        have hlen : (piece kSegSize data.bytes (i + 1)).length =
            min 512 (dat.length - (512 * i + 506)) := by simp [hpiece]
        rw [Nat.min_eq_left (by omega)]
        have hcopy := arraycopy_carried 0 (512 * i + 506) (filled dat (512 * i + 506)) hframe.carried
          (Nat.zero_le _) (by rw [length_filled]; omega)
        rw [Nat.sub_zero, List.drop_zero, hpiece, overwrite_filled dat (by omega), ← hpiece] at hcopy
        have hmf : frame.isMoreFragment = decide (i + 1 + 1 < data.numOfSegments) := hframe.carried.mf
        obtain ⟨rest, hrest, hnext⟩ := ih k (i + 1) frames hf' (by omega) hdequeued'
        refine ⟨rest, ?_, hnext⟩
        rw [Android.recvRest, getLength_carried hframe.carried, hcopy]
        dsimp only
        rw [hmf, Int.toNat_natCast, hlen]
        have hpos : min (512 * i + 506 + 512) dat.length = min (512 * (i + 1) + 506) dat.length := by
          congr 1
        have hoff : 512 * i + 506 + min 512 (dat.length - (512 * i + 506)) =
            min (512 * (i + 1) + 506) dat.length := by omega
        rw [hpos, hoff]
        exact hrest

theorem nextSegment_spec {frame : Android.Segment} {others : List Android.Segment}
    (dequeued : List (Option Android.Segment)) (h : dequeued.reduceOption = frame :: others) :
    ∃ rest, Android.nextSegment dequeued = .ok (frame, rest) ∧ rest.reduceOption = others := by
  induction dequeued with
  | nil => cases h
  | cons result dequeued ih =>
    cases result with
    | none => exact ih h
    | some frame' =>
      obtain ⟨rfl, hothers⟩ := List.cons.inj h
      exact ⟨dequeued, rfl, hothers⟩

/-- The whole call, for a message that is not empty and whose length is an `int`. -/
theorem recvFromSegmentManager_spec (hdata : data.bytes = serialize pd dat)
    (hpd : pd.len.toNat = dat.length) (hne : dat ≠ []) (hint : dat.length < 2 ^ 31)
    {frames next : List Android.Segment}
    (hf : List.Forall₂ (Framed data isControl base) (List.range data.numOfSegments) frames)
    {dequeued : List (Option Android.Segment)} (hdequeued : dequeued.reduceOption = frames ++ next) :
    ∃ rest, Android.recvFromSegmentManager dequeued =
        .ok (⟨pd.id.toInt16, pd.len.toInt32⟩, some dat, rest) ∧ rest.reduceOption = next := by
  have hbytes : data.bytes.length = 6 + dat.length := by simp [hdata, serialize]; omega
  have hpos : 0 < dat.length := List.length_pos_iff.mpr hne
  obtain ⟨k, hk⟩ : ∃ k, data.numOfSegments = k + 1 :=
    ⟨data.numOfSegments - 1, by have := Linux.Packet.lt_numOfSegments data 0; omega⟩
  rw [hk, List.range_eq_range', List.range'_succ] at hf
  obtain ⟨frame, frames, hframe, hf', rfl⟩ := List.forall₂_cons_left_iff.mp hf
  obtain ⟨rest, hnextSegment, hrest⟩ := nextSegment_spec dequeued hdequeued
  have hpiece : piece kSegSize data.bytes 0 = serialize pd (dat.take 506) := by
    rw [hdata, piece_zero_serialize]
  have hpre : (piece kSegSize data.bytes 0).drop 6 = dat.take 506 := by
    rw [hpiece, serialize, List.drop_left' (by simp)]
  have hlen : (piece kSegSize data.bytes 0).length = 6 + (dat.take 506).length := by
    simp [hpiece, serialize]
    omega
  have hlinux : parseHeader frame.getPayloadData = pd := by
    have hp : frame.getPayloadData.take (piece kSegSize data.bytes 0).length =
        serialize pd (dat.take 506) := by
      have hp := hframe.carried.payload
      rw [Segment.payload, hframe.carried.len] at hp
      exact hp.trans hpiece
    rw [← List.take_append_drop (piece kSegSize data.bytes 0).length frame.getPayloadData, hp,
      parseHeader_serialize]
  have hheader : Android.parseHeader frame.getPayloadData = ⟨pd.id.toInt16, pd.len.toInt32⟩ := by
    rw [← hlinux]
    rfl
  have hint' : pd.len.toInt32.toInt = dat.length := by
    rw [toInt_toInt32 (by omega), hpd]
  have hne0 : pd.len.toInt32 ≠ 0 := by
    intro h0
    rw [h0, Int32.toInt_zero] at hint'
    omega
  have hnneg : ¬ pd.len.toInt32 < 0 := by
    rw [Int32.lt_iff_toInt_lt, hint', Int32.toInt_zero]
    omega
  have hsize : (frame.getLength - Int32.ofNat 6).toInt =
      ((piece kSegSize data.bytes 0).length - 6 : ℕ) := by
    have h6 : (Int32.ofNat 6).toInt = 6 := rfl
    have h506 : (dat.take 506).length ≤ 506 := by simp
    rw [Int32.toInt_sub, getLength_carried hframe.carried, h6, hlen, Int.bmod_eq_of_le] <;> omega
  have hcopy := arraycopy_carried 6 0 (filled dat 0) hframe.carried (by omega)
    (by rw [length_filled, hlen]; simp)
  have hfilled : overwrite (filled dat 0) 0 (dat.take 506) =
      filled dat (min (512 * 0 + 506) dat.length) := overwrite_filled dat (Nat.zero_le _)
  rw [hpre, hfilled] at hcopy
  have hmf : frame.isMoreFragment = decide (0 + 1 < data.numOfSegments) := hframe.carried.mf
  obtain ⟨rest', hloop, hnext⟩ := recvRest_spec hdata rest k 0 frames hf' (by omega) hrest
  refine ⟨rest', ?_, hnext⟩
  have hcleared : List.replicate dat.length (0 : UInt8) = filled dat 0 := by simp [filled]
  have hposition : (piece kSegSize data.bytes 0).length - 6 = min (512 * 0 + 506) dat.length := by
    rw [hlen]
    simp
  have hsix : Android.kProtocolHeaderSize = 6 := rfl
  simp only [Android.recvFromSegmentManager, hnextSegment, hheader, if_neg hne0, if_neg hnneg, hint',
    Int.toNat_natCast, hcleared, hsize, hsix, hcopy, hmf]
  rw [hposition, hloop]

end Receiving

/-- **Message transfer.** Frames that arrive in order are queued in order, and the receiver takes
exactly the frames of the message, whatever follows them, and returns the message. -/
theorem message_transferred {sPacketId : UInt16} {dat : List UInt8}
    {hfits : dat.length + kProtHeaderSize < 2 ^ 32} {isControl : Bool} {sec usec base : UInt32}
    {free : ℕ → Linux.Segment} {frames : List Android.Segment}
    {q : Android.Queue Android.Segment} (hne : dat ≠ []) (hlt : dat.length < 2 ^ 31 - 517)
    (hframes : List.Forall₂ IsFrame
      (coreSend sPacketId dat hfits isControl sec usec base free) frames)
    (hpending : q.mPendingQueue = []) (hexpected : q.mExpectedSeqNo = base.toInt32) :
    (∀ frame ∈ frames, frame.isControl = isControl) ∧
    (enqueueAll q frames).mQueue = q.mQueue ++ frames ∧
    ∀ dequeued next, dequeued.reduceOption = frames ++ next →
      ∃ rest, Android.recvFromSegmentManager dequeued =
          .ok (⟨sPacketId.toInt16, Int32.ofNat dat.length⟩, some dat, rest) ∧
        rest.reduceOption = next := by
  have hf := framed hframes
  refine ⟨fun frame hframe => ?_, ?_, fun dequeued next hdequeued => ?_⟩
  · obtain ⟨hl, hget⟩ := List.forall₂_iff_get.mp hf
    obtain ⟨i, rfl⟩ := List.get_of_mem hframe
    exact (hget i (by rw [hl]; exact i.2) i.2).control
  · rw [List.range_eq_range'] at hf
    exact enqueueAll_spec _ 0 frames q hf hpending (by simpa using hexpected)
  · have hlen : (UInt32.ofNat dat.length).toNat = dat.length := by
      rw [UInt32.toNat_ofNat', Nat.mod_eq_of_lt (by omega)]
    exact recvFromSegmentManager_spec rfl hlen hne (by omega) hf hdequeued

/-- The frames of three bytes of control traffic. -/
def threeFrames : List Android.Segment :=
  (coreSend 7 [1, 2, 3] (by decide) true 0 0 0 fun _ => .zero).map
    fun seg => (seg.stampMedia 5 6).data

theorem isFrame_threeFrames :
    List.Forall₂ IsFrame (coreSend 7 [1, 2, 3] (by decide) true 0 0 0 fun _ => .zero) threeFrames :=
  List.forall₂_map_right_iff.mpr (List.forall₂_same.mpr fun _ _ => ⟨5, 6, rfl⟩)

theorem message_transferred_three :
    ∃ rest, Android.recvFromSegmentManager (none :: (threeFrames ++ threeFrames).map some) =
        .ok (⟨7, 3⟩, some [1, 2, 3], rest) ∧ rest.reduceOption = threeFrames := by
  obtain ⟨-, -, hrecv⟩ := message_transferred (q := .empty) (by decide) (by decide)
    isFrame_threeFrames rfl rfl
  exact hrecv _ threeFrames (by simp [List.reduceOption])

end LinuxToAndroid
end VirtualConnection
