import VirtualConnection.Linux.Segment

/-!
# Linux.Sending

`SegmentManager::send_to_segment_manager`: a packet is cut into segments of `kSegSize` bytes. The
call reserves its sequence numbers first; `SendCall` is what its local variables hold from then
on, and one turn of its loop is `writeSegment` (up to the call of `enqueue`) and `next`.

* `writeSegment_spec`: turn number `i` writes piece number `i` of the packet, whatever was in the
  segment before.
* `segments`: the whole loop, on any free segments.
-/

namespace VirtualConnection
namespace Linux

open Bytes

/-- What `send_packet` hands over: its `packet_size` is a `uint32_t`, and not 0. -/
structure Packet where
  bytes : List UInt8
  nonempty : 0 < bytes.length
  fits : bytes.length < 2 ^ 32

def Packet.numOfSegments (data : Packet) : ℕ := (data.bytes.length + kSegSize - 1) / kSegSize

theorem Packet.lt_numOfSegments (data : Packet) (i : ℕ) :
    i < data.numOfSegments ↔ kSegSize * i < data.bytes.length := by
  have := data.nonempty
  simp only [Packet.numOfSegments, kSegSize]
  omega

structure SendCall where
  data : Packet
  isControl : Bool
  sendStartTsSec : UInt32
  sendStartTsUsec : UInt32
  allocatedSeqNo : UInt32
  offset : UInt32
  segIdx : ℕ

namespace SendCall

/-- The call once `get_next_seq_no` has returned. -/
def start (data : Packet) (isControl : Bool) (sec usec : UInt32) (allocatedSeqNo : UInt32) :
    SendCall :=
  ⟨data, isControl, sec, usec, allocatedSeqNo, 0, 0⟩

def numType (call : SendCall) : SegSeqNumType := seqNumType call.isControl

def segLen (call : SendCall) : UInt32 :=
  if call.data.bytes.length - call.offset.toNat < kSegSize then
    UInt32.ofNat (call.data.bytes.length - call.offset.toNat)
  else UInt32.ofNat kSegSize

/-- `offset + seg_len < len`. -/
def moreFragments (call : SendCall) : Bool :=
  (call.offset + call.segLen).toNat < call.data.bytes.length

def flag (moreFragments isControl : Bool) : UInt32 :=
  (if moreFragments then kSegFlagMF else 0) ||| (if isControl then kSegFlagControl else 0)

theorem segLen_toNat (call : SendCall) :
    call.segLen.toNat = min kSegSize (call.data.bytes.length - call.offset.toNat) := by
  have hfits := call.data.fits
  rw [segLen]
  by_cases h : call.data.bytes.length - call.offset.toNat < kSegSize
  · rw [if_pos h, UInt32.toNat_ofNat', Nat.mod_eq_of_lt (by omega), Nat.min_eq_right (Nat.le_of_lt h)]
  · rw [if_neg h, Nat.min_eq_left (by omega)]
    rfl

/-- The bytes that `memcpy` takes from `data + offset`. -/
def slice (call : SendCall) : List UInt8 :=
  (call.data.bytes.drop call.offset.toNat).take call.segLen.toNat

theorem length_slice (call : SendCall) : call.slice.length = call.segLen.toNat := by
  have h := call.segLen_toNat
  simp only [slice, List.length_take, List.length_drop]
  omega

theorem slice_fits (call : SendCall) : kSegHeaderSize + call.slice.length ≤ segmentDataSize := by
  have h := call.segLen_toNat
  rw [length_slice]
  simp only [segmentDataSize]
  omega

/-- The header fields, then the header in `data`, then the payload. -/
def writeSegment (call : SendCall) (seg : Segment) : Segment :=
  let seg' := serializeSegmentHeader
    { seg with
      seqNo := call.allocatedSeqNo
      len := call.segLen
      flag := flag call.moreFragments call.isControl
      sendStartTsSec := call.sendStartTsSec
      sendStartTsUsec := call.sendStartTsUsec }
  { seg' with data := seg'.data.store kSegHeaderSize call.slice call.slice_fits }

def next (call : SendCall) : SendCall :=
  { call with
    allocatedSeqNo := call.allocatedSeqNo + 1
    offset := call.offset + call.segLen
    segIdx := call.segIdx + 1 }

/-- The loop, for `k` more turns; turn number `i` works on the segment `free i`. -/
def segments (free : ℕ → Segment) : ℕ → SendCall → List Segment
  | 0, _ => []
  | k + 1, call => call.writeSegment (free call.segIdx) :: segments free k call.next

/-! ## One turn -/

/-- The loop variables agree with the turn number. -/
structure Valid (base : UInt32) (call : SendCall) : Prop where
  seqNo : call.allocatedSeqNo = base + UInt32.ofNat call.segIdx
  offset : call.offset.toNat = min (kSegSize * call.segIdx) call.data.bytes.length
  le : call.segIdx ≤ call.data.numOfSegments

theorem valid_start (data : Packet) (isControl : Bool) (sec usec base : UInt32) :
    Valid base (start data isControl sec usec base) where
  seqNo := by simp [start]
  offset := by simp [start]
  le := Nat.zero_le _

variable {base : UInt32} {call : SendCall}

theorem Valid.next (h : Valid base call) (hlt : call.segIdx < call.data.numOfSegments) :
    Valid base call.next where
  seqNo := by
    have hone : (UInt32.ofNat 1) = 1 := rfl
    simp only [SendCall.next, h.seqNo, UInt32.ofNat_add, UInt32.add_assoc, hone]
  offset := by
    have hfits := call.data.fits
    have hlen := call.segLen_toNat
    have hoff := h.offset
    simp only [SendCall.next, UInt32.toNat_add]
    rw [Nat.mod_eq_of_lt (by omega), hlen]
    simp only [kSegSize] at *
    omega
  le := hlt

theorem Valid.slice_eq (h : Valid base call) :
    call.slice = piece kSegSize call.data.bytes call.segIdx := by
  have hlen := call.segLen_toNat
  have hoff := h.offset
  rw [slice, piece]
  rcases Nat.le_total (kSegSize * call.segIdx) call.data.bytes.length with hle | hle
  · rw [Nat.min_eq_left hle] at hoff
    rw [hlen, hoff, ← List.length_drop, ← List.take_eq_take_min]
  · rw [List.drop_eq_nil_of_le (by omega), List.drop_eq_nil_of_le hle, List.take_nil, List.take_nil]

/-- MF is set on every turn but the last. -/
theorem Valid.moreFragments_eq (h : Valid base call) :
    call.moreFragments = decide (call.segIdx + 1 < call.data.numOfSegments) := by
  have hfits := call.data.fits
  have hlen := call.segLen_toNat
  have hoff := h.offset
  refine decide_eq_decide.mpr ?_
  rw [Packet.lt_numOfSegments, UInt32.toNat_add, Nat.mod_eq_of_lt (by omega), hlen]
  simp only [kSegSize] at *
  omega

/-! ## What a turn writes -/

/-- A segment with the header fields and the payload of piece number `i` of a message. -/
structure IsPiece (data : Packet) (isControl : Bool) (base : UInt32) (i : ℕ) (seg : Segment) :
    Prop where
  seqNo : seg.seqNo = base + UInt32.ofNat i
  len : seg.len.toNat = (piece kSegSize data.bytes i).length
  mf : seg.isMF = decide (i + 1 < data.numOfSegments)
  control : seg.isControl = isControl
  payload : seg.payload = piece kSegSize data.bytes i

theorem flag_mf (more control : Bool) : (flag more control &&& kSegFlagMF != 0) = more := by
  revert more control; decide

theorem flag_control (more control : Bool) :
    (flag more control &&& kSegFlagControl != 0) = control := by
  revert more control; decide

theorem writeSegment_spec (h : Valid base call) (seg : Segment) :
    IsPiece call.data call.isControl base call.segIdx (call.writeSegment seg) where
  seqNo := h.seqNo
  len := by rw [← h.slice_eq, length_slice]; rfl
  mf := (flag_mf _ _).trans h.moreFragments_eq
  control := flag_control _ _
  payload := by
    have hlen : (call.writeSegment seg).len.toNat = call.slice.length := by
      rw [length_slice]; rfl
    rw [Segment.payload, hlen, ← h.slice_eq]
    refine load_overwrite ?_
    have hfits := call.slice_fits
    have hdata := (serializeSegmentHeader
      { seg with
        seqNo := call.allocatedSeqNo
        len := call.segLen
        flag := flag call.moreFragments call.isControl
        sendStartTsSec := call.sendStartTsSec
        sendStartTsUsec := call.sendStartTsUsec }).data.2
    omega

end SendCall

/-- What is written behind a header field does not touch it. -/
theorem headerField_store {buf : Area segmentDataSize} {bytes : List UInt8} {start off : ℕ}
    (h : start + bytes.length ≤ segmentDataSize) (hoff : off + 4 ≤ start) :
    headerField (buf.store start bytes h) off = headerField buf off := by
  have htake : ∀ l : List UInt8, (l.drop off).take 4 = ((l.take start).drop off).take 4 := by
    intro l
    rw [List.drop_take, List.take_take, Nat.min_eq_left (by omega)]
  have hfit : start + bytes.length ≤ buf.1.length := by rw [buf.2]; exact h
  rw [headerField, headerField, htake, htake buf.1, Area.store,
    take_overwrite hfit (Nat.le_refl _)]

namespace SendCall

theorem readHeader_writeSegment (call : SendCall) (seg : Segment) :
    (readHeader (call.writeSegment seg).data).seqNo = (call.writeSegment seg).seqNo ∧
      (readHeader (call.writeSegment seg).data).len = (call.writeSegment seg).len ∧
      (readHeader (call.writeSegment seg).data).flag = (call.writeSegment seg).flag := by
  obtain ⟨hseq, hlen, hflag, -, -⟩ := readHeader_serialize
    { seg with
      seqNo := call.allocatedSeqNo
      len := call.segLen
      flag := flag call.moreFragments call.isControl
      sendStartTsSec := call.sendStartTsSec
      sendStartTsUsec := call.sendStartTsUsec }
  exact ⟨(headerField_store call.slice_fits (by decide)).trans hseq,
    (headerField_store call.slice_fits (by decide)).trans hlen,
    (headerField_store call.slice_fits (by decide)).trans hflag⟩

/-- The loop from turn `segIdx` on writes the remaining pieces in order. -/
theorem segments_spec (free : ℕ → Segment) (k : ℕ) : ∀ {call : SendCall}, Valid base call →
    call.segIdx + k = call.data.numOfSegments →
    List.Forall₂ (IsPiece call.data call.isControl base)
      (List.range' call.segIdx k) (segments free k call) := by
  induction k with
  | zero => intro call _ _; exact .nil
  | succ k ih =>
    intro call h hk
    refine .cons (writeSegment_spec h _) ?_
    exact ih (h.next (by omega)) (by simp only [SendCall.next]; omega)

end SendCall

/-- `send_to_segment_manager` with nobody else at work: the segments it enqueues. -/
def sendToSegmentManager (data : Packet) (isControl : Bool) (sec usec base : UInt32)
    (free : ℕ → Segment) : List Segment :=
  (SendCall.start data isControl sec usec base).segments free data.numOfSegments

theorem sendToSegmentManager_spec (data : Packet) (isControl : Bool) (sec usec base : UInt32)
    (free : ℕ → Segment) :
    List.Forall₂ (SendCall.IsPiece data isControl base) (List.range data.numOfSegments)
      (sendToSegmentManager data isControl sec usec base free) := by
  rw [List.range_eq_range']
  exact SendCall.segments_spec free _ (SendCall.valid_start data isControl sec usec base)
    (by simp [SendCall.start])

end Linux
end VirtualConnection
