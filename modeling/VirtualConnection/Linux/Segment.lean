import VirtualConnection.Lib.Bytes

/-!
# Linux.Segment

The segment: the unit in which both peers exchange bytes. A C++ `Segment` keeps its header twice,
as struct fields and in network order in the first bytes of `data`; only `data` travels. An `int`
field is kept as its bit pattern. `Fault` collects the ways in which the C++ code can stop: a
failed `assert` (the Makefile does not define `NDEBUG`), a null dereference, an access outside a
buffer, the front of an empty list, `free` of what is not allocated, a value that an `int` cannot hold.
-/

namespace VirtualConnection
namespace Linux

open Bytes

inductive Fault where
  | assertion
  | nullPointer
  | outOfBounds
  | emptyFront
  | invalidFree
  | overflow
  deriving DecidableEq, Repr

/-- Why a call does not return: it has to wait, or the program crashes. -/
inductive Stop where
  | waiting
  | fault (f : Fault)
  deriving DecidableEq, Repr

def kSegSize : ℕ := 512
def kSegHeaderSize : ℕ := 28
/-- `SEGMENT_DATA_SIZE`: the size of a frame on the wire. -/
def segmentDataSize : ℕ := kSegSize + kSegHeaderSize

def kSegFlagMF : UInt32 := 1
def kSegFlagControl : UInt32 := 2
def kSegFlagAck : UInt32 := 4

structure Segment where
  seqNo : UInt32
  len : UInt32
  flag : UInt32
  sendStartTsSec : UInt32
  sendStartTsUsec : UInt32
  mediaStartTsSec : UInt32
  mediaStartTsUsec : UInt32
  data : Area segmentDataSize
  deriving DecidableEq

inductive SegSeqNumType where
  | kSNData
  | kSNControl
  deriving DecidableEq, Repr

instance SegSeqNumType.decidableForall {P : SegSeqNumType → Prop} [∀ t, Decidable (P t)] :
    Decidable (∀ t, P t) :=
  decidable_of_iff (P .kSNData ∧ P .kSNControl)
    ⟨fun h t => match t with | .kSNData => h.1 | .kSNControl => h.2, fun h => ⟨h _, h _⟩⟩

inductive SegQueueType where
  | kSQSendData
  | kSQRecvData
  | kSQSendControl
  | kSQRecvControl
  deriving DecidableEq, Repr

inductive SegDequeueType where
  | kDeqSendControlData
  | kDeqRecvData
  | kDeqRecvControl
  deriving DecidableEq, Repr

/-- `(is_control) ? kSNControl : kSNData`. -/
def seqNumType (isControl : Bool) : SegSeqNumType :=
  if isControl then .kSNControl else .kSNData

def sendQueueType : SegSeqNumType → SegQueueType
  | .kSNData => .kSQSendData
  | .kSNControl => .kSQSendControl

namespace Segment

def isMF (seg : Segment) : Bool := seg.flag &&& kSegFlagMF != 0
def isControl (seg : Segment) : Bool := seg.flag &&& kSegFlagControl != 0
def isAck (seg : Segment) : Bool := seg.flag &&& kSegFlagAck != 0

/-- What `calloc(1, sizeof(Segment))` returns. -/
def zero : Segment := ⟨0, 0, 0, 0, 0, 0, 0, Area.zero _⟩

/-- The stream a segment of the sending side belongs to. -/
def numType (seg : Segment) : SegSeqNumType := seqNumType seg.isControl

/-- The payload bytes a reader takes out: `len` bytes behind the header. -/
def payload (seg : Segment) : List UInt8 := (seg.data.1.drop kSegHeaderSize).take seg.len.toNat

end Segment

/-- The 20 header bytes that `serialize_segment_header` writes. -/
def headerBytes (seg : Segment) : List UInt8 :=
  toBE 4 seg.seqNo.toNat ++ toBE 4 seg.len.toNat ++ toBE 4 seg.flag.toNat ++
    toBE 4 seg.sendStartTsSec.toNat ++ toBE 4 seg.sendStartTsUsec.toNat

@[simp] theorem length_headerBytes (seg : Segment) : (headerBytes seg).length = 20 := by
  simp [headerBytes]

/-- The five `memcpy` calls to offsets 0, 4, 8, 12 and 16 of `data`, which are adjacent. -/
def serializeSegmentHeader (seg : Segment) : Segment :=
  { seg with data := seg.data.store 0 (headerBytes seg) (by simp [segmentDataSize, kSegHeaderSize]) }

/-- `ntohl` of the four bytes at offset `off` of a frame. -/
def headerField (buf : Area segmentDataSize) (off : ℕ) : UInt32 :=
  UInt32.ofNat (ofBE ((buf.1.drop off).take 4))

/-- `ReceiverThread::receiver_loop`, "Read header part": the struct fields of a received frame. -/
def readHeader (buf : Area segmentDataSize) : Segment where
  seqNo := headerField buf 0
  len := headerField buf 4
  flag := headerField buf 8
  sendStartTsSec := headerField buf 12
  sendStartTsUsec := headerField buf 16
  mediaStartTsSec := headerField buf 20
  mediaStartTsUsec := headerField buf 24
  data := buf

@[simp] theorem readHeader_data (buf : Area segmentDataSize) : (readHeader buf).data = buf := rfl

theorem headerField_of_take {buf : Area segmentDataSize} {off : ℕ} {v : UInt32}
    (h : (buf.1.drop off).take 4 = toBE 4 v.toNat) : headerField buf off = v := by
  have hv : v.toNat < 256 ^ 4 := v.toNat_lt
  rw [headerField, h, ofBE_toBE, Nat.mod_eq_of_lt hv, UInt32.ofNat_toNat]

theorem readHeader_serialize (seg : Segment) :
    (readHeader (serializeSegmentHeader seg).data).seqNo = seg.seqNo ∧
      (readHeader (serializeSegmentHeader seg).data).len = seg.len ∧
      (readHeader (serializeSegmentHeader seg).data).flag = seg.flag ∧
      (readHeader (serializeSegmentHeader seg).data).sendStartTsSec = seg.sendStartTsSec ∧
      (readHeader (serializeSegmentHeader seg).data).sendStartTsUsec = seg.sendStartTsUsec := by
  have hd : (serializeSegmentHeader seg).data.1 =
      headerBytes seg ++ seg.data.1.drop (headerBytes seg).length := by
    simp [serializeSegmentHeader, Area.store, overwrite]
  refine ⟨?_, ?_, ?_, ?_, ?_⟩ <;> apply headerField_of_take <;>
    rw [hd, headerBytes] <;> simp [List.drop_append, List.drop_eq_nil_of_le]

end Linux
end VirtualConnection
