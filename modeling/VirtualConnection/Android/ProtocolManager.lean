import VirtualConnection.Android.Receiving

/-!
# Android.ProtocolManager

`ProtocolManager.java` and `recv_from_segment_manager` of `SegmentManager.java`: a message is put
together again from the segments of a receive queue. An `int` is an `Int32`; what a method throws is
an error.

A list of dequeue results stands for the receive queue, `none` for a `null` that `dequeue` may return;
both loops wait for a segment.
-/

namespace VirtualConnection
namespace Android

open Bytes Linux

inductive JavaException where
  | nullPointer
  | negativeArraySize
  | indexOutOfBounds
  | numberFormat
  deriving DecidableEq, Repr

inductive JavaStop where
  | waiting
  | thrown (e : JavaException)
  deriving DecidableEq, Repr

def arraycopy (src : List UInt8) (srcPos : ℕ) (dest : List UInt8) (destPos : ℕ) (length : Int) :
    Except JavaException (List UInt8) :=
  if length < 0 then .error .indexOutOfBounds
  else
    match load? src srcPos length.toNat with
    | none => .error .indexOutOfBounds
    | some bytes =>
      match store? dest destPos bytes with
      | none => .error .indexOutOfBounds
      | some dest' => .ok dest'

namespace Segment

def getLength (segment : Segment) : Int32 := (headerField segment 4).toInt32
def isMoreFragment (segment : Segment) : Bool := segment.getFlag &&& kSegFlagMF != 0
def getPayloadData (segment : Segment) : List UInt8 := segment.1.drop kSegHeaderSize

end Segment

def kProtocolHeaderSize : ℕ := 6

structure ProtocolData where
  id : Int16
  len : Int32
  deriving DecidableEq

def parseHeader (serialized : List UInt8) : ProtocolData where
  id := (UInt16.ofNat (ofBE (serialized.take 2))).toInt16
  len := (UInt32.ofNat (ofBE ((serialized.drop 2).take 4))).toInt32

/-- `do { ... } while (segmentDequeued == null)` -/
def nextSegment : List (Option Segment) → Except JavaStop (Segment × List (Option Segment))
  | [] => .error .waiting
  | none :: dequeued => nextSegment dequeued
  | some segment :: dequeued => .ok (segment, dequeued)

/-- `while (isMoreFragment)`, with the same loop around `dequeue` inside. The position stays below the
length of an array, so it does not overflow. -/
def recvRest : Bool → List UInt8 → ℕ → List (Option Segment) →
    Except JavaStop (List UInt8 × List (Option Segment))
  | false, serialized, _, dequeued => .ok (serialized, dequeued)
  | true, _, _, [] => .error .waiting
  | true, serialized, offset, none :: dequeued => recvRest true serialized offset dequeued
  | true, serialized, offset, some segment :: dequeued =>
    match arraycopy segment.getPayloadData 0 serialized offset segment.getLength.toInt with
    | .error e => .error (.thrown e)
    | .ok serialized' =>
      recvRest segment.isMoreFragment serialized' (offset + segment.getLength.toInt.toNat) dequeued

/-- The header, the returned array (`null` for an empty message) and what is left in the queue. -/
def recvFromSegmentManager (dequeued : List (Option Segment)) :
    Except JavaStop (ProtocolData × Option (List UInt8) × List (Option Segment)) :=
  match nextSegment dequeued with
  | .error e => .error e
  | .ok (segment, dequeued) =>
    let protocolData := parseHeader segment.getPayloadData
    if protocolData.len = 0 then .ok (protocolData, none, dequeued)
    else if protocolData.len < 0 then .error (.thrown .negativeArraySize)
    else
      let dataSize := (segment.getLength - Int32.ofNat kProtocolHeaderSize).toInt
      match arraycopy segment.getPayloadData kProtocolHeaderSize
          (List.replicate protocolData.len.toInt.toNat 0) 0 dataSize with
      | .error e => .error (.thrown e)
      | .ok serialized =>
        match recvRest segment.isMoreFragment serialized dataSize.toNat dequeued with
        | .error e => .error e
        | .ok (serialized, dequeued) => .ok (protocolData, some serialized, dequeued)

/-- The end of `recv_packet`: as much of the message as `buf` can hold. -/
def copyPacket (data : Option (List UInt8)) (len : Int32) (buf : List UInt8) :
    Except JavaException (List UInt8) :=
  match data with
  | none => .error .nullPointer
  | some data =>
    arraycopy data 0 buf 0 (if len.toInt < buf.length then len.toInt else buf.length)

/-- The returned length, the contents of `buf`, and what is left in the queue. -/
def recvPacket (buf : List UInt8) (dequeued : List (Option Segment)) :
    Except JavaStop (Int32 × List UInt8 × List (Option Segment)) :=
  match recvFromSegmentManager dequeued with
  | .error e => .error e
  | .ok (protocolData, data, dequeued) =>
    match copyPacket data protocolData.len buf with
    | .error e => .error (.thrown e)
    | .ok buf => .ok (protocolData.len, buf, dequeued)

/-! ## Copying -/

theorem arraycopy_eq {src dest : List UInt8} {srcPos destPos n : ℕ} (hsrc : srcPos + n ≤ src.length)
    (hdest : destPos + n ≤ dest.length) :
    arraycopy src srcPos dest destPos n =
      .ok (overwrite dest destPos ((src.drop srcPos).take n)) := by
  have hlen : ((src.drop srcPos).take n).length = n := by simp; omega
  simp [arraycopy, load?, store?, hsrc, hlen, hdest]

/-- A message that fits goes to the front of the buffer. -/
theorem copyPacket_eq {data buf : List UInt8} {len : Int32} (hlen : len.toInt = data.length)
    (hfits : data.length ≤ buf.length) :
    copyPacket (some data) len buf = .ok (data ++ buf.drop data.length) := by
  have hsize : (if len.toInt < (buf.length : ℤ) then len.toInt else buf.length) =
      (data.length : ℤ) := by
    rw [hlen]
    split <;> omega
  rw [copyPacket, hsize, arraycopy_eq (by omega) (by omega)]
  simp [overwrite]

/-- A message that does not fit is cut off. -/
theorem copyPacket_cut {data buf : List UInt8} {len : Int32} (hlen : len.toInt = data.length)
    (hcut : buf.length ≤ data.length) : copyPacket (some data) len buf = .ok (data.take buf.length) := by
  have hsize : (if len.toInt < (buf.length : ℤ) then len.toInt else buf.length) =
      (buf.length : ℤ) := by
    rw [hlen]
    split <;> omega
  rw [copyPacket, hsize, arraycopy_eq (by omega) (by omega)]
  simp [overwrite, List.drop_eq_nil_of_le, hcut]

end Android
end VirtualConnection
