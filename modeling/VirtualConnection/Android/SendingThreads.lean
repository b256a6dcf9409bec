import VirtualConnection.Android.ProtocolManager
import VirtualConnection.Android.Sending

/-!
# Android.SendingThreads

`Core.send` in several threads: `data_to_protocol_data`, `serialize` and `send_packet` of
`ProtocolManager.java`, each one step. The serialized packet goes from the second to the third through
a static field, `sSerializedVector`, its size through the caller.

* `segmentsFrom_payloads`: on a whole array, `send_to_segment_manager` is the loop of `SendCall`.
* `serialize_spec`: an array of `serialize` tells its own length, whether it is finished or not.
* `intact_iff`: a message goes out intact when no other call has serialized something else in between.
-/

namespace VirtualConnection
namespace Android

open Bytes Linux

/-! ## Serializing -/

/-- `serialize_header`: the array, and what is thrown. -/
def serializeHeader (pd : ProtocolData) (vec : List UInt8) : List UInt8 × Option JavaException :=
  match arraycopy (toBE 2 pd.id.toUInt16.toNat) 0 vec 0 2 with
  | .error e => (vec, some e)
  | .ok vec =>
    match arraycopy (toBE 4 pd.len.toUInt32.toNat) 0 vec 2 4 with
    | .error e => (vec, some e)
    | .ok vec => (vec, none)

/-- `serialize`: what it leaves in `sSerializedVector`, if it gets there, and what it returns. -/
def serializeVector (pd : ProtocolData) (buf : List UInt8) (payloadSize : Int32) :
    Option (List UInt8) × Except JavaException Int32 :=
  let vecSize := Int32.ofNat kProtocolHeaderSize + payloadSize
  if vecSize < 0 then (none, .error .negativeArraySize)
  else
    match serializeHeader pd (List.replicate vecSize.toInt.toNat 0) with
    | (vec, some e) => (some vec, .error e)
    | (vec, none) =>
      match arraycopy buf 0 vec kProtocolHeaderSize payloadSize.toInt with
      | .error e => (some vec, .error e)
      | .ok vec => (some vec, .ok vecSize)

/-! ## Segmenting -/

inductive SendEnd where
  | returned
  | thrown (e : JavaException)
  | assertionError
  deriving DecidableEq, Repr

/-- `num_of_segments` -/
def numOfSegments (dataLength : Int32) : Int32 :=
  (dataLength + Int32.ofNat kSegSize - 1) / Int32.ofNat kSegSize

/-- The loop of `send_to_segment_manager`, with as many turns left: the payloads of the segments that it
enqueues. -/
def segmentsFrom (dataBytes : List UInt8) (dataLength : ℕ) : ℕ → ℕ → List (List UInt8) × SendEnd
  | 0, _ => ([], .returned)
  | turns + 1, offset =>
    let payloadLength :=
      if dataLength - offset < kSegSize then dataLength - offset else kSegSize
    match load? dataBytes offset payloadLength with
    | none => ([], .thrown .indexOutOfBounds)
    | some payload =>
      let rest := segmentsFrom dataBytes dataLength turns (offset + payloadLength)
      (payload :: rest.1, rest.2)

def sendToSegmentManager (dataBytes : Option (List UInt8)) (dataLength : Int32) :
    List (List UInt8) × SendEnd :=
  match dataBytes with
  | none => ([], .assertionError)
  | some dataBytes =>
    if dataLength ≤ 0 then ([], .assertionError)
    else segmentsFrom dataBytes dataLength.toInt.toNat (numOfSegments dataLength).toInt.toNat 0

/-! ## Any number of calls -/

/-- How far a call of `Core.send` is. -/
inductive SendStage where
  | numbered
  | serialized (packetSize : Int32)
  | failed
  | sent (packetSize : Int32) (payloads : List (List UInt8)) (ending : SendEnd)
  deriving DecidableEq

/-- A call of `Core.send` once `data_to_protocol_data` has returned. -/
structure CoreSend where
  dataBuffer : List UInt8
  dataLength : Int32
  id : Int16
  stage : SendStage
  deriving DecidableEq

namespace CoreSend

def protocolData (call : CoreSend) : ProtocolData := ⟨call.id, call.dataLength⟩

/-- The array of its call of `serialize`. -/
def vector (call : CoreSend) : Option (List UInt8) :=
  (serializeVector call.protocolData call.dataBuffer call.dataLength).1

/-- The call after `serialize`. -/
def afterSerialize (call : CoreSend) : CoreSend :=
  { call with
    stage := match (serializeVector call.protocolData call.dataBuffer call.dataLength).2 with
      | .ok packetSize => if packetSize > 0 then .serialized packetSize else .failed
      | .error _ => .failed }

/-- The call after `send_packet`. -/
def afterSend (call : CoreSend) (vector : Option (List UInt8)) (packetSize : Int32) : CoreSend :=
  let r := sendToSegmentManager vector packetSize
  { call with stage := .sent packetSize r.1 r.2 }

/-- The call has segmented what it had serialized, all of it. -/
def Intact (call : CoreSend) : Prop :=
  ∀ packetSize payloads ending, call.stage = .sent packetSize payloads ending →
    call.vector = some payloads.flatten ∧ (payloads.flatten.length : ℤ) = packetSize.toInt ∧
      ending = .returned

end CoreSend

/-- `serializedBy` is the call that assigned `sSerializedVector` last. -/
structure SendingThreads where
  sPacketId : Int16
  sSerializedVector : Option (List UInt8)
  calls : List CoreSend
  serializedBy : Option ℕ
  deriving DecidableEq

namespace SendingThreads

def init : SendingThreads := ⟨0, none, [], none⟩

inductive Label where
  | dataToProtocolData (dataBuffer : List UInt8) (dataLength : Int32)
  | serialize (i : ℕ)
  | sendPacket (i : ℕ)
  deriving DecidableEq

/-- A call begins. -/
def dataToProtocolData (s : SendingThreads) (dataBuffer : List UInt8) (dataLength : Int32) :
    SendingThreads :=
  { s with
    sPacketId := s.sPacketId + 1
    calls := s.calls ++ [⟨dataBuffer, dataLength, s.sPacketId, .numbered⟩] }

/-- `serialize` of call `i`; the field is assigned unless there is no array. -/
def serialize (s : SendingThreads) (i : ℕ) (call : CoreSend) : SendingThreads :=
  { s with
    sSerializedVector := call.vector.or s.sSerializedVector
    calls := s.calls.set i call.afterSerialize
    serializedBy := if call.vector.isSome then some i else s.serializedBy }

def sendPacket (s : SendingThreads) (i : ℕ) (call : CoreSend) (packetSize : Int32) :
    SendingThreads :=
  { s with calls := s.calls.set i (call.afterSend s.sSerializedVector packetSize) }

def step (s : SendingThreads) : Label → Except Stop SendingThreads
  | .dataToProtocolData dataBuffer dataLength => .ok (s.dataToProtocolData dataBuffer dataLength)
  | .serialize i =>
    match s.calls[i]? with
    | none => .error .waiting
    | some call =>
      match call.stage with
      | .numbered => .ok (s.serialize i call)
      | _ => .error .waiting
  | .sendPacket i =>
    match s.calls[i]? with
    | none => .error .waiting
    | some call =>
      match call.stage with
      | .serialized packetSize => .ok (s.sendPacket i call packetSize)
      | _ => .error .waiting

end SendingThreads

/-! ## What `serialize` writes -/

def packetHeader (pd : ProtocolData) : List UInt8 :=
  toBE 2 pd.id.toUInt16.toNat ++ toBE 4 pd.len.toUInt32.toNat

theorem length_packetHeader (pd : ProtocolData) : (packetHeader pd).length = 6 := by
  simp [packetHeader]

theorem arraycopy_ok {src dest dest' : List UInt8} {srcPos destPos : ℕ} {n : Int}
    (h : arraycopy src srcPos dest destPos n = .ok dest') :
    0 ≤ n ∧ srcPos + n.toNat ≤ src.length ∧ destPos + n.toNat ≤ dest.length ∧
      dest' = overwrite dest destPos ((src.drop srcPos).take n.toNat) := by
  unfold arraycopy load? store? at h
  by_cases hn : n < 0
  · simp [hn] at h
  by_cases hsrc : srcPos + n.toNat ≤ src.length
  · have hlen : ((src.drop srcPos).take n.toNat).length = n.toNat := by simp; omega
    by_cases hdest : destPos + n.toNat ≤ dest.length
    · simp only [hn, if_false, hsrc, if_true, hlen, hdest] at h
      cases h
      exact ⟨by omega, hsrc, hdest, rfl⟩
    · simp only [hn, if_false, hsrc, if_true, hlen, hdest] at h
      cases h
  · simp [hn, hsrc] at h

/-- What is written behind the front of a new array. -/
theorem arraycopy_zeros (front bytes : List UInt8) {k : ℕ} (h : bytes.length ≤ k) :
    arraycopy bytes 0 (front ++ List.replicate k 0) front.length bytes.length =
      .ok (front ++ bytes ++ List.replicate (k - bytes.length) 0) := by
  rw [arraycopy_eq (by omega) (by simpa using h), List.drop_zero, List.take_length,
    overwrite_append_replicate]

/-- A copy behind the front of an array. -/
theorem arraycopy_behind {src front rest dest' : List UInt8} {n : Int}
    (h : arraycopy src 0 (front ++ rest) front.length n = .ok dest') :
    dest'.take front.length = front ∧ dest'.length = (front ++ rest).length := by
  obtain ⟨-, hsrc, hdest, rfl⟩ := arraycopy_ok h
  have hl : ((src.drop 0).take n.toNat).length = n.toNat := by
    rw [List.drop_zero, List.length_take]
    omega
  have hfit : front.length + ((src.drop 0).take n.toNat).length ≤ (front ++ rest).length := by
    rw [hl]
    exact hdest
  exact ⟨(take_overwrite hfit (Nat.le_refl _)).trans (List.take_left' rfl), length_overwrite hfit⟩

theorem serializeHeader_zeros (pd : ProtocolData) (k : ℕ) :
    serializeHeader pd (List.replicate (6 + k) 0) =
      (packetHeader pd ++ List.replicate k 0, none) := by
  have hid : arraycopy (toBE 2 pd.id.toUInt16.toNat) 0 (List.replicate (6 + k) 0) 0 2 =
      .ok (toBE 2 pd.id.toUInt16.toNat ++ List.replicate (4 + k) 0) := by
    have hcopy := arraycopy_zeros [] (toBE 2 pd.id.toUInt16.toNat) (k := 6 + k) (by simp; omega)
    have hk : 6 + k - 2 = 4 + k := by omega
    simpa [hk] using hcopy
  have hlen : arraycopy (toBE 4 pd.len.toUInt32.toNat) 0
      (toBE 2 pd.id.toUInt16.toNat ++ List.replicate (4 + k) 0) 2 4 =
      .ok (packetHeader pd ++ List.replicate k 0) := by
    have hcopy := arraycopy_zeros (toBE 2 pd.id.toUInt16.toNat) (toBE 4 pd.len.toUInt32.toNat)
      (k := 4 + k) (by simp)
    simpa [packetHeader] using hcopy
  unfold serializeHeader
  simp only [hid, hlen]

/-- A short array takes a part of the header. -/
theorem serializeHeader_short {pd : ProtocolData} {vec : List UInt8} (h : vec.length < 6) :
    (serializeHeader pd vec).1.length = vec.length ∧ (serializeHeader pd vec).2 ≠ none := by
  unfold serializeHeader
  cases hid : arraycopy (toBE 2 pd.id.toUInt16.toNat) 0 vec 0 2 with
  | error e => exact ⟨rfl, by simp⟩
  | ok vec' =>
    obtain ⟨-, -, hdest, rfl⟩ := arraycopy_ok hid
    have hfit : 0 + ((toBE 2 pd.id.toUInt16.toNat).take 2).length ≤ vec.length := by
      simpa using hdest
    have hl := length_overwrite hfit
    cases hlen : arraycopy (toBE 4 pd.len.toUInt32.toNat) 0
        (overwrite vec 0 ((toBE 2 pd.id.toUInt16.toNat).take 2)) 2 4 with
    | error e => simpa [hlen] using hl
    | ok vec' =>
      obtain ⟨-, -, hdest', -⟩ := arraycopy_ok hlen
      rw [hl] at hdest'
      omega

/-- The length of an array for the whole header is the size of the payload and 6 more. -/
theorem payloadSize_eq {len : Int32} {k : ℕ}
    (h : (Int32.ofNat kProtocolHeaderSize + len).toInt = 6 + k) : len.toUInt32.toNat = k := by
  have hle := len.le_toInt
  have hlt := len.toInt_lt
  have hsix : (Int32.ofNat kProtocolHeaderSize).toInt = 6 := by decide
  rw [Int32.toInt_add, hsix] at h
  have hk : len.toInt = k := by
    rw [Int.bmod_def] at h
    split at h <;> omega
  have hlen : len = Int32.ofNat k := by
    rw [← Int32.toInt_inj, hk, Int32.toInt_ofNat_of_lt (by omega)]
  rw [hlen]
  have hsize : UInt32.size = 2 ^ 32 := rfl
  exact UInt32.toNat_ofNat_of_lt' (by omega)

/-- **What `serialize` leaves behind.** An array of 6 bytes or more begins with the header, which tells
its length. -/
theorem serialize_spec {pd : ProtocolData} {buf : List UInt8} :
    (∀ vec, (serializeVector pd buf pd.len).1 = some vec → 6 ≤ vec.length →
      vec.take 6 = packetHeader pd ∧ vec.length = 6 + pd.len.toUInt32.toNat) ∧
    ∀ size, (serializeVector pd buf pd.len).2 = .ok size →
      ∃ vec, (serializeVector pd buf pd.len).1 = some vec ∧ (vec.length : ℤ) = size.toInt ∧
        6 ≤ vec.length := by
  unfold serializeVector
  simp only
  by_cases hneg : Int32.ofNat kProtocolHeaderSize + pd.len < 0
  · simp [hneg]
  simp only [hneg, if_false]
  have h0 : 0 ≤ (Int32.ofNat kProtocolHeaderSize + pd.len).toInt := by
    have := Int32.lt_iff_toInt_lt.not.mp hneg
    simpa using this
  obtain ⟨n, hn⟩ := Int.eq_ofNat_of_zero_le h0
  rw [hn, Int.toNat_natCast]
  rcases lt_or_ge n 6 with hshort | hlong
  · obtain ⟨hl, hthrown⟩ := @serializeHeader_short pd (List.replicate n 0) (by simpa)
    rw [List.length_replicate] at hl
    cases hr : serializeHeader pd (List.replicate n 0) with
    | mk vec thrown =>
      rw [hr] at hl hthrown
      cases thrown with
      | none => exact absurd rfl hthrown
      | some e =>
        refine ⟨fun vec' hv h6 => ?_, nofun⟩
        cases hv
        simp only at hl
        omega
  · obtain ⟨k, rfl⟩ := Nat.exists_eq_add_of_le hlong
    have hk : pd.len.toUInt32.toNat = k := payloadSize_eq (by rw [hn]; simp)
    rw [serializeHeader_zeros, hk]
    simp only
    cases hcopy : arraycopy buf 0 (packetHeader pd ++ List.replicate k 0) kProtocolHeaderSize
        pd.len.toInt with
    | error e =>
      refine ⟨fun vec hv _ => ?_, nofun⟩
      cases hv
      exact ⟨List.take_left' (length_packetHeader pd), by simp [length_packetHeader]⟩
    | ok vec =>
      obtain ⟨hhead, hlen⟩ := @arraycopy_behind buf (packetHeader pd) (List.replicate k 0) vec
        pd.len.toInt (by rw [length_packetHeader]; exact hcopy)
      rw [List.length_append, length_packetHeader, List.length_replicate] at hlen
      rw [length_packetHeader] at hhead
      refine ⟨fun vec' hv _ => ?_, fun size hsize => ⟨vec, rfl, ?_, by omega⟩⟩
      · cases hv
        exact ⟨hhead, hlen⟩
      · cases hsize
        rw [hlen, hn]

/-! ## What `send_to_segment_manager` sends -/

namespace SendCall

def payloads : ℕ → SendCall → List (List UInt8)
  | 0, _ => []
  | turns + 1, call => call.payload :: payloads turns call.next

end SendCall

/-- On a whole array the loop is that of `SendCall`. -/
theorem segmentsFrom_payloads (turns : ℕ) : ∀ call : SendCall, call.offset ≤ call.data.bytes.length →
    segmentsFrom call.data.bytes call.data.bytes.length turns call.offset =
      (call.payloads turns, .returned) := by
  induction turns with
  | zero => intro call _; rfl
  | succ turns ih =>
    intro call h
    have hlen : call.payloadLength ≤ call.data.bytes.length - call.offset := by
      unfold SendCall.payloadLength
      split <;> omega
    have hnext := ih call.next (by simp only [SendCall.next]; omega)
    have hload : load? call.data.bytes call.offset call.payloadLength = some call.payload :=
      if_pos (by omega)
    unfold segmentsFrom
    simp only [SendCall.payloads]
    rw [show (if call.data.bytes.length - call.offset < kSegSize then
      call.data.bytes.length - call.offset else kSegSize) = call.payloadLength from rfl, hload]
    simp only [SendCall.next] at hnext
    simp only [hnext, SendCall.next]

section Segmenting

variable {dataBytes : List UInt8} {n : ℕ}

theorem segmentsFrom_of_le (hn : n ≤ dataBytes.length) (turns : ℕ) : ∀ offset, offset ≤ n →
    n ≤ offset + kSegSize * turns →
      (segmentsFrom dataBytes n turns offset).1.flatten = (dataBytes.take n).drop offset ∧
        (segmentsFrom dataBytes n turns offset).2 = .returned := by
  induction turns with
  | zero =>
    intro offset hoff hend
    have hdrop : (dataBytes.take n).length ≤ offset := by
      rw [List.length_take]
      omega
    exact ⟨by simp [segmentsFrom, List.drop_eq_nil_of_le hdrop], rfl⟩
  | succ turns ih =>
    intro offset hoff hend
    obtain ⟨len, hlen⟩ : ∃ len, len = if n - offset < kSegSize then n - offset else kSegSize :=
      ⟨_, rfl⟩
    have hle : len ≤ n - offset := by
      rw [hlen]
      split <;> omega
    have hrest : n ≤ offset + len + kSegSize * turns := by
      rw [Nat.mul_succ] at hend
      rw [hlen]
      split <;> omega
    obtain ⟨hflat, hend'⟩ := ih (offset + len) (by omega) hrest
    have hload : load? dataBytes offset len = some ((dataBytes.drop offset).take len) :=
      if_pos (by omega)
    have hpart : (dataBytes.drop offset).take len = ((dataBytes.take n).drop offset).take len := by
      rw [List.drop_take, List.take_take, Nat.min_eq_left hle]
    simp only [segmentsFrom, ← hlen, hload, List.flatten_cons]
    refine ⟨?_, hend'⟩
    rw [hflat, hpart, ← List.drop_drop, List.take_append_drop]

/-- Beyond the end of the array it throws. -/
theorem segmentsFrom_of_gt (hn : dataBytes.length < n) (turns : ℕ) :
    ∀ offset, offset ≤ dataBytes.length → n ≤ offset + kSegSize * turns →
      (segmentsFrom dataBytes n turns offset).2 ≠ .returned := by
  induction turns with
  | zero => intro offset hoff hend; omega
  | succ turns ih =>
    intro offset hoff hend
    obtain ⟨len, hlen⟩ : ∃ len, len = if n - offset < kSegSize then n - offset else kSegSize :=
      ⟨_, rfl⟩
    have hrest : n ≤ offset + len + kSegSize * turns := by
      rw [Nat.mul_succ] at hend
      rw [hlen]
      split <;> omega
    simp only [segmentsFrom, ← hlen, load?]
    by_cases hfit : offset + len ≤ dataBytes.length
    · rw [if_pos hfit]
      exact ih (offset + len) hfit hrest
    · rw [if_neg hfit]
      intro hret
      cases hret

end Segmenting

/-- The number of segments of a packet whose size and 511 more is an `int`; for a greater one the sum
is negative, and there is no segment. -/
theorem numOfSegments_spec {size : Int32} (hpos : 0 < size.toInt) :
    (size.toInt + 511 < 2 ^ 31 → size.toInt.toNat ≤ kSegSize * (numOfSegments size).toInt.toNat) ∧
      (¬ size.toInt + 511 < 2 ^ 31 → (numOfSegments size).toInt.toNat = 0) := by
  have hlt := size.toInt_lt
  have hseg : (Int32.ofNat kSegSize).toInt = 512 := by decide
  have hone : (1 : Int32).toInt = 1 := by decide
  have hsum : (size + Int32.ofNat kSegSize - 1).toInt = (size.toInt + 511).bmod (2 ^ 32) := by
    rw [Int32.toInt_sub, Int32.toInt_add, hseg, hone, Int.bmod_sub_bmod]
    congr 1
    omega
  have hdiv : (numOfSegments size).toInt = ((size.toInt + 511).bmod (2 ^ 32)).tdiv 512 := by
    rw [numOfSegments, Int32.toInt_div_of_ne_right _ _ (by decide), hsum, hseg]
  have hk : kSegSize = 512 := rfl
  constructor
  · intro hfit
    rw [hdiv, Int.bmod_eq_of_le (by omega) (by omega), Int.tdiv_eq_ediv_of_nonneg (by omega), hk]
    omega
  · intro hbig
    have hneg : (size.toInt + 511).bmod (2 ^ 32) ≤ 0 := by
      rw [Int.bmod_def]
      split <;> omega
    rw [hdiv, ← Int.neg_neg ((size.toInt + 511).bmod (2 ^ 32)), Int.neg_tdiv]
    have hquot : 0 ≤ (-(size.toInt + 511).bmod (2 ^ 32)).tdiv 512 :=
      Int.tdiv_nonneg (by omega) (by omega)
    omega

section Whole

variable {vec : List UInt8} {size : Int32}

theorem sendToSegmentManager_of_fits (hpos : 0 < size.toInt) (hfit : size.toInt + 511 < 2 ^ 31)
    (hlen : size.toInt.toNat ≤ vec.length) :
    (sendToSegmentManager (some vec) size).1.flatten = vec.take size.toInt.toNat ∧
      (sendToSegmentManager (some vec) size).2 = .returned := by
  have hle : ¬ size ≤ 0 := by
    rw [Int32.le_iff_toInt_le, Int32.toInt_zero]
    omega
  have hturns := (numOfSegments_spec hpos).1 hfit
  simp only [sendToSegmentManager, if_neg hle]
  exact segmentsFrom_of_le hlen _ 0 (Nat.zero_le _) (by rwa [Nat.zero_add])

/-- Only so does it return with a whole packet. -/
theorem fits_of_returned (hpos : 0 < size.toInt)
    (hret : (sendToSegmentManager (some vec) size).2 = .returned)
    (hflat : ((sendToSegmentManager (some vec) size).1.flatten.length : ℤ) = size.toInt) :
    size.toInt + 511 < 2 ^ 31 ∧ size.toInt.toNat ≤ vec.length := by
  have hle : ¬ size ≤ 0 := by
    rw [Int32.le_iff_toInt_le, Int32.toInt_zero]
    omega
  simp only [sendToSegmentManager, if_neg hle] at hret hflat
  have hfit : size.toInt + 511 < 2 ^ 31 := by
    by_contra hbig
    rw [(numOfSegments_spec hpos).2 hbig] at hflat
    simp only [segmentsFrom, List.flatten_nil, List.length_nil] at hflat
    omega
  refine ⟨hfit, ?_⟩
  by_contra hgt
  have hturns := (numOfSegments_spec hpos).1 hfit
  exact segmentsFrom_of_gt (by omega) _ 0 (Nat.zero_le _) (by rwa [Nat.zero_add]) hret

end Whole

/-! ## Interleavings -/

namespace CoreSend

/-- Two arrays of `serialize` that begin with the same packet are the same. -/
theorem vector_eq_of_take {call other : CoreSend} {vec packet : List UInt8}
    (ho : other.vector = some vec) (hc : call.vector = some packet) (hlen : 6 ≤ packet.length)
    (htake : vec.take packet.length = packet) : other.vector = call.vector := by
  have hle : packet.length ≤ vec.length := by
    have := congrArg List.length htake
    rw [List.length_take] at this
    omega
  obtain ⟨hhead, hsize⟩ := serialize_spec.1 vec ho (by omega)
  obtain ⟨hhead', hsize'⟩ := serialize_spec.1 packet hc hlen
  have hsix : vec.take 6 = packet.take 6 := by
    rw [← htake, List.take_take, Nat.min_eq_left hlen]
  rw [hhead, hhead'] at hsix
  have hfield := congrArg (fun bytes => ofBE (bytes.drop 2)) hsix
  simp only [packetHeader, List.drop_left' (length_toBE 2 _), ofBE_toBE] at hfield
  have h256 : (256 : ℕ) ^ 4 = 2 ^ 32 := by decide
  have hl := UInt32.toNat_lt (other.protocolData.len.toUInt32)
  have hl' := UInt32.toNat_lt (call.protocolData.len.toUInt32)
  rw [h256, Nat.mod_eq_of_lt hl, Nat.mod_eq_of_lt hl'] at hfield
  rw [ho, hc, ← htake, List.take_of_length_le (by omega)]

end CoreSend

namespace SendingThreads

variable {s s' : SendingThreads} {i : ℕ} {call : CoreSend}

/-- The array of each call. -/
def vectors (s : SendingThreads) : List (Option (List UInt8)) := s.calls.map CoreSend.vector

/-- Every message that was sent is intact. -/
def AllIntact (s : SendingThreads) : Prop := ∀ call ∈ s.calls, call.Intact

/-- `send_packet` comes when the last array was that of its own call, or has the same bytes, and the
size of the packet and 511 more is an `int`. -/
def Kept (s : SendingThreads) : Label → Prop
  | .sendPacket i => ∀ call packetSize, s.calls[i]? = some call →
      call.stage = .serialized packetSize → packetSize.toInt + 511 < 2 ^ 31 ∧
        ∃ j, s.serializedBy = some j ∧ s.vectors[j]? = some call.vector
  | _ => True

/-- The call is between `serialize` and `send_packet`. -/
structure Ready (call : CoreSend) (packetSize : Int32) : Prop where
  pos : 0 < packetSize.toInt
  vector : ∃ packet, call.vector = some packet ∧ (packet.length : ℤ) = packetSize.toInt ∧
    6 ≤ packet.length

structure Inv (s : SendingThreads) : Prop where
  serializedBy : ∀ j, s.serializedBy = some j → s.vectors[j]? = some s.sSerializedVector
  ready : ∀ call ∈ s.calls, ∀ packetSize, call.stage = .serialized packetSize →
    Ready call packetSize ∧ s.serializedBy.isSome ∧ s.sSerializedVector.isSome
  intact : s.AllIntact

theorem inv_init : Inv init := ⟨nofun, nofun, nofun⟩

theorem vectors_set {c : CoreSend} (hi : s.calls[i]? = some call) (hc : c.vector = call.vector) :
    (s.calls.set i c).map CoreSend.vector = s.vectors := by
  refine List.ext_getElem? fun j => ?_
  rw [vectors, List.getElem?_map, List.getElem?_map]
  by_cases hij : i = j
  · subst hij
    rw [List.getElem?_set_self (List.getElem?_eq_some_iff.mp hi).1, hi, Option.map_some, hc,
      Option.map_some]
  · rw [List.getElem?_set_ne hij]

theorem inv_dataToProtocolData (h : Inv s) (dataBuffer : List UInt8) (dataLength : Int32) :
    Inv (s.dataToProtocolData dataBuffer dataLength) := by
  refine ⟨fun j hj => ?_, fun c hc size hsize => ?_, fun c hc => ?_⟩
  · have hvec := h.serializedBy j hj
    have hlt := (List.getElem?_eq_some_iff.mp hvec).1
    simp only [vectors, dataToProtocolData, List.map_append] at hvec hlt ⊢
    rw [List.getElem?_append_left hlt]
    exact hvec
  · rcases List.mem_append.mp hc with hc | hc
    · exact h.ready c hc size hsize
    · obtain rfl := List.mem_singleton.mp hc
      cases hsize
  · rcases List.mem_append.mp hc with hc | hc
    · exact h.intact c hc
    · obtain rfl := List.mem_singleton.mp hc
      exact fun _ _ _ hstage => nomatch hstage

theorem ready_afterSerialize {packetSize : Int32}
    (hs : call.afterSerialize.stage = .serialized packetSize) :
    Ready call.afterSerialize packetSize ∧ call.vector.isSome := by
  have hspec := (@serialize_spec call.protocolData call.dataBuffer).2
  simp only [CoreSend.afterSerialize] at hs
  split at hs
  · next size hok =>
    split at hs
    · next hpos =>
      cases hs
      obtain ⟨packet, hp, hlen, hsix⟩ := hspec packetSize hok
      exact ⟨⟨by omega, packet, hp, hlen, hsix⟩, Option.isSome_iff_exists.mpr ⟨packet, hp⟩⟩
    · cases hs
  · cases hs

theorem intact_afterSerialize (call : CoreSend) : call.afterSerialize.Intact := by
  intro size payloads ending hs
  simp only [CoreSend.afterSerialize] at hs
  split at hs
  · split at hs <;> cases hs
  · cases hs

theorem inv_serialize (h : Inv s) (hi : s.calls[i]? = some call) : Inv (s.serialize i call) := by
  have hvec : (s.serialize i call).vectors = s.vectors := vectors_set hi rfl
  refine ⟨fun j hj => ?_, fun c hc size hsize => ?_, fun c hc => ?_⟩
  · rw [hvec]
    cases hv : call.vector with
    | none =>
      simp only [serialize, hv, Option.isSome_none, Bool.false_eq_true, if_false,
        Option.none_or] at hj ⊢
      exact h.serializedBy j hj
    | some vec =>
      simp only [serialize, hv, Option.isSome_some, if_true, Option.some_or] at hj ⊢
      cases hj
      rw [vectors, List.getElem?_map, hi, Option.map_some, hv]
  · rcases List.mem_or_eq_of_mem_set hc with hc | rfl
    · obtain ⟨hready, hby, hsome⟩ := h.ready c hc size hsize
      refine ⟨hready, ?_, by simp [serialize, hsome]⟩
      simp only [serialize]
      split
      · rfl
      · exact hby
    · obtain ⟨hready, hsome⟩ := ready_afterSerialize hsize
      exact ⟨hready, by simp [serialize, hsome], by simp [serialize, hsome]⟩
  · rcases List.mem_or_eq_of_mem_set hc with hc | rfl
    · exact h.intact c hc
    · exact intact_afterSerialize call

/-- What `send_packet` does with the packet of the call that assigned the vector last. -/
theorem intact_sendPacket_iff (h : Inv s) {packetSize : Int32} (hi : s.calls[i]? = some call)
    (hstage : call.stage = .serialized packetSize) :
    (call.afterSend s.sSerializedVector packetSize).Intact ↔ Kept s (.sendPacket i) := by
  obtain ⟨⟨hpos, packet, hp, hlen, hsix⟩, hby, hsome⟩ :=
    h.ready call (List.mem_of_getElem? hi) packetSize hstage
  obtain ⟨j, hj⟩ := Option.isSome_iff_exists.mp hby
  obtain ⟨vec, hvec⟩ := Option.isSome_iff_exists.mp hsome
  have hother := h.serializedBy j hj
  rw [vectors, List.getElem?_map, hvec] at hother
  obtain ⟨other, hoj, ho⟩ := Option.map_eq_some_iff.mp hother
  have hsize : packetSize.toInt.toNat = packet.length := by omega
  rw [hvec]
  constructor
  · intro hintact c size hc hs
    obtain rfl := Option.some.inj (hi.symm.trans hc)
    obtain rfl : packetSize = size := SendStage.serialized.inj (hstage.symm.trans hs)
    obtain ⟨hflat, hlen', hret⟩ := hintact packetSize _ _ rfl
    obtain ⟨hfit, hle⟩ := fits_of_returned hpos hret hlen'
    obtain ⟨htake, -⟩ := sendToSegmentManager_of_fits hpos hfit hle
    have hpacket : packet = vec.take packet.length := by
      rw [← hsize, ← htake]
      exact Option.some.inj (hp.symm.trans hflat)
    have hsame := CoreSend.vector_eq_of_take ho hp hsix hpacket.symm
    exact ⟨hfit, j, hj, by rw [vectors, List.getElem?_map, hoj, Option.map_some, hsame]⟩
  · intro hk size payloads ending hs
    cases hs
    obtain ⟨hfit, j', hj', hsame⟩ := hk call packetSize hi hstage
    obtain rfl := Option.some.inj (hj.symm.trans hj')
    rw [vectors, List.getElem?_map, hoj, Option.map_some, ho, hp] at hsame
    obtain rfl : vec = packet := Option.some.inj (Option.some.inj hsame)
    have hle : packetSize.toInt.toNat ≤ vec.length := hsize.le
    obtain ⟨htake, hret⟩ := sendToSegmentManager_of_fits hpos hfit hle
    rw [hsize, List.take_length] at htake
    rw [htake]
    exact ⟨hp, hlen, hret⟩

theorem inv_sendPacket (h : Inv s) {packetSize : Int32} (hi : s.calls[i]? = some call)
    (hstage : call.stage = .serialized packetSize) (hk : Kept s (.sendPacket i)) :
    Inv (s.sendPacket i call packetSize) := by
  have hvec : (s.sendPacket i call packetSize).vectors = s.vectors := vectors_set hi rfl
  refine ⟨fun j hj => ?_, fun c hc size hsize => ?_, fun c hc => ?_⟩
  · rw [hvec]
    exact h.serializedBy j hj
  · rcases List.mem_or_eq_of_mem_set hc with hc | rfl
    · exact h.ready c hc size hsize
    · cases hsize
  · rcases List.mem_or_eq_of_mem_set hc with hc | rfl
    · exact h.intact c hc
    · exact (intact_sendPacket_iff h hi hstage).mpr hk

theorem step_serialize (hs : step s (.serialize i) = .ok s') :
    ∃ call, s.calls[i]? = some call ∧ s' = s.serialize i call := by
  simp only [step] at hs
  cases hi : s.calls[i]? with
  | none => rw [hi] at hs; cases hs
  | some call =>
    rw [hi] at hs
    simp only at hs
    split at hs <;> cases hs
    exact ⟨call, rfl, rfl⟩

theorem step_sendPacket (hs : step s (.sendPacket i) = .ok s') :
    ∃ call packetSize, s.calls[i]? = some call ∧ call.stage = .serialized packetSize ∧
      s' = s.sendPacket i call packetSize := by
  simp only [step] at hs
  cases hi : s.calls[i]? with
  | none => rw [hi] at hs; cases hs
  | some call =>
    rw [hi] at hs
    simp only at hs
    split at hs <;> cases hs
    exact ⟨call, _, rfl, ‹_›, rfl⟩

theorem step_inv (s : SendingThreads) (l : Label) (s' : SendingThreads) (h : Inv s)
    (hk : Kept s l) (hs : step s l = .ok s') : Inv s' := by
  cases l with
  | dataToProtocolData dataBuffer dataLength =>
    cases hs
    exact inv_dataToProtocolData h dataBuffer dataLength
  | serialize i =>
    obtain ⟨call, hi, rfl⟩ := step_serialize hs
    exact inv_serialize h hi
  | sendPacket i =>
    obtain ⟨call, packetSize, hi, hstage, rfl⟩ := step_sendPacket hs
    exact inv_sendPacket h hi hstage hk

/-- A message that is sent from another array is not intact. -/
theorem not_intact_of_not_kept (s : SendingThreads) (l : Label) (s' : SendingThreads) (h : Inv s)
    (hk : ¬ Kept s l) (hs : step s l = .ok s') : ¬ s'.AllIntact := by
  cases l with
  | dataToProtocolData dataBuffer dataLength => exact absurd trivial hk
  | serialize i => exact absurd trivial hk
  | sendPacket i =>
    obtain ⟨call, packetSize, hi, hstage, rfl⟩ := step_sendPacket hs
    intro hall
    refine hk ((intact_sendPacket_iff h hi hstage).mp (hall _ ?_))
    exact List.mem_set (List.getElem?_eq_some_iff.mp hi).1 _

/-- **The runs whose messages are all intact.** -/
theorem intact_iff (ls : List Label) :
    (∀ s, Runs.Reached step init ls s → s.AllIntact) ↔ Runs.AllSteps step Kept init ls :=
  Runs.throughout_iff_allSteps (fun _ h => h.intact) step_inv not_intact_of_not_kept inv_init

/-- Two calls, of one byte and of two bytes. The second serializes before the first sends. -/
def overtaken : List Label :=
  [.dataToProtocolData [1] 1, .dataToProtocolData [2, 3] 2, .serialize 0, .serialize 1,
    .sendPacket 0, .sendPacket 1]

/-- The first call sends 7 bytes of the second packet, and its own byte is lost. -/
theorem overtaken_not_intact : ∃ s, Runs.Reached step init overtaken s ∧ ¬ s.AllIntact := by
  obtain ⟨s, hr, hv⟩ : ∃ s, Runs.run step init overtaken = .ok s ∧
      s.calls = [⟨[1], 1, 0, .sent 7 [[0, 1, 0, 0, 0, 2, 2]] .returned⟩,
        ⟨[2, 3], 2, 1, .sent 8 [[0, 1, 0, 0, 0, 2, 2, 3]] .returned⟩] :=
    Runs.exists_run_of_view (fun t : SendingThreads => t.calls) (by decide +kernel)
  refine ⟨s, Runs.Reached.of_run hr, fun hall => ?_⟩
  have hmem : (⟨[1], 1, 0, .sent 7 [[0, 1, 0, 0, 0, 2, 2]] .returned⟩ : CoreSend) ∈ s.calls := by
    rw [hv]
    exact List.mem_cons_self
  have hflat := (hall _ hmem 7 _ _ rfl).1
  revert hflat
  decide +kernel

end SendingThreads

end Android
end VirtualConnection
