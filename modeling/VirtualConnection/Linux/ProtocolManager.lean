import Mathlib.Data.List.Forall2
import Mathlib.Data.List.GetD
import VirtualConnection.Linux.Sending

/-!
# Linux.ProtocolManager

`ProtocolManager` and `SegmentManager::recv_from_segment_manager`: a payload gets a header of six
bytes and is cut into segments by the sender; the receiver puts it together again.

A list of dequeue results stands for the receive queue, `none` for a `NULL` that `dequeue` may
return. The first loop waits for a segment, the second one dereferences whatever it gets.

The receiver keeps its position in a `uint16_t`, so it falls back to 506 once 66042 bytes have
been stored. `recv_round_trip_iff` says which payloads survive that.
-/

namespace VirtualConnection
namespace Linux

open Bytes

def kProtHeaderSize : ℕ := 6

structure ProtocolData where
  id : UInt16
  len : UInt32
  deriving DecidableEq

/-- `serialize_header` and `serialize_data`. -/
def serialize (pd : ProtocolData) (buf : List UInt8) : List UInt8 :=
  toBE 2 pd.id.toNat ++ toBE 4 pd.len.toNat ++ buf

def parseHeader (serialized : List UInt8) : ProtocolData where
  id := UInt16.ofNat (ofBE (serialized.take 2))
  len := UInt32.ofNat (ofBE ((serialized.drop 2).take 4))

/-- `data_to_protocol_data` with the next packet id. -/
def dataToProtocolData (sPacketId : UInt16) (dat : List UInt8) : ProtocolData :=
  ⟨sPacketId, UInt32.ofNat dat.length⟩

/-- The packet that `Core::send` makes of a payload. -/
def corePacket (sPacketId : UInt16) (dat : List UInt8)
    (hfits : dat.length + kProtHeaderSize < 2 ^ 32) : Packet where
  bytes := serialize (dataToProtocolData sPacketId dat) dat
  nonempty := by
    simp only [serialize, List.length_append, length_toBE]
    omega
  fits := by
    simp only [serialize, List.length_append, length_toBE]
    simp only [kProtHeaderSize] at hfits
    omega

/-! ## Receiving -/

/-- `memcpy(serialized + offset, &(seg->data[kSegHeaderSize]) + skip, data_size)`. -/
def copyPayload (seg : Segment) (skip dataSize : ℕ) (serialized : List UInt8) (offset : UInt16) :
    Except Stop (List UInt8) :=
  match load? seg.data.1 (kSegHeaderSize + skip) dataSize with
  | none => .error (.fault .outOfBounds)
  | some bytes =>
    match store? serialized offset.toNat bytes with
    | none => .error (.fault .outOfBounds)
    | some serialized' => .ok serialized'

/-- `while (dequeued == false)`. -/
def recvFirst : List (Option Segment) → Except Stop (Segment × List (Option Segment))
  | [] => .error .waiting
  | none :: queue => recvFirst queue
  | some seg :: queue => .ok (seg, queue)

/-- `while (cont)`. -/
def recvRest : Bool → List UInt8 → UInt16 → List (Option Segment) →
    Except Stop (List UInt8 × List (Option Segment))
  | false, serialized, _, queue => .ok (serialized, queue)
  | true, _, _, [] => .error .waiting
  | true, _, _, none :: _ => .error (.fault .nullPointer)
  | true, serialized, offset, some seg :: queue =>
    match copyPayload seg 0 seg.len.toNat serialized offset with
    | .error e => .error e
    | .ok serialized' => recvRest seg.isMF serialized' (offset + UInt16.ofNat seg.len.toNat) queue

/-- The header, the buffer (`NULL` for an empty payload) and what is left in the queue. The length
of the first piece is computed in `uint32_t`. -/
def recvFromSegmentManager (queue : List (Option Segment)) :
    Except Stop (ProtocolData × Option (List UInt8) × List (Option Segment)) :=
  match recvFirst queue with
  | .error e => .error e
  | .ok (seg, queue) =>
    let pd := parseHeader (seg.data.1.drop kSegHeaderSize)
    if pd.len = 0 then .ok (pd, none, queue)
    else
      let dataSize := (seg.len - UInt32.ofNat kProtHeaderSize).toNat
      match copyPayload seg kProtHeaderSize dataSize (List.replicate pd.len.toNat 0) 0 with
      | .error e => .error e
      | .ok serialized =>
        match recvRest seg.isMF serialized (UInt16.ofNat dataSize) queue with
        | .error e => .error e
        | .ok (serialized, queue) => .ok (pd, some serialized, queue)

/-- The returned length, `*buf`, and what is left in the queue. -/
def recvPacket (queue : List (Option Segment)) :
    Except Stop (UInt32 × Option (List UInt8) × List (Option Segment)) :=
  match recvFromSegmentManager queue with
  | .error e => .error e
  | .ok (pd, buf, queue) =>
    if pd.len = 0 ∨ buf.isSome then .ok (pd.len, buf, queue) else .error (.fault .assertion)

/-! ## The header -/

theorem parseHeader_serialize (pd : ProtocolData) (buf tail : List UInt8) :
    parseHeader (serialize pd buf ++ tail) = pd := by
  simp [parseHeader, serialize, ofBE_toBE]

/-- The first piece of a packet holds the header and the first bytes of the payload. -/
theorem piece_zero_serialize (pd : ProtocolData) (dat : List UInt8) :
    piece kSegSize (serialize pd dat) 0 = serialize pd (dat.take 506) := by
  simp [piece, serialize, List.take_append, kSegSize, List.take_of_length_le]

theorem piece_succ_serialize (pd : ProtocolData) (dat : List UInt8) (i : ℕ) :
    piece kSegSize (serialize pd dat) (i + 1) = (dat.drop (512 * i + 506)).take 512 := by
  have hlen : (toBE 2 pd.id.toNat ++ toBE 4 pd.len.toNat).length = 6 := by simp
  rw [piece, serialize, List.drop_append, hlen, List.drop_eq_nil_of_le]
  · have hoff : kSegSize * (i + 1) - 6 = 512 * i + 506 := by simp only [kSegSize]; omega
    rw [hoff, List.nil_append, kSegSize]
  · simp only [kSegSize, hlen]
    omega

/-! ## The copying loop -/

section Reassembly

variable {dat serialized : List UInt8} {s : ℕ}

/-- `serialized` after `s` payload bytes have been copied. Positions from 66042 on are never
written; a position below holds its own byte until the `uint16_t` position comes round again, and
then a byte from 66042 on. -/
structure Filled (dat : List UInt8) (s : ℕ) (serialized : List UInt8) : Prop where
  length : serialized.length = dat.length
  high : ∀ j, 66042 ≤ j → serialized.getD j 0 = 0
  kept : ∀ j < s, j < 66042 → j < 506 ∨ s ≤ j + 65536 → serialized.getD j 0 = dat.getD j 0
  lost : ∀ j < 66042, 506 ≤ j → j + 65536 < s →
    ∃ t, 66042 ≤ t ∧ serialized.getD j 0 = dat.getD t 0

theorem filled_first :
    Filled dat (dat.take 506).length
      (overwrite (List.replicate dat.length 0) 0 (dat.take 506)) := by
  have hlen : 0 + (dat.take 506).length ≤ (List.replicate dat.length (0 : UInt8)).length := by
    simp only [List.length_take, List.length_replicate]
    omega
  have hzero : ∀ j, (List.replicate dat.length (0 : UInt8)).getD j 0 = 0 := by
    intro j
    rw [List.getD_eq_getElem?_getD, List.getElem?_replicate]
    split <;> rfl
  refine ⟨by rw [length_overwrite hlen, List.length_replicate], fun j hj => ?_,
    fun j hj _ _ => ?_, fun j _ _ hj => ?_⟩
  · rw [getD_overwrite hlen, if_neg (by simp; omega), hzero]
  · rw [getD_overwrite hlen, if_pos ⟨Nat.zero_le _, by omega⟩]
    have h506 : j < 506 := by simp at hj; omega
    simp [List.getD_eq_getElem?_getD, List.getElem?_take_of_lt h506]
  · simp at hj
    omega

/-- Another piece goes to the truncated position. -/
theorem Filled.next {i : ℕ} (h : Filled dat s serialized) (hs : s = 512 * i + 506)
    (hlt : s < dat.length) :
    s % 65536 + ((dat.drop s).take 512).length ≤ serialized.length ∧
      Filled dat (s + ((dat.drop s).take 512).length)
        (overwrite serialized (s % 65536) ((dat.drop s).take 512)) := by
  have hc : ((dat.drop s).take 512).length = min 512 (dat.length - s) := by simp
  have hmod : s % 65536 ≤ s := Nat.mod_le _ _
  have hfit : s % 65536 + ((dat.drop s).take 512).length ≤ serialized.length := by
    rw [h.length]; omega
  have hbyte : ∀ d < ((dat.drop s).take 512).length,
      ((dat.drop s).take 512).getD d 0 = dat.getD (s + d) 0 := by
    intro d hd
    have h512 : d < 512 := by omega
    simp [List.getD_eq_getElem?_getD, List.getElem?_take_of_lt h512]
  refine ⟨hfit, by rw [length_overwrite hfit, h.length], fun j hj => ?_, fun j hj hj' hor => ?_,
    fun j hj hj' hlost => ?_⟩
  · rw [getD_overwrite hfit, if_neg (by omega), h.high j hj]
  · rw [getD_overwrite hfit]
    split
    · next hin =>
      rw [hbyte _ (by omega)]
      congr 1
      omega
    · next hout => exact h.kept j (by omega) hj' (by omega)
  · rw [getD_overwrite hfit]
    split
    · next hin => exact ⟨s + (j - s % 65536), by omega, hbyte _ (by omega)⟩
    · next hout => exact h.lost j hj hj' (by omega)

end Reassembly

/-! ## The round trip -/

/-- A received segment that brings a sent one: the header fields that the receiver reads and the
bytes behind the header. -/
structure Carries (sent received : Segment) : Prop where
  len : received.len = sent.len
  flag : received.flag = sent.flag
  data : received.data.1.drop kSegHeaderSize = sent.data.1.drop kSegHeaderSize

/-- Piece number `i` of a packet, in a received segment. -/
structure Carried (data : Packet) (i : ℕ) (seg : Segment) : Prop where
  len : seg.len.toNat = (piece kSegSize data.bytes i).length
  mf : seg.isMF = decide (i + 1 < data.numOfSegments)
  payload : seg.payload = piece kSegSize data.bytes i

theorem SendCall.IsPiece.carried {data : Packet} {isControl : Bool} {base : UInt32} {i : ℕ}
    {sent received : Segment} (h : IsPiece data isControl base i sent)
    (hc : Carries sent received) : Carried data i received where
  len := by rw [hc.len, h.len]
  mf := by rw [← h.mf, Segment.isMF, hc.flag, Segment.isMF]
  payload := by rw [← h.payload, Segment.payload, hc.data, hc.len, Segment.payload]

theorem copyPayload_carried {data : Packet} {i : ℕ} {seg : Segment} {serialized : List UInt8}
    (skip : ℕ) (offset : UInt16) (h : Carried data i seg) (hskip : skip ≤ seg.len.toNat)
    (hfit : offset.toNat + ((piece kSegSize data.bytes i).drop skip).length ≤ serialized.length) :
    copyPayload seg skip (seg.len.toNat - skip) serialized offset =
      .ok (overwrite serialized offset.toNat ((piece kSegSize data.bytes i).drop skip)) := by
  have hlen := h.len
  have hpiece := length_piece kSegSize data.bytes i
  have hdata := seg.data.2
  have hload : load? seg.data.1 (kSegHeaderSize + skip) (seg.len.toNat - skip) =
      some ((piece kSegSize data.bytes i).drop skip) := by
    rw [load?, if_pos (by simp only [hdata, segmentDataSize]; omega), ← h.payload, Segment.payload,
      List.drop_take, List.drop_drop]
  simp only [copyPayload, hload, store?, if_pos hfit]

section RoundTrip

variable {data : Packet} {pd : ProtocolData} {dat : List UInt8}

/-- The second loop: induction on the pieces that are still to come. -/
theorem recvRest_spec (hdata : data.bytes = serialize pd dat) (rest : List (Option Segment))
    (k : ℕ) : ∀ (i : ℕ) (serialized : List UInt8) (received : List Segment),
      List.Forall₂ (Carried data) (List.range' (i + 1) k) received →
      i + 1 + k = data.numOfSegments →
      Filled dat (min (512 * i + 506) dat.length) serialized →
      ∃ serialized', recvRest (decide (i + 1 < data.numOfSegments)) serialized
          (UInt16.ofNat (min (512 * i + 506) dat.length)) (received.map some ++ rest) =
            .ok (serialized', rest) ∧
        Filled dat dat.length serialized' := by
  have hbytes : data.bytes.length = 6 + dat.length := by simp [hdata, serialize]; omega
  have hlt : ∀ i, i < data.numOfSegments ↔ 512 * i < 6 + dat.length := by
    intro i
    rw [Packet.lt_numOfSegments, hbytes, kSegSize]
  induction k with
  | zero =>
    intro i serialized received hr hk hf
    obtain rfl := List.forall₂_nil_left_iff.mp hr
    have hlast := (hlt (i + 1)).not.mp (by omega)
    rw [Nat.min_eq_right (by omega)] at hf
    refine ⟨serialized, ?_, hf⟩
    rw [decide_eq_false (by omega)]
    simp [recvRest]
  | succ k ih =>
    intro i serialized received hr hk hf
    rw [List.range'_succ] at hr
    obtain ⟨seg, received, hseg, hr', rfl⟩ := List.forall₂_cons_left_iff.mp hr
    have hmore := (hlt (i + 1)).mp (by omega)
    have hpiece : piece kSegSize data.bytes (i + 1) = (dat.drop (512 * i + 506)).take 512 := by
      rw [hdata, piece_succ_serialize]
    have hlen : ((dat.drop (512 * i + 506)).take 512).length =
        min 512 (dat.length - (512 * i + 506)) := by simp
    rw [Nat.min_eq_left (by omega)] at hf ⊢
    obtain ⟨hfit, hf'⟩ := hf.next rfl (by omega)
    have hoff : (UInt16.ofNat (512 * i + 506)).toNat = (512 * i + 506) % 65536 :=
      UInt16.toNat_ofNat'
    have hcopy := copyPayload_carried 0 (UInt16.ofNat (512 * i + 506)) hseg
      (Nat.zero_le _) (by rw [hoff, hpiece]; exact hfit)
    rw [hoff, hpiece, Nat.sub_zero, List.drop_zero] at hcopy
    have hnext : 512 * i + 506 + ((dat.drop (512 * i + 506)).take 512).length =
        min (512 * (i + 1) + 506) dat.length := by omega
    obtain ⟨serialized', hrec, hf''⟩ := ih (i + 1) _ received hr' (by omega) (hnext ▸ hf')
    refine ⟨serialized', ?_, hf''⟩
    rw [decide_eq_true (by omega), List.map_cons, List.cons_append, recvRest, hcopy, hseg.mf,
      hseg.len, hpiece, ← UInt16.ofNat_add, hnext]
    exact hrec

/-- The whole call: it takes exactly the segments of the packet and fills the buffer. -/
theorem recvPacket_spec (hdata : data.bytes = serialize pd dat) (hpd : pd.len.toNat = dat.length)
    {received : List Segment}
    (hr : List.Forall₂ (Carried data) (List.range data.numOfSegments) received)
    (rest : List (Option Segment)) :
    ∃ buf, recvPacket (received.map some ++ rest) = .ok (pd.len, buf, rest) ∧
      Filled dat dat.length (buf.getD []) := by
  have hbytes : data.bytes.length = 6 + dat.length := by simp [hdata, serialize]; omega
  obtain ⟨k, hk⟩ : ∃ k, data.numOfSegments = k + 1 :=
    ⟨data.numOfSegments - 1, by have := Packet.lt_numOfSegments data 0; omega⟩
  rw [hk, List.range_eq_range', List.range'_succ] at hr
  obtain ⟨seg, received, hseg, hr', rfl⟩ := List.forall₂_cons_left_iff.mp hr
  have hpiece : piece kSegSize data.bytes 0 = serialize pd (dat.take 506) := by
    rw [hdata, piece_zero_serialize]
  have hpre : (piece kSegSize data.bytes 0).drop 6 = dat.take 506 := by
    rw [hpiece, serialize, List.drop_left' (by simp)]
  have hlen : seg.len.toNat = 6 + (dat.take 506).length := by
    rw [hseg.len, hpiece]; simp [serialize]; omega
  have hparse : parseHeader (seg.data.1.drop kSegHeaderSize) = pd := by
    rw [← List.take_append_drop seg.len.toNat (seg.data.1.drop kSegHeaderSize)]
    have hp := hseg.payload
    rw [Segment.payload, hpiece] at hp
    rw [hp, parseHeader_serialize]
  by_cases h0 : pd.len = 0
  · -- an empty payload: one segment, no buffer
    have hnil : dat = [] := List.length_eq_zero_iff.mp (by rw [← hpd, h0]; rfl)
    have hk0 : k = 0 := by
      have := Packet.lt_numOfSegments data 1
      simp only [hbytes, hnil, List.length_nil, kSegSize] at this
      omega
    subst hk0
    obtain rfl := List.forall₂_nil_left_iff.mp hr'
    refine ⟨none, by simp [recvPacket, recvFromSegmentManager, recvFirst, hparse, h0], ?_⟩
    subst hnil
    exact ⟨rfl, fun _ _ => rfl, fun _ _ _ _ => rfl, fun _ _ _ h => absurd h (by simp)⟩
  · have hsize : (seg.len - UInt32.ofNat kProtHeaderSize).toNat = (dat.take 506).length := by
      have h6 : (UInt32.ofNat kProtHeaderSize).toNat = 6 := rfl
      rw [UInt32.toNat_sub_of_le _ _ (UInt32.le_iff_toNat_le.mpr (by omega)), h6]
      omega
    have hroom : (0 : UInt16).toNat + ((piece kSegSize data.bytes 0).drop 6).length ≤
        (List.replicate dat.length (0 : UInt8)).length := by
      rw [hpre, UInt16.toNat_zero, List.length_take, List.length_replicate]
      omega
    have hcopy := copyPayload_carried 6 0 hseg (by omega) hroom
    have hsub : seg.len.toNat - 6 = (dat.take 506).length := by omega
    rw [hpre, hsub] at hcopy
    have hcopy' : copyPayload seg kProtHeaderSize (dat.take 506).length
        (List.replicate dat.length 0) 0 =
          .ok (overwrite (List.replicate dat.length 0) 0 (dat.take 506)) := hcopy
    have hmin : (dat.take 506).length = min (512 * 0 + 506) dat.length := by simp
    have hf : Filled dat (min (512 * 0 + 506) dat.length) _ := hmin ▸ filled_first
    obtain ⟨serialized', hrec, hf'⟩ := recvRest_spec hdata rest k 0 _ received
      hr' (by omega) hf
    refine ⟨some serialized', ?_, hf'⟩
    have hmf : seg.isMF = decide (0 + 1 < data.numOfSegments) := hseg.mf
    have hrfs : recvFromSegmentManager ((seg :: received).map some ++ rest) =
        .ok (pd, some serialized', rest) := by
      simp only [recvFromSegmentManager, List.map_cons, List.cons_append, recvFirst, hparse,
        if_neg h0, hpd, hsize, hcopy', hmf]
      rw [hmin, hrec]
    rw [recvPacket, hrfs]
    simp

end RoundTrip

/-- The payloads that come through: what the truncated position mixes up is zero anyway. -/
def Survives (dat : List UInt8) : Prop :=
  ∀ i, 66042 ≤ i ∨ 506 ≤ i ∧ i + 65536 < dat.length → dat.getD i 0 = 0

theorem survives_of_le {dat : List UInt8} (h : dat.length ≤ 66042) : Survives dat := by
  intro i hi
  rw [List.getD_eq_getElem?_getD, List.getElem?_eq_none (by omega)]
  rfl

theorem Filled.eq_iff {dat serialized : List UInt8} (h : Filled dat dat.length serialized) :
    serialized = dat ↔ Survives dat := by
  constructor
  · rintro rfl i (hi | ⟨hi, hlt⟩)
    · exact h.high i hi
    · rcases Nat.lt_or_ge i 66042 with hi' | hi'
      · obtain ⟨t, ht, he⟩ := h.lost i hi' hi hlt
        rw [he, h.high t ht]
      · exact h.high i hi'
  · intro hs
    refine List.ext_getElem h.length fun j h1 h2 => ?_
    have hj : serialized.getD j 0 = dat.getD j 0 := by
      rcases Nat.lt_or_ge j 66042 with hj | hj
      · by_cases hk : j < 506 ∨ dat.length ≤ j + 65536
        · exact h.kept j h2 hj hk
        · obtain ⟨t, ht, he⟩ := h.lost j hj (by omega) (by omega)
          rw [he, hs t (.inl ht), hs j (.inr ⟨by omega, by omega⟩)]
      · rw [h.high j hj, hs j (.inl hj)]
    simpa [List.getD_eq_getElem?_getD, h1, h2] using hj

/-- `Core::send` up to the send queue: the segments of one payload. -/
def coreSend (sPacketId : UInt16) (dat : List UInt8) (hfits : dat.length + kProtHeaderSize < 2 ^ 32)
    (isControl : Bool) (sec usec base : UInt32) (free : ℕ → Segment) : List Segment :=
  sendToSegmentManager (corePacket sPacketId dat hfits) isControl sec usec base free

section CoreSend

variable {sPacketId : UInt16} {dat : List UInt8} {hfits : dat.length + kProtHeaderSize < 2 ^ 32}
  {isControl : Bool} {sec usec base : UInt32} {free : ℕ → Segment}

/-- The receive queue need not hold the sender's own objects: frames that were parsed again bring
the same pieces. -/
theorem carries_readHeader (k : ℕ) : ∀ call : SendCall,
    List.Forall₂ Carries (call.segments free k)
      ((call.segments free k).map fun seg => readHeader seg.data) := by
  induction k with
  | zero => intro call; exact .nil
  | succ k ih =>
    intro call
    obtain ⟨-, hlen, hflag⟩ := SendCall.readHeader_writeSegment call (free call.segIdx)
    rw [SendCall.segments, List.map_cons]
    exact .cons ⟨hlen, hflag, by rw [readHeader_data]⟩ (ih call.next)

theorem coreSend_carried {received : List Segment}
    (hr : List.Forall₂ Carries (coreSend sPacketId dat hfits isControl sec usec base free) received) :
    List.Forall₂ (Carried (corePacket sPacketId dat hfits))
      (List.range (corePacket sPacketId dat hfits).numOfSegments) received := by
  obtain ⟨hl, hp⟩ := List.forall₂_iff_get.mp
    (sendToSegmentManager_spec (corePacket sPacketId dat hfits) isControl sec usec base free)
  obtain ⟨hl', hc⟩ := List.forall₂_iff_get.mp hr
  exact List.forall₂_iff_get.mpr ⟨hl.trans hl', fun i h1 h2 =>
    (hp i h1 (hl ▸ h1)).carried (hc i (hl ▸ h1) h2)⟩

theorem recvPacket_coreSend {received : List Segment}
    (hr : List.Forall₂ Carries (coreSend sPacketId dat hfits isControl sec usec base free) received)
    (rest : List (Option Segment)) :
    ∃ buf, recvPacket (received.map some ++ rest) = .ok (UInt32.ofNat dat.length, buf, rest) ∧
      Filled dat dat.length (buf.getD []) := by
  have hbytes : (corePacket sPacketId dat hfits).bytes =
      serialize (dataToProtocolData sPacketId dat) dat := rfl
  refine recvPacket_spec hbytes ?_ (coreSend_carried hr) rest
  rw [dataToProtocolData, UInt32.toNat_ofNat', Nat.mod_eq_of_lt]
  simp only [kProtHeaderSize] at hfits
  omega

/-- **The message round trip.** The receiver returns the length and the bytes that were sent and
takes exactly their segments if and only if the payload survives the `uint16_t` position. -/
theorem recv_round_trip_iff {received : List Segment}
    (hr : List.Forall₂ Carries (coreSend sPacketId dat hfits isControl sec usec base free) received)
    (rest : List (Option Segment)) :
    (∃ buf, recvPacket (received.map some ++ rest) = .ok (UInt32.ofNat dat.length, buf, rest) ∧
      buf.getD [] = dat) ↔ Survives dat := by
  obtain ⟨buf, hok, hf⟩ := recvPacket_coreSend hr rest
  rw [← hf.eq_iff, hok]
  constructor
  · rintro ⟨buf', he, hb⟩
    cases he
    exact hb
  · exact fun hb => ⟨buf, rfl, hb⟩

end CoreSend

/-- Three bytes of control traffic, sent as a frame and parsed again. -/
theorem recv_round_trip_three :
    ∃ buf, recvPacket (((coreSend 7 [1, 2, 3] (by decide) true 0 0 41 fun _ => .zero).map
        fun seg => readHeader seg.data).map some ++ [none]) = .ok (3, buf, [none]) ∧
      buf.getD [] = [1, 2, 3] :=
  (recv_round_trip_iff (carries_readHeader _ _) [none]).mpr (survives_of_le (by decide))

/-- 66042 zero bytes and a one. -/
def overlongPayload : List UInt8 := List.replicate 66042 0 ++ [1]

theorem length_overlongPayload : overlongPayload.length = 66043 := by
  rw [overlongPayload, List.length_append, List.length_replicate, List.length_singleton]

theorem overlongPayload_last : overlongPayload.getD 66042 0 = 1 := by
  rw [overlongPayload, List.getD_append_right _ _ _ _ (by rw [List.length_replicate]),
    List.length_replicate, Nat.sub_self]
  rfl

/-- One byte too many: the last one is not stored where it belongs. -/
theorem recv_round_trip_wraps :
    ∃ hfits : overlongPayload.length + kProtHeaderSize < 2 ^ 32,
      ¬ ∃ buf, recvPacket ((coreSend 1 overlongPayload hfits false 0 0 0 fun _ => .zero).map some) =
          .ok (UInt32.ofNat overlongPayload.length, buf, []) ∧
        buf.getD [] = overlongPayload := by
  refine ⟨by rw [length_overlongPayload]; decide, ?_⟩
  rintro ⟨buf, hok, hb⟩
  obtain ⟨buf', hok', hf⟩ := recvPacket_coreSend
    (List.forall₂_same.mpr fun _ _ => ⟨rfl, rfl, rfl⟩) []
  rw [List.append_nil] at hok'
  rw [hok'] at hok
  cases hok
  have hs := hf.eq_iff.mp hb 66042 (.inl (Nat.le_refl _))
  rw [overlongPayload_last] at hs
  exact absurd hs (by decide)

end Linux
end VirtualConnection
