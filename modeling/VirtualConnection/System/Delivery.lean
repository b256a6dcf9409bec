import VirtualConnection.Android.Sending
import VirtualConnection.System.LinuxToAndroid
import VirtualConnection.System.Messages

/-!
# System.Delivery

Messages from Linux to Android, from end to end: any number of callers of `Core::send`, sender threads
on any number of adapters, and on Android one thread for each type that calls `recv`. The connections
are reduced to what they can do to whole frames: a frame that was handed to a socket arrives at any
later time, any number of times, or never. The peer's control messages to Linux may say anything, but
must not acknowledge a segment that is about to be sent again.

* `received_prefix`: what has been received are the first messages that were sent, whole and in the
  order of their reservations.
* `received_all`: all of them, once every segment has arrived and no arrival was misplaced.
-/

namespace VirtualConnection
namespace Delivery

open Bytes Linux Android LinuxToAndroid

structure Network where
  linux : Traffic
  android : Receiver
  arrived : List Android.Segment
  /-- What `recv_from_segment_manager` has dequeued. -/
  taken : SegSeqNumType → List Android.Segment

def init : Network := ⟨.init, .init, [], fun _ => []⟩

inductive Label where
  | linux (l : Traffic.Label)
  /-- Frame number `i` of those that were handed to a socket arrives. -/
  | arrive (i : ℕ)
  | take (t : SegSeqNumType)

def step (s : Network) : Label → Except Stop Network
  | .linux l =>
    match Traffic.step s.linux l with
    | .error e => .error e
    | .ok linux => .ok { s with linux := linux }
  | .arrive i =>
    match s.linux.transmitted[i]? with
    | none => .error .waiting
    | some tr => .ok { s with
        android := s.android.receive tr.frame
        arrived := s.arrived ++ [tr.frame] }
  | .take t =>
    .ok { s with
      android := s.android.take t
      taken := Function.update s.taken t
        (s.taken t ++ (s.android.queues t).dequeue.1.toList) }

/-- What `k` calls of `recv_from_segment_manager` return, one after the other, until one has to wait. -/
def receiveAll : ℕ → List (Option Android.Segment) → List (List UInt8)
  | 0, _ => []
  | k + 1, dequeued =>
    match Android.recvFromSegmentManager dequeued with
    | .error _ => []
    | .ok (_, data, rest) => data.getD [] :: receiveAll k rest

/-- The bytes behind the protocol header. -/
def message (data : Linux.Packet) : List UInt8 := data.bytes.drop kProtHeaderSize

/-- A packet that `Core::send` makes of a message that is not empty and whose length is an `int`. -/
def IsMessage (data : Linux.Packet) : Prop :=
  data.bytes = serialize (dataToProtocolData (Linux.parseHeader data.bytes).id (message data))
      (message data) ∧
    message data ≠ [] ∧ (message data).length < 2 ^ 31 - 517

instance (data : Linux.Packet) : Decidable (IsMessage data) :=
  inferInstanceAs (Decidable (data.bytes = serialize (dataToProtocolData
      (Linux.parseHeader data.bytes).id (message data)) (message data) ∧
    message data ≠ [] ∧ (message data).length < 2 ^ 31 - 517))

/-- Only QueueStatus has a condition. -/
def decidableUnlent (s : Traffic) : ∀ l, Decidable (Traffic.Unlent s l)
  | .queueStatus control data => inferInstanceAs (Decidable (s.NoCopyOut control data))
  | .reserve .. | .pop .. | .push _ | .takeFailed _ | .takeQueued _ | .transmit .. | .refuse _
  | .file _ | .retransmit .. | .recvPop _ | .recvDrop _ | .recvPush .. | .consume _
  | .consumerDrop _ | .release _ => .isTrue trivial

/-- The messages of one type, in the order of their reservations. -/
def messages (s : Traffic) (t : SegSeqNumType) : List (List UInt8) :=
  (s.jobs t).map fun j => message j.call.data

/-- Messages only, fewer than `2 ^ 32` segments of a type, and no QueueStatus acknowledges a segment
that is in the failed list or in the hand of a sender thread. -/
def Kept (s : Network) : Label → Prop
  | .linux l => Traffic.Unlent s.linux l ∧ ∀ r ∈ reservation? l, IsMessage r.1 ∧
      ∀ t, (s.linux.reserve r.1 r.2.1 r.2.2.1 r.2.2.2).numSegments t < 2 ^ 32
  | _ => True

instance (s : Network) : ∀ l, Decidable (Kept s l)
  | .linux l =>
    have : Decidable (Traffic.Unlent s.linux l) := decidableUnlent s.linux l
    inferInstanceAs (Decidable (Traffic.Unlent s.linux l ∧ ∀ r ∈ reservation? l, IsMessage r.1 ∧
      ∀ t, (s.linux.reserve r.1 r.2.1 r.2.2.1 r.2.2.2).numSegments t < 2 ^ 32))
  | .arrive _ | .take _ => .isTrue trivial

/-- The core makes such packets. -/
theorem isMessage_corePacket {sPacketId : UInt16} {dat : List UInt8}
    {hfits : dat.length + kProtHeaderSize < 2 ^ 32} (hne : dat ≠ [])
    (hlt : dat.length < 2 ^ 31 - 517) :
    IsMessage (corePacket sPacketId dat hfits) ∧ message (corePacket sPacketId dat hfits) = dat := by
  have hmessage : message (corePacket sPacketId dat hfits) = dat :=
    List.drop_left' (by simp [kProtHeaderSize])
  have hheader : Linux.parseHeader (corePacket sPacketId dat hfits).bytes =
      dataToProtocolData sPacketId dat := by
    have h := parseHeader_serialize (dataToProtocolData sPacketId dat) dat []
    rwa [List.append_nil] at h
  refine ⟨⟨?_, by rwa [hmessage], by rwa [hmessage]⟩, hmessage⟩
  rw [hheader, hmessage]
  rfl

/-! ## What the frames bring -/

/-- A segment that a sender thread may hand to a socket. -/
structure Sendable (x : Linux.Segment) : Prop where
  header : HasHeader x x.data
  isAck : x.isAck = false
  len : x.len.toNat ≤ kSegSize

theorem sendable_writeSegment (call : Linux.SendCall) (seg : Linux.Segment) :
    Sendable (call.writeSegment seg) where
  header :=
    have h := SendCall.readHeader_writeSegment call seg
    ⟨h.1, h.2.1, h.2.2⟩
  isAck := isAck_writeSegment call seg
  len := by
    show call.segLen.toNat ≤ kSegSize
    rw [SendCall.segLen_toNat]
    exact Nat.min_le_left _ _

/-- The frame is one of a segment that was written for this type. -/
def Brings (s : Traffic) (t : SegSeqNumType) (f : Android.Segment) : Prop :=
  ∃ x ∈ s.writtenOf t, Sendable x ∧ IsFrame x f

section Brings

variable {s : Traffic} {t : SegSeqNumType} {f : Android.Segment}

theorem Sendable.numType {x : Linux.Segment} (h : Sendable x) (hf : IsFrame x f) :
    f.numType = x.numType ∧ f.isAck = false := by
  obtain ⟨sec, usec, rfl⟩ := hf
  have hflag := (h.header.stampMedia sec usec).flag
  refine ⟨?_, ?_⟩
  · exact congrArg (fun flag => seqNumType (flag &&& kSegFlagControl != 0)) hflag
  · rw [← h.isAck]
    exact congrArg (fun flag => flag &&& kSegFlagAck != 0) hflag

/-- A frame has the piece of its segment, and its length field is that of the payload. -/
theorem Sendable.piece {x : Linux.Segment} (h : Sendable x) (hf : IsFrame x f) :
    (readHeader f).piece = x.piece ∧ (readHeader f).len.toNat = x.payload.length := by
  obtain ⟨sec, usec, rfl⟩ := hf
  obtain ⟨hseq, hlen, hflag⟩ := h.header.stampMedia sec usec
  have hdata : (readHeader (x.stampMedia sec usec).data).data.1.drop kSegHeaderSize =
      x.data.1.drop kSegHeaderSize := drop_stampMedia x sec usec
  have hpayload : (readHeader (x.stampMedia sec usec).data).payload = x.payload := by
    rw [Segment.payload, hdata, hlen, Segment.payload]
  refine ⟨?_, ?_⟩
  · rw [Segment.piece, Segment.piece, hseq, hpayload, Segment.isMF, Linux.Segment.isControl, hflag]
    rfl
  · have hx := x.data.2
    have hle := h.len
    rw [hlen, Segment.payload, List.length_take, List.length_drop, hx]
    simp only [segmentDataSize] at *
    omega

/-- The piece of a frame is at the place of its number in the stream. -/
theorem Brings.stream (h : Brings s t f) (hi : Traffic.InStream s t) :
    (s.stream t)[f.getSeqNo.toUInt32.toNat]? = some (readHeader f).piece := by
  obtain ⟨x, hx, hsend, hf⟩ := h
  have hpiece := (hsend.piece hf).1
  have hseq : f.getSeqNo.toUInt32 = x.seqNo := by
    show (headerField f 0).toInt32.toUInt32 = x.seqNo
    rw [UInt32.toUInt32_toInt32]
    exact congrArg Piece.seqNo hpiece
  rw [hseq, hpiece]
  exact hi.pieces x hx

/-- The length field of a frame is the length of its payload. -/
theorem Brings.len (h : Brings s t f) :
    (readHeader f).len.toNat = (readHeader f).payload.length := by
  obtain ⟨x, -, hsend, hf⟩ := h
  obtain ⟨hpiece, hlen⟩ := hsend.piece hf
  exact hlen.trans (congrArg (fun p => p.payload.length) hpiece).symm

end Brings

/-- Frames that are numbered from 0 on bring the beginning of the stream. -/
theorem stream_prefix {s : Traffic} {t : SegSeqNumType} {out : List Android.Segment}
    (hi : Traffic.InStream s t) (hn : s.numSegments t < 2 ^ 32)
    (hout : out.map Android.Segment.getSeqNo = (List.range out.length).map Int32.ofNat)
    (hb : ∀ f ∈ out, Brings s t f) : out.map (fun f => (readHeader f).piece) <+: s.stream t := by
  have hlen : (s.stream t).length = s.numSegments t :=
    Reservations.length_flatMap fun j _ => j.length_pieces
  exact Queue.prefix_of_numbered hout (by rwa [hlen]) fun f hf => (hb f hf).stream hi

/-! ## The calls of `recv_from_segment_manager` -/

theorem nextSegment_append {segment : Android.Segment} {dequeued rest : List (Option Android.Segment)}
    (more : List (Option Android.Segment)) (h : nextSegment dequeued = .ok (segment, rest)) :
    nextSegment (dequeued ++ more) = .ok (segment, rest ++ more) := by
  induction dequeued with
  | nil => cases h
  | cons result dequeued ih =>
    cases result with
    | none => exact ih h
    | some segment' => cases h; rfl

theorem recvRest_append (more : List (Option Android.Segment)) {serialized' : List UInt8}
    {rest : List (Option Android.Segment)} (dequeued : List (Option Android.Segment)) :
    ∀ (mf : Bool) (serialized : List UInt8) (offset : ℕ),
      Android.recvRest mf serialized offset dequeued = .ok (serialized', rest) →
      Android.recvRest mf serialized offset (dequeued ++ more) = .ok (serialized', rest ++ more) := by
  induction dequeued with
  | nil =>
    intro mf serialized offset h
    cases mf with
    | false => cases h; cases more <;> rfl
    | true => cases h
  | cons result dequeued ih =>
    intro mf serialized offset h
    cases mf with
    | false => cases h; rfl
    | true =>
      cases result with
      | none => exact ih true serialized offset h
      | some segment =>
        simp only [Android.recvRest] at h
        split at h
        · cases h
        · next copied hcopy =>
          simp only [List.cons_append, Android.recvRest, hcopy]
          exact ih _ _ _ h

/-- A call that returns does not look at what is behind its message. -/
theorem recvFromSegmentManager_append {pd : Android.ProtocolData} {data : Option (List UInt8)}
    {dequeued rest : List (Option Android.Segment)} (more : List (Option Android.Segment))
    (h : Android.recvFromSegmentManager dequeued = .ok (pd, data, rest)) :
    Android.recvFromSegmentManager (dequeued ++ more) = .ok (pd, data, rest ++ more) := by
  unfold Android.recvFromSegmentManager at h ⊢
  split at h
  · cases h
  next segment dequeued' hnext =>
  rw [nextSegment_append more hnext]
  dsimp only at h ⊢
  split at h
  · next h0 => cases h; rw [if_pos h0]
  next h0 =>
  split at h
  · cases h
  next hneg =>
  rw [if_neg h0, if_neg hneg]
  split at h
  · cases h
  next copied hcopy =>
  split at h
  · cases h
  next hrest =>
  cases h
  simp only [recvRest_append more _ _ _ _ hrest]

section Messages

variable {out : List Android.Segment} {j : Job}

/-- The frames that bring the pieces of a call. -/
theorem framed_job (hlen : ∀ f ∈ out, (readHeader f).len.toNat = (readHeader f).payload.length)
    (hout : out.map (fun f => (readHeader f).piece) = j.pieces) :
    List.Forall₂ (Framed j.call.data j.call.isControl j.base)
      (List.range j.call.data.numOfSegments) out := by
  have hsize : out.length = j.size := by
    rw [← j.length_pieces, ← hout, List.length_map]
  refine List.forall₂_iff_get.mpr ⟨by rw [hsize, List.length_range]; rfl, fun i h1 h2 => ?_⟩
  have hi : i < j.size := by rwa [← hsize]
  have hp : (readHeader out[i]).piece = ⟨j.base + UInt32.ofNat i, decide (i + 1 < j.size),
      j.call.isControl, piece kSegSize j.call.data.bytes i⟩ := by
    have := congrArg (fun l => l[i]?) hout
    rw [j.pieces_getElem? hi] at this
    simpa [h2] using this
  simp only [List.get_eq_getElem, List.getElem_range]
  refine ⟨congrArg (fun p => p.seqNo.toInt32) hp, congrArg Piece.control hp, ?_, congrArg Piece.mf hp,
    congrArg Piece.payload hp⟩
  exact (hlen _ (List.getElem_mem h2)).trans (congrArg (fun p => p.payload.length) hp)

/-- One call: the frames of the next message are all there, and it returns the message. -/
theorem recv_message (hj : IsMessage j.call.data) {next : List Android.Segment}
    (hlen : ∀ f ∈ out, (readHeader f).len.toNat = (readHeader f).payload.length)
    (hout : out.map (fun f => (readHeader f).piece) = j.pieces)
    {dequeued : List (Option Android.Segment)} (hdequeued : dequeued.reduceOption = out ++ next) :
    ∃ pd rest, Android.recvFromSegmentManager dequeued = .ok (pd, some (message j.call.data), rest) ∧
      rest.reduceOption = next := by
  obtain ⟨hdata, hne, hlt⟩ := hj
  have hpd : (UInt32.ofNat (message j.call.data).length).toNat = (message j.call.data).length := by
    rw [UInt32.toNat_ofNat', Nat.mod_eq_of_lt (by omega)]
  obtain ⟨rest, hrecv, hrest⟩ := recvFromSegmentManager_spec hdata hpd hne (by omega)
    (framed_job hlen hout) hdequeued
  exact ⟨_, rest, hrecv, hrest⟩

theorem reduceOption_map_some {α : Type} (l : List α) : (l.map some).reduceOption = l := by
  simp [List.reduceOption]

/-- Frames for all pieces of a call. -/
theorem exists_frames (j : Job) : ∃ frames : List Android.Segment,
    frames.map (fun f => (readHeader f).piece) = j.pieces ∧
      ∀ f ∈ frames, (readHeader f).len.toNat = (readHeader f).payload.length := by
  have hspec := sendToSegmentManager_spec j.call.data j.call.isControl 0 0 j.base fun _ => .zero
  have hsend : ∀ x ∈ sendToSegmentManager j.call.data j.call.isControl 0 0 j.base fun _ => .zero,
      (readHeader x.data).piece = x.piece := by
    intro x hx
    obtain ⟨hseq, hlen, hflag⟩ := hasHeader_segments _ _ _ x hx
    rw [Segment.piece, Segment.piece, hseq, Segment.isMF, Linux.Segment.isControl, Segment.payload,
      hlen, hflag]
    rfl
  obtain ⟨hl, hget⟩ := List.forall₂_iff_get.mp hspec
  refine ⟨(sendToSegmentManager j.call.data j.call.isControl 0 0 j.base fun _ => .zero).map
    Linux.Segment.data, ?_, ?_⟩
  · refine List.ext_getElem (by simp [Job.pieces, ← hl, Job.size]) fun i h1 h2 => ?_
    have hi : i < j.call.data.numOfSegments := by simpa [Job.pieces, Job.size] using h2
    have hp := hget i (by simpa using hi) (by rw [← hl]; simpa using hi)
    simp only [List.get_eq_getElem, List.getElem_range] at hp
    simp only [List.getElem_map, Job.pieces, List.getElem_range]
    rw [hsend _ (List.getElem_mem _), Segment.piece, hp.seqNo, hp.mf, hp.control, hp.payload]
    rfl
  · intro f hf
    obtain ⟨x, hx, rfl⟩ := List.mem_map.mp hf
    obtain ⟨i, hi, rfl⟩ := List.getElem_of_mem hx
    have hp := hget i (by rw [hl]; exact hi) hi
    simp only [List.get_eq_getElem, List.getElem_range] at hp
    have hpiece := hsend _ (List.getElem_mem hi)
    rw [(hasHeader_segments _ _ _ _ (List.getElem_mem hi)).len, hp.len, ← hp.payload]
    exact (congrArg (fun p => p.payload.length) hpiece).symm

/-- A call that has only some frames of the next message waits. -/
theorem recv_incomplete (hj : IsMessage j.call.data)
    (hlen : ∀ f ∈ out, (readHeader f).len.toNat = (readHeader f).payload.length)
    (hout : out.map (fun f => (readHeader f).piece) <+: j.pieces) (hlt : out.length < j.size)
    {dequeued : List (Option Android.Segment)} (hdequeued : dequeued.reduceOption = out) :
    ∃ e, Android.recvFromSegmentManager dequeued = .error e := by
  obtain ⟨frames, hframes, hls⟩ := exists_frames j
  -- the call with the missing frames, which would all be left over
  have hwhole : (dequeued ++ (frames.drop out.length).map some).reduceOption =
      (out ++ frames.drop out.length) ++ [] := by
    rw [List.reduceOption_append, hdequeued, reduceOption_map_some, List.append_nil]
  have hmap : (out ++ frames.drop out.length).map (fun f => (readHeader f).piece) = j.pieces := by
    have htake := List.prefix_iff_eq_take.mp hout
    rw [List.length_map] at htake
    rw [List.map_append, List.map_drop, hframes, htake, List.take_append_drop]
  obtain ⟨pd, rest, hrecv, hrest⟩ := recv_message hj
    (fun f hf => (List.mem_append.mp hf).elim (hlen f) fun hf => hls f (List.mem_of_mem_drop hf))
    hmap hwhole
  cases hcut : Android.recvFromSegmentManager dequeued with
  | error e => exact ⟨e, rfl⟩
  | ok result =>
    obtain ⟨pd', data, rest'⟩ := result
    have happ := recvFromSegmentManager_append ((frames.drop out.length).map some) hcut
    rw [hrecv] at happ
    obtain ⟨-, -, rfl⟩ : pd = pd' ∧ some (message j.call.data) = data ∧
        rest = rest' ++ (frames.drop out.length).map some := by
      simpa using happ
    rw [List.reduceOption_append, reduceOption_map_some] at hrest
    have hnil := congrArg List.length (List.append_eq_nil_iff.mp hrest).2
    have hsize : frames.length = j.size := by
      rw [← j.length_pieces, ← hframes, List.length_map]
    rw [List.length_drop, List.length_nil] at hnil
    omega

end Messages

/-- The calls return the messages whose frames are all there: induction on the messages. -/
theorem receiveAll_prefix (k : ℕ) : ∀ (js : List Job) (out : List Android.Segment)
    (dequeued : List (Option Android.Segment)), (∀ j ∈ js, IsMessage j.call.data) →
    (∀ f ∈ out, (readHeader f).len.toNat = (readHeader f).payload.length) →
    out.map (fun f => (readHeader f).piece) <+: js.flatMap Job.pieces →
    dequeued.reduceOption = out →
    receiveAll k dequeued <+: js.map (fun j => message j.call.data) ∧
      (out.map (fun f => (readHeader f).piece) = js.flatMap Job.pieces → js.length ≤ k →
        receiveAll k dequeued = js.map fun j => message j.call.data) := by
  induction k with
  | zero =>
    intro js out dequeued _ _ _ _
    refine ⟨List.nil_prefix, fun _ hk => ?_⟩
    rw [List.length_eq_zero_iff.mp (Nat.le_zero.mp hk)]
    rfl
  | succ k ih =>
    intro js out dequeued hjs hlen hout hdequeued
    cases js with
    | nil =>
      have hnil : out = [] := by simpa using hout
      have hwait : nextSegment dequeued = .error .waiting := by
        rw [hnil] at hdequeued
        clear hout hlen hnil
        induction dequeued with
        | nil => rfl
        | cons result dequeued ih' =>
          cases result with
          | none => exact ih' hdequeued
          | some segment => cases hdequeued
      have hrecv : receiveAll (k + 1) dequeued = [] := by
        simp only [receiveAll, Android.recvFromSegmentManager, hwait]
      exact ⟨by rw [hrecv]; exact List.nil_prefix, fun _ _ => hrecv⟩
    | cons j js =>
      rw [List.flatMap_cons] at hout ⊢
      by_cases hlt : out.length < j.size
      · -- some frame of the message is missing
        have hpre : out.map (fun f => (readHeader f).piece) <+: j.pieces :=
          List.prefix_of_prefix_length_le hout (List.prefix_append _ _)
            (by rw [List.length_map, j.length_pieces]; omega)
        obtain ⟨e, he⟩ := recv_incomplete (hjs j (by simp)) hlen hpre hlt hdequeued
        have hrecv : receiveAll (k + 1) dequeued = [] := by simp only [receiveAll, he]
        refine ⟨by rw [hrecv]; exact List.nil_prefix, fun hall => ?_⟩
        have := congrArg List.length hall
        simp only [List.length_map, List.length_append, j.length_pieces] at this
        omega
      · have hsplit : out = out.take j.size ++ out.drop j.size := (List.take_append_drop _ _).symm
        have hsize : (out.take j.size).length = j.size := List.length_take_of_le (by omega)
        obtain ⟨tail, htail⟩ := hout
        have hcut := htail
        rw [hsplit, List.map_append, List.append_assoc] at hcut
        obtain ⟨hfirst, hrest⟩ := List.append_inj hcut (by rw [List.length_map, hsize, j.length_pieces])
        have hpre : (out.drop j.size).map (fun f => (readHeader f).piece) <+: js.flatMap Job.pieces :=
          ⟨tail, hrest⟩
        obtain ⟨pd, rest, hrecv, hnext⟩ := recv_message (hjs j (by simp))
          (fun f hf => hlen f (List.mem_of_mem_take hf)) hfirst (hdequeued.trans hsplit)
        obtain ⟨hfront, hall⟩ := ih js (out.drop j.size) rest (fun j' hj' => hjs j' (by simp [hj']))
          (fun f hf => hlen f (List.mem_of_mem_drop hf)) hpre hnext
        have hstep : receiveAll (k + 1) dequeued = message j.call.data :: receiveAll k rest := by
          simp only [receiveAll, hrecv, Option.getD_some]
        rw [hstep, List.map_cons]
        refine ⟨List.cons_prefix_cons.mpr ⟨rfl, hfront⟩, fun heq hk => ?_⟩
        have hnil : tail = [] := by
          rw [heq] at htail
          simpa using htail
        rw [hall (by rw [hnil, List.append_nil] at hrest; exact hrest) (by simpa using hk)]

/-! ## Steps -/

structure Inv (s : Network) : Prop where
  flowing : s.linux.Flowing
  small : ∀ t, s.linux.numSegments t < 2 ^ 32
  sendable : ∀ x ∈ s.linux.written, Sendable x
  packets : ∀ c ∈ s.linux.calls, IsMessage c.call.data
  counts : ∀ t, Queue.Counts Android.Segment.getSeqNo (Brings s.linux t) (s.taken t)
    (s.android.queues t)

theorem inv_init : Inv init where
  flowing := Traffic.flowing_init
  small := by intro t; cases t <;> decide
  sendable := nofun
  packets := nofun
  counts := fun _ => Queue.counts_empty

theorem brings_mono {s s' : Traffic} {l : Traffic.Label} (hs : Traffic.step s l = .ok s')
    {t : SegSeqNumType} {f : Android.Segment} (h : Brings s t f) : Brings s' t f := by
  obtain ⟨x, hx, hsend, hf⟩ := h
  obtain ⟨hmem, ht⟩ := List.mem_filter.mp hx
  refine ⟨x, List.mem_filter.mpr ⟨?_, ht⟩, hsend, hf⟩
  rcases Traffic.step_written hs with he | ⟨call, seg, he, -⟩
  · rwa [he]
  · rw [he]
    exact List.mem_append_left _ hmem

/-- Calls keep their packets; only a reservation adds one. -/
theorem step_packets {s s' : Traffic} {l : Traffic.Label} (hs : Traffic.step s l = .ok s')
    {c : Call} (hc : c ∈ s'.calls) : (∃ c' ∈ s.calls, c'.call.data = c.call.data) ∨
      ∃ r ∈ reservation? l, r.1 = c.call.data := by
  have hsame : s'.calls = s.calls → ∃ c' ∈ s.calls, c'.call.data = c.call.data :=
    fun he => ⟨c, he ▸ hc, rfl⟩
  cases l with
  | reserve data isControl sec usec =>
    cases hs
    rcases List.mem_append.mp hc with hc | hc
    · exact .inl ⟨c, hc, rfl⟩
    · rw [List.mem_singleton.mp hc]
      exact .inr ⟨_, rfl, rfl⟩
  | pop i fresh =>
    obtain ⟨call, base, seg, sm, hcall, -, -, rfl⟩ := Traffic.pop_ok hs
    rcases List.mem_or_eq_of_mem_set hc with hc | rfl
    · exact .inl ⟨c, hc, rfl⟩
    · exact .inl ⟨_, List.mem_of_getElem? hcall, rfl⟩
  | push i =>
    obtain ⟨call, base, seg, sm, hcall, -, rfl⟩ := Traffic.push_ok hs
    rcases List.mem_or_eq_of_mem_set hc with hc | rfl
    · exact .inl ⟨c, hc, rfl⟩
    · exact .inl ⟨_, List.mem_of_getElem? hcall, rfl⟩
  | takeFailed adapter => obtain ⟨seg, rest, -, rfl⟩ := Traffic.takeFailed_ok hs; exact .inl (hsame rfl)
  | takeQueued adapter => obtain ⟨seg, sm, -, rfl⟩ := Traffic.takeQueued_ok hs; exact .inl (hsame rfl)
  | transmit k sec usec result =>
    obtain ⟨adapter, seg, isControl, -, rfl⟩ := Traffic.transmit_ok hs
    exact .inl (hsame rfl)
  | refuse k => obtain ⟨pass, -, -, rfl⟩ := Traffic.refuse_ok hs; exact .inl (hsame rfl)
  | file k => obtain ⟨pass, -, ⟨-, rfl⟩ | ⟨-, rfl⟩⟩ := Traffic.file_ok hs <;> exact .inl (hsame rfl)
  | queueStatus control data =>
    obtain ⟨sm, -, rfl⟩ := Traffic.queueStatus_ok hs
    exact .inl (hsame rfl)
  | retransmit segType seqNoStart seqNoEnd => cases hs; exact .inl (hsame rfl)
  | recvPop fresh => obtain ⟨seg, sm, -, rfl⟩ := Traffic.recvPop_ok hs; exact .inl (hsame rfl)
  | recvDrop k => cases hs; exact .inl (hsame rfl)
  | recvPush k frame => obtain ⟨seg, sm, -, -, -, rfl⟩ := Traffic.recvPush_ok hs; exact .inl (hsame rfl)
  | consume isControl => obtain ⟨seg, sm, -, rfl⟩ := Traffic.consume_ok hs; exact .inl (hsame rfl)
  | consumerDrop k => cases hs; exact .inl (hsame rfl)
  | release k => obtain ⟨seg, sm, -, -, rfl⟩ := Traffic.release_ok hs; exact .inl (hsame rfl)

variable {s s' : Network}

theorem inv_linux {l : Traffic.Label} (h : Inv s) (hk : Kept s (.linux l))
    (hs : step s (.linux l) = .ok s') : Inv s' := by
  simp only [step] at hs
  split at hs
  · cases hs
  next linux hstep =>
  cases hs
  obtain ⟨hunlent, hres⟩ := hk
  refine ⟨Traffic.step_flowing _ _ _ h.flowing hunlent hstep, fun t => ?_, fun x hx => ?_,
    fun c hc => ?_, fun t => (h.counts t).mono fun f hf => brings_mono hstep hf⟩
  · rcases Traffic.numSegments_step hstep t with ⟨data, isControl, sec, usec, rfl⟩ | he
    · cases hstep
      exact (hres _ rfl).2 t
    · rw [he]
      exact h.small t
  · rcases Traffic.step_written hstep with he | ⟨call, seg, he, -⟩
    · exact h.sendable x (he ▸ hx)
    · rw [he] at hx
      rcases List.mem_append.mp hx with hx | hx
      · exact h.sendable x hx
      · rw [List.mem_singleton.mp hx]
        exact sendable_writeSegment call seg
  · rcases step_packets hstep hc with ⟨c', hc', he⟩ | ⟨r, hr, he⟩
    · exact he ▸ h.packets c' hc'
    · exact he ▸ (hres r hr).1

theorem inv_arrive {i : ℕ} (h : Inv s) (hs : step s (.arrive i) = .ok s') : Inv s' := by
  simp only [step] at hs
  split at hs
  · cases hs
  next tr htr =>
  cases hs
  obtain ⟨x, hx, ht, hseq, sec, usec, hframe⟩ := h.flowing.intact.frames tr (List.mem_of_getElem? htr)
  have hsend := h.sendable x hx
  have hf : IsFrame x tr.frame := ⟨sec, usec, hframe⟩
  obtain ⟨htype, hack⟩ := hsend.numType hf
  refine { h with counts := fun t => ?_ }
  have hqueues : (s.android.receive tr.frame).queues = Function.update s.android.queues x.numType
      ((s.android.queues x.numType).enqueue Android.Segment.getSeqNo tr.frame).2 := by
    simp only [Receiver.receive, hack, htype]
    rfl
  show Queue.Counts Android.Segment.getSeqNo (Brings s.linux t) (s.taken t)
    ((s.android.receive tr.frame).queues t)
  rw [hqueues]
  by_cases htt : t = x.numType
  · subst htt
    rw [Function.update_self]
    exact (h.counts _).enqueue ⟨x, List.mem_filter.mpr ⟨hx, by simp⟩, hsend, hf⟩
  · rw [Function.update_of_ne htt]
    exact h.counts t

theorem step_inv (s : Network) (l : Label) (s' : Network) (h : Inv s) (hk : Kept s l)
    (hs : step s l = .ok s') : Inv s' := by
  cases l with
  | linux l => exact inv_linux h hk hs
  | arrive i => exact inv_arrive h hs
  | take t =>
    cases hs
    refine { h with counts := fun t' => ?_ }
    by_cases ht : t' = t
    · subst ht
      simpa [Receiver.take] using (h.counts t').dequeue
    · simpa [Receiver.take, Function.update_of_ne ht] using h.counts t'

/-! ## Runs -/

/-- What Android has delivered: taken by the application, or ready for it. -/
def Network.delivered (s : Network) (t : SegSeqNumType) : List Android.Segment :=
  s.taken t ++ (s.android.queues t).mQueue

theorem Inv.received (h : Inv s) (t : SegSeqNumType) {out : List Android.Segment}
    (hout : out <+: s.delivered t) (k : ℕ) :
    receiveAll k (out.map some) <+: messages s.linux t ∧
      (out.map (fun f => (readHeader f).piece) = s.linux.stream t →
        (messages s.linux t).length ≤ k → receiveAll k (out.map some) = messages s.linux t) := by
  have hbrings : ∀ f ∈ s.delivered t, Brings s.linux t f := fun f hf =>
    (h.counts t).sound f (List.mem_append_left _ hf)
  have hstream := stream_prefix (h.flowing.streams h.small t) (h.small t) (h.counts t).numbered hbrings
  have hpre : out.map (fun f => (readHeader f).piece) <+: s.linux.stream t :=
    (hout.map _).trans hstream
  have hjobs : ∀ j ∈ s.linux.jobs t, IsMessage j.call.data := by
    intro j hj
    obtain ⟨c, hc, rfl⟩ := List.mem_map.mp (List.mem_of_mem_filter hj)
    exact h.packets c hc
  obtain ⟨hfront, hall⟩ := receiveAll_prefix k (s.linux.jobs t) out (out.map some) hjobs
    (fun f hf => (hbrings f (hout.subset hf)).len) hpre (reduceOption_map_some out)
  exact ⟨hfront, fun heq hk => hall heq (by simpa [messages] using hk)⟩

/-- Two messages on two adapters. -/
def sendTwo : List Label :=
  [.linux (.reserve (corePacket 7 [1, 2] (by decide)) false 0 0),
    .linux (.reserve (corePacket 8 [4] (by decide)) false 0 0),
    .linux (.pop 0 7), .linux (.push 0), .linux (.pop 1 9), .linux (.push 1),
    .linux (.takeQueued 0), .linux (.takeQueued 1), .linux (.transmit 0 0 0 .sent),
    .linux (.transmit 1 0 0 .sent)]

section Ranked

variable {q : Queue Android.Segment} {x : Android.Segment}

/-- What waits is sorted, and above the expected number. -/
structure Ranked (q : Queue Android.Segment) : Prop where
  sorted : q.mPendingQueue.Pairwise fun a b => a.getSeqNo ≤ b.getSeqNo
  early : ∀ x ∈ q.mPendingQueue, q.mExpectedSeqNo < x.getSeqNo

theorem Ranked.drainPending (pending : List Android.Segment) : ∀ (b : Bool)
    (q : Queue Android.Segment), pending.Pairwise (fun a b => a.getSeqNo ≤ b.getSeqNo) →
    Ranked (Queue.drainPending Android.Segment.getSeqNo b q pending).2 := by
  induction pending with
  | nil => exact fun _ _ _ => ⟨.nil, nofun⟩
  | cons walker rest ih =>
    intro b q h
    unfold Queue.drainPending
    split
    · exact ih b q h.of_cons
    · split
      · next hlt =>
        refine ⟨h, fun x hx => ?_⟩
        rcases List.mem_cons.mp hx with rfl | hx
        · exact hlt
        · exact Int32.lt_of_lt_of_le hlt (List.rel_of_pairwise_cons h hx)
      · exact ih true _ h.of_cons

theorem Ranked.enqueue (h : Ranked q)
    (hplace : q.mExpectedSeqNo < x.getSeqNo → ∀ w ∈ q.mPendingQueue, w.getSeqNo ≤ x.getSeqNo) :
    Ranked (q.enqueue Android.Segment.getSeqNo x).2 := by
  unfold Queue.enqueue
  split
  · exact Ranked.drainPending _ true _ h.sorted
  · next hne =>
    split
    · exact h
    · next hge =>
      have hgt : q.mExpectedSeqNo < x.getSeqNo :=
        Int32.lt_of_le_of_ne (Int32.not_lt.mp hge) (Ne.symm hne)
      refine Ranked.drainPending _ false _ ?_
      rw [Queue.insertPending_of_le (hplace hgt), List.pairwise_append]
      exact ⟨h.sorted, List.pairwise_singleton _ _, fun w hw s hs =>
        List.mem_singleton.mp hs ▸ hplace hgt w hw⟩

theorem Ranked.dequeue (h : Ranked q) : Ranked q.dequeue.2 := by
  unfold Queue.dequeue
  split
  · exact h
  · exact ⟨h.sorted, h.early⟩

end Ranked

/-- The frame is not early, or not smaller than one that waits in the same queue. -/
def Fits (r : Receiver) (f : Android.Segment) : Prop :=
  (r.queues f.numType).mExpectedSeqNo < f.getSeqNo →
    ∀ w ∈ (r.queues f.numType).mPendingQueue, w.getSeqNo ≤ f.getSeqNo

/-- Like `Kept`, with fewer than `2 ^ 31` segments of a type, and every arrival fits. -/
def InPlace (s : Network) : Label → Prop
  | .linux l => Traffic.Unlent s.linux l ∧ ∀ r ∈ reservation? l, IsMessage r.1 ∧
      ∀ t, (s.linux.reserve r.1 r.2.1 r.2.2.1 r.2.2.2).numSegments t < 2 ^ 31
  | .arrive i => ∀ tr ∈ s.linux.transmitted[i]?, Fits s.android tr.frame
  | .take _ => True

instance (r : Receiver) (f : Android.Segment) : Decidable (Fits r f) :=
  inferInstanceAs (Decidable ((r.queues f.numType).mExpectedSeqNo < f.getSeqNo →
    ∀ w ∈ (r.queues f.numType).mPendingQueue, w.getSeqNo ≤ f.getSeqNo))

instance (s : Network) : ∀ l, Decidable (InPlace s l)
  | .linux l =>
    have : Decidable (Traffic.Unlent s.linux l) := decidableUnlent s.linux l
    inferInstanceAs (Decidable (Traffic.Unlent s.linux l ∧ ∀ r ∈ reservation? l, IsMessage r.1 ∧
      ∀ t, (s.linux.reserve r.1 r.2.1 r.2.2.1 r.2.2.2).numSegments t < 2 ^ 31))
  | .arrive i =>
    inferInstanceAs (Decidable (∀ tr ∈ s.linux.transmitted[i]?, Fits s.android tr.frame))
  | .take _ => .isTrue trivial

theorem InPlace.kept {s : Network} {l : Label} (h : InPlace s l) : Kept s l := by
  cases l with
  | linux l => exact ⟨h.1, fun r hr => ⟨(h.2 r hr).1, fun t => ((h.2 r hr).2 t).trans (by decide)⟩⟩
  | arrive i => trivial
  | take t => trivial

/-- Every segment of this type has arrived at least once. -/
def Complete (s : Network) (t : SegSeqNumType) : Prop :=
  ∀ n < s.linux.numSegments t, ∃ f ∈ s.arrived, f.numType = t ∧ f.getSeqNo.toUInt32.toNat = n

instance (s : Network) (t : SegSeqNumType) : Decidable (Complete s t) :=
  inferInstanceAs (Decidable (∀ n < s.linux.numSegments t, ∃ f ∈ s.arrived,
    f.numType = t ∧ f.getSeqNo.toUInt32.toNat = n))

/-- On top of `Inv`: what has arrived is delivered or waits in order. -/
structure Ordered (s : Network) : Prop where
  inv : Inv s
  small : ∀ t, s.linux.numSegments t < 2 ^ 31
  conserves : ∀ t, (s.android.queues t).Conserves t (fun n => ∃ f ∈ s.taken t, f.Carries t n)
    fun n => ∃ f ∈ s.arrived, f.Carries t n
  ranked : ∀ t, Ranked (s.android.queues t)
  arrived : ∀ f ∈ s.arrived, Brings s.linux f.numType f

theorem ordered_init : Ordered init where
  inv := inv_init
  small := by intro t; cases t <;> decide
  conserves := fun t =>
    have hempty : Queue.empty.Conserves t (fun _ => False) fun _ => False := Queue.conserves_empty
    hempty.mono (fun _ h => h.elim) (by simp [init])
  ranked := fun _ => ⟨.nil, nofun⟩
  arrived := nofun

/-- The number of a frame that brings a segment is below the number of segments. -/
theorem Brings.lt {s : Network} (h : Inv s) {t : SegSeqNumType} {f : Android.Segment}
    (hb : Brings s.linux t f) : f.getSeqNo.toUInt32.toNat < s.linux.numSegments t := by
  have hlen : (s.linux.stream t).length = s.linux.numSegments t :=
    Reservations.length_flatMap fun j _ => j.length_pieces
  have hget := hb.stream (h.flowing.streams h.small t)
  rw [← hlen]
  exact (List.getElem?_eq_some_iff.mp hget).1

theorem toInt_eq_toNat {n : Int32} (h : n.toUInt32.toNat < 2 ^ 31) : n.toInt = n.toUInt32.toNat := by
  have hn := toInt_toInt32 h
  rwa [Int32.toInt32_toUInt32] at hn

theorem ofNat_toUInt32 (n : Int32) : Int32.ofNat n.toUInt32.toNat = n := by
  show (UInt32.ofNat n.toUInt32.toNat).toInt32 = n
  rw [UInt32.ofNat_toNat, Int32.toInt32_toUInt32]

theorem ordered_linux {l : Traffic.Label} (h : Ordered s) (hk : InPlace s (.linux l))
    (hs : step s (.linux l) = .ok s') : Ordered s' := by
  have hinv := step_inv _ _ _ h.inv hk.kept hs
  simp only [step] at hs
  split at hs
  · cases hs
  next linux hstep =>
  cases hs
  refine ⟨hinv, fun t => ?_, h.conserves, h.ranked, fun f hf => brings_mono hstep (h.arrived f hf)⟩
  rcases Traffic.numSegments_step hstep t with ⟨data, isControl, sec, usec, rfl⟩ | he
  · cases hstep
    exact (hk.2 _ rfl).2 t
  · rw [he]
    exact h.small t

/-- What a frame does to the queues: it is enqueued in that of its type. -/
theorem receive_queues {r : Receiver} {f : Android.Segment} (hack : f.isAck = false) :
    (r.receive f).queues = Function.update r.queues f.numType
      ((r.queues f.numType).enqueue Android.Segment.getSeqNo f).2 := by
  simp only [Receiver.receive, hack]
  rfl

theorem ordered_frame {f : Android.Segment} (h : Ordered s) (hack : f.isAck = false)
    (hb : Brings s.linux f.numType f) (hfits : Fits s.android f)
    (hinv : Inv { s with android := s.android.receive f, arrived := s.arrived ++ [f] }) :
    Ordered { s with android := s.android.receive f, arrived := s.arrived ++ [f] } := by
  have hmine : f.Carries f.numType f.getSeqNo := ⟨hack, rfl, rfl⟩
  have harrived : ∀ g ∈ s.arrived ++ [f], Brings s.linux g.numType g := by
    intro g hg
    rcases List.mem_append.mp hg with hg | hg
    · exact h.arrived g hg
    · rwa [List.mem_singleton.mp hg]
  have hmax : ∀ g ∈ s.arrived ++ [f], g.getSeqNo.toInt + 1 < 2 ^ 31 := by
    intro g hg
    have hlt := (harrived g hg).lt h.inv
    have hsmall := h.small g.numType
    rw [toInt_eq_toNat (by omega)]
    omega
  refine ⟨hinv, h.small, fun t => ?_, fun t => ?_, harrived⟩
  · rw [receive_queues hack]
    by_cases ht : t = f.numType
    · subst ht
      rw [Function.update_self]
      refine ((h.conserves f.numType).enqueue hmine fun n hn => ?_).mono (fun _ => id) fun n => ?_
      · rcases hn with ⟨g, hg, hn⟩ | rfl
        · exact hn.2.2 ▸ hmax g (List.mem_append_left _ hg)
        · exact hmax f (by simp)
      · constructor
        · rintro (⟨g, hg, hn⟩ | rfl)
          · exact ⟨g, List.mem_append_left _ hg, hn⟩
          · exact ⟨f, by simp, hmine⟩
        · rintro ⟨g, hg, hn⟩
          rcases List.mem_append.mp hg with hg | hg
          · exact .inl ⟨g, hg, hn⟩
          · obtain rfl := List.mem_singleton.mp hg
            exact .inr hn.2.2.symm
    · rw [Function.update_of_ne ht]
      refine (h.conserves t).mono (fun _ => id) fun n => ⟨fun ⟨g, hg, hn⟩ =>
        ⟨g, List.mem_append_left _ hg, hn⟩, fun ⟨g, hg, hn⟩ => ?_⟩
      rcases List.mem_append.mp hg with hg | hg
      · exact ⟨g, hg, hn⟩
      · obtain rfl := List.mem_singleton.mp hg
        exact absurd hn.2.1.symm ht
  · rw [receive_queues hack]
    by_cases ht : t = f.numType
    · subst ht
      rw [Function.update_self]
      exact (h.ranked _).enqueue hfits
    · rw [Function.update_of_ne ht]
      exact h.ranked t

theorem ordered_take {t : SegSeqNumType} (h : Ordered s) (hs : step s (.take t) = .ok s') :
    Ordered s' := by
  have hinv := step_inv _ (.take t) _ h.inv trivial hs
  cases hs
  refine ⟨hinv, h.small, fun t' => ?_, fun t' => ?_, h.arrived⟩
  · by_cases ht : t' = t
    · subst ht
      simp only [Receiver.take, Function.update_self]
      refine (h.conserves t').dequeue.mono (fun n hn => ?_) fun _ => Iff.rfl
      rcases hn with ⟨f, hf, hn⟩ | ⟨f, hf, hn⟩
      · exact ⟨f, List.mem_append_left _ hf, hn⟩
      · exact ⟨f, List.mem_append_right _ (by simp [hf]), hn⟩
    · simpa [Receiver.take, Function.update_of_ne ht] using h.conserves t'
  · by_cases ht : t' = t
    · subst ht
      simpa [Receiver.take] using (h.ranked t').dequeue
    · simpa [Receiver.take, Function.update_of_ne ht] using h.ranked t'

theorem step_ordered (s : Network) (l : Label) (s' : Network) (h : Ordered s) (hk : InPlace s l)
    (hs : step s l = .ok s') : Ordered s' := by
  cases l with
  | linux l => exact ordered_linux h hk hs
  | take t => exact ordered_take h hs
  | arrive i =>
    have hinv := step_inv _ _ _ h.inv hk.kept hs
    simp only [step] at hs
    split at hs
    · cases hs
    next tr htr =>
    cases hs
    obtain ⟨x, hx, -, -, hframe⟩ := h.inv.flowing.intact.frames tr (List.mem_of_getElem? htr)
    have hsend := h.inv.sendable x hx
    have hfits := hk tr htr
    obtain ⟨f, hf⟩ : ∃ f : Android.Segment, tr.frame = f := ⟨_, rfl⟩
    rw [hf] at hframe hfits hinv ⊢
    obtain ⟨htype, hack⟩ := hsend.numType hframe
    exact ordered_frame h hack ⟨x, List.mem_filter.mpr ⟨hx, by simp [htype]⟩, hsend, hframe⟩ hfits hinv

/-- When everything has arrived, everything is delivered. -/
theorem Ordered.delivered_all (h : Ordered s) {t : SegSeqNumType} (hall : Complete s t) :
    (s.delivered t).map (fun f => (readHeader f).piece) = s.linux.stream t := by
  have hi := h.inv.flowing.streams h.inv.small t
  have hlen : (s.linux.stream t).length = s.linux.numSegments t :=
    Reservations.length_flatMap fun j _ => j.length_pieces
  have hfront := stream_prefix hi (h.inv.small t) (h.inv.counts t).numbered fun f hf =>
    (h.inv.counts t).sound f (List.mem_append_left _ hf)
  refine hfront.eq_of_length_le ?_
  rw [hlen, List.length_map]
  by_contra hlt
  obtain ⟨f, hf, ht, hn⟩ := hall (s.delivered t).length (by unfold Network.delivered; omega)
  obtain ⟨x, -, hsend, hframe⟩ := h.arrived f hf
  have hexp : (s.android.queues t).mExpectedSeqNo = f.getSeqNo := by
    rw [(h.inv.counts t).expected, ← ofNat_toUInt32 f.getSeqNo, hn]
    rfl
  rcases (h.conserves t).waiting f.getSeqNo ⟨f, hf, (hsend.numType hframe).2, ht, rfl⟩ with
    hlow | ⟨w, hw, hwn⟩
  · exact Int32.lt_irrefl (hexp ▸ hlow)
  · have hearly := (h.ranked t).early w hw
    rw [hwn.2.2, ← hexp] at hearly
    exact Int32.lt_irrefl hearly

end Delivery
end VirtualConnection
