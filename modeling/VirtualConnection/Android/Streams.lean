import VirtualConnection.Android.Sending
import VirtualConnection.Linux.Streams

/-!
# Android.Streams

What Android hands to its connections while any number of calls of `send_to_segment_manager` run side
by side, and the sender threads of any number of adapters take segments, fail and try again.

A call is described as on Linux: its pieces are known from its reservation on (`Job.pieces`), and the
stream of one type is the concatenation of the pieces of its calls. `SendRun` is the sender with what
its threads have dequeued and what the connections have taken.

* `dequeued_prefix`: what has been dequeued is a prefix of the stream.
* `Streaming.unique`: the connections have taken no segment twice.
-/

namespace VirtualConnection
namespace Android

open Bytes Linux Reservations

/-! ## The pieces of a call -/

namespace Packet

/-- The same bytes, as a packet of the other side. -/
def toLinux (data : Packet) : Linux.Packet := ⟨data.bytes, data.nonempty, data.fits.trans (by decide)⟩

/-- The sum in `num_of_segments` does not overflow. -/
def Fits (data : Packet) : Prop := data.bytes.length + kSegSize - 1 < 2 ^ 31

instance (data : Packet) : Decidable data.Fits := inferInstanceAs (Decidable (_ < _))

theorem numOfSegments_toInt {data : Packet} (h : data.Fits) :
    data.numOfSegments.toInt = data.toLinux.numOfSegments := by
  have hpos := data.nonempty
  simp only [Fits, kSegSize] at h
  have hsum : (Int32.ofNat data.bytes.length + Int32.ofNat kSegSize - 1).toInt =
      (data.bytes.length + 511 : ℕ) := by
    have hof : Int32.ofNat data.bytes.length + Int32.ofNat kSegSize - 1 =
        Int32.ofNat (data.bytes.length + 511) := by
      rw [Int32.ofNat_add, Int32.sub_eq_add_neg, Int32.add_assoc]
      rfl
    rw [hof, Int32.toInt_ofNat_of_lt (by omega)]
  have hdiv : ((data.bytes.length + 511 : ℕ) : ℤ).tdiv 512 = ((data.bytes.length + 511) / 512 : ℕ) := by
    rw [Int.tdiv_eq_ediv_of_nonneg (by omega)]
    rfl
  have hsize : (Int32.ofNat kSegSize).toInt = 512 := rfl
  rw [numOfSegments, Int32.toInt_div, hsum, hsize, hdiv, Int.bmod_eq_of_le (by omega) (by omega)]
  rfl

theorem numOfSegments_eq {data : Packet} (h : data.Fits) :
    data.numOfSegments = Int32.ofNat data.toLinux.numOfSegments := by
  have hlt : data.toLinux.numOfSegments < 2 ^ 31 := by
    simp only [Fits, kSegSize] at h
    simp only [Linux.Packet.numOfSegments, toLinux, kSegSize]
    omega
  rw [← Int32.toInt_inj, numOfSegments_toInt h, Int32.toInt_ofNat_of_lt hlt]

end Packet

namespace Segment

theorem length_setMetadataNormal (segment : Segment) (seqNo : Int32) (length sec usec : UInt32) :
    headerField (segment.setMetadataNormal seqNo length sec usec) 4 = length := by
  unfold setMetadataNormal
  iterate 5 rw [headerField_setField_of_ne _ (.inl (by decide))]
  exact headerField_setField _

theorem length_setFlag (segment : Segment) (flag : UInt32) :
    headerField (segment.setFlag flag) 4 = headerField segment 4 :=
  headerField_setField_of_ne _ (.inl (by decide))

end Segment

namespace SendCall

variable {call : SendCall} {sec usec : UInt32}

/-- The number of its first segment. -/
def base (call : SendCall) : UInt32 := call.allocatedSeqNo.toUInt32 - UInt32.ofNat call.segIdx

/-- The call, as the other side would make it. -/
def job (call : SendCall) : Job where
  call :=
    { data := call.data.toLinux
      isControl := call.isControl
      sendStartTsSec := 0
      sendStartTsUsec := 0
      allocatedSeqNo := call.allocatedSeqNo.toUInt32
      offset := UInt32.ofNat call.offset
      segIdx := call.segIdx }
  base := call.base

/-- The loop variables agree with the turn number. -/
structure Valid (call : SendCall) : Prop where
  fits : call.data.Fits
  offset : call.offset = min (kSegSize * call.segIdx) call.data.bytes.length
  le : call.segIdx ≤ call.job.size

theorem valid_start {data : Packet} (h : data.Fits) (isControl : Bool) (allocatedSeqNo : Int32) :
    (start data isControl allocatedSeqNo).Valid :=
  ⟨h, by simp [start], Nat.zero_le _⟩

theorem Valid.continues_iff (h : call.Valid) : call.Continues ↔ call.segIdx < call.job.size := by
  rw [Continues, Packet.numOfSegments_toInt h.fits, Int.ofNat_lt]
  rfl

theorem lt_size (call : SendCall) (i : ℕ) :
    i < call.job.size ↔ kSegSize * i < call.data.bytes.length :=
  Linux.Packet.lt_numOfSegments call.data.toLinux i

theorem length_header (call : SendCall) (sec usec : UInt32) :
    headerField (call.header sec usec) 4 = UInt32.ofNat call.payloadLength := by
  have hnormal := Segment.length_setMetadataNormal Segment.initByteArray call.allocatedSeqNo
    (UInt32.ofNat call.payloadLength) sec usec
  unfold header Segment.setControlFlag Segment.setMoreFragmentFlag
  by_cases hmore : call.offset + call.payloadLength < call.data.bytes.length <;>
    cases call.isControl <;> simp [hmore, hnormal, Segment.length_setFlag]

theorem payloadLength_eq (call : SendCall) :
    call.payloadLength = min kSegSize (call.data.bytes.length - call.offset) := by
  unfold payloadLength
  split <;> omega

theorem Valid.next (h : call.Valid) (hlt : call.segIdx < call.job.size) : call.next.Valid where
  fits := h.fits
  offset := by
    have hoff := h.offset
    have hmore := (call.lt_size call.segIdx).mp hlt
    have hlen := call.payloadLength_eq
    simp only [SendCall.next, kSegSize] at *
    omega
  le := hlt

theorem base_next (call : SendCall) : call.next.base = call.base := by
  have hone : UInt32.ofNat 1 = 1 := rfl
  simp only [base, SendCall.next, Int32.toUInt32_add, UInt32.ofNat_add, hone]
  have hint : (1 : Int32).toUInt32 = 1 := rfl
  rw [hint]
  grind

theorem pieces_next (call : SendCall) : call.next.job.pieces = call.job.pieces := by
  simp only [Job.pieces, Job.size, job, base_next]
  rfl

/-- A turn of the loop makes the piece of its number. -/
theorem Valid.isPiece (h : call.Valid) (hlt : call.segIdx < call.job.size) :
    Linux.SendCall.IsPiece call.job.call.data call.isControl call.base call.segIdx
      (readHeader (call.segmentToEnqueue sec usec)) := by
  obtain ⟨hseq, hflag⟩ := call.header_spec sec usec
  obtain ⟨hseq', hflag'⟩ := (call.header sec usec).setPayloadData_spec call.payload call.payload_fits
  have hmore := (call.lt_size call.segIdx).mp hlt
  have hlen := call.payloadLength_eq
  have hoff : call.offset = kSegSize * call.segIdx := by
    rw [h.offset, Nat.min_eq_left hmore.le]
  have hpayload : call.payload = piece kSegSize call.data.bytes call.segIdx := by
    rw [payload, piece, hlen, hoff, ← List.length_drop, ← List.take_eq_take_min]
  have hlength : call.payload.length = call.payloadLength := by
    rw [payload, List.length_take, List.length_drop]
    omega
  have hfield : (readHeader (call.segmentToEnqueue sec usec)).len.toNat = call.payload.length := by
    have hfits := call.payload_fits
    simp only [segmentDataSize, kSegSize, kSegHeaderSize] at hfits
    show (headerField ((call.header sec usec).setPayloadData _ _) 4).toNat = _
    rw [Segment.setPayloadData, headerField_store _ (by decide), length_header, hlength,
      UInt32.toNat_ofNat', Nat.mod_eq_of_lt (by omega)]
  have hflags : (readHeader (call.segmentToEnqueue sec usec)).flag =
      Linux.SendCall.flag (call.offset + call.payloadLength < call.data.bytes.length) call.isControl :=
    hflag'.trans hflag
  refine ⟨?_, hfield.trans (congrArg List.length hpayload), ?_, ?_, ?_⟩
  · have hnum : (readHeader (call.segmentToEnqueue sec usec)).seqNo = call.allocatedSeqNo.toUInt32 := by
      rw [← hseq, ← hseq']
      exact (UInt32.toUInt32_toInt32 _).symm
    rw [hnum, base, UInt32.sub_add_cancel]
  · rw [Linux.Segment.isMF, hflags, Linux.SendCall.flag_mf]
    refine decide_eq_decide.mpr ?_
    have hnext := call.lt_size (call.segIdx + 1)
    rw [hlen, hoff]
    show _ ↔ call.segIdx + 1 < call.job.size
    rw [hnext]
    simp only [kSegSize]
    omega
  · rw [Linux.Segment.isControl, hflags, Linux.SendCall.flag_control]
  · refine Eq.trans ?_ hpayload
    rw [Linux.Segment.payload, hfield]
    refine load_overwrite ?_
    have hfits := call.payload_fits
    rwa [(call.header sec usec).2]

end SendCall
/-! ## The streams -/

namespace Sender

variable {s s' : Sender} {t : SegSeqNumType} {x : Segment}

/-- The calls of one type, in the order of their reservations. -/
def jobs (s : Sender) (t : SegSeqNumType) : List Job :=
  (s.calls.map SendCall.job).filter fun j => j.call.numType = t

/-- The concatenation of the segments of all calls of one type. -/
def stream (s : Sender) (t : SegSeqNumType) : List Piece := (s.jobs t).flatMap Job.pieces

def numSegments (s : Sender) (t : SegSeqNumType) : ℕ := total Job.size (s.jobs t)

theorem length_stream (s : Sender) (t : SegSeqNumType) : (s.stream t).length = s.numSegments t :=
  length_flatMap fun j _ => j.length_pieces

/-- A segment of this type, with the piece at the place of its number. -/
structure Writes (s : Sender) (t : SegSeqNumType) (x : Segment) : Prop where
  isAck : x.isAck = false
  numType : x.numType = t
  piece : (s.stream t)[x.getSeqNo.toUInt32.toNat]? = some (readHeader x).piece
  len : (readHeader x).len.toNat = (readHeader x).payload.length

theorem Writes.lt (h : s.Writes t x) : x.getSeqNo.toUInt32.toNat < s.numSegments t := by
  rw [← s.length_stream t]
  exact (List.getElem?_eq_some_iff.mp h.piece).1

theorem Writes.mono (h : s.Writes t x) (hs : s.stream t <+: s'.stream t) : s'.Writes t x where
  isAck := h.isAck
  numType := h.numType
  piece := by
    obtain ⟨more, hmore⟩ := hs
    have hlt := h.lt
    rw [← s.length_stream t] at hlt
    rw [← hmore, List.getElem?_append_left hlt]
    exact h.piece
  len := h.len

/-- Which numbers are reserved, and how far the calls are. -/
structure Laying (s : Sender) : Prop where
  valid : ∀ call ∈ s.calls, call.Valid
  small : ∀ t, s.numSegments t < 2 ^ 31
  next : ∀ t, s.mNextSendSeqNo t = Int32.ofNat (s.numSegments t)
  laid : ∀ t, Laid Job.start Job.size 0 (s.jobs t)

theorem laying_init : Laying init where
  valid := by simp [init]
  small := by intro t; cases t <;> decide
  next := by intro t; cases t <;> rfl
  laid := by intro t; cases t <;> trivial

/-! ### A reservation -/

theorem jobs_reserve (s : Sender) (data : Packet) (isControl : Bool) (t : SegSeqNumType) :
    (s.reserve data isControl).jobs t = s.jobs t ++ if seqNumType isControl = t then
      [(SendCall.start data isControl (s.mNextSendSeqNo t)).job] else [] := by
  simp only [jobs, reserve, List.map_append, List.filter_append, List.map_cons, List.map_nil]
  congr 1
  by_cases ht : seqNumType isControl = t
  · subst ht
    simp [SendCall.job, SendCall.start, Linux.SendCall.numType]
  · simp [SendCall.job, SendCall.start, Linux.SendCall.numType, ht]

theorem stream_reserve (s : Sender) (data : Packet) (isControl : Bool) (t : SegSeqNumType) :
    s.stream t <+: (s.reserve data isControl).stream t := by
  rw [stream, stream, jobs_reserve, List.flatMap_append]
  exact List.prefix_append _ _

theorem size_start (data : Packet) (isControl : Bool) (n : Int32) :
    (SendCall.start data isControl n).job.size = data.toLinux.numOfSegments := rfl

theorem Laying.reserve (h : s.Laying) {data : Packet} {isControl : Bool} (hdata : data.Fits)
    (hn : ∀ t, (s.reserve data isControl).numSegments t < 2 ^ 31) :
    (s.reserve data isControl).Laying := by
  refine ⟨fun call hc => ?_, hn, fun t => ?_, fun t => ?_⟩
  · rcases List.mem_append.mp hc with hc | hc
    · exact h.valid call hc
    · rw [List.mem_singleton.mp hc]
      exact SendCall.valid_start hdata isControl _
  · rw [numSegments, jobs_reserve]
    by_cases ht : seqNumType isControl = t
    · subst ht
      rw [if_pos rfl, total_append, total_cons, size_start]
      have hnext : (s.reserve data isControl).mNextSendSeqNo (seqNumType isControl) =
          s.mNextSendSeqNo (seqNumType isControl) + data.numOfSegments := Function.update_self _ _ _
      rw [hnext, h.next, Packet.numOfSegments_eq hdata, ← Int32.ofNat_add]
      rfl
    · rw [if_neg ht, List.append_nil]
      exact (Function.update_of_ne (Ne.symm ht) _ _).trans (h.next t)
  · rw [jobs_reserve]
    by_cases ht : seqNumType isControl = t
    · subst ht
      rw [if_pos rfl]
      refine (h.laid _).snoc ?_
      have hsmall := h.small (seqNumType isControl)
      have hstart : (SendCall.start data isControl (s.mNextSendSeqNo (seqNumType isControl))).base =
          UInt32.ofNat (s.numSegments (seqNumType isControl)) := by
        rw [SendCall.base, h.next]
        exact UInt32.sub_zero _
      rw [Nat.zero_add]
      show (SendCall.base _).toNat = s.numSegments _
      rw [hstart, UInt32.toNat_ofNat', Nat.mod_eq_of_lt (by omega)]
    · rw [if_neg ht, List.append_nil]
      exact h.laid t

/-! ### A turn -/

theorem jobs_push {i : ℕ} {call : SendCall} (hc : s.calls[i]? = some call) :
    ∃ pre post, s.jobs call.numType = pre ++ call.job :: post ∧
      ({ s with calls := s.calls.set i call.next } : Sender).jobs call.numType =
        pre ++ call.next.job :: post ∧
      ∀ t, t ≠ call.numType →
        ({ s with calls := s.calls.set i call.next } : Sender).jobs t = s.jobs t := by
  obtain ⟨pre, post, hl, hset, -⟩ := Traffic.exists_split hc
  refine ⟨(pre.map SendCall.job).filter fun j => j.call.numType = call.numType,
    (post.map SendCall.job).filter fun j => j.call.numType = call.numType, ?_, ?_, fun t ht => ?_⟩
  · rw [jobs, hl, List.map_append, List.map_cons, List.filter_append,
      List.filter_cons_of_pos (by simp [SendCall.job, SendCall.numType, Linux.SendCall.numType])]
  · rw [jobs, hset, List.map_append, List.map_cons, List.filter_append,
      List.filter_cons_of_pos (by
        simp [SendCall.job, SendCall.next, SendCall.numType, Linux.SendCall.numType])]
  · have hne : ¬ call.numType = t := fun he => ht he.symm
    rw [jobs, jobs, hset, hl, List.map_append, List.map_cons, List.filter_append, List.map_append,
      List.map_cons, List.filter_append,
      List.filter_cons_of_neg (by exact fun he => hne (of_decide_eq_true he)),
      List.filter_cons_of_neg (by exact fun he => hne (of_decide_eq_true he))]

theorem stream_next {i : ℕ} {call : SendCall} (hc : s.calls[i]? = some call) (t : SegSeqNumType) :
    ({ s with calls := s.calls.set i call.next } : Sender).stream t = s.stream t ∧
      ({ s with calls := s.calls.set i call.next } : Sender).numSegments t = s.numSegments t := by
  obtain ⟨pre, post, hjobs, hjobs', hother⟩ := jobs_push hc
  by_cases ht : t = call.numType
  · subst ht
    constructor
    · rw [stream, stream, hjobs, hjobs']
      simp only [List.flatMap_append, List.flatMap_cons, SendCall.pieces_next]
    · rw [numSegments, numSegments, hjobs, hjobs']
      simp only [total_append, total_cons]
      rfl
  · rw [stream, numSegments, hother t ht]
    exact ⟨rfl, rfl⟩

theorem Laying.advance {i : ℕ} {call : SendCall} (h : s.Laying) (hc : s.calls[i]? = some call)
    (hcont : call.Continues) : ({ s with calls := s.calls.set i call.next } : Sender).Laying := by
  have hvalid := h.valid call (List.mem_of_getElem? hc)
  have hlt := hvalid.continues_iff.mp hcont
  refine ⟨fun c hmem => ?_, fun t => ?_, fun t => ?_, fun t => ?_⟩
  · rcases List.mem_or_eq_of_mem_set hmem with hmem | rfl
    · exact h.valid c hmem
    · exact hvalid.next hlt
  · rw [(stream_next hc t).2]
    exact h.small t
  · rw [(stream_next hc t).2]
    exact h.next t
  · obtain ⟨pre, post, hjobs, hjobs', hother⟩ := jobs_push hc
    have hlaid := h.laid t
    by_cases ht : t = call.numType
    · subst ht
      rw [hjobs] at hlaid
      rw [hjobs']
      exact hlaid.replace (congrArg UInt32.toNat call.base_next) rfl
    · rw [hother t ht]
      exact hlaid

/-- What a turn enqueues is the piece at the place of its number. -/
theorem Laying.writes {i : ℕ} {call : SendCall} {sec usec : UInt32} (h : s.Laying)
    (hc : s.calls[i]? = some call) (hcont : call.Continues) :
    s.Writes call.numType (call.segmentToEnqueue sec usec) := by
  have hvalid := h.valid call (List.mem_of_getElem? hc)
  have hlt := hvalid.continues_iff.mp hcont
  obtain ⟨hack, htype, hseq⟩ := call.segmentToEnqueue_carries sec usec
  have hpiece : Linux.SendCall.IsPiece call.job.call.data call.isControl call.base call.segIdx
      (readHeader (call.segmentToEnqueue sec usec)) := hvalid.isPiece hlt
  obtain ⟨pre, post, hjobs, -, -⟩ := jobs_push hc
  have hlaid := h.laid call.numType
  have hsmall := h.small call.numType
  rw [hjobs] at hlaid
  rw [numSegments, hjobs, total_append, total_cons] at hsmall
  -- the number is the one of the turn
  have hnum : (call.segmentToEnqueue sec usec).getSeqNo.toUInt32.toNat =
      call.job.start + call.segIdx := by
    have hstart := (laid_append.mp hlaid).2.1
    have hread : (call.segmentToEnqueue sec usec).getSeqNo.toUInt32 =
        call.base + UInt32.ofNat call.segIdx := by
      rw [← hpiece.seqNo]
      exact UInt32.toUInt32_toInt32 _
    have hidx : (UInt32.ofNat call.segIdx).toNat = call.segIdx := by
      rw [UInt32.toNat_ofNat', Nat.mod_eq_of_lt (by omega)]
    rw [hread, UInt32.toNat_add, hidx]
    simp only [Job.start, SendCall.job] at *
    omega
  refine ⟨hack, htype, ?_, hpiece.len.trans (congrArg List.length hpiece.payload).symm⟩
  rw [hnum, stream, hjobs, getElem?_flatMap hlaid (fun j _ => j.length_pieces) hlt,
    call.job.pieces_getElem? hlt]
  refine congrArg some ?_
  rw [Linux.Segment.piece, hpiece.seqNo, hpiece.mf, hpiece.control, hpiece.payload]
  rfl

theorem push_ok {i : ℕ} {sec usec : UInt32} (h : s.push i sec usec = .ok s') :
    ∃ call, s.calls[i]? = some call ∧ call.Continues ∧
      s' = ({ s with calls := s.calls.set i call.next } : Sender).enqueue call.numType
        (call.segmentToEnqueue sec usec) := by
  unfold push at h
  split at h
  · cases h
  · next call hc =>
    split at h
    · next hcont =>
      cases h
      exact ⟨call, hc, hcont, rfl⟩
    · cases h

theorem popFailedSegment_ok {a : ℕ} (h : s.popFailedSegment a = .ok s') :
    ∃ segment rest, s.hands a = none ∧ s.mFailedSendingQueue = segment :: rest ∧
      s' = { s with
        mFailedSendingQueue := rest
        hands := Function.update s.hands a (some segment) } := by
  unfold popFailedSegment at h
  split at h
  · next segment rest hhand hfailed =>
    cases h
    exact ⟨segment, rest, hhand, hfailed, rfl⟩
  · cases h

theorem dequeue_ok {a : ℕ} (h : s.dequeue a = .ok s') :
    ∃ t, s.hands a = none ∧ s.targetQueueType = some t ∧
      s' = { s with
        queues := Function.update s.queues t (s.queues t).dequeue.2
        hands := Function.update s.hands a (s.queues t).dequeue.1 } := by
  unfold dequeue at h
  split at h
  · next t hhand htarget =>
    cases h
    exact ⟨t, hhand, htarget, rfl⟩
  · cases h

/-- A turn of the sender thread: its segment has failed, or the connection has it. -/
theorem turn_ok {a : ℕ} {adapter adapter' : ClientAdapter} {impl : Int} {sent : Option Segment}
    (h : s.turn a adapter impl = .ok (s', adapter', sent)) :
    ∃ segment, s.hands a = some segment ∧
      (sent = none ∧ s' = ({ s with hands := Function.update s.hands a none } :
          Sender).addFailedSegmentToList segment ∨
        sent = some segment ∧ s' = { s with hands := Function.update s.hands a none }) := by
  unfold turn at h
  split at h
  · cases h
  · next segment hhand =>
    refine ⟨segment, hhand, ?_⟩
    simp only at h
    split_ifs at h
    · cases h
      exact .inl ⟨rfl, rfl⟩
    · cases h
      exact .inl ⟨rfl, rfl⟩
    · cases h
      exact .inl ⟨rfl, rfl⟩
    · cases h
      exact .inr ⟨rfl, rfl⟩

end Sender
/-! ## Hands and piles -/

section Apart

variable {α ν : Type} {key : α → ν} {pile : Multiset ν} {hands : ℕ → Option α} {a : ℕ} {x : α}

/-- No key is on the pile twice, in a hand and on the pile, or in two hands. -/
structure Apart (key : α → ν) (pile : Multiset ν) (hands : ℕ → Option α) : Prop where
  nodup : pile.Nodup
  held : ∀ a x, hands a = some x → key x ∉ pile
  single : ∀ a b x y, hands a = some x → hands b = some y → key x = key y → a = b

theorem Apart.put (h : Apart key pile hands) (ha : hands a = some x) :
    Apart key (key x ::ₘ pile) (Function.update hands a none) where
  nodup := Multiset.nodup_cons.mpr ⟨h.held a x ha, h.nodup⟩
  held := by
    intro b y hb hmem
    by_cases hab : b = a
    · subst hab
      simp at hb
    · rw [Function.update_of_ne hab] at hb
      rcases Multiset.mem_cons.mp hmem with he | hmem
      · exact hab (h.single b a y x hb ha he)
      · exact h.held b y hb hmem
  single := by
    intro b c y z hb hc he
    by_cases hab : b = a
    · subst hab
      simp at hb
    · by_cases hac : c = a
      · subst hac
        simp at hc
      · rw [Function.update_of_ne hab] at hb
        rw [Function.update_of_ne hac] at hc
        exact h.single b c y z hb hc he

theorem Apart.take (h : Apart key pile hands) (hx : key x ∉ pile)
    (hfree : ∀ b y, hands b = some y → key y ≠ key x) :
    Apart key pile (Function.update hands a (some x)) where
  nodup := h.nodup
  held := by
    intro b y hb
    by_cases hab : b = a
    · subst hab
      rw [Function.update_self] at hb
      rwa [← Option.some.inj hb]
    · rw [Function.update_of_ne hab] at hb
      exact h.held b y hb
  single := by
    intro b c y z hb hc he
    by_cases hab : b = a
    · by_cases hac : c = a
      · rw [hab, hac]
      · subst hab
        rw [Function.update_self] at hb
        rw [Function.update_of_ne hac] at hc
        exact absurd (he.symm.trans (congrArg key (Option.some.inj hb)).symm) (hfree c z hc)
    · rw [Function.update_of_ne hab] at hb
      by_cases hac : c = a
      · subst hac
        rw [Function.update_self] at hc
        exact absurd (he.trans (congrArg key (Option.some.inj hc)).symm) (hfree b y hb)
      · rw [Function.update_of_ne hac] at hc
        exact h.single b c y z hb hc he

/-- From the pile to a hand. -/
theorem Apart.pick (h : Apart key (key x ::ₘ pile) hands) :
    Apart key pile (Function.update hands a (some x)) := by
  obtain ⟨hx, hnodup⟩ := Multiset.nodup_cons.mp h.nodup
  have hrest : Apart key pile hands :=
    ⟨hnodup, fun b y hb hmem => h.held b y hb (Multiset.mem_cons_of_mem hmem), h.single⟩
  refine hrest.take hx fun b y hb he => ?_
  exact h.held b y hb (he ▸ Multiset.mem_cons_self _ _)

theorem Apart.drop (h : Apart key pile hands) (ha : hands a = none) :
    Apart key pile (Function.update hands a none) := by
  rwa [← ha, Function.update_eq_self]

end Apart

/-! ## Runs -/

/-- The sender with what its threads have dequeued, and what the connections have taken. -/
structure SendRun where
  sender : Sender
  dequeued : SegSeqNumType → List Segment
  transmitted : List Segment

namespace SendRun

def init : SendRun := ⟨.init, fun _ => [], []⟩

inductive Label where
  | reserve (data : Packet) (isControl : Bool)
  | push (i : ℕ) (sec usec : UInt32)
  | popFailedSegment (a : ℕ)
  | dequeue (a : ℕ)
  /-- The adapter is in any state. -/
  | turn (a : ℕ) (adapter : ClientAdapter) (impl : Int)
  /-- `sendAckSegment` by a receiver thread. -/
  | ack (received : Segment) (adapter : ClientAdapter) (impl : Int)

def onSender (s : SendRun) : Except Stop Sender → Except Stop SendRun
  | .error e => .error e
  | .ok sender => .ok { s with sender := sender }

/-- What `dequeue` takes from the queue of a type. -/
def taken (s : Sender) (t : SegSeqNumType) : List Segment :=
  if s.targetQueueType = some t then (s.queues t).dequeue.1.toList else []

def step (s : SendRun) : Label → Except Stop SendRun
  | .reserve data isControl => .ok { s with sender := s.sender.reserve data isControl }
  | .push i sec usec => s.onSender (s.sender.push i sec usec)
  | .popFailedSegment a => s.onSender (s.sender.popFailedSegment a)
  | .dequeue a =>
    { s with dequeued := fun t => s.dequeued t ++ taken s.sender t }.onSender (s.sender.dequeue a)
  | .turn a adapter impl =>
    match s.sender.turn a adapter impl with
    | .error e => .error e
    | .ok (sender, _, sent) =>
      .ok { s with sender := sender, transmitted := s.transmitted ++ sent.toList }
  | .ack received adapter impl =>
    if received.getSeqNo % 50 ≠ 0 ∨ (adapter.send impl).1 < 0 then .ok s
    else .ok { s with transmitted := s.transmitted ++ [ackSegment received] }

theorem onSender_ok {s s' : SendRun} {r : Except Stop Sender} (h : s.onSender r = .ok s') :
    ∃ sender, r = .ok sender ∧ s' = { s with sender := sender } := by
  cases r with
  | error e => cases h
  | ok sender =>
    cases h
    exact ⟨sender, rfl, rfl⟩

/-- The packets are no longer than an `int` can count, and the numbers of a stream stay below
`2 ^ 31`. -/
def Kept (s : SendRun) : Label → Prop
  | .reserve data isControl =>
    data.Fits ∧ ∀ t, (s.sender.reserve data isControl).numSegments t < 2 ^ 31
  | _ => True

instance (s : SendRun) : ∀ l, Decidable (Kept s l)
  | .reserve data isControl => inferInstanceAs (Decidable (data.Fits ∧
      ∀ t, (s.sender.reserve data isControl).numSegments t < 2 ^ 31))
  | .push .. | .popFailedSegment _ | .dequeue _ | .turn .. | .ack .. => .isTrue trivial

/-! ## The invariant -/

def number (x : Segment) : SegSeqNumType × Int32 := (x.numType, x.getSeqNo)

/-- What is in no hand: the segments that the connections have taken, and those that have failed. -/
def pile (transmitted failed : List Segment) : Multiset (SegSeqNumType × Int32) :=
  ((transmitted.filter fun x => !x.isAck).map number : Multiset _) + (failed.map number : Multiset _)

section Pile

variable {transmitted failed : List Segment} {x : Segment}

theorem pile_cons : pile transmitted (x :: failed) = number x ::ₘ pile transmitted failed := by
  rw [pile, List.map_cons, ← Multiset.cons_coe, Multiset.add_cons]
  rfl

theorem pile_failed : pile transmitted (failed ++ [x]) = number x ::ₘ pile transmitted failed := by
  have hperm : ((failed ++ [x]).map number).Perm ((x :: failed).map number) :=
    (List.perm_append_singleton x failed).map number
  rw [← pile_cons, pile, Multiset.coe_eq_coe.mpr hperm]
  rfl

theorem pile_transmitted (hack : x.isAck = false) :
    pile (transmitted ++ [x]) failed = number x ::ₘ pile transmitted failed := by
  have hperm : ((transmitted ++ [x]).filter fun x => !x.isAck).Perm
      (x :: transmitted.filter fun x => !x.isAck) := by
    rw [List.filter_append]
    simp [hack]
  rw [pile, Multiset.coe_eq_coe.mpr (hperm.map number), List.map_cons, ← Multiset.cons_coe,
    Multiset.cons_add]
  rfl

theorem pile_ack (hack : x.isAck = true) : pile (transmitted ++ [x]) failed = pile transmitted failed := by
  rw [pile, List.filter_append, List.filter_cons_of_neg (by simp [hack]), List.filter_nil,
    List.append_nil]
  rfl

end Pile

structure Streaming (s : SendRun) : Prop where
  laying : s.sender.Laying
  counts : ∀ t, Queue.Counts Segment.getSeqNo (s.sender.Writes t) (s.dequeued t) (s.sender.queues t)
  failed : ∀ x ∈ s.sender.mFailedSendingQueue, x ∈ s.dequeued x.numType
  hands : ∀ a x, s.sender.hands a = some x → x ∈ s.dequeued x.numType
  transmitted : ∀ x ∈ s.transmitted, x.isAck = false → x ∈ s.dequeued x.numType
  apart : Apart number (pile s.transmitted s.sender.mFailedSendingQueue) s.sender.hands

theorem streaming_init : Streaming init where
  laying := Sender.laying_init
  counts := fun _ => Queue.counts_empty
  failed := by simp [init, Sender.init]
  hands := by simp [init, Sender.init]
  transmitted := by simp [init]
  apart := ⟨by simp [pile, init, Sender.init], by simp [init, Sender.init],
    by simp [init, Sender.init]⟩

variable {s s' : SendRun}

theorem Streaming.counted_prefix (h : s.Streaming) (t : SegSeqNumType) :
    (s.dequeued t ++ (s.sender.queues t).mQueue).map (fun x => (readHeader x).piece) <+:
      s.sender.stream t := by
  have hlt : (s.sender.stream t).length < 2 ^ 32 := by
    rw [s.sender.length_stream]
    exact (h.laying.small t).trans (by decide)
  refine Queue.prefix_of_numbered (h.counts t).numbered hlt ?_
  intro x hx
  exact ((h.counts t).sound x (List.mem_append_left _ hx)).piece

theorem Streaming.length_le (h : s.Streaming) (t : SegSeqNumType) :
    (s.dequeued t ++ (s.sender.queues t).mQueue).length ≤ s.sender.numSegments t := by
  have hle := (h.counted_prefix t).length_le
  rwa [List.length_map, s.sender.length_stream] at hle

theorem Streaming.nodup (h : s.Streaming) (t : SegSeqNumType) :
    ((s.dequeued t ++ (s.sender.queues t).mQueue).map Segment.getSeqNo).Nodup :=
  Queue.numbered_nodup (h.counts t).numbered
    ((h.length_le t).trans ((h.laying.small t).le.trans (by decide)))

/-- **Dequeued in order.** What the sender threads have dequeued are the first segments of the messages
of this type, in the order of their reservations. -/
theorem Streaming.dequeued_prefix (h : s.Streaming) (t : SegSeqNumType) :
    (s.dequeued t).map (fun x => (readHeader x).piece) <+: s.sender.stream t :=
  ((List.prefix_append _ _).map _).trans (h.counted_prefix t)

theorem Streaming.writes (h : s.Streaming) {t : SegSeqNumType} {x : Segment}
    (hx : x ∈ s.dequeued t) : s.sender.Writes t x :=
  (h.counts t).sound x (by simp [hx])

/-! ## Steps -/

theorem streaming_reserve {data : Packet} {isControl : Bool} (h : s.Streaming)
    (hk : s.Kept (.reserve data isControl)) :
    Streaming { s with sender := s.sender.reserve data isControl } where
  laying := h.laying.reserve hk.1 hk.2
  counts := fun t => (h.counts t).mono fun _ hx =>
    Sender.Writes.mono hx (s.sender.stream_reserve data isControl t)
  failed := h.failed
  hands := h.hands
  transmitted := h.transmitted
  apart := h.apart

theorem streaming_push {i : ℕ} {sec usec : UInt32} {sender : Sender} (h : s.Streaming)
    (hs : s.sender.push i sec usec = .ok sender) : Streaming { s with sender := sender } := by
  obtain ⟨call, hc, hcont, hsender⟩ := Sender.push_ok hs
  have hlaying := h.laying.advance hc hcont
  have hmono : ∀ t x, s.sender.Writes t x → sender.Writes t x := by
    intro t x hx
    refine hx.mono ?_
    rw [hsender, ← (Sender.stream_next hc t).1]
    exact List.prefix_refl _
  have hqueues : sender.queues = Function.update s.sender.queues call.numType
      ((s.sender.queues call.numType).enqueue Segment.getSeqNo (call.segmentToEnqueue sec usec)).2 := by
    rw [hsender]
    rfl
  refine ⟨?_, fun t => ?_, ?_, ?_, h.transmitted, ?_⟩
  · rw [hsender]
    exact ⟨hlaying.valid, hlaying.small, hlaying.next, hlaying.laid⟩
  · have hcounts := (h.counts t).mono (hmono t)
    show Queue.Counts Segment.getSeqNo (sender.Writes t) (s.dequeued t) (sender.queues t)
    rw [hqueues]
    by_cases ht : t = call.numType
    · subst ht
      rw [Function.update_self]
      exact hcounts.enqueue (hmono _ _ (h.laying.writes hc hcont))
    · rw [Function.update_of_ne ht]
      exact hcounts
  · rw [hsender]
    exact h.failed
  · rw [hsender]
    exact h.hands
  · rw [hsender]
    exact h.apart

/-- The steps of the sender threads leave the calls alone. -/
theorem Streaming.of_threads {queues : SegSeqNumType → Queue Segment} {failed : List Segment}
    {hands : ℕ → Option Segment} {dequeued : SegSeqNumType → List Segment}
    {transmitted : List Segment} (h : s.Streaming)
    (hcounts : ∀ t, Queue.Counts Segment.getSeqNo (s.sender.Writes t) (dequeued t) (queues t))
    (hfailed : ∀ x ∈ failed, x ∈ dequeued x.numType)
    (hhands : ∀ a x, hands a = some x → x ∈ dequeued x.numType)
    (htransmitted : ∀ x ∈ transmitted, x.isAck = false → x ∈ dequeued x.numType)
    (hapart : Apart number (pile transmitted failed) hands) :
    Streaming ⟨{ s.sender with
      queues := queues
      mFailedSendingQueue := failed
      hands := hands }, dequeued, transmitted⟩ where
  laying := ⟨h.laying.valid, h.laying.small, h.laying.next, h.laying.laid⟩
  counts := fun t => (hcounts t).mono fun _ hx => hx.mono (List.prefix_refl _)
  failed := hfailed
  hands := hhands
  transmitted := htransmitted
  apart := hapart

theorem forall_update {P : Segment → Prop} {hands : ℕ → Option Segment} {a : ℕ}
    {v : Option Segment} (h : ∀ b x, hands b = some x → P x) (hv : ∀ x, v = some x → P x) (b : ℕ)
    (x : Segment) (hb : Function.update hands a v b = some x) : P x := by
  by_cases hab : b = a
  · subst hab
    rw [Function.update_self] at hb
    exact hv x hb
  · rw [Function.update_of_ne hab] at hb
    exact h b x hb

theorem streaming_popFailedSegment {a : ℕ} {sender : Sender} (h : s.Streaming)
    (hs : s.sender.popFailedSegment a = .ok sender) : Streaming { s with sender := sender } := by
  obtain ⟨segment, rest, hhand, hfailed, rfl⟩ := Sender.popFailedSegment_ok hs
  refine h.of_threads h.counts (fun x hx => ?_) (forall_update h.hands fun x hx => ?_) h.transmitted ?_
  · exact h.failed x (by rw [hfailed]; exact List.mem_cons_of_mem _ hx)
  · rw [← Option.some.inj hx]
    exact h.failed segment (by rw [hfailed]; exact List.mem_cons_self)
  · have hapart := h.apart
    rw [hfailed, pile_cons] at hapart
    exact hapart.pick

/-- What is on the pile has been dequeued. -/
theorem Streaming.mem_pile (h : s.Streaming) {n : SegSeqNumType × Int32}
    (hn : n ∈ pile s.transmitted s.sender.mFailedSendingQueue) :
    ∃ x ∈ s.dequeued n.1, number x = n := by
  have hof : ∀ x : Segment, x ∈ s.dequeued x.numType → number x = n →
      ∃ x ∈ s.dequeued n.1, number x = n := by
    rintro x hx rfl
    exact ⟨x, hx, rfl⟩
  rcases Multiset.mem_add.mp hn with hn | hn
  · obtain ⟨x, hx, he⟩ := List.mem_map.mp (Multiset.mem_coe.mp hn)
    obtain ⟨hmem, hack⟩ := List.mem_filter.mp hx
    exact hof x (h.transmitted x hmem (by simpa using hack)) he
  · obtain ⟨x, hx, he⟩ := List.mem_map.mp (Multiset.mem_coe.mp hn)
    exact hof x (h.failed x hx) he

/-- The next segment of a queue has another number than what was dequeued before. -/
theorem Streaming.ne_dequeue (h : s.Streaming) {t : SegSeqNumType} {x y : Segment}
    (hx : (s.sender.queues t).dequeue.1 = some x) (hy : y ∈ s.dequeued y.numType) :
    number y ≠ number x := by
  intro he
  have hqueue : ∃ rest, (s.sender.queues t).mQueue = x :: rest := by
    cases hq : (s.sender.queues t).mQueue with
    | nil => simp [Queue.dequeue, hq] at hx
    | cons z rest =>
      simp only [Queue.dequeue, hq, Option.some.injEq] at hx
      exact ⟨rest, by rw [hx]⟩
  obtain ⟨rest, hq⟩ := hqueue
  have hnodup := h.nodup t
  rw [hq, List.map_append, List.map_cons, List.nodup_append] at hnodup
  have htype : x.numType = t := ((h.counts t).sound x (by simp [hq])).numType
  obtain ⟨hty, hseq⟩ := Prod.mk.inj he
  rw [hty, htype] at hy
  exact hnodup.2.2 _ (List.mem_map_of_mem hy) _ List.mem_cons_self hseq

theorem streaming_dequeue {a : ℕ} {sender : Sender} (h : s.Streaming)
    (hs : s.sender.dequeue a = .ok sender) :
    Streaming { s with
      sender := sender
      dequeued := fun t => s.dequeued t ++ taken s.sender t } := by
  obtain ⟨t, hhand, htarget, rfl⟩ := Sender.dequeue_ok hs
  have htaken : taken s.sender t = (s.sender.queues t).dequeue.1.toList := if_pos htarget
  have hother : ∀ t', t' ≠ t → taken s.sender t' = [] := by
    intro t' ht
    exact if_neg fun he => ht (Option.some.inj (he.symm.trans htarget))
  refine h.of_threads (fun t' => ?_) (fun x hx => List.mem_append_left _ (h.failed x hx))
    (forall_update (fun b x hb => List.mem_append_left _ (h.hands b x hb)) fun x hx => ?_)
    (fun x hx hack => List.mem_append_left _ (h.transmitted x hx hack)) ?_
  · by_cases ht : t' = t
    · subst ht
      rw [Function.update_self, htaken]
      exact (h.counts t').dequeue
    · rw [Function.update_of_ne ht, hother t' ht, List.append_nil]
      exact h.counts t'
  · have hmem : x ∈ s.dequeued t ++ (s.sender.queues t).dequeue.1.toList := by simp [hx]
    have htype := ((h.counts t).dequeue.sound x (List.mem_append_left _
      (List.mem_append_left _ hmem))).numType
    show x ∈ s.dequeued x.numType ++ taken s.sender x.numType
    rw [htype, htaken]
    exact hmem
  · cases hx : (s.sender.queues t).dequeue.1 with
    | none => exact h.apart.drop hhand
    | some x =>
      refine h.apart.take (fun hmem => ?_) fun b y hb => h.ne_dequeue hx (h.hands b y hb)
      obtain ⟨y, hy, he⟩ := h.mem_pile hmem
      have hy' : y ∈ s.dequeued y.numType := by
        rw [show y.numType = (number x).1 from congrArg Prod.fst he]
        exact hy
      exact h.ne_dequeue hx hy' he

theorem streaming_turn {a : ℕ} {adapter adapter' : ClientAdapter} {impl : Int} {sender : Sender}
    {sent : Option Segment} (h : s.Streaming)
    (hs : s.sender.turn a adapter impl = .ok (sender, adapter', sent)) :
    Streaming { s with sender := sender, transmitted := s.transmitted ++ sent.toList } := by
  obtain ⟨segment, hhand, ⟨rfl, rfl⟩ | ⟨rfl, rfl⟩⟩ := Sender.turn_ok hs
  · refine h.of_threads h.counts (fun x hx => ?_) (forall_update h.hands (by simp))
      (by simpa using h.transmitted) ?_
    · rcases List.mem_append.mp hx with hx | hx
      · exact h.failed x hx
      · rw [List.mem_singleton.mp hx]
        exact h.hands a segment hhand
    · simp only [Option.toList_none, List.append_nil]
      rw [pile_failed]
      exact h.apart.put hhand
  · have hmem := h.hands a segment hhand
    refine h.of_threads h.counts h.failed (forall_update h.hands (by simp)) (fun x hx hack => ?_) ?_
    · rcases List.mem_append.mp hx with hx | hx
      · exact h.transmitted x hx hack
      · rw [List.mem_singleton.mp hx]
        exact hmem
    · simp only [Option.toList_some]
      rw [pile_transmitted (h.writes hmem).isAck]
      exact h.apart.put hhand

theorem streaming_ack {segment : Segment} (h : s.Streaming) (hack : segment.isAck = true) :
    Streaming { s with transmitted := s.transmitted ++ [segment] } := by
  refine h.of_threads h.counts h.failed h.hands (fun x hx hxa => ?_) ?_
  · rcases List.mem_append.mp hx with hx | hx
    · exact h.transmitted x hx hxa
    · rw [List.mem_singleton.mp hx, hack] at hxa
      cases hxa
  · rw [pile_ack hack]
    exact h.apart

theorem step_streaming (s : SendRun) (l : Label) (s' : SendRun) (h : s.Streaming) (hk : s.Kept l)
    (hs : s.step l = .ok s') : s'.Streaming := by
  cases l with
  | reserve data isControl =>
    cases hs
    exact streaming_reserve h hk
  | push i sec usec =>
    obtain ⟨sender, hsender, rfl⟩ := onSender_ok hs
    exact streaming_push h hsender
  | popFailedSegment a =>
    obtain ⟨sender, hsender, rfl⟩ := onSender_ok hs
    exact streaming_popFailedSegment h hsender
  | dequeue a =>
    obtain ⟨sender, hsender, rfl⟩ := onSender_ok hs
    exact streaming_dequeue h hsender
  | turn a adapter impl =>
    simp only [step] at hs
    split at hs
    · cases hs
    · next hturn =>
      cases hs
      exact streaming_turn h hturn
  | ack received adapter impl =>
    simp only [step] at hs
    split at hs
    · cases hs
      exact h
    · cases hs
      exact streaming_ack h (isAck_ackSegment received)

theorem reached_streaming {ls : List Label} (hC : Runs.AllSteps step Kept init ls)
    (hr : Runs.Reached step init ls s) : s.Streaming :=
  Runs.throughout_of_allSteps step_streaming streaming_init hC hr

/-- **Taken once.** The connections have taken no segment twice. -/
theorem Streaming.unique (h : s.Streaming) :
    ((s.transmitted.filter fun x => !x.isAck).map number).Nodup :=
  Multiset.coe_nodup.mp (Multiset.nodup_of_le (Multiset.le_add_right _ _) h.apart.nodup)

end SendRun
end Android
end VirtualConnection
