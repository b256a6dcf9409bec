import VirtualConnection.Android.SendingThreads
import VirtualConnection.Android.Streams
import VirtualConnection.Linux.BlockingReceive

/-!
# System.Upstream

Messages from Android to Linux, from end to end: any number of callers of `send` on Android, sender
threads on any number of adapters, and on Linux the receiving threads and one thread for each type that
calls `recv`. The connections are reduced to what they can do to whole frames: a frame that a
connection has taken arrives at any later time, any number of times, or never. A wait for a segment
only ends with a segment there.

* `received_prefix_upstream`: the calls of `recv` do not crash, and what they have returned are the first
  messages that were sent, whole and in the order of their reservations.
* `received_all_upstream`: all of them, once every segment has arrived.
* `fault_iff_upstream`: Linux stops at an assertion exactly where a frame arrives a second time.
-/

namespace VirtualConnection
namespace Upstream

open Bytes Linux Android

/-- `arrived` has which frames came in, and `enqueued` what Linux has put into a queue. -/
structure Network where
  android : SendRun
  queues : SegSeqNumType → SegmentQueue Linux.Segment
  arrived : List ℕ
  enqueued : SegSeqNumType → List Linux.Segment
  /-- What `recv_from_segment_manager` has dequeued. -/
  taken : SegSeqNumType → List Linux.Segment

def init : Network := ⟨.init, fun _ => .empty, [], fun _ => [], fun _ => []⟩

inductive Label where
  | android (l : SendRun.Label)
  /-- Frame number `i` of those that the connections have taken arrives. -/
  | arrive (i : ℕ)
  | take (t : SegSeqNumType)

namespace Network

/-- `receiver_loop` with a whole frame. -/
def receive (s : Network) (frame : Android.Segment) : Except Stop Network :=
  let seg := readHeader frame
  if seg.isAck then .ok s
  else
    match (s.queues seg.numType).enqueue Linux.Segment.seqNo seg with
    | .error f => .error (.fault f)
    | .ok (_, q) => .ok { s with
        queues := Function.update s.queues seg.numType q
        enqueued := Function.update s.enqueued seg.numType (s.enqueued seg.numType ++ [seg]) }

def take (s : Network) (t : SegSeqNumType) : Except Stop Network :=
  if (s.queues t).getQueueLength = 0 then .error .waiting
  else
    match (s.queues t).dequeue with
    | .error f => .error (.fault f)
    | .ok (seg, q) => .ok { s with
        queues := Function.update s.queues t q
        taken := Function.update s.taken t (s.taken t ++ [seg]) }

end Network

def step (s : Network) : Label → Except Stop Network
  | .android l =>
    match s.android.step l with
    | .error e => .error e
    | .ok android => .ok { s with android := android }
  | .arrive i =>
    match s.android.transmitted[i]? with
    | none => .error .waiting
    | some frame => ({ s with arrived := s.arrived ++ [i] } : Network).receive frame
  | .take t => s.take t

/-- What `k` calls of `recv_packet` return, one after the other, until one has to wait. -/
def receiveAll : ℕ → List (Option Linux.Segment) → Except Fault (List (List UInt8))
  | 0, _ => .ok []
  | k + 1, dequeued =>
    match Linux.recvPacket dequeued with
    | .error .waiting => .ok []
    | .error (.fault f) => .error f
    | .ok (_, buf, rest) =>
      match receiveAll k rest with
      | .error f => .error f
      | .ok received => .ok (buf.getD [] :: received)

/-! ## Messages -/

/-- The bytes behind the protocol header. -/
def message (data : Android.Packet) : List UInt8 := data.bytes.drop kProtHeaderSize

/-- A header that tells the length, and a message that Linux can put together. -/
structure IsMessage (data : Android.Packet) : Prop where
  bytes : data.bytes = serialize (Linux.parseHeader data.bytes) (message data)
  len : (Linux.parseHeader data.bytes).len.toNat = (message data).length
  survives : Survives (message data)

instance (dat : List UInt8) : Decidable (Survives dat) :=
  decidable_of_iff (∀ i < dat.length, 66042 ≤ i ∨ 506 ≤ i ∧ i + 65536 < dat.length →
      dat.getD i 0 = 0) <| by
    constructor
    · intro h i hi
      by_cases hlt : i < dat.length
      · exact h i hlt hi
      · rw [List.getD_eq_getElem?_getD, List.getElem?_eq_none (by omega)]
        rfl
    · intro h i _ hi
      exact h i hi

instance (data : Android.Packet) : Decidable (IsMessage data) :=
  decidable_of_iff (data.bytes = serialize (Linux.parseHeader data.bytes) (message data) ∧
      (Linux.parseHeader data.bytes).len.toNat = (message data).length ∧ Survives (message data))
    ⟨fun ⟨hbytes, hlen, hs⟩ => ⟨hbytes, hlen, hs⟩, fun h => ⟨h.bytes, h.len, h.survives⟩⟩

/-- `serialize` makes such packets of what `Core.send` gets. -/
theorem isMessage_serializeVector {id : Int16} {dat : List UInt8} {data : Android.Packet}
    (hlt : dat.length + 6 < 2 ^ 31) (hs : Survives dat)
    (hdata : (serializeVector ⟨id, Int32.ofNat dat.length⟩ dat (Int32.ofNat dat.length)).1 =
      some data.bytes) : IsMessage data ∧ message data = dat := by
  have hlen : (Int32.ofNat dat.length).toInt = dat.length := Int32.toInt_ofNat_of_lt (by omega)
  have hsize : Int32.ofNat kProtocolHeaderSize + Int32.ofNat dat.length = Int32.ofNat (6 + dat.length) :=
    (Int32.ofNat_add _ _).symm
  have hvec : (Int32.ofNat (6 + dat.length)).toInt = (6 + dat.length : ℕ) :=
    Int32.toInt_ofNat_of_lt (by omega)
  have hneg : ¬ Int32.ofNat (6 + dat.length) < 0 := by
    rw [Int32.lt_iff_toInt_lt, hvec]
    exact Int.not_lt.mpr (Int.natCast_nonneg _)
  have hcopy := arraycopy_zeros (packetHeader ⟨id, Int32.ofNat dat.length⟩) dat (Nat.le_refl _)
  rw [length_packetHeader, Nat.sub_self, List.replicate_zero, List.append_nil] at hcopy
  have hcopy' : arraycopy dat 0 (packetHeader ⟨id, Int32.ofNat dat.length⟩ ++
      List.replicate dat.length 0) kProtocolHeaderSize dat.length =
        .ok (packetHeader ⟨id, Int32.ofNat dat.length⟩ ++ dat) := hcopy
  have hbytes : data.bytes = serialize ⟨id.toUInt16, UInt32.ofNat dat.length⟩ dat := by
    rw [serializeVector, hsize] at hdata
    simp only [if_neg hneg, hvec, Int.toNat_natCast, serializeHeader_zeros, hlen, hcopy'] at hdata
    exact (Option.some.inj hdata).symm
  have hmessage : message data = dat := by
    rw [message, hbytes, serialize, List.drop_left' (by simp [kProtHeaderSize])]
  have hheader : Linux.parseHeader data.bytes = ⟨id.toUInt16, UInt32.ofNat dat.length⟩ := by
    have h := parseHeader_serialize ⟨id.toUInt16, UInt32.ofNat dat.length⟩ dat []
    rwa [List.append_nil, ← hbytes] at h
  refine ⟨⟨?_, ?_, by rwa [hmessage]⟩, hmessage⟩
  · rw [hheader, hmessage]
    exact hbytes
  · rw [hheader, hmessage, UInt32.toNat_ofNat', Nat.mod_eq_of_lt (by omega)]

/-- The messages of one type, in the order of their reservations. -/
def messages (s : SendRun) (t : SegSeqNumType) : List (List UInt8) :=
  (s.sender.calls.filter fun call => call.numType = t).map fun call => message call.data

def reservation? : SendRun.Label → Option Android.Packet
  | .reserve data _ => some data
  | _ => none

/-- Messages only, and few enough that the numbers do not overflow. -/
def Kept (s : Network) : Label → Prop
  | .android l => s.android.Kept l ∧ ∀ data ∈ reservation? l, IsMessage data
  | _ => True

instance (s : Network) : ∀ l, Decidable (Kept s l)
  | .android l =>
    inferInstanceAs (Decidable (s.android.Kept l ∧ ∀ data ∈ reservation? l, IsMessage data))
  | .arrive _ | .take _ => .isTrue trivial

/-! ## The calls of `recv_packet` -/

section
variable {reader reader' : Reader} {seg : Linux.Segment} {queue : List (Option Linux.Segment)}

theorem reader_run_error {e : Stop} (h : reader.read seg = .error e) :
    Reader.run reader (some seg :: queue) = .error e := by
  cases reader <;> simp only [Reader.run, h]

theorem reader_run_goesOn (h : reader.read seg = .ok (.inl reader')) :
    Reader.run reader (some seg :: queue) = Reader.run reader' queue := by
  cases reader <;> simp only [Reader.run, h]

theorem reader_run_returns {pd : Linux.ProtocolData} {buf : Option (List UInt8)}
    (h : reader.read seg = .ok (.inr (pd, buf))) :
    Reader.run reader (some seg :: queue) = .ok (pd, buf, queue) := by
  cases reader <;> simp only [Reader.run, h]

end

/-- A call that returns or crashes does not look at what is behind. -/
theorem reader_run_append (more : List (Option Linux.Segment)) (queue : List (Option Linux.Segment)) :
    ∀ reader : Reader, Reader.run reader queue ≠ .error .waiting →
      Reader.run reader (queue ++ more) =
        (Reader.run reader queue).map fun r => (r.1, r.2.1, r.2.2 ++ more) := by
  induction queue with
  | nil =>
    intro reader h
    exact absurd (by cases reader <;> rfl) h
  | cons head queue ih =>
    intro reader h
    cases head with
    | none =>
      cases reader with
      | first => exact ih .first h
      | rest pd serialized offset => rfl
    | some seg =>
      rw [List.cons_append]
      cases hread : reader.read seg with
      | error e =>
        rw [reader_run_error hread, reader_run_error hread]
        rfl
      | ok result =>
        cases result with
        | inl reader' =>
          rw [reader_run_goesOn hread] at h
          rw [reader_run_goesOn hread, reader_run_goesOn hread]
          exact ih reader' h
        | inr returned =>
          obtain ⟨pd, buf⟩ := returned
          rw [reader_run_returns hread, reader_run_returns hread]
          rfl

theorem recvPacket_append (more : List (Option Linux.Segment)) {queue : List (Option Linux.Segment)}
    (h : Linux.recvPacket queue ≠ .error .waiting) :
    Linux.recvPacket (queue ++ more) =
      (Linux.recvPacket queue).map fun r => (r.1, r.2.1, r.2.2 ++ more) := by
  have hrun : Reader.run .first queue ≠ .error .waiting := by
    intro he
    rw [Linux.recvPacket, Reader.recvFromSegmentManager_eq_run, he] at h
    exact h rfl
  rw [Linux.recvPacket, Linux.recvPacket, Reader.recvFromSegmentManager_eq_run,
    Reader.recvFromSegmentManager_eq_run, reader_run_append more queue .first hrun]
  cases Reader.run .first queue with
  | error e => rfl
  | ok r =>
    obtain ⟨pd, buf, rest⟩ := r
    simp only [Except.map]
    split <;> rfl

section Calls

variable {out : List Linux.Segment} {j : Job}

/-- The message of a call, as Linux sees it. -/
structure Conveys (j : Job) (dat : List UInt8) : Prop where
  bytes : j.call.data.bytes = serialize (Linux.parseHeader j.call.data.bytes) dat
  len : (Linux.parseHeader j.call.data.bytes).len.toNat = dat.length
  survives : Survives dat

/-- Segments that bring the pieces of a call. -/
theorem carried_job (hlen : ∀ x ∈ out, x.len.toNat = x.payload.length)
    (hout : out.map Linux.Segment.piece = j.pieces) :
    List.Forall₂ (Carried j.call.data) (List.range j.call.data.numOfSegments) out := by
  have hsize : out.length = j.size := by
    rw [← j.length_pieces, ← hout, List.length_map]
  refine List.forall₂_iff_get.mpr ⟨by rw [hsize, List.length_range]; rfl, fun i h1 h2 => ?_⟩
  have hi : i < j.size := by rwa [← hsize]
  have hp : out[i].piece = ⟨j.base + UInt32.ofNat i, decide (i + 1 < j.size), j.call.isControl,
      piece kSegSize j.call.data.bytes i⟩ := by
    have := congrArg (fun l => l[i]?) hout
    rw [j.pieces_getElem? hi] at this
    simpa [h2] using this
  simp only [List.get_eq_getElem, List.getElem_range]
  exact ⟨(hlen _ (List.getElem_mem h2)).trans (congrArg (fun p => p.payload.length) hp),
    congrArg Piece.mf hp, congrArg Piece.payload hp⟩

/-- One call: the segments of the next message are all there, and it returns the message. -/
theorem recv_message {dat : List UInt8} (hj : Conveys j dat)
    (hlen : ∀ x ∈ out, x.len.toNat = x.payload.length)
    (hout : out.map Linux.Segment.piece = j.pieces) (rest : List (Option Linux.Segment)) :
    ∃ len buf, Linux.recvPacket (out.map some ++ rest) = .ok (len, buf, rest) ∧ buf.getD [] = dat := by
  obtain ⟨buf, hrecv, hfilled⟩ := recvPacket_spec hj.bytes hj.len (carried_job hlen hout) rest
  exact ⟨_, buf, hrecv, hfilled.eq_iff.mpr hj.survives⟩

/-- Segments for all pieces of a call. -/
theorem exists_segments (j : Job) : ∃ segments : List Linux.Segment,
    segments.map Linux.Segment.piece = j.pieces ∧
      ∀ x ∈ segments, x.len.toNat = x.payload.length := by
  obtain ⟨hl, hget⟩ := List.forall₂_iff_get.mp
    (sendToSegmentManager_spec j.call.data j.call.isControl 0 0 j.base fun _ => .zero)
  refine ⟨sendToSegmentManager j.call.data j.call.isControl 0 0 j.base fun _ => .zero, ?_, ?_⟩
  · refine List.ext_getElem (by simp [Job.pieces, ← hl, Job.size]) fun i h1 h2 => ?_
    have hi : i < j.call.data.numOfSegments := by simpa [Job.pieces, Job.size] using h2
    have hp := hget i (by simpa using hi) (by rw [← hl]; simpa using hi)
    simp only [List.get_eq_getElem, List.getElem_range] at hp
    simp only [List.getElem_map, Job.pieces, List.getElem_range]
    rw [Segment.piece, hp.seqNo, hp.mf, hp.control, hp.payload]
    rfl
  · intro x hx
    obtain ⟨i, hi, rfl⟩ := List.getElem_of_mem hx
    have hp := hget i (by rw [hl]; exact hi) hi
    simp only [List.get_eq_getElem, List.getElem_range] at hp
    rw [hp.len, hp.payload]

/-- A call that has only some segments of the next message waits. -/
theorem recv_incomplete {dat : List UInt8} (hj : Conveys j dat)
    (hlen : ∀ x ∈ out, x.len.toNat = x.payload.length)
    (hout : out.map Linux.Segment.piece <+: j.pieces) (hlt : out.length < j.size) :
    Linux.recvPacket (out.map some) = .error .waiting := by
  obtain ⟨segments, hsegments, hls⟩ := exists_segments j
  by_contra hwait
  -- the call with the missing segments, which would all be left over
  have hmap : (out ++ segments.drop out.length).map Linux.Segment.piece = j.pieces := by
    have htake := List.prefix_iff_eq_take.mp hout
    rw [List.length_map] at htake
    rw [List.map_append, List.map_drop, hsegments, htake, List.take_append_drop]
  obtain ⟨len, buf, hrecv, -⟩ := recv_message hj
    (fun x hx => (List.mem_append.mp hx).elim (hlen x) fun hx => hls x (List.mem_of_mem_drop hx))
    hmap []
  have happ := recvPacket_append ((segments.drop out.length).map some) hwait
  rw [List.append_nil, List.map_append, happ] at hrecv
  cases hcut : Linux.recvPacket (out.map some) with
  | error e =>
    rw [hcut] at hrecv
    cases hrecv
  | ok r =>
    rw [hcut] at hrecv
    have hnil := congrArg (fun r => r.2.2) (Except.ok.inj hrecv)
    have hsize : segments.length = j.size := by
      rw [← j.length_pieces, ← hsegments, List.length_map]
    have hdrop := congrArg List.length (List.append_eq_nil_iff.mp hnil).2
    rw [List.length_map, List.length_drop, List.length_nil] at hdrop
    omega

theorem receiveAll_nil (k : ℕ) : receiveAll k [] = .ok [] := by
  cases k <;> rfl

/-- The calls return the messages whose segments are all there: induction on the calls. -/
theorem receiveAll_prefix (k : ℕ) : ∀ (js : List Job) (dats : List (List UInt8))
    (out : List Linux.Segment), List.Forall₂ Conveys js dats →
    (∀ x ∈ out, x.len.toNat = x.payload.length) →
    out.map Linux.Segment.piece <+: js.flatMap Job.pieces →
    ∃ received, receiveAll k (out.map some) = .ok received ∧ received <+: dats ∧
      (out.map Linux.Segment.piece = js.flatMap Job.pieces → js.length ≤ k → received = dats) := by
  induction k with
  | zero =>
    intro js dats out hjs _ _
    refine ⟨[], rfl, List.nil_prefix, fun _ hk => ?_⟩
    rw [List.length_eq_zero_iff.mp (Nat.le_zero.mp hk)] at hjs
    exact (List.forall₂_nil_left_iff.mp hjs).symm
  | succ k ih =>
    intro js dats out hjs hlen hout
    cases hjs with
    | nil =>
      have hnil : out = [] := by simpa using hout
      rw [hnil]
      exact ⟨[], rfl, List.nil_prefix, fun _ _ => rfl⟩
    | @cons j dat js dats hj hrest =>
      rw [List.flatMap_cons] at hout ⊢
      by_cases hlt : out.length < j.size
      · have hpre : out.map Linux.Segment.piece <+: j.pieces :=
          List.prefix_of_prefix_length_le hout (List.prefix_append _ _)
            (by rw [List.length_map, j.length_pieces]; omega)
        refine ⟨[], by rw [receiveAll, recv_incomplete hj hlen hpre hlt], List.nil_prefix,
          fun hall => ?_⟩
        have := congrArg List.length hall
        simp only [List.length_map, List.length_append, j.length_pieces] at this
        omega
      · have hsplit : out = out.take j.size ++ out.drop j.size := (List.take_append_drop _ _).symm
        have hsize : (out.take j.size).length = j.size := List.length_take_of_le (by omega)
        obtain ⟨tail, htail⟩ := hout
        have hcut := htail
        rw [hsplit, List.map_append, List.append_assoc] at hcut
        obtain ⟨hfirst, hnext⟩ :=
          List.append_inj hcut (by rw [List.length_map, hsize, j.length_pieces])
        obtain ⟨len, buf, hrecv, hbuf⟩ := recv_message hj
          (fun x hx => hlen x (List.mem_of_mem_take hx)) hfirst ((out.drop j.size).map some)
        rw [← List.map_append, ← hsplit] at hrecv
        obtain ⟨received, hreceived, hfront, hall⟩ := ih js dats (out.drop j.size) hrest
          (fun x hx => hlen x (List.mem_of_mem_drop hx)) ⟨tail, hnext⟩
        refine ⟨dat :: received, ?_, List.cons_prefix_cons.mpr ⟨rfl, hfront⟩, fun heq hk => ?_⟩
        · simp only [receiveAll, hrecv, hreceived, hbuf]
        · have hnil : tail = [] := by
            rw [heq] at htail
            simpa using htail
          rw [hall (by rw [hnil, List.append_nil] at hnext; exact hnext) (by simpa using hk)]

end Calls

/-! ## The invariant -/

/-- On Linux, the receive queues have what has arrived, each number once. -/
structure Inv (s : Network) : Prop where
  streaming : s.android.Streaming
  packets : ∀ call ∈ s.android.sender.calls, IsMessage call.data
  queues : ∀ t, SegmentQueue.Inv Linux.Segment.seqNo (s.enqueued t) (s.taken t) (s.queues t)
  nodup : ∀ t, ((s.enqueued t).map Linux.Segment.seqNo).Nodup
  origin : ∀ t, ∀ x ∈ s.enqueued t, ∃ i ∈ s.arrived, ∃ f, s.android.transmitted[i]? = some f ∧
    f.isAck = false ∧ f.numType = t ∧ x = readHeader f
  arrived : ∀ i ∈ s.arrived, ∃ f, s.android.transmitted[i]? = some f ∧
    (f.isAck = false → readHeader f ∈ s.enqueued f.numType)

theorem inv_init : Inv init where
  streaming := SendRun.streaming_init
  packets := by simp [init, SendRun.init, Sender.init]
  queues := fun _ => SegmentQueue.inv_empty
  nodup := fun _ => List.nodup_nil
  origin := by simp [init]
  arrived := by simp [init]

variable {s s' : Network} {t : SegSeqNumType} {f : Android.Segment} {i : ℕ}

/-- A frame that is no acknowledgement brings its piece of the stream. -/
theorem Inv.writes (h : Inv s) (hf : s.android.transmitted[i]? = some f) (hack : f.isAck = false) :
    s.android.sender.Writes f.numType f :=
  h.streaming.writes (h.streaming.transmitted f (List.mem_of_getElem? hf) hack)

theorem seqNo_readHeader (f : Android.Segment) : (readHeader f).seqNo = f.getSeqNo.toUInt32 :=
  (UInt32.toUInt32_toInt32 _).symm

theorem numType_readHeader (f : Android.Segment) : (readHeader f).numType = f.numType := rfl

/-- What Linux has enqueued has its piece at the place of its number. -/
theorem Inv.piece (h : Inv s) {x : Linux.Segment} (hx : x ∈ s.enqueued t) :
    (s.android.sender.stream t)[x.seqNo.toNat]? = some x.piece ∧ x.len.toNat = x.payload.length := by
  obtain ⟨i, -, f, hf, hack, rfl, rfl⟩ := h.origin t x hx
  have hwrites := h.writes hf hack
  rw [seqNo_readHeader]
  exact ⟨hwrites.piece, hwrites.len⟩

theorem Inv.lt (h : Inv s) {x : Linux.Segment} (hx : x ∈ s.enqueued t) :
    x.seqNo.toNat < s.android.sender.numSegments t := by
  rw [← s.android.sender.length_stream t]
  exact (List.getElem?_eq_some_iff.mp (h.piece hx).1).1

/-- No more segments have been enqueued than there are numbers. -/
theorem Inv.length_le (h : Inv s) (t : SegSeqNumType) :
    (s.enqueued t).length ≤ s.android.sender.numSegments t := by
  have hnodup : ((s.enqueued t).map fun x => x.seqNo.toNat).Nodup := by
    have hmap : (s.enqueued t).map (fun x => x.seqNo.toNat) =
        ((s.enqueued t).map Linux.Segment.seqNo).map UInt32.toNat := by
      rw [List.map_map]
      rfl
    rw [hmap]
    exact (h.nodup t).map fun _ _ => UInt32.toNat_inj.mp
  have hsub : ∀ n ∈ (s.enqueued t).map (fun x => x.seqNo.toNat),
      n ∈ List.range (s.android.sender.numSegments t) := by
    intro n hn
    obtain ⟨x, hx, rfl⟩ := List.mem_map.mp hn
    exact List.mem_range.mpr (h.lt hx)
  have hle := (hnodup.subperm hsub).length_le
  simpa using hle

/-! ## Steps -/

/-- Calls keep their packets; only a reservation adds one. -/
theorem step_packets {r r' : SendRun} {l : SendRun.Label} (hs : r.step l = .ok r')
    {call : Android.SendCall} (hc : call ∈ r'.sender.calls) :
    (∃ c ∈ r.sender.calls, c.data = call.data) ∨ call.data ∈ reservation? l := by
  cases l with
  | reserve data isControl =>
    cases hs
    rcases List.mem_append.mp hc with hc | hc
    · exact .inl ⟨call, hc, rfl⟩
    · rw [List.mem_singleton.mp hc]
      exact .inr rfl
  | push i sec usec =>
    obtain ⟨sender, hsender, rfl⟩ := SendRun.onSender_ok hs
    obtain ⟨c, hmem, -, rfl⟩ := Sender.push_ok hsender
    rcases List.mem_or_eq_of_mem_set hc with hc | rfl
    · exact .inl ⟨call, hc, rfl⟩
    · exact .inl ⟨c, List.mem_of_getElem? hmem, rfl⟩
  | popFailedSegment a =>
    obtain ⟨sender, hsender, rfl⟩ := SendRun.onSender_ok hs
    obtain ⟨segment, rest, -, -, rfl⟩ := Sender.popFailedSegment_ok hsender
    exact .inl ⟨call, hc, rfl⟩
  | dequeue a =>
    obtain ⟨sender, hsender, rfl⟩ := SendRun.onSender_ok hs
    obtain ⟨t, -, -, rfl⟩ := Sender.dequeue_ok hsender
    exact .inl ⟨call, hc, rfl⟩
  | turn a adapter impl =>
    simp only [SendRun.step] at hs
    split at hs
    · cases hs
    · next sender adapter' sent hturn =>
      cases hs
      obtain ⟨segment, -, ⟨-, rfl⟩ | ⟨-, rfl⟩⟩ := Sender.turn_ok hturn
      · exact .inl ⟨call, hc, rfl⟩
      · exact .inl ⟨call, hc, rfl⟩
  | ack received adapter impl =>
    simp only [SendRun.step] at hs
    split at hs
    · cases hs
      exact .inl ⟨call, hc, rfl⟩
    · cases hs
      exact .inl ⟨call, hc, rfl⟩

/-- The connections give back nothing. -/
theorem step_transmitted {r r' : SendRun} {l : SendRun.Label} (hs : r.step l = .ok r') :
    r.transmitted <+: r'.transmitted := by
  cases l with
  | reserve data isControl =>
    cases hs
    exact List.prefix_refl _
  | push i sec usec =>
    obtain ⟨sender, -, rfl⟩ := SendRun.onSender_ok hs
    exact List.prefix_refl _
  | popFailedSegment a =>
    obtain ⟨sender, -, rfl⟩ := SendRun.onSender_ok hs
    exact List.prefix_refl _
  | dequeue a =>
    obtain ⟨sender, -, rfl⟩ := SendRun.onSender_ok hs
    exact List.prefix_refl _
  | turn a adapter impl =>
    simp only [SendRun.step] at hs
    split at hs
    · cases hs
    · cases hs
      exact List.prefix_append _ _
  | ack received adapter impl =>
    simp only [SendRun.step] at hs
    split at hs
    · cases hs
      exact List.prefix_refl _
    · cases hs
      exact List.prefix_append _ _

theorem getElem?_of_prefix {l l' : List Android.Segment} (h : l <+: l') (hf : l[i]? = some f) :
    l'[i]? = some f := by
  obtain ⟨more, rfl⟩ := h
  rw [List.getElem?_append_left (List.getElem?_eq_some_iff.mp hf).1]
  exact hf

theorem inv_android {l : SendRun.Label} (h : Inv s) (hk : Kept s (.android l))
    (hs : step s (.android l) = .ok s') : Inv s' := by
  simp only [step] at hs
  split at hs
  · cases hs
  · next android hstep =>
    cases hs
    have hmono := step_transmitted hstep
    refine ⟨SendRun.step_streaming _ _ _ h.streaming hk.1 hstep, fun call hc => ?_, h.queues, h.nodup,
      fun t x hx => ?_, fun i hi => ?_⟩
    · rcases step_packets hstep hc with ⟨c, hmem, he⟩ | hl
      · exact he ▸ h.packets c hmem
      · exact hk.2 call.data hl
    · obtain ⟨i, hi, f, hf, hrest⟩ := h.origin t x hx
      exact ⟨i, hi, f, getElem?_of_prefix hmono hf, hrest⟩
    · obtain ⟨f, hf, hrest⟩ := h.arrived i hi
      exact ⟨f, getElem?_of_prefix hmono hf, hrest⟩

/-- A frame is an acknowledgement, which the loop does not keep, or its segment is enqueued. -/
theorem receive_ok (hs : s.receive f = .ok s') : f.isAck = true ∧ s' = s ∨ f.isAck = false ∧
    ∃ b q, (s.queues f.numType).enqueue Linux.Segment.seqNo (readHeader f) = .ok (b, q) ∧
      s' = { s with
        queues := Function.update s.queues f.numType q
        enqueued := Function.update s.enqueued f.numType (s.enqueued f.numType ++ [readHeader f]) } := by
  have hisAck : (readHeader f).isAck = f.isAck := rfl
  simp only [Network.receive, hisAck, numType_readHeader] at hs
  cases hack : f.isAck with
  | true =>
    rw [hack, if_pos rfl] at hs
    exact .inl ⟨rfl, (Except.ok.inj hs).symm⟩
  | false =>
    rw [hack, if_neg Bool.false_ne_true] at hs
    split at hs
    · cases hs
    · next b q henq =>
      exact .inr ⟨rfl, b, q, henq, (Except.ok.inj hs).symm⟩

theorem inv_arrive (h : Inv s) (hs : step s (.arrive i) = .ok s') : Inv s' := by
  simp only [step] at hs
  split at hs
  · cases hs
  next f hf =>
  rcases receive_ok hs with ⟨hack, rfl⟩ | ⟨hack, b, q, henq, rfl⟩
  · refine ⟨h.streaming, h.packets, h.queues, h.nodup, fun t x hx => ?_, fun j hj => ?_⟩
    · obtain ⟨j, hj, hrest⟩ := h.origin t x hx
      exact ⟨j, List.mem_append_left _ hj, hrest⟩
    · rcases List.mem_append.mp hj with hj | hj
      · exact h.arrived j hj
      · rw [List.mem_singleton.mp hj]
        exact ⟨f, hf, fun hfalse => absurd (hack.symm.trans hfalse) (by decide)⟩
  · -- an enqueued segment has a new number
    have hnew : ∀ x ∈ s.enqueued f.numType, x.seqNo ≠ (readHeader f).seqNo := by
      intro x hx he
      have hdup := SegmentQueue.enqueue_duplicate (h.queues f.numType) hx he
      cases hdup.symm.trans henq
    have hlen : (s.enqueued f.numType).length + 1 < 2 ^ 32 := by
      have hle := h.length_le f.numType
      have hsmall := h.streaming.laying.small f.numType
      omega
    obtain ⟨b', q', henq', hqueue, -, -⟩ := SegmentQueue.enqueue_spec (h.queues f.numType) hnew hlen
    obtain ⟨-, rfl⟩ := Prod.mk.inj (Except.ok.inj (henq'.symm.trans henq))
    refine ⟨h.streaming, h.packets, fun t => ?_, fun t => ?_, fun t x hx => ?_, fun j hj => ?_⟩
    · by_cases ht : t = f.numType
      · subst ht
        simp only [Function.update_self]
        exact hqueue
      · simp only [Function.update_of_ne ht]
        exact h.queues t
    · by_cases ht : t = f.numType
      · subst ht
        simp only [Function.update_self]
        rw [List.map_append, List.map_singleton]
        refine List.nodup_append.mpr ⟨h.nodup _, List.nodup_singleton _, ?_⟩
        intro n hn m hm he
        obtain ⟨x, hx, rfl⟩ := List.mem_map.mp hn
        exact hnew x hx (he.trans (List.mem_singleton.mp hm))
      · simp only [Function.update_of_ne ht]
        exact h.nodup t
    · by_cases ht : t = f.numType
      · subst ht
        simp only [Function.update_self] at hx
        rcases List.mem_append.mp hx with hx | hx
        · obtain ⟨j, hj, hrest⟩ := h.origin _ x hx
          exact ⟨j, List.mem_append_left _ hj, hrest⟩
        · rw [List.mem_singleton.mp hx]
          exact ⟨i, List.mem_append_right _ (by simp), f, hf, hack, rfl, rfl⟩
      · simp only [Function.update_of_ne ht] at hx
        obtain ⟨j, hj, hrest⟩ := h.origin t x hx
        exact ⟨j, List.mem_append_left _ hj, hrest⟩
    · have hkeep : ∀ t x, x ∈ s.enqueued t → x ∈ Function.update s.enqueued f.numType
          (s.enqueued f.numType ++ [readHeader f]) t := by
        intro t x hx
        by_cases ht : t = f.numType
        · subst ht
          rw [Function.update_self]
          exact List.mem_append_left _ hx
        · rwa [Function.update_of_ne ht]
      rcases List.mem_append.mp hj with hj | hj
      · obtain ⟨g, hg, hmem⟩ := h.arrived j hj
        exact ⟨g, hg, fun hgack => hkeep _ _ (hmem hgack)⟩
      · rw [List.mem_singleton.mp hj]
        refine ⟨f, hf, fun _ => ?_⟩
        simp only [Function.update_self]
        exact List.mem_append_right _ (by simp)

theorem take_ok (hs : s.take t = .ok s') : ∃ seg q, (s.queues t).dequeue = .ok (seg, q) ∧
    s' = { s with
      queues := Function.update s.queues t q
      taken := Function.update s.taken t (s.taken t ++ [seg]) } := by
  unfold Network.take at hs
  split at hs
  · cases hs
  · split at hs
    · cases hs
    · next seg q hdeq =>
      exact ⟨seg, q, hdeq, (Except.ok.inj hs).symm⟩

theorem inv_take (h : Inv s) (hs : s.take t = .ok s') : Inv s' := by
  obtain ⟨seg, q, hdeq, rfl⟩ := take_ok hs
  refine ⟨h.streaming, h.packets, fun t' => ?_, h.nodup, h.origin, h.arrived⟩
  by_cases ht : t' = t
  · subst ht
    obtain ⟨rest, hmain, -⟩ := SegmentQueue.dequeue_eq_ok.mp hdeq
    obtain ⟨q', hdeq', hqueue⟩ := SegmentQueue.dequeue_spec (h.queues t') hmain
    obtain ⟨-, rfl⟩ := Prod.mk.inj (Except.ok.inj (hdeq'.symm.trans hdeq))
    simp only [Function.update_self]
    exact hqueue
  · simp only [Function.update_of_ne ht]
    exact h.queues t'

theorem step_inv (s : Network) (l : Label) (s' : Network) (h : Inv s) (hk : Kept s l)
    (hs : step s l = .ok s') : Inv s' := by
  cases l with
  | android l => exact inv_android h hk hs
  | arrive i => exact inv_arrive h hs
  | take t => exact inv_take h hs

/-! ## Faults -/

/-- Two frames of one number are one frame. -/
theorem Inv.index_inj (h : Inv s) {j : ℕ} {g : Android.Segment}
    (hf : s.android.transmitted[i]? = some f) (hg : s.android.transmitted[j]? = some g)
    (hfack : f.isAck = false) (hgack : g.isAck = false)
    (he : SendRun.number f = SendRun.number g) : i = j := by
  have hpair : s.android.transmitted.Pairwise fun a b =>
      (!a.isAck) = true → (!b.isAck) = true → SendRun.number a ≠ SendRun.number b := by
    have hunique := h.streaming.unique
    rw [List.Nodup, List.pairwise_map] at hunique
    exact List.pairwise_filter.mp hunique
  obtain ⟨hi, rfl⟩ := List.getElem?_eq_some_iff.mp hf
  obtain ⟨hj, rfl⟩ := List.getElem?_eq_some_iff.mp hg
  rw [List.pairwise_iff_getElem] at hpair
  rcases lt_trichotomy i j with hlt | heq | hgt
  · exact absurd he (hpair i j hi hj hlt (by simp [hfack]) (by simp [hgack]))
  · exact heq
  · exact absurd he.symm (hpair j i hj hi hgt (by simp [hgack]) (by simp [hfack]))

/-- A frame arrives that has arrived before, and is no acknowledgement. -/
def Repeated (s : Network) : Label → Prop
  | .arrive i => i ∈ s.arrived ∧ ∃ f ∈ s.android.transmitted[i]?, f.isAck = false
  | _ => False

instance (s : Network) : ∀ l, Decidable (Repeated s l)
  | .arrive i => inferInstanceAs (Decidable (i ∈ s.arrived ∧
      ∃ f ∈ s.android.transmitted[i]?, f.isAck = false))
  | .android _ | .take _ => .isFalse id

theorem enqueue_readHeader (h : Inv s) (hf : s.android.transmitted[i]? = some f)
    (hack : f.isAck = false) :
    (i ∈ s.arrived → (s.queues f.numType).enqueue Linux.Segment.seqNo (readHeader f) =
        .error .assertion) ∧
      (i ∉ s.arrived → ∃ r, (s.queues f.numType).enqueue Linux.Segment.seqNo (readHeader f) =
        .ok r) := by
  constructor
  · intro hi
    obtain ⟨g, hg, hmem⟩ := h.arrived i hi
    obtain rfl := Option.some.inj (hf.symm.trans hg)
    exact SegmentQueue.enqueue_duplicate (h.queues _) (hmem hack) rfl
  · intro hi
    have hnew : ∀ x ∈ s.enqueued f.numType, x.seqNo ≠ (readHeader f).seqNo := by
      intro x hx he
      obtain ⟨j, hj, g, hg, hgack, htype, rfl⟩ := h.origin _ x hx
      rw [seqNo_readHeader, seqNo_readHeader] at he
      have hseq : g.getSeqNo = f.getSeqNo := by
        rw [← Int32.toInt32_toUInt32 g.getSeqNo, he, Int32.toInt32_toUInt32]
      have hindex := h.index_inj hf hg hack hgack (Prod.ext htype.symm hseq.symm)
      exact hi (hindex ▸ hj)
    have hlen : (s.enqueued f.numType).length + 1 < 2 ^ 32 := by
      have hle := h.length_le f.numType
      have hsmall := h.streaming.laying.small f.numType
      omega
    obtain ⟨b, q, henq, -⟩ := SegmentQueue.enqueue_spec (h.queues _) hnew hlen
    exact ⟨_, henq⟩

/-- Android waits, or goes on. -/
theorem android_error {r : SendRun} {l : SendRun.Label} {e : Stop} (h : r.step l = .error e) :
    e = .waiting := by
  have honSender : ∀ (r : SendRun) (a : Except Stop Sender), (∀ e', a = .error e' → e' = .waiting) →
      r.onSender a = .error e → e = .waiting := by
    intro r a ha he
    cases a with
    | error e' =>
      cases he
      exact ha _ rfl
    | ok sender => cases he
  cases l with
  | reserve data isControl => cases h
  | push i sec usec =>
    refine honSender _ _ (fun e' he => ?_) h
    unfold Sender.push at he
    split at he
    · cases he
      rfl
    · split at he
      · cases he
      · cases he
        rfl
  | popFailedSegment a =>
    refine honSender _ _ (fun e' he => ?_) h
    unfold Sender.popFailedSegment at he
    split at he
    · cases he
    · cases he
      rfl
  | dequeue a =>
    refine honSender _ _ (fun e' he => ?_) h
    unfold Sender.dequeue at he
    split at he
    · cases he
    · cases he
      rfl
  | turn a adapter impl =>
    simp only [SendRun.step] at h
    split at h
    · next e' hturn =>
      cases h
      unfold Sender.turn at hturn
      split at hturn
      · cases hturn
        rfl
      · simp only at hturn
        split_ifs at hturn
    · cases h
  | ack received adapter impl =>
    simp only [SendRun.step] at h
    split at h
    · cases h
    · cases h

theorem take_error (h : Inv s) {e : Stop} (hs : s.take t = .error e) : e = .waiting := by
  unfold Network.take at hs
  split at hs
  · cases hs
    rfl
  · next hne =>
    cases hmain : (s.queues t).mMainQueue with
    | nil =>
      have hlen := (h.queues t).length
      rw [hmain] at hlen
      exact absurd (by rw [SegmentQueue.getQueueLength, hlen]; rfl) hne
    | cons seg rest =>
      obtain ⟨q, hdeq, -⟩ := SegmentQueue.dequeue_spec (h.queues t) hmain
      rw [hdeq] at hs
      cases hs

theorem Inv.fault_iff (h : Inv s) {l : Label} {fault : Fault} :
    step s l = .error (.fault fault) ↔ fault = .assertion ∧ Repeated s l := by
  cases l with
  | android l =>
    refine ⟨fun hs => ?_, fun hs => hs.2.elim⟩
    simp only [step] at hs
    split at hs
    · next e hstep =>
      rw [android_error hstep] at hs
      cases hs
    · cases hs
  | take t =>
    refine ⟨fun hs => ?_, fun hs => hs.2.elim⟩
    cases take_error h hs
  | arrive i =>
    cases hf : s.android.transmitted[i]? with
    | none =>
      simp only [step, hf, Repeated]
      exact ⟨nofun, fun hs => by simp at hs⟩
    | some f =>
      have hisAck : (readHeader f).isAck = f.isAck := rfl
      simp only [step, hf, Network.receive, hisAck, numType_readHeader, Repeated]
      cases hack : f.isAck with
      | true =>
        rw [if_pos rfl]
        refine ⟨nofun, fun ⟨_, _, g, hg, hgack⟩ => ?_⟩
        obtain rfl := Option.some.inj hg
        exact absurd (hack.symm.trans hgack) (by decide)
      | false =>
        obtain ⟨hrepeat, hfresh⟩ := enqueue_readHeader h hf hack
        rw [if_neg Bool.false_ne_true]
        by_cases hi : i ∈ s.arrived
        · rw [hrepeat hi]
          refine ⟨fun hs => ?_, fun hs => by rw [hs.1]⟩
          cases hs
          exact ⟨rfl, hi, f, rfl, hack⟩
        · obtain ⟨r, hr⟩ := hfresh hi
          rw [hr]
          exact ⟨nofun, fun hs => absurd hs.2.1 hi⟩

/-! ## Runs -/

/-- What Linux has delivered: taken by the application, or ready for it. -/
def Network.delivered (s : Network) (t : SegSeqNumType) : List Linux.Segment :=
  s.taken t ++ (s.queues t).mMainQueue

/-- What has been delivered are the first segments of the stream. -/
theorem Inv.delivered_prefix (h : Inv s) (t : SegSeqNumType) :
    (s.delivered t).map Linux.Segment.piece <+: s.android.sender.stream t := by
  have hio := (h.queues t).inOrder
  have hget : ∀ i (hi : i < (s.delivered t).length),
      (s.android.sender.stream t)[i]? = some ((s.delivered t)[i]).piece := by
    intro i hi
    have hmem := hio.sound _ (.inl (List.getElem_mem hi))
    rw [← (h.piece hmem).1]
    exact congrArg _ (hio.key_getElem hi).symm
  have hle : (s.delivered t).length ≤ (s.android.sender.stream t).length := by
    by_contra hgt
    have hlast := hget (s.android.sender.stream t).length (by omega)
    simp at hlast
  refine List.prefix_iff_eq_take.mpr (List.ext_getElem? fun i => ?_)
  rw [List.length_map, List.getElem?_take, List.getElem?_map]
  split
  · next hi => rw [hget i hi, List.getElem?_eq_getElem hi]; rfl
  · next hi => rw [List.getElem?_eq_none (by omega)]; rfl

theorem Inv.conveys (h : Inv s) (t : SegSeqNumType) :
    List.Forall₂ Conveys (s.android.sender.jobs t) (messages s.android t) := by
  have hjobs : s.android.sender.jobs t =
      (s.android.sender.calls.filter fun call => call.numType = t).map Android.SendCall.job := by
    rw [Sender.jobs, List.filter_map]
    rfl
  rw [hjobs, messages, List.forall₂_map_left_iff, List.forall₂_map_right_iff, List.forall₂_same]
  intro call hc
  have hpacket := h.packets call (List.mem_of_mem_filter hc)
  exact ⟨hpacket.bytes, hpacket.len, hpacket.survives⟩

theorem Inv.received (h : Inv s) (t : SegSeqNumType) {out : List Linux.Segment}
    (hout : out <+: s.delivered t) (k : ℕ) :
    ∃ received, receiveAll k (out.map some) = .ok received ∧ received <+: messages s.android t ∧
      (out.map Linux.Segment.piece = s.android.sender.stream t →
        (messages s.android t).length ≤ k → received = messages s.android t) := by
  have hconveys := h.conveys t
  have hlen : ∀ x ∈ out, x.len.toNat = x.payload.length := fun x hx =>
    (h.piece ((h.queues t).inOrder.sound x (.inl (hout.subset hx)))).2
  obtain ⟨received, hreceived, hfront, hall⟩ := receiveAll_prefix k _ _ out hconveys hlen
    ((hout.map _).trans (h.delivered_prefix t))
  exact ⟨received, hreceived, hfront, fun heq hk => hall heq (hconveys.length_eq.trans_le hk)⟩

/-- Two messages; the first one fails on its adapter and goes out last. -/
def sendTwo : List Label :=
  let active : ClientAdapter := ⟨.kActive, false, false, .kOpened⟩
  [.android (.reserve ⟨[0, 7, 0, 0, 0, 2, 1, 2], by decide, by decide⟩ false),
    .android (.reserve ⟨[0, 8, 0, 0, 0, 1, 4], by decide, by decide⟩ false),
    .android (.push 1 0 0), .android (.push 0 0 0), .android (.dequeue 0), .android (.dequeue 1),
    .android (.turn 0 active (-1)), .android (.turn 1 active 540), .android (.popFailedSegment 1),
    .android (.turn 1 active 540)]

/-- Every segment of this type has arrived. -/
def Complete (s : Network) (t : SegSeqNumType) : Prop :=
  ∀ n < s.android.sender.numSegments t, ∃ i ∈ s.arrived, ∃ f ∈ s.android.transmitted[i]?,
    f.isAck = false ∧ f.numType = t ∧ f.getSeqNo.toUInt32.toNat = n

instance (s : Network) (t : SegSeqNumType) : Decidable (Complete s t) :=
  inferInstanceAs (Decidable (∀ n < s.android.sender.numSegments t, ∃ i ∈ s.arrived,
    ∃ f ∈ s.android.transmitted[i]?, f.isAck = false ∧ f.numType = t ∧
      f.getSeqNo.toUInt32.toNat = n))

/-- When everything has arrived, everything is delivered. -/
theorem Inv.delivered_all (h : Inv s) (hall : Complete s t) :
    (s.delivered t).map Linux.Segment.piece = s.android.sender.stream t := by
  refine (h.delivered_prefix t).eq_of_length_le ?_
  rw [List.length_map, s.android.sender.length_stream]
  by_contra hlt
  have hio := (h.queues t).inOrder
  obtain ⟨i, hi, f, hf, hack, rfl, hn⟩ := hall (s.delivered t).length (by omega)
  obtain ⟨g, hg, hmem⟩ := h.arrived i hi
  obtain rfl := Option.some.inj (hg.symm.trans hf)
  have hkey : SegmentQueue.key Linux.Segment.seqNo (readHeader g) =
      (s.delivered g.numType).length := by
    rw [SegmentQueue.key, seqNo_readHeader]
    exact hn
  refine hio.isLeast.1 (readHeader g) (hmem hack) ?_
  rw [hkey]
  exact hio.out_length

end Upstream
end VirtualConnection
