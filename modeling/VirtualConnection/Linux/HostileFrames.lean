import VirtualConnection.Lib.Runs
import VirtualConnection.Linux.ProtocolManager
import VirtualConnection.Linux.SegmentQueue

/-!
# Linux.HostileFrames

Frames with any contents. `receiver_loop` puts them into the receive queues by their numbers, and
`recv_from_segment_manager` copies by their lengths: the length of the first segment, which counts
the protocol header, the lengths of the following ones, and the length in the protocol header, which
is the size of the buffer. Nothing compares them.

`hostile_frames_iff`: every byte that is read or written lies inside its buffer exactly when the
lengths fit (`MessagesFit`).
-/

namespace VirtualConnection
namespace Linux

open Bytes

/-! ## Accepting and reading -/

/-- What `receiver_loop` does with a frame: an ACK is not enqueued. -/
def acceptFrame (recvQueues : Bool → SegmentQueue Segment) (frame : Area segmentDataSize) :
    Except Fault (Bool → SegmentQueue Segment) :=
  let seg := readHeader frame
  if seg.isAck then .ok recvQueues
  else
    match (recvQueues seg.isControl).enqueue Segment.seqNo seg with
    | .ok (_, q) => .ok (Function.update recvQueues seg.isControl q)
    | .error f => .error f

/-- One call of `recv_from_segment_manager`. -/
def recvStep (queue : List (Option Segment)) (_ : Unit) : Except Stop (List (Option Segment)) :=
  match recvFromSegmentManager queue with
  | .ok (_, _, queue) => .ok queue
  | .error e => .error e

/-- The call stays inside the segments and the buffer. -/
def InBounds (queue : List (Option Segment)) : Prop :=
  recvFromSegmentManager queue ≠ .error (.fault .outOfBounds)

/-! ## The lengths -/

/-- The protocol length of a message, from its first segment. -/
def protLen (seg : Segment) : UInt32 := (parseHeader (seg.data.1.drop kSegHeaderSize)).len

/-- The first segment of a message with a payload. -/
structure FirstFits (seg : Segment) : Prop where
  header : kProtHeaderSize ≤ seg.len.toNat
  segment : seg.len.toNat ≤ kSegSize
  buffer : seg.len.toNat - kProtHeaderSize ≤ (protLen seg).toNat

/-- The following segments, from the position `offset` of a buffer of `len` bytes. -/
def RestFits (len : ℕ) : Bool → UInt16 → List Segment → Prop
  | false, _, _ | true, _, [] => True
  | true, offset, seg :: queue =>
    seg.len.toNat ≤ kSegSize ∧ offset.toNat + seg.len.toNat ≤ len ∧
      RestFits len seg.isMF (offset + UInt16.ofNat seg.len.toNat) queue

/-- What is behind the last segment of a message. -/
def afterChain : Bool → List Segment → List Segment
  | false, queue => queue
  | true, [] => []
  | true, seg :: queue => afterChain seg.isMF queue

/-- The lengths of the message that comes first. -/
def HeadFits : List Segment → Prop
  | [] => True
  | seg :: queue => protLen seg = 0 ∨ FirstFits seg ∧
      RestFits (protLen seg).toNat seg.isMF
        (UInt16.ofNat (seg.len.toNat - kProtHeaderSize)) queue

/-- What is behind the message that comes first. -/
def afterHead : List Segment → List Segment
  | [] => []
  | seg :: queue => if protLen seg = 0 then queue else afterChain seg.isMF queue

inductive MessagesFit : List Segment → Prop where
  | nil : MessagesFit []
  | cons {seg : Segment} {queue : List Segment} (hhead : HeadFits (seg :: queue))
      (hrest : MessagesFit (afterHead (seg :: queue))) : MessagesFit (seg :: queue)

theorem length_afterChain_le (cont : Bool) (queue : List Segment) :
    (afterChain cont queue).length ≤ queue.length := by
  induction queue generalizing cont with
  | nil => cases cont <;> exact Nat.le_refl _
  | cons seg queue ih =>
    cases cont with
    | false => exact Nat.le_refl _
    | true => exact (ih seg.isMF).trans (Nat.le_succ _)

theorem length_afterHead_le (seg : Segment) (queue : List Segment) :
    (afterHead (seg :: queue)).length ≤ queue.length := by
  rw [afterHead]
  split
  · exact Nat.le_refl _
  · exact length_afterChain_le _ _

/-! ## The copies -/

variable {seg : Segment} {skip dataSize : ℕ} {serialized : List UInt8} {offset : UInt16}

theorem load_payload (seg : Segment)
    (hsegment : kSegHeaderSize + skip + dataSize ≤ segmentDataSize) : ∃ data,
    load? seg.data.1 (kSegHeaderSize + skip) dataSize = some data ∧ data.length = dataSize := by
  have hdata := seg.data.2
  refine ⟨_, by rw [load?, if_pos (by rw [hdata]; exact hsegment)], ?_⟩
  rw [List.length_take, List.length_drop, hdata]
  omega

theorem copyPayload_of_fits (seg : Segment)
    (hsegment : kSegHeaderSize + skip + dataSize ≤ segmentDataSize)
    (hbuffer : offset.toNat + dataSize ≤ serialized.length) :
    ∃ serialized', copyPayload seg skip dataSize serialized offset = .ok serialized' ∧
      serialized'.length = serialized.length := by
  obtain ⟨data, hload, hlength⟩ := load_payload seg hsegment
  rw [← hlength] at hbuffer
  exact ⟨_, by simp only [copyPayload, hload, store?, if_pos hbuffer], length_overwrite hbuffer⟩

theorem copyPayload_of_not_fits (h : ¬ (kSegHeaderSize + skip + dataSize ≤ segmentDataSize ∧
    offset.toNat + dataSize ≤ serialized.length)) :
    copyPayload seg skip dataSize serialized offset = .error (.fault .outOfBounds) := by
  by_cases hsegment : kSegHeaderSize + skip + dataSize ≤ segmentDataSize
  · obtain ⟨data, hload, hlength⟩ := load_payload seg hsegment
    have hstore : ¬ offset.toNat + data.length ≤ serialized.length := by
      rw [hlength]
      exact fun hbuffer => h ⟨hsegment, hbuffer⟩
    simp only [copyPayload, hload, store?, if_neg hstore]
  · have hload : load? seg.data.1 (kSegHeaderSize + skip) dataSize = none := by
      rw [load?, if_neg (by rw [seg.data.2]; exact hsegment)]
    simp only [copyPayload, hload]

/-- The second loop on lengths that fit: it takes the chain, or waits for the rest of it. -/
theorem recvRest_of_fits (queue : List Segment) : ∀ (cont : Bool) (serialized : List UInt8)
    (offset : UInt16), RestFits serialized.length cont offset queue →
      (∃ serialized', recvRest cont serialized offset (queue.map some) =
          .ok (serialized', (afterChain cont queue).map some)) ∨
        recvRest cont serialized offset (queue.map some) = .error .waiting ∧
          afterChain cont queue = [] := by
  induction queue with
  | nil =>
    intro cont serialized offset _
    cases cont with
    | false => exact .inl ⟨serialized, rfl⟩
    | true => exact .inr ⟨rfl, rfl⟩
  | cons seg queue ih =>
    intro cont serialized offset h
    cases cont with
    | false => exact .inl ⟨serialized, rfl⟩
    | true =>
      obtain ⟨hsegment, hbuffer, hrest⟩ := h
      have hfit : kSegHeaderSize + 0 + seg.len.toNat ≤ segmentDataSize := by
        simp only [segmentDataSize, kSegSize] at hsegment ⊢
        omega
      obtain ⟨serialized', hcopy, hlength⟩ := copyPayload_of_fits seg hfit hbuffer
      have hcases := ih seg.isMF serialized' (offset + UInt16.ofNat seg.len.toNat)
        (by rw [hlength]; exact hrest)
      simpa only [List.map_cons, recvRest, hcopy, afterChain] using hcases

theorem recvRest_of_not_fits (queue : List Segment) : ∀ (cont : Bool) (serialized : List UInt8)
    (offset : UInt16), ¬ RestFits serialized.length cont offset queue →
      recvRest cont serialized offset (queue.map some) = .error (.fault .outOfBounds) := by
  induction queue with
  | nil =>
    intro cont serialized offset h
    cases cont <;> exact absurd trivial h
  | cons seg queue ih =>
    intro cont serialized offset h
    cases cont with
    | false => exact absurd trivial h
    | true =>
      rw [List.map_cons, recvRest]
      by_cases hfits : kSegHeaderSize + 0 + seg.len.toNat ≤ segmentDataSize ∧
          offset.toNat + seg.len.toNat ≤ serialized.length
      · obtain ⟨serialized', hcopy, hlength⟩ :=
          copyPayload_of_fits seg hfits.1 hfits.2
        have hrest : ¬ RestFits serialized'.length seg.isMF
            (offset + UInt16.ofNat seg.len.toNat) queue := by
          rw [hlength]
          refine fun hrest => h ⟨?_, hfits.2, hrest⟩
          have hsegment := hfits.1
          simp only [segmentDataSize, kSegSize] at hsegment ⊢
          omega
        simp only [hcopy]
        exact ih _ _ _ hrest
      · simp only [copyPayload_of_not_fits hfits]

/-! ## One call -/

variable {queue : List Segment}

theorem recv_empty (hlen : protLen seg = 0) :
    ∃ pd, recvFromSegmentManager ((seg :: queue).map some) = .ok (pd, none, queue.map some) := by
  refine ⟨parseHeader (seg.data.1.drop kSegHeaderSize), ?_⟩
  simp only [List.map_cons, recvFromSegmentManager, recvFirst]
  rw [if_pos (by exact hlen)]

/-- A call on a message with a payload, once the length of the first piece is known. -/
theorem recv_message (hlen : protLen seg ≠ 0) :
    recvFromSegmentManager ((seg :: queue).map some) =
      match copyPayload seg kProtHeaderSize (seg.len - UInt32.ofNat kProtHeaderSize).toNat
        (List.replicate (protLen seg).toNat 0) 0 with
      | .error e => .error e
      | .ok serialized =>
        match recvRest seg.isMF serialized
          (UInt16.ofNat (seg.len - UInt32.ofNat kProtHeaderSize).toNat) (queue.map some) with
        | .error e => .error e
        | .ok (serialized, queue) =>
          .ok (parseHeader (seg.data.1.drop kSegHeaderSize), some serialized, queue) := by
  simp only [List.map_cons, recvFromSegmentManager, recvFirst]
  rw [if_neg (by exact hlen)]
  rfl

/-- The length of the first piece wraps when the segment is shorter than the protocol header. -/
theorem dataSize_eq (seg : Segment) : (seg.len - UInt32.ofNat kProtHeaderSize).toNat =
    if kProtHeaderSize ≤ seg.len.toNat then seg.len.toNat - kProtHeaderSize
    else seg.len.toNat + (2 ^ 32 - kProtHeaderSize) := by
  have h6 : (UInt32.ofNat kProtHeaderSize).toNat = kProtHeaderSize := rfl
  have hlt := seg.len.toNat_lt
  rw [UInt32.toNat_sub, h6]
  by_cases hheader : kProtHeaderSize ≤ seg.len.toNat
  · rw [if_pos hheader]
    simp only [kProtHeaderSize] at hheader ⊢
    omega
  · rw [if_neg hheader]
    simp only [kProtHeaderSize] at hheader ⊢
    omega

theorem firstFits_iff : FirstFits seg ↔
    kSegHeaderSize + kProtHeaderSize + (seg.len - UInt32.ofNat kProtHeaderSize).toNat ≤
        segmentDataSize ∧
      (0 : UInt16).toNat + (seg.len - UInt32.ofNat kProtHeaderSize).toNat ≤
        (List.replicate (protLen seg).toNat (0 : UInt8)).length := by
  rw [dataSize_eq, List.length_replicate, UInt16.toNat_zero]
  by_cases hheader : kProtHeaderSize ≤ seg.len.toNat
  · rw [if_pos hheader]
    simp only [segmentDataSize, kSegSize, kSegHeaderSize, kProtHeaderSize] at hheader ⊢
    constructor
    · rintro ⟨-, hsegment, hbuffer⟩
      simp only [kSegSize, kProtHeaderSize] at hsegment hbuffer
      omega
    · intro h
      refine ⟨hheader, ?_, ?_⟩
      · simp only [kSegSize]
        omega
      · simp only [kProtHeaderSize]
        omega
  · rw [if_neg hheader]
    refine iff_of_false (fun h => hheader h.header) (fun h => ?_)
    have hsegment := h.1
    simp only [segmentDataSize, kSegSize, kSegHeaderSize, kProtHeaderSize] at hsegment
    omega

/-- The first piece is copied, and the offset behind it is its length. -/
theorem first_copied (hfirst : FirstFits seg) : ∃ serialized,
    copyPayload seg kProtHeaderSize (seg.len - UInt32.ofNat kProtHeaderSize).toNat
        (List.replicate (protLen seg).toNat 0) 0 = .ok serialized ∧
      (RestFits serialized.length seg.isMF
          (UInt16.ofNat (seg.len - UInt32.ofNat kProtHeaderSize).toNat) queue ↔
        RestFits (protLen seg).toNat seg.isMF
          (UInt16.ofNat (seg.len.toNat - kProtHeaderSize)) queue) := by
  obtain ⟨hsegment, hbuffer⟩ := firstFits_iff.mp hfirst
  obtain ⟨serialized, hcopy, hlength⟩ := copyPayload_of_fits seg hsegment hbuffer
  refine ⟨serialized, hcopy, ?_⟩
  rw [hlength, List.length_replicate, dataSize_eq, if_pos hfirst.header]

theorem recvStep_of_fits (h : HeadFits queue) :
    recvStep (queue.map some) () = .ok ((afterHead queue).map some) ∨
      recvStep (queue.map some) () = .error .waiting ∧ afterHead queue = [] := by
  cases queue with
  | nil => exact .inr ⟨rfl, rfl⟩
  | cons seg queue =>
    by_cases hlen : protLen seg = 0
    · obtain ⟨pd, hrecv⟩ := @recv_empty seg queue hlen
      left
      simp only [recvStep, hrecv, afterHead, if_pos hlen]
    · obtain ⟨hfirst, hchain⟩ := h.resolve_left hlen
      obtain ⟨serialized, hcopy, hrestFits⟩ := @first_copied seg queue hfirst
      simp only [recvStep, recv_message hlen, hcopy, afterHead, if_neg hlen]
      rcases recvRest_of_fits queue _ _ _ (hrestFits.mpr hchain) with ⟨serialized', hrest⟩ | ⟨hrest, hnil⟩
      · left
        simp only [hrest]
      · right
        simp only [hrest]
        exact ⟨trivial, hnil⟩

theorem recvStep_of_not_fits (h : ¬ HeadFits queue) :
    recvFromSegmentManager (queue.map some) = .error (.fault .outOfBounds) := by
  cases queue with
  | nil => exact absurd trivial h
  | cons seg queue =>
    obtain ⟨hlen, hbad⟩ := not_or.mp h
    rw [recv_message hlen]
    by_cases hfirst : FirstFits seg
    · obtain ⟨serialized, hcopy, hrestFits⟩ := @first_copied seg queue hfirst
      have hchain := fun hchain => hbad ⟨hfirst, hrestFits.mp hchain⟩
      simp only [hcopy, recvRest_of_not_fits queue _ _ _ hchain]
    · simp only [copyPayload_of_not_fits (firstFits_iff.not.mp hfirst)]

theorem inBounds_iff : InBounds (queue.map some) ↔ HeadFits queue := by
  constructor
  · intro h
    by_contra hfits
    exact h (recvStep_of_not_fits hfits)
  · intro h herror
    have hstep : recvStep (queue.map some) () = .error (.fault .outOfBounds) := by
      simp only [recvStep, herror]
    rcases recvStep_of_fits h with hok | ⟨hwaiting, -⟩
    · cases hok.symm.trans hstep
    · cases hwaiting.symm.trans hstep

/-! ## Any number of calls -/

/-- By induction on the messages. -/
theorem inBounds_of_messagesFit (h : MessagesFit queue) {ls : List Unit}
    {t : List (Option Segment)} (ht : Runs.Reached recvStep (queue.map some) ls t) :
    InBounds t := by
  induction h generalizing ls with
  | nil =>
    cases ht with
    | here => exact inBounds_iff.mpr trivial
    | next hs _ => cases hs
  | cons hhead _ ih =>
    cases ht with
    | here => exact inBounds_iff.mpr hhead
    | next hs hrest =>
      rcases recvStep_of_fits hhead with hok | ⟨hwaiting, -⟩
      · obtain rfl := Except.ok.inj (hok.symm.trans hs)
        exact ih hrest
      · cases hwaiting.symm.trans hs

/-- By induction on the number of segments: a call takes one at least. -/
theorem messagesFit_of_inBounds (n : ℕ) : ∀ queue : List Segment, queue.length ≤ n →
    (∀ ls t, Runs.Reached recvStep (queue.map some) ls t → InBounds t) → MessagesFit queue := by
  induction n with
  | zero =>
    intro queue hn _
    obtain rfl := List.eq_nil_of_length_eq_zero (Nat.le_zero.mp hn)
    exact .nil
  | succ n ih =>
    intro queue hn h
    cases queue with
    | nil => exact .nil
    | cons seg queue =>
      have hhead : HeadFits (seg :: queue) := inBounds_iff.mp (h [] _ .here)
      refine .cons hhead (ih _ ?_ fun ls t ht => ?_)
      · exact (length_afterHead_le seg queue).trans (Nat.le_of_succ_le_succ hn)
      · rcases recvStep_of_fits hhead with hok | ⟨-, hnil⟩
        · exact h (() :: ls) t (.next hok ht)
        · rw [hnil] at ht
          exact inBounds_of_messagesFit .nil ht

/-- The receive queues after the frames have been accepted, and every call that reads them. -/
def FramesSafe (frames : List (Area segmentDataSize)) : Prop :=
  ∀ recvQueues, Runs.run acceptFrame (fun _ => .empty) frames = .ok recvQueues →
    ∀ isControl ls t,
      Runs.Reached recvStep ((recvQueues isControl).mMainQueue.map some) ls t → InBounds t

theorem hostile_frames_iff (frames : List (Area segmentDataSize)) :
    FramesSafe frames ↔
      ∀ recvQueues, Runs.run acceptFrame (fun _ => .empty) frames = .ok recvQueues →
        ∀ isControl, MessagesFit (recvQueues isControl).mMainQueue := by
  refine forall_congr' fun recvQueues => forall_congr' fun _ => forall_congr' fun isControl => ?_
  constructor
  · exact fun h => messagesFit_of_inBounds _ _ (Nat.le_refl _) h
  · exact fun h _ _ ht => inBounds_of_messagesFit h ht

/-- Data segment 0 says that it holds 512 bytes, of a message of one byte. -/
def overlongFrame : Area segmentDataSize :=
  ((Area.zero segmentDataSize).store 4 [0, 0, 2, 0] (by decide)).store 28 [0, 0, 0, 0, 0, 1]
    (by decide)

theorem hostile_frame_unsafe : ¬ FramesSafe [overlongFrame] := by
  intro h
  obtain ⟨recvQueues, hrun, hmain⟩ : ∃ recvQueues,
      Runs.run acceptFrame (fun _ => .empty) [overlongFrame] = .ok recvQueues ∧
        (recvQueues false).mMainQueue = [readHeader overlongFrame] :=
    ⟨_, rfl, rfl⟩
  have hhead := inBounds_iff.mp (hmain ▸ h recvQueues hrun false [] _ .here)
  rcases hhead with hlen | ⟨hfirst, -⟩
  · exact absurd hlen (by decide +kernel)
  · exact absurd hfirst.buffer (by decide +kernel)

end Linux
end VirtualConnection
