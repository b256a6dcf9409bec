import Mathlib.Algebra.Order.Group.Multiset
import Mathlib.Tactic.Abel
import VirtualConnection.Linux.BlockingReceive
import VirtualConnection.Linux.HostileFrames
import VirtualConnection.Linux.ReceiverLoop
import VirtualConnection.Linux.SegmentManager

/-!
# Linux.ReceivePath

Where the segments of the receive path go. `receiver_loop` pops a free segment at the beginning of a
pass, and another one at its end, under a comment that promises to deallocate; a pass without a frame
to enqueue leaves with its segment in hand. `recv_from_segment_manager` returns early from an empty
message.

`noLeak_iff`: every segment is accounted for, in every state of a run, exactly when no pass ends, no
pass receives anything but a frame to enqueue, and no empty message is read.
-/

namespace VirtualConnection
namespace Linux

open Bytes Ownership

/-- Where `receiver_loop` is. -/
inductive ReceiverPoint where
  /-- At the head of the loop, or outside. -/
  | head
  /-- `segment_to_receive` is being filled. -/
  | filling (segmentToReceive : Addr)
  /-- The segment has been enqueued. -/
  | enqueued
  deriving DecidableEq

def ReceiverPoint.hand : ReceiverPoint → Multiset Addr
  | .filling seg => {seg}
  | _ => 0

/-- The loop, and a call of `recv_from_segment_manager` for each kind of queue. -/
structure ReceivePath where
  sm : SegmentManager
  loop : ReceiverPoint
  readers : Bool → Reader

namespace ReceivePath

inductive Label where
  /-- The first `pop_free_segment` of a pass. -/
  | begin (fresh : Addr)
  /-- `receive_buffer`, and what the pass does with the frame. -/
  | receive (res : Res) (frame : Area segmentDataSize)
  /-- "Deallocate the segment", and the end of the pass. -/
  | finish (fresh : Addr)
  /-- The next segment of a call. -/
  | read (isControl : Bool)

def init : ReceivePath := ⟨.init, .head, fun _ => .first⟩

variable (s : ReceivePath)

/-- `add_free_segment_to_list` at the end of a turn. -/
def release (sm : SegmentManager) (seg : Addr) (isControl : Bool) (reader : Reader) :
    Except Stop ReceivePath :=
  match sm.addFreeSegmentToList seg with
  | .error e => .error e
  | .ok sm => .ok { s with sm := sm, readers := Function.update s.readers isControl reader }

/-- A turn of `recv_from_segment_manager`; a wait ends with a segment there. -/
def read (isControl : Bool) : Except Stop ReceivePath :=
  if (s.sm.mSegmentQueues (if isControl then .kSQRecvControl else .kSQRecvData)).mMainQueue = [] then
    .error .waiting
  else
    match s.sm.dequeue (if isControl then .kDeqRecvControl else .kDeqRecvData) with
    | .error e => .error e
    | .ok (none, _) => .error .waiting
    | .ok (some seg, sm) =>
      match (s.readers isControl).read (sm.heap seg) with
      | .error e => .error e
      | .ok (.inl reader) => s.release sm seg isControl reader
      | .ok (.inr (_, some _)) => s.release sm seg isControl .first
      | .ok (.inr (_, none)) =>
        .ok { s with sm := sm, readers := Function.update s.readers isControl .first }

/-- A frame that has been received whole. -/
def accept (seg : Addr) (frame : Area segmentDataSize) : Except Stop ReceivePath :=
  if (readHeader frame).isAck then .ok { s with loop := .head }
  else
    let sm := { s.sm with heap := Function.update s.sm.heap seg (readHeader frame) }
    match sm.enqueue (recvQueueType (readHeader frame)) seg with
    | .error e => .error e
    | .ok sm => .ok { s with sm := sm, loop := .enqueued }

def step (s : ReceivePath) : Label → Except Stop ReceivePath
  | .begin fresh =>
    match s.loop with
    | .head =>
      match s.sm.popFreeSegment fresh with
      | .error e => .error e
      | .ok (seg, sm) => .ok { s with sm := sm, loop := .filling seg }
    | _ => .error .waiting
  | .receive res frame =>
    match s.loop with
    | .filling seg =>
      match res with
      | .continue | .break => .ok { s with loop := .head }
      | .ok => s.accept seg frame
    | _ => .error .waiting
  | .finish fresh =>
    match s.loop with
    | .enqueued =>
      match s.sm.popFreeSegment fresh with
      | .error e => .error e
      | .ok (_, sm) => .ok { s with sm := sm, loop := .head }
    | _ => .error .waiting
  | .read isControl => s.read isControl

/-! ## What is claimed, and when it holds -/

/-- Every segment that has not been released is in the free list, in a receive queue, or being
filled. -/
def NoLeak (s : ReceivePath) : Prop :=
  ∀ seg ∈ s.sm.allocated, seg ∈ s.sm.mFreeList ∨ seg ∈ s.sm.recvQueued ∨ s.loop = .filling seg

/-- A pass receives a frame to enqueue, and does not end; a message is not empty. -/
def Kept (s : ReceivePath) : Label → Prop
  | .begin _ => True
  | .receive res frame => res = .ok ∧ (readHeader frame).isAck = false
  | .finish _ => False
  | .read isControl => ∀ seg rest,
      (s.sm.mSegmentQueues (if isControl then .kSQRecvControl else .kSQRecvData)).mMainQueue =
        seg :: rest → s.readers isControl = .first → protLen (s.sm.heap seg) ≠ 0

end ReceivePath

/-! ## One step -/

namespace ReceivePath

variable {s s' : ReceivePath}

def places (s : ReceivePath) : Multiset Addr :=
  (s.sm.mFreeList : Multiset Addr) + (s.sm.recvQueued + s.loop.hand)

/-- Every segment is at one place. -/
def Inv (s : ReceivePath) : Prop := Accounted s.sm.allocated s.places

theorem inv_init : Inv init := Accounted.empty

theorem mem_hand {loop : ReceiverPoint} {seg : Addr} : seg ∈ loop.hand ↔ loop = .filling seg := by
  cases loop with
  | filling seg' =>
    rw [ReceiverPoint.hand, Multiset.mem_singleton, ReceiverPoint.filling.injEq]
    exact eq_comm
  | head => simp [ReceiverPoint.hand]
  | enqueued => simp [ReceiverPoint.hand]

theorem mem_places {seg : Addr} : seg ∈ s.places ↔
    seg ∈ s.sm.mFreeList ∨ seg ∈ s.sm.recvQueued ∨ s.loop = .filling seg := by
  simp only [places, Multiset.mem_add, Multiset.mem_coe, mem_hand]

theorem Inv.noLeak (h : Inv s) : NoLeak s := fun _ hseg => mem_places.mp (h.mem_iff.mp hseg)

/-- A segment that is at no place has leaked. -/
theorem not_noLeak {seg : Addr} (h : Accounted s.sm.allocated (seg ::ₘ s.places)) : ¬ NoLeak s := by
  obtain ⟨hlive, hplace⟩ := h.lost
  exact fun hall => hplace (mem_places.mpr (hall seg hlive))

/-- What `pop_free_segment` does: the segment that it returns is not at its place any more. -/
theorem Inv.pop (h : Inv s) {fresh seg : Addr} {sm : SegmentManager} {loop : ReceiverPoint}
    (hp : s.sm.popFreeSegment fresh = .ok (seg, sm)) (hhand : s.loop.hand = loop.hand) :
    Accounted sm.allocated (seg ::ₘ places { s with sm := sm, loop := loop }) := by
  obtain ⟨freeList, allocated, v, rfl, hkeep⟩ := SegmentManager.popFreeSegment_ok hp
  have ha : Accounted allocated (seg ::ₘ ((freeList : Multiset Addr) +
      (s.sm.recvQueued + s.loop.hand))) := hkeep Accounted.discipline h
  rwa [hhand] at ha

theorem inv_begin (h : Inv s) {fresh : Addr} (hs : s.step (.begin fresh) = .ok s') : Inv s' := by
  simp only [step] at hs
  split at hs
  · next hloop =>
    split at hs
    · cases hs
    · next seg sm hp =>
      obtain rfl := Except.ok.inj hs
      have hpop := h.pop hp (congrArg ReceiverPoint.hand hloop)
      refine hpop.congr ?_
      simp only [places, ReceiverPoint.hand, ← Multiset.singleton_add]
      abel
  · cases hs

/-- A frame that is enqueued. -/
theorem inv_accept (h : Inv s) {seg : Addr} {frame : Area segmentDataSize}
    (hloop : s.loop = .filling seg) (hack : (readHeader frame).isAck = false)
    (hs : s.accept seg frame = .ok s') : Inv s' := by
  unfold accept at hs
  rw [if_neg (by simp [hack])] at hs
  dsimp only at hs
  split at hs
  · cases hs
  · next sm he =>
    obtain rfl := Except.ok.inj hs
    have hqueued := (SegmentManager.enqueue_recv he).1
    obtain ⟨_, q, -, hsm⟩ := SegmentManager.enqueue_ok he
    have hkeep : sm.allocated = s.sm.allocated ∧ sm.mFreeList = s.sm.mFreeList := by
      rw [hsm]
      exact ⟨rfl, rfl⟩
    have hsame : SegmentManager.recvQueued { s.sm with
        heap := Function.update s.sm.heap seg (readHeader frame) } = s.sm.recvQueued := rfl
    rw [hsame] at hqueued
    unfold Inv places at h ⊢
    rw [hloop] at h
    dsimp only
    rw [hkeep.1, hkeep.2, hqueued]
    refine h.congr ?_
    simp only [ReceiverPoint.hand, ← Multiset.singleton_add]
    abel

/-- A pass that goes on or ends with the segment in hand. -/
theorem not_noLeak_of_dropped (h : Inv s) {seg : Addr} (hloop : s.loop = .filling seg) :
    ¬ NoLeak { s with loop := .head } := by
  have hlost : Accounted s.sm.allocated (seg ::ₘ places { s with loop := .head }) := by
    refine h.congr ?_
    simp only [places, hloop, ReceiverPoint.hand, ← Multiset.singleton_add]
    abel
  exact not_noLeak hlost

/-! ## A turn of a reader -/

/-- A call returns early from an empty message only. -/
theorem read_eq_null {reader : Reader} {seg : Segment} :
    (∃ pd, reader.read seg = .ok (.inr (pd, none))) ↔ reader = .first ∧ protLen seg = 0 := by
  cases reader with
  | first =>
    unfold Reader.read protLen
    constructor
    · rintro ⟨pd, h⟩
      dsimp only at h
      split at h
      · next hlen => exact ⟨rfl, hlen⟩
      · split at h
        · cases h
        · unfold Reader.next at h
          split at h <;> cases h
    · rintro ⟨-, hlen⟩
      exact ⟨_, if_pos hlen⟩
  | rest pd serialized offset =>
    refine iff_of_false ?_ (by simp)
    rintro ⟨pd', h⟩
    simp only [Reader.read] at h
    split at h
    · cases h
    · have hnext := Except.ok.inj h
      unfold Reader.next at hnext
      split at hnext <;> cases hnext

/-- `dequeue` takes the first segment of the queue. -/
theorem dequeue_head {sm : SegmentManager} {seg : Addr} {isControl : Bool}
    (h : s.sm.dequeue (if isControl then .kDeqRecvControl else .kDeqRecvData) = .ok (some seg, sm)) :
    (∃ rest, (s.sm.mSegmentQueues
        (if isControl then .kSQRecvControl else .kSQRecvData)).mMainQueue = seg :: rest) ∧
      sm.heap = s.sm.heap ∧ sm.allocated = s.sm.allocated ∧ sm.mFreeList = s.sm.mFreeList := by
  obtain ⟨queueType, q, ht, hq, rfl⟩ := SegmentManager.dequeue_ok h
  refine ⟨?_, rfl, rfl, rfl⟩
  have htype : (if isControl then SegQueueType.kSQRecvControl else .kSQRecvData) = queueType := by
    cases isControl <;> exact Option.some.inj ht
  obtain ⟨rest, hmain, -⟩ := SegmentQueue.dequeue_eq_ok.mp hq
  exact ⟨rest, htype ▸ hmain⟩

/-- A turn drops the segment of an empty message, and gives back every other one. -/
theorem read_ok {isControl : Bool} (h : s.read isControl = .ok s') : ∃ seg sm,
    s.sm.dequeue (if isControl then .kDeqRecvControl else .kDeqRecvData) = .ok (some seg, sm) ∧
      ((s.readers isControl = .first ∧ protLen (s.sm.heap seg) = 0 ∧
          s' = { s with sm := sm, readers := Function.update s.readers isControl .first }) ∨
        ¬ (s.readers isControl = .first ∧ protLen (s.sm.heap seg) = 0) ∧
          ∃ reader, s.release sm seg isControl reader = .ok s') := by
  unfold read at h
  by_cases hmain : (s.sm.mSegmentQueues
      (if isControl then .kSQRecvControl else .kSQRecvData)).mMainQueue = []
  · rw [if_pos hmain] at h
    cases h
  · rw [if_neg hmain] at h
    rcases hd : s.sm.dequeue (if isControl then .kDeqRecvControl else .kDeqRecvData) with
      e | ⟨_ | seg, sm⟩
    · rw [hd] at h
      cases h
    · rw [hd] at h
      cases h
    · rw [hd] at h
      refine ⟨seg, sm, rfl, ?_⟩
      rw [← (dequeue_head hd).2.1]
      have hnull := @read_eq_null (s.readers isControl) (sm.heap seg)
      dsimp only at h
      split at h
      · cases h
      · next reader hread =>
        refine .inr ⟨fun hempty => ?_, reader, h⟩
        obtain ⟨pd, hpd⟩ := hnull.mpr hempty
        cases hread.symm.trans hpd
      · next hread =>
        refine .inr ⟨fun hempty => ?_, _, h⟩
        obtain ⟨pd, hpd⟩ := hnull.mpr hempty
        cases hread.symm.trans hpd
      · next pd hread =>
        obtain ⟨hfirst, hlen⟩ := hnull.mp ⟨pd, hread⟩
        exact .inl ⟨hfirst, hlen, (Except.ok.inj h).symm⟩

/-- The segment in the reader's hand. -/
theorem Inv.dequeue (h : Inv s) {sm : SegmentManager} {seg : Addr} {isControl : Bool}
    (hd : s.sm.dequeue (if isControl then .kDeqRecvControl else .kDeqRecvData) = .ok (some seg, sm)) :
    Accounted sm.allocated (seg ::ₘ places { s with sm := sm }) := by
  obtain ⟨-, -, hallocated, hfree⟩ := dequeue_head hd
  unfold Inv places at h
  rw [(SegmentManager.dequeue_recv hd).1] at h
  rw [hallocated]
  refine h.congr ?_
  simp only [places, hfree, ← Multiset.singleton_add]
  abel

theorem inv_release (s : ReceivePath) {sm : SegmentManager} {seg : Addr} {isControl : Bool}
    {reader : Reader} (h : Accounted sm.allocated (seg ::ₘ places { s with sm := sm }))
    (hs : s.release sm seg isControl reader = .ok s') : Inv s' := by
  unfold release at hs
  split at hs
  · cases hs
  · next ha =>
    obtain rfl := Except.ok.inj hs
    obtain ⟨freeList, allocated, rfl, hkeep⟩ := SegmentManager.addFreeSegmentToList_ok ha
    exact hkeep Accounted.discipline h

/-! ## A run -/

theorem step_inv {l : Label} (h : Inv s) (hk : Kept s l) (hs : s.step l = .ok s') : Inv s' := by
  cases l with
  | begin fresh => exact inv_begin h hs
  | receive res frame =>
    obtain ⟨rfl, hack⟩ := hk
    simp only [step] at hs
    split at hs
    · next hloop => exact inv_accept h hloop hack hs
    · cases hs
  | finish fresh => exact absurd hk id
  | read isControl =>
    obtain ⟨seg, sm, hd, ⟨hfirst, hlen, -⟩ | ⟨-, reader, hrelease⟩⟩ := read_ok hs
    · obtain ⟨⟨rest, hmain⟩, -⟩ := dequeue_head hd
      exact absurd hlen (hk seg rest hmain hfirst)
    · exact inv_release s (h.dequeue hd) hrelease

theorem leaks_of_not_kept {l : Label} (h : Inv s) (hk : ¬ Kept s l) (hs : s.step l = .ok s') :
    ¬ NoLeak s' := by
  cases l with
  | begin fresh => exact absurd trivial hk
  | receive res frame =>
    simp only [step] at hs
    split at hs
    · next seg hloop =>
      cases res with
      | «continue» => exact Except.ok.inj hs ▸ not_noLeak_of_dropped h hloop
      | «break» => exact Except.ok.inj hs ▸ not_noLeak_of_dropped h hloop
      | ok =>
        have hack : (readHeader frame).isAck = true := by simpa [Kept] using hk
        dsimp only at hs
        rw [accept, if_pos hack] at hs
        exact Except.ok.inj hs ▸ not_noLeak_of_dropped h hloop
    · cases hs
  | finish fresh =>
    simp only [step] at hs
    split at hs
    · next hloop =>
      split at hs
      · cases hs
      · next seg sm hp =>
        obtain rfl := Except.ok.inj hs
        have hhand : s.loop.hand = ReceiverPoint.head.hand := by rw [hloop]; rfl
        exact not_noLeak (h.pop hp hhand)
    · cases hs
  | read isControl =>
    simp only [Kept] at hk
    push Not at hk
    obtain ⟨seg, rest, hmain, hfirst, hlen⟩ := hk
    obtain ⟨seg', sm, hd, ⟨-, -, rfl⟩ | ⟨hnot, -⟩⟩ := read_ok hs
    · have hlost := h.dequeue hd
      exact not_noLeak hlost
    · obtain ⟨⟨rest', hmain'⟩, -⟩ := dequeue_head hd
      obtain ⟨rfl, -⟩ := List.cons.inj (hmain.symm.trans hmain')
      exact absurd ⟨hfirst, hlen⟩ hnot

/-- **The receive path leaks.** In every state of a run each segment is accounted for, if and only if
the steps are all `Kept`. -/
theorem noLeak_iff (ls : List Label) :
    (∀ t, Runs.Reached step init ls t → NoLeak t) ↔ Runs.AllSteps step Kept init ls :=
  Runs.throughout_iff_allSteps (fun _ => Inv.noLeak) (fun _ _ _ => step_inv)
    (fun _ _ _ => leaks_of_not_kept) inv_init

/-- A frame is received, and nothing goes wrong: the segment popped at the end is nowhere. -/
theorem leak_of_pass : ∃ t, Runs.Reached step init
    [.begin 0, .receive .ok ReceiverLoop.oneByteFrame, .finish 1] t ∧ ¬ NoLeak t := by
  obtain ⟨t, hr, hview⟩ : ∃ t, Runs.run step init
      [.begin 0, .receive .ok ReceiverLoop.oneByteFrame, .finish 1] = .ok t ∧
        (t.sm.allocated, t.sm.mFreeList, (t.sm.mSegmentQueues .kSQRecvData).segments,
          (t.sm.mSegmentQueues .kSQRecvControl).segments, t.loop) = ([1, 0], [], [0], [], .head) :=
    Runs.exists_run_of_view (fun t : ReceivePath => (t.sm.allocated, t.sm.mFreeList,
      (t.sm.mSegmentQueues .kSQRecvData).segments, (t.sm.mSegmentQueues .kSQRecvControl).segments,
      t.loop)) (by decide +kernel)
  simp only [Prod.mk.injEq] at hview
  obtain ⟨hallocated, hfree, hdata, hcontrol, hloop⟩ := hview
  refine ⟨t, .of_run hr, fun hall => ?_⟩
  have hone := hall 1 (by simp [hallocated])
  simp [hfree, hloop, SegmentManager.recvQueued, hdata, hcontrol] at hone

end ReceivePath
end Linux
end VirtualConnection
