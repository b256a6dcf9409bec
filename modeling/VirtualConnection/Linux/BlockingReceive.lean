import VirtualConnection.Linux.ProtocolManager
import VirtualConnection.Linux.SegmentQueue

/-!
# Linux.BlockingReceive

`recv_from_segment_manager` against its condition variable. `dequeue` looks at the length of its queue
once, waits at most once, and takes the front of the queue, whatever has ended the wait: a segment that
has come in, a segment that another consumer has taken since, or nothing at all.

`Receivers` are the queues and the consumers of a process whose waits only end with a segment there;
`BlockingReceive` are the same consumers with waits that end at any time, and with the history of what
they did to the queues.

`sound_iff`: no front of an empty queue is taken, and every message is the one of the patient process,
exactly in the runs whose waits end with a segment there.
-/

namespace VirtualConnection
namespace Linux

/-! ## A call, segment by segment -/

/-- A call of `recv_from_segment_manager` before it dequeues its next segment. -/
inductive Reader where
  | first
  | rest (pd : ProtocolData) (serialized : List UInt8) (offset : UInt16)

/-- What a call returns: the header, and the buffer or `NULL`. -/
abbrev Received := ProtocolData × Option (List UInt8)

namespace Reader

/-- `cont` decides whether the call goes on. -/
def next (cont : Bool) (pd : ProtocolData) (serialized : List UInt8) (offset : UInt16) :
    Reader ⊕ Received :=
  if cont then .inl (.rest pd serialized offset) else .inr (pd, some serialized)

/-- What the call makes of a segment. -/
def read : Reader → Segment → Except Stop (Reader ⊕ Received)
  | .first, seg =>
    let pd := parseHeader (seg.data.1.drop kSegHeaderSize)
    if pd.len = 0 then .ok (.inr (pd, none))
    else
      let dataSize := (seg.len - UInt32.ofNat kProtHeaderSize).toNat
      match copyPayload seg kProtHeaderSize dataSize (List.replicate pd.len.toNat 0) 0 with
      | .error e => .error e
      | .ok serialized => .ok (next seg.isMF pd serialized (UInt16.ofNat dataSize))
  | .rest pd serialized offset, seg =>
    match copyPayload seg 0 seg.len.toNat serialized offset with
    | .error e => .error e
    | .ok serialized => .ok (next seg.isMF pd serialized (offset + UInt16.ofNat seg.len.toNat))

/-- The call on what `dequeue` returns: a `NULL` is asked for again at first, and used later on. -/
def run : Reader → List (Option Segment) →
    Except Stop (ProtocolData × Option (List UInt8) × List (Option Segment))
  | _, [] => .error .waiting
  | .first, none :: queue => run .first queue
  | .rest .., none :: _ => .error (.fault .nullPointer)
  | reader, some seg :: queue =>
    match reader.read seg with
    | .error e => .error e
    | .ok (.inl reader) => run reader queue
    | .ok (.inr (pd, buf)) => .ok (pd, buf, queue)

theorem run_rest (pd : ProtocolData) (queue : List (Option Segment)) :
    ∀ (serialized : List UInt8) (offset : UInt16), run (.rest pd serialized offset) queue =
      match recvRest true serialized offset queue with
      | .error e => .error e
      | .ok (serialized, queue) => .ok (pd, some serialized, queue) := by
  induction queue with
  | nil => exact fun _ _ => rfl
  | cons head queue ih =>
    intro serialized offset
    cases head with
    | none => rfl
    | some seg =>
      simp only [run, read, recvRest]
      cases copyPayload seg 0 seg.len.toNat serialized offset with
      | error e => rfl
      | ok serialized =>
        cases hmf : seg.isMF with
        | true => simp [next, ih]
        | false => simp [next, recvRest]

/-- The calls of `Linux.ProtocolManager`, one segment after the other. -/
theorem recvFromSegmentManager_eq_run (queue : List (Option Segment)) :
    recvFromSegmentManager queue = run .first queue := by
  induction queue with
  | nil => rfl
  | cons head queue ih =>
    cases head with
    | none => exact ih
    | some seg =>
      simp only [run, read, recvFromSegmentManager, recvFirst]
      split
      · rfl
      · cases copyPayload seg kProtHeaderSize (seg.len - UInt32.ofNat kProtHeaderSize).toNat
            (List.replicate (parseHeader (seg.data.1.drop kSegHeaderSize)).len.toNat 0) 0 with
        | error e => rfl
        | ok serialized =>
          cases hmf : seg.isMF with
          | true =>
            simp only [next, if_true]
            exact (run_rest _ queue serialized _).symm
          | false => simp [next, recvRest]

end Reader

/-! ## Waits that end with a segment there -/

/-- `calls` are the calls under way, each with the kind of its queue. Nothing more happens once the
front of an empty queue has been taken. -/
structure Receivers where
  queues : Bool → SegmentQueue Segment
  calls : ℕ → Option (Bool × Reader)
  received : ℕ → List Received
  isBroken : Bool

namespace Receivers

inductive Label where
  | enqueue (isControl : Bool) (seg : Segment)
  | call (consumer : ℕ) (isControl : Bool)
  /-- `dequeue`, and what the call does with the segment. -/
  | take (consumer : ℕ)

def init : Receivers := ⟨fun _ => .empty, fun _ => none, fun _ => [], false⟩

def enqueue (s : Receivers) (isControl : Bool) (seg : Segment) : Except Stop Receivers :=
  match (s.queues isControl).enqueue Segment.seqNo seg with
  | .error f => .error (.fault f)
  | .ok (_, q) => .ok { s with queues := Function.update s.queues isControl q }

def call (s : Receivers) (consumer : ℕ) (isControl : Bool) : Except Stop Receivers :=
  match s.calls consumer with
  | some _ => .error .waiting
  | none => .ok { s with calls := Function.update s.calls consumer (some (isControl, .first)) }

/-- The rest of `dequeue` after the wait, and what the call does with the segment. -/
def take (s : Receivers) (consumer : ℕ) : Except Stop Receivers :=
  match s.calls consumer with
  | none => .error .waiting
  | some (isControl, reader) =>
    match (s.queues isControl).dequeue with
    | .error _ => .ok { s with isBroken := true }
    | .ok (seg, q) =>
      match reader.read seg with
      | .error e => .error e
      | .ok (.inl reader) =>
        .ok { s with
          queues := Function.update s.queues isControl q
          calls := Function.update s.calls consumer (some (isControl, reader)) }
      | .ok (.inr received) =>
        .ok { s with
          queues := Function.update s.queues isControl q
          calls := Function.update s.calls consumer none
          received := Function.update s.received consumer (s.received consumer ++ [received]) }

/-- There is a segment for the consumer. -/
def isReady (s : Receivers) (consumer : ℕ) : Bool :=
  match s.calls consumer with
  | none => false
  | some (isControl, _) => !(s.queues isControl).mMainQueue.isEmpty

def step (s : Receivers) : Label → Except Stop Receivers
  | .enqueue isControl seg => s.enqueue isControl seg
  | .call consumer isControl => s.call consumer isControl
  | .take consumer => if s.isReady consumer then s.take consumer else .error .waiting

end Receivers

/-! ## Waits that end at any time -/

/-- `waiting` are the consumers in `wait_for_dequeue_locked`; `history` is what has been done to the
queues, for comparison. -/
structure BlockingReceive where
  receivers : Receivers
  waiting : ℕ → Bool
  history : List Receivers.Label

namespace BlockingReceive

inductive Label where
  | enqueue (isControl : Bool) (seg : Segment)
  | call (consumer : ℕ) (isControl : Bool)
  /-- `dequeue` up to its wait, or to its end. -/
  | dequeue (consumer : ℕ)
  /-- The wait returns, notified or not. -/
  | wakes (consumer : ℕ)

def init : BlockingReceive := ⟨.init, fun _ => false, []⟩

variable (s : BlockingReceive)

/-- `is_wait_required`, for the queue of the consumer's call. -/
def isWaitRequired (consumer : ℕ) : Bool :=
  match s.receivers.calls consumer with
  | none => false
  | some (isControl, _) => (s.receivers.queues isControl).getQueueLength = 0

/-- The consumer is not waiting, and this has come of what it did. -/
def after (consumer : ℕ) (act : Receivers.Label) (receivers : Except Stop Receivers) :
    Except Stop BlockingReceive :=
  match receivers with
  | .error e => .error e
  | .ok receivers =>
    .ok { receivers := receivers
          waiting := Function.update s.waiting consumer false
          history := s.history ++ [act] }

def step (s : BlockingReceive) (l : Label) : Except Stop BlockingReceive :=
  if s.receivers.isBroken then .error .waiting
  else
    match l with
    | .enqueue isControl seg =>
      match s.receivers.enqueue isControl seg with
      | .error e => .error e
      | .ok receivers =>
        .ok { s with receivers := receivers, history := s.history ++ [.enqueue isControl seg] }
    | .call consumer isControl =>
      s.after consumer (.call consumer isControl) (s.receivers.call consumer isControl)
    | .dequeue consumer =>
      if s.waiting consumer then .error .waiting
      else if s.isWaitRequired consumer then
        .ok { s with waiting := Function.update s.waiting consumer true }
      else s.after consumer (.take consumer) (s.receivers.take consumer)
    | .wakes consumer =>
      if s.waiting consumer then s.after consumer (.take consumer) (s.receivers.take consumer)
      else .error .waiting

/-! ## What is claimed, and when it holds -/

/-- No front of an empty queue has been taken, and the queues, the calls and the messages are those of
the patient process. -/
structure Sound (s : BlockingReceive) : Prop where
  intact : s.receivers.isBroken = false
  patient : Runs.run Receivers.step .init s.history = .ok s.receivers

/-- A wait ends when there is a segment. -/
def Careful (s : BlockingReceive) : Label → Prop
  | .wakes consumer => s.receivers.isReady consumer = true
  | _ => True

/-! ## One step -/

end BlockingReceive

namespace Receivers

variable {s s' : Receivers} {consumer : ℕ}

/-- The counters of the queues are right. -/
def Counted (s : Receivers) : Prop := ∀ isControl, (s.queues isControl).Counted

theorem counted_update {isControl : Bool} {q : SegmentQueue Segment} (h : s.Counted)
    (hq : q.Counted) : ∀ k, (Function.update s.queues isControl q k).Counted := by
  intro k
  by_cases hk : k = isControl
  · subst hk
    rwa [Function.update_self]
  · rw [Function.update_of_ne hk]
    exact h k

theorem enqueue_ok {isControl : Bool} {seg : Segment} (h : s.Counted)
    (hs : s.enqueue isControl seg = .ok s') : s'.Counted ∧ s'.isBroken = s.isBroken := by
  unfold enqueue at hs
  split at hs
  · cases hs
  · next hq =>
    obtain rfl := Except.ok.inj hs
    exact ⟨counted_update h (SegmentQueue.enqueue_counted (h isControl) hq).1, rfl⟩

theorem call_ok {isControl : Bool} (h : s.Counted) (hs : s.call consumer isControl = .ok s') :
    s'.Counted ∧ s'.isBroken = s.isBroken := by
  unfold call at hs
  split at hs
  · cases hs
  · obtain rfl := Except.ok.inj hs
    exact ⟨h, rfl⟩

theorem take_ok (h : s.Counted) (hs : s.take consumer = .ok s') (hready : s.isReady consumer = true) :
    s'.Counted ∧ s'.isBroken = s.isBroken := by
  unfold take at hs
  unfold isReady at hready
  cases hc : s.calls consumer with
  | none => simp [hc] at hready
  | some c =>
    obtain ⟨isControl, reader⟩ := c
    simp only [hc] at hs hready
    cases hm : (s.queues isControl).mMainQueue with
    | nil => simp [hm] at hready
    | cons seg rest =>
      obtain ⟨q, hq⟩ : ∃ q, (s.queues isControl).dequeue = .ok (seg, q) :=
        ⟨_, SegmentQueue.dequeue_eq_ok.mpr ⟨rest, hm, rfl⟩⟩
      have hcounted : ∀ k, (Function.update s.queues isControl q k).Counted :=
        counted_update h (SegmentQueue.dequeue_counted (h isControl) hq)
      rw [hq] at hs
      dsimp only at hs
      split at hs
      · cases hs
      · obtain rfl := Except.ok.inj hs
        exact ⟨hcounted, rfl⟩
      · obtain rfl := Except.ok.inj hs
        exact ⟨hcounted, rfl⟩

/-- Without a segment there, the front of an empty queue is taken. -/
theorem take_broken (hs : s.take consumer = .ok s') (hready : s.isReady consumer = false) :
    s'.isBroken = true := by
  unfold take at hs
  unfold isReady at hready
  cases hc : s.calls consumer with
  | none => simp [hc] at hs
  | some c =>
    simp only [hc] at hs hready
    have hempty : (s.queues c.1).mMainQueue = [] := by simpa using hready
    simp only [SegmentQueue.dequeue, hempty] at hs
    exact Except.ok.inj hs ▸ rfl

end Receivers

namespace BlockingReceive

variable {s s' : BlockingReceive} {consumer : ℕ}

structure Inv (s : BlockingReceive) : Prop extends Sound s where
  counted : s.receivers.Counted

theorem inv_init : Inv init := ⟨⟨rfl, rfl⟩, fun _ => rfl⟩

/-- A queue with a length is not empty. -/
theorem Inv.isReady (h : Inv s) (hcall : s.receivers.calls consumer ≠ none)
    (hwait : s.isWaitRequired consumer = false) : s.receivers.isReady consumer = true := by
  unfold isWaitRequired at hwait
  unfold Receivers.isReady
  cases hc : s.receivers.calls consumer with
  | none => exact absurd hc hcall
  | some c =>
    simp only [hc, decide_eq_false_iff_not] at hwait ⊢
    cases hm : (s.receivers.queues c.1).mMainQueue with
    | nil =>
      have hcounted := h.counted c.1
      unfold SegmentQueue.Counted at hcounted
      rw [SegmentQueue.getQueueLength, hcounted, hm] at hwait
      exact absurd rfl hwait
    | cons seg rest => rfl

/-- What the patient process does as well. -/
theorem Inv.extend (h : Inv s) {act : Receivers.Label} {receivers : Receivers} {waiting : ℕ → Bool}
    (hstep : s.receivers.step act = .ok receivers)
    (hok : receivers.Counted ∧ receivers.isBroken = s.receivers.isBroken) :
    Inv ⟨receivers, waiting, s.history ++ [act]⟩ where
  intact := hok.2.trans h.intact
  patient := Runs.run_snoc.mpr ⟨s.receivers, h.patient, hstep⟩
  counted := hok.1

theorem after_ok {act : Receivers.Label} {receivers : Except Stop Receivers}
    (hs : s.after consumer act receivers = .ok s') : ∃ r, receivers = .ok r ∧
      s' = ⟨r, Function.update s.waiting consumer false, s.history ++ [act]⟩ := by
  unfold after at hs
  split at hs
  · cases hs
  · next r => exact ⟨r, rfl, (Except.ok.inj hs).symm⟩

theorem Inv.take (h : Inv s) (hready : s.receivers.isReady consumer = true)
    (hs : s.after consumer (.take consumer) (s.receivers.take consumer) = .ok s') : Inv s' := by
  obtain ⟨r, hr, rfl⟩ := after_ok hs
  refine h.extend ?_ (Receivers.take_ok h.counted hr hready)
  rw [Receivers.step, if_pos hready]
  exact hr

theorem step_inv {l : Label} (h : Inv s) (hc : Careful s l) (hs : s.step l = .ok s') : Inv s' := by
  unfold step at hs
  rw [if_neg (by simp [h.intact])] at hs
  cases l with
  | enqueue isControl seg =>
    dsimp only at hs
    split at hs
    · cases hs
    · next hr =>
      obtain rfl := Except.ok.inj hs
      exact h.extend hr (Receivers.enqueue_ok h.counted hr)
  | call consumer isControl =>
    obtain ⟨r, hr, rfl⟩ := after_ok hs
    exact h.extend hr (Receivers.call_ok h.counted hr)
  | dequeue consumer =>
    dsimp only at hs
    split at hs
    · cases hs
    · split at hs
      · obtain rfl := Except.ok.inj hs
        exact ⟨⟨h.intact, h.patient⟩, h.counted⟩
      · next hwait =>
        have hcall : s.receivers.calls consumer ≠ none := by
          intro hnone
          obtain ⟨r, hr, -⟩ := after_ok hs
          simp [Receivers.take, hnone] at hr
        exact h.take (h.isReady hcall (by simpa using hwait)) hs
  | wakes consumer =>
    dsimp only at hs
    split at hs
    · exact h.take hc hs
    · cases hs

theorem unsound_of_not_careful {l : Label} (hc : ¬ Careful s l) (hs : s.step l = .ok s') :
    ¬ Sound s' := by
  cases l with
  | wakes consumer =>
    intro hsound
    simp only [step] at hs
    split at hs
    · cases hs
    · split at hs
      · obtain ⟨r, hr, rfl⟩ := after_ok hs
        have hbroken := Receivers.take_broken hr (by simpa [Careful] using hc)
        exact Bool.false_ne_true (hsound.intact.symm.trans hbroken)
      · cases hs
  | enqueue isControl seg => exact absurd trivial hc
  | call consumer isControl => exact absurd trivial hc
  | dequeue consumer => exact absurd trivial hc

/-- **Wake-ups.** A process tolerates its wake-ups, in every state of a run, exactly when each wait ends
with a segment there. -/
theorem sound_iff (ls : List Label) :
    (∀ t, Runs.Reached step init ls t → Sound t) ↔ Runs.AllSteps step Careful init ls :=
  Runs.throughout_iff_allSteps (fun _ h => h.toSound) (fun _ _ _ => step_inv)
    (fun _ _ _ _ => unsound_of_not_careful) inv_init

/-- The first wait ends by itself. -/
theorem spurious_wake_up :
    ∃ t, Runs.Reached step init [.call 0 false, .dequeue 0, .wakes 0] t ∧ ¬ Sound t := by
  refine ⟨_, .of_run rfl, fun hsound => ?_⟩
  exact Bool.false_ne_true hsound.intact.symm

end BlockingReceive
end Linux
end VirtualConnection
