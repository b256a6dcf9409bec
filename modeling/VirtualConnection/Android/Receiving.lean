import VirtualConnection.Android.SegmentManager
import VirtualConnection.Linux.Segment

/-!
# Android.Receiving

What the Android side does with the frames of the peer: `receiverThreadLoop` puts them into the two
receive queues, and the queue watcher reports to the peer. A report acknowledges what has been
received in order (QueueStatus), or asks for what is missing (Retransmit).

The numbers of the peer are the bits of an `int`. `knows_enqueue` says what the expected number means,
whatever arrives in whatever order: all numbers below it have arrived.
-/

namespace VirtualConnection
namespace Android

open Bytes Linux

/-- `Segment.java`: the byte array. -/
abbrev Segment := Area segmentDataSize

namespace Segment

def getSeqNo (segment : Segment) : Int32 := (headerField segment 0).toInt32
def getFlag (segment : Segment) : UInt32 := headerField segment 8
def isControl (segment : Segment) : Bool := segment.getFlag &&& kSegFlagControl != 0
def isAck (segment : Segment) : Bool := segment.getFlag &&& kSegFlagAck != 0

def numType (segment : Segment) : SegSeqNumType := seqNumType segment.isControl

end Segment

inductive ControlMessage where
  | retransmit (segType : Int) (seqNoStart seqNoEnd : Int32)
  | queueStatus (lastSeqNoControl lastSeqNoData : Int32)
  deriving DecidableEq, Repr

/-- The receive queues, and the state of the queue watcher; `isLastChangeSet` says that
`mPrevLastChangeTS` is not null. -/
structure Receiver where
  queues : SegSeqNumType → Queue Segment
  mPrevLastSeqNoControl : Int32
  mPrevLastSeqNoData : Int32
  isLastChangeSet : Bool

/-- Loop of `__checkAndRequestRetransmitMissingSegment`: the gaps before the pending segments. -/
def missingSegments (nextSeqNo : Int32) : List Segment → List (Int32 × Int32)
  | [] => []
  | segment :: rest =>
    if segment.getSeqNo > nextSeqNo then
      (nextSeqNo, segment.getSeqNo - 1) :: missingSegments (segment.getSeqNo + 1) rest
    else if segment.getSeqNo = nextSeqNo then missingSegments (segment.getSeqNo + 1) rest
    else missingSegments nextSeqNo rest

namespace Receiver

def init : Receiver := ⟨fun _ => .empty, 0, 0, false⟩

/-- A pass of `receiverThreadLoop` with a whole frame. -/
def receive (r : Receiver) (segment : Segment) : Receiver :=
  if segment.isAck then r
  else
    { r with
      queues := Function.update r.queues segment.numType
        ((r.queues segment.numType).enqueue Segment.getSeqNo segment).2 }

def getLastSeqNo (r : Receiver) (t : SegSeqNumType) : Int32 := (r.queues t).mExpectedSeqNo - 1

/-- `__checkAndRequestRetransmitMissingSegment`. -/
def requestRetransmit (r : Receiver) (t : SegSeqNumType) : List ControlMessage :=
  (missingSegments (r.queues t).mExpectedSeqNo (r.queues t).mPendingQueue).map fun gap =>
    .retransmit (match t with | .kSNData => 0 | .kSNControl => 1) gap.1 gap.2

/-- `checkAndNotifyQueueStatus`. Whether the adapters are being switched, at its beginning and when
the message is sent, and whether nothing has changed for long enough is up to the arguments. -/
def checkAndNotifyQueueStatus (r : Receiver) (isSwitching isSwitchingAtSend isUnchanged : Bool) :
    List ControlMessage × Receiver :=
  if isSwitching then ([], r)
  else if r.getLastSeqNo .kSNControl < 0 ∨ r.getLastSeqNo .kSNData < 0 then ([], r)
  else if r.mPrevLastSeqNoControl ≠ r.getLastSeqNo .kSNControl ∨
      r.mPrevLastSeqNoData ≠ r.getLastSeqNo .kSNData then
    (if isSwitchingAtSend then [] else
        [.queueStatus (r.getLastSeqNo .kSNControl) (r.getLastSeqNo .kSNData)],
      { r with
        mPrevLastSeqNoControl := r.getLastSeqNo .kSNControl
        mPrevLastSeqNoData := r.getLastSeqNo .kSNData
        isLastChangeSet := true })
  else if r.isLastChangeSet ∧ isUnchanged then
    (r.requestRetransmit .kSNControl ++ r.requestRetransmit .kSNData, r)
  else ([], r)

def take (r : Receiver) (t : SegSeqNumType) : Receiver :=
  { r with queues := Function.update r.queues t (r.queues t).dequeue.2 }

/-- The expected number, as the peer counts. -/
def expected (r : Receiver) (t : SegSeqNumType) : ℕ := (r.queues t).mExpectedSeqNo.toUInt32.toNat

end Receiver

/-! ## The expected number -/

namespace Queue

variable {known : UInt32 → Prop} {q : Queue Segment} {segment : Segment}

/-- All numbers below the expected one are known, and so are those that wait. -/
structure Knows (known : UInt32 → Prop) (q : Queue Segment) : Prop where
  expected : ∀ n : UInt32, n < q.mExpectedSeqNo.toUInt32 → known n
  pending : ∀ x ∈ q.mPendingQueue, known x.getSeqNo.toUInt32

theorem knows_offerLast (hmax : ∀ n, known n → n.toNat + 1 < 2 ^ 32) (h : Knows known q)
    (hx : known segment.getSeqNo.toUInt32) (he : segment.getSeqNo = q.mExpectedSeqNo) :
    q.mExpectedSeqNo.toUInt32 ≤ (q.offerLast segment).mExpectedSeqNo.toUInt32 ∧
      Knows known (q.offerLast segment) := by
  rw [he] at hx
  have hlt := hmax _ hx
  have hone : (q.offerLast segment).mExpectedSeqNo.toUInt32.toNat =
      q.mExpectedSeqNo.toUInt32.toNat + 1 := by
    show (q.mExpectedSeqNo.toUInt32 + 1).toNat = _
    rw [UInt32.toNat_add]
    exact Nat.mod_eq_of_lt hlt
  refine ⟨UInt32.le_iff_toNat_le.mpr (by omega), fun n hn => ?_, h.pending⟩
  have hn' := UInt32.lt_iff_toNat_lt.mp hn
  by_cases hnlt : n < q.mExpectedSeqNo.toUInt32
  · exact h.expected n hnlt
  · have hge := UInt32.le_iff_toNat_le.mp (UInt32.not_lt.mp hnlt)
    have hneq : n = q.mExpectedSeqNo.toUInt32 := UInt32.toNat_inj.mp (by omega)
    rw [hneq]
    exact hx

theorem knows_drainPending (hmax : ∀ n, known n → n.toNat + 1 < 2 ^ 32) (pending : List Segment) :
    ∀ (b : Bool) (q : Queue Segment), Knows known q →
      (∀ x ∈ pending, known x.getSeqNo.toUInt32) →
      q.mExpectedSeqNo.toUInt32 ≤
          (drainPending Segment.getSeqNo b q pending).2.mExpectedSeqNo.toUInt32 ∧
        Knows known (drainPending Segment.getSeqNo b q pending).2 := by
  induction pending with
  | nil =>
    intro b q h _
    exact ⟨UInt32.le_refl _, h.expected, by simp [drainPending]⟩
  | cons walker rest ih =>
    intro b q h hp
    have hrest : ∀ x ∈ rest, known x.getSeqNo.toUInt32 := fun x hx => hp x (by simp [hx])
    unfold drainPending
    split
    · exact ih b q h hrest
    · next hle =>
      split
      · exact ⟨UInt32.le_refl _, h.expected, hp⟩
      · next hge =>
        have he : walker.getSeqNo = q.mExpectedSeqNo :=
          Int32.le_antisymm (Int32.not_lt.mp hge) (Int32.not_lt.mp hle)
        obtain ⟨hmono, hoffer⟩ := knows_offerLast hmax h (hp walker (by simp)) he
        obtain ⟨hmono', hdrain⟩ := ih true (q.offerLast walker) hoffer hrest
        exact ⟨UInt32.le_trans hmono hmono', hdrain⟩

theorem knows_insertPending {pending : List Segment} (hx : known segment.getSeqNo.toUInt32)
    (hp : ∀ x ∈ pending, known x.getSeqNo.toUInt32) :
    ∀ x ∈ insertPending Segment.getSeqNo segment pending, known x.getSeqNo.toUInt32 := by
  intro x hmem
  rcases List.mem_cons.mp ((insertPending_perm segment _).mem_iff.mp hmem) with rfl | hmem
  · exact hx
  · exact hp x hmem

/-- **The expected number only grows, and only over numbers that have arrived.** -/
theorem knows_enqueue (hmax : ∀ n, known n → n.toNat + 1 < 2 ^ 32) (h : Knows known q)
    (hx : known segment.getSeqNo.toUInt32) :
    q.mExpectedSeqNo.toUInt32 ≤ (q.enqueue Segment.getSeqNo segment).2.mExpectedSeqNo.toUInt32 ∧
      Knows known (q.enqueue Segment.getSeqNo segment).2 := by
  unfold enqueue
  split
  · next he =>
    obtain ⟨hmono, hoffer⟩ := knows_offerLast hmax h hx he
    obtain ⟨hmono', hdrain⟩ := knows_drainPending hmax _ true _ hoffer h.pending
    exact ⟨UInt32.le_trans hmono hmono', hdrain⟩
  · split
    · exact ⟨UInt32.le_refl _, h⟩
    · exact knows_drainPending hmax _ false q h (knows_insertPending hx h.pending)

theorem dequeue_knows (h : Knows known q) : Knows known q.dequeue.2 ∧
    q.dequeue.2.mExpectedSeqNo = q.mExpectedSeqNo := by
  unfold dequeue
  split
  · exact ⟨h, rfl⟩
  · exact ⟨⟨h.expected, h.pending⟩, rfl⟩

end Queue

namespace Receiver

variable {known : SegSeqNumType → UInt32 → Prop} {r : Receiver} {segment : Segment}

def Knows (known : SegSeqNumType → UInt32 → Prop) (r : Receiver) : Prop :=
  ∀ t, (r.queues t).Knows (known t)

theorem knows_init : Knows known init :=
  fun _ => ⟨fun _ hn => absurd hn (UInt32.not_lt.mpr UInt32.zero_le), by simp [init, Queue.empty]⟩

theorem Knows.mono {known' : SegSeqNumType → UInt32 → Prop} (h : Knows known r)
    (hk : ∀ t n, known t n → known' t n) : Knows known' r :=
  fun t => ⟨fun n hn => hk t n ((h t).expected n hn), fun x hx => hk t _ ((h t).pending x hx)⟩

theorem knows_receive (hmax : ∀ t n, known t n → n.toNat + 1 < 2 ^ 32) (h : Knows known r)
    (hx : known segment.numType segment.getSeqNo.toUInt32) :
    Knows known (r.receive segment) ∧ ∀ t, r.expected t ≤ (r.receive segment).expected t := by
  unfold receive
  split
  · exact ⟨h, fun t => Nat.le_refl _⟩
  · obtain ⟨hmono, hknows⟩ := Queue.knows_enqueue (hmax segment.numType) (h segment.numType) hx
    refine ⟨fun t => ?_, fun t => ?_⟩
    · by_cases ht : t = segment.numType
      · subst ht
        simpa using hknows
      · simpa [Function.update_of_ne ht] using h t
    · by_cases ht : t = segment.numType
      · subst ht
        simpa [expected] using UInt32.le_iff_toNat_le.mp hmono
      · simp [expected, Function.update_of_ne ht]

theorem knows_take (h : Knows known r) (t : SegSeqNumType) :
    Knows known (r.take t) ∧ ∀ t', (r.take t).expected t' = r.expected t' := by
  obtain ⟨hknows, he⟩ := Queue.dequeue_knows (h t)
  refine ⟨fun t' => ?_, fun t' => ?_⟩
  · by_cases ht : t' = t
    · subst ht
      simpa [take] using hknows
    · simpa [take, Function.update_of_ne ht] using h t'
  · by_cases ht : t' = t
    · subst ht
      simp [expected, take, he]
    · simp [expected, take, Function.update_of_ne ht]

theorem check_queues (isSwitching isSwitchingAtSend isUnchanged : Bool) :
    (r.checkAndNotifyQueueStatus isSwitching isSwitchingAtSend isUnchanged).2.queues =
      r.queues := by
  unfold checkAndNotifyQueueStatus
  split_ifs <;> rfl

theorem getLastSeqNo_lt {t : SegSeqNumType} (h : ¬ r.getLastSeqNo t < 0) :
    (r.getLastSeqNo t).toUInt32.toNat < r.expected t := by
  have hne : (r.queues t).mExpectedSeqNo.toUInt32 ≠ 0 := by
    intro h0
    have he : (r.queues t).mExpectedSeqNo = 0 := congrArg UInt32.toInt32 h0
    rw [getLastSeqNo, he] at h
    exact h (by decide)
  have hpos : 1 ≤ (r.queues t).mExpectedSeqNo.toUInt32 := by
    have h0 : (r.queues t).mExpectedSeqNo.toUInt32.toNat ≠ 0 :=
      fun he => hne (UInt32.toNat_inj.mp he)
    exact UInt32.le_iff_toNat_le.mpr (Nat.one_le_iff_ne_zero.mpr h0)
  have hsub : (r.getLastSeqNo t).toUInt32 = (r.queues t).mExpectedSeqNo.toUInt32 - 1 := rfl
  have hle := UInt32.le_iff_toNat_le.mp hpos
  rw [hsub, UInt32.toNat_sub_of_le _ _ hpos, expected]
  have hone : (1 : UInt32).toNat = 1 := rfl
  omega

/-- **A QueueStatus acknowledges only what has been received in order.** -/
theorem queueStatus_lt {isSwitching isSwitchingAtSend isUnchanged : Bool} {control data : Int32}
    (h : .queueStatus control data ∈
      (r.checkAndNotifyQueueStatus isSwitching isSwitchingAtSend isUnchanged).1) :
    control.toUInt32.toNat < r.expected .kSNControl ∧
      data.toUInt32.toNat < r.expected .kSNData := by
  unfold checkAndNotifyQueueStatus at h
  split_ifs at h with hs hneg hnew hsend hold
  · simp at h
  · simp at h
  · simp at h
  · simp only [List.mem_singleton, ControlMessage.queueStatus.injEq] at h
    obtain ⟨rfl, rfl⟩ := h
    obtain ⟨hc, hd⟩ := not_or.mp hneg
    exact ⟨getLastSeqNo_lt hc, getLastSeqNo_lt hd⟩
  · simp [requestRetransmit] at h
  · simp at h

end Receiver
end Android
end VirtualConnection
