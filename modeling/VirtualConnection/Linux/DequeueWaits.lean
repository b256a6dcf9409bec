import VirtualConnection.Linux.SleepCycle
import VirtualConnection.Linux.Traffic

/-!
# Linux.DequeueWaits

Sender threads that wait for work. `Linux.Traffic` has what each thread does under one lock; here the
sender threads also have their place in `sender_loop`, and `SegmentManager::dequeue` is taken apart:
the failed list is looked at under its own lock, the two send queues under `mDequeueLock`, and
`mDequeueCond` blocks a thread until it is notified (or wakes up by itself). `enqueue` notifies when a
segment came into the main queue, `wake_up_dequeue_waiting` at any time; `add_failed_segment_to_list`
never does.

The adapters' states and the flags of the loops are changed by other threads at any time.

`segments_not_stranded_iff`: no blocked thread that could serve has work waiting for it, exactly in
the runs whose steps are all `Attended`.
-/

namespace VirtualConnection
namespace Linux

/-- Where a sender thread is between `pop_failed_segment` and the end of `dequeue`. -/
inductive DequeuePoint where
  /-- Not there, or before `pop_failed_segment`. -/
  | outside
  /-- `pop_failed_segment` has found nothing. -/
  | looked
  /-- Blocked in `wait_for_dequeue_locked`. -/
  | waiting
  /-- A notification is pending. -/
  | notified
  deriving DecidableEq, Repr

/-- The labels of `Traffic` that belong to a sender thread. -/
def Traffic.Label.isSender : Traffic.Label → Bool
  | .takeFailed _ | .takeQueued _ | .transmit .. | .refuse _ | .file _ => true
  | _ => false

/-- What other threads change about a sender thread. -/
inductive SenderChange where
  | state (newState : ServerAdapterState)
  | loopEnabled (isLoopEnabled : Bool)
  | loopPaused (isLoopPaused : Bool)

def SenderChange.apply (thread : SenderThread) : SenderChange → SenderThread
  | .state newState => { thread with mState := newState }
  | .loopEnabled isLoopEnabled => { thread with isLoopEnabled := isLoopEnabled }
  | .loopPaused isLoopPaused => { thread with isLoopPaused := isLoopPaused }

/-- `continuous_segment_enqueued` in the turn of call number `i`. -/
def Traffic.continuousSegmentEnqueued (s : Traffic) (i : ℕ) : Bool :=
  match s.calls[i]? with
  | some ⟨call, _, some seg⟩ =>
    let sm := { s.sm with
      heap := Function.update s.sm.heap seg (call.writeSegment (s.sm.heap seg)) }
    match (sm.mSegmentQueues (sendQueueType call.numType)).enqueue sm.seqNo seg with
    | .ok (continuous, _) => continuous
    | .error _ => false
  | _ => false

structure DequeueWaits where
  traffic : Traffic
  threads : ℕ → SenderThread
  dequeues : ℕ → DequeuePoint

namespace DequeueWaits

inductive Label where
  /-- Callers, receiver threads and control messages of the peer. -/
  | other (l : Traffic.Label)
  | change (adapter : ℕ) (c : SenderChange)
  /-- `wake_up_dequeue_waiting` -/
  | wakeUpDequeueWaiting
  /-- A step of `sender_loop` outside of the calls below. -/
  | loop (adapter : ℕ)
  /-- `wait_until_enable_loop` or `wait_until_resume_loop` returns. -/
  | loopWakes (adapter : ℕ)
  | popFailed (adapter : ℕ)
  /-- `dequeue` takes its lock. -/
  | dequeue (adapter : ℕ)
  /-- The wait in `dequeue` returns. -/
  | dequeueWakes (adapter : ℕ)
  /-- The loop is found paused with a segment in hand. -/
  | putAside (adapter k : ℕ)
  /-- `ServerAdapter::send` does not come to the socket. -/
  | refuse (adapter k : ℕ) (isLeft : Bool)
  | transmit (adapter k : ℕ) (sec usec : UInt32) (result : SendResult)
  | file (adapter k : ℕ) (isLeft : Bool)

variable (s : DequeueWaits)

def sendQueue (t : SegSeqNumType) : SegmentQueue Addr :=
  s.traffic.sm.mSegmentQueues (sendQueueType t)

def isWaitRequired : Bool :=
  (s.sendQueue .kSNControl).getQueueLength = 0 ∧ (s.sendQueue .kSNData).getQueueLength = 0

def moveTo (traffic : Traffic) (adapter : ℕ) (sender : SenderPoint) (point : DequeuePoint) :
    DequeueWaits where
  traffic := traffic
  threads := Function.update s.threads adapter { s.threads adapter with sender := sender }
  dequeues := Function.update s.dequeues adapter point

def withThread (adapter : ℕ) (thread : SenderThread) : DequeueWaits :=
  { s with threads := Function.update s.threads adapter thread }

def notifyAll : DequeueWaits :=
  { s with
    dequeues := fun adapter =>
      if s.dequeues adapter = .waiting then .notified else s.dequeues adapter }

/-- Work on the segment manager, and what follows for the thread. -/
def after (work : Except Stop Traffic) (adapter : ℕ) (sender : SenderPoint) :
    Except Stop DequeueWaits :=
  match work with
  | .ok traffic => .ok (s.moveTo traffic adapter sender .outside)
  | .error e => .error e

/-- The rest of `dequeue`, which may return no segment. -/
def dequeueLocked (adapter : ℕ) : Except Stop DequeueWaits :=
  if s.isWaitRequired then .ok (s.moveTo s.traffic adapter .check .outside)
  else s.after (s.traffic.takeQueued adapter) adapter .repause

def hasPass (adapter k : ℕ) : Bool :=
  (s.traffic.senders[k]?.map Pass.adapter) = some adapter

def step (s : DequeueWaits) : Label → Except Stop DequeueWaits
  | .other l =>
    if l.isSender then .error .waiting
    else
      match s.traffic.step l with
      | .error e => .error e
      | .ok traffic =>
        match l with
        | .push i =>
          if s.traffic.continuousSegmentEnqueued i then .ok { s with traffic := traffic }.notifyAll
          else .ok { s with traffic := traffic }
        | _ => .ok { s with traffic := traffic }
  | .change adapter c => .ok (s.withThread adapter (c.apply (s.threads adapter)))
  | .wakeUpDequeueWaiting => .ok s.notifyAll
  | .loop adapter =>
    if (s.threads adapter).sender = .repause ∧ (s.threads adapter).isLoopPaused then
      .error .waiting
    else
      match (s.threads adapter).step with
      | .ok thread => .ok (s.withThread adapter thread)
      | .error _ => .error .waiting
  | .loopWakes adapter =>
    match (s.threads adapter).wake with
    | .ok thread => .ok (s.withThread adapter thread)
    | .error _ => .error .waiting
  | .popFailed adapter =>
    if (s.threads adapter).sender = .dequeue ∧ s.dequeues adapter = .outside then
      if s.traffic.sm.mFailedSegmentList = [] then
        .ok (s.moveTo s.traffic adapter .dequeue .looked)
      else s.after (s.traffic.takeFailed adapter) adapter .repause
    else .error .waiting
  | .dequeue adapter =>
    if s.dequeues adapter = .looked then
      if s.isWaitRequired then .ok (s.moveTo s.traffic adapter .dequeue .waiting)
      else s.dequeueLocked adapter
    else .error .waiting
  | .dequeueWakes adapter =>
    if s.dequeues adapter = .waiting ∨ s.dequeues adapter = .notified then s.dequeueLocked adapter
    else .error .waiting
  | .putAside adapter k =>
    if (s.threads adapter).sender = .repause ∧ (s.threads adapter).isLoopPaused ∧
        s.hasPass adapter k then s.after (s.traffic.refuse k) adapter .check
    else .error .waiting
  | .refuse adapter k isLeft =>
    if ((s.threads adapter).sender = .refused ∨ (s.threads adapter).sender = .sending) ∧
        s.hasPass adapter k then
      s.after (s.traffic.refuse k) adapter (if isLeft then .disabling else .check)
    else .error .waiting
  | .transmit adapter k sec usec result =>
    if (s.threads adapter).sender = .sending ∧ s.hasPass adapter k then
      s.after (s.traffic.transmit k sec usec result) adapter .sending
    else .error .waiting
  | .file adapter k isLeft =>
    if (s.threads adapter).sender = .sending ∧ s.hasPass adapter k ∧
        (isLeft → (s.traffic.senders[k]?.bind Pass.result) = some .notSent) then
      s.after (s.traffic.file k) adapter (if isLeft then .disabling else .check)
    else .error .waiting

def init : DequeueWaits where
  traffic := .init
  threads := fun _ => ⟨.kDisconnected, false, false, .disabled⟩
  dequeues := fun _ => .outside

/-! ## What is claimed, and when it holds -/

/-- The adapter is active, its loop is enabled and not paused. -/
def Serving (thread : SenderThread) : Prop :=
  thread.mState = .kActive ∧ thread.isLoopEnabled = true ∧ thread.isLoopPaused = false

/-- The thread could serve and is blocked with no notification pending. -/
def Blocked (s : DequeueWaits) (adapter : ℕ) : Prop :=
  s.dequeues adapter = .waiting ∧ Serving (s.threads adapter)

def NotStranded (s : DequeueWaits) : Prop :=
  ∀ adapter, Blocked s adapter →
    s.traffic.sm.mFailedSegmentList = [] ∧ ∀ t, (s.sendQueue t).mMainQueue = []

/-- Nothing has failed, and the counters of the send queues have not come round. -/
def Clear (s : DequeueWaits) : Prop :=
  s.traffic.sm.mFailedSegmentList = [] ∧ ∀ t, (s.sendQueue t).mMainQueue.length < 2 ^ 32

/-- A segment comes into the failed list only while no thread that could serve is blocked, and a
thread that could serve is blocked, or a blocked thread comes to serve, only when nothing has failed. -/
def Attended (s : DequeueWaits) : Label → Prop
  | .other (.retransmit segType seqNoStart seqNoEnd) =>
    (∃ t, SegmentManager.segSeqNumType? segType = some t ∧
      ∃ seg ∈ s.traffic.sm.mSentSegmentLists t, s.traffic.sm.isRequested seqNoStart seqNoEnd seg) →
      ∀ b, ¬ Blocked s b
  | .change adapter c =>
    s.dequeues adapter = .waiting → Serving (c.apply (s.threads adapter)) → Clear s
  | .dequeue adapter => s.isWaitRequired → Serving (s.threads adapter) → Clear s
  | .putAside .. | .refuse .. => ∀ b, ¬ Blocked s b
  | .file _ k _ => (s.traffic.senders[k]?.bind Pass.result) = some .notSent → ∀ b, ¬ Blocked s b
  | _ => True

/-! ## The send queues and the failed list -/

section Queues

variable {t t' : Traffic} {ty : SegSeqNumType}

/-- The send queues and the failed list stay as they are. -/
structure Keeps (t t' : Traffic) : Prop where
  queue : ∀ ty, t'.sm.mSegmentQueues (sendQueueType ty) = t.sm.mSegmentQueues (sendQueueType ty)
  failed : t'.sm.mFailedSegmentList = t.sm.mFailedSegmentList

theorem keeps_other {l : Traffic.Label} (hl : l.isSender = false) (hpush : ∀ i, l ≠ .push i)
    (hretransmit : ∀ segType b e, l ≠ .retransmit segType b e) (h : t.step l = .ok t') :
    Keeps t t' := by
  cases l <;> simp only [Traffic.Label.isSender, Bool.true_eq_false] at hl
  case reserve data isControl sec usec =>
    cases h
    exact ⟨fun _ => rfl, rfl⟩
  case pop i fresh =>
    obtain ⟨_, _, _, _, -, -, hp, rfl⟩ := Traffic.pop_ok h
    obtain ⟨_, _, _, rfl, -⟩ := SegmentManager.popFreeSegment_ok hp
    exact ⟨fun _ => rfl, rfl⟩
  case push i => exact absurd rfl (hpush i)
  case queueStatus control data =>
    obtain ⟨_, hd, rfl⟩ := Traffic.queueStatus_ok h
    obtain ⟨_, _, rfl, -⟩ := SegmentManager.deallocateSentSegmentsByPeer_ok hd
    exact ⟨fun _ => rfl, rfl⟩
  case retransmit segType b e => exact absurd rfl (hretransmit segType b e)
  case recvPop fresh =>
    obtain ⟨_, _, hp, rfl⟩ := Traffic.recvPop_ok h
    obtain ⟨_, _, _, rfl, -⟩ := SegmentManager.popFreeSegment_ok hp
    exact ⟨fun _ => rfl, rfl⟩
  case recvDrop k =>
    cases h
    exact ⟨fun _ => rfl, rfl⟩
  case recvPush k frame =>
    obtain ⟨_, _, -, -, he, rfl⟩ := Traffic.recvPush_ok h
    obtain ⟨_, _, -, rfl⟩ := SegmentManager.enqueue_ok he
    refine ⟨fun ty => ?_, rfl⟩
    cases ty <;> split <;> simp [sendQueueType]
  case consume isControl =>
    obtain ⟨_, _, hd, rfl⟩ := Traffic.consume_ok h
    obtain ⟨queueType, _, ht, -, rfl⟩ := SegmentManager.dequeue_ok hd
    refine ⟨fun ty => ?_, rfl⟩
    cases isControl <;> cases ht <;> cases ty <;> simp [sendQueueType]
  case consumerDrop k =>
    cases h
    exact ⟨fun _ => rfl, rfl⟩
  case release k =>
    obtain ⟨_, _, -, ha, rfl⟩ := Traffic.release_ok h
    obtain ⟨_, _, rfl, -⟩ := SegmentManager.addFreeSegmentToList_ok ha
    exact ⟨fun _ => rfl, rfl⟩

/-- `push` works on one send queue, and notifies if something came into its main queue. -/
theorem push_queues {i : ℕ} (h : t.push i = .ok t') :
    t'.sm.mFailedSegmentList = t.sm.mFailedSegmentList ∧ ∃ ty seqNo seg q,
      (t.sm.mSegmentQueues (sendQueueType ty)).enqueue seqNo seg =
        .ok (t.continuousSegmentEnqueued i, q) ∧
      t'.sm.mSegmentQueues = Function.update t.sm.mSegmentQueues (sendQueueType ty) q := by
  obtain ⟨call, base, seg, sm, hc, he, rfl⟩ := Traffic.push_ok h
  obtain ⟨b, q, hq, rfl⟩ := SegmentManager.enqueue_ok he
  have hb : t.continuousSegmentEnqueued i = b := by
    simp only [Traffic.continuousSegmentEnqueued, hc, hq]
  exact ⟨rfl, call.numType, _, seg, q, hb ▸ hq, rfl⟩

theorem takeQueued_queues {a : ℕ} (h : t.takeQueued a = .ok t') :
    t'.sm.mFailedSegmentList = t.sm.mFailedSegmentList ∧
      (∃ ty, (t.sm.mSegmentQueues (sendQueueType ty)).getQueueLength ≠ 0) ∧
      ∀ ty, (t.sm.mSegmentQueues (sendQueueType ty)).Counted →
        (t'.sm.mSegmentQueues (sendQueueType ty)).Counted := by
  obtain ⟨seg, sm, hd, rfl⟩ := Traffic.takeQueued_ok h
  obtain ⟨queueType, q, ht, hq, rfl⟩ := SegmentManager.dequeue_ok hd
  refine ⟨rfl, ?_, fun ty hc => ?_⟩
  · rw [SegmentManager.getTargetQueueType] at ht
    split at ht
    · next hne => exact ⟨.kSNControl, hne⟩
    · split at ht
      · next hne => exact ⟨.kSNData, hne⟩
      · cases ht
  · show (Function.update t.sm.mSegmentQueues queueType q (sendQueueType ty)).Counted
    by_cases he : sendQueueType ty = queueType
    · subst he
      rw [Function.update_self]
      exact SegmentQueue.dequeue_counted hc hq
    · rwa [Function.update_of_ne he]

end Queues

/-! ## The invariant -/

structure Inv (s : DequeueWaits) : Prop where
  counted : ∀ t, (s.sendQueue t).Counted
  inside : ∀ a, s.dequeues a ≠ .outside → (s.threads a).sender = .dequeue
  empty : ∀ a, s.dequeues a = .waiting → s.isWaitRequired = true
  notStranded : NotStranded s

variable {s : DequeueWaits} {s' : DequeueWaits} {adapter : ℕ}

theorem isWaitRequired_iff : s.isWaitRequired = true ↔ ∀ t, (s.sendQueue t).getQueueLength = 0 := by
  simp only [isWaitRequired, decide_eq_true_eq]
  constructor
  · rintro ⟨hcontrol, hdata⟩ t
    cases t with
    | kSNData => exact hdata
    | kSNControl => exact hcontrol
  · exact fun h => ⟨h .kSNControl, h .kSNData⟩

theorem inv_init : Inv init :=
  ⟨fun _ => rfl, fun _ h => absurd rfl h, nofun, fun _ h => nomatch h.1⟩

/-- With the counters right, an empty length is an empty queue. -/
theorem Inv.nil_of_wait (h : Inv s) (hw : s.isWaitRequired = true) (hc : Clear s) :
    s.traffic.sm.mFailedSegmentList = [] ∧ ∀ t, (s.sendQueue t).mMainQueue = [] :=
  ⟨hc.1, fun t => (h.counted t).eq_nil (isWaitRequired_iff.mp hw t) (hc.2 t)⟩

theorem inv_of_not_waiting (hcounted : ∀ t, (s.sendQueue t).Counted)
    (hinside : ∀ a, s.dequeues a ≠ .outside → (s.threads a).sender = .dequeue)
    (hwaiting : ∀ a, s.dequeues a ≠ .waiting) : Inv s :=
  ⟨hcounted, hinside, fun a ha => absurd ha (hwaiting a), fun a ha => absurd ha.1 (hwaiting a)⟩

/-- Whoever is blocked was blocked before, nothing came into the main queues, and into the failed
list only if no thread was blocked. -/
theorem Inv.keep (h : Inv s) (hcounted : ∀ t, (s'.sendQueue t).Counted)
    (hmain : ∀ t, (s'.sendQueue t).mMainQueue = (s.sendQueue t).mMainQueue)
    (hfailed : s'.traffic.sm.mFailedSegmentList = s.traffic.sm.mFailedSegmentList ∨
      ∀ a, ¬ Blocked s a)
    (hinside : ∀ a, s'.dequeues a ≠ .outside → (s'.threads a).sender = .dequeue)
    (hwaiting : ∀ a, s'.dequeues a = .waiting → s.dequeues a = .waiting)
    (hblocked : ∀ a, Blocked s' a → Blocked s a) : Inv s' := by
  refine ⟨hcounted, hinside, fun a ha => ?_, fun a ha => ?_⟩
  · have hlength := isWaitRequired_iff.mp (h.empty a (hwaiting a ha))
    refine isWaitRequired_iff.mpr fun t => ?_
    have hcount : (s'.sendQueue t).mQueueLength = (s.sendQueue t).mQueueLength := by
      rw [hcounted t, hmain t, ← h.counted t]
    rw [SegmentQueue.getQueueLength, hcount]
    exact hlength t
  · have hb := hblocked a ha
    obtain ⟨hnil, hmains⟩ := h.notStranded a hb
    refine ⟨?_, fun t => (hmain t).trans (hmains t)⟩
    rcases hfailed with hf | hnone
    · exact hf.trans hnil
    · exact absurd hb (hnone a)

theorem inv_notifyAll (hcounted : ∀ t, (s.sendQueue t).Counted)
    (hinside : ∀ a, s.dequeues a ≠ .outside → (s.threads a).sender = .dequeue) :
    Inv s.notifyAll := by
  refine inv_of_not_waiting hcounted (fun a ha => hinside a fun ho => ha ?_) fun a => ?_
  · simp [notifyAll, ho]
  · by_cases hw : s.dequeues a = .waiting <;> simp [notifyAll, hw]


/-! ## Steps on the segment manager -/

theorem step_other_ok {l : Traffic.Label} (h : step s (.other l) = .ok s') :
    l.isSender = false ∧ ∃ traffic, s.traffic.step l = .ok traffic ∧
      ((∃ i, l = .push i ∧ s.traffic.continuousSegmentEnqueued i = true ∧
          s' = { s with traffic := traffic }.notifyAll) ∨
        (∀ i, l = .push i → s.traffic.continuousSegmentEnqueued i = false) ∧
          s' = { s with traffic := traffic }) := by
  unfold step at h
  dsimp only at h
  split_ifs at h with hsender
  split at h
  · cases h
  · next traffic ht =>
    refine ⟨by simpa using hsender, traffic, ht, ?_⟩
    split at h
    · next i =>
      split_ifs at h with hc
      · exact .inl ⟨i, rfl, hc, (Except.ok.inj h).symm⟩
      · refine .inr ⟨?_, (Except.ok.inj h).symm⟩
        rintro j ⟨⟩
        simpa using hc
    · next hpush => exact .inr ⟨fun i hi => absurd hi (hpush i), (Except.ok.inj h).symm⟩

theorem retransmit_failed (sm : SegmentManager) (segType : Int) (b e : UInt32) :
    ((sm.retransmitMissingSegmentsByPeer segType b e).mFailedSegmentList =
        sm.mFailedSegmentList ∧
      ¬ ∃ t, SegmentManager.segSeqNumType? segType = some t ∧
        ∃ seg ∈ sm.mSentSegmentLists t, sm.isRequested b e seg) ∨
    ((sm.retransmitMissingSegmentsByPeer segType b e).mFailedSegmentList ≠ [] ∧
      ∃ t, SegmentManager.segSeqNumType? segType = some t ∧
        ∃ seg ∈ sm.mSentSegmentLists t, sm.isRequested b e seg) := by
  unfold SegmentManager.retransmitMissingSegmentsByPeer
  cases ht : SegmentManager.segSeqNumType? segType with
  | none => exact .inl ⟨rfl, by simp⟩
  | some t =>
    by_cases hhit : ∃ seg ∈ sm.mSentSegmentLists t, sm.isRequested b e seg = true
    · refine .inr ⟨?_, t, rfl, hhit⟩
      obtain ⟨seg, hmem, hreq⟩ := hhit
      exact List.append_ne_nil_of_right_ne_nil _
        (List.ne_nil_of_mem (List.mem_filter.mpr ⟨hmem, hreq⟩))
    · refine .inl ⟨?_, fun ⟨t', ht', hhit'⟩ => hhit (Option.some.inj ht' ▸ hhit')⟩
      have hnone : (sm.mSentSegmentLists t).filter (sm.isRequested b e) = [] := by
        refine List.filter_eq_nil_iff.mpr fun seg hmem hreq => hhit ⟨seg, hmem, hreq⟩
      simp [hnone]

theorem retransmit_queues (sm : SegmentManager) (segType : Int) (b e : UInt32) :
    (sm.retransmitMissingSegmentsByPeer segType b e).mSegmentQueues = sm.mSegmentQueues := by
  unfold SegmentManager.retransmitMissingSegmentsByPeer
  split <;> rfl

theorem inv_other {l : Traffic.Label} (h : Inv s) (hc : Attended s (.other l))
    (hs : step s (.other l) = .ok s') : Inv s' := by
  obtain ⟨hsender, traffic, ht, hcases⟩ := step_other_ok hs
  by_cases hpush : ∃ i, l = .push i
  · obtain ⟨i, rfl⟩ := hpush
    obtain ⟨hfailed, ty, seqNo, seg, q, hq, hqueues⟩ := push_queues ht
    obtain ⟨hcount, hmain⟩ := SegmentQueue.enqueue_counted (h.counted ty) hq
    have hsend : ∀ t, traffic.sm.mSegmentQueues (sendQueueType t) =
        if t = ty then q else s.sendQueue t := by
      intro t
      rw [hqueues]
      cases t <;> cases ty <;> simp [sendQueueType, sendQueue]
    have hcounted : ∀ t, (traffic.sm.mSegmentQueues (sendQueueType t)).Counted := by
      intro t
      rw [hsend]
      split
      · exact hcount
      · exact h.counted t
    rcases hcases with ⟨j, hj, -, rfl⟩ | ⟨hj, rfl⟩
    · exact inv_notifyAll hcounted h.inside
    · refine h.keep hcounted (fun t => ?_) (.inl hfailed) h.inside (fun _ => id) fun _ => id
      show (traffic.sm.mSegmentQueues (sendQueueType t)).mMainQueue = (s.sendQueue t).mMainQueue
      rw [hsend]
      split
      · next he =>
        rw [hmain (hj i rfl), he]
      · rfl
  · have hsame : s' = { s with traffic := traffic } := by
      rcases hcases with ⟨j, hj, -⟩ | ⟨-, he⟩
      · exact absurd ⟨j, hj⟩ hpush
      · exact he
    subst hsame
    by_cases hretransmit : ∃ segType b e, l = .retransmit segType b e
    · obtain ⟨segType, b, e, rfl⟩ := hretransmit
      cases ht
      have hq : ∀ t, SegmentQueue.Counted ((s.traffic.retransmit segType b e).sm.mSegmentQueues
          (sendQueueType t)) ∧ ((s.traffic.retransmit segType b e).sm.mSegmentQueues
          (sendQueueType t)).mMainQueue = (s.sendQueue t).mMainQueue := by
        intro t
        simp only [Traffic.retransmit, retransmit_queues]
        exact ⟨h.counted t, rfl⟩
      refine h.keep (fun t => (hq t).1) (fun t => (hq t).2) ?_ h.inside (fun _ => id) fun _ => id
      rcases retransmit_failed s.traffic.sm segType b e with ⟨hf, -⟩ | ⟨-, hhit⟩
      · exact .inl hf
      · exact .inr (hc hhit)
    · obtain ⟨hqueue, hfailed⟩ := keeps_other hsender (fun i hi => hpush ⟨i, hi⟩)
        (fun segType b e he => hretransmit ⟨segType, b, e, he⟩) ht
      refine h.keep (fun t => ?_) (fun t => ?_) (.inl hfailed) h.inside (fun _ => id) fun _ => id
      · exact (congrArg SegmentQueue.Counted (hqueue t)).mpr (h.counted t)
      · exact congrArg SegmentQueue.mMainQueue (hqueue t)

/-! ## Steps of a sender thread -/

section Sender

variable {traffic : Traffic} {sender : SenderPoint} {point : DequeuePoint} {thread : SenderThread}

theorem Inv.moveTo (h : Inv s)
    (hqueues : ∀ t, traffic.sm.mSegmentQueues (sendQueueType t) = s.sendQueue t)
    (hfailed : traffic.sm.mFailedSegmentList = s.traffic.sm.mFailedSegmentList ∨
      ∀ a, ¬ Blocked s a)
    (hpoint : point ≠ .waiting) (hsender : point ≠ .outside → sender = .dequeue) :
    Inv (s.moveTo traffic adapter sender point) := by
  have hothers : ∀ a, (s.moveTo traffic adapter sender point).dequeues a = .waiting →
      a ≠ adapter ∧ s.dequeues a = .waiting := by
    intro a ha
    by_cases he : a = adapter
    · subst he
      exact absurd ((Function.update_self ..).symm.trans ha) hpoint
    · exact ⟨he, (Function.update_of_ne he ..).symm.trans ha⟩
  refine h.keep (fun t => ?_) (fun t => ?_) hfailed (fun a ha => ?_) (fun a ha => (hothers a ha).2)
    fun a ha => ?_
  · exact (congrArg SegmentQueue.Counted (hqueues t)).mpr (h.counted t)
  · exact congrArg SegmentQueue.mMainQueue (hqueues t)
  · by_cases he : a = adapter
    · subst he
      simp only [DequeueWaits.moveTo, Function.update_self] at ha ⊢
      exact hsender ha
    · simp only [DequeueWaits.moveTo, Function.update_of_ne he] at ha ⊢
      exact h.inside a ha
  · obtain ⟨he, hw⟩ := hothers a ha.1
    refine ⟨hw, ?_⟩
    have hserving := ha.2
    simpa only [DequeueWaits.moveTo, Function.update_of_ne he] using hserving

theorem Inv.withThread (h : Inv s) (hin : s.dequeues adapter ≠ .outside → thread.sender = .dequeue)
    (hserving : s.dequeues adapter = .waiting → Serving thread →
      s.traffic.sm.mFailedSegmentList = [] ∧ ∀ t, (s.sendQueue t).mMainQueue = []) :
    Inv (s.withThread adapter thread) := by
  refine ⟨h.counted, fun a ha => ?_, h.empty, ?_⟩
  · by_cases he : a = adapter
    · subst he
      simp only [DequeueWaits.withThread, Function.update_self]
      exact hin ha
    · simp only [DequeueWaits.withThread, Function.update_of_ne he]
      exact h.inside a ha
  · rintro a ⟨hw, hserv⟩
    by_cases he : a = adapter
    · subst he
      simp only [DequeueWaits.withThread, Function.update_self] at hserv
      exact hserving hw hserv
    · simp only [DequeueWaits.withThread, Function.update_of_ne he] at hserv
      exact h.notStranded a ⟨hw, hserv⟩

theorem after_ok {work : Except Stop Traffic} (hs : s.after work adapter sender = .ok s') :
    ∃ traffic, work = .ok traffic ∧ s' = s.moveTo traffic adapter sender .outside := by
  unfold after at hs
  split at hs
  · next traffic => exact ⟨traffic, rfl, (Except.ok.inj hs).symm⟩
  · cases hs

theorem inv_dequeueLocked (h : Inv s) (hs : s.dequeueLocked adapter = .ok s') : Inv s' := by
  unfold dequeueLocked at hs
  split_ifs at hs with hw
  · obtain rfl := Except.ok.inj hs
    exact h.moveTo (fun _ => rfl) (.inl rfl) nofun (fun hne => absurd rfl hne)
  · obtain ⟨traffic, ht, rfl⟩ := after_ok hs
    obtain ⟨-, -, hcounted⟩ := takeQueued_queues ht
    refine inv_of_not_waiting (fun t => hcounted t (h.counted t)) (fun a ha => ?_) fun a ha => ?_
    · by_cases he : a = adapter
      · subst he
        simp [moveTo] at ha
      · simp only [moveTo, Function.update_of_ne he] at ha ⊢
        exact h.inside a ha
    · by_cases he : a = adapter
      · subst he
        simp [moveTo] at ha
      · simp only [moveTo, Function.update_of_ne he] at ha
        exact hw (h.empty a ha)

/-- The thread is blocked: there was nothing in the send queues. -/
theorem Inv.block (h : Inv s) (hsender : (s.threads adapter).sender = .dequeue)
    (hw : s.isWaitRequired = true) (hc : Serving (s.threads adapter) → Clear s) :
    Inv (s.moveTo s.traffic adapter .dequeue .waiting) := by
  have hthreads : ∀ a, (s.moveTo s.traffic adapter .dequeue .waiting).threads a = s.threads a := by
    intro a
    by_cases he : a = adapter
    · subst he
      simp [DequeueWaits.moveTo, ← hsender]
    · simp [DequeueWaits.moveTo, he]
  refine ⟨h.counted, fun a ha => ?_, fun _ _ => hw, ?_⟩
  · rw [hthreads]
    by_cases he : a = adapter
    · rw [he, hsender]
    · simp only [DequeueWaits.moveTo, Function.update_of_ne he] at ha
      exact h.inside a ha
  · rintro a ⟨hpoint, hserv⟩
    rw [hthreads] at hserv
    by_cases he : a = adapter
    · exact h.nil_of_wait hw (hc (he ▸ hserv))
    · simp only [DequeueWaits.moveTo, Function.update_of_ne he] at hpoint
      exact h.notStranded a ⟨hpoint, hserv⟩

theorem step_ne_dequeue {t : SenderThread} (h : thread.step = .ok t) : thread.sender ≠ .dequeue := by
  intro he
  simp [SenderThread.step, he] at h

theorem wake_ne_dequeue {t : SenderThread} (h : thread.wake = .ok t) : thread.sender ≠ .dequeue := by
  intro he
  simp [SenderThread.wake, he] at h

theorem inv_loop (h : Inv s) (hne : (s.threads adapter).sender ≠ .dequeue) :
    Inv (s.withThread adapter thread) := by
  have hout : s.dequeues adapter = .outside := by
    by_contra hin
    exact hne (h.inside adapter hin)
  exact h.withThread (fun hin => absurd hout hin) fun hw => nomatch hout.symm.trans hw

theorem inv_step {l : Label} (h : Inv s) (hc : Attended s l) (hs : step s l = .ok s') : Inv s' := by
  cases l with
  | other l => exact inv_other h hc hs
  | change adapter c =>
    obtain rfl := Except.ok.inj hs
    refine h.withThread (fun hin => ?_) fun hw hserv => h.nil_of_wait (h.empty adapter hw) (hc hw hserv)
    cases c <;> exact h.inside adapter hin
  | wakeUpDequeueWaiting =>
    obtain rfl := Except.ok.inj hs
    exact inv_notifyAll h.counted h.inside
  | loop adapter =>
    simp only [step] at hs
    split_ifs at hs
    split at hs
    · next hstep => exact Except.ok.inj hs ▸ inv_loop h (step_ne_dequeue hstep)
    · cases hs
  | loopWakes adapter =>
    simp only [step] at hs
    split at hs
    · next hwake => exact Except.ok.inj hs ▸ inv_loop h (wake_ne_dequeue hwake)
    · cases hs
  | popFailed adapter =>
    simp only [step] at hs
    split_ifs at hs with hpoint hnil
    · exact Except.ok.inj hs ▸ h.moveTo (fun _ => rfl) (.inl rfl) nofun fun _ => rfl
    · obtain ⟨traffic, ht, rfl⟩ := after_ok hs
      obtain ⟨seg, rest, -, rfl⟩ := Traffic.takeFailed_ok ht
      refine h.moveTo (fun _ => rfl) (.inr fun a ha => hnil ?_) nofun fun hne => absurd rfl hne
      exact (h.notStranded a ha).1
  | dequeue adapter =>
    simp only [step] at hs
    split_ifs at hs with hpoint hw
    · have hsender := h.inside adapter (by simp [hpoint])
      exact Except.ok.inj hs ▸ h.block hsender hw (hc hw)
    · exact inv_dequeueLocked h hs
  | dequeueWakes adapter =>
    simp only [step] at hs
    split_ifs at hs
    exact inv_dequeueLocked h hs
  | putAside adapter k =>
    simp only [step] at hs
    split_ifs at hs
    obtain ⟨traffic, ht, rfl⟩ := after_ok hs
    obtain ⟨pass, -, -, rfl⟩ := Traffic.refuse_ok ht
    exact h.moveTo (fun _ => rfl) (.inr hc) nofun fun hne => absurd rfl hne
  | refuse adapter k isLeft =>
    simp only [step] at hs
    split_ifs at hs
    all_goals
      obtain ⟨traffic, ht, rfl⟩ := after_ok hs
      obtain ⟨pass, -, -, rfl⟩ := Traffic.refuse_ok ht
      exact h.moveTo (fun _ => rfl) (.inr hc) nofun fun hne => absurd rfl hne
  | transmit adapter k sec usec result =>
    simp only [step] at hs
    split_ifs at hs
    obtain ⟨traffic, ht, rfl⟩ := after_ok hs
    obtain ⟨_, _, _, -, rfl⟩ := Traffic.transmit_ok ht
    exact h.moveTo (fun _ => rfl) (.inl rfl) nofun fun hne => absurd rfl hne
  | file adapter k isLeft =>
    simp only [step] at hs
    split_ifs at hs
    all_goals
      obtain ⟨traffic, ht, rfl⟩ := after_ok hs
      obtain ⟨pass, hk, ⟨-, rfl⟩ | ⟨hnotSent, rfl⟩⟩ := Traffic.file_ok ht
      · exact h.moveTo (fun _ => rfl) (.inl rfl) nofun fun hne => absurd rfl hne
      · have hnone := hc (by simp [hk, hnotSent])
        exact h.moveTo (fun _ => rfl) (.inr hnone) nofun fun hne => absurd rfl hne

/-! ## A step that misses the condition -/

theorem Inv.blocked_moveTo (h : Inv s) {b : ℕ} (hb : Blocked s b)
    (hne : (s.threads adapter).sender ≠ .dequeue) :
    Blocked (s.moveTo traffic adapter sender .outside) b := by
  have he : b ≠ adapter := by
    rintro rfl
    exact hne (h.inside b (by simp [hb.1]))
  exact ⟨(Function.update_of_ne he ..).trans hb.1, by
    simpa only [DequeueWaits.moveTo, Function.update_of_ne he] using hb.2⟩

theorem stranded_of_failed {b : ℕ} (hb : Blocked s b) (hf : s.traffic.sm.mFailedSegmentList ≠ []) :
    ¬ NotStranded s :=
  fun h => hf (h b hb).1

theorem stranded_of_not_clear {b : ℕ} (hb : Blocked s b) (hc : ¬ Clear s) : ¬ NotStranded s := by
  intro h
  obtain ⟨hnil, hmain⟩ := h b hb
  exact hc ⟨hnil, fun t => by simp [hmain t]⟩

/-- The segment in the thread's hand goes to the failed list while another thread is blocked. -/
theorem Inv.stranded_of_refuse (h : Inv s) {k : ℕ} (hc : ¬ ∀ b, ¬ Blocked s b)
    (hne : (s.threads adapter).sender ≠ .dequeue)
    (hs : s.after (s.traffic.refuse k) adapter sender = .ok s') : ¬ NotStranded s' := by
  push Not at hc
  obtain ⟨b, hb⟩ := hc
  obtain ⟨traffic, ht, rfl⟩ := after_ok hs
  refine stranded_of_failed (h.blocked_moveTo hb hne) ?_
  obtain ⟨pass, -, -, rfl⟩ := Traffic.refuse_ok ht
  simp [DequeueWaits.moveTo, SegmentManager.addFailedSegmentToList]

theorem stranded_of_not_attended {l : Label} (h : Inv s) (hc : ¬ Attended s l)
    (hs : step s l = .ok s') : ¬ NotStranded s' := by
  cases l with
  | other l =>
    cases l <;> simp only [Attended, not_true_eq_false] at hc
    case retransmit segType seqNoStart seqNoEnd =>
      push Not at hc
      obtain ⟨hhit, b, hb⟩ := hc
      obtain rfl := Except.ok.inj hs
      refine stranded_of_failed hb ?_
      rcases retransmit_failed s.traffic.sm segType seqNoStart seqNoEnd with ⟨-, hno⟩ | ⟨hf, -⟩
      · exact absurd hhit hno
      · exact hf
  | change adapter c =>
    simp only [Attended] at hc
    push Not at hc
    obtain ⟨hw, hserv, hclear⟩ := hc
    obtain rfl := Except.ok.inj hs
    refine stranded_of_not_clear (b := adapter) ⟨hw, ?_⟩ hclear
    simpa [DequeueWaits.withThread] using hserv
  | dequeue adapter =>
    simp only [Attended] at hc
    push Not at hc
    obtain ⟨hw, hserv, hclear⟩ := hc
    simp only [step, hw, if_true] at hs
    split_ifs at hs
    obtain rfl := Except.ok.inj hs
    refine stranded_of_not_clear (b := adapter) ⟨Function.update_self .., ?_⟩ hclear
    simpa [DequeueWaits.moveTo, Serving] using hserv
  | putAside adapter k =>
    simp only [step] at hs
    split_ifs at hs with hguard
    exact h.stranded_of_refuse hc (by simp [hguard.1]) hs
  | refuse adapter k isLeft =>
    simp only [step] at hs
    split_ifs at hs with hguard
    all_goals
      refine h.stranded_of_refuse hc ?_ hs
      rcases hguard.1 with he | he <;> simp [he]
  | file adapter k isLeft =>
    simp only [Attended] at hc
    push Not at hc
    obtain ⟨hnotSent, b, hb⟩ := hc
    simp only [step] at hs
    split_ifs at hs with hguard
    all_goals
      obtain ⟨traffic, ht, rfl⟩ := after_ok hs
      refine stranded_of_failed (h.blocked_moveTo hb (by simp [hguard.1])) ?_
      obtain ⟨pass, hk, ⟨hsent, -⟩ | ⟨-, rfl⟩⟩ := Traffic.file_ok ht
      · simp [hk, hsent] at hnotSent
      · simp [DequeueWaits.moveTo, SegmentManager.addFailedSegmentToList]
  | wakeUpDequeueWaiting => exact absurd trivial hc
  | loop adapter => exact absurd trivial hc
  | loopWakes adapter => exact absurd trivial hc
  | popFailed adapter => exact absurd trivial hc
  | dequeueWakes adapter => exact absurd trivial hc
  | transmit adapter k sec usec result => exact absurd trivial hc

end Sender

theorem segments_not_stranded_iff (ls : List Label) :
    (∀ t, Runs.Reached step init ls t → NotStranded t) ↔ Runs.AllSteps step Attended init ls :=
  Runs.throughout_iff_allSteps (fun _ => Inv.notStranded) (fun _ _ _ => inv_step)
    (fun _ _ _ => stranded_of_not_attended) inv_init

/-- A message goes out on adapter 0, and the peer asks for it again while the thread is blocked. -/
def askedAgain : List Label :=
  [.change 0 (.state .kActive), .change 0 (.loopEnabled true), .loop 0, .loop 0, .loop 0,
    .popFailed 0, .dequeue 0, .other (.reserve ⟨[7], by simp, by simp⟩ false 0 0),
    .other (.pop 0 0), .other (.push 0), .dequeueWakes 0, .loop 0, .loop 0,
    .transmit 0 0 0 0 .sent, .file 0 0 false, .loop 0, .loop 0, .popFailed 0, .dequeue 0,
    .other (.retransmit 0 0 0)]

theorem retransmission_stranded :
    ∃ t, Runs.Reached step init askedAgain t ∧ ¬ NotStranded t := by
  obtain ⟨t, hr, hview⟩ : ∃ t, Runs.run step init askedAgain = .ok t ∧
      (t.dequeues 0, t.threads 0, t.traffic.sm.mFailedSegmentList) =
        (.waiting, ⟨.kActive, true, false, .dequeue⟩, [0]) :=
    Runs.exists_run_of_view
      (fun t : DequeueWaits => (t.dequeues 0, t.threads 0, t.traffic.sm.mFailedSegmentList))
      (by decide +kernel)
  simp only [Prod.mk.injEq] at hview
  obtain ⟨hpoint, hthread, hfailed⟩ := hview
  refine ⟨t, .of_run hr, stranded_of_failed (b := 0) ⟨hpoint, ?_⟩ (by simp [hfailed])⟩
  rw [hthread]
  exact ⟨rfl, rfl, rfl⟩

end DequeueWaits

end Linux
end VirtualConnection
