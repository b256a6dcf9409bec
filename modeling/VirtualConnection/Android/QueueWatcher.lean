import VirtualConnection.Android.Sending

/-!
# Android.QueueWatcher

`QueueWatcherThread`: each tick runs `checkAndNotifyQueueStatus`, which reports the last received
numbers when they have changed, and asks for missing segments when they have not changed for a while.

Both the tick and `sendRequestQueueStatusMessage` give up while adapters are being switched. But
`Core.isAdaptersSwitching` answers the other way round: it is true when every adapter is active or
disconnected. So there are reports while an adapter is on its way, and none otherwise.

* `check_of_settled`, `check_of_switching`: what a tick does in either case.
* `recovers_iff`: the runs of the watcher that recover are those that never have anything to report.
-/

namespace VirtualConnection
namespace Android

open Linux

/-- `Core.isAdaptersSwitching`. -/
def isAdaptersSwitching : List ClientAdapter → Bool
  | [] => true
  | adapter :: rest =>
    if adapter.mState ≠ .kActive ∧ adapter.mState ≠ .kDisconnected then false
    else isAdaptersSwitching rest

/-- The adapter is not on its way from one state to another. -/
def ClientAdapter.IsSettled (adapter : ClientAdapter) : Prop :=
  adapter.mState = .kActive ∨ adapter.mState = .kDisconnected

instance (adapter : ClientAdapter) : Decidable adapter.IsSettled :=
  inferInstanceAs (Decidable (_ ∨ _))

/-- The name says the opposite. -/
theorem isAdaptersSwitching_iff {adapters : List ClientAdapter} :
    isAdaptersSwitching adapters = true ↔ ∀ adapter ∈ adapters, adapter.IsSettled := by
  induction adapters with
  | nil => simp [isAdaptersSwitching]
  | cons adapter rest ih =>
    rw [List.forall_mem_cons, ← ih, isAdaptersSwitching]
    split
    · next h => simp [ClientAdapter.IsSettled, h.1, h.2]
    · next h =>
      have hsettled : adapter.IsSettled := by
        by_contra hn
        exact h (not_or.mp hn)
      simp [hsettled]

/-- `ControlMessageSender.sendRequestQueueStatusMessage`: what it hands to `Core.send`. -/
def sendRequestQueueStatusMessage (adapters : List ClientAdapter)
    (lastSeqNoControl lastSeqNoData : Int32) : List ControlMessage :=
  if isAdaptersSwitching adapters then [] else [.queueStatus lastSeqNoControl lastSeqNoData]

/-- What a tick finds: the adapters, the receive queues as the last numbers are read, those at the
time of the retransmission check, and both readings of the clock. -/
structure WatcherTick where
  adapters : List ClientAdapter
  queues : SegSeqNumType → Queue Segment
  queuesAtCheck : SegSeqNumType → Queue Segment
  presentTS : Int
  changeTS : Int

/-- `getLastSeqNo`. -/
def WatcherTick.lastSeqNo (t : WatcherTick) (type : SegSeqNumType) : Int32 :=
  (t.queues type).mExpectedSeqNo - 1

/-- `__checkAndRequestRetransmitMissingSegment`. -/
def WatcherTick.requestRetransmit (t : WatcherTick) (type : SegSeqNumType) : List ControlMessage :=
  (missingSegments (t.queuesAtCheck type).mExpectedSeqNo (t.queuesAtCheck type).mPendingQueue).map
    fun gap => .retransmit (match type with | .kSNData => 0 | .kSNControl => 1) gap.1 gap.2

/-- `checkAndRequestRetransmitMissingSegment`. -/
def WatcherTick.checkMissing (t : WatcherTick) : List ControlMessage :=
  t.requestRetransmit .kSNControl ++ t.requestRetransmit .kSNData

def kUnchangedThresholdFirstMS : Int := 1000
def kUnchangedThresholdAgainMS : Int := 5000

structure QueueWatcher where
  mPrevLastSeqNoControl : Int32
  mPrevLastSeqNoData : Int32
  mPrevLastChangeTS : Option Int
  mUnchangedThresholdMS : Int
  deriving DecidableEq

/-- What a tick sends: QueueStatus messages, and the requests of the retransmission check if it
runs. -/
structure TickOutput where
  queueStatus : List ControlMessage
  retransmission : Option (List ControlMessage)
  deriving DecidableEq

def TickOutput.nothing : TickOutput := ⟨[], none⟩

namespace QueueWatcher

def init : QueueWatcher := ⟨0, 0, none, kUnchangedThresholdFirstMS⟩

/-- The times since the last change, and since then the threshold has passed. -/
def IsOverdue (w : QueueWatcher) (presentTS : Int) : Prop :=
  ∃ since ∈ w.mPrevLastChangeTS, w.mUnchangedThresholdMS < presentTS - since

/-- `checkAndNotifyQueueStatus`. -/
def checkAndNotifyQueueStatus (w : QueueWatcher) (t : WatcherTick) : TickOutput × QueueWatcher :=
  if isAdaptersSwitching t.adapters then (.nothing, w)
  else if t.lastSeqNo .kSNControl < 0 ∨ t.lastSeqNo .kSNData < 0 then (.nothing, w)
  else if w.mPrevLastSeqNoControl ≠ t.lastSeqNo .kSNControl ∨
      w.mPrevLastSeqNoData ≠ t.lastSeqNo .kSNData then
    ({ queueStatus := sendRequestQueueStatusMessage t.adapters (t.lastSeqNo .kSNControl)
          (t.lastSeqNo .kSNData)
       retransmission := none },
      { mPrevLastSeqNoControl := t.lastSeqNo .kSNControl
        mPrevLastSeqNoData := t.lastSeqNo .kSNData
        mPrevLastChangeTS := some t.changeTS
        mUnchangedThresholdMS := kUnchangedThresholdFirstMS })
  else
    match w.mPrevLastChangeTS with
    | none => (.nothing, w)
    | some since =>
      if t.presentTS - since > w.mUnchangedThresholdMS then
        ({ queueStatus := [], retransmission := some t.checkMissing },
          { w with
            mPrevLastChangeTS := some t.changeTS
            mUnchangedThresholdMS := kUnchangedThresholdAgainMS })
      else (.nothing, w)

/-- No tick fails. -/
def step (w : QueueWatcher) (t : WatcherTick) : Except Empty QueueWatcher :=
  .ok (w.checkAndNotifyQueueStatus t).2

/-! ## One tick -/

variable {w : QueueWatcher} {t : WatcherTick}

/-- The watcher and the receiver remember the same. -/
structure Matches (w : QueueWatcher) (r : Receiver) : Prop where
  control : w.mPrevLastSeqNoControl = r.mPrevLastSeqNoControl
  data : w.mPrevLastSeqNoData = r.mPrevLastSeqNoData
  change : w.mPrevLastChangeTS.isSome = r.isLastChangeSet

/-- A tick is `Receiver.checkAndNotifyQueueStatus` with its arguments filled in. -/
theorem check_receiver {r : Receiver} (hm : w.Matches r) (hq : t.queues = r.queues)
    (hqc : t.queuesAtCheck = r.queues) : ∃ isUnchanged : Bool,
      (w.checkAndNotifyQueueStatus t).1.queueStatus ++
          (w.checkAndNotifyQueueStatus t).1.retransmission.getD [] =
        (r.checkAndNotifyQueueStatus (isAdaptersSwitching t.adapters)
          (isAdaptersSwitching t.adapters) isUnchanged).1 ∧
      (w.checkAndNotifyQueueStatus t).2.Matches
        (r.checkAndNotifyQueueStatus (isAdaptersSwitching t.adapters)
          (isAdaptersSwitching t.adapters) isUnchanged).2 := by
  have hlast : ∀ type, t.lastSeqNo type = r.getLastSeqNo type := by
    intro type
    rw [WatcherTick.lastSeqNo, hq, Receiver.getLastSeqNo]
  have hcheck : t.checkMissing = r.requestRetransmit .kSNControl ++ r.requestRetransmit .kSNData := by
    simp only [WatcherTick.checkMissing, WatcherTick.requestRetransmit, hqc,
      Receiver.requestRetransmit]
  obtain ⟨hc, hd, hts⟩ := hm
  unfold checkAndNotifyQueueStatus Receiver.checkAndNotifyQueueStatus
  simp only [hlast, hc, hd, hcheck, sendRequestQueueStatusMessage, ← hts]
  by_cases hs : isAdaptersSwitching t.adapters = true
  · exact ⟨false, by simp [hs, TickOutput.nothing], by simpa [hs] using ⟨hc, hd, hts⟩⟩
  simp only [hs, if_false, Bool.false_eq_true]
  by_cases hneg : r.getLastSeqNo .kSNControl < 0 ∨ r.getLastSeqNo .kSNData < 0
  · exact ⟨false, by simp [hneg, TickOutput.nothing], by simpa [hneg] using ⟨hc, hd, hts⟩⟩
  simp only [hneg, if_false]
  by_cases hnew : r.mPrevLastSeqNoControl ≠ r.getLastSeqNo .kSNControl ∨
      r.mPrevLastSeqNoData ≠ r.getLastSeqNo .kSNData
  · exact ⟨false, by simp [hnew], by simp only [hnew, if_true]; exact ⟨rfl, rfl, rfl⟩⟩
  simp only [hnew, if_false]
  cases hsince : w.mPrevLastChangeTS with
  | none => exact ⟨false, by simp [TickOutput.nothing], by simpa using ⟨hc, hd, hts⟩⟩
  | some since =>
    by_cases hgt : t.presentTS - since > w.mUnchangedThresholdMS
    · refine ⟨true, by simp [hgt], ?_⟩
      simp only [hgt, if_true, Option.isSome_some, and_self]
      exact ⟨rfl, rfl, by rw [← hts, hsince]; rfl⟩
    · exact ⟨false, by simp [hgt, TickOutput.nothing], by simpa [hgt] using ⟨hc, hd, hts⟩⟩

/-- With every adapter active or disconnected, a tick does nothing. -/
theorem check_of_settled (h : ∀ adapter ∈ t.adapters, adapter.IsSettled) :
    w.checkAndNotifyQueueStatus t = (.nothing, w) := by
  rw [checkAndNotifyQueueStatus, if_pos (isAdaptersSwitching_iff.mpr h)]

/-- With an adapter on its way, new numbers are reported. -/
theorem check_of_switching (h : ¬ ∀ adapter ∈ t.adapters, adapter.IsSettled)
    (hc : ¬ t.lastSeqNo .kSNControl < 0) (hd : ¬ t.lastSeqNo .kSNData < 0)
    (hnew : w.mPrevLastSeqNoControl ≠ t.lastSeqNo .kSNControl ∨
      w.mPrevLastSeqNoData ≠ t.lastSeqNo .kSNData) :
    (w.checkAndNotifyQueueStatus t).1.queueStatus =
      [.queueStatus (t.lastSeqNo .kSNControl) (t.lastSeqNo .kSNData)] := by
  have hs : ¬ isAdaptersSwitching t.adapters = true := isAdaptersSwitching_iff.not.mpr h
  rw [checkAndNotifyQueueStatus, if_neg hs, if_neg (not_or.mpr ⟨hc, hd⟩), if_pos hnew]
  simp only [sendRequestQueueStatusMessage, if_neg hs]

/-- What the recovery of missing segments asks of a tick. The last reported pair is what the watcher
remembers, (0, 0) before the first report. -/
structure Recovers (w : QueueWatcher) (t : WatcherTick) (output : TickOutput) : Prop where
  reports : (∀ adapter ∈ t.adapters, adapter.IsSettled) →
    ¬ t.lastSeqNo .kSNControl < 0 → ¬ t.lastSeqNo .kSNData < 0 →
    (w.mPrevLastSeqNoControl ≠ t.lastSeqNo .kSNControl ∨
      w.mPrevLastSeqNoData ≠ t.lastSeqNo .kSNData) →
    output.queueStatus = [.queueStatus (t.lastSeqNo .kSNControl) (t.lastSeqNo .kSNData)]
  repairs : (∀ adapter ∈ t.adapters, adapter.IsSettled) →
    w.mPrevLastSeqNoControl = t.lastSeqNo .kSNControl →
    w.mPrevLastSeqNoData = t.lastSeqNo .kSNData → w.IsOverdue t.presentTS →
    output.retransmission = some t.checkMissing
  quiet : (∃ adapter ∈ t.adapters, ¬ adapter.IsSettled) → output = .nothing

/-- A last number is negative, or both are still 0. -/
def NothingNew (t : WatcherTick) : Prop :=
  t.lastSeqNo .kSNControl < 0 ∨ t.lastSeqNo .kSNData < 0 ∨
    t.lastSeqNo .kSNControl = 0 ∧ t.lastSeqNo .kSNData = 0

theorem check_init_of_nothingNew (h : NothingNew t) :
    init.checkAndNotifyQueueStatus t = (.nothing, init) := by
  unfold checkAndNotifyQueueStatus
  split
  · rfl
  split
  · rfl
  · next hneg =>
    obtain ⟨hc, hd⟩ := (or_assoc.mpr h).resolve_left hneg
    simp [hc, hd, init]

theorem recovers_init_iff :
    Recovers init t (init.checkAndNotifyQueueStatus t).1 ↔ NothingNew t := by
  constructor
  · intro h
    by_contra hn
    obtain ⟨hc, hn⟩ := not_or.mp hn
    obtain ⟨hd, hn⟩ := not_or.mp hn
    have hnew : init.mPrevLastSeqNoControl ≠ t.lastSeqNo .kSNControl ∨
        init.mPrevLastSeqNoData ≠ t.lastSeqNo .kSNData :=
      (not_and_or.mp hn).imp Ne.symm Ne.symm
    -- the report is missing in one case, and comes at the wrong time in the other
    by_cases hs : ∀ adapter ∈ t.adapters, adapter.IsSettled
    · have hreport := h.reports hs hc hd hnew
      rw [check_of_settled hs] at hreport
      cases hreport
    · have hquiet := h.quiet (by simpa using hs)
      have hreport := check_of_switching hs hc hd hnew
      rw [hquiet] at hreport
      cases hreport
  · intro h
    rw [check_init_of_nothingNew h]
    refine ⟨fun _ hc hd hnew => ?_, fun _ _ _ hover => ?_, fun _ => rfl⟩
    · obtain ⟨hc0, hd0⟩ := (or_assoc.mpr h).resolve_left (not_or.mpr ⟨hc, hd⟩)
      rw [hc0, hd0] at hnew
      exact absurd hnew (by decide)
    · obtain ⟨since, hsince, _⟩ := hover
      cases hsince

/-! ## Runs -/

/-- While the adapters are active or disconnected, nothing is ever reported or asked for. -/
theorem silent_of_settled (w : QueueWatcher) {ts : List WatcherTick}
    (h : ∀ t ∈ ts, ∀ adapter ∈ t.adapters, adapter.IsSettled) :
    Runs.AllSteps step (fun w t => (w.checkAndNotifyQueueStatus t).1 = .nothing) w ts := by
  refine Runs.AllSteps.of_labels (fun t ht w => ?_) w
  rw [check_of_settled (h t ht)]

/-- **The runs that recover are those with nothing to report**: up to the first new number the watcher
is as at the start. -/
theorem recovers_iff (ts : List WatcherTick) :
    Runs.AllSteps step (fun w t => Recovers w t (w.checkAndNotifyQueueStatus t).1) init ts ↔
      ∀ t ∈ ts, NothingNew t := by
  induction ts with
  | nil => simp [Runs.AllSteps]
  | cons t ts ih =>
    rw [List.forall_mem_cons, ← ih, ← recovers_init_iff]
    constructor
    · intro h
      obtain ⟨ht, hts⟩ := h _ rfl
      rw [check_init_of_nothingNew (recovers_init_iff.mp ht)] at hts
      exact ⟨ht, hts⟩
    · rintro ⟨ht, hts⟩ w' hw
      cases hw
      rw [check_init_of_nothingNew (recovers_init_iff.mp ht)]
      exact ⟨ht, hts⟩

/-- An active adapter, and the numbers 0 of the one stream and 0 and 1 of the other received: nothing
is reported. -/
theorem report_missing :
    ∃ t : WatcherTick, (∀ adapter ∈ t.adapters, adapter.mState = .kActive) ∧
      t.lastSeqNo .kSNControl = 0 ∧ t.lastSeqNo .kSNData = 1 ∧
      (init.checkAndNotifyQueueStatus t).1.queueStatus = [] ∧
      ¬ Runs.AllSteps step (fun w t => Recovers w t (w.checkAndNotifyQueueStatus t).1) init [t] := by
  refine ⟨{ adapters := [⟨.kActive, false, false, .kOpened⟩]
            queues := fun type => { Queue.empty with
              mExpectedSeqNo := match type with | .kSNControl => 1 | .kSNData => 2 }
            queuesAtCheck := fun _ => .empty
            presentTS := 1000
            changeTS := 1000 }, by simp, rfl, rfl, rfl, fun h => ?_⟩
  have hnew := recovers_init_iff.mp (h _ rfl).1
  revert hnew
  unfold NothingNew
  decide

end QueueWatcher

end Android
end VirtualConnection
