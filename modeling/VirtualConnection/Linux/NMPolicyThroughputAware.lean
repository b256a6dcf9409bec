import VirtualConnection.Lib.Runs
import VirtualConnection.Lib.Streaks
import VirtualConnection.Linux.NMPolicyHistoryBased

/-!
# Linux.NMPolicyThroughputAware

`NMPolicyThroughputAware.cpp`: the policy that switches up when the queue has been long, and down when
the bandwidth has been low, for a number of calls. The two flags that it is called with say whether
there is an adapter above and one below the active one; between two others both are true.

The history has the calls and what they returned, the latest first; no code reads it.

* `Right`: a switch is returned exactly when all of the last calls since the previous decision are
  evidence for it, 5 of them for an increase and 50 for a decrease.
* `largeQueues` and `lowBandwidths`: what the two counters hold. A call without `is_increasable`
  leaves the one alone, a call with it the other, and a decision resets its own counter only.
* `Uninterrupted`: the calls at which the counters tell what they should.
-/

namespace VirtualConnection
namespace Linux

open Runs Streaks

/-- The statistics that this policy reads. -/
structure ThroughputStats where
  nowQueueDataSize : Int32
  nowTotalBandwidth : Int32
  deriving DecidableEq, Repr

structure NMPolicyThroughputAware where
  mWFDMode : Bool
  mIncreaseCount : Int32
  mDecreaseCount : Int32
  deriving DecidableEq, Repr

namespace NMPolicyThroughputAware

/-- 10KB -/
def increaseThresholdBufferLengthBytes : Int32 := 10 * 1000
/-- 500ms -/
def increaseCountThreshold : Int32 := 5
/-- 500kbps = 62.5KB/s -/
def decreaseThresholdBandwidthBytesPerSec : Int32 := 62500
/-- 5sec -/
def decreaseCountThreshold : Int32 := 50

def create : NMPolicyThroughputAware where
  mWFDMode := false
  mIncreaseCount := 0
  mDecreaseCount := 0

def getStatsString (p : NMPolicyThroughputAware) : String :=
  if p.mWFDMode then "WFD Mode" else "BT Mode"

def decide (p : NMPolicyThroughputAware) (stats : ThroughputStats)
    (isIncreasable isDecreasable : Bool) : SwitchBehavior × NMPolicyThroughputAware :=
  if isIncreasable then
    if stats.nowQueueDataSize > increaseThresholdBufferLengthBytes then
      let p := { p with mIncreaseCount := p.mIncreaseCount + 1 }
      if p.mIncreaseCount ≥ increaseCountThreshold then
        (.kIncreaseAdapter, { p with mIncreaseCount := 0, mWFDMode := true })
      else (.kNoBehavior, p)
    else (.kNoBehavior, { p with mIncreaseCount := 0 })
  else if isDecreasable then
    if stats.nowTotalBandwidth < decreaseThresholdBandwidthBytesPerSec then
      let p := { p with mDecreaseCount := p.mDecreaseCount + 1 }
      if p.mDecreaseCount ≥ decreaseCountThreshold then
        (.kDecreaseAdapter, { p with mDecreaseCount := 0, mWFDMode := false })
      else (.kNoBehavior, p)
    else (.kNoBehavior, { p with mDecreaseCount := 0 })
  else (.kNoBehavior, p)

end NMPolicyThroughputAware

/-! ## Runs -/

namespace ThroughputDecisions

structure DecideCall where
  stats : ThroughputStats
  isIncreasable : Bool
  isDecreasable : Bool
  deriving DecidableEq, Repr

namespace DecideCall

def largeQueue (c : DecideCall) : Bool :=
  c.stats.nowQueueDataSize > NMPolicyThroughputAware.increaseThresholdBufferLengthBytes

def lowBandwidth (c : DecideCall) : Bool :=
  c.stats.nowTotalBandwidth < NMPolicyThroughputAware.decreaseThresholdBandwidthBytesPerSec

/-- Evidence for an increase. -/
def isUp (c : DecideCall) : Bool := c.isIncreasable && c.largeQueue

/-- Evidence for a decrease. -/
def isDown (c : DecideCall) : Bool := c.isDecreasable && c.lowBandwidth

/-- The call comes to the branch for a decrease. -/
def onlyDecreasable (c : DecideCall) : Bool := c.isDecreasable && !c.isIncreasable

end DecideCall

abbrev History := List (DecideCall × SwitchBehavior)

structure PolicyRun where
  policy : NMPolicyThroughputAware
  history : History
  deriving DecidableEq, Repr

def start : PolicyRun := ⟨.create, []⟩

def step (s : PolicyRun) (c : DecideCall) : Except Fault PolicyRun :=
  let (behavior, policy) := s.policy.decide c.stats c.isIncreasable c.isDecreasable
  .ok ⟨policy, (c, behavior) :: s.history⟩

/-- The calls since the last one that returned `b`. -/
def callsSince (b : SwitchBehavior) (h : History) : List DecideCall :=
  (h.takeWhile fun e => e.2 ≠ b).map (·.1)

/-- The calls since the last decision. -/
def sinceDecision (h : History) : List DecideCall :=
  (h.takeWhile fun e => e.2 = .kNoBehavior).map (·.1)

/-- Call `c` and the four before it are evidence for an increase, and no decision lies between. -/
def IncreaseDue (older : History) (c : DecideCall) : Prop :=
  c.isIncreasable = true ∧
    ((c :: sinceDecision older).map (·.isUp)).take 5 = List.replicate 5 true

def DecreaseDue (older : History) (c : DecideCall) : Prop :=
  c.isDecreasable = true ∧ ¬ IncreaseDue older c ∧
    ((c :: sinceDecision older).map (·.isDown)).take 50 = List.replicate 50 true

/-- What a call should return. -/
structure Answers (older : History) (c : DecideCall) (b : SwitchBehavior) : Prop where
  increase : b = .kIncreaseAdapter ↔ IncreaseDue older c
  decrease : b = .kDecreaseAdapter ↔ DecreaseDue older c

/-- Every call returned what it should. -/
def Right : History → Prop
  | [] => True
  | (c, b) :: older => Right older ∧ Answers older c b

/-! ## What the counters hold -/

/-- The calls with `is_increasable` since the last increase, as far back as their queues are large. -/
def largeQueues (h : History) : ℕ :=
  streak true (((callsSince .kIncreaseAdapter h).filter (·.isIncreasable)).map (·.largeQueue))

/-- The calls that can only decrease, since the last decrease, as far back as their bandwidths are
low. -/
def lowBandwidths (h : History) : ℕ :=
  streak true (((callsSince .kDecreaseAdapter h).filter (·.onlyDecreasable)).map (·.lowBandwidth))

/-- How many of the last calls since the last decision are evidence for an increase. -/
def ups (h : History) : ℕ := streak true ((sinceDecision h).map (·.isUp))

/-- How many of the last calls since the last decision are evidence for a decrease. -/
def downs (h : History) : ℕ := streak true ((sinceDecision h).map (·.isDown))

variable {h older : History} {c : DecideCall} {b : SwitchBehavior} {s s' : PolicyRun}

theorem streak_cons (x : Bool) (xs : List Bool) :
    streak true (x :: xs) = if x then streak true xs + 1 else 0 := by
  cases x with
  | false => exact streak_cons_of_ne Bool.false_ne_true
  | true => exact streak_cons_self

theorem largeQueues_cons : largeQueues ((c, b) :: h) =
    if b = .kIncreaseAdapter then 0
    else if c.isIncreasable then if c.largeQueue then largeQueues h + 1 else 0
    else largeQueues h := by
  unfold largeQueues callsSince
  by_cases hb : b = .kIncreaseAdapter
  · simp [hb]
  · by_cases hc : c.isIncreasable = true
    · simp [hb, hc, streak_cons]
    · simp [hb, hc]

theorem lowBandwidths_cons : lowBandwidths ((c, b) :: h) =
    if b = .kDecreaseAdapter then 0
    else if c.onlyDecreasable then if c.lowBandwidth then lowBandwidths h + 1 else 0
    else lowBandwidths h := by
  unfold lowBandwidths callsSince
  by_cases hb : b = .kDecreaseAdapter
  · simp [hb]
  · by_cases hc : c.onlyDecreasable = true
    · simp [hb, hc, streak_cons]
    · simp [hb, hc]

theorem ups_cons : ups ((c, b) :: h) =
    if b = .kNoBehavior then if c.isUp then ups h + 1 else 0 else 0 := by
  unfold ups sinceDecision
  by_cases hb : b = .kNoBehavior
  · simp [hb, streak_cons]
  · simp [hb]

theorem increaseDue_iff : IncreaseDue older c ↔ c.isUp = true ∧ 4 ≤ ups older := by
  rw [IncreaseDue, take_eq_replicate_iff, List.map_cons, streak_cons, ← ups]
  by_cases hc : c.isUp = true
  · have hinc : c.isIncreasable = true := (Bool.and_eq_true_iff.mp hc).1
    simp [hc, hinc]
  · simp [hc]

theorem decreaseDue_iff :
    DecreaseDue older c ↔ c.isDown = true ∧ ¬ IncreaseDue older c ∧ 49 ≤ downs older := by
  rw [DecreaseDue, take_eq_replicate_iff, List.map_cons, streak_cons, ← downs]
  by_cases hc : c.isDown = true
  · have hdec : c.isDecreasable = true := (Bool.and_eq_true_iff.mp hc).1
    simp [hc, hdec]
  · simp [hc]

/-! ## One call -/

/-- What a call does to one of the counters, and whether its threshold was reached. -/
def countEvidence (threshold count : Int32) (evidence : Bool) : Bool × Int32 :=
  if evidence then if count + 1 ≥ threshold then (true, 0) else (false, count + 1) else (false, 0)

/-- An `int` holds a number that has not reached a threshold. -/
structure Counts (threshold : ℕ) (count : Int32) (n : ℕ) : Prop where
  holds : count = Int32.ofNat n
  below : n < threshold

namespace Counts

variable {threshold n : ℕ} {count : Int32}

theorem reset (h : 0 < threshold) : Counts threshold 0 0 := ⟨rfl, h⟩

theorem reaches_iff (h : Counts threshold count n) (ht : threshold < 2 ^ 31) :
    count + 1 ≥ Int32.ofNat threshold ↔ threshold ≤ n + 1 := by
  have hsucc : Int32.ofNat n + 1 = Int32.ofNat (n + 1) := (Int32.ofNat_add n 1).symm
  have hn : n + 1 < 2 ^ 31 := lt_of_le_of_lt h.below ht
  rw [h.holds, ge_iff_le, hsucc, Int32.le_iff_toInt_le, Int32.toInt_ofNat_of_lt ht,
    Int32.toInt_ofNat_of_lt hn]
  omega

theorem succ (h : Counts threshold count n) (hn : ¬ threshold ≤ n + 1) :
    Counts threshold (count + 1) (n + 1) :=
  ⟨by rw [h.holds]; exact (Int32.ofNat_add n 1).symm, by omega⟩

/-- Evidence is counted up to the threshold. -/
theorem advance (h : Counts threshold count n) (limit : Int32) (hlimit : limit = Int32.ofNat threshold)
    (ht : threshold < 2 ^ 31) (evidence : Bool) :
    ((countEvidence limit count evidence).1 = true ↔ evidence = true ∧ threshold ≤ n + 1) ∧
      Counts threshold (countEvidence limit count evidence).2
        (if (countEvidence limit count evidence).1 then 0 else if evidence then n + 1 else 0) := by
  have hpos : 0 < threshold := lt_of_le_of_lt (Nat.zero_le n) h.below
  have hreaches := h.reaches_iff ht
  rw [← hlimit] at hreaches
  cases evidence with
  | false => exact ⟨by simp [countEvidence], .reset hpos⟩
  | true =>
    by_cases hlast : threshold ≤ n + 1
    · simp only [countEvidence, hreaches, hlast, if_true, and_true]
      exact ⟨trivial, .reset hpos⟩
    · simp only [countEvidence, hreaches, hlast, if_true, if_false, and_false, Bool.false_eq_true,
        true_and]
      exact h.succ hlast

end Counts

/-- The counters hold what they should, and stay below their thresholds. The number that would be
right for an increase is not greater than the one in its counter. -/
structure Counters (s : PolicyRun) : Prop where
  increase : Counts 5 s.policy.mIncreaseCount (largeQueues s.history)
  decrease : Counts 50 s.policy.mDecreaseCount (lowBandwidths s.history)
  ups_le : ups s.history ≤ largeQueues s.history

theorem counters_start : Counters start :=
  ⟨.reset (by simp), .reset (by simp), le_refl _⟩

/-- When the code says that a call is to be answered with a switch. -/
structure Returns (s : PolicyRun) (c : DecideCall) (b : SwitchBehavior) : Prop where
  increase : b = .kIncreaseAdapter ↔ c.isUp = true ∧ 4 ≤ largeQueues s.history
  decrease : b = .kDecreaseAdapter ↔
    c.isIncreasable = false ∧ c.isDown = true ∧ 49 ≤ lowBandwidths s.history

/-- A call with `is_increasable` counts large queues, up to the fifth. -/
theorem decide_of_increasable (p : NMPolicyThroughputAware) (hc : c.isIncreasable = true) :
    p.decide c.stats c.isIncreasable c.isDecreasable =
      let r := countEvidence NMPolicyThroughputAware.increaseCountThreshold p.mIncreaseCount
        c.largeQueue
      (if r.1 then .kIncreaseAdapter else .kNoBehavior,
        { p with mIncreaseCount := r.2, mWFDMode := p.mWFDMode || r.1 }) := by
  by_cases hlarge : c.stats.nowQueueDataSize >
      NMPolicyThroughputAware.increaseThresholdBufferLengthBytes
  · by_cases hlast : p.mIncreaseCount + 1 ≥ NMPolicyThroughputAware.increaseCountThreshold
    · simp [NMPolicyThroughputAware.decide, DecideCall.largeQueue, countEvidence, hc, hlarge, hlast]
    · simp [NMPolicyThroughputAware.decide, DecideCall.largeQueue, countEvidence, hc, hlarge, hlast]
  · simp [NMPolicyThroughputAware.decide, DecideCall.largeQueue, countEvidence, hc, hlarge]

/-- A call that can only decrease counts low bandwidths, up to the fiftieth. -/
theorem decide_of_onlyDecreasable (p : NMPolicyThroughputAware) (hc : c.onlyDecreasable = true) :
    p.decide c.stats c.isIncreasable c.isDecreasable =
      let r := countEvidence NMPolicyThroughputAware.decreaseCountThreshold p.mDecreaseCount
        c.lowBandwidth
      (if r.1 then .kDecreaseAdapter else .kNoBehavior,
        { p with mDecreaseCount := r.2, mWFDMode := p.mWFDMode && !r.1 }) := by
  obtain ⟨hdec, hinc⟩ : c.isDecreasable = true ∧ c.isIncreasable = false := by
    simpa [DecideCall.onlyDecreasable] using hc
  by_cases hlow : c.stats.nowTotalBandwidth <
      NMPolicyThroughputAware.decreaseThresholdBandwidthBytesPerSec
  · by_cases hlast : p.mDecreaseCount + 1 ≥ NMPolicyThroughputAware.decreaseCountThreshold
    · simp [NMPolicyThroughputAware.decide, DecideCall.lowBandwidth, countEvidence, hinc, hdec, hlow,
        hlast]
    · simp [NMPolicyThroughputAware.decide, DecideCall.lowBandwidth, countEvidence, hinc, hdec, hlow,
        hlast]
  · simp [NMPolicyThroughputAware.decide, DecideCall.lowBandwidth, countEvidence, hinc, hdec, hlow]

theorem step_eq (s : PolicyRun) (c : DecideCall) :
    step s c = .ok ⟨(s.policy.decide c.stats c.isIncreasable c.isDecreasable).2,
      (c, (s.policy.decide c.stats c.isIncreasable c.isDecreasable).1) :: s.history⟩ := rfl

/-- A call with `is_increasable`: one more large queue, up to the fifth, or none. -/
theorem step_increasable (hs : Counters s) (hc : c.isIncreasable = true) (h : step s c = .ok s') :
    ∃ b, s'.history = (c, b) :: s.history ∧ Counters s' ∧ Returns s c b := by
  have hup : c.isUp = c.largeQueue := by simp [DecideCall.isUp, hc]
  have honly : c.onlyDecreasable = false := by simp [DecideCall.onlyDecreasable, hc]
  obtain ⟨hreached, hcounts⟩ := hs.increase.advance NMPolicyThroughputAware.increaseCountThreshold
    rfl (by simp) c.largeQueue
  rw [step_eq, decide_of_increasable s.policy hc] at h
  obtain rfl := Except.ok.inj h
  generalize countEvidence _ s.policy.mIncreaseCount c.largeQueue = r at hreached hcounts ⊢
  obtain ⟨reached, count⟩ := r
  cases reached with
  | true =>
    refine ⟨.kIncreaseAdapter, rfl, ⟨?_, ?_, ?_⟩, ⟨?_, ?_⟩⟩
    · simpa [largeQueues_cons] using hcounts
    · simpa [lowBandwidths_cons, honly] using hs.decrease
    · simp [ups_cons]
    · simpa [hup] using hreached
    · simp [hc]
  | false =>
    refine ⟨.kNoBehavior, rfl, ⟨?_, ?_, ?_⟩, ⟨?_, ?_⟩⟩
    · simpa [largeQueues_cons, hc] using hcounts
    · simpa [lowBandwidths_cons, honly] using hs.decrease
    · rw [ups_cons, largeQueues_cons, hup]
      cases c.largeQueue with
      | true => simpa [hc] using hs.ups_le
      | false => simp
    · simpa [hup] using hreached
    · simp [hc]

/-- A call without it: one more low bandwidth, up to the fiftieth, or none, if it can decrease. -/
theorem step_not_increasable (hs : Counters s) (hc : c.isIncreasable = false)
    (h : step s c = .ok s') :
    ∃ b, s'.history = (c, b) :: s.history ∧ Counters s' ∧ Returns s c b := by
  have hup : c.isUp = false := by simp [DecideCall.isUp, hc]
  cases hdec : c.isDecreasable with
  | false =>
    have honly : c.onlyDecreasable = false := by simp [DecideCall.onlyDecreasable, hdec]
    have hdecide : s.policy.decide c.stats c.isIncreasable c.isDecreasable =
        (.kNoBehavior, s.policy) := by
      simp [NMPolicyThroughputAware.decide, hc, hdec]
    rw [step_eq, hdecide] at h
    obtain rfl := Except.ok.inj h
    refine ⟨.kNoBehavior, rfl, ⟨?_, ?_, ?_⟩, ⟨?_, ?_⟩⟩
    · simpa [largeQueues_cons, hc] using hs.increase
    · simpa [lowBandwidths_cons, honly] using hs.decrease
    · simp [ups_cons, hup]
    · simp [hup]
    · simp [DecideCall.isDown, hdec]
  | true =>
    have honly : c.onlyDecreasable = true := by simp [DecideCall.onlyDecreasable, hc, hdec]
    have hdown : c.isDown = c.lowBandwidth := by simp [DecideCall.isDown, hdec]
    obtain ⟨hreached, hcounts⟩ := hs.decrease.advance NMPolicyThroughputAware.decreaseCountThreshold
      rfl (by simp) c.lowBandwidth
    rw [step_eq, decide_of_onlyDecreasable s.policy honly] at h
    obtain rfl := Except.ok.inj h
    generalize countEvidence _ s.policy.mDecreaseCount c.lowBandwidth = r at hreached hcounts ⊢
    obtain ⟨reached, count⟩ := r
    cases reached with
    | true =>
      refine ⟨.kDecreaseAdapter, rfl, ⟨?_, ?_, ?_⟩, ⟨?_, ?_⟩⟩
      · simpa [largeQueues_cons, hc] using hs.increase
      · simpa [lowBandwidths_cons] using hcounts
      · simp [ups_cons]
      · simp [hup]
      · simpa [hc, hdown] using hreached
    | false =>
      refine ⟨.kNoBehavior, rfl, ⟨?_, ?_, ?_⟩, ⟨?_, ?_⟩⟩
      · simpa [largeQueues_cons, hc] using hs.increase
      · simpa [lowBandwidths_cons, honly] using hcounts
      · simp [ups_cons, hup]
      · simp [hup]
      · simpa [hc, hdown] using hreached

/-- Everything that a call does to the counters and the history. -/
theorem step_counters (hs : Counters s) (h : step s c = .ok s') :
    ∃ b, s'.history = (c, b) :: s.history ∧ Counters s' ∧ Returns s c b := by
  cases hc : c.isIncreasable with
  | true => exact step_increasable hs hc h
  | false => exact step_not_increasable hs hc h

/-! ## The answers -/

/-- The counters tell at this call what they should: of an increase, that the large queues counted
are those of the last calls; of a decrease, that with `is_increasable` none is due, and that without
it the low bandwidths counted are those of the last calls. -/
def Uninterrupted (s : PolicyRun) (c : DecideCall) : Prop :=
  (c.isUp = true → 4 ≤ largeQueues s.history → 4 ≤ ups s.history) ∧
    (c.isDown = true →
      if c.isIncreasable = true then 49 ≤ downs s.history → IncreaseDue s.history c
      else (49 ≤ lowBandwidths s.history ↔ 49 ≤ downs s.history))

theorem answers_iff (hs : Counters s) (hb : Returns s c b) :
    Answers s.history c b ↔ Uninterrupted s c := by
  have hups := hs.ups_le
  have hincrease : (b = .kIncreaseAdapter ↔ IncreaseDue s.history c) ↔
      (c.isUp = true → 4 ≤ largeQueues s.history → 4 ≤ ups s.history) := by
    rw [hb.increase, increaseDue_iff]
    constructor
    · exact fun h hup hfour => (h.mp ⟨hup, hfour⟩).2
    · intro h
      exact ⟨fun ⟨hup, hfour⟩ => ⟨hup, h hup hfour⟩, fun ⟨hup, hfour⟩ => ⟨hup, by omega⟩⟩
  have hdecrease : (b = .kDecreaseAdapter ↔ DecreaseDue s.history c) ↔
      (c.isDown = true →
        if c.isIncreasable = true then 49 ≤ downs s.history → IncreaseDue s.history c
        else (49 ≤ lowBandwidths s.history ↔ 49 ≤ downs s.history)) := by
    rw [hb.decrease, decreaseDue_iff]
    cases hc : c.isIncreasable with
    | true =>
      simp only [Bool.true_eq_false, false_and, false_iff, if_true, not_and]
      constructor
      · intro h hdown hlast
        by_contra hdue
        exact h hdown hdue hlast
      · intro h hdown hdue hlast
        exact hdue (h hdown hlast)
    | false =>
      have hdue : ¬ IncreaseDue s.history c := fun h => by simpa [hc] using h.1
      simp only [hdue, not_false_eq_true, true_and, Bool.false_eq_true, if_false]
      constructor
      · exact fun h hdown => by simpa [hdown] using h
      · intro h
        by_cases hdown : c.isDown = true
        · simp [hdown, h hdown]
        · simp [hdown]
  constructor
  · exact fun h => ⟨hincrease.mp h.increase, hdecrease.mp h.decrease⟩
  · exact fun h => ⟨hincrease.mpr h.1, hdecrease.mpr h.2⟩

/-- Every call is answered as it should exactly in the runs in which the counters tell at each call
what they should. -/
theorem right_throughout_iff (calls : List DecideCall) :
    (∀ s, Reached step start calls s → Right s.history) ↔ AllSteps step Uninterrupted start calls := by
  refine throughout_iff_allSteps (fun s (h : Counters s ∧ Right s.history) => h.2) ?_ ?_
    ⟨counters_start, trivial⟩
  · intro s c s' hs hc h
    obtain ⟨b, hhistory, hcounters, hb⟩ := step_counters hs.1 h
    refine ⟨hcounters, ?_⟩
    rw [hhistory]
    exact ⟨hs.2, (answers_iff hs.1 hb).mpr hc⟩
  · intro s c s' hs hc h hright
    obtain ⟨b, hhistory, -, hb⟩ := step_counters hs.1 h
    rw [hhistory] at hright
    exact hc ((answers_iff hs.1 hb).mp hright.2)

/-- Calls with the lower of two adapters active, the upper one, and the middle of three. -/
def lower (stats : ThroughputStats) : DecideCall := ⟨stats, true, false⟩
def upper (stats : ThroughputStats) : DecideCall := ⟨stats, false, true⟩
def middle (stats : ThroughputStats) : DecideCall := ⟨stats, true, true⟩

/-- Four calls with a long queue, one while the upper adapter is active, and a fifth: it increases.
With the middle adapter active, fifty calls with a low bandwidth do not decrease. -/
theorem not_right_throughout :
    (∃ s, Reached step start (List.replicate 4 (lower ⟨20000, 0⟩) ++
      [upper ⟨0, 100000⟩, lower ⟨20000, 0⟩]) s ∧ ¬ Right s.history) ∧
    ∃ s, Reached step start (List.replicate 50 (middle ⟨0, 0⟩)) s ∧ ¬ Right s.history := by
  constructor
  · have hview : (run step start (List.replicate 4 (lower ⟨20000, 0⟩) ++
        [upper ⟨0, 100000⟩, lower ⟨20000, 0⟩])).toOption.map (·.history) =
        some ((lower ⟨20000, 0⟩, .kIncreaseAdapter) ::
          (upper ⟨0, 100000⟩, .kNoBehavior) ::
            List.replicate 4 (lower ⟨20000, 0⟩, .kNoBehavior)) := by decide
    obtain ⟨s, hrun, hhistory⟩ := exists_run_of_view _ hview
    refine ⟨s, .of_run hrun, fun hright => ?_⟩
    rw [hhistory] at hright
    have hdue := increaseDue_iff.mp (hright.2.increase.mp rfl)
    exact absurd hdue.2 (by decide)
  · have hview : (run step start (List.replicate 50 (middle ⟨0, 0⟩))).toOption.map (·.history) =
        some (List.replicate 50 (middle ⟨0, 0⟩, .kNoBehavior)) := by decide
    obtain ⟨s, hrun, hhistory⟩ := exists_run_of_view _ hview
    refine ⟨s, .of_run hrun, fun hright => ?_⟩
    rw [hhistory] at hright
    have hdown : DecreaseDue (List.replicate 49 (middle ⟨0, 0⟩, .kNoBehavior))
        (middle ⟨0, 0⟩) := by
      refine decreaseDue_iff.mpr ⟨by decide, fun h => ?_, by decide⟩
      exact absurd (increaseDue_iff.mp h).1 (by decide)
    exact absurd (hright.2.decrease.mpr hdown) (by decide)

/-! ## The mode that is printed -/

/-- The mode follows the decisions. -/
theorem decide_mode (p : NMPolicyThroughputAware) (stats : ThroughputStats)
    (isIncreasable isDecreasable : Bool) :
    (p.decide stats isIncreasable isDecreasable).2.mWFDMode =
      if (p.decide stats isIncreasable isDecreasable).1 = .kNoBehavior then p.mWFDMode
      else (p.decide stats isIncreasable isDecreasable).1 == .kIncreaseAdapter := by
  unfold NMPolicyThroughputAware.decide
  dsimp only
  split
  · split
    · split <;> rfl
    · rfl
  · split
    · split
      · split <;> rfl
      · rfl
    · rfl

/-- The last decision, if there was one. -/
def lastDecision : History → Option SwitchBehavior
  | [] => none
  | (_, b) :: older => if b = .kNoBehavior then lastDecision older else some b

/-- The printed mode is that of the last decision: Bluetooth before the first. -/
theorem getStatsString_eq {calls : List DecideCall} (h : Reached step start calls s) :
    s.policy.getStatsString =
      if lastDecision s.history = some .kIncreaseAdapter then "WFD Mode" else "BT Mode" := by
  have hstep : ∀ (s : PolicyRun) (c : DecideCall) (s' : PolicyRun),
      s.policy.mWFDMode = (lastDecision s.history == some .kIncreaseAdapter) → True →
      step s c = .ok s' →
      s'.policy.mWFDMode = (lastDecision s'.history == some .kIncreaseAdapter) := by
    intro s c s' hs _ h
    rw [step_eq] at h
    obtain rfl := Except.ok.inj h
    rw [lastDecision, decide_mode]
    by_cases hb : (s.policy.decide c.stats c.isIncreasable c.isDecreasable).1 = .kNoBehavior
    · rw [if_pos hb, if_pos hb]
      exact hs
    · rw [if_neg hb, if_neg hb]
      rfl
  have hmode := throughout_of_allSteps hstep rfl (.of_labels (fun _ _ _ => trivial) start) h
  rw [NMPolicyThroughputAware.getStatsString, hmode]
  simp

end ThroughputDecisions
end Linux
end VirtualConnection
