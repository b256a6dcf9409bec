import VirtualConnection.Lib.Truncation
import VirtualConnection.Linux.ControlMessages
import VirtualConnection.Linux.EnergyPredictor
import VirtualConnection.Linux.Segment

/-!
# Linux.NMPolicyHistoryBased

`NMPolicyHistoryBased.cpp`, `TrafficHistoryTable.cpp` and their headers: the policy that decides when
to switch the adapter, from the traffic that was recorded for the running apps.

An `int` is an `Int32`, which wraps around, and a `float` is a rational. What the calls of
`gettimeofday` return is an argument of the function that makes them. A table is built once, and is a
list here; a map returns the first entry inserted under a key.
-/

namespace VirtualConnection
namespace Linux

open ControlMessageReceiver (stoi)
open Truncation (truncate)

inductive SwitchBehavior where
  | kNoBehavior
  | kIncreaseAdapter
  | kDecreaseAdapter
  | kPrepareIncreaseAdapter
  | kPrepareDecreaseAdapter
  | kCancelPrepareSwitchAdapter
  deriving DecidableEq, Repr

/-- `struct timeval` -/
structure Timeval where
  tvSec : ℤ
  tvUsec : ℤ
  deriving DecidableEq, Repr

def Timeval.toUs (t : Timeval) : ℤ := t.tvSec * (1000 * 1000) + t.tvUsec

/-- The statistics that the policy reads. -/
structure Stats where
  emaQueueArrivalSpeed : ℚ
  nowQueueDataSize : Int32
  deriving DecidableEq, Repr

/-! ## The table -/

structure TrafficEntry where
  mTimeSec : ℚ
  mTrafficSequence : List Int32
  deriving DecidableEq, Repr

structure EventTypeEntry where
  mEventType : Int32
  mTrafficList : List TrafficEntry
  deriving DecidableEq, Repr

structure AppEntry where
  mAppName : List Char
  mEventTypeMap : List EventTypeEntry
  deriving DecidableEq, Repr

abbrev TrafficHistoryTable := List AppEntry

namespace EventTypeEntry

/-- `abs`, which is the one of `int` under the headers included: its argument is converted. -/
def absInt (x : ℚ) : Except Fault ℤ :=
  if |truncate x| < 2 ^ 31 then .ok |truncate x| else .error .overflow

/-- The loop of `findItem`: the first of the closest entries. -/
def findClosest (timeSec : ℚ) :
    Option TrafficEntry → ℚ → List TrafficEntry → Except Fault (Option TrafficEntry)
  | closestEntry, _, [] => .ok closestEntry
  | closestEntry, closestTimeDiff, entry :: rest => do
    let entryTimeDiff ← absInt (timeSec - entry.mTimeSec)
    if closestTimeDiff > entryTimeDiff then findClosest timeSec (some entry) entryTimeDiff rest
    else findClosest timeSec closestEntry closestTimeDiff rest

def findItem (e : EventTypeEntry) (timeSec : ℚ) : Except Fault (Option TrafficEntry) :=
  findClosest timeSec none EnergyPredictor.floatMax e.mTrafficList

end EventTypeEntry

def AppEntry.getItem (e : AppEntry) (eventType : Int32) : Option EventTypeEntry :=
  e.mEventTypeMap.find? fun item => item.mEventType = eventType

def TrafficHistoryTable.getItem (table : TrafficHistoryTable) (appName : List Char) :
    Option AppEntry :=
  table.find? fun item => item.mAppName = appName

/-- `find("BG") != npos` -/
def hasBG (name : List Char) : Bool := name.tails.any fun tail => ['B', 'G'].isPrefixOf tail

/-! ## The policy -/

def serialIncCountThreshold : Int32 := 3
def serialDecCountThreshold : Int32 := 3
def incCountThreshold : Int32 := 10
def decCountThreshold : Int32 := 10
def highThreshold : ℚ := 150 * 1000
def lowThreshold : ℚ := 50 * 1000

/-- What `gettimeofday` returns in a call of `decide`, in the order of the calls. -/
structure Readings where
  check : Timeval
  foreground : Timeval
  background : Timeval
  stamp : Timeval
  deriving DecidableEq, Repr

structure NMPolicyHistoryBased where
  mPresentFGAppName : List Char
  mPresentBGAppName : List Char
  mPresentFGAppStartTS : Timeval
  mPresentFGEventType : Int32
  mPresentBGAppStartTS : Timeval
  mPresentBGEventType : Int32
  mLastMediaBandwidth : ℚ
  mRequestSpeedIncCount : Int32
  mRequestSpeedDecCount : Int32
  mSerialIncCount : Int32
  mSerialDecCount : Int32
  mEnergyRetain : ℚ
  mEnergySwitch : ℚ
  mIsRecentWfdOn : Bool
  mBGAppEntry : Option AppEntry
  mRecentSwitchTS : Timeval
  mTrafficPredictionTable : TrafficHistoryTable
  deriving DecidableEq, Repr

namespace NMPolicyHistoryBased

/-- `check_background_app_entry`: more than one background app fails the assertion. -/
def checkBackgroundAppEntry (table : TrafficHistoryTable) : Except Fault (Option AppEntry) :=
  match table.filter fun item => hasBG item.mAppName with
  | [] => .ok none
  | [appEntry] => .ok (some appEntry)
  | _ => .error .assertion

/-- The constructor, with the table that was read. -/
def create (table : TrafficHistoryTable) : Except Fault NMPolicyHistoryBased :=
  match checkBackgroundAppEntry table with
  | .error f => .error f
  | .ok bgAppEntry => .ok {
      mPresentFGAppName := []
      mPresentBGAppName := []
      mPresentFGAppStartTS := ⟨0, 0⟩
      mPresentFGEventType := 0
      mPresentBGAppStartTS := ⟨0, 0⟩
      mPresentBGEventType := 0
      mLastMediaBandwidth := 0
      mRequestSpeedIncCount := 0
      mRequestSpeedDecCount := 0
      mSerialIncCount := 0
      mSerialDecCount := 0
      mEnergyRetain := 0
      mEnergySwitch := 0
      mIsRecentWfdOn := false
      mBGAppEntry := bgAppEntry
      mRecentSwitchTS := ⟨0, 0⟩
      mTrafficPredictionTable := table }

/-! ## Custom events -/

/-- The tokens that `getline` reads: a separator at the end adds none. -/
def tokens (text : List Char) : List (List Char) :=
  let parts := text.splitOn ' '
  if parts.getLast? = some [] then parts.dropLast else parts

/-- The first token, the name of an app. -/
def setAppName (p : NMPolicyHistoryBased) (token : List Char) (now : Timeval) :
    NMPolicyHistoryBased :=
  if hasBG token then
    { p with
      mPresentBGAppStartTS := if p.mPresentBGAppName ≠ token then now else p.mPresentBGAppStartTS
      mPresentBGAppName := token }
  else
    { p with
      mPresentFGAppStartTS := if p.mPresentFGAppName ≠ token then now else p.mPresentFGAppStartTS
      mPresentFGAppName := token }

/-- The second token, the type of an event. -/
def setEventType (p : NMPolicyHistoryBased) (isBackgroundApp : Bool) (token : List Char) :
    Except StdException NMPolicyHistoryBased :=
  match stoi token with
  | .error e => .error e
  | .ok eventType =>
    if isBackgroundApp then .ok { p with mPresentBGEventType := eventType }
    else .ok { p with mPresentFGEventType := eventType }

def resetRecentSwitchTS (p : NMPolicyHistoryBased) : NMPolicyHistoryBased :=
  { p with mRecentSwitchTS := ⟨0, 0⟩ }

def onCustomEvent (p : NMPolicyHistoryBased) (eventDescription : List Char) (now : Timeval) :
    Except StdException NMPolicyHistoryBased :=
  match tokens eventDescription with
  | [] => .ok p.resetRecentSwitchTS
  | [appName] => .ok (p.setAppName appName now).resetRecentSwitchTS
  | appName :: eventType :: _ =>
    match (p.setAppName appName now).setEventType (hasBG appName) eventType with
    | .error e => .error e
    | .ok p => .ok p.resetRecentSwitchTS

/-! ## Predicted traffic -/

def getPredictedTraffic (p : NMPolicyHistoryBased) (appEntry : AppEntry) (isBackgroundApp : Bool)
    (now : Timeval) : Except Fault (Option TrafficEntry) :=
  let presentAppStartTime :=
    if isBackgroundApp then p.mPresentBGAppStartTS else p.mPresentFGAppStartTS
  let eventType := if isBackgroundApp then p.mPresentBGEventType else p.mPresentFGEventType
  match appEntry.getItem eventType with
  | none => .ok none
  | some eventTypeEntry =>
    eventTypeEntry.findItem ((now.toUs - presentAppStartTime.toUs : ℤ) / 1000000)

/-- "Step 2", the foreground app: it may be missing, but not unknown. -/
def findFGAppEntry (p : NMPolicyHistoryBased) : Option (Option AppEntry) :=
  if p.mPresentFGAppName = [] then some none
  else
    match p.mTrafficPredictionTable.getItem p.mPresentFGAppName with
    | none => none
    | some fgAppEntry => some (some fgAppEntry)

/-- "Step 3-a" and "Step 3-b": the traffic of an app, which may be missing. The result is `none` where
`decide_internal` gives up. -/
def predictAppTraffic (p : NMPolicyHistoryBased) (appEntry : Option AppEntry)
    (isBackgroundApp : Bool) (now : Timeval) : Except Fault (Option (Option TrafficEntry)) :=
  match appEntry with
  | none => .ok (some none)
  | some appEntry => (p.getPredictedTraffic appEntry isBackgroundApp now).map (·.map some)

/-- "Step 2" and "Step 3": the traffic of the foreground and of the background app, one of which may
be missing. The result is `none` where `decide_internal` gives up. -/
def predictTraffic (p : NMPolicyHistoryBased) (t : Readings) :
    Except Fault (Option (Option TrafficEntry × Option TrafficEntry)) :=
  match p.findFGAppEntry with
  | none => .ok none
  | some fgAppEntry =>
    if fgAppEntry = none ∧ p.mBGAppEntry = none then .ok none
    else
      match p.predictAppTraffic fgAppEntry false t.foreground with
      | .error f => .error f
      | .ok none => .ok none
      | .ok (some fgTraffic) =>
        match p.predictAppTraffic p.mBGAppEntry true t.background with
        | .error f => .error f
        | .ok none => .ok none
        | .ok (some bgTraffic) => .ok (some (fgTraffic, bgTraffic))

/-- `predicted_traffic_length`, an `int`: the one of the background app comes second. -/
def predictedTrafficLength (fgTraffic bgTraffic : Option (List Int32)) : Int32 :=
  let length : Int32 := 0
  let length := match fgTraffic with
    | none => length
    | some traffic => Int32.ofNat traffic.length
  match bgTraffic with
  | none => length
  | some traffic => Int32.ofNat traffic.length

/-- The element of a sequence, which is not checked to be there. -/
def trafficAt (traffic : Option (List Int32)) (i : ℕ) : Except Fault Int32 :=
  match traffic with
  | none => .ok 0
  | some traffic =>
    match traffic[i]? with
    | none => .error .outOfBounds
    | some x => .ok x

/-- "Step 3-C" -/
def mergeTraffic (fgTraffic bgTraffic : Option (List Int32)) : Except Fault (List Int32) :=
  (List.range (predictedTrafficLength fgTraffic bgTraffic).toInt.toNat).mapM fun i => do
    let fg ← trafficAt fgTraffic i
    let bg ← trafficAt bgTraffic i
    return 0 + fg + bg

/-! ## Decisions -/

/-- "Step 1-b" -/
def countRequestSpeed (p : NMPolicyHistoryBased) (stats : Stats) : NMPolicyHistoryBased :=
  let presentMediaBandwidth := stats.emaQueueArrivalSpeed + stats.nowQueueDataSize.toInt
  let inc := { p with
    mRequestSpeedIncCount := p.mRequestSpeedIncCount + 1
    mRequestSpeedDecCount := 0
    mLastMediaBandwidth := presentMediaBandwidth }
  let dec := { p with
    mRequestSpeedDecCount := p.mRequestSpeedDecCount + 1
    mRequestSpeedIncCount := 0
    mLastMediaBandwidth := presentMediaBandwidth }
  if presentMediaBandwidth > highThreshold then inc
  else if presentMediaBandwidth < lowThreshold then dec
  else if presentMediaBandwidth > p.mLastMediaBandwidth then inc
  else if presentMediaBandwidth < p.mLastMediaBandwidth then dec
  else { p with mLastMediaBandwidth := presentMediaBandwidth }

/-- The two checks that end "Step 1". -/
def isFiltered (p : NMPolicyHistoryBased) (isIncreasable isDecreasable : Bool) : Bool :=
  p.mRequestSpeedIncCount < incCountThreshold ∧ p.mRequestSpeedDecCount < decCountThreshold ∨
    isIncreasable ∧ p.mRequestSpeedDecCount > decCountThreshold ∨
    isDecreasable ∧ p.mRequestSpeedIncCount > incCountThreshold

/-- "Step 4" -/
def decideByEnergy (p : NMPolicyHistoryBased) (segQLength : Int32) (trafficSeq : List Int32)
    (isIncreasable isDecreasable : Bool) : SwitchBehavior × NMPolicyHistoryBased :=
  if isIncreasable then
    let energyBt := EnergyPredictor.predictEnergy segQLength trafficSeq EnergyPredictor.scenarioBt
    let energyBtToWfd :=
      EnergyPredictor.predictEnergy segQLength trafficSeq EnergyPredictor.scenarioBtToWfd
    let p := { p with mEnergyRetain := energyBt, mEnergySwitch := energyBtToWfd }
    if energyBt < 0 ∨ energyBtToWfd < 0 then (.kNoBehavior, p)
    else if energyBt > energyBtToWfd ∨ energyBt = EnergyPredictor.floatMax then
      (.kIncreaseAdapter, p)
    else (.kNoBehavior, p)
  else if isDecreasable then
    let energyWfd :=
      EnergyPredictor.predictEnergy segQLength trafficSeq EnergyPredictor.scenarioWfd
    let energyWfdToBt :=
      EnergyPredictor.predictEnergy segQLength trafficSeq EnergyPredictor.scenarioWfdToBt
    let p := { p with mEnergyRetain := energyWfd, mEnergySwitch := energyWfdToBt }
    if energyWfd < 0 ∨ energyWfdToBt < 0 then (.kNoBehavior, p)
    else if energyWfd > energyWfdToBt then (.kDecreaseAdapter, p)
    else (.kNoBehavior, p)
  else (.kNoBehavior, p)

def decideInternal (p : NMPolicyHistoryBased) (stats : Stats) (isIncreasable isDecreasable : Bool)
    (t : Readings) : Except Fault (SwitchBehavior × NMPolicyHistoryBased) :=
  let p := p.countRequestSpeed stats
  if p.isFiltered isIncreasable isDecreasable then .ok (.kNoBehavior, p)
  else
    match p.predictTraffic t with
    | .error f => .error f
    | .ok none => .ok (.kNoBehavior, p)
    | .ok (some (fgTraffic, bgTraffic)) =>
      match mergeTraffic (fgTraffic.map (·.mTrafficSequence)) (bgTraffic.map (·.mTrafficSequence)) with
      | .error f => .error f
      | .ok trafficSeq =>
        .ok (p.decideByEnergy stats.nowQueueDataSize trafficSeq isIncreasable isDecreasable)

/-- "No decision after switch for prediction window": a stamp with a zero in either part is taken
for none. -/
def InQuietPeriod (p : NMPolicyHistoryBased) (present : Timeval) : Prop :=
  p.mRecentSwitchTS.tvSec ≠ 0 ∧ p.mRecentSwitchTS.tvUsec ≠ 0 ∧
    present.toUs - p.mRecentSwitchTS.toUs <
      EnergyPredictor.predictionWindowSec * 1000 * 1000 / 2

instance (p : NMPolicyHistoryBased) (present : Timeval) : Decidable (p.InQuietPeriod present) :=
  inferInstanceAs (Decidable (_ ∧ _ ∧ _))

/-- "Filtering intermittent decision" -/
def filterVote (p : NMPolicyHistoryBased) (vote : SwitchBehavior) :
    SwitchBehavior × NMPolicyHistoryBased :=
  if vote = .kIncreaseAdapter then
    let r := if p.mSerialIncCount < serialIncCountThreshold then
        (SwitchBehavior.kNoBehavior, p.mIsRecentWfdOn) else (vote, true)
    (r.1, { p with
      mIsRecentWfdOn := r.2
      mSerialIncCount := p.mSerialIncCount + 1
      mSerialDecCount := 0 })
  else if vote = .kDecreaseAdapter then
    let r := if p.mSerialDecCount < serialDecCountThreshold then
        (SwitchBehavior.kNoBehavior, p.mIsRecentWfdOn) else (vote, false)
    (r.1, { p with
      mIsRecentWfdOn := r.2
      mSerialDecCount := p.mSerialDecCount + 1
      mSerialIncCount := 0 })
  else (vote, { p with mSerialIncCount := 0, mSerialDecCount := 0 })

def updateRecentSwitchTS (p : NMPolicyHistoryBased) (now : Timeval) : NMPolicyHistoryBased :=
  { p with mRecentSwitchTS := now }

def decide (p : NMPolicyHistoryBased) (stats : Stats) (isIncreasable isDecreasable : Bool)
    (t : Readings) : Except Fault (SwitchBehavior × NMPolicyHistoryBased) :=
  if p.InQuietPeriod t.check then .ok (.kNoBehavior, p)
  else
    match p.decideInternal stats isIncreasable isDecreasable t with
    | .error f => .error f
    | .ok (vote, p) =>
      let (behavior, p) := p.filterVote vote
      if behavior = .kIncreaseAdapter ∨ behavior = .kDecreaseAdapter then
        .ok (behavior, p.updateRecentSwitchTS t.stamp)
      else .ok (behavior, p)

end NMPolicyHistoryBased

end Linux
end VirtualConnection
