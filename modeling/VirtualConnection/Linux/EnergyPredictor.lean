import Mathlib.Data.Rat.Cast.Order
import Mathlib.Logic.Function.Iterate
import Mathlib.Tactic.NormNum
import VirtualConnection.Lib.Backlog

/-!
# Linux.EnergyPredictor

`EnergyPredictor.cpp`. The traffic of the next seconds is laid out over one-second slots, once to
find the bandwidth of each slot and once more to add up its power. Each of the two simulations
follows the adapter through a switch with a countdown of its own.

An `int` is an `Int32`, and a `float` is the rational its decimals denote. The maximum bandwidths are
whole numbers of bytes, so that comparing them with an `int` and converting them to one is exact.
-/

namespace VirtualConnection
namespace Linux

/-- `ADAPTER_BT` and the others. -/
inductive AdapterId where
  | bt
  | wfd
  | btToWfd
  | wfdToBt
  deriving DecidableEq, Repr

namespace EnergyPredictor

def predictionWindowSec : ℕ := 30

def scenarioBt : ℤ := 1
def scenarioWfd : ℤ := 2
def scenarioBtToWfd : ℤ := 3
def scenarioWfdToBt : ℤ := 4

def latencyBtToWfd : ℚ := 5.4015
def latencyWfdToBt : ℚ := 6.8679

/-- The default of the source, -1, needs an adapter that is not there. -/
def getMaxBW : AdapterId → Int32
  | .bt => 75000
  | .wfd => 3500000
  | .btToWfd => 75000
  | .wfdToBt => 3500000

/-- The result -1 of the source is `none`. -/
def getInitialAdapter (scenarioId : ℤ) : Option AdapterId :=
  if scenarioId = scenarioBt then some .bt
  else if scenarioId = scenarioWfd then some .wfd
  else if scenarioId = scenarioBtToWfd then some .btToWfd
  else if scenarioId = scenarioWfdToBt then some .wfdToBt
  else none

def getSwitchLatency (scenarioId : ℤ) : ℚ :=
  if scenarioId = scenarioBtToWfd then latencyBtToWfd
  else if scenarioId = scenarioWfdToBt then latencyWfdToBt
  else -1

def getSwitchBackLatency (scenarioId : ℤ) : ℚ :=
  if scenarioId = scenarioBtToWfd then latencyWfdToBt else -1

/-- The variables that `predictBandwidthSeq` follows a switch with. -/
structure BandwidthPhase where
  presentAdapterId : AdapterId
  remainSwitchLatency : ℚ
  isSwitching : Bool
  isDelayedSwitch : Bool
  deriving DecidableEq, Repr

namespace BandwidthPhase

def start (scenarioId : ℤ) (initialAdapter : AdapterId) : BandwidthPhase where
  presentAdapterId := initialAdapter
  remainSwitchLatency := getSwitchLatency scenarioId
  isSwitching := 0 < getSwitchLatency scenarioId
  isDelayedSwitch := false

/-- "Predict switch". The bandwidth of WFD is applied one slot late. -/
def next (s : BandwidthPhase) : BandwidthPhase :=
  if s.isSwitching then
    let latency := s.remainSwitchLatency - 1
    if latency < 0 then
      { presentAdapterId := if s.presentAdapterId = .wfdToBt then .bt else s.presentAdapterId
        remainSwitchLatency := latency
        isSwitching := false
        isDelayedSwitch := if s.presentAdapterId = .btToWfd then true else s.isDelayedSwitch }
    else { s with remainSwitchLatency := latency }
  else if s.isDelayedSwitch then { s with presentAdapterId := .wfd, isDelayedSwitch := false }
  else s

end BandwidthPhase

/-- "Predict bandwidth of a time item". -/
def slotBandwidth (adapterId : AdapterId) (dataPrepared : Int32) : Int32 :=
  if dataPrepared < getMaxBW adapterId then dataPrepared else getMaxBW adapterId

/-- The loop over the traffic: the bandwidths, and the phase and the remainder it ends with. -/
def predictTraffic : BandwidthPhase → Int32 → List Int32 → List Int32 × BandwidthPhase × Int32
  | s, remainderDataSize, [] => ([], s, remainderDataSize)
  | s, remainderDataSize, traffic :: rest =>
    let s := s.next
    let dataPrepared := remainderDataSize + traffic
    let bandwidth := slotBandwidth s.presentAdapterId dataPrepared
    let r := predictTraffic s (dataPrepared - bandwidth) rest
    (bandwidth :: r.1, r.2)

theorem getMaxBW_pos (adapterId : AdapterId) : 0 < (getMaxBW adapterId).toInt := by
  cases adapterId <;> decide

theorem slotBandwidth_toInt (adapterId : AdapterId) (dataPrepared : Int32) :
    (slotBandwidth adapterId dataPrepared).toInt =
      min dataPrepared.toInt (getMaxBW adapterId).toInt := by
  unfold slotBandwidth
  split
  · rename_i h
    rw [min_eq_left (Int32.lt_iff_toInt_lt.mp h).le]
  · rename_i h
    rw [min_eq_right (Int.not_lt.mp (Int32.lt_iff_toInt_lt.not.mp h))]

/-- What is left after a slot does not overflow. -/
theorem toInt_sub_slotBandwidth (adapterId : AdapterId) {dataPrepared : Int32}
    (h : 0 ≤ dataPrepared.toInt) :
    (dataPrepared - slotBandwidth adapterId dataPrepared).toInt =
      dataPrepared.toInt - min dataPrepared.toInt (getMaxBW adapterId).toInt := by
  have hmax := getMaxBW_pos adapterId
  have hlt := dataPrepared.toInt_lt
  rw [Int32.toInt_sub, slotBandwidth_toInt]
  exact Int.bmod_eq_of_le (by omega) (by omega)

theorem toNat_sub_slotBandwidth_lt (adapterId : AdapterId) {remainderDataSize : Int32}
    (h : 0 < remainderDataSize) :
    (remainderDataSize - slotBandwidth adapterId remainderDataSize).toInt.toNat <
      remainderDataSize.toInt.toNat := by
  have hpos : 0 < remainderDataSize.toInt := Int32.lt_iff_toInt_lt.mp h
  have hmax := getMaxBW_pos adapterId
  rw [toInt_sub_slotBandwidth adapterId hpos.le]
  omega

/-- The remainder is distributed to extra slots, in the phase the traffic ended with. -/
def drain (adapterId : AdapterId) (remainderDataSize : Int32) : List Int32 :=
  if 0 < remainderDataSize then
    let bandwidth := slotBandwidth adapterId remainderDataSize
    bandwidth :: drain adapterId (remainderDataSize - bandwidth)
  else []
termination_by remainderDataSize.toInt.toNat
decreasing_by exact toNat_sub_slotBandwidth_lt adapterId ‹_›

/-- `none` is the result `false`: the sequence to be filled is not empty, or there is no such
scenario. -/
def predictBandwidthSeq (segmentQueueLength : Int32) (trafficSeq : List Int32) (scenarioId : ℤ)
    (bandwidthSeq : List Int32) : Option (List Int32) :=
  if bandwidthSeq ≠ [] then none
  else
    match getInitialAdapter scenarioId with
    | none => none
    | some adapterId =>
      let r := predictTraffic (.start scenarioId adapterId) segmentQueueLength trafficSeq
      some (r.1 ++ drain r.2.1.presentAdapterId r.2.2)

/-! ## The power of a slot -/

/-- The coefficients `RM_*_B0`, `RM_*_B1` and `RM_*_B2`. -/
def regressionModel : AdapterId → ℚ × ℚ × ℚ
  | .bt => (20.56, 1.756, -0.001641)
  | .wfd => (143.8, 0.1964, -0.000006769)
  | .btToWfd => (217.7, 4.433, -0.02262)
  | .wfdToBt => (203.3, 0.1869, -0.00001695)

def getPower (bandwidth : Int32) (adapterId : AdapterId) : ℚ :=
  let bwKb : ℚ := bandwidth.toInt / 1000
  let b := regressionModel adapterId
  b.1 + b.2.1 * bwKb + b.2.2 * bwKb * bwKb

/-- The variables that `_predictEnergy` follows a switch with. -/
structure EnergyPhase where
  presentAdapterId : AdapterId
  remainSwitchLatency : ℚ
  isSwitching : Bool
  remainSwitchBackStart : ℚ
  isSwitchBack : Bool
  deriving DecidableEq, Repr

namespace EnergyPhase

/-- `size` is the length of the bandwidth sequence. -/
def start (scenarioId : ℤ) (initialAdapter : AdapterId) (size : ℕ) : EnergyPhase where
  presentAdapterId := initialAdapter
  remainSwitchLatency := getSwitchLatency scenarioId
  isSwitching := 0 < getSwitchLatency scenarioId
  remainSwitchBackStart :=
    if 0 < getSwitchBackLatency scenarioId then size - getSwitchBackLatency scenarioId else -1
  isSwitchBack := 0 < getSwitchBackLatency scenarioId

/-- "Predict switch and update energy". -/
def switch (s : EnergyPhase) : EnergyPhase :=
  if s.isSwitching then
    let latency := s.remainSwitchLatency - 1
    if latency < 0 then
      { s with
        presentAdapterId :=
          if s.presentAdapterId = .btToWfd then .wfd
          else if s.presentAdapterId = .wfdToBt then .bt
          else s.presentAdapterId
        remainSwitchLatency := latency
        isSwitching := false }
    else { s with remainSwitchLatency := latency }
  else s

/-- "Predict switch back". -/
def switchBack (s : EnergyPhase) : EnergyPhase :=
  if s.isSwitchBack then
    let backStart := s.remainSwitchBackStart - 1
    if backStart < 0 ∧ (s.presentAdapterId = .wfd ∨ s.presentAdapterId = .btToWfd) then
      { s with
        presentAdapterId := .wfdToBt
        remainSwitchBackStart := backStart
        isSwitchBack := false }
    else { s with remainSwitchBackStart := backStart }
  else s

def next (s : EnergyPhase) : EnergyPhase := s.switch.switchBack

end EnergyPhase

/-- The loop over the bandwidths. A slot is charged before the switch is followed. -/
def addPower : EnergyPhase → ℚ → List Int32 → ℚ
  | _, totalEnergy, [] => if totalEnergy < 0 then 0 else totalEnergy
  | s, totalEnergy, bandwidth :: rest =>
    let power := getPower bandwidth s.presentAdapterId
    if power < 0 then -1 else addPower s.next (totalEnergy + power) rest

/-- `std::numeric_limits<float>::max()`. -/
def floatMax : ℚ := (2 ^ 24 - 1) * 2 ^ 104

/-- `_predictEnergy`. -/
def predictSeqEnergy (bandwidthSeq : List Int32) (scenarioId : ℤ) : ℚ :=
  match getInitialAdapter scenarioId with
  | none => -1
  | some adapterId =>
    if bandwidthSeq.length > predictionWindowSec * 2 then floatMax
    else addPower (.start scenarioId adapterId bandwidthSeq.length) 0 bandwidthSeq

def predictEnergy (segmentQueueLength : Int32) (trafficSeq : List Int32) (scenarioId : ℤ) : ℚ :=
  match predictBandwidthSeq segmentQueueLength trafficSeq scenarioId [] with
  | none => -1
  | some bandwidthSeq => predictSeqEnergy bandwidthSeq scenarioId

end EnergyPredictor

end Linux
end VirtualConnection
