import Mathlib.Tactic.Linarith
import Mathlib.Tactic.Ring
import VirtualConnection.Linux.PredictedBandwidth

/-!
# Linux.PredictedEnergy

`_predictEnergy` follows the adapter through the switch once more, and charges each slot to the state
it finds. Two kinds of input make it charge a slot to Bluetooth that `predictBandwidthSeq` let run at
the speed of Wi-Fi Direct:

* switching to Wi-Fi Direct, a sequence of 7 to 11 slots starts to switch back before the switch is
  complete; the rest of the countdown then turns "switching back" into Bluetooth;
* switching to Bluetooth, the data of at most 6 seconds are sent in extra slots, where the bandwidth
  stays that of Wi-Fi Direct.
-/

namespace VirtualConnection
namespace Linux
namespace EnergyPredictor

open Backlog

/-- The adapter whose power model slot `k` of a sequence of `size` slots is charged to. -/
def chargedAdapter (scenarioId : ℤ) (adapterId : AdapterId) (size k : ℕ) : AdapterId :=
  (EnergyPhase.next^[k] (.start scenarioId adapterId size)).presentAdapterId

/-! ## The power models -/

/-- A concave parabola does not fall below zero before the point where its chord does. -/
theorem concave_nonneg {b₀ b₁ b₂ x y : ℚ} (h₀ : 0 ≤ b₀) (h₂ : b₂ ≤ 0) (hchord : 0 ≤ b₁ + b₂ * y)
    (hx : 0 ≤ x) (hxy : x ≤ y) : 0 ≤ b₀ + b₁ * x + b₂ * x * x := by
  have hslope : 0 ≤ b₁ + b₂ * x := by
    have := mul_le_mul_of_nonpos_left hxy h₂
    linarith
  have hterm := mul_nonneg hslope hx
  have : b₀ + b₁ * x + b₂ * x * x = b₀ + (b₁ + b₂ * x) * x := by ring
  linarith

/-- Within the maximum bandwidth of its adapter, a slot has a power that is not negative. -/
theorem getPower_nonneg {bandwidth : Int32} {adapterId : AdapterId} (h₀ : 0 ≤ bandwidth.toInt)
    (hmax : bandwidth.toInt ≤ (getMaxBW adapterId).toInt) : 0 ≤ getPower bandwidth adapterId := by
  have hx : (0 : ℚ) ≤ bandwidth.toInt / 1000 := div_nonneg (by exact_mod_cast h₀) (by norm_num)
  have hxy : (bandwidth.toInt / 1000 : ℚ) ≤ (getMaxBW adapterId).toInt / 1000 :=
    div_le_div_of_nonneg_right (by exact_mod_cast hmax) (by norm_num)
  cases adapterId <;>
    exact concave_nonneg (by simp only [regressionModel]; norm_num)
      (by simp only [regressionModel]; norm_num) (by decide +kernel) hx hxy

/-- Past the root of its parabola, Bluetooth has a negative power. -/
theorem getPower_bt_neg_iff {bandwidth : Int32} (h₀ : 0 ≤ bandwidth.toInt) :
    getPower bandwidth .bt < 0 ↔ 1081662 < bandwidth.toInt := by
  simp only [getPower, regressionModel]
  constructor
  · intro hneg
    by_contra hle
    have hx : (0 : ℚ) ≤ bandwidth.toInt / 1000 := div_nonneg (by exact_mod_cast h₀) (by norm_num)
    have hxy : (bandwidth.toInt / 1000 : ℚ) ≤ 1081.662 := by
      have : (bandwidth.toInt : ℚ) ≤ 1081662 := by exact_mod_cast Int.not_lt.mp hle
      linarith
    nlinarith [mul_nonneg hx (sub_nonneg.mpr hxy)]
  · intro hlt
    have hx : (1081.663 : ℚ) ≤ bandwidth.toInt / 1000 := by
      have : (1081663 : ℚ) ≤ bandwidth.toInt := by exact_mod_cast hlt
      linarith
    nlinarith [mul_nonneg (sub_nonneg.mpr hx) (sub_nonneg.mpr hx)]

/-! ## The charged adapter -/

/-- Both countdowns go on. -/
theorem EnergyPhase.next_of_waiting {s : EnergyPhase} (h₁ : s.isSwitching = true)
    (h₂ : s.isSwitchBack = true) (hlatency : ¬ s.remainSwitchLatency - 1 < 0)
    (hback : ¬ s.remainSwitchBackStart - 1 < 0) :
    s.next = { s with
      remainSwitchLatency := s.remainSwitchLatency - 1
      remainSwitchBackStart := s.remainSwitchBackStart - 1 } := by
  have hswitch : s.switch = { s with remainSwitchLatency := s.remainSwitchLatency - 1 } := by
    simp [switch, h₁, hlatency]
  rw [next, hswitch, switchBack]
  simp [h₂, hback]

theorem EnergyPhase.next_of_idle {s : EnergyPhase} (h₁ : s.isSwitching = false)
    (h₂ : s.isSwitchBack = false) : s.next = s := by
  simp [next, switch, switchBack, h₁, h₂]

/-- Without a switch, every slot is charged to the adapter of the scenario. -/
theorem chargedAdapter_steady {scenarioId : ℤ} {adapterId : AdapterId}
    (hscenario : getInitialAdapter scenarioId = some adapterId)
    (hsteady : adapterId = .bt ∨ adapterId = .wfd) (size k : ℕ) :
    chargedAdapter scenarioId adapterId size k = adapterId := by
  obtain ⟨hlatency, hback⟩ :
      ¬ 0 < getSwitchLatency scenarioId ∧ ¬ 0 < getSwitchBackLatency scenarioId := by
    rcases scenario_cases hscenario with ⟨rfl, rfl⟩ | ⟨rfl, rfl⟩ | ⟨rfl, rfl⟩ | ⟨rfl, rfl⟩
    · decide +kernel
    · decide +kernel
    · rcases hsteady with h | h <;> cases h
    · rcases hsteady with h | h <;> cases h
  have hidle : (EnergyPhase.start scenarioId adapterId size).next =
      .start scenarioId adapterId size :=
    EnergyPhase.next_of_idle (decide_eq_false hlatency) (decide_eq_false hback)
  rw [chargedAdapter, Function.iterate_fixed hidle]
  rfl

/-- The switch to Bluetooth is charged for seven slots. -/
theorem chargedAdapter_wfdToBt (size k : ℕ) :
    chargedAdapter scenarioWfdToBt .wfdToBt size k = if k < 7 then .wfdToBt else .bt := by
  have hstart : EnergyPhase.start scenarioWfdToBt .wfdToBt size =
      EnergyPhase.start scenarioWfdToBt .wfdToBt 0 := rfl
  have hfixed : (EnergyPhase.next^[7] (.start scenarioWfdToBt .wfdToBt 0)).next =
      EnergyPhase.next^[7] (.start scenarioWfdToBt .wfdToBt 0) := by
    decide +kernel
  have hearly : ∀ m : Fin 7, (EnergyPhase.next^[m.val]
      (.start scenarioWfdToBt .wfdToBt 0)).presentAdapterId = .wfdToBt := by
    decide +kernel
  rw [chargedAdapter, hstart]
  split
  · exact hearly ⟨k, ‹_›⟩
  · obtain ⟨m, rfl⟩ : ∃ m, k = m + 7 := ⟨k - 7, by omega⟩
    rw [Function.iterate_add_apply, Function.iterate_fixed hfixed]
    decide +kernel

/-- A short sequence switches back too early, and ends up with Bluetooth. -/
theorem chargedAdapter_btToWfd_short {size k : ℕ} (hsize : size ≤ 11) (hk : 6 ≤ k) :
    chargedAdapter scenarioBtToWfd .btToWfd size k = .bt := by
  have hall : ∀ size : Fin 12,
      (EnergyPhase.next^[6] (.start scenarioBtToWfd .btToWfd size)).next =
        EnergyPhase.next^[6] (.start scenarioBtToWfd .btToWfd size) ∧
      (EnergyPhase.next^[6] (.start scenarioBtToWfd .btToWfd size)).presentAdapterId = .bt := by
    decide +kernel
  obtain ⟨hfixed, hbt⟩ := hall ⟨size, by omega⟩
  obtain ⟨m, rfl⟩ : ∃ m, k = m + 6 := ⟨k - 6, by omega⟩
  rw [chargedAdapter, Function.iterate_add_apply, Function.iterate_fixed hfixed, hbt]

/-- After the switch, WFD, or on the way back. -/
structure EnergyPhase.Switched (s : EnergyPhase) : Prop where
  done : s.isSwitching = false
  adapter : s.presentAdapterId = .wfd ∨ s.presentAdapterId = .wfdToBt

theorem EnergyPhase.Switched.next {s : EnergyPhase} (h : s.Switched) : s.next.Switched := by
  have hswitch : s.switch = s := by simp [switch, h.done]
  unfold EnergyPhase.next switchBack
  rw [hswitch]
  split
  · simp only
    split
    · exact ⟨h.done, .inr rfl⟩
    · exact ⟨h.done, h.adapter⟩
  · exact h

/-- Both countdowns after `m` slots. -/
def EnergyPhase.counting (size m : ℕ) : EnergyPhase where
  presentAdapterId := .btToWfd
  remainSwitchLatency := 5.4015 - m
  isSwitching := true
  remainSwitchBackStart := size - 6.8679 - m
  isSwitchBack := true

theorem EnergyPhase.start_btToWfd (size : ℕ) :
    EnergyPhase.start scenarioBtToWfd .btToWfd size = .counting size 0 := by
  have hback : 0 < getSwitchBackLatency scenarioBtToWfd := by decide +kernel
  have hlatency : 0 < getSwitchLatency scenarioBtToWfd := by decide +kernel
  simp [start, counting, hback, hlatency]
  exact ⟨rfl, rfl⟩

theorem EnergyPhase.next_counting {size m : ℕ} (hsize : 12 ≤ size) (hm : m ≤ 4) :
    (counting size m).next = counting size (m + 1) := by
  have hm' : (m : ℚ) ≤ 4 := by exact_mod_cast hm
  have hsize' : (12 : ℚ) ≤ size := by exact_mod_cast hsize
  have hlatency : ¬ (counting size m).remainSwitchLatency - 1 < 0 := by
    simp only [counting]
    linarith
  have hback : ¬ (counting size m).remainSwitchBackStart - 1 < 0 := by
    simp only [counting]
    linarith
  rw [next_of_waiting rfl rfl hlatency hback]
  simp only [counting, Nat.cast_add, Nat.cast_one, sub_sub, add_assoc]

/-- Neither countdown ends in the first five slots of a longer sequence. -/
theorem energyPhase_btToWfd_early {size m : ℕ} (hsize : 12 ≤ size) (hm : m ≤ 5) :
    EnergyPhase.next^[m] (.start scenarioBtToWfd .btToWfd size) = .counting size m := by
  induction m with
  | zero => exact EnergyPhase.start_btToWfd size
  | succ m ih =>
    rw [Function.iterate_succ_apply', ih (by omega), EnergyPhase.next_counting hsize (by omega)]

/-- A longer sequence completes its switch before it switches back. -/
theorem chargedAdapter_btToWfd_long {size k : ℕ} (hsize : 12 ≤ size) (hk : 6 ≤ k) :
    chargedAdapter scenarioBtToWfd .btToWfd size k = .wfd ∨
      chargedAdapter scenarioBtToWfd .btToWfd size k = .wfdToBt := by
  have hswitched : (EnergyPhase.next^[k]
      (.start scenarioBtToWfd .btToWfd size)).Switched := by
    induction k, hk using Nat.le_induction with
    | base =>
      rw [Function.iterate_succ_apply', energyPhase_btToWfd_early hsize (le_refl 5)]
      have hlatency : 5.4015 - ((5 : ℕ) : ℚ) - 1 < 0 := by norm_num
      simp only [EnergyPhase.next, EnergyPhase.switch, EnergyPhase.switchBack,
        EnergyPhase.counting, if_true, if_pos hlatency]
      split
      · exact ⟨rfl, .inr rfl⟩
      · exact ⟨rfl, .inl rfl⟩
    | succ k hk ih =>
      rw [Function.iterate_succ_apply']
      exact ih.next
  exact hswitched.adapter

/-! ## The sum -/

/-- The sum fails exactly at a slot with a negative power. -/
theorem addPower_eq_neg_one_iff {totalEnergy : ℚ} (htotal : 0 ≤ totalEnergy) (s : EnergyPhase)
    (seq : List Int32) :
    addPower s totalEnergy seq = -1 ↔
      ∃ k, ∃ hk : k < seq.length, getPower seq[k] (EnergyPhase.next^[k] s).presentAdapterId < 0 := by
  induction seq generalizing s totalEnergy with
  | nil =>
    have hne : totalEnergy ≠ -1 := by linarith
    simp [addPower, not_lt.mpr htotal, hne]
  | cons bandwidth rest ih =>
    rw [addPower]
    by_cases hneg : getPower bandwidth s.presentAdapterId < 0
    · simp only [if_pos hneg, true_iff]
      exact ⟨0, by simp, hneg⟩
    · simp only [if_neg hneg]
      rw [ih (add_nonneg htotal (not_lt.mp hneg))]
      constructor
      · rintro ⟨k, hk, h⟩
        exact ⟨k + 1, by simpa using hk, h⟩
      · rintro ⟨k, hk, h⟩
        cases k with
        | zero => exact absurd h hneg
        | succ k => exact ⟨k, by simpa using hk, h⟩

/-! ## Slots charged to the wrong adapter -/

/-- With the capacities `cap`, some slot from `first` on has more than `bound` bytes to send, and
before slot `last` everything has been sent. Both are said about the data that some consecutive
slots bring. -/
def Overload (segmentQueueLength : Int32) (trafficSeq : List Int32) (cap : ℕ → ℤ) (bound : ℤ)
    (first last : ℕ) : Prop :=
  (∀ j ≤ last,
    load segmentQueueLength.toInt (arrivals trafficSeq) j last ≤ total cap j last) ∧
  ∃ k, first ≤ k ∧ k < last ∧ ∃ j ≤ k,
    bound + total cap j k < load segmentQueueLength.toInt (arrivals trafficSeq) j (k + 1)

/-- More than `bound` bytes in a slot that is charged to Bluetooth and sent by Wi-Fi Direct. -/
def Mischarged (segmentQueueLength : Int32) (trafficSeq : List Int32) (scenarioId bound : ℤ) :
    Prop :=
  scenarioId = scenarioBtToWfd ∧ 7 ≤ trafficSeq.length ∧ trafficSeq.length ≤ 11 ∧
      Overload segmentQueueLength trafficSeq (fun k => if k < 6 then 75000 else 3500000) bound 6 11 ∨
    scenarioId = scenarioWfdToBt ∧ trafficSeq.length ≤ 6 ∧
      Overload segmentQueueLength trafficSeq (fun _ => 3500000) bound 7 60

section Slots

variable {segmentQueueLength : Int32} {trafficSeq : List Int32} {scenarioId : ℤ}
  {adapterId : AdapterId}

theorem sent_eq_zero_of_le {size k : ℕ} (hsize : trafficSeq.length ≤ size)
    (hend : waiting segmentQueueLength trafficSeq scenarioId adapterId size = 0) (hk : size ≤ k) :
    sent segmentQueueLength trafficSeq scenarioId adapterId k = 0 := by
  have hcap : ∀ k, 0 ≤ capacity scenarioId adapterId trafficSeq.length k :=
    fun k => (capacity_pos _ _ _ k).le
  have hpending := pending_eq_zero_of_silent hcap hend
    (fun i hi => arrivals_eq_zero (hsize.trans hi)) hk
  rw [sent, served, offered, hpending, arrivals_eq_zero (hsize.trans hk), add_zero,
    min_eq_left (hcap k)]

namespace Predicted

variable {seq : List Int32}

/-- The length of the sequence is what the backlog says. -/
theorem length_le_iff (h : Predicted segmentQueueLength trafficSeq scenarioId adapterId seq)
    {last : ℕ} (hlast : trafficSeq.length ≤ last) :
    seq.length ≤ last ↔ waiting segmentQueueLength trafficSeq scenarioId adapterId last = 0 := by
  constructor
  · intro hle
    exact pending_eq_zero_of_silent (fun k => (capacity_pos _ _ _ k).le) h.drained
      (fun i hi => arrivals_eq_zero (h.length_le.trans hi)) hle
  · intro hzero
    by_contra hgt
    exact absurd hzero (h.busy last hlast (by omega)).ne'

/-- An overload is a slot of a sequence that ends in time. -/
theorem overload_iff (h : Predicted segmentQueueLength trafficSeq scenarioId adapterId seq)
    (hqueue : 0 ≤ segmentQueueLength.toInt) {cap : ℕ → ℤ}
    (hcap : capacity scenarioId adapterId trafficSeq.length = cap) {bound : ℤ}
    (hbound : 0 ≤ bound) {first last : ℕ} (hfast : ∀ k, first ≤ k → bound < cap k)
    (hlast : trafficSeq.length ≤ last) :
    Overload segmentQueueLength trafficSeq cap bound first last ↔
      seq.length ≤ last ∧ ∃ k, ∃ hk : k < seq.length, first ≤ k ∧ bound < seq[k].toInt := by
  subst hcap
  rw [Overload, h.length_le_iff hlast, ← pending_eq_zero_iff hqueue]
  refine and_congr_right fun hzero => ?_
  have hin : seq.length ≤ last := (h.length_le_iff hlast).mpr hzero
  constructor
  · rintro ⟨k, hfirst, hk, hover⟩
    have hsent : bound < sent segmentQueueLength trafficSeq scenarioId adapterId k :=
      (lt_served_iff (hfast k hfirst)).mpr hover
    have hk' : k < seq.length := by
      by_contra hge
      rw [sent_eq_zero_of_le h.length_le h.drained (by omega)] at hsent
      omega
    exact ⟨k, hk', hfirst, by rw [h.getElem hk']; exact hsent⟩
  · rintro ⟨k, hk, hfirst, hover⟩
    rw [h.getElem hk] at hover
    exact ⟨k, hfirst, by omega, (lt_served_iff (hfast k hfirst)).mp hover⟩

end Predicted

/-- Slot `k` of a sequence of `size` slots is charged to Bluetooth and sent by Wi-Fi Direct. -/
def MischargedSlot (trafficSeq : List Int32) (scenarioId : ℤ) (size k : ℕ) : Prop :=
  scenarioId = scenarioBtToWfd ∧ 7 ≤ trafficSeq.length ∧ size ≤ 11 ∧ 6 ≤ k ∨
    scenarioId = scenarioWfdToBt ∧ trafficSeq.length ≤ 6 ∧ 7 ≤ k

theorem chargedAdapter_of_mischarged (hscenario : getInitialAdapter scenarioId = some adapterId)
    {size k : ℕ} (h : MischargedSlot trafficSeq scenarioId size k) :
    chargedAdapter scenarioId adapterId size k = .bt := by
  rcases h with ⟨rfl, -, hsize, hk⟩ | ⟨rfl, -, hk⟩
  · obtain rfl : AdapterId.btToWfd = adapterId := Option.some.inj hscenario
    exact chargedAdapter_btToWfd_short hsize hk
  · obtain rfl : AdapterId.wfdToBt = adapterId := Option.some.inj hscenario
    rw [chargedAdapter_wfdToBt, if_neg (by omega)]

/-- All the other slots are charged to an adapter that is at least as fast. -/
theorem capacity_le_of_not_mischarged (hscenario : getInitialAdapter scenarioId = some adapterId)
    {size k : ℕ} (h : ¬ MischargedSlot trafficSeq scenarioId size k) :
    capacity scenarioId adapterId trafficSeq.length k ≤
      (getMaxBW (chargedAdapter scenarioId adapterId size k)).toInt := by
  have hslow : ∀ a, (75000 : ℤ) ≤ (getMaxBW a).toInt := by
    intro a
    cases a <;> decide
  rw [capacity, simulatedAdapter_eq hscenario]
  rcases scenario_cases hscenario with ⟨rfl, rfl⟩ | ⟨rfl, rfl⟩ | ⟨rfl, rfl⟩ | ⟨rfl, rfl⟩
  · rw [chargedAdapter_steady hscenario (.inl rfl)]
    split <;> exact le_refl _
  · rw [chargedAdapter_steady hscenario (.inr rfl)]
    split <;> exact le_refl _
  · split
    · rename_i hlate
      have hlong : 12 ≤ size := by
        by_contra hshort
        exact h (.inl ⟨rfl, hlate.2, by omega, hlate.1⟩)
      rcases chargedAdapter_btToWfd_long hlong hlate.1 with hc | hc <;> rw [hc] <;> exact le_refl _
    · exact hslow _
  · split
    · exact hslow _
    · rename_i hearly
      have hk : k < 7 := by
        by_contra hge
        rcases Nat.lt_or_ge trafficSeq.length 7 with hn | hn
        · exact h (.inr ⟨rfl, by omega, by omega⟩)
        · exact hearly ⟨by omega, hn⟩
      rw [chargedAdapter_wfdToBt, if_pos hk]

theorem capacity_btToWfd (hn : 7 ≤ trafficSeq.length) :
    capacity scenarioBtToWfd .btToWfd trafficSeq.length =
      fun k => if k < 6 then 75000 else 3500000 := by
  funext k
  rw [capacity, simulatedAdapter_eq rfl]
  by_cases hk : k < 6
  · rw [if_neg (by omega), if_pos hk]
    rfl
  · rw [if_pos (by omega), if_neg hk]
    rfl

theorem capacity_wfdToBt (hn : trafficSeq.length ≤ 6) :
    capacity scenarioWfdToBt .wfdToBt trafficSeq.length = fun _ => 3500000 := by
  funext k
  rw [capacity, simulatedAdapter_eq rfl, if_neg (by omega)]
  rfl

/-- The condition on the inputs speaks of the slots that are charged wrongly. -/
theorem Predicted.mischarged_iff {seq : List Int32}
    (h : Predicted segmentQueueLength trafficSeq scenarioId adapterId seq)
    (hscenario : getInitialAdapter scenarioId = some adapterId)
    (hqueue : 0 ≤ segmentQueueLength.toInt) {bound : ℤ} (hbound : 0 ≤ bound)
    (hfast : bound < 3500000) :
    Mischarged segmentQueueLength trafficSeq scenarioId bound ↔
      seq.length ≤ 60 ∧ ∃ k, ∃ hk : k < seq.length,
        MischargedSlot trafficSeq scenarioId seq.length k ∧ bound < seq[k].toInt := by
  have hlength := h.length_le
  have hrate : ∀ k, 6 ≤ k → bound < if k < 6 then (75000 : ℤ) else 3500000 := by
    intro k hk
    rwa [if_neg (by omega)]
  constructor
  · rintro (⟨rfl, hmin, hmax, hover⟩ | ⟨rfl, hmax, hover⟩)
    · obtain rfl : AdapterId.btToWfd = adapterId := Option.some.inj hscenario
      obtain ⟨hsize, k, hk, hfirst, hbig⟩ :=
        (h.overload_iff hqueue (capacity_btToWfd hmin) hbound hrate hmax).mp hover
      exact ⟨by omega, k, hk, .inl ⟨rfl, hmin, hsize, hfirst⟩, hbig⟩
    · obtain rfl : AdapterId.wfdToBt = adapterId := Option.some.inj hscenario
      obtain ⟨hsize, k, hk, hfirst, hbig⟩ :=
        (h.overload_iff hqueue (capacity_wfdToBt hmax) hbound (fun k _ => hfast) (by omega)).mp hover
      exact ⟨hsize, k, hk, .inr ⟨rfl, hmax, hfirst⟩, hbig⟩
  · rintro ⟨hsize, k, hk, ⟨rfl, hmin, hshort, hfirst⟩ | ⟨rfl, hmax, hfirst⟩, hbig⟩
    · obtain rfl : AdapterId.btToWfd = adapterId := Option.some.inj hscenario
      exact .inl ⟨rfl, hmin, by omega,
        (h.overload_iff hqueue (capacity_btToWfd hmin) hbound hrate (by omega)).mpr
          ⟨hshort, k, hk, hfirst, hbig⟩⟩
    · obtain rfl : AdapterId.wfdToBt = adapterId := Option.some.inj hscenario
      exact .inr ⟨rfl, hmax,
        (h.overload_iff hqueue (capacity_wfdToBt hmax) hbound (fun k _ => hfast) (by omega)).mpr
          ⟨hsize, k, hk, hfirst, hbig⟩⟩

/-! ## The predicted energy -/

/-- A slot that is not charged wrongly stays within the bandwidth it is charged for. -/
theorem Predicted.le_getMaxBW {seq : List Int32}
    (h : Predicted segmentQueueLength trafficSeq scenarioId adapterId seq)
    (hscenario : getInitialAdapter scenarioId = some adapterId) {k : ℕ} (hk : k < seq.length)
    (hslot : ¬ MischargedSlot trafficSeq scenarioId seq.length k) :
    seq[k].toInt ≤ (getMaxBW (chargedAdapter scenarioId adapterId seq.length k)).toInt := by
  rw [h.getElem hk]
  exact (served_le k).trans (capacity_le_of_not_mischarged hscenario hslot)

theorem Predicted.nonneg {seq : List Int32}
    (h : Predicted segmentQueueLength trafficSeq scenarioId adapterId seq)
    (hvalid : ValidInput segmentQueueLength trafficSeq) {k : ℕ} (hk : k < seq.length) :
    0 ≤ seq[k].toInt := by
  rw [h.getElem hk]
  exact served_nonneg hvalid.queue (fun k => (capacity_pos _ _ _ k).le)
    (arrivals_nonneg hvalid.traffic) k

/-- The failure value comes from a slot with a negative power, and from nowhere else. -/
theorem predictEnergy_eq_neg_one_iff_power
    (hscenario : getInitialAdapter scenarioId = some adapterId) {seq : List Int32}
    (hresult : predictBandwidthSeq segmentQueueLength trafficSeq scenarioId [] = some seq) :
    predictEnergy segmentQueueLength trafficSeq scenarioId = -1 ↔
      seq.length ≤ 60 ∧ ∃ k, ∃ hk : k < seq.length,
        getPower seq[k] (chargedAdapter scenarioId adapterId seq.length k) < 0 := by
  simp only [predictEnergy, hresult, predictSeqEnergy, hscenario]
  split
  · rename_i hlong
    have hmax : floatMax ≠ -1 := by decide +kernel
    have hlong' : ¬ seq.length ≤ 60 := not_le.mpr hlong
    simp only [hmax, hlong', false_and]
  · rename_i hshort
    have hshort' : seq.length ≤ 60 := not_lt.mp hshort
    rw [addPower_eq_neg_one_iff (le_refl 0)]
    simp only [hshort', true_and]
    rfl

/-- The prediction fails exactly when more than 1081662 bytes are charged to Bluetooth in one of the
slots: the power model is negative from there on. -/
theorem predictEnergy_eq_neg_one_iff (hscenario : getInitialAdapter scenarioId = some adapterId)
    (hvalid : ValidInput segmentQueueLength trafficSeq) :
    predictEnergy segmentQueueLength trafficSeq scenarioId = -1 ↔
      Mischarged segmentQueueLength trafficSeq scenarioId 1081662 := by
  obtain ⟨seq, hresult, hseq⟩ := predictBandwidthSeq_spec hscenario hvalid
  rw [predictEnergy_eq_neg_one_iff_power hscenario hresult,
    hseq.mischarged_iff hscenario hvalid.queue (by norm_num) (by norm_num)]
  refine and_congr_right fun _ => exists_congr fun k => exists_congr fun hk => ?_
  by_cases hslot : MischargedSlot trafficSeq scenarioId seq.length k
  · rw [chargedAdapter_of_mischarged hscenario hslot, getPower_bt_neg_iff (hseq.nonneg hvalid hk)]
    simp [hslot]
  · have hpower := getPower_nonneg (hseq.nonneg hvalid hk) (hseq.le_getMaxBW hscenario hk hslot)
    simp [hslot, not_lt.mpr hpower]

/-- The prediction does not fail, and every slot that is charged stays within the maximum bandwidth
of the adapter it is charged to, so that its power is not negative. -/
def NeverFails (segmentQueueLength : Int32) (trafficSeq : List Int32) (scenarioId : ℤ)
    (adapterId : AdapterId) : Prop :=
  predictEnergy segmentQueueLength trafficSeq scenarioId ≠ -1 ∧
    ∀ seq, predictBandwidthSeq segmentQueueLength trafficSeq scenarioId [] = some seq →
      seq.length ≤ predictionWindowSec * 2 → ∀ k, ∀ hk : k < seq.length,
        seq[k].toInt ≤ (getMaxBW (chargedAdapter scenarioId adapterId seq.length k)).toInt ∧
          0 ≤ getPower seq[k] (chargedAdapter scenarioId adapterId seq.length k)

theorem neverFails_iff (hscenario : getInitialAdapter scenarioId = some adapterId)
    (hvalid : ValidInput segmentQueueLength trafficSeq) :
    NeverFails segmentQueueLength trafficSeq scenarioId adapterId ↔
      ¬ Mischarged segmentQueueLength trafficSeq scenarioId 75000 := by
  obtain ⟨seq, hresult, hseq⟩ := predictBandwidthSeq_spec hscenario hvalid
  rw [hseq.mischarged_iff hscenario hvalid.queue (by norm_num) (by norm_num)]
  constructor
  · rintro ⟨-, hslots⟩ ⟨hsize, k, hk, hslot, hbig⟩
    have hmax := (hslots seq hresult hsize k hk).1
    rw [chargedAdapter_of_mischarged hscenario hslot] at hmax
    exact absurd hmax (not_le.mpr hbig)
  · intro hgood
    have hslots : seq.length ≤ 60 → ∀ k, ∀ hk : k < seq.length,
        seq[k].toInt ≤ (getMaxBW (chargedAdapter scenarioId adapterId seq.length k)).toInt := by
      intro hsize k hk
      by_cases hslot : MischargedSlot trafficSeq scenarioId seq.length k
      · rw [chargedAdapter_of_mischarged hscenario hslot]
        exact not_lt.mp fun hbig => hgood ⟨hsize, k, hk, hslot, hbig⟩
      · exact hseq.le_getMaxBW hscenario hk hslot
    have hpower : seq.length ≤ 60 → ∀ k, ∀ hk : k < seq.length,
        0 ≤ getPower seq[k] (chargedAdapter scenarioId adapterId seq.length k) :=
      fun hsize k hk => getPower_nonneg (hseq.nonneg hvalid hk) (hslots hsize k hk)
    refine ⟨?_, fun seq' hresult' hsize k hk => ?_⟩
    · rw [Ne, predictEnergy_eq_neg_one_iff_power hscenario hresult]
      rintro ⟨hsize, k, hk, hneg⟩
      exact absurd (hpower hsize k hk) (not_le.mpr hneg)
    · obtain rfl : seq = seq' := Option.some.inj (hresult.symm.trans hresult')
      exact ⟨hslots hsize k hk, hpower hsize k hk⟩

/-- Twelve seconds at full speed are long enough for the switch. -/
theorem neverFails_twelve :
    NeverFails 0 (List.replicate 12 3500000) scenarioBtToWfd .btToWfd := by
  have hvalid : ValidInput 0 (List.replicate 12 3500000) := ⟨by decide, by simp, by decide⟩
  refine (neverFails_iff rfl hvalid).mpr ?_
  rintro (⟨-, -, hshort, -⟩ | ⟨hscenario, -⟩)
  · exact absurd hshort (by decide)
  · exact absurd hscenario (by decide)

/-- Nothing for six seconds, and then as much as Wi-Fi Direct takes in one. -/
theorem not_neverFails_burst :
    ¬ NeverFails 0 [0, 0, 0, 0, 0, 0, 3500000] scenarioBtToWfd .btToWfd := by
  have hvalid : ValidInput 0 [0, 0, 0, 0, 0, 0, 3500000] := ⟨by decide, by simp, by decide⟩
  have hover : Overload 0 [0, 0, 0, 0, 0, 0, 3500000]
      (fun k => if k < 6 then 75000 else 3500000) 1081662 6 11 :=
    ⟨by decide +kernel, 6, by decide, by decide, 6, by decide, by decide +kernel⟩
  rintro ⟨hne, -⟩
  exact hne ((predictEnergy_eq_neg_one_iff rfl hvalid).mpr
    (.inl ⟨rfl, by decide, by decide, hover⟩))

end Slots

end EnergyPredictor
end Linux
end VirtualConnection
