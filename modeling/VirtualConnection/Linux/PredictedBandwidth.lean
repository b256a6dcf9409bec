import Mathlib.Algebra.Order.BigOperators.Group.List
import Mathlib.Data.List.GetD
import VirtualConnection.Linux.EnergyPredictor

/-!
# Linux.PredictedBandwidth

`predictBandwidthSeq` is a slotted server: its sequence is what a `Backlog` serves with the maximum
bandwidth of the simulated adapter as capacity, up to the first slot past the traffic that finds
nothing to send. The sums stay within an `int` as long as queue and traffic together do.
-/

namespace VirtualConnection
namespace Linux
namespace EnergyPredictor

open Backlog

/-- How many bytes a sequence has. -/
def amount (xs : List Int32) : ℤ := (xs.map Int32.toInt).sum

/-- The adapter that the simulation is in at slot `k`, for a traffic of `size` slots. -/
def simulatedAdapter (scenarioId : ℤ) (adapterId : AdapterId) (size k : ℕ) : AdapterId :=
  (BandwidthPhase.next^[min (k + 1) size] (.start scenarioId adapterId)).presentAdapterId

def capacity (scenarioId : ℤ) (adapterId : AdapterId) (size k : ℕ) : ℤ :=
  (getMaxBW (simulatedAdapter scenarioId adapterId size k)).toInt

def arrivals (trafficSeq : List Int32) (k : ℕ) : ℤ := (trafficSeq.getD k 0).toInt

/-- What the predictor is called with: nothing negative, and a total that an `int` holds. -/
structure ValidInput (segmentQueueLength : Int32) (trafficSeq : List Int32) : Prop where
  queue : 0 ≤ segmentQueueLength.toInt
  traffic : ∀ t ∈ trafficSeq, 0 ≤ t.toInt
  total : segmentQueueLength.toInt + amount trafficSeq < 2 ^ 31

@[simp] theorem amount_nil : amount [] = 0 := rfl

@[simp] theorem amount_cons (x : Int32) (xs : List Int32) :
    amount (x :: xs) = x.toInt + amount xs := by
  simp [amount]

theorem amount_append (xs ys : List Int32) : amount (xs ++ ys) = amount xs + amount ys := by
  simp [amount]

theorem amount_nonneg {xs : List Int32} (h : ∀ t ∈ xs, 0 ≤ t.toInt) : 0 ≤ amount xs := by
  refine List.sum_nonneg fun x hx => ?_
  obtain ⟨t, ht, rfl⟩ := List.mem_map.mp hx
  exact h t ht

theorem arrivals_nonneg {trafficSeq : List Int32} (h : ∀ t ∈ trafficSeq, 0 ≤ t.toInt) (k : ℕ) :
    0 ≤ arrivals trafficSeq k := by
  unfold arrivals
  rcases Nat.lt_or_ge k trafficSeq.length with hk | hk
  · rw [List.getD_eq_getElem _ _ hk]
    exact h _ (List.getElem_mem hk)
  · rw [List.getD_eq_default _ _ hk]
    exact le_refl 0

theorem arrivals_eq_zero {trafficSeq : List Int32} {k : ℕ} (h : trafficSeq.length ≤ k) :
    arrivals trafficSeq k = 0 := by
  rw [arrivals, List.getD_eq_default _ _ h]
  rfl

theorem capacity_pos (scenarioId : ℤ) (adapterId : AdapterId) (size k : ℕ) :
    0 < capacity scenarioId adapterId size k := getMaxBW_pos _

theorem total_arrivals (trafficSeq : List Int32) (k : ℕ) :
    total (arrivals trafficSeq) 0 k = amount (trafficSeq.take k) := by
  induction k with
  | zero => simp
  | succ k ih =>
    rw [total_succ _ (Nat.zero_le k), ih, List.take_add_one, amount_append]
    rcases Nat.lt_or_ge k trafficSeq.length with hk | hk
    · simp [arrivals, hk]
    · simp [arrivals_eq_zero hk, hk]

theorem total_arrivals_le {trafficSeq : List Int32} (h : ∀ t ∈ trafficSeq, 0 ≤ t.toInt) (k : ℕ) :
    total (arrivals trafficSeq) 0 k ≤ amount trafficSeq := by
  have hsplit := amount_append (trafficSeq.take k) (trafficSeq.drop k)
  have hrest : 0 ≤ amount (trafficSeq.drop k) :=
    amount_nonneg fun t ht => h t (List.mem_of_mem_drop ht)
  rw [List.take_append_drop] at hsplit
  rw [total_arrivals]
  omega

/-! ## The two loops -/

section Loops

variable {segmentQueueLength : Int32} {trafficSeq : List Int32} (scenarioId : ℤ)
  (adapterId : AdapterId)

/-- What waits before slot `k`. -/
abbrev waiting (segmentQueueLength : Int32) (trafficSeq : List Int32) (scenarioId : ℤ)
    (adapterId : AdapterId) (k : ℕ) : ℤ :=
  pending segmentQueueLength.toInt (capacity scenarioId adapterId trafficSeq.length)
    (arrivals trafficSeq) k

/-- What slot `k` sends. -/
abbrev sent (segmentQueueLength : Int32) (trafficSeq : List Int32) (scenarioId : ℤ)
    (adapterId : AdapterId) (k : ℕ) : ℤ :=
  served segmentQueueLength.toInt (capacity scenarioId adapterId trafficSeq.length)
    (arrivals trafficSeq) k

/-- One slot of either loop: its data fit into an `int`, and it takes what the server takes. -/
theorem slot_spec (hvalid : ValidInput segmentQueueLength trafficSeq) {k : ℕ}
    {dataPrepared : Int32}
    (hdata : dataPrepared.toInt = offered segmentQueueLength.toInt
      (capacity scenarioId adapterId trafficSeq.length) (arrivals trafficSeq) k) :
    (slotBandwidth (simulatedAdapter scenarioId adapterId trafficSeq.length k) dataPrepared).toInt =
        sent segmentQueueLength trafficSeq scenarioId adapterId k ∧
      (dataPrepared -
          slotBandwidth (simulatedAdapter scenarioId adapterId trafficSeq.length k)
            dataPrepared).toInt =
        waiting segmentQueueLength trafficSeq scenarioId adapterId (k + 1) := by
  have hnonneg : 0 ≤ dataPrepared.toInt :=
    hdata ▸ offered_nonneg hvalid.queue (arrivals_nonneg hvalid.traffic) k
  rw [slotBandwidth_toInt, toInt_sub_slotBandwidth _ hnonneg, hdata]
  exact ⟨rfl, rfl⟩

theorem toInt_add_traffic (hvalid : ValidInput segmentQueueLength trafficSeq) {k : ℕ}
    {remainder traffic : Int32} (htraffic : traffic.toInt = arrivals trafficSeq k)
    (hremainder : remainder.toInt =
      waiting segmentQueueLength trafficSeq scenarioId adapterId k) :
    (remainder + traffic).toInt = offered segmentQueueLength.toInt
      (capacity scenarioId adapterId trafficSeq.length) (arrivals trafficSeq) k := by
  have harrivals := arrivals_nonneg hvalid.traffic
  have hle := offered_le hvalid.queue
    (fun k => (capacity_pos scenarioId adapterId trafficSeq.length k).le) harrivals k
  have htotal := total_arrivals_le hvalid.traffic (k + 1)
  have hnonneg := @offered_nonneg _ (capacity scenarioId adapterId trafficSeq.length) _
    hvalid.queue harrivals k
  have hlt := hvalid.total
  have hsum : remainder.toInt + traffic.toInt = offered segmentQueueLength.toInt
      (capacity scenarioId adapterId trafficSeq.length) (arrivals trafficSeq) k := by
    rw [hremainder, htraffic, offered]
  rw [Int32.toInt_add, hsum]
  exact Int.bmod_eq_of_le (by omega) (by omega)

/-- The loop over the traffic, from slot `k` on. -/
theorem predictTraffic_spec (hvalid : ValidInput segmentQueueLength trafficSeq)
    (rest : List Int32) (k : ℕ) (remainder : Int32) (hrest : trafficSeq.drop k = rest)
    (hk : k + rest.length = trafficSeq.length)
    (hremainder : remainder.toInt =
      waiting segmentQueueLength trafficSeq scenarioId adapterId k) :
    let r := predictTraffic (BandwidthPhase.next^[k] (.start scenarioId adapterId)) remainder rest
    r.1.map Int32.toInt = (List.range' k rest.length).map
        (sent segmentQueueLength trafficSeq scenarioId adapterId) ∧
      r.2.1 = BandwidthPhase.next^[trafficSeq.length] (.start scenarioId adapterId) ∧
      r.2.2.toInt =
        waiting segmentQueueLength trafficSeq scenarioId adapterId trafficSeq.length := by
  induction rest generalizing k remainder with
  | nil =>
    obtain rfl : k = trafficSeq.length := by simpa using hk
    exact ⟨rfl, rfl, hremainder⟩
  | cons traffic rest ih =>
    have hlt : k < trafficSeq.length := by
      rw [← hk, List.length_cons]
      omega
    have hphase : (BandwidthPhase.next^[k] (.start scenarioId adapterId)).next =
        BandwidthPhase.next^[k + 1] (.start scenarioId adapterId) :=
      (Function.iterate_succ_apply' BandwidthPhase.next k _).symm
    have hadapter : (BandwidthPhase.next^[k + 1] (.start scenarioId adapterId)).presentAdapterId =
        simulatedAdapter scenarioId adapterId trafficSeq.length k := by
      rw [simulatedAdapter, min_eq_left hlt]
    have htraffic : traffic.toInt = arrivals trafficSeq k := by
      rw [List.drop_eq_getElem_cons hlt] at hrest
      rw [arrivals, List.getD_eq_getElem _ _ hlt, (List.cons.inj hrest).1]
    have hnext : trafficSeq.drop (k + 1) = rest := by
      rw [← List.drop_drop, hrest]
      rfl
    have hslot := slot_spec scenarioId adapterId hvalid
      (toInt_add_traffic scenarioId adapterId hvalid htraffic hremainder)
    obtain ⟨hbandwidths, hphase', hend⟩ :=
      ih (k + 1) _ hnext (by rw [List.length_cons] at hk; omega) hslot.2
    rw [← hadapter] at hslot hbandwidths hphase' hend
    simp only [predictTraffic, hphase]
    refine ⟨?_, hphase', hend⟩
    rw [List.map_cons, hbandwidths, hslot.1, List.length_cons, List.range'_succ, List.map_cons]

/-- The loop over the remainder ends, and only with nothing left. -/
theorem drain_spec (hvalid : ValidInput segmentQueueLength trafficSeq) (remainder : Int32) (k : ℕ)
    (hk : trafficSeq.length ≤ k)
    (hremainder : remainder.toInt =
      waiting segmentQueueLength trafficSeq scenarioId adapterId k) :
    ∃ m, (drain (simulatedAdapter scenarioId adapterId trafficSeq.length k) remainder).map
          Int32.toInt =
        (List.range' k m).map (sent segmentQueueLength trafficSeq scenarioId adapterId) ∧
      waiting segmentQueueLength trafficSeq scenarioId adapterId (k + m) = 0 ∧
      ∀ i, k ≤ i → i < k + m →
        0 < waiting segmentQueueLength trafficSeq scenarioId adapterId i := by
  induction hm : remainder.toInt.toNat using Nat.strong_induction_on generalizing remainder k with
  | _ size ih =>
    unfold drain
    by_cases hpos : 0 < remainder
    · have hpos' : 0 < remainder.toInt := Int32.lt_iff_toInt_lt.mp hpos
      have hdata : remainder.toInt = offered segmentQueueLength.toInt
          (capacity scenarioId adapterId trafficSeq.length) (arrivals trafficSeq) k := by
        rw [offered, arrivals_eq_zero hk, add_zero]
        exact hremainder
      have hslot := slot_spec scenarioId adapterId hvalid hdata
      have hadapter : simulatedAdapter scenarioId adapterId trafficSeq.length (k + 1) =
          simulatedAdapter scenarioId adapterId trafficSeq.length k := by
        rw [simulatedAdapter, simulatedAdapter, min_eq_right (by omega), min_eq_right (by omega)]
      obtain ⟨m, hbandwidths, hend, hbusy⟩ :=
        ih _ (hm ▸ toNat_sub_slotBandwidth_lt _ hpos) _ (k + 1) (by omega) hslot.2 rfl
      rw [hadapter] at hbandwidths
      refine ⟨m + 1, ?_, by rw [← hend]; congr 1; omega, fun i hi hlt => ?_⟩
      · rw [if_pos hpos, List.map_cons, hbandwidths, hslot.1, List.range'_succ, List.map_cons]
      · rcases hi.eq_or_lt with rfl | hi
        · exact hremainder ▸ hpos'
        · exact hbusy i (by omega) (by omega)
    · have hzero : remainder.toInt = 0 := by
        have hnot : ¬ 0 < remainder.toInt := fun h => hpos (Int32.lt_iff_toInt_lt.mpr h)
        have hnonneg : 0 ≤ remainder.toInt := hremainder ▸ pending_nonneg hvalid.queue k
        omega
      refine ⟨0, by rw [if_neg hpos]; rfl, hremainder ▸ hzero, fun i hi hlt => ?_⟩
      omega

end Loops

/-! ## The sequence -/

section Sequence

variable {segmentQueueLength : Int32} {trafficSeq : List Int32} {scenarioId : ℤ}
  {adapterId : AdapterId}

/-- The sequence is what the server sends, up to the first slot past the traffic that has nothing
to send. -/
structure Predicted (segmentQueueLength : Int32) (trafficSeq : List Int32) (scenarioId : ℤ)
    (adapterId : AdapterId) (seq : List Int32) : Prop where
  length_le : trafficSeq.length ≤ seq.length
  slots : seq.map Int32.toInt = (List.range seq.length).map
    (sent segmentQueueLength trafficSeq scenarioId adapterId)
  drained : waiting segmentQueueLength trafficSeq scenarioId adapterId seq.length = 0
  busy : ∀ i, trafficSeq.length ≤ i → i < seq.length →
    0 < waiting segmentQueueLength trafficSeq scenarioId adapterId i

theorem predictBandwidthSeq_spec (hscenario : getInitialAdapter scenarioId = some adapterId)
    (hvalid : ValidInput segmentQueueLength trafficSeq) :
    ∃ seq, predictBandwidthSeq segmentQueueLength trafficSeq scenarioId [] = some seq ∧
      Predicted segmentQueueLength trafficSeq scenarioId adapterId seq := by
  obtain ⟨hloop, hphase, hremainder⟩ := predictTraffic_spec scenarioId adapterId hvalid trafficSeq 0
    segmentQueueLength rfl (Nat.zero_add _) rfl
  obtain ⟨m, hdrain, hend, hbusy⟩ :=
    drain_spec scenarioId adapterId hvalid _ trafficSeq.length (le_refl _) hremainder
  have hadapter : simulatedAdapter scenarioId adapterId trafficSeq.length trafficSeq.length =
      (BandwidthPhase.next^[trafficSeq.length] (.start scenarioId adapterId)).presentAdapterId := by
    rw [simulatedAdapter, min_eq_right (Nat.le_succ _)]
  rw [hadapter, ← hphase] at hdrain
  have hlength := congrArg List.length hloop
  have hlength' := congrArg List.length hdrain
  simp only [List.length_map, List.length_range'] at hlength hlength'
  refine ⟨_, by simp only [predictBandwidthSeq, hscenario]; rfl, ?_, ?_, ?_, ?_⟩
  all_goals simp only [List.length_append, Function.iterate_zero, id_eq] at *
  all_goals rw [hlength, hlength']
  · omega
  · have happend := List.range'_append_1 (s := 0) (m := trafficSeq.length) (n := m)
    rw [Nat.zero_add] at happend
    rw [List.map_append, hloop, hdrain, ← List.map_append, List.range_eq_range', happend]
  · exact hend
  · exact hbusy

namespace Predicted

variable {seq : List Int32}

theorem getElem (h : Predicted segmentQueueLength trafficSeq scenarioId adapterId seq) {k : ℕ}
    (hk : k < seq.length) :
    seq[k].toInt = sent segmentQueueLength trafficSeq scenarioId adapterId k := by
  have := congrArg (·[k]?) h.slots
  simpa [hk] using this

theorem amount_take (h : Predicted segmentQueueLength trafficSeq scenarioId adapterId seq) {k : ℕ}
    (hk : k ≤ seq.length) :
    amount (seq.take k) =
      total (sent segmentQueueLength trafficSeq scenarioId adapterId) 0 k := by
  induction k with
  | zero => simp
  | succ k ih =>
    rw [total_succ _ (Nat.zero_le k), ← ih (by omega), ← h.getElem (by omega),
      List.take_add_one, amount_append, List.getElem?_eq_getElem (by omega)]
    simp

/-- What is left over after some slots. -/
theorem amount_take_add_waiting
    (h : Predicted segmentQueueLength trafficSeq scenarioId adapterId seq) {k : ℕ}
    (hk : k ≤ seq.length) :
    amount (seq.take k) + waiting segmentQueueLength trafficSeq scenarioId adapterId k =
      segmentQueueLength.toInt + amount (trafficSeq.take k) := by
  rw [h.amount_take hk, total_served_add_pending, total_arrivals]

theorem amount_eq (h : Predicted segmentQueueLength trafficSeq scenarioId adapterId seq) :
    amount seq = segmentQueueLength.toInt + amount trafficSeq := by
  have hlast := h.amount_take_add_waiting (le_refl _)
  rw [List.take_length, List.take_of_length_le h.length_le, h.drained, add_zero] at hlast
  exact hlast

end Predicted

/-- The predicted sequence conserves the data, and serves them as fast as the simulated adapter
allows. -/
theorem predictBandwidthSeq_conserves (hscenario : getInitialAdapter scenarioId = some adapterId)
    (hvalid : ValidInput segmentQueueLength trafficSeq) :
    ∃ seq, predictBandwidthSeq segmentQueueLength trafficSeq scenarioId [] = some seq ∧
      trafficSeq.length ≤ seq.length ∧
      amount seq = segmentQueueLength.toInt + amount trafficSeq ∧
      (∀ k, amount (seq.take k) ≤ segmentQueueLength.toInt + amount (trafficSeq.take k)) ∧
      ∀ k, ∀ hk : k < seq.length,
        let maxBW := (getMaxBW (simulatedAdapter scenarioId adapterId trafficSeq.length k)).toInt
        seq[k].toInt ≤ maxBW ∧
          (seq[k].toInt < maxBW → amount (seq.take (k + 1)) =
            segmentQueueLength.toInt + amount (trafficSeq.take (k + 1))) := by
  obtain ⟨seq, hresult, hseq⟩ := predictBandwidthSeq_spec hscenario hvalid
  refine ⟨seq, hresult, hseq.length_le, hseq.amount_eq, fun k => ?_,
    fun k hk => ⟨?_, fun hless => ?_⟩⟩
  · rcases le_total k seq.length with hk | hk
    · rw [hseq.amount_take hk, ← total_arrivals]
      exact total_served_le hvalid.queue k
    · rw [List.take_of_length_le hk, List.take_of_length_le (hseq.length_le.trans hk),
        hseq.amount_eq]
  · rw [hseq.getElem hk]
    exact served_le k
  · rw [hseq.getElem hk] at hless
    have hempty : waiting segmentQueueLength trafficSeq scenarioId adapterId (k + 1) = 0 :=
      pending_succ_of_served_lt hless
    have := hseq.amount_take_add_waiting hk
    rw [hempty, add_zero] at this
    exact this

/-- A queue and two seconds of traffic, on the way to WFD. -/
theorem predictBandwidthSeq_conserves_two : ∃ seq,
    predictBandwidthSeq 50000 [100000, 20000] scenarioBtToWfd [] = some seq ∧
      2 ≤ seq.length ∧ amount seq = 170000 := by
  have hscenario : getInitialAdapter scenarioBtToWfd = some .btToWfd := rfl
  have hvalid : ValidInput 50000 [100000, 20000] := ⟨by decide, by simp, by decide⟩
  obtain ⟨seq, hresult, hlength, hamount, -⟩ := predictBandwidthSeq_conserves hscenario hvalid
  exact ⟨seq, hresult, hlength, hamount⟩

end Sequence

/-! ## The simulated adapter -/

/-- The adapter that a switch leads to. -/
def switched : AdapterId → AdapterId
  | .btToWfd => .wfd
  | .wfdToBt => .bt
  | adapterId => adapterId

theorem scenario_cases {scenarioId : ℤ} {adapterId : AdapterId}
    (hscenario : getInitialAdapter scenarioId = some adapterId) :
    scenarioId = scenarioBt ∧ adapterId = .bt ∨ scenarioId = scenarioWfd ∧ adapterId = .wfd ∨
      scenarioId = scenarioBtToWfd ∧ adapterId = .btToWfd ∨
      scenarioId = scenarioWfdToBt ∧ adapterId = .wfdToBt := by
  unfold getInitialAdapter at hscenario
  split at hscenario
  · exact .inl ⟨‹_›, (Option.some.inj hscenario).symm⟩
  · split at hscenario
    · exact .inr (.inl ⟨‹_›, (Option.some.inj hscenario).symm⟩)
    · split at hscenario
      · exact .inr (.inr (.inl ⟨‹_›, (Option.some.inj hscenario).symm⟩))
      · split at hscenario
        · exact .inr (.inr (.inr ⟨‹_›, (Option.some.inj hscenario).symm⟩))
        · cases hscenario

/-- Either switch reaches the bandwidth with the seventh slot, and the traffic has to be that long:
the extra slots stay in the phase that the traffic ended with. -/
theorem simulatedAdapter_eq {scenarioId : ℤ} {adapterId : AdapterId}
    (hscenario : getInitialAdapter scenarioId = some adapterId) (size k : ℕ) :
    simulatedAdapter scenarioId adapterId size k =
      if 6 ≤ k ∧ 7 ≤ size then switched adapterId else adapterId := by
  have hfixed : (BandwidthPhase.next^[7] (.start scenarioId adapterId)).next =
      BandwidthPhase.next^[7] (.start scenarioId adapterId) := by
    rcases scenario_cases hscenario with ⟨rfl, rfl⟩ | ⟨rfl, rfl⟩ | ⟨rfl, rfl⟩ | ⟨rfl, rfl⟩ <;>
      decide +kernel
  have hlate : (BandwidthPhase.next^[7] (.start scenarioId adapterId)).presentAdapterId =
      switched adapterId := by
    rcases scenario_cases hscenario with ⟨rfl, rfl⟩ | ⟨rfl, rfl⟩ | ⟨rfl, rfl⟩ | ⟨rfl, rfl⟩ <;>
      decide +kernel
  have hearly : ∀ m : Fin 7,
      (BandwidthPhase.next^[m.val] (.start scenarioId adapterId)).presentAdapterId = adapterId := by
    rcases scenario_cases hscenario with ⟨rfl, rfl⟩ | ⟨rfl, rfl⟩ | ⟨rfl, rfl⟩ | ⟨rfl, rfl⟩ <;>
      decide +kernel
  unfold simulatedAdapter
  split
  · obtain ⟨m, hm⟩ : ∃ m, min (k + 1) size = m + 7 := ⟨min (k + 1) size - 7, by omega⟩
    rw [hm, Function.iterate_add_apply, Function.iterate_fixed hfixed, hlate]
  · exact hearly ⟨min (k + 1) size, by omega⟩

end EnergyPredictor
end Linux
end VirtualConnection
