import Mathlib.Data.Fintype.Basic
import Mathlib.Tactic.FinCases
import VirtualConnection.Lib.RingBuffer
import VirtualConnection.Lib.Truncation
import VirtualConnection.Linux.Segment

/-!
# Linux.Counter

The speed of a `Counter`: `update_speed` puts the value and the time into two arrays that are written
round and round, and `get_speed` looks for the first sample of the last second in them.

What `gettimeofday` returns is an argument, in microseconds. The difference of two values and its
quotient by a time are exact. The constructor does not set `mPrevValuePointer`, so the pointer is an
argument of `create`.
-/

namespace VirtualConnection
namespace Linux

open RingBuffer Truncation

structure Counter where
  mValue : Int32
  mPrevValues : Fin 10 → Int32
  mPrevValueTSs : Fin 10 → UInt64
  mPrevValuePointer : Int32

structure Sample where
  value : Int32
  ts : UInt64
  deriving DecidableEq, Repr

namespace Counter

def prevValuesSize : Int32 := 10
def maxSpeedWindowSec : UInt64 := 1

def create (pointer : Int32) : Counter where
  mValue := 0
  mPrevValues := fun _ => 0
  mPrevValueTSs := fun _ => 0
  mPrevValuePointer := pointer

/-- The place in an array that an `int` means. -/
def slot (i : Int32) : Except Fault (Fin 10) :=
  if h : 0 ≤ i.toInt ∧ i.toInt < 10 then .ok ⟨i.toInt.toNat, by omega⟩
  else .error .outOfBounds

/-- `set_value_locked`, of which only the value matters for the speed. -/
def setValue (c : Counter) (newValue : Int32) : Counter := { c with mValue := newValue }

def updateSpeed (c : Counter) (nowTsUs : UInt64) : Except Fault Counter := do
  let pointer := (c.mPrevValuePointer + 1) % prevValuesSize
  let i ← slot pointer
  return { c with
    mPrevValuePointer := pointer
    mPrevValues := Function.update c.mPrevValues i c.mValue
    mPrevValueTSs := Function.update c.mPrevValueTSs i nowTsUs }

/-- The loop of `get_speed_locked`: the index at its end and `is_pass_once`. It is `none` while the
loop goes on after `fuel` rounds. -/
def findStart (c : Counter) (startCqIdx : Int32) (startDesiredTsUs endDesiredTsUs : UInt64) :
    ℕ → Int32 → Bool → Except Fault (Option (Int32 × Bool))
  | 0, _, _ => .ok none
  | fuel + 1, i, isPassOnce =>
    if i = startCqIdx then .ok (some (i, isPassOnce))
    else do
      let tsUs := c.mPrevValueTSs (← slot i)
      if tsUs > endDesiredTsUs ∧ tsUs < startDesiredTsUs then
        return some ((i + 1) % prevValuesSize, isPassOnce)
      else
        findStart c startCqIdx startDesiredTsUs endDesiredTsUs fuel
          (if i - 1 ≥ 0 then i - 1 else prevValuesSize - 1) true

/-- The speed from one sample to another. -/
def speed (start latest : Sample) : ℤ :=
  truncate ((latest.value.toInt - start.value.toInt) / ((latest.ts - start.ts).toNat / 1000000))

def sampleAt (c : Counter) (i : Fin 10) : Sample := ⟨c.mPrevValues i, c.mPrevValueTSs i⟩

/-- `get_speed_locked`. It is `none` if the loop does not end. -/
def getSpeed (c : Counter) (nowTsUs : UInt64) : Except Fault (Option ℤ) := do
  let startCqIdx := (c.mPrevValuePointer + 1) % prevValuesSize
  let endCqIdx := c.mPrevValuePointer % prevValuesSize
  let startDesiredTsUs := nowTsUs - 1000 * 1000 * maxSpeedWindowSec
  let endDesiredTsUs := nowTsUs
  match ← c.findStart startCqIdx startDesiredTsUs endDesiredTsUs 10 endCqIdx false with
  | none => return none
  | some (startSwIdx, isPassOnce) =>
    if isPassOnce = false then return some 0
    else
      let start := c.sampleAt (← slot startSwIdx)
      let latest := c.sampleAt (← slot endCqIdx)
      if latest.ts = 0 ∨ start.ts = 0 then return some 0
      else return some (speed start latest)

/-- `set_value` and `update_speed`. -/
def record (c : Counter) (s : Sample) : Except Fault Counter := (c.setValue s.value).updateSpeed s.ts

/-! ## Indices -/

theorem slot_ofNat (i : Fin 10) : slot (Int32.ofNat i) = .ok i := by
  fin_cases i <;> rfl

theorem next_ofNat (i : Fin 10) :
    (Int32.ofNat i + 1) % prevValuesSize = Int32.ofNat (i + 1 : Fin 10) := by
  fin_cases i <;> rfl

theorem self_ofNat (i : Fin 10) : Int32.ofNat i % prevValuesSize = Int32.ofNat i := by
  fin_cases i <;> rfl

theorem previous_ofNat (i : Fin 10) :
    (if Int32.ofNat i - 1 ≥ 0 then Int32.ofNat i - 1 else prevValuesSize - 1) =
      Int32.ofNat (i - 1 : Fin 10) := by
  fin_cases i <;> rfl

theorem ofNat_injective {i j : Fin 10} (h : Int32.ofNat i = Int32.ofNat j) : i = j := by
  have hslot := slot_ofNat i
  rw [h, slot_ofNat] at hslot
  exact (Except.ok.inj hslot).symm

theorem add_one_eq_sub (i : Fin 10) : i + 1 = i - 9 := by
  fin_cases i <;> rfl

/-! ## The arrays -/

section Samples

variable {c : Counter} {r : Ring Sample 10} {pointer : Int32}

/-- The arrays are those of a ring, and the next sample goes where the ring puts it. -/
structure Follows (c : Counter) (r : Ring Sample 10) : Prop where
  sampleAt : ∀ i, c.sampleAt i = r.slots i
  next : (c.mPrevValuePointer + 1) % prevValuesSize = Int32.ofNat (r.last + 1 : Fin 10)

theorem record_eq (h : Follows c r) (s : Sample) : c.record s = .ok {
    mValue := s.value
    mPrevValues := Function.update c.mPrevValues (r.last + 1) s.value
    mPrevValueTSs := Function.update c.mPrevValueTSs (r.last + 1) s.ts
    mPrevValuePointer := Int32.ofNat (r.last + 1 : Fin 10) } := by
  have hslot : slot ((c.mPrevValuePointer + 1) % prevValuesSize) = .ok (r.last + 1) := by
    rw [h.next, slot_ofNat]
  rw [record, updateSpeed, setValue, hslot, h.next]
  rfl

theorem record_ok (h : Follows c r) (s : Sample) : ∃ c', c.record s = .ok c' ∧
    Follows c' (r.push s) ∧ c'.mPrevValuePointer = Int32.ofNat (r.push s).last := by
  refine ⟨_, record_eq h s, ⟨fun i => ?_, next_ofNat _⟩, rfl⟩
  by_cases hi : i = r.last + 1
  · subst hi
    simp [Counter.sampleAt, Ring.push]
  · have hold := h.sampleAt i
    simpa [Counter.sampleAt, Ring.push, hi] using hold

theorem recordAll_ok (samples : List Sample) (h : Follows c r) :
    ∃ c', samples.foldlM record c = .ok c' ∧ Follows c' (r.pushAll samples.reverse) ∧
      (samples ≠ [] → c'.mPrevValuePointer = Int32.ofNat (r.pushAll samples.reverse).last) := by
  induction samples generalizing c r with
  | nil => exact ⟨c, rfl, h, fun hne => absurd rfl hne⟩
  | cons s rest ih =>
    obtain ⟨c₁, h₁, hfollows, hpointer⟩ := record_ok h s
    obtain ⟨c', h', hfollows', hpointer'⟩ := ih hfollows
    rw [List.reverse_cons, Ring.pushAll_concat]
    refine ⟨c', ?_, hfollows', fun _ => ?_⟩
    · rw [List.foldlM_cons, h₁]
      exact h'
    · cases rest with
      | nil =>
        obtain rfl := Except.ok.inj h'
        exact hpointer
      | cons t rest => exact hpointer' (List.cons_ne_nil t rest)

/-- The first sample goes to a place in the arrays, or before them. -/
theorem slot_first (pointer : Int32) : (∃ i : Fin 10, (pointer + 1) % prevValuesSize = Int32.ofNat i) ∨
    ((pointer + 1) % prevValuesSize < 0 ∧
      slot ((pointer + 1) % prevValuesSize) = .error .outOfBounds) := by
  have hsize : prevValuesSize.toInt = 10 := rfl
  have hmod : ((pointer + 1) % prevValuesSize).toInt = (pointer + 1).toInt.tmod 10 := by
    rw [Int32.toInt_mod, hsize]
  have hlt := Int.tmod_lt_of_pos (pointer + 1).toInt (show (0 : ℤ) < 10 by omega)
  by_cases hneg : ((pointer + 1) % prevValuesSize).toInt < 0
  · refine .inr ⟨Int32.lt_iff_toInt_lt.mpr hneg, dif_neg fun h => ?_⟩
    omega
  · have hnat : ((pointer + 1) % prevValuesSize).toInt.toNat < 10 := by omega
    refine .inl ⟨⟨_, hnat⟩, Int32.toInt.inj ?_⟩
    rw [Int32.toInt_ofNat_of_lt (by dsimp only; omega)]
    dsimp only
    omega

/-- The arrays before the first sample, which goes to place `i`. -/
def emptyRing (i : Fin 10) : Ring Sample 10 := ⟨fun _ => ⟨0, 0⟩, i - 1⟩

theorem follows_create {i : Fin 10} (h : (pointer + 1) % prevValuesSize = Int32.ofNat i) :
    Follows (create pointer) (emptyRing i) where
  sampleAt := fun _ => rfl
  next := by rw [emptyRing, sub_add_cancel]; exact h

/-! ## The loop -/

/-- The loop goes back to the oldest sample: no sample is later than now, so it never stops before. -/
theorem findStart_eq {start : Fin 10} {startDesired endDesired : UInt64}
    (hts : ∀ i, c.mPrevValueTSs i ≤ endDesired) (d : ℕ) :
    ∀ {fuel : ℕ} {isPassOnce : Bool} (hd : d < 10), d < fuel →
      c.findStart (Int32.ofNat start) startDesired endDesired fuel
        (Int32.ofNat (start + ⟨d, hd⟩ : Fin 10)) isPassOnce =
          .ok (some (Int32.ofNat start, isPassOnce || d != 0)) := by
  induction d with
  | zero =>
    intro fuel isPassOnce hd hfuel
    obtain ⟨fuel, rfl⟩ := Nat.exists_eq_succ_of_ne_zero (Nat.ne_of_gt hfuel)
    have hzero : start + ⟨0, hd⟩ = start := add_zero start
    rw [findStart, hzero, if_pos rfl]
    simp
  | succ d ih =>
    intro fuel isPassOnce hd hfuel
    obtain ⟨fuel, rfl⟩ := Nat.exists_eq_succ_of_ne_zero (Nat.ne_of_gt (Nat.zero_lt_of_lt hfuel))
    have hne : start + ⟨d + 1, hd⟩ ≠ start := by
      intro h
      have hzero : (⟨d + 1, hd⟩ : Fin 10) = 0 := add_eq_left.mp h
      exact Nat.succ_ne_zero d (congrArg Fin.val hzero)
    have hprevious : start + ⟨d + 1, hd⟩ - 1 = start + ⟨d, Nat.lt_of_succ_lt hd⟩ := by
      rw [Ring.mk_succ, ← add_assoc, add_sub_cancel_right]
    have hlate : ¬ (c.mPrevValueTSs (start + ⟨d + 1, hd⟩) > endDesired ∧
        c.mPrevValueTSs (start + ⟨d + 1, hd⟩) < startDesired) :=
      fun h => absurd h.1 (UInt64.not_lt.mpr (hts _))
    rw [findStart, if_neg fun h => hne (ofNat_injective h), slot_ofNat, previous_ofNat, hprevious]
    refine (if_neg hlate).trans ?_
    rw [ih _ (Nat.lt_of_succ_lt_succ hfuel)]
    simp

/-- What `get_speed` returns: the speed from the oldest sample in the arrays to the latest. -/
theorem getSpeed_eq {nowTsUs : UInt64} (h : Follows c r)
    (hpointer : c.mPrevValuePointer = Int32.ofNat r.last) (hts : ∀ i, c.mPrevValueTSs i ≤ nowTsUs) :
    c.getSpeed nowTsUs = .ok (some (
      if (r.back 0).ts = 0 ∨ (r.back 9).ts = 0 then 0 else speed (r.back 9) (r.back 0))) := by
  have hlast : r.last + 1 + ⟨9, by omega⟩ = r.last := by
    rw [add_one_eq_sub]
    exact sub_add_cancel r.last 9
  have hloop : c.findStart (Int32.ofNat (r.last + 1 : Fin 10))
      (nowTsUs - 1000 * 1000 * maxSpeedWindowSec) nowTsUs 10 (Int32.ofNat r.last) false =
        .ok (some (Int32.ofNat (r.last + 1 : Fin 10), true)) := by
    have hwalk := @findStart_eq c (r.last + 1) (nowTsUs - 1000 * 1000 * maxSpeedWindowSec) nowTsUs
      hts 9 10 false (by omega) (by omega)
    rw [hlast] at hwalk
    exact hwalk
  have hstart : c.sampleAt (r.last + 1) = r.back 9 := by
    rw [h.sampleAt, add_one_eq_sub, Ring.back]
  have hlatest : c.sampleAt r.last = r.back 0 := by
    rw [h.sampleAt, Ring.back, sub_zero]
  rw [getSpeed, h.next, hpointer, self_ofNat]
  dsimp only
  rw [hloop]
  dsimp only [bind, Except.bind]
  rw [if_neg (by simp), slot_ofNat, slot_ofNat]
  dsimp only
  rw [hstart, hlatest]
  split <;> rfl

/-- A run of samples on a new counter, and then the speed. -/
def speedAfter (pointer : Int32) (samples : List Sample) (nowTsUs : UInt64) :
    Except Fault (Option ℤ) := do
  let c ← samples.foldlM record (create pointer)
  c.getSpeed nowTsUs

theorem speedAfter_eq {samples : List Sample} {nowTsUs : UInt64} {i : Fin 10}
    (hpointer : (pointer + 1) % prevValuesSize = Int32.ofNat i) (hlen : 10 ≤ samples.length)
    (hts : ∀ s ∈ samples, s.ts ≤ nowTsUs) {latest oldest : Sample}
    (hlatest : samples.reverse[0]? = some latest) (holdest : samples.reverse[9]? = some oldest) :
    speedAfter pointer samples nowTsUs =
      .ok (some (if latest.ts = 0 ∨ oldest.ts = 0 then 0 else speed oldest latest)) := by
  obtain ⟨c, hc, hfollows, hlast⟩ := recordAll_ok samples (follows_create hpointer)
  have hne : samples ≠ [] := List.ne_nil_of_length_pos (by omega)
  have hback : ∀ k : Fin 10,
      samples.reverse[k.val]? = some (((emptyRing i).pushAll samples.reverse).back k) := by
    intro k
    have hk : k.val < samples.reverse.length := by rw [List.length_reverse]; omega
    rw [List.getElem?_eq_getElem hk]
    exact congrArg some (Ring.back_pushAll k.isLt hk).symm
  have hall : ∀ j, c.mPrevValueTSs j ≤ nowTsUs := by
    intro j
    have hj := congrArg Sample.ts (hfollows.sampleAt j)
    rw [Ring.slots_eq_back] at hj
    have hmem := List.mem_of_getElem? (hback (((emptyRing i).pushAll samples.reverse).last - j))
    exact le_of_eq_of_le hj (hts _ (List.mem_reverse.mp hmem))
  obtain rfl : latest = _ := Option.some.inj (hlatest.symm.trans (hback 0))
  obtain rfl : oldest = _ := Option.some.inj (holdest.symm.trans (hback 9))
  rw [speedAfter, hc]
  exact getSpeed_eq hfollows (hlast hne) hall

/-- A first sample before the arrays is fatal. -/
theorem speedAfter_outOfBounds {samples : List Sample} {nowTsUs : UInt64}
    (hslot : slot ((pointer + 1) % prevValuesSize) = .error .outOfBounds) (hne : samples ≠ []) :
    speedAfter pointer samples nowTsUs = .error .outOfBounds := by
  obtain ⟨s, rest, rfl⟩ := List.exists_cons_of_ne_nil hne
  have hpointer : ((create pointer).setValue s.value).mPrevValuePointer = pointer := rfl
  rw [speedAfter, List.foldlM_cons, record, updateSpeed, hpointer, hslot]
  rfl

end Samples

/-! ## The last second -/

/-- At most one second old. -/
def isRecent (nowTsUs ts : UInt64) : Bool := nowTsUs.toNat ≤ ts.toNat + 1000000

/-- The samples of the last second among those that the arrays hold, the latest first. -/
def recentSamples (samples : List Sample) (nowTsUs : UInt64) : List Sample :=
  (samples.reverse.take 10).filter fun s => isRecent nowTsUs s.ts

/-- The speed over the last second: from the oldest of its samples to the latest. -/
def lastSecondSpeed (samples : List Sample) (nowTsUs : UInt64) : ℤ :=
  if (recentSamples samples nowTsUs).length < 2 then 0
  else
    match (recentSamples samples nowTsUs).getLast?, samples.getLast? with
    | some start, some latest => speed start latest
    | _, _ => 0

def recentStamps (stamps : List UInt64) (nowTsUs : UInt64) : List UInt64 :=
  (stamps.reverse.take 10).filter (isRecent nowTsUs)

/-- The pointer comes to the first place of the arrays or a later one. All the ten stamps in the arrays
are of the last second, the oldest of them not 0; or at most one of them is, and the oldest is 0 or so
far away that no two `int`s differ by one for every second. -/
def MeasuresLastSecond (pointer : Int32) (stamps : List UInt64) (nowTsUs : UInt64) : Prop :=
  0 ≤ (pointer + 1) % prevValuesSize ∧ ∃ latest oldest,
    stamps.reverse[0]? = some latest ∧ stamps.reverse[9]? = some oldest ∧
      (oldest ≠ 0 ∧ isRecent nowTsUs oldest = true ∨
        (recentStamps stamps nowTsUs).length < 2 ∧
          (oldest = 0 ∨ (2 ^ 32 - 1) * 1000000 < (latest - oldest).toNat))

section LastSecond

variable {pointer : Int32} {stamps : List UInt64} {samples : List Sample} {nowTsUs : UInt64}

/-- The ends of the last ten of ten or more. -/
theorem exists_ends {α : Type*} {l : List α} (h : 10 ≤ l.length) : ∃ latest between oldest,
    l.reverse.take 10 = latest :: (between ++ [oldest]) ∧
      l.reverse[0]? = some latest ∧ l.reverse[9]? = some oldest := by
  have hlen : (l.reverse.take 10).length = 10 := by
    rw [List.length_take, List.length_reverse]
    omega
  have hget : ∀ k, k < 10 → l.reverse[k]? = (l.reverse.take 10)[k]? := by
    intro k hk
    rw [List.getElem?_take, if_pos hk]
  rw [hget 0 (by omega), hget 9 (by omega)]
  generalize l.reverse.take 10 = m at hlen
  have hne : m ≠ [] := List.ne_nil_of_length_pos (by omega)
  obtain ⟨latest, rest, rfl⟩ := List.exists_cons_of_ne_nil hne
  obtain ⟨between, oldest, rfl⟩ : ∃ between oldest, rest = between ++ [oldest] := by
    rw [List.length_cons] at hlen
    have hrest : rest ≠ [] := List.ne_nil_of_length_pos (by omega)
    exact ⟨rest.dropLast, rest.getLast hrest, (List.dropLast_append_getLast hrest).symm⟩
  have hbetween : between.length = 8 := by simpa using hlen
  refine ⟨latest, between, oldest, rfl, rfl, ?_⟩
  rw [List.getElem?_cons_succ, ← hbetween]
  exact List.getElem?_concat_length

theorem map_recentSamples :
    (recentSamples samples nowTsUs).map (·.ts) = recentStamps (samples.map (·.ts)) nowTsUs := by
  rw [recentSamples, recentStamps, ← List.map_reverse, ← List.map_take, List.filter_map]
  rfl

theorem toNat_sub {s t : UInt64} (h : s < t) : (t - s).toNat = t.toNat - s.toNat :=
  UInt64.toNat_sub_of_le _ _ (UInt64.le_of_lt h)

/-- A speed of less than one in a second is none. -/
theorem speed_eq_zero_iff {start latest : Sample} (h : start.ts < latest.ts) :
    speed start latest = 0 ↔
      |latest.value.toInt - start.value.toInt| * 1000000 < (latest.ts - start.ts).toNat := by
  have hpos : 0 < (latest.ts - start.ts).toNat := by
    have hlt := UInt64.lt_iff_toNat_lt.mp h
    rw [toNat_sub h]
    omega
  have hsec : (0 : ℚ) < (latest.ts - start.ts).toNat / 1000000 := by positivity
  rw [speed, truncate_eq_zero_iff, abs_div, abs_of_pos hsec, div_lt_one hsec,
    lt_div_iff₀ (by norm_num)]
  exact_mod_cast Iff.rfl

/-- The samples in the arrays, the latest first. -/
structure InArrays (samples : List Sample) (latest : Sample) (between : List Sample)
    (oldest : Sample) : Prop where
  take_eq : samples.reverse.take 10 = latest :: (between ++ [oldest])
  latest_eq : samples.reverse[0]? = some latest
  oldest_eq : samples.reverse[9]? = some oldest
  lt_latest : ∀ s ∈ between ++ [oldest], s.ts < latest.ts

theorem exists_inArrays (hlen : 10 ≤ samples.length)
    (hincreasing : (samples.map (·.ts)).Pairwise (· < ·)) :
    ∃ latest between oldest, InArrays samples latest between oldest := by
  obtain ⟨latest, between, oldest, htake, hlatest, holdest⟩ := exists_ends hlen
  refine ⟨latest, between, oldest, htake, hlatest, holdest, fun s hs => ?_⟩
  have hdecreasing : (samples.reverse.take 10).Pairwise fun s t => t.ts < s.ts :=
    (List.pairwise_reverse.mpr (List.pairwise_map.mp hincreasing)).sublist (List.take_sublist _ _)
  rw [htake] at hdecreasing
  exact List.rel_of_pairwise_cons hdecreasing hs

variable {latest oldest : Sample} {between : List Sample}

theorem InArrays.getLast?_eq (h : InArrays samples latest between oldest) :
    samples.getLast? = some latest := by
  rw [← List.head?_reverse, List.head?_eq_getElem?]
  exact h.latest_eq

/-- With two samples of the last second, the speed is from the oldest of them to the latest. -/
theorem InArrays.exists_start (h : InArrays samples latest between oldest)
    (htwo : ¬ (recentSamples samples nowTsUs).length < 2) :
    ∃ start ∈ between ++ [oldest], isRecent nowTsUs start.ts = true ∧
      (recentSamples samples nowTsUs).getLast? = some start ∧
      lastSecondSpeed samples nowTsUs = speed start latest ∧
      (isRecent nowTsUs oldest.ts = true → start = oldest) := by
  have hrecent : recentSamples samples nowTsUs =
      (latest :: (between ++ [oldest])).filter fun s => isRecent nowTsUs s.ts := by
    rw [recentSamples, h.take_eq]
  have hne : (between ++ [oldest]).filter (fun s => isRecent nowTsUs s.ts) ≠ [] := by
    intro hnil
    rw [hrecent, List.filter_cons, hnil] at htwo
    split at htwo <;> simp at htwo
  obtain ⟨start, hstart⟩ : ∃ start,
      ((between ++ [oldest]).filter fun s => isRecent nowTsUs s.ts).getLast? = some start :=
    ⟨_, List.getLast?_eq_some_getLast hne⟩
  have hmem := List.mem_filter.mp (List.mem_of_getLast? hstart)
  have hlast : (recentSamples samples nowTsUs).getLast? = some start := by
    rw [hrecent, List.filter_cons]
    split
    · rw [List.getLast?_cons, hstart]
      rfl
    · exact hstart
  refine ⟨start, hmem.1, hmem.2, hlast, ?_, fun holdest => ?_⟩
  · rw [lastSecondSpeed, if_neg htwo, hlast, h.getLast?_eq]
  · rw [List.filter_append, List.filter_singleton, holdest] at hstart
    simpa using hstart.symm

/-- All or at most one of the last second: the speed is right, whatever the values. -/
theorem InArrays.right (h : InArrays samples latest between oldest)
    (hright : oldest.ts ≠ 0 ∧ isRecent nowTsUs oldest.ts = true ∨
      (recentSamples samples nowTsUs).length < 2 ∧
        (oldest.ts = 0 ∨ (2 ^ 32 - 1) * 1000000 < (latest.ts - oldest.ts).toNat)) :
    (if oldest.ts = 0 then 0 else speed oldest latest) = lastSecondSpeed samples nowTsUs := by
  have hlt := h.lt_latest oldest (by simp)
  rcases hright with ⟨hzero, hrecent⟩ | ⟨hone, hright⟩
  · have hlatest : isRecent nowTsUs latest.ts = true := by
      have hlt' := UInt64.lt_iff_toNat_lt.mp hlt
      simp only [isRecent, decide_eq_true_eq] at hrecent ⊢
      omega
    have htwo : ¬ (recentSamples samples nowTsUs).length < 2 := by
      rw [recentSamples, h.take_eq]
      simp [List.filter_append, hlatest, hrecent]
    obtain ⟨start, -, -, -, hspeed, hstart⟩ := h.exists_start htwo
    rw [if_neg hzero, hspeed, hstart hrecent]
  · rw [lastSecondSpeed, if_pos hone]
    by_cases hzero : oldest.ts = 0
    · rw [if_pos hzero]
    · rw [if_neg hzero, speed_eq_zero_iff hlt]
      have hfar := hright.resolve_left hzero
      have h₁ := latest.value.le_toInt
      have h₂ := latest.value.toInt_lt
      have h₃ := oldest.value.le_toInt
      have h₄ := oldest.value.toInt_lt
      have habs : |latest.value.toInt - oldest.value.toInt| ≤ 2 ^ 32 - 1 := by
        rw [abs_le]
        constructor <;> omega
      omega

/-- Samples with given stamps, whose values depend on their stamps. -/
def withValues (value : UInt64 → Int32) (stamps : List UInt64) : List Sample :=
  stamps.map fun t => ⟨value t, t⟩

theorem map_withValues (value : UInt64 → Int32) :
    (withValues value stamps).map (·.ts) = stamps := by
  rw [withValues, List.map_map]
  exact List.map_id stamps

theorem value_of_mem {value : UInt64 → Int32} {s : Sample} (h : s ∈ withValues value stamps) :
    s.value = value s.ts := by
  obtain ⟨t, -, rfl⟩ := List.mem_map.mp h
  rfl

theorem InArrays.mem (h : InArrays samples latest between oldest) :
    latest ∈ samples ∧ ∀ s ∈ between ++ [oldest], s ∈ samples := by
  have htake : ∀ s ∈ samples.reverse.take 10, s ∈ samples :=
    fun s hs => List.mem_reverse.mp (List.mem_of_mem_take hs)
  rw [h.take_eq] at htake
  exact List.forall_mem_cons.mp htake

/-- With two samples of the last second, of which the oldest in the arrays is none or has the stamp 0,
the speed is wrong for a value that is 0 at the first of them and 1 later and before. -/
theorem InArrays.wrong_of_two {start : UInt64}
    (h : InArrays (withValues (fun t => if t = start then 0 else 1) stamps) latest between oldest)
    (hstart : (recentStamps stamps nowTsUs).getLast? = some start)
    (htwo : ¬ (recentStamps stamps nowTsUs).length < 2) (hnow : latest.ts ≤ nowTsUs)
    (hoff : oldest.ts ≠ 0 → ¬ isRecent nowTsUs oldest.ts = true) :
    (if oldest.ts = 0 then 0 else speed oldest latest) ≠
      lastSecondSpeed (withValues (fun t => if t = start then 0 else 1) stamps) nowTsUs := by
  have hmap := @map_recentSamples (withValues (fun t => if t = start then 0 else 1) stamps) nowTsUs
  rw [map_withValues] at hmap
  rw [← hmap, List.length_map] at htwo
  obtain ⟨s, hs, hrecent, hlast, hspeed, -⟩ := h.exists_start htwo
  have hts : s.ts = start := by
    rw [← hmap, List.getLast?_map, hlast] at hstart
    exact Option.some.inj hstart
  have hlt := h.lt_latest s hs
  have hzero : s.value = 0 := by
    rw [value_of_mem (h.mem.2 s hs), if_pos hts]
  have hone : ∀ {e : Sample}, e ∈ withValues (fun t => if t = start then 0 else 1) stamps →
      e.ts ≠ s.ts → e.value = 1 := by
    intro e he hne
    rw [value_of_mem he, if_neg (hts ▸ hne)]
  have hlatest : latest.value = 1 := hone h.mem.1 (UInt64.ne_of_lt hlt).symm
  have hexpected : speed s latest ≠ 0 := by
    have hlt' := UInt64.lt_iff_toNat_lt.mp hlt
    have hnow' := UInt64.le_iff_toNat_le.mp hnow
    rw [Ne, speed_eq_zero_iff hlt, hzero, hlatest, toNat_sub hlt]
    have hdiff : |(1 : Int32).toInt - (0 : Int32).toInt| = 1 := rfl
    simp only [isRecent, decide_eq_true_eq] at hrecent
    omega
  have hcode : (if oldest.ts = 0 then 0 else speed oldest latest) = 0 := by
    by_cases hz : oldest.ts = 0
    · rw [if_pos hz]
    · have holdest : oldest ∈ between ++ [oldest] := by simp
      have hne : oldest.ts ≠ s.ts := fun he => hoff hz (he ▸ hrecent)
      have hlt' := h.lt_latest oldest holdest
      have hpos := UInt64.lt_iff_toNat_lt.mp hlt'
      rw [if_neg hz, speed_eq_zero_iff hlt', hone (h.mem.2 oldest holdest) hne, hlatest, sub_self,
        abs_zero, zero_mul, toNat_sub hlt']
      omega
  rw [hcode, hspeed]
  exact hexpected.symm

/-- With at most one sample of the last second, the speed is wrong for a value that grows by as much as
it can after the oldest sample in the arrays. -/
theorem InArrays.wrong_of_one {start : UInt64}
    (h : InArrays (withValues (fun t => if t = start then Int32.minValue else Int32.maxValue) stamps)
      latest between oldest) (hstart : oldest.ts = start) (hzero : oldest.ts ≠ 0)
    (hone : (recentStamps stamps nowTsUs).length < 2)
    (hnear : ¬ (2 ^ 32 - 1) * 1000000 < (latest.ts - oldest.ts).toNat) :
    (if oldest.ts = 0 then 0 else speed oldest latest) ≠ lastSecondSpeed
      (withValues (fun t => if t = start then Int32.minValue else Int32.maxValue) stamps) nowTsUs := by
  have hmap := @map_recentSamples
    (withValues (fun t => if t = start then Int32.minValue else Int32.maxValue) stamps) nowTsUs
  rw [map_withValues] at hmap
  rw [← hmap, List.length_map] at hone
  have holdest : oldest ∈ between ++ [oldest] := by simp
  have hlt := h.lt_latest oldest holdest
  have hmin : oldest.value = Int32.minValue := by
    rw [value_of_mem (h.mem.2 oldest holdest), if_pos hstart]
  have hmax : latest.value = Int32.maxValue := by
    rw [value_of_mem h.mem.1, if_neg (hstart ▸ (UInt64.ne_of_lt hlt).symm)]
  have hdiff : |Int32.maxValue.toInt - Int32.minValue.toInt| = 2 ^ 32 - 1 := rfl
  rw [lastSecondSpeed, if_pos hone, if_neg hzero, Ne, speed_eq_zero_iff hlt, hmin, hmax, hdiff]
  omega

/-- A counter returns the speed over the last second. -/
def SpeedRight (pointer : Int32) (samples : List Sample) (nowTsUs : UInt64) : Prop :=
  speedAfter pointer samples nowTsUs = .ok (some (lastSecondSpeed samples nowTsUs))

theorem InArrays.speedRight_iff (h : InArrays samples latest between oldest) (hlen : 10 ≤ samples.length)
    (hnow : ∀ s ∈ samples, s.ts ≤ nowTsUs) {i : Fin 10}
    (hpointer : (pointer + 1) % prevValuesSize = Int32.ofNat i) :
    SpeedRight pointer samples nowTsUs ↔
      (if oldest.ts = 0 then 0 else speed oldest latest) = lastSecondSpeed samples nowTsUs := by
  have hlt := UInt64.lt_iff_toNat_lt.mp (h.lt_latest oldest (by simp))
  have hlatest : latest.ts ≠ 0 := by
    intro hz
    rw [hz] at hlt
    exact Nat.not_lt_zero _ hlt
  rw [SpeedRight, speedAfter_eq hpointer hlen hnow h.latest_eq h.oldest_eq]
  simp only [hlatest, false_or, Except.ok.injEq, Option.some.injEq]

/-- What the stamps say of the samples. -/
theorem exists_inArrays_of_map (hlen : 10 ≤ stamps.length) (hincreasing : stamps.Pairwise (· < ·))
    (hnow : ∀ t ∈ stamps, t ≤ nowTsUs) (hmap : samples.map (·.ts) = stamps) :
    10 ≤ samples.length ∧ (∀ s ∈ samples, s.ts ≤ nowTsUs) ∧
      ∃ latest between oldest, InArrays samples latest between oldest ∧
        stamps.reverse[0]? = some latest.ts ∧ stamps.reverse[9]? = some oldest.ts := by
  subst hmap
  rw [List.length_map] at hlen
  obtain ⟨latest, between, oldest, h⟩ := exists_inArrays hlen hincreasing
  refine ⟨hlen, fun s hs => hnow _ (List.mem_map_of_mem hs), latest, between, oldest, h, ?_, ?_⟩
  · rw [← List.map_reverse, List.getElem?_map, h.latest_eq]
    rfl
  · rw [← List.map_reverse, List.getElem?_map, h.oldest_eq]
    rfl

/-- Where the arrays do not cover the last second, some values are measured wrong. -/
theorem measuresLastSecond_of_right (hlen : 10 ≤ stamps.length)
    (hincreasing : stamps.Pairwise (· < ·)) (hnow : ∀ t ∈ stamps, t ≤ nowTsUs) {i : Fin 10}
    (hpointer : (pointer + 1) % prevValuesSize = Int32.ofNat i)
    (hpos : 0 ≤ (pointer + 1) % prevValuesSize)
    (hright : ∀ samples : List Sample, samples.map (·.ts) = stamps →
      SpeedRight pointer samples nowTsUs) : MeasuresLastSecond pointer stamps nowTsUs := by
  by_contra hnot
  by_cases hone : (recentStamps stamps nowTsUs).length < 2
  · obtain ⟨-, -, _, _, oldest₀, -, -, holdest₀⟩ :=
      exists_inArrays_of_map hlen hincreasing hnow (map_withValues fun _ => Int32.minValue)
    have hmap := @map_withValues stamps fun t =>
      if t = oldest₀.ts then Int32.minValue else Int32.maxValue
    obtain ⟨hlen', hnow', latest, between, oldest, h, hlatest, holdest⟩ :=
      exists_inArrays_of_map hlen hincreasing hnow hmap
    have hstart := Option.some.inj (holdest.symm.trans holdest₀)
    have hnot' : ¬ (oldest.ts = 0 ∨ (2 ^ 32 - 1) * 1000000 < (latest.ts - oldest.ts).toNat) :=
      fun hor => hnot ⟨hpos, _, _, hlatest, holdest, .inr ⟨hone, hor⟩⟩
    rw [not_or] at hnot'
    exact h.wrong_of_one hstart hnot'.1 hone hnot'.2
      ((h.speedRight_iff hlen' hnow' hpointer).mp (hright _ hmap))
  · have hne : recentStamps stamps nowTsUs ≠ [] := by
      intro hnil
      rw [hnil] at hone
      exact hone (by simp)
    obtain ⟨start, hstart⟩ : ∃ start, (recentStamps stamps nowTsUs).getLast? = some start :=
      ⟨_, List.getLast?_eq_some_getLast hne⟩
    have hmap := @map_withValues stamps fun t => if t = start then 0 else 1
    obtain ⟨hlen', hnow', latest, between, oldest, h, hlatest, holdest⟩ :=
      exists_inArrays_of_map hlen hincreasing hnow hmap
    have hoff : oldest.ts ≠ 0 → ¬ isRecent nowTsUs oldest.ts = true :=
      fun hz hrecent => hnot ⟨hpos, _, _, hlatest, holdest, .inl ⟨hz, hrecent⟩⟩
    exact h.wrong_of_two hstart hone (hnow' _ h.mem.1) hoff
      ((h.speedRight_iff hlen' hnow' hpointer).mp (hright _ hmap))

theorem MeasuresLastSecond.speedRight (hmeasures : MeasuresLastSecond pointer stamps nowTsUs)
    (hlen : 10 ≤ stamps.length) (hincreasing : stamps.Pairwise (· < ·))
    (hnow : ∀ t ∈ stamps, t ≤ nowTsUs) {i : Fin 10}
    (hpointer : (pointer + 1) % prevValuesSize = Int32.ofNat i)
    (hmap : samples.map (·.ts) = stamps) : SpeedRight pointer samples nowTsUs := by
  obtain ⟨-, latestTs, oldestTs, hlatestTs, holdestTs, hright⟩ := hmeasures
  obtain ⟨hlen', hnow', latest, between, oldest, h, hlatest, holdest⟩ :=
    exists_inArrays_of_map hlen hincreasing hnow hmap
  obtain rfl := Option.some.inj (hlatest.symm.trans hlatestTs)
  obtain rfl := Option.some.inj (holdest.symm.trans holdestTs)
  rw [← hmap, ← map_recentSamples, List.length_map] at hright
  exact (h.speedRight_iff hlen' hnow' hpointer).mpr (h.right hright)

/-- For given stamps the speed is right, whatever the values are, exactly if the arrays happen to cover
the last second and no more. -/
theorem speed_right_iff (hlen : 10 ≤ stamps.length) (hincreasing : stamps.Pairwise (· < ·))
    (hnow : ∀ t ∈ stamps, t ≤ nowTsUs) :
    (∀ samples : List Sample, samples.map (·.ts) = stamps → SpeedRight pointer samples nowTsUs) ↔
      MeasuresLastSecond pointer stamps nowTsUs := by
  rcases slot_first pointer with ⟨i, hi⟩ | ⟨hneg, hslot⟩
  · have hpos : 0 ≤ (pointer + 1) % prevValuesSize := by
      rw [hi]
      fin_cases i <;> decide
    constructor
    · exact measuresLastSecond_of_right hlen hincreasing hnow hi hpos
    · intro hmeasures samples hmap
      exact hmeasures.speedRight hlen hincreasing hnow hi hmap
  · have hne : withValues (fun _ => 0) stamps ≠ [] := by
      intro hnil
      have hzero := congrArg List.length hnil
      rw [withValues, List.length_map] at hzero
      rw [hzero] at hlen
      exact absurd hlen (by simp)
    constructor
    · intro hright
      have herror := hright _ (map_withValues fun _ => 0)
      rw [SpeedRight, speedAfter_outOfBounds hslot hne] at herror
      cases herror
    · rintro ⟨hpos, -⟩
      exact absurd hneg (Int32.not_lt.mpr hpos)

/-- Ten samples a tenth of a second apart: all of them are of the last second. -/
theorem speed_right_tenths : SpeedRight 0 [⟨0, 100000⟩, ⟨1, 200000⟩, ⟨2, 300000⟩, ⟨3, 400000⟩,
    ⟨4, 500000⟩, ⟨5, 600000⟩, ⟨6, 700000⟩, ⟨7, 800000⟩, ⟨8, 900000⟩, ⟨9, 1000000⟩] 1000000 := by
  have hmeasures : MeasuresLastSecond 0 [100000, 200000, 300000, 400000, 500000, 600000, 700000, 800000,
      900000, 1000000] 1000000 :=
    ⟨by decide, 1000000, 100000, rfl, rfl, .inl ⟨by decide, by decide⟩⟩
  exact (speed_right_iff (by simp) (by simp) (by simp)).mpr hmeasures _ rfl

/-- Ten samples of the measuring thread, a quarter of a second apart. The value has not changed in the
last second, and before it only once. -/
theorem speed_wrong_quarters : ¬ SpeedRight 0 [⟨0, 250000⟩, ⟨0, 500000⟩, ⟨0, 750000⟩, ⟨0, 1000000⟩,
    ⟨0, 1250000⟩, ⟨9000, 1500000⟩, ⟨9000, 1750000⟩, ⟨9000, 2000000⟩, ⟨9000, 2250000⟩,
    ⟨9000, 2500000⟩] 2500000 := by
  rw [SpeedRight]
  decide +kernel

end LastSecond

end Counter
end Linux
end VirtualConnection
