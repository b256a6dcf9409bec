import VirtualConnection.Lib.Runs
import VirtualConnection.Lib.Streaks
import VirtualConnection.Linux.NMPolicyHistoryBased

/-!
# Linux.SwitchDecisions

Runs of the history-based policy: calls of `decide` and custom events, with whatever the statistics
and the clock say. The history has what each call voted and returned, the latest first; no code reads
it.

* `Filtered`: a call returns a switch exactly when it and the three votes before it are for it. The
  counters behind this are `int`s.
* `KeepsQuiet`: a switch comes 15 seconds after any other since the last custom event. A stamp with a
  zero in either part does not start a quiet period.
-/

namespace VirtualConnection
namespace Linux

open Runs Streaks

namespace SwitchBehavior

def IsSwitch (b : SwitchBehavior) : Prop := b = .kIncreaseAdapter ∨ b = .kDecreaseAdapter

instance (b : SwitchBehavior) : Decidable b.IsSwitch := inferInstanceAs (Decidable (_ ∨ _))

end SwitchBehavior

namespace NMPolicyHistoryBased

/-- What `decide_internal` says when it is reached, which it is not in a quiet period. -/
def vote (p : NMPolicyHistoryBased) (stats : Stats) (isIncreasable isDecreasable : Bool)
    (t : Readings) : Option SwitchBehavior :=
  if p.InQuietPeriod t.check then none
  else
    match p.decideInternal stats isIncreasable isDecreasable t with
    | .error _ => none
    | .ok (vote, _) => some vote

/-- The counter for a vote. -/
def serialCount (p : NMPolicyHistoryBased) (v : SwitchBehavior) : Int32 :=
  if v = .kIncreaseAdapter then p.mSerialIncCount else p.mSerialDecCount

/-! ## What a call does -/

variable {p q : NMPolicyHistoryBased} {stats : Stats} {isIncreasable isDecreasable : Bool}
  {t : Readings} {b v : SwitchBehavior}

/-- Two policies that differ in neither of the things that the filter and the quiet period use. -/
structure SameFilter (p q : NMPolicyHistoryBased) : Prop where
  inc : q.mSerialIncCount = p.mSerialIncCount
  dec : q.mSerialDecCount = p.mSerialDecCount
  stamp : q.mRecentSwitchTS = p.mRecentSwitchTS

theorem countRequestSpeed_sameFilter : SameFilter p (p.countRequestSpeed stats) := by
  unfold countRequestSpeed
  dsimp only
  split
  · exact ⟨rfl, rfl, rfl⟩
  · split
    · exact ⟨rfl, rfl, rfl⟩
    · split
      · exact ⟨rfl, rfl, rfl⟩
      · split <;> exact ⟨rfl, rfl, rfl⟩

/-- A decision by energy votes for what is possible. -/
theorem decideByEnergy_spec (segQLength : Int32) (trafficSeq : List Int32) :
    let r := p.decideByEnergy segQLength trafficSeq isIncreasable isDecreasable
    SameFilter p r.2 ∧ (r.1 = .kIncreaseAdapter → isIncreasable = true) ∧
      (r.1 = .kDecreaseAdapter → isDecreasable = true) := by
  unfold decideByEnergy
  cases isIncreasable
  · cases isDecreasable
    · exact ⟨⟨rfl, rfl, rfl⟩, by simp, by simp⟩
    · simp only [Bool.false_eq_true, if_false, if_true]
      split
      · exact ⟨⟨rfl, rfl, rfl⟩, by simp, by simp⟩
      · split
        · exact ⟨⟨rfl, rfl, rfl⟩, by simp, by simp⟩
        · exact ⟨⟨rfl, rfl, rfl⟩, by simp, by simp⟩
  · simp only [if_true]
    split
    · exact ⟨⟨rfl, rfl, rfl⟩, by simp, by simp⟩
    · split
      · exact ⟨⟨rfl, rfl, rfl⟩, by simp, by simp⟩
      · exact ⟨⟨rfl, rfl, rfl⟩, by simp, by simp⟩

theorem decideInternal_spec
    (h : p.decideInternal stats isIncreasable isDecreasable t = .ok (v, q)) :
    SameFilter p q ∧ (v = .kIncreaseAdapter → isIncreasable = true) ∧
      (v = .kDecreaseAdapter → isDecreasable = true) := by
  have hcount := @countRequestSpeed_sameFilter p stats
  unfold decideInternal at h
  dsimp only at h
  split at h
  · obtain ⟨rfl, rfl⟩ := Prod.mk.inj (Except.ok.inj h)
    exact ⟨hcount, by simp, by simp⟩
  · split at h
    · cases h
    · obtain ⟨rfl, rfl⟩ := Prod.mk.inj (Except.ok.inj h)
      exact ⟨hcount, by simp, by simp⟩
    · split at h
      · cases h
      · rename_i trafficSeq hmerge
        have henergy := @decideByEnergy_spec (p.countRequestSpeed stats) isIncreasable isDecreasable
          stats.nowQueueDataSize trafficSeq
        rw [Except.ok.inj h] at henergy
        obtain ⟨hsame, hvotes⟩ := henergy
        exact ⟨⟨hsame.inc.trans hcount.inc, hsame.dec.trans hcount.dec,
          hsame.stamp.trans hcount.stamp⟩, hvotes⟩

theorem vote_of_decideInternal (hquiet : ¬ p.InQuietPeriod t.check)
    (h : p.decideInternal stats isIncreasable isDecreasable t = .ok (v, q)) :
    p.vote stats isIncreasable isDecreasable t = some v := by
  rw [vote, if_neg hquiet, h]

theorem vote_eq_some (h : p.vote stats isIncreasable isDecreasable t = some v) :
    ¬ p.InQuietPeriod t.check ∧
      ∃ q, p.decideInternal stats isIncreasable isDecreasable t = .ok (v, q) := by
  unfold vote at h
  split at h
  · cases h
  · rename_i hquiet
    refine ⟨hquiet, ?_⟩
    split at h
    · cases h
    · rename_i w q hw
      obtain rfl : w = v := Option.some.inj h
      exact ⟨q, hw⟩

/-- The filter lets a vote pass when its counter has reached three. -/
theorem filterVote_fst (v : SwitchBehavior) : (p.filterVote v).1 =
    if v.IsSwitch ∧ p.serialCount v < 3 then .kNoBehavior else v := by
  unfold filterVote serialCount
  by_cases hinc : v = .kIncreaseAdapter
  · subst hinc
    have hswitch : SwitchBehavior.kIncreaseAdapter.IsSwitch := .inl rfl
    simp only [hswitch, true_and, if_true]
    by_cases hlow : p.mSerialIncCount < serialIncCountThreshold
    · rw [if_pos hlow]
      exact (if_pos hlow).symm
    · rw [if_neg hlow]
      exact (if_neg hlow).symm
  · by_cases hdec : v = .kDecreaseAdapter
    · subst hdec
      have hswitch : SwitchBehavior.kDecreaseAdapter.IsSwitch := .inr rfl
      simp only [hswitch, hinc, true_and, if_true, if_false]
      by_cases hlow : p.mSerialDecCount < serialDecCountThreshold
      · rw [if_pos hlow]
        exact (if_pos hlow).symm
      · rw [if_neg hlow]
        exact (if_neg hlow).symm
    · have hswitch : ¬ v.IsSwitch := fun h => h.elim hinc hdec
      simp only [hswitch, hinc, hdec, false_and, if_false]

/-- The counter of a vote for a switch grows, and the others are reset. -/
theorem filterVote_serialCount (v : SwitchBehavior) {w : SwitchBehavior} (hw : w.IsSwitch) :
    (p.filterVote v).2.serialCount w = if w = v then p.serialCount w + 1 else 0 := by
  unfold filterVote serialCount
  rcases hw with rfl | rfl
  · by_cases hinc : v = .kIncreaseAdapter
    · subst hinc
      simp
    · by_cases hdec : v = .kDecreaseAdapter
      · subst hdec
        simp
      · simp [hinc, hdec, Ne.symm hinc]
  · by_cases hinc : v = .kIncreaseAdapter
    · subst hinc
      simp
    · by_cases hdec : v = .kDecreaseAdapter
      · subst hdec
        simp
      · simp [hinc, hdec, Ne.symm hdec]

theorem filterVote_stamp (v : SwitchBehavior) :
    (p.filterVote v).2.mRecentSwitchTS = p.mRecentSwitchTS := by
  unfold filterVote
  split
  · rfl
  · split <;> rfl

/-- A call that votes: the vote is filtered, and a switch is stamped. -/
theorem decide_eq (hquiet : ¬ p.InQuietPeriod t.check)
    (h : p.decideInternal stats isIncreasable isDecreasable t = .ok (v, q)) :
    p.decide stats isIncreasable isDecreasable t = .ok ((q.filterVote v).1,
      if (q.filterVote v).1.IsSwitch then (q.filterVote v).2.updateRecentSwitchTS t.stamp
      else (q.filterVote v).2) := by
  rw [NMPolicyHistoryBased.decide, if_neg hquiet, h]
  dsimp only
  by_cases hswitch : (q.filterVote v).1.IsSwitch
  · rw [if_pos hswitch]
    exact if_pos hswitch
  · rw [if_neg hswitch]
    exact if_neg hswitch

/-- Everything that a call of `decide` does to the filter and the quiet period. -/
theorem decide_cases (h : p.decide stats isIncreasable isDecreasable t = .ok (b, q)) :
    (p.vote stats isIncreasable isDecreasable t = none ∧ p.InQuietPeriod t.check ∧
        b = .kNoBehavior ∧ q = p) ∨
      ∃ v, p.vote stats isIncreasable isDecreasable t = some v ∧
        (v = .kIncreaseAdapter → isIncreasable = true) ∧
        (v = .kDecreaseAdapter → isDecreasable = true) ∧
        b = (if v.IsSwitch ∧ p.serialCount v < 3 then .kNoBehavior else v) ∧
        (∀ w : SwitchBehavior, w.IsSwitch →
          q.serialCount w = if w = v then p.serialCount w + 1 else 0) ∧
        q.mRecentSwitchTS = if b.IsSwitch then t.stamp else p.mRecentSwitchTS := by
  by_cases hquiet : p.InQuietPeriod t.check
  · rw [NMPolicyHistoryBased.decide, if_pos hquiet] at h
    obtain ⟨rfl, rfl⟩ := Prod.mk.inj (Except.ok.inj h)
    exact .inl ⟨if_pos hquiet, hquiet, rfl, rfl⟩
  · cases hinternal : p.decideInternal stats isIncreasable isDecreasable t with
    | error f =>
      rw [NMPolicyHistoryBased.decide, if_neg hquiet, hinternal] at h
      cases h
    | ok result =>
      obtain ⟨v, r⟩ := result
      rw [decide_eq hquiet hinternal] at h
      obtain ⟨rfl, rfl⟩ := Prod.mk.inj (Except.ok.inj h)
      obtain ⟨hsame, hinc, hdec⟩ := decideInternal_spec hinternal
      have hcount : ∀ w, r.serialCount w = p.serialCount w := by
        intro w
        rw [serialCount, serialCount, hsame.inc, hsame.dec]
      refine .inr ⟨v, vote_of_decideInternal hquiet hinternal, hinc, hdec, ?_, fun w hw => ?_, ?_⟩
      · rw [filterVote_fst, hcount]
      · rw [← hcount, ← filterVote_serialCount v hw]
        split <;> rfl
      · have hstamp := @filterVote_stamp r v
        rw [← hsame.stamp]
        split
        · rfl
        · exact hstamp

end NMPolicyHistoryBased

/-! ## Runs -/

namespace SwitchDecisions

/-- A call of `decide`. The vote is missing when it came in a quiet period. -/
structure DecidedCall where
  readings : Readings
  isIncreasable : Bool
  isDecreasable : Bool
  vote : Option SwitchBehavior
  behavior : SwitchBehavior
  deriving DecidableEq, Repr

inductive Entry where
  | decided (call : DecidedCall)
  | customEvent
  deriving DecidableEq, Repr

inductive Event where
  | decide (stats : Stats) (isIncreasable isDecreasable : Bool) (t : Readings)
  | customEvent (eventDescription : List Char) (t : Timeval)
  deriving DecidableEq, Repr

/-- Why a call does not return. -/
inductive Failure where
  | fault (f : Fault)
  | exception (e : StdException)
  deriving DecidableEq, Repr

/-- The policy, the latest reading of the clock, and the history. -/
structure Record where
  policy : NMPolicyHistoryBased
  now : ℤ
  history : List Entry
  deriving DecidableEq, Repr

def Record.start (policy : NMPolicyHistoryBased) (now : ℤ) : Record where
  policy := policy
  now := now
  history := []

def step (r : Record) : Event → Except Failure Record
  | .decide stats isIncreasable isDecreasable t =>
    match r.policy.decide stats isIncreasable isDecreasable t with
    | .error f => .error (.fault f)
    | .ok (behavior, policy) => .ok {
        policy := policy
        now := t.stamp.toUs
        history := .decided {
          readings := t
          isIncreasable := isIncreasable
          isDecreasable := isDecreasable
          vote := r.policy.vote stats isIncreasable isDecreasable t
          behavior := behavior } :: r.history }
  | .customEvent eventDescription t =>
    match r.policy.onCustomEvent eventDescription t with
    | .error e => .error (.exception e)
    | .ok policy => .ok { policy := policy, now := t.toUs, history := .customEvent :: r.history }

/-- The votes, the latest first. -/
def votes : List Entry → List SwitchBehavior
  | [] => []
  | .customEvent :: older => votes older
  | .decided call :: older =>
    match call.vote with
    | none => votes older
    | some v => v :: votes older

/-- `v` is returned exactly when the vote and the three before it are for it. -/
def Answers (v : SwitchBehavior) (call : DecidedCall) (older : List Entry) : Prop :=
  call.behavior = v ↔ call.vote = some v ∧ (votes older).take 3 = List.replicate 3 v

/-- Every call returns a switch exactly when the last four votes are for it, and it never returns an
impossible one. -/
def Filtered : List Entry → Prop
  | [] => True
  | .customEvent :: older => Filtered older
  | .decided call :: older => Filtered older ∧
      Answers .kIncreaseAdapter call older ∧ Answers .kDecreaseAdapter call older ∧
      (call.behavior = .kIncreaseAdapter → call.isIncreasable = true) ∧
      (call.behavior = .kDecreaseAdapter → call.isDecreasable = true)

/-- The stamps of the switches since the last custom event. -/
def recentSwitches : List Entry → List Timeval
  | [] => []
  | .customEvent :: _ => []
  | .decided call :: older =>
    if call.behavior.IsSwitch then call.readings.stamp :: recentSwitches older
    else recentSwitches older

/-- Every switch comes 15 seconds after those since the last custom event. -/
def KeepsQuiet : List Entry → Prop
  | [] => True
  | .customEvent :: older => KeepsQuiet older
  | .decided call :: older => KeepsQuiet older ∧
      (call.behavior.IsSwitch → ∀ t ∈ recentSwitches older,
        t.toUs + 15 * (1000 * 1000) ≤ call.readings.check.toUs)

variable {r s : Record}

/-- What a step is: a call that returned, or a custom event that was understood. -/
theorem step_cases {e : Event} (h : step r e = .ok s) :
    (∃ stats isIncreasable isDecreasable t behavior policy,
      e = .decide stats isIncreasable isDecreasable t ∧
      r.policy.decide stats isIncreasable isDecreasable t = .ok (behavior, policy) ∧
      s = { policy := policy, now := t.stamp.toUs, history := .decided ⟨t, isIncreasable,
        isDecreasable, r.policy.vote stats isIncreasable isDecreasable t, behavior⟩ :: r.history }) ∨
    ∃ eventDescription t policy, e = .customEvent eventDescription t ∧
      r.policy.onCustomEvent eventDescription t = .ok policy ∧
      s = { policy := policy, now := t.toUs, history := .customEvent :: r.history } := by
  cases e with
  | decide stats isIncreasable isDecreasable t =>
    simp only [step] at h
    split at h
    · cases h
    · rename_i behavior policy hdecide
      exact .inl ⟨stats, isIncreasable, isDecreasable, t, behavior, policy, rfl, hdecide,
        (Except.ok.inj h).symm⟩
  | customEvent eventDescription t =>
    simp only [step] at h
    split at h
    · cases h
    · rename_i policy hevent
      exact .inr ⟨eventDescription, t, policy, rfl, hevent, (Except.ok.inj h).symm⟩

theorem setAppName_counts (p : NMPolicyHistoryBased) (token : List Char) (t : Timeval) :
    (p.setAppName token t).mSerialIncCount = p.mSerialIncCount ∧
      (p.setAppName token t).mSerialDecCount = p.mSerialDecCount := by
  unfold NMPolicyHistoryBased.setAppName
  split <;> exact ⟨rfl, rfl⟩

theorem setEventType_counts {p q : NMPolicyHistoryBased} {isBackgroundApp : Bool}
    {token : List Char} (h : p.setEventType isBackgroundApp token = .ok q) :
    q.mSerialIncCount = p.mSerialIncCount ∧ q.mSerialDecCount = p.mSerialDecCount := by
  unfold NMPolicyHistoryBased.setEventType at h
  split at h
  · cases h
  · split at h <;> rw [← Except.ok.inj h] <;> exact ⟨rfl, rfl⟩

/-- A custom event leaves the counters alone. -/
theorem onCustomEvent_counts {p q : NMPolicyHistoryBased} {eventDescription : List Char}
    {t : Timeval} (h : p.onCustomEvent eventDescription t = .ok q) :
    q.mSerialIncCount = p.mSerialIncCount ∧ q.mSerialDecCount = p.mSerialDecCount := by
  unfold NMPolicyHistoryBased.onCustomEvent at h
  split at h
  · rw [← Except.ok.inj h]
    exact ⟨rfl, rfl⟩
  · rw [← Except.ok.inj h]
    exact setAppName_counts p _ t
  · split at h
    · cases h
    · rename_i htype
      rw [← Except.ok.inj h]
      have hsame := setEventType_counts htype
      exact ⟨hsame.1.trans (setAppName_counts ..).1, hsame.2.trans (setAppName_counts ..).2⟩

theorem onCustomEvent_serialCount {p q : NMPolicyHistoryBased} {eventDescription : List Char}
    {t : Timeval} (h : p.onCustomEvent eventDescription t = .ok q) (v : SwitchBehavior) :
    q.serialCount v = p.serialCount v := by
  obtain ⟨hinc, hdec⟩ := onCustomEvent_counts h
  rw [NMPolicyHistoryBased.serialCount, NMPolicyHistoryBased.serialCount, hinc, hdec]

/-! ## The votes are filtered -/

/-- The counters hold the streaks, as long as an `int` can. -/
structure Counting (r : Record) : Prop where
  filtered : Filtered r.history
  count : ∀ v : SwitchBehavior, v.IsSwitch →
    r.policy.serialCount v = Int32.ofNat (streak v (votes r.history))
  bounded : ∀ v : SwitchBehavior, v.IsSwitch → streak v (votes r.history) ≤ 2 ^ 31

/-- The votes for the same switch are at most 2^31 in a row. -/
def Counted (r : Record) : Event → Prop
  | .decide stats isIncreasable isDecreasable t => ∀ v : SwitchBehavior, v.IsSwitch →
      r.policy.vote stats isIncreasable isDecreasable t = some v →
        streak v (votes r.history) < 2 ^ 31
  | .customEvent _ _ => True

theorem ofNat_lt_three_iff {n : ℕ} (h : n ≤ 2 ^ 31) :
    Int32.ofNat n < 3 ↔ n < 3 ∨ n = 2 ^ 31 := by
  have hbmod : (Int32.ofNat n).toInt = (n : ℤ).bmod (2 ^ 32) := Int32.toInt_ofNat'
  have hthree : (3 : Int32).toInt = 3 := rfl
  rw [Int32.lt_iff_toInt_lt, hbmod, hthree, Int.bmod_def]
  split <;> omega

theorem ofNat_succ (n : ℕ) : Int32.ofNat n + 1 = Int32.ofNat (n + 1) :=
  (Int32.ofNat_add n 1).symm

theorem take_three_iff {v : SwitchBehavior} {h : List Entry} :
    (votes h).take 3 = List.replicate 3 v ↔ 3 ≤ streak v (votes h) := take_eq_replicate_iff

/-- A call outside the quiet period answers as it should as long as the streak fits its counter. -/
theorem answers_iff {call : DecidedCall} {older : List Entry} {w v : SwitchBehavior}
    (hv : v.IsSwitch) (hvote : call.vote = some w) {count : Int32}
    (hcount : w.IsSwitch → count = Int32.ofNat (streak w (votes older)))
    (hbounded : w.IsSwitch → streak w (votes older) ≤ 2 ^ 31)
    (hbehavior : call.behavior = if w.IsSwitch ∧ count < 3 then .kNoBehavior else w) :
    Answers v call older ↔ (w = v → streak v (votes older) < 2 ^ 31) := by
  have hne : v ≠ .kNoBehavior := by
    rintro rfl
    rcases hv with h | h <;> cases h
  rw [Answers, hvote, Option.some.injEq, take_three_iff, hbehavior]
  by_cases hw : w = v
  · subst hw
    have hbound := hbounded hv
    have hlow : w.IsSwitch ∧ count < 3 ↔
        streak w (votes older) < 3 ∨ streak w (votes older) = 2 ^ 31 := by
      rw [hcount hv, ofNat_lt_three_iff hbound]
      exact and_iff_right hv
    by_cases hbelow : w.IsSwitch ∧ count < 3
    · rw [if_pos hbelow]
      rw [hlow] at hbelow
      simp only [hne.symm, true_and, false_iff, forall_const]
      omega
    · rw [if_neg hbelow]
      rw [hlow] at hbelow
      simp only [true_and, true_iff, forall_const]
      omega
  · have hother : (if w.IsSwitch ∧ count < 3 then SwitchBehavior.kNoBehavior else w) ≠ v := by
      split
      · exact hne.symm
      · exact hw
    simp [hw, hother]

/-- What a call does to the record of the votes: nothing in a quiet period, and otherwise the answers
are right exactly when the call is counted. -/
theorem filtered_cons_iff (hr : Counting r) {stats : Stats} {isIncreasable isDecreasable : Bool}
    {t : Readings} {behavior : SwitchBehavior} {policy : NMPolicyHistoryBased}
    (h : r.policy.decide stats isIncreasable isDecreasable t = .ok (behavior, policy)) :
    Filtered (.decided ⟨t, isIncreasable, isDecreasable,
      r.policy.vote stats isIncreasable isDecreasable t, behavior⟩ :: r.history) ↔
      Counted r (.decide stats isIncreasable isDecreasable t) := by
  simp only [Filtered, hr.filtered, true_and, Counted]
  rcases NMPolicyHistoryBased.decide_cases h with
    ⟨hvote, -, rfl, -⟩ | ⟨w, hvote, hinc, hdec, hbehavior, -, -⟩
  · simp [Answers, hvote]
  · have hanswers : ∀ v : SwitchBehavior, v.IsSwitch → (Answers v ⟨t, isIncreasable, isDecreasable,
        r.policy.vote stats isIncreasable isDecreasable t, behavior⟩ r.history ↔
          (w = v → streak v (votes r.history) < 2 ^ 31)) :=
      fun v hv => answers_iff hv hvote (hr.count w) (hr.bounded w) hbehavior
    -- An impossible switch is not voted for, and nothing but a vote is returned.
    have hreturned : ∀ v : SwitchBehavior, v.IsSwitch → behavior = v → w = v := by
      intro v hv hb
      rw [hbehavior] at hb
      split at hb
      · subst hb
        rcases hv with h | h <;> cases h
      · exact hb
    have hpossible : (behavior = .kIncreaseAdapter → isIncreasable = true) ∧
        (behavior = .kDecreaseAdapter → isDecreasable = true) :=
      ⟨fun hb => hinc (hreturned _ (.inl rfl) hb), fun hb => hdec (hreturned _ (.inr rfl) hb)⟩
    rw [hanswers _ (.inl rfl), hanswers _ (.inr rfl), hvote]
    constructor
    · rintro ⟨hi, hd, -⟩ v (rfl | rfl) hv
      · exact hi (Option.some.inj hv)
      · exact hd (Option.some.inj hv)
    · intro hcounted
      exact ⟨fun hv => hcounted _ (.inl rfl) (congrArg some hv),
        fun hv => hcounted _ (.inr rfl) (congrArg some hv), hpossible⟩

/-- What a counted call leaves of the counters. -/
theorem counting_decide (hr : Counting r) {stats : Stats} {isIncreasable isDecreasable : Bool}
    {t : Readings} {behavior : SwitchBehavior} {policy : NMPolicyHistoryBased}
    (h : r.policy.decide stats isIncreasable isDecreasable t = .ok (behavior, policy))
    (hcounted : Counted r (.decide stats isIncreasable isDecreasable t)) (now : ℤ) :
    Counting { policy := policy, now := now, history := .decided ⟨t, isIncreasable, isDecreasable,
      r.policy.vote stats isIncreasable isDecreasable t, behavior⟩ :: r.history } := by
  refine ⟨(filtered_cons_iff hr h).mpr hcounted, ?_, ?_⟩
  · intro v hv
    rcases NMPolicyHistoryBased.decide_cases h with
      ⟨hvote, -, -, rfl⟩ | ⟨w, hvote, -, -, -, hcounts, -⟩
    · simp only [votes, hvote]
      exact hr.count v hv
    · simp only [votes, hvote]
      rw [hcounts v hv]
      by_cases hw : v = w
      · subst hw
        rw [if_pos rfl, hr.count v hv, ofNat_succ, streak_cons_self]
      · rw [if_neg hw, streak_cons_of_ne (Ne.symm hw)]
        rfl
  · intro v hv
    simp only [votes]
    split
    · exact hr.bounded v hv
    · rename_i w hvote
      by_cases hw : w = v
      · subst hw
        rw [streak_cons_self]
        exact hcounted w hv hvote
      · rw [streak_cons_of_ne hw]
        exact Nat.zero_le _

theorem counting_start (policy : NMPolicyHistoryBased) (now : ℤ)
    (hinc : policy.mSerialIncCount = 0) (hdec : policy.mSerialDecCount = 0) :
    Counting (.start policy now) := by
  refine ⟨trivial, ?_, fun _ _ => Nat.zero_le _⟩
  rintro v (rfl | rfl)
  · exact hinc
  · exact hdec

theorem create_counts {table : TrafficHistoryTable} {policy : NMPolicyHistoryBased}
    (h : NMPolicyHistoryBased.create table = .ok policy) :
    policy.mSerialIncCount = 0 ∧ policy.mSerialDecCount = 0 := by
  unfold NMPolicyHistoryBased.create at h
  split at h
  · cases h
  · rw [← Except.ok.inj h]
    exact ⟨rfl, rfl⟩

/-- In every run, the votes are filtered as they should throughout exactly when no vote for a switch
comes after 2^31 of them in a row. -/
theorem filtered_iff_counted {table : TrafficHistoryTable} {policy : NMPolicyHistoryBased}
    (h : NMPolicyHistoryBased.create table = .ok policy) (now : ℤ) (events : List Event) :
    (∀ r, Reached step (.start policy now) events r → Filtered r.history) ↔
      AllSteps step Counted (.start policy now) events := by
  obtain ⟨hinc, hdec⟩ := create_counts h
  refine throughout_iff_allSteps (fun r hr => hr.filtered) ?_ ?_
    (counting_start policy now hinc hdec)
  · intro r e s hr hcounted hs
    rcases step_cases hs with
      ⟨stats, isIncreasable, isDecreasable, t, behavior, policy, rfl, hdecide, rfl⟩ |
      ⟨eventDescription, t, policy, rfl, hevent, rfl⟩
    · exact counting_decide hr hdecide hcounted _
    · refine ⟨hr.filtered, fun v hv => ?_, hr.bounded⟩
      rw [onCustomEvent_serialCount hevent]
      exact hr.count v hv
  · intro r e s hr hcounted hs
    rcases step_cases hs with
      ⟨stats, isIncreasable, isDecreasable, t, behavior, policy, rfl, hdecide, rfl⟩ |
      ⟨eventDescription, t, policy, rfl, hevent, rfl⟩
    · exact fun hfiltered => hcounted ((filtered_cons_iff hr hdecide).mp hfiltered)
    · exact absurd trivial hcounted

/-- One call of a policy that has just been created. -/
theorem filtered_iff_counted_one : ∃ policy, NMPolicyHistoryBased.create [] = .ok policy ∧
    ∀ r, Reached step (.start policy 0) [.decide ⟨200000, 0⟩ true false
      ⟨⟨100, 1⟩, ⟨100, 2⟩, ⟨100, 3⟩, ⟨100, 4⟩⟩] r → Filtered r.history := by
  have hcreate : NMPolicyHistoryBased.create [] = .ok _ := rfl
  refine ⟨_, hcreate, (filtered_iff_counted hcreate 0 _).mpr fun s _ => ⟨fun v _ _ => ?_, trivial⟩⟩
  exact Nat.two_pow_pos 31

/-! ## Votes without end -/

/-- A minute of silence is too long for Bluetooth, by the length of the prediction. -/
def silentApp : AppEntry where
  mAppName := ['B', 'G']
  mEventTypeMap := [{
    mEventType := 0
    mTrafficList := [{ mTimeSec := 0, mTrafficSequence := List.replicate 61 0 }] }]

/-- The clock stands still at a full second. -/
def fullSecond : Readings := ⟨⟨100, 0⟩, ⟨100, 0⟩, ⟨100, 0⟩, ⟨100, 0⟩⟩

/-- The traffic has grown ten times, and stays the same. -/
structure Ready (p : NMPolicyHistoryBased) : Prop where
  fgAppName : p.mPresentFGAppName = []
  bgAppEntry : p.mBGAppEntry = some silentApp
  bgEventType : p.mPresentBGEventType = 0
  bgAppStart : p.mPresentBGAppStartTS = ⟨0, 0⟩
  lastBandwidth : p.mLastMediaBandwidth = 60010
  incCount : p.mRequestSpeedIncCount = 10
  decCount : p.mRequestSpeedDecCount = 0
  stamp : p.mRecentSwitchTS.tvUsec = 0

theorem countRequestSpeed_ready {p : NMPolicyHistoryBased} (h : Ready p) :
    p.countRequestSpeed ⟨60010, 0⟩ = { p with mLastMediaBandwidth := 60010 } := by
  have hzero : (0 : Int32).toInt = 0 := rfl
  have hhigh : ¬ (60010 : ℚ) > highThreshold := by decide +kernel
  have hlow : ¬ (60010 : ℚ) < lowThreshold := by decide +kernel
  simp only [NMPolicyHistoryBased.countRequestSpeed, h.lastBandwidth, hzero, Int.cast_zero, add_zero,
    hhigh, hlow, gt_iff_lt, lt_irrefl, if_false]

theorem predictTraffic_ready {p : NMPolicyHistoryBased} (h : Ready p) :
    p.predictTraffic fullSecond = .ok (some (none, some ⟨0, List.replicate 61 0⟩)) := by
  have hfg : p.findFGAppEntry = some none := by
    rw [NMPolicyHistoryBased.findFGAppEntry, h.fgAppName, if_pos rfl]
  have hbg : p.getPredictedTraffic silentApp true fullSecond.background =
      .ok (some ⟨0, List.replicate 61 0⟩) := by
    simp only [NMPolicyHistoryBased.getPredictedTraffic, h.bgEventType, h.bgAppStart, if_true]
    decide +kernel
  simp [NMPolicyHistoryBased.predictTraffic, NMPolicyHistoryBased.predictAppTraffic, hfg,
    h.bgAppEntry, hbg, Except.map]

theorem decideInternal_ready {p : NMPolicyHistoryBased} (h : Ready p) :
    p.decideInternal ⟨60010, 0⟩ true false fullSecond = .ok (.kIncreaseAdapter,
      { p with
        mLastMediaBandwidth := 60010
        mEnergyRetain := EnergyPredictor.floatMax
        mEnergySwitch := EnergyPredictor.floatMax }) := by
  have hready : Ready { p with mLastMediaBandwidth := 60010 } :=
    ⟨h.fgAppName, h.bgAppEntry, h.bgEventType, h.bgAppStart, rfl, h.incCount, h.decCount, h.stamp⟩
  have hfiltered : { p with mLastMediaBandwidth := 60010 }.isFiltered true false = false := by
    simp only [NMPolicyHistoryBased.isFiltered, h.incCount, h.decCount]
    decide
  have hmerge : NMPolicyHistoryBased.mergeTraffic none (some (List.replicate 61 0)) =
      .ok (List.replicate 61 0) := by
    decide +kernel
  have hbt : EnergyPredictor.predictEnergy 0 (List.replicate 61 0) EnergyPredictor.scenarioBt =
      EnergyPredictor.floatMax := by
    decide +kernel
  have hbtToWfd : EnergyPredictor.predictEnergy 0 (List.replicate 61 0)
      EnergyPredictor.scenarioBtToWfd = EnergyPredictor.floatMax := by
    decide +kernel
  have hmax : ¬ EnergyPredictor.floatMax < 0 := by decide +kernel
  rw [NMPolicyHistoryBased.decideInternal, countRequestSpeed_ready h]
  simp only [hfiltered, predictTraffic_ready hready, Option.map_none, Option.map_some, hmerge,
    NMPolicyHistoryBased.decideByEnergy, hbt, hbtToWfd, hmax, Bool.false_eq_true, if_false, if_true,
    or_self, or_true]

theorem Ready.filterVote {p : NMPolicyHistoryBased} (h : Ready p) (v : SwitchBehavior) :
    Ready (p.filterVote v).2 := by
  obtain ⟨h₁, h₂, h₃, h₄, h₅, h₆, h₇, h₈⟩ := h
  unfold NMPolicyHistoryBased.filterVote
  split
  · exact ⟨h₁, h₂, h₃, h₄, h₅, h₆, h₇, h₈⟩
  · split <;> exact ⟨h₁, h₂, h₃, h₄, h₅, h₆, h₇, h₈⟩

theorem Ready.updateRecentSwitchTS {p : NMPolicyHistoryBased} (h : Ready p) :
    Ready (p.updateRecentSwitchTS fullSecond.stamp) :=
  ⟨h.fgAppName, h.bgAppEntry, h.bgEventType, h.bgAppStart, h.lastBandwidth, h.incCount, h.decCount,
    rfl⟩

/-- A policy that is ready votes for the increase, and stays ready. -/
theorem decide_ready {p : NMPolicyHistoryBased} (h : Ready p) : ∃ b q,
    p.decide ⟨60010, 0⟩ true false fullSecond = .ok (b, q) ∧
      p.vote ⟨60010, 0⟩ true false fullSecond = some .kIncreaseAdapter ∧ Ready q := by
  have hquiet : ¬ p.InQuietPeriod fullSecond.check := fun hq => hq.2.1 h.stamp
  have hinternal := decideInternal_ready h
  refine ⟨_, _, NMPolicyHistoryBased.decide_eq hquiet hinternal,
    NMPolicyHistoryBased.vote_of_decideInternal hquiet hinternal, ?_⟩
  have hready := Ready.filterVote (⟨h.fgAppName, h.bgAppEntry, h.bgEventType, h.bgAppStart, rfl,
    h.incCount, h.decCount, h.stamp⟩ : Ready { p with
      mLastMediaBandwidth := 60010
      mEnergyRetain := EnergyPredictor.floatMax
      mEnergySwitch := EnergyPredictor.floatMax }) .kIncreaseAdapter
  split
  · exact hready.updateRecentSwitchTS
  · exact hready

/-- The call that is made over and over. -/
def readyCall : Event := .decide ⟨60010, 0⟩ true false fullSecond

theorem step_ready {r : Record} (h : Ready r.policy) : ∃ s, step r readyCall = .ok s ∧
    Ready s.policy ∧ s.policy.mSerialIncCount = r.policy.mSerialIncCount + 1 ∧
    s.history = .decided ⟨fullSecond, true, false, some .kIncreaseAdapter,
      if r.policy.mSerialIncCount < 3 then .kNoBehavior else .kIncreaseAdapter⟩ :: r.history := by
  obtain ⟨b, q, hdecide, hvote, hready⟩ := decide_ready h
  refine ⟨_, by simp only [step, readyCall, hdecide]; rfl, hready, ?_⟩
  rcases NMPolicyHistoryBased.decide_cases hdecide with ⟨hnone, -⟩ | ⟨v, hv, -, -, hb, hcounts, -⟩
  · rw [hvote] at hnone
    cases hnone
  · obtain rfl : .kIncreaseAdapter = v := Option.some.inj (hvote.symm.trans hv)
    refine ⟨hcounts .kIncreaseAdapter (.inl rfl), ?_⟩
    have hswitch : SwitchBehavior.kIncreaseAdapter.IsSwitch := .inl rfl
    simp only [hswitch, true_and] at hb
    rw [hvote, hb]
    rfl

/-- Any number of votes for the increase in a row. -/
theorem run_ready {r : Record} (h : Ready r.policy) (hcount : r.policy.mSerialIncCount = 0) (n : ℕ) :
    ∃ s, run step r (List.replicate n readyCall) = .ok s ∧ Ready s.policy ∧
      s.policy.mSerialIncCount = Int32.ofNat n ∧
      votes s.history = List.replicate n .kIncreaseAdapter ++ votes r.history := by
  induction n with
  | zero => exact ⟨r, rfl, h, hcount, rfl⟩
  | succ n ih =>
    obtain ⟨s, hrun, hready, hn, hvotes⟩ := ih
    obtain ⟨t, hstep, hready', hn', hhistory⟩ := step_ready hready
    refine ⟨t, ?_, hready', by rw [hn', hn, ofNat_succ], ?_⟩
    · rw [List.replicate_succ']
      exact run_snoc.mpr ⟨s, hrun, hstep⟩
    · rw [hhistory, List.replicate_succ, List.cons_append, ← hvotes]
      rfl

/-- Ten calls with a growing traffic, and no adapter to switch to. -/
def growingCalls : List Event := (List.range 10).map fun n =>
  .decide ⟨60001 + n, 0⟩ false false fullSecond

instance (p : NMPolicyHistoryBased) : Decidable (Ready p) :=
  decidable_of_iff (p.mPresentFGAppName = [] ∧ p.mBGAppEntry = some silentApp ∧
      p.mPresentBGEventType = 0 ∧ p.mPresentBGAppStartTS = ⟨0, 0⟩ ∧ p.mLastMediaBandwidth = 60010 ∧
      p.mRequestSpeedIncCount = 10 ∧ p.mRequestSpeedDecCount = 0 ∧ p.mRecentSwitchTS.tvUsec = 0)
    ⟨fun ⟨h₁, h₂, h₃, h₄, h₅, h₆, h₇, h₈⟩ => ⟨h₁, h₂, h₃, h₄, h₅, h₆, h₇, h₈⟩,
      fun ⟨h₁, h₂, h₃, h₄, h₅, h₆, h₇, h₈⟩ => ⟨h₁, h₂, h₃, h₄, h₅, h₆, h₇, h₈⟩⟩

/-- They make a new policy ready. -/
theorem run_growing : ∃ policy r, NMPolicyHistoryBased.create [silentApp] = .ok policy ∧
    run step (.start policy 0) growingCalls = .ok r ∧ Ready r.policy ∧
    r.policy.mSerialIncCount = 0 := by
  have hview : ((NMPolicyHistoryBased.create [silentApp]).toOption.bind fun policy =>
      (run step (.start policy 0) growingCalls).toOption.map fun r =>
        Decidable.decide (Ready r.policy ∧ r.policy.mSerialIncCount = 0)) = some true := by
    decide +kernel
  cases hcreate : NMPolicyHistoryBased.create [silentApp] with
  | error f => rw [hcreate] at hview; cases hview
  | ok policy =>
    rw [hcreate] at hview
    obtain ⟨r, hrun, hr⟩ := exists_run_of_view _ hview
    obtain ⟨hready, hcount⟩ := of_decide_eq_true hr
    exact ⟨policy, r, rfl, hrun, hready, hcount⟩

/-- After 2^31 votes in a row, the next one is not answered. -/
theorem exists_not_filtered : ∃ table policy events r,
    NMPolicyHistoryBased.create table = .ok policy ∧
      Reached step (.start policy 0) events r ∧ ¬ Filtered r.history := by
  obtain ⟨policy, r, hcreate, hrun, hready, hcount⟩ := run_growing
  obtain ⟨s, hrun', hready', hn, hvotes⟩ := run_ready hready hcount (2 ^ 31)
  obtain ⟨t, hstep, -, -, hhistory⟩ := step_ready hready'
  have hreached := run_snoc.mpr ⟨s, run_append.mpr ⟨r, hrun, hrun'⟩, hstep⟩
  refine ⟨_, policy, _, t, hcreate, .of_run hreached, fun hfiltered => ?_⟩
  rw [hhistory] at hfiltered
  have hlow : Int32.ofNat (2 ^ 31) < 3 := (ofNat_lt_three_iff (le_refl _)).mpr (.inr rfl)
  have hanswer := hfiltered.2.1
  rw [Answers, take_three_iff, hvotes, streak_replicate_append, hn, if_pos hlow] at hanswer
  have := hanswer.mpr ⟨rfl, by omega⟩
  cases this

end SwitchDecisions

end Linux
end VirtualConnection
