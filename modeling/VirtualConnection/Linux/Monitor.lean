import VirtualConnection.Linux.NMPolicyHistoryBased
import VirtualConnection.Linux.Transactions

/-!
# Linux.Monitor

`NetworkMonitorThread.cpp` with the policies `NMPolicyManual`, `NMPolicyAppManual`, `NMPolicyBtOnly` and
`NMPolicyWfdOnly`, which look at no statistics. Each of them steers to one end of the adapter list, or
nowhere; a custom event may change the goal.

A run has passes of the monitor thread, custom events, core stops, disconnections by the peer and on
failure, and whatever the other threads do to the adapters. It ends with an operation that does not
return. `readyPasses` counts the passes that found the switcher ready; no code reads it.

`goal_reached`: while the goal stays the same, the active adapter only comes closer to it, by one with
each switch that succeeds, and is there after as many passes as there were adapters in between, plus
one for each switch that failed.
-/

namespace VirtualConnection
namespace Linux

/-! ## Policies -/

/-- Where a policy wants the active adapter to be. -/
inductive Goal where
  | lowest
  | highest
  | anywhere
  deriving DecidableEq, Repr

def Goal.behavior (g : Goal) (isIncreasable isDecreasable : Bool) : SwitchBehavior :=
  match g with
  | .lowest => if isDecreasable then .kDecreaseAdapter else .kNoBehavior
  | .highest => if isIncreasable then .kIncreaseAdapter else .kNoBehavior
  | .anywhere => .kNoBehavior

/-- An `NMPolicy` that steers. -/
structure SteeringPolicy (σ : Type) where
  onCustomEvent : σ → List Char → σ
  decide : σ → Bool → Bool → SwitchBehavior
  goal : σ → Goal
  steers : ∀ s isIncreasable isDecreasable,
    decide s isIncreasable isDecreasable = (goal s).behavior isIncreasable isDecreasable

/-- `decide` of `NMPolicyManual` and of `NMPolicyAppManual`. -/
def decideByMode (mWFDMode isIncreasable isDecreasable : Bool) : SwitchBehavior :=
  if mWFDMode && isIncreasable then .kIncreaseAdapter
  else if !mWFDMode && isDecreasable then .kDecreaseAdapter
  else .kNoBehavior

def goalOfMode (mWFDMode : Bool) : Goal := if mWFDMode then .highest else .lowest

theorem decideByMode_eq (mWFDMode isIncreasable isDecreasable : Bool) :
    decideByMode mWFDMode isIncreasable isDecreasable =
      (goalOfMode mWFDMode).behavior isIncreasable isDecreasable := by
  cases mWFDMode <;> cases isIncreasable <;> cases isDecreasable <;> rfl

structure NMPolicyManual where
  mWFDMode : Bool
  deriving DecidableEq, Repr

namespace NMPolicyManual

def create : NMPolicyManual := ⟨false⟩

def onCustomEvent (p : NMPolicyManual) (eventDescription : List Char) : NMPolicyManual :=
  if eventDescription = "wfd".toList then { p with mWFDMode := true }
  else if eventDescription = "bt".toList then { p with mWFDMode := false }
  else p

def steering : SteeringPolicy NMPolicyManual where
  onCustomEvent := onCustomEvent
  decide p := decideByMode p.mWFDMode
  goal p := goalOfMode p.mWFDMode
  steers p := decideByMode_eq p.mWFDMode

end NMPolicyManual

structure NMPolicyAppManual where
  mWFDMode : Bool
  mPresentAppName : List Char
  deriving DecidableEq, Repr

namespace NMPolicyAppManual

def create : NMPolicyAppManual := ⟨false, []⟩

def onCustomEvent (p : NMPolicyAppManual) (eventDescription : List Char) : NMPolicyAppManual :=
  let p := { p with mPresentAppName := eventDescription }
  if eventDescription = "1-newsbriefing".toList ∨ eventDescription = "3-navermap".toList then
    { p with mWFDMode := true }
  else if eventDescription = "2-remotecamera".toList ∨ eventDescription = "4-webbrowsing".toList then
    { p with mWFDMode := false }
  else p

def steering : SteeringPolicy NMPolicyAppManual where
  onCustomEvent := onCustomEvent
  decide p := decideByMode p.mWFDMode
  goal p := goalOfMode p.mWFDMode
  steers p := decideByMode_eq p.mWFDMode

end NMPolicyAppManual

namespace NMPolicyBtOnly

def decide (isDecreasable : Bool) : SwitchBehavior :=
  if isDecreasable then .kDecreaseAdapter else .kNoBehavior

/-- The policy has no state, and ignores custom events. -/
def steering : SteeringPolicy Unit where
  onCustomEvent p _ := p
  decide _ _ isDecreasable := decide isDecreasable
  goal _ := .lowest
  steers _ _ _ := rfl

end NMPolicyBtOnly

structure NMPolicyWfdOnly where
  mIsAppStarted : Bool
  deriving DecidableEq, Repr

namespace NMPolicyWfdOnly

def create : NMPolicyWfdOnly := ⟨false⟩

def onCustomEvent (p : NMPolicyWfdOnly) (eventDescription : List Char) : NMPolicyWfdOnly :=
  if eventDescription ≠ [] then ⟨true⟩ else p

def decide (p : NMPolicyWfdOnly) (isIncreasable : Bool) : SwitchBehavior :=
  if p.mIsAppStarted && isIncreasable then .kIncreaseAdapter else .kNoBehavior

def steering : SteeringPolicy NMPolicyWfdOnly where
  onCustomEvent := onCustomEvent
  decide p isIncreasable _ := p.decide isIncreasable
  goal p := if p.mIsAppStarted then .highest else .anywhere
  steers := by
    rintro ⟨mIsAppStarted⟩ isIncreasable isDecreasable
    cases mIsAppStarted <;> cases isIncreasable <;> rfl

end NMPolicyWfdOnly

/-! ## The monitor thread -/

namespace NetworkMonitorThread

/-- The end of `check_and_decide_switching`. The preparations do nothing, and cancelling one only sets
the thresholds of a socket. -/
def checkAndDecideSwitching (o : ℕ → Outcomes) (behavior : SwitchBehavior) : Action := fun p =>
  match behavior with
  | .kIncreaseAdapter => increaseAdapter o p
  | .kDecreaseAdapter => decreaseAdapter o p
  | .kPrepareIncreaseAdapter | .kPrepareDecreaseAdapter | .kCancelPrepareSwitchAdapter
  | .kNoBehavior => .ok p

end NetworkMonitorThread

structure Monitored (σ : Type) where
  policy : σ
  process : Process
  readyPasses : ℕ

namespace Monitored

inductive Label where
  | pass (o : ℕ → Outcomes)
  | customEvent (eventDescription : List Char)
  | stop (o : ℕ → Outcomes)
  | disconnectByPeer (o : ℕ → Outcomes) (adapterId : Int)
  | disconnectOnFailure (o : ℕ → Outcomes) (i : ℕ)
  /-- What the other threads make of the adapters. -/
  | others (adapters : ℕ → ServerAdapter)

variable {σ : Type} (policy : SteeringPolicy σ)

def operate (s : Monitored σ) (op : Operation) : Except (Halt × Process) (Monitored σ) :=
  (op.action s.process).map fun p => { s with process := p }

/-- A pass of `monitor_thread`. -/
def pass (s : Monitored σ) (o : ℕ → Outcomes) : Except (Halt × Process) (Monitored σ) :=
  if s.process.nsState = .kNSStateReady then
    (NetworkMonitorThread.checkAndDecideSwitching o
      (policy.decide s.policy (NetworkMonitorThread.isIncreaseable s.process)
        (NetworkMonitorThread.isDecreaseable s.process)) s.process).map fun p =>
      { s with process := p, readyPasses := s.readyPasses + 1 }
  else .ok s

def step (s : Monitored σ) : Label → Except (Halt × Process) (Monitored σ)
  | .pass o => s.pass policy o
  | .customEvent eventDescription =>
    .ok { s with policy := policy.onCustomEvent s.policy eventDescription }
  | .stop o => s.operate (.stop o)
  | .disconnectByPeer o adapterId => s.operate (.disconnectByPeer o adapterId)
  | .disconnectOnFailure o i => s.operate (.disconnectOnFailure o i)
  | .others adapters => s.operate (.others adapters)

/-- The custom event does not change the goal. -/
def KeepsGoal (s : Monitored σ) : Label → Prop
  | .customEvent eventDescription =>
    policy.goal (policy.onCustomEvent s.policy eventDescription) = policy.goal s.policy
  | _ => True

instance (s : Monitored σ) : ∀ l, Decidable (KeepsGoal policy s l)
  | .customEvent eventDescription => inferInstanceAs (Decidable
      (policy.goal (policy.onCustomEvent s.policy eventDescription) = policy.goal s.policy))
  | .pass _ | .stop _ | .disconnectByPeer .. | .disconnectOnFailure .. | .others _ => .isTrue trivial

end Monitored

/-! ## What a pass does -/

/-- The adapters between one of them and the goal. -/
def Goal.distance (g : Goal) (index : Int) (adaptersCount : ℕ) : ℕ :=
  match g with
  | .lowest => index.toNat
  | .highest => (adaptersCount - 1 - index).toNat
  | .anywhere => 0

/-- The adapters between the active one and the goal. -/
def Process.distance (p : Process) (g : Goal) : ℕ := g.distance p.mActiveAdapterIndex p.adaptersCount

/-- No switch is going on, and the active adapter is one of the list. -/
structure Process.AtRest (p : Process) : Prop where
  idle : p.switchOngoing = none
  nonneg : 0 ≤ p.mActiveAdapterIndex
  lt : p.mActiveAdapterIndex < p.adaptersCount

theorem Process.AtRest.of_kept {p q : Process} (h : p.AtRest) (hkept : p.Kept q) : q.AtRest := by
  obtain ⟨h1, -, -, h4, h5⟩ := hkept
  exact ⟨h1.trans h.idle, h4 ▸ h.nonneg, by rw [h4, h5]; exact h.lt⟩

/-- What a switch that returns has done. -/
structure Process.SwitchedBy (p q : Process) (e : SwitchEnd) (next : Int) : Prop where
  idle : q.switchOngoing = none
  ends : q.ends = p.ends ++ [e]
  adaptersCount : q.adaptersCount = p.adaptersCount
  index : q.mActiveAdapterIndex = if e.isSuccess then next else p.mActiveAdapterIndex

/-- A switch to an adapter that is closer to the goal. -/
theorem Process.SwitchedBy.closer {p q : Process} {e : SwitchEnd} {next : Int} {g : Goal}
    (h : p.SwitchedBy q e next) (hrest : p.AtRest) (h0 : 0 ≤ next) (hlt : next < p.adaptersCount)
    (hd : g.distance next p.adaptersCount + 1 = p.distance g) :
    q.AtRest ∧ q.ends = p.ends ++ [e] ∧ q.adaptersCount = p.adaptersCount ∧
      q.distance g + (if e.isSuccess then 1 else 0) = p.distance g := by
  obtain ⟨hidle, hends, hcount, hindex⟩ := h
  cases he : e.isSuccess with
  | true =>
    rw [he, if_pos rfl] at hindex
    refine ⟨⟨hidle, hindex ▸ h0, hindex ▸ hcount ▸ hlt⟩, hends, hcount, ?_⟩
    rw [if_pos rfl, Process.distance, hindex, hcount, hd]
  | false =>
    rw [he, if_neg Bool.false_ne_true] at hindex
    refine ⟨⟨hidle, hindex ▸ hrest.nonneg, hindex ▸ hcount ▸ hrest.lt⟩, hends, hcount, ?_⟩
    rw [if_neg Bool.false_ne_true, Process.distance, hindex, hcount]
    rfl

namespace NetworkMonitorThread

variable {o : ℕ → Outcomes} {p q : Process}

/-- A switch to another adapter of the list, if it returns. -/
theorem switchAdapters_ok {next : Int} (hrest : p.AtRest) (h0 : 0 ≤ next)
    (hlt : next < p.adaptersCount) (hne : p.mActiveAdapterIndex ≠ next)
    (h : NetworkSwitcher.switchAdapters o p.mActiveAdapterIndex next p = .ok q) :
    ∃ e, p.SwitchedBy q e next := by
  obtain ⟨i, hindex⟩ := Int.eq_ofNat_of_zero_le hrest.nonneg
  obtain ⟨j, rfl⟩ := Int.eq_ofNat_of_zero_le h0
  have hi : i < p.adaptersCount := Int.ofNat_lt.mp (hindex ▸ hrest.lt)
  have hij : i ≠ j := fun he => hne (he ▸ hindex)
  rw [hindex] at h
  rcases System.switch_cases (o := o) hrest.idle hi (Int.ofNat_lt.mp hlt) hij with
    ⟨-, isSuccess, f, requests, he⟩ | ⟨-, ⟨f, requests, he⟩ | ⟨r, he⟩⟩
  · rw [h] at he
    obtain rfl := Except.ok.inj he
    rw [SwitchAdapterTransaction.finish_eq]
    exact ⟨_, rfl, rfl, rfl, rfl⟩
  · cases h.symm.trans he
  · cases h.symm.trans he

theorem decrease_closer (hrest : p.AtRest) (hable : isDecreaseable p = true)
    (h : decreaseAdapter o p = .ok q) : ∃ e : SwitchEnd, q.AtRest ∧ q.ends = p.ends ++ [e] ∧
      q.adaptersCount = p.adaptersCount ∧
      q.distance .lowest + (if e.isSuccess then 1 else 0) = p.distance .lowest := by
  obtain ⟨hcount, hindex⟩ : 1 < p.adaptersCount ∧ 0 < p.mActiveAdapterIndex := by
    simpa [isDecreaseable] using hable
  have hlt := hrest.lt
  rw [decreaseAdapter, if_neg (by omega), if_neg (by simp [hable])] at h
  obtain ⟨e, hs⟩ := switchAdapters_ok hrest (by omega) (by omega) (by omega) h
  refine ⟨e, hs.closer hrest (by omega) (by omega) ?_⟩
  show (p.mActiveAdapterIndex - 1).toNat + 1 = p.mActiveAdapterIndex.toNat
  omega

theorem increase_closer (hrest : p.AtRest) (hable : isIncreaseable p = true)
    (h : increaseAdapter o p = .ok q) : ∃ e : SwitchEnd, q.AtRest ∧ q.ends = p.ends ++ [e] ∧
      q.adaptersCount = p.adaptersCount ∧
      q.distance .highest + (if e.isSuccess then 1 else 0) = p.distance .highest := by
  obtain ⟨hcount, hindex⟩ :
      1 < p.adaptersCount ∧ p.mActiveAdapterIndex < p.adaptersCount - 1 := by
    simpa [isIncreaseable] using hable
  have h0 := hrest.nonneg
  rw [increaseAdapter, if_neg (by omega), if_neg (by simp [hable])] at h
  obtain ⟨e, hs⟩ := switchAdapters_ok hrest (by omega) (by omega) (by omega) h
  refine ⟨e, hs.closer hrest (by omega) (by omega) ?_⟩
  show (p.adaptersCount - 1 - (p.mActiveAdapterIndex + 1)).toNat + 1 =
    (p.adaptersCount - 1 - p.mActiveAdapterIndex).toNat
  omega

/-- The active adapter is there, or it moves one adapter towards the goal if the switch succeeds. -/
theorem pass_cases {g : Goal} (hrest : p.AtRest)
    (h : checkAndDecideSwitching o (g.behavior (isIncreaseable p) (isDecreaseable p)) p = .ok q) :
    (p.distance g = 0 ∧ q = p) ∨ ∃ e : SwitchEnd, q.AtRest ∧ q.ends = p.ends ++ [e] ∧
      q.adaptersCount = p.adaptersCount ∧
      q.distance g + (if e.isSuccess then 1 else 0) = p.distance g := by
  cases g with
  | anywhere =>
    cases h
    exact .inl ⟨rfl, rfl⟩
  | lowest =>
    cases hable : isDecreaseable p with
    | true =>
      rw [hable] at h
      exact .inr (decrease_closer hrest hable h)
    | false =>
      rw [hable] at h
      have hindex : 1 < p.adaptersCount → p.mActiveAdapterIndex ≤ 0 := by
        simpa [isDecreaseable] using hable
      have hlt := hrest.lt
      refine .inl ⟨?_, (Except.ok.inj h).symm⟩
      show p.mActiveAdapterIndex.toNat = 0
      omega
  | highest =>
    cases hable : isIncreaseable p with
    | true =>
      rw [hable] at h
      exact .inr (increase_closer hrest hable h)
    | false =>
      rw [hable] at h
      have hindex : 1 < p.adaptersCount → (p.adaptersCount : ℤ) - 1 ≤ p.mActiveAdapterIndex := by
        simpa [isIncreaseable] using hable
      have h0 := hrest.nonneg
      refine .inl ⟨?_, (Except.ok.inj h).symm⟩
      show (p.adaptersCount - 1 - p.mActiveAdapterIndex).toNat = 0
      omega

end NetworkMonitorThread

/-! ## Operations of other threads -/

namespace Monitored

variable {σ : Type} {policy : SteeringPolicy σ} {s s' t : Monitored σ}

/-- An operation that returns was harmless. -/
theorem kept_of_ok {p q : Process} {safe : Prop} {r : Except (Halt × Process) Process}
    (h : (safe → Harmless p r) ∧ (¬ safe → ∃ t, r = .error (.nullSwitch, t))) (hr : r = .ok q) :
    p.Kept q := by
  by_cases hsafe : safe
  · have hharmless := h.1 hsafe
    rwa [hr] at hharmless
  · obtain ⟨t, ht⟩ := h.2 hsafe
    cases hr.symm.trans ht

theorem operate_kept {op : Operation} {safe : Prop}
    (h : (safe → Harmless s.process (op.action s.process)) ∧
      (¬ safe → ∃ t, op.action s.process = .error (.nullSwitch, t)))
    (hs : s.operate op = .ok s') :
    s.process.Kept s'.process ∧ s'.policy = s.policy ∧ s'.readyPasses = s.readyPasses := by
  unfold operate at hs
  cases hr : op.action s.process with
  | error e => rw [hr] at hs; cases hs
  | ok q =>
    rw [hr] at hs
    cases hs
    exact ⟨kept_of_ok h hr, rfl, rfl⟩

/-- What a step can do: nothing to the active adapter, or a pass on a ready switcher. -/
theorem step_cases {l : Label} (hrest : s.process.AtRest) (hkeeps : KeepsGoal policy s l)
    (hs : step policy s l = .ok s') :
    policy.goal s'.policy = policy.goal s.policy ∧
      ((s.process.Kept s'.process ∧ s'.readyPasses = s.readyPasses) ∨
        ∃ o, NetworkMonitorThread.checkAndDecideSwitching o
            ((policy.goal s.policy).behavior (NetworkMonitorThread.isIncreaseable s.process)
              (NetworkMonitorThread.isDecreaseable s.process)) s.process = .ok s'.process ∧
          s'.readyPasses = s.readyPasses + 1) := by
  have hother : ∀ (op : Operation) {safe : Prop},
      (safe → Harmless s.process (op.action s.process)) ∧
        (¬ safe → ∃ t, op.action s.process = .error (.nullSwitch, t)) →
      s.operate op = .ok s' → policy.goal s'.policy = policy.goal s.policy ∧
        s.process.Kept s'.process ∧ s'.readyPasses = s.readyPasses := by
    intro op safe h hop
    obtain ⟨hkept, hpolicy, hpasses⟩ := operate_kept h hop
    exact ⟨by rw [hpolicy], hkept, hpasses⟩
  cases l with
  | pass o =>
    simp only [step, pass] at hs
    split at hs
    · rw [policy.steers] at hs
      cases hr : NetworkMonitorThread.checkAndDecideSwitching o
          ((policy.goal s.policy).behavior (NetworkMonitorThread.isIncreaseable s.process)
            (NetworkMonitorThread.isDecreaseable s.process)) s.process with
      | error e => rw [hr] at hs; cases hs
      | ok q =>
        rw [hr] at hs
        cases hs
        exact ⟨rfl, .inr ⟨o, hr, rfl⟩⟩
    · cases hs
      exact ⟨rfl, .inl ⟨.rfl, rfl⟩⟩
  | customEvent eventDescription =>
    cases hs
    exact ⟨hkeeps, .inl ⟨.rfl, rfl⟩⟩
  | stop o => exact (hother (.stop o) (System.stop_noSwitch hrest.idle) hs).imp id .inl
  | disconnectByPeer o adapterId =>
    exact (hother (.disconnectByPeer o adapterId)
      (System.disconnectByPeer_noSwitch hrest.idle) hs).imp id .inl
  | disconnectOnFailure o i =>
    obtain ⟨hok, hbad⟩ := System.disconnectOnFailure_noSwitch (o := o) (i := i) hrest.idle
    exact (hother (.disconnectOnFailure o i) ⟨hok, fun h => hbad (not_not.mp h)⟩ hs).imp id .inl
  | others adapters =>
    have hkept : (True → Harmless s.process (Operation.action (.others adapters) s.process)) ∧
        (¬ True → ∃ t, Operation.action (.others adapters) s.process = .error (.nullSwitch, t)) :=
      ⟨fun _ => Process.Kept.rfl, fun h => absurd trivial h⟩
    exact (hother (.others adapters) hkept hs).imp id .inl

/-! ## Runs -/

def successes (ends : List SwitchEnd) : ℕ := ends.countP fun e => e.isSuccess

/-- Since `s`, with the same goal: each switch that succeeded has brought the active adapter one closer,
and as long as it is not there each pass on a ready switcher has been a switch. -/
structure Steered (policy : SteeringPolicy σ) (s t : Monitored σ) (ends : List SwitchEnd) : Prop where
  atRest : t.process.AtRest
  goal : policy.goal t.policy = policy.goal s.policy
  adaptersCount : t.process.adaptersCount = s.process.adaptersCount
  appended : t.process.ends = s.process.ends ++ ends
  distance : t.process.distance (policy.goal s.policy) + successes ends =
    s.process.distance (policy.goal s.policy)
  passes : t.process.distance (policy.goal s.policy) ≠ 0 →
    t.readyPasses = s.readyPasses + ends.length

theorem steered_refl (hrest : s.process.AtRest) : Steered policy s s [] :=
  ⟨hrest, rfl, rfl, (List.append_nil _).symm, rfl, fun _ => rfl⟩

theorem Steered.step {t' : Monitored σ} {ends : List SwitchEnd} {l : Label}
    (h : Steered policy s t ends) (hkeeps : KeepsGoal policy t l)
    (hs : Monitored.step policy t l = .ok t') : ∃ ends', Steered policy s t' ends' := by
  obtain ⟨hgoal, hcases⟩ := step_cases h.atRest hkeeps hs
  rcases hcases with ⟨hkept, hpasses⟩ | ⟨o, hpass, hpasses⟩
  · have hsame : t'.process.distance (policy.goal s.policy) =
        t.process.distance (policy.goal s.policy) := by
      unfold Process.distance
      rw [hkept.2.2.2.1, hkept.2.2.2.2]
    exact ⟨ends, h.atRest.of_kept hkept, hgoal.trans h.goal, hkept.2.2.2.2.trans h.adaptersCount,
      hkept.2.1.trans h.appended, hsame ▸ h.distance, fun hne => hpasses.trans (h.passes (hsame ▸ hne))⟩
  · rw [h.goal] at hpass
    rcases NetworkMonitorThread.pass_cases h.atRest hpass with
      ⟨hthere, hsame⟩ | ⟨e, hrest, hends, hcount, hcloser⟩
    · exact ⟨ends, hsame ▸ h.atRest, hgoal.trans h.goal, hsame ▸ h.adaptersCount, hsame ▸ h.appended,
        hsame ▸ h.distance, fun hne => absurd (hsame ▸ hthere) hne⟩
    · refine ⟨ends ++ [e], hrest, hgoal.trans h.goal, hcount.trans h.adaptersCount, ?_, ?_,
        fun hne => ?_⟩
      · rw [hends, h.appended, List.append_assoc]
      · have hd := h.distance
        unfold successes at hd ⊢
        rw [List.countP_append, List.countP_singleton]
        omega
      · rw [hpasses, h.passes (by omega), List.length_append, List.length_singleton, Nat.add_assoc]

theorem reached_steered {ls : List Label} (hrest : s.process.AtRest)
    (hkeeps : Runs.AllSteps (step policy) (KeepsGoal policy) s ls)
    (h : Runs.Reached (step policy) s ls t) : ∃ ends, Steered policy s t ends := by
  have hstep : ∀ t l t', (∃ ends, Steered policy s t ends) → KeepsGoal policy t l →
      step policy t l = .ok t' → ∃ ends, Steered policy s t' ends :=
    fun _ _ _ ⟨_, hi⟩ hk hs => hi.step hk hs
  exact Runs.throughout_of_allSteps hstep ⟨[], steered_refl hrest⟩ hkeeps h

/-- An app that wants Wi-Fi Direct has been started. -/
def navigating : Monitored NMPolicyAppManual where
  policy := NMPolicyAppManual.create.onCustomEvent "3-navermap".toList
  process := NetworkSwitcher.twoAdapters
  readyPasses := 0

/-- A pass fails to turn the next device on; then another app follows, and a second pass. -/
def navigatingRun : List Label :=
  [.pass fun _ => { Outcomes.succeed with turnOnImpl := false },
    .customEvent "1-newsbriefing".toList, .pass fun _ => .succeed]

end Monitored

end Linux
end VirtualConnection
