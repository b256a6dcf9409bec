import VirtualConnection.Lib.Runs
import VirtualConnection.Linux.Core

/-!
# Linux.CoreCalls

Calls of `Core::start` and `Core::stop` by any number of threads, whose steps are interleaved: the
check of the core's state, the change of the state, the creation of the transaction, and the callbacks
of the adapters, with whatever outcome. (The lock of the adapter list only takes interleavings away,
and is left out.)

A call is known by a number. `reports` says how often `start_sc_done` or `stop_sc_done` has reported
its outcome, and `keepsState` whether every call that was turned away by the check has left the core
state alone; no code reads them.

`calls_reported_iff`: in which runs rejected calls change nothing, and every call is reported once.
-/

namespace VirtualConnection
namespace Linux

inductive CallPhase where
  | absent
  | startChecked
  | startSet
  | connecting
  | stopChecked
  | stopSet
  /-- The transaction is there, and has not counted the adapters. -/
  | counting
  | disconnecting
  | returned
  deriving DecidableEq, Repr

structure CoreCalls where
  mState : CoreState
  adaptersCount : ℕ
  /-- `StartCoreTransaction::sOngoing`, by its call. -/
  startOngoing : Option ℕ
  /-- `StopCoreTransaction::sOngoing`, by its call, and its count of adapters. -/
  stopOngoing : Option (ℕ × Int)
  phases : ℕ → CallPhase
  reports : ℕ → ℕ
  keepsState : Bool

inductive CallStep where
  | start (call : ℕ)
  | startSet (call : ℕ)
  | startRun (call : ℕ)
  /-- `connect_first_adapter_callback`. -/
  | connected (call : ℕ) (isSuccess : Bool)
  | stop (call : ℕ)
  | stopSet (call : ℕ)
  /-- The count of a new transaction is not initialized. -/
  | stopRun (call : ℕ) (mAdaptersCount : Int)
  | stopCount (call : ℕ) (mAdaptersCount : ℕ)
  /-- `disconnect_adapter_callback`. -/
  | disconnected (call : ℕ) (isSuccess : Bool)
  | stopReturn (call : ℕ)

namespace CoreCalls

variable (s : CoreCalls)

def goTo (call : ℕ) (phase : CallPhase) : CoreCalls :=
  { s with phases := Function.update s.phases call phase }

/-- `start_sc_done` or `stop_sc_done`. -/
def report (call : ℕ) : CoreCalls :=
  { s with reports := Function.update s.reports call (s.reports call + 1) }

def doneStart (call : ℕ) (isSuccess : Bool) : CoreCalls :=
  if isSuccess then { s with mState := .doneStart true }.report call
  else { s with mState := .doneStart false }

def doneStop (call : ℕ) (isSuccess : Bool) : CoreCalls :=
  { s with mState := .doneStop isSuccess }.report call

/-- The check of the state has turned the call away. -/
def rejected (old : CoreCalls) : CoreCalls :=
  { s with keepsState := old.keepsState && decide (s.mState = old.mState) }

def start (call : ℕ) : CoreCalls :=
  if s.mState ≠ .kCoreStateIdle then ((s.doneStart call false).rejected s).goTo call .returned
  else if s.adaptersCount = 0 then (s.doneStart call false).goTo call .returned
  else s.goTo call .startChecked

def startRun (call : ℕ) : CoreCalls :=
  match s.startOngoing with
  | none => { s with startOngoing := some call }.goTo call .connecting
  | some _ => (s.doneStart call false).goTo call .returned

def connected (call : ℕ) (isSuccess : Bool) : CoreCalls :=
  { s.doneStart call isSuccess with startOngoing := none }.goTo call .returned

def stop (call : ℕ) : CoreCalls :=
  if s.mState = .kCoreStateStarting ∨ s.mState = .kCoreStateStopping ∨ s.mState = .kCoreStateIdle then
    ((s.doneStop call false).rejected s).goTo call .returned
  else if s.adaptersCount = 0 then (s.doneStop call false).goTo call .returned
  else s.goTo call .stopChecked

def stopRun (call : ℕ) (mAdaptersCount : Int) : CoreCalls :=
  match s.stopOngoing with
  | none => { s with stopOngoing := some (call, mAdaptersCount) }.goTo call .counting
  | some _ => (s.doneStop call false).goTo call .returned

/-- The count goes into the transaction of the call, whether it is still going on or not. -/
def stopCount (call : ℕ) (mAdaptersCount : ℕ) : CoreCalls :=
  { s with stopOngoing := s.stopOngoing.map fun tx : ℕ × Int =>
      if tx.1 = call then (call, (mAdaptersCount : Int)) else tx }.goTo call .disconnecting

/-- `StopCoreTransaction::done`, on the transaction that is going on. -/
def stopDone (call : ℕ) (isSuccess : Bool) : CoreCalls :=
  { s.doneStop call isSuccess with stopOngoing := none }

/-- The result is `none` when the callback goes through a null pointer. -/
def disconnected (isSuccess : Bool) : Option CoreCalls :=
  match s.stopOngoing with
  | none => if isSuccess then none else some s
  | some (call, mAdaptersCount) =>
    if isSuccess = false then some (s.stopDone call false)
    else if mAdaptersCount - 1 = 0 then some (s.stopDone call true)
    else some { s with stopOngoing := some (call, mAdaptersCount - 1) }

/-- A call takes its steps in the order of the code. -/
def next (call : ℕ) (phase : CallPhase) (t : CoreCalls) : Except Unit CoreCalls :=
  if s.phases call = phase then .ok t else .error ()

def step (s : CoreCalls) : CallStep → Except Unit CoreCalls
  | .start call => s.next call .absent (s.start call)
  | .startSet call =>
    s.next call .startChecked ({ s with mState := .kCoreStateStarting }.goTo call .startSet)
  | .startRun call => s.next call .startSet (s.startRun call)
  | .connected call isSuccess => s.next call .connecting (s.connected call isSuccess)
  | .stop call => s.next call .absent (s.stop call)
  | .stopSet call =>
    s.next call .stopChecked ({ s with mState := .kCoreStateStopping }.goTo call .stopSet)
  | .stopRun call mAdaptersCount => s.next call .stopSet (s.stopRun call mAdaptersCount)
  | .stopCount call mAdaptersCount => s.next call .counting (s.stopCount call mAdaptersCount)
  | .disconnected call isSuccess =>
    match s.disconnected isSuccess with
    | none => .error ()
    | some t => s.next call .disconnecting t
  | .stopReturn call => s.next call .disconnecting (s.goTo call .returned)

/-! ## What is claimed, and when it holds -/

/-- Rejected calls have left the state alone; no call has been reported twice, and every call that
has returned has been reported. -/
def Orderly (s : CoreCalls) : Prop :=
  s.keepsState = true ∧ ∀ call, s.reports call ≤ 1 ∧
    (s.phases call = .returned → s.reports call = 1)

/-- No call is rejected, every start connects, and no stop returns with its transaction going on. -/
def Smooth (s : CoreCalls) : CallStep → Prop
  | .start _ => s.mState = .kCoreStateIdle ∧ 0 < s.adaptersCount
  | .startRun _ => s.startOngoing = none
  | .connected _ isSuccess => isSuccess = true
  | .stop _ => s.mState = .kCoreStateReady
  | .stopReturn call => ∀ n, s.stopOngoing ≠ some (call, n)
  | _ => True

/-- The call whose stop transaction is going on. -/
def owner : Option ℕ := s.stopOngoing.map Prod.fst

/-- The reports of a call: one when it has returned, and for a stop when its transaction is over. -/
def due (call : ℕ) : ℕ :=
  match s.phases call with
  | .returned => 1
  | .counting | .disconnecting => if s.owner = some call then 0 else 1
  | _ => 0

/-- What holds as long as the steps are smooth. -/
structure Settled (s : CoreCalls) : Prop where
  keeps : s.keepsState = true
  reported : ∀ call, s.reports call = s.due call
  owned : ∀ call, s.owner = some call →
    s.phases call = .counting ∨ s.phases call = .disconnecting

theorem Settled.orderly {s : CoreCalls} (h : Settled s) : Orderly s := by
  refine ⟨h.keeps, fun call => ⟨?_, fun hret => ?_⟩⟩
  · rw [h.reported, due]
    split
    · exact le_rfl
    · split <;> omega
    · split <;> omega
    · exact Nat.zero_le 1
  · rw [h.reported, due, hret]

variable {s : CoreCalls} {call : ℕ}

theorem next_eq_ok {phase : CallPhase} {t s' : CoreCalls} (h : s.next call phase t = .ok s') :
    s.phases call = phase ∧ t = s' := by
  unfold next at h
  split_ifs at h with hphase
  exact ⟨hphase, Except.ok.inj h⟩

@[simp] theorem goTo_phases_self (phase : CallPhase) : (s.goTo call phase).phases call = phase :=
  Function.update_self ..

@[simp] theorem goTo_phases_of_ne (phase : CallPhase) {k : ℕ} (hk : k ≠ call) :
    (s.goTo call phase).phases k = s.phases k := by
  simp [CoreCalls.goTo, hk]

@[simp] theorem report_reports_self : (s.report call).reports call = s.reports call + 1 :=
  Function.update_self ..

@[simp] theorem report_reports_of_ne {k : ℕ} (hk : k ≠ call) :
    (s.report call).reports k = s.reports k := by
  simp [report, hk]

theorem Settled.step {t : CoreCalls} (call : ℕ) (h : Settled s) (hkeeps : t.keepsState = s.keepsState)
    (hphases : ∀ k, k ≠ call → t.phases k = s.phases k)
    (hreports : ∀ k, k ≠ call → t.reports k = s.reports k)
    (howner : ∀ k, k ≠ call → (t.owner = some k ↔ s.owner = some k))
    (hcall : t.reports call = t.due call)
    (howned : t.owner = some call → t.phases call = .counting ∨ t.phases call = .disconnecting) :
    Settled t := by
  refine ⟨hkeeps.trans h.keeps, fun k => ?_, fun k hk => ?_⟩
  · by_cases hk : k = call
    · rw [hk]
      exact hcall
    · rw [hreports k hk, h.reported k, due, due, hphases k hk]
      simp only [howner k hk]
  · by_cases hkc : k = call
    · subst hkc
      exact howned hk
    · rw [hphases k hkc]
      exact h.owned k ((howner k hkc).mp hk)

/-- What the reports of a call are before it takes a step. -/
theorem Settled.not_owner (h : Settled s) {phase : CallPhase} (hphase : s.phases call = phase)
    (hc : phase ≠ .counting) (hd : phase ≠ .disconnecting) : s.owner ≠ some call := by
  intro how
  rcases h.owned call how with h' | h'
  · exact hc (hphase.symm.trans h')
  · exact hd (hphase.symm.trans h')

theorem Settled.goTo (h : Settled s) {t : CoreCalls} {phase : CallPhase}
    (hkeeps : t.keepsState = s.keepsState) (hphases : t.phases = s.phases)
    (hreports : ∀ k, k ≠ call → t.reports k = s.reports k) (hon : t.stopOngoing = s.stopOngoing)
    (hown : s.owner ≠ some call) (hdue : t.reports call = (t.goTo call phase).due call) :
    Settled (t.goTo call phase) := by
  have howner : (t.goTo call phase).owner = s.owner := congrArg (Option.map Prod.fst) hon
  refine h.step call hkeeps (fun k hk => ?_) hreports (fun k hk => by rw [howner]) hdue
    (fun h' => absurd (howner ▸ h') hown)
  rw [goTo_phases_of_ne phase hk, hphases]

theorem settled_stopRun (h : Settled s) (hphase : s.phases call = .stopSet) (mAdaptersCount : Int) :
    Settled (s.stopRun call mAdaptersCount) := by
  have hzero : s.reports call = 0 := by simp [h.reported, due, hphase]
  unfold stopRun
  cases hon : s.stopOngoing with
  | none =>
    have howner : s.owner = none := by simp [owner, hon]
    refine h.step call rfl (fun k hk => ?_) (fun _ _ => rfl) (fun k hk => ?_) ?_ ?_
    · exact goTo_phases_of_ne .counting hk
    · rw [howner]
      exact iff_of_false (fun h' => hk (Option.some.inj h').symm) nofun
    · show s.reports call = _
      simp [hzero, due, owner, CoreCalls.goTo]
    · exact fun _ => .inl (goTo_phases_self .counting)
  | some tx =>
    refine h.goTo rfl rfl (fun k hk => report_reports_of_ne hk) rfl
      (h.not_owner hphase nofun nofun) ?_
    simp [doneStop, due, hzero]

theorem settled_stopCount (h : Settled s) (hphase : s.phases call = .counting) (mAdaptersCount : ℕ) :
    Settled (s.stopCount call mAdaptersCount) := by
  have howner : (s.stopCount call mAdaptersCount).owner = s.owner := by
    unfold owner stopCount CoreCalls.goTo
    cases s.stopOngoing with
    | none => rfl
    | some tx =>
      by_cases htx : tx.1 = call
      · simp [htx]
      · simp [htx]
  refine h.step call rfl (fun k hk => ?_) (fun _ _ => rfl) (fun k _ => by rw [howner]) ?_ ?_
  · exact goTo_phases_of_ne .disconnecting hk
  · show s.reports call = _
    rw [h.reported, due, due, hphase, howner]
    simp [stopCount]
  · exact fun _ => .inr (goTo_phases_self .disconnecting)

/-- A callback of the transaction that is going on. -/
theorem settled_disconnected {s' : CoreCalls} {isSuccess : Bool} (h : Settled s)
    (hs : CoreCalls.step s (.disconnected call isSuccess) = .ok s') : Settled s' := by
  cases hon : s.stopOngoing with
  | none =>
    cases isSuccess with
    | true => simp [CoreCalls.step, disconnected, hon] at hs
    | false =>
      simp only [CoreCalls.step, disconnected, hon, Bool.false_eq_true, if_false] at hs
      obtain ⟨-, rfl⟩ := next_eq_ok hs
      exact h
  | some tx =>
    obtain ⟨d, n⟩ := tx
    have howner : s.owner = some d := by simp [owner, hon]
    have hdone : ∀ isSuccess, Settled (s.stopDone d isSuccess) := by
      intro isSuccess
      refine h.step d rfl (fun _ _ => rfl) (fun k hk => report_reports_of_ne hk)
        (fun k hk => ?_) ?_ nofun
      · rw [howner]
        exact iff_of_false nofun fun h' => hk (Option.some.inj h').symm
      · have hzero : s.reports d = 0 := by
          rw [h.reported, due]
          rcases h.owned d howner with hd | hd <;> simp [hd, howner]
        show (s.report d).reports d = (s.stopDone d isSuccess).due d
        rw [report_reports_self, hzero, due]
        rcases h.owned d howner with hd | hd <;>
          simp [stopDone, doneStop, report, owner, hd]
    simp only [CoreCalls.step, disconnected, hon] at hs
    split_ifs at hs
    · obtain ⟨-, rfl⟩ := next_eq_ok hs
      exact hdone false
    · obtain ⟨-, rfl⟩ := next_eq_ok hs
      exact hdone true
    · obtain ⟨-, rfl⟩ := next_eq_ok hs
      refine ⟨h.keeps, fun k => ?_, fun k hk => ?_⟩
      · show s.reports k = _
        rw [h.reported, due, due, howner]
        rfl
      · exact h.owned k (howner.trans hk)

theorem settled_step {s' : CoreCalls} {l : CallStep} (h : Settled s) (hsmooth : Smooth s l)
    (hs : step s l = .ok s') : Settled s' := by
  cases l with
  | start call =>
    obtain ⟨hphase, rfl⟩ := next_eq_ok hs
    have hstart : s.start call = s.goTo call .startChecked := by
      obtain ⟨hidle, hcount⟩ := hsmooth
      simp [start, hidle, Nat.pos_iff_ne_zero.mp hcount]
    rw [hstart]
    refine h.goTo rfl rfl (fun _ _ => rfl) rfl (h.not_owner hphase nofun nofun) ?_
    simp [h.reported, due, hphase]
  | startSet call =>
    obtain ⟨hphase, rfl⟩ := next_eq_ok hs
    refine h.goTo rfl rfl (fun _ _ => rfl) rfl (h.not_owner hphase nofun nofun) ?_
    simp [h.reported, due, hphase]
  | startRun call =>
    obtain ⟨hphase, rfl⟩ := next_eq_ok hs
    rw [startRun, show s.startOngoing = none from hsmooth]
    refine h.goTo rfl rfl (fun _ _ => rfl) rfl (h.not_owner hphase nofun nofun) ?_
    simp [h.reported, due, hphase]
  | connected call isSuccess =>
    obtain ⟨hphase, rfl⟩ := next_eq_ok hs
    obtain rfl : isSuccess = true := hsmooth
    refine h.goTo rfl rfl (fun k hk => ?_) rfl (h.not_owner hphase nofun nofun) ?_
    · exact report_reports_of_ne hk
    · have hzero : s.reports call = 0 := by simp [h.reported, due, hphase]
      simp [doneStart, due, hzero]
  | stop call =>
    obtain ⟨hphase, rfl⟩ := next_eq_ok hs
    have hown := h.not_owner hphase nofun nofun
    have hzero : s.reports call = 0 := by simp [h.reported, due, hphase]
    have hready : s.mState = .kCoreStateReady := hsmooth
    unfold stop
    rw [if_neg (by simp [hready])]
    split
    · refine h.goTo rfl rfl (fun k hk => report_reports_of_ne hk) rfl hown ?_
      simp [doneStop, due, hzero]
    · refine h.goTo rfl rfl (fun _ _ => rfl) rfl hown ?_
      simp [due, hzero]
  | stopSet call =>
    obtain ⟨hphase, rfl⟩ := next_eq_ok hs
    refine h.goTo rfl rfl (fun _ _ => rfl) rfl (h.not_owner hphase nofun nofun) ?_
    simp [h.reported, due, hphase]
  | stopRun call mAdaptersCount =>
    obtain ⟨hphase, rfl⟩ := next_eq_ok hs
    exact settled_stopRun h hphase mAdaptersCount
  | stopCount call mAdaptersCount =>
    obtain ⟨hphase, rfl⟩ := next_eq_ok hs
    exact settled_stopCount h hphase mAdaptersCount
  | disconnected call isSuccess => exact settled_disconnected h hs
  | stopReturn call =>
    obtain ⟨hphase, rfl⟩ := next_eq_ok hs
    have hown : s.owner ≠ some call := by
      intro how
      obtain ⟨tx, htx, hcall⟩ := Option.map_eq_some_iff.mp how
      exact hsmooth tx.2 (by rw [htx, ← hcall])
    refine h.goTo rfl rfl (fun _ _ => rfl) rfl hown ?_
    simp [h.reported, due, hphase, hown]

theorem not_orderly_of_unreported {t : CoreCalls} (hzero : t.reports call = 0) :
    ¬ Orderly (t.goTo call .returned) := by
  intro hgood
  have hone : t.reports call = 1 := (hgood.2 call).2 (goTo_phases_self .returned)
  omega

theorem not_orderly_step {s' : CoreCalls} {l : CallStep} (h : Settled s) (hrough : ¬ Smooth s l)
    (hs : step s l = .ok s') : ¬ Orderly s' := by
  cases l with
  | start call =>
    obtain ⟨hphase, rfl⟩ := next_eq_ok hs
    have hzero : s.reports call = 0 := by simp [h.reported, due, hphase]
    unfold start
    split_ifs with hidle hcount
    · exact not_orderly_of_unreported hzero
    · exact not_orderly_of_unreported hzero
    · exact absurd ⟨not_not.mp hidle, Nat.pos_iff_ne_zero.mpr hcount⟩ hrough
  | startRun call =>
    obtain ⟨hphase, rfl⟩ := next_eq_ok hs
    have hzero : s.reports call = 0 := by simp [h.reported, due, hphase]
    unfold startRun
    cases hon : s.startOngoing with
    | none => exact absurd hon hrough
    | some _ => exact not_orderly_of_unreported hzero
  | connected call isSuccess =>
    obtain ⟨hphase, rfl⟩ := next_eq_ok hs
    have hzero : s.reports call = 0 := by simp [h.reported, due, hphase]
    obtain rfl : isSuccess = false := by simpa [Smooth] using hrough
    exact not_orderly_of_unreported hzero
  | stop call =>
    obtain ⟨hphase, rfl⟩ := next_eq_ok hs
    have hstate : s.mState ≠ .kCoreStateReady := hrough
    have hkeeps : (s.stop call).keepsState = false := by
      unfold stop
      cases hm : s.mState <;> first
        | exact absurd hm hstate
        | simp [CoreCalls.goTo, rejected, doneStop, report, CoreState.doneStop, hm]
    intro hgood
    cases hkeeps.symm.trans hgood.1
  | stopReturn call =>
    obtain ⟨hphase, rfl⟩ := next_eq_ok hs
    have hown : s.owner = some call := by
      by_contra hown
      refine hrough fun n hn => hown ?_
      simp [owner, hn]
    have hzero : s.reports call = 0 := by simp [h.reported, due, hphase, hown]
    exact not_orderly_of_unreported hzero
  | startSet call => exact absurd trivial hrough
  | stopSet call => exact absurd trivial hrough
  | stopRun call mAdaptersCount => exact absurd trivial hrough
  | stopCount call mAdaptersCount => exact absurd trivial hrough
  | disconnected call isSuccess => exact absurd trivial hrough

def init (adaptersCount : ℕ) : CoreCalls where
  mState := .kCoreStateIdle
  adaptersCount := adaptersCount
  startOngoing := none
  stopOngoing := none
  phases _ := .absent
  reports _ := 0
  keepsState := true

theorem settled_init (adaptersCount : ℕ) : Settled (init adaptersCount) :=
  ⟨rfl, fun _ => rfl, nofun⟩

theorem calls_reported_iff (adaptersCount : ℕ) (ls : List CallStep) :
    (∀ t, Runs.Reached step (init adaptersCount) ls t → Orderly t) ↔
      Runs.AllSteps step Smooth (init adaptersCount) ls :=
  Runs.throughout_iff_allSteps (fun _ h => h.orderly)
    (fun _ _ _ h hsmooth hs => settled_step h hsmooth hs)
    (fun _ _ _ h hrough hs => not_orderly_step h hrough hs) (settled_init adaptersCount)

/-- A second start makes the core that is ready look idle, and is not reported. -/
theorem second_start_resets : ∃ t, Runs.Reached step (init 1)
    [.start 0, .startSet 0, .startRun 0, .connected 0 true, .start 1] t ∧
    t.mState = .kCoreStateIdle ∧ ¬ Orderly t := by
  obtain ⟨t, hr, hview⟩ : ∃ t, Runs.run step (init 1)
      [.start 0, .startSet 0, .startRun 0, .connected 0 true, .start 1] = .ok t ∧
      (t.mState, t.keepsState) = (.kCoreStateIdle, false) :=
    Runs.exists_run_of_view (fun t : CoreCalls => (t.mState, t.keepsState)) (by decide +kernel)
  simp only [Prod.mk.injEq] at hview
  refine ⟨t, .of_run hr, hview.1, fun h => ?_⟩
  cases hview.2.symm.trans h.1

end CoreCalls

end Linux
end VirtualConnection
