import VirtualConnection.Android.ProtocolManager
import VirtualConnection.Lib.Runs

/-!
# Android.NetworkSwitcher

`NetworkSwitcher.java`: the thread that receives control messages carries out the commands of the peer,
and the threads of the adapters report what became of connections and disconnections. Each `getState`,
each `setState` and each use of `sOngoingConnectRequest` is a step of its own, and the steps of the
threads are interleaved. How long an adapter works, and whether it ever reports, is up to the run.

Only the receiving thread checks the state, so what Linux does not achieve holds here:

* `one_operation`: one operation at a time, and the state is switching for as long as it takes.
* `started_iff`: in which runs every transaction that is made can be started.
* `canRest_iff`: in which states the switcher will never be ready again.

`reconnectAdapter` is never called, and left out.
-/

namespace VirtualConnection
namespace Android
namespace NetworkSwitcher

inductive State where
  | kReady
  | kSwitching
  deriving DecidableEq, Repr

/-- A command of the peer. The final sequence numbers of a disconnection are not used. -/
inductive Command where
  | connect (adapterId : Int32)
  | disconnect (adapterId : Int32)
  | sleep (adapterId : Int32)
  | wakeUp (adapterId : Int32)
  deriving DecidableEq, Repr

/-- What is left to do of `doneConnectRequestTx`, or of `doneSwitch` after a disconnection. -/
inductive Report where
  /-- `sOngoingConnectRequest = null` -/
  | clear
  /-- `getState` in `doneSwitch`. -/
  | getState
  /-- It was switching. -/
  | setReady
  /-- `sOngoingConnectRequest = null`, once more. -/
  | clearAgain
  deriving DecidableEq, Repr

inductive ControlPoint where
  | idle
  /-- `getState` has said that the switcher is ready. -/
  | checked (command : Command)
  /-- The state has been set to switching. -/
  | switching (command : Command)
  /-- There is a new transaction; `sOngoingConnectRequest.start()` comes next. -/
  | created
  /-- No adapter was found, or it has refused: the thread reports that itself. -/
  | notConnected (report : Report)
  /-- The adapter was put to sleep, or woken up. -/
  | slept
  deriving DecidableEq, Repr

/-- A connection or a disconnection that an adapter is working on, until it has something to report. -/
structure Operation where
  isConnect : Bool
  report : Option Report
  deriving DecidableEq, Repr

/-- The operations are numbered in the order of their beginning. -/
structure Switcher where
  mState : State
  sOngoingConnectRequest : Option Int32
  control : ControlPoint
  operations : ℕ → Option Operation
  started : ℕ

inductive Step where
  /-- A message comes in. -/
  | receive (command : Command)
  /-- The next step of the receiving thread; `accepts` is what `connect` finds the adapter to be. -/
  | control (accepts : Bool)
  /-- The next step of the thread that reports an operation. -/
  | operation (i : ℕ)
  deriving DecidableEq, Repr

namespace Switcher

variable (find : Int32 → Bool) (s : Switcher)

/-- One step of a report, and what is left then. -/
def reportStep (isConnect : Bool) : Report → Switcher × Option Report
  | .clear => ({ s with sOngoingConnectRequest := none }, some .getState)
  | .getState =>
    match s.mState with
    | .kSwitching => (s, some .setReady)
    | .kReady => (s, if isConnect then some .clearAgain else none)
  | .setReady => ({ s with mState := .kReady }, if isConnect then some .clearAgain else none)
  | .clearAgain => ({ s with sOngoingConnectRequest := none }, none)

def setOperation (i : ℕ) (operation : Option Operation) : Switcher :=
  { s with operations := Function.update s.operations i operation }

/-- The adapter begins, and the receiving thread is done. -/
def begin (isConnect : Bool) : Switcher :=
  { s.setOperation s.started (some ⟨isConnect, none⟩) with
    control := .idle
    started := s.started + 1 }

/-- `start` of a `ConnectRequestTransaction`. -/
def startConnect (adapterId : Int32) (accepts : Bool) : Switcher :=
  if find adapterId then
    if accepts then s.begin true else { s with control := .notConnected .clear }
  else { s with control := .notConnected .clear }

/-- `notConnected` or the end, after a step of the report. -/
def goOn : Switcher × Option Report → Switcher
  | (s, none) => { s with control := .idle }
  | (s, some report) => { s with control := .notConnected report }

/-- The next step of the receiving thread; it dies of a `NullPointerException`. -/
def controlStep (accepts : Bool) : Except JavaStop Switcher :=
  match s.control with
  | .idle => .error .waiting
  | .checked (.disconnect adapterId) =>
    if find adapterId then
      .ok { s with mState := .kSwitching, control := .switching (.disconnect adapterId) }
    else .ok { s with control := .idle }
  | .checked command => .ok { s with mState := .kSwitching, control := .switching command }
  | .switching (.connect adapterId) =>
    match s.sOngoingConnectRequest with
    | none => .ok { s with sOngoingConnectRequest := some adapterId, control := .created }
    | some _ => .ok { s with control := .idle }
  | .switching (.disconnect _) => .ok (s.begin false)
  | .switching (.sleep adapterId) | .switching (.wakeUp adapterId) =>
    if find adapterId then .ok { s with control := .slept } else .error (.thrown .nullPointer)
  | .created =>
    match s.sOngoingConnectRequest with
    | none => .error (.thrown .nullPointer)
    | some adapterId => .ok (s.startConnect find adapterId accepts)
  | .notConnected report => .ok (goOn (s.reportStep true report))
  | .slept => .ok { s with mState := .kReady, control := .idle }

def operationStep (i : ℕ) : Except JavaStop Switcher :=
  match s.operations i with
  | none => .error .waiting
  | some ⟨isConnect, none⟩ =>
    .ok (s.setOperation i (some ⟨isConnect, some (if isConnect then .clear else .getState)⟩))
  | some ⟨isConnect, some report⟩ =>
    let (s, left) := s.reportStep isConnect report
    .ok (s.setOperation i (left.map fun report => ⟨isConnect, some report⟩))

def step (s : Switcher) : Step → Except JavaStop Switcher
  | .receive command =>
    if s.control ≠ .idle then .error .waiting
    else
      match s.mState with
      | .kSwitching => .ok s
      | .kReady => .ok { s with control := .checked command }
  | .control accepts => s.controlStep find accepts
  | .operation i => s.operationStep i

def init : Switcher := ⟨.kReady, none, .idle, fun _ => none, 0⟩

end Switcher

/-! ## One operation at a time -/

/-- It has not set the state back. -/
def Operation.IsOpen (o : Operation) : Prop := o.report ≠ some .clearAgain

instance (o : Operation) : Decidable o.IsOpen := inferInstanceAs (Decidable (_ ≠ _))

/-- The receiving thread is between its own two changes of the state. -/
def ControlPoint.IsOpen : ControlPoint → Prop
  | .switching _ | .created | .slept => True
  | .notConnected report => report ≠ .clearAgain
  | .idle | .checked _ => False

/-- The operation's transaction may be there. -/
def Operation.Holds (o : Operation) : Prop :=
  o.isConnect = true ∧ (o.report = none ∨ o.report = some .clear)

theorem Operation.Holds.isOpen {o : Operation} (h : o.Holds) : o.IsOpen := by
  intro hreport
  rcases h.2 with hnone | hclear
  · rw [hnone] at hreport
    cases hreport
  · rw [hclear] at hreport
    cases hreport

namespace Switcher

variable {find : Int32 → Bool} {s s' : Switcher} {i j : ℕ}

def Works (s : Switcher) (i : ℕ) : Prop := ∃ o ∈ s.operations i, o.IsOpen

/-- At most one operation is at work, the receiving thread's own one included; the state is switching
just as long; and a connection that was accepted is not dropped. -/
structure Excluded (s : Switcher) : Prop where
  one : ∀ i j, s.Works i → s.Works j → i = j
  control : s.control.IsOpen → ∀ i, ¬ s.Works i
  switching : s.mState = .kSwitching ↔ s.control.IsOpen ∨ ∃ i, s.Works i
  carriedOut : ∀ adapterId, s.control = .switching (.connect adapterId) →
    s.sOngoingConnectRequest = none

structure Guarded (s : Switcher) : Prop extends Excluded s where
  checked : ∀ command, s.control = .checked command → s.mState = .kReady
  ongoing : s.sOngoingConnectRequest ≠ none →
    s.control = .created ∨ s.control = .notConnected .clear ∨ ∃ i, ∃ o ∈ s.operations i, o.Holds

theorem works_setOperation {operation : Option Operation} :
    (s.setOperation i operation).Works j ↔
      if j = i then ∃ o ∈ operation, o.IsOpen else s.Works j := by
  by_cases hj : j = i
  · simp [Works, setOperation, hj]
  · simp [Works, setOperation, hj]

/-- A transaction is there only while an operation is at work. -/
theorem Guarded.ongoing_eq_none (h : s.Guarded) (hready : s.mState = .kReady) :
    s.sOngoingConnectRequest = none := by
  by_contra hsome
  have hopen : s.control.IsOpen ∨ ∃ i, s.Works i := by
    rcases h.ongoing hsome with hcontrol | hcontrol | ⟨i, o, ho, hholds⟩
    · exact .inl (by rw [hcontrol]; trivial)
    · exact .inl (by rw [hcontrol]; exact nofun)
    · exact .inr ⟨i, o, ho, hholds.isOpen⟩
  rw [h.switching.mpr hopen] at hready
  cases hready

theorem Guarded.not_works (h : s.Guarded) (hready : s.mState = .kReady) : ¬ s.Works i := by
  intro hi
  rw [h.switching.mpr (.inr ⟨i, hi⟩)] at hready
  cases hready

theorem guarded_init : init.Guarded where
  one := fun i j hi => by obtain ⟨o, ho, -⟩ := hi; cases ho
  control := fun hopen => absurd hopen id
  switching := by simp [init, Works, ControlPoint.IsOpen]
  carriedOut := fun _ h => by cases h
  checked := fun _ h => by cases h
  ongoing := fun h => absurd rfl h

/-! ## The receiving thread -/

/-- The thread is at another point, and nothing else has changed. -/
theorem Guarded.goTo {point : ControlPoint} (h : s.Guarded)
    (hopen : point.IsOpen ↔ s.control.IsOpen)
    (hcarried : ∀ adapterId, point = .switching (.connect adapterId) →
      s.sOngoingConnectRequest = none)
    (hchecked : ∀ command, point = .checked command → s.mState = .kReady)
    (hongoing : s.sOngoingConnectRequest ≠ none →
      point = .created ∨ point = .notConnected .clear ∨ ∃ i, ∃ o ∈ s.operations i, o.Holds) :
    Guarded { s with control := point } where
  one := h.one
  control := fun hp => h.control (hopen.mp hp)
  switching := h.switching.trans (or_congr_left hopen.symm)
  carriedOut := hcarried
  checked := hchecked
  ongoing := hongoing

theorem Guarded.receive {command : Command} (h : s.Guarded) (hidle : s.control = .idle)
    (hready : s.mState = .kReady) : Guarded { s with control := .checked command } := by
  refine h.goTo (by rw [hidle]; rfl) nofun (fun _ _ => hready) fun hsome => ?_
  exact absurd (h.ongoing_eq_none hready) hsome

theorem Guarded.setSwitching {command : Command} (h : s.Guarded)
    (hchecked : s.control = .checked command) :
    Guarded { s with mState := .kSwitching, control := .switching command } where
  one := h.one
  control := fun _ i => h.not_works (h.checked command hchecked)
  switching := by simp [ControlPoint.IsOpen]
  carriedOut := fun _ _ => h.ongoing_eq_none (h.checked command hchecked)
  checked := nofun
  ongoing := fun hsome => absurd (h.ongoing_eq_none (h.checked command hchecked)) hsome

theorem Guarded.begin {isConnect : Bool} (h : s.Guarded) (hopen : s.control.IsOpen)
    (hconnect : isConnect = false → s.sOngoingConnectRequest = none) :
    (s.begin isConnect).Guarded := by
  have hnone := h.control hopen
  have hworks : ∀ i, (s.begin isConnect).Works i ↔ i = s.started := by
    intro i
    refine works_setOperation.trans ?_
    by_cases hi : i = s.started
    · simp [hi, Operation.IsOpen]
    · simp [hi, hnone]
  have hswitching : (s.begin isConnect).mState = .kSwitching := h.switching.mpr (.inl hopen)
  refine ⟨⟨fun i j hi hj => ?_, fun hidle => absurd hidle id, ?_, nofun⟩, nofun, fun hsome => ?_⟩
  · rw [(hworks i).mp hi, (hworks j).mp hj]
  · exact iff_of_true hswitching (.inr ⟨s.started, (hworks _).mpr rfl⟩)
  · cases isConnect with
    | false => exact absurd (hconnect rfl) hsome
    | true =>
      refine .inr (.inr ⟨s.started, ⟨true, none⟩, ?_, rfl, .inl rfl⟩)
      simp [Switcher.begin, setOperation]

theorem Guarded.clear (h : s.Guarded) : Guarded { s with sOngoingConnectRequest := none } where
  one := h.one
  control := h.control
  switching := h.switching
  carriedOut := fun _ _ => rfl
  checked := h.checked
  ongoing := fun hsome => absurd rfl hsome

/-- Whatever was at work sets the state back. -/
theorem guarded_setReady (hready : s.mState = .kReady) (hcontrol : ¬ s.control.IsOpen)
    (hworks : ∀ i, ¬ s.Works i) (hongoing : s.sOngoingConnectRequest = none) : s.Guarded where
  one := fun i _ hi => absurd hi (hworks i)
  control := fun hopen => absurd hopen hcontrol
  switching := by
    rw [hready]
    refine iff_of_false nofun ?_
    rintro (hopen | ⟨i, hi⟩)
    · exact hcontrol hopen
    · exact hworks i hi
  carriedOut := fun _ _ => hongoing
  checked := fun _ _ => hready
  ongoing := fun hsome => absurd hongoing hsome

/-- With the receiving thread at work there is a transaction only at its beginning. -/
theorem Guarded.ongoing_of_open (h : s.Guarded) (hopen : s.control.IsOpen)
    (hcreated : s.control ≠ .created) (hclear : s.control ≠ .notConnected .clear) :
    s.sOngoingConnectRequest = none := by
  by_contra hsome
  rcases h.ongoing hsome with hcontrol | hcontrol | ⟨i, o, ho, hholds⟩
  · exact hcreated hcontrol
  · exact hclear hcontrol
  · exact h.control hopen i ⟨o, ho, hholds.isOpen⟩

theorem Guarded.goOn {report : Report} (h : s.Guarded) (hat : s.control = .notConnected report) :
    (Switcher.goOn (s.reportStep true report)).Guarded := by
  cases report with
  | clear =>
    exact h.clear.goTo (iff_of_true nofun (by rw [hat]; exact nofun)) nofun nofun
      fun hsome => absurd rfl hsome
  | getState =>
    have hopen : s.control.IsOpen := by
      rw [hat]
      exact nofun
    have hswitching := h.switching.mpr (.inl hopen)
    have hnone := h.ongoing_of_open hopen (by rw [hat]; exact nofun) (by rw [hat]; exact nofun)
    rw [reportStep, hswitching]
    exact h.goTo (iff_of_true nofun hopen) nofun nofun fun hsome => absurd hnone hsome
  | setReady =>
    have hopen : s.control.IsOpen := by
      rw [hat]
      exact nofun
    have hnone := h.ongoing_of_open hopen (by rw [hat]; exact nofun) (by rw [hat]; exact nofun)
    exact guarded_setReady rfl (fun hclosed => hclosed rfl) (h.control hopen) hnone
  | clearAgain =>
    refine h.clear.goTo (iff_of_false id ?_) nofun nofun fun hsome => absurd rfl hsome
    rw [hat]
    exact fun hclosed => hclosed rfl

theorem Guarded.slept {command : Command} (h : s.Guarded) (hat : s.control = .switching command) :
    Guarded { s with control := .slept } := by
  have hopen : s.control.IsOpen := by
    rw [hat]
    trivial
  have hnone := h.ongoing_of_open hopen (by rw [hat]; exact nofun) (by rw [hat]; exact nofun)
  exact h.goTo (iff_of_true trivial hopen) nofun nofun fun hsome => absurd hnone hsome

theorem Guarded.startConnect {adapterId : Int32} {accepts : Bool} (h : s.Guarded)
    (hat : s.control = .created) : (s.startConnect find adapterId accepts).Guarded := by
  have hopen : s.control.IsOpen := by
    rw [hat]
    trivial
  have hrefused : Guarded { s with control := .notConnected .clear } :=
    h.goTo (iff_of_true nofun hopen) nofun nofun fun _ => .inr (.inl rfl)
  unfold Switcher.startConnect
  split
  · split
    · exact h.begin hopen nofun
    · exact hrefused
  · exact hrefused

theorem Guarded.controlStep {accepts : Bool} (h : s.Guarded)
    (hs : s.controlStep find accepts = .ok s') : s'.Guarded := by
  unfold Switcher.controlStep at hs
  split at hs
  · cases hs
  · next adapterId hat =>
    split at hs
    · cases hs
      exact h.setSwitching hat
    · cases hs
      refine h.goTo (by rw [hat]; rfl) nofun nofun fun hsome => ?_
      exact absurd (h.ongoing_eq_none (h.checked _ hat)) hsome
  · next command _ hat =>
    cases hs
    exact h.setSwitching hat
  · next adapterId hat =>
    rw [h.carriedOut adapterId hat] at hs
    cases hs
    exact ⟨⟨h.one, fun _ => h.control (by rw [hat]; trivial),
      h.switching.trans (or_congr_left (iff_of_true trivial (by rw [hat]; trivial)).symm), nofun⟩,
      nofun, fun _ => .inl rfl⟩
  · next adapterId hat =>
    cases hs
    have hopen : s.control.IsOpen := by
      rw [hat]
      trivial
    exact h.begin hopen fun _ => h.ongoing_of_open hopen (by rw [hat]; exact nofun)
      (by rw [hat]; exact nofun)
  · next adapterId hat =>
    split at hs
    · cases hs
      exact h.slept hat
    · cases hs
  · next adapterId hat =>
    split at hs
    · cases hs
      exact h.slept hat
    · cases hs
  · next hat =>
    split at hs
    · cases hs
    · cases hs
      exact h.startConnect hat
  · next report hat =>
    cases hs
    exact h.goOn hat
  · next hat =>
    cases hs
    have hopen : s.control.IsOpen := by
      rw [hat]
      trivial
    exact guarded_setReady rfl id (h.control hopen)
      (h.ongoing_of_open hopen (by rw [hat]; exact nofun) (by rw [hat]; exact nofun))

/-! ## The threads of the adapters -/

theorem Guarded.setOperation {operation : Option Operation} (h : s.Guarded)
    (hopen : (∃ o ∈ operation, o.IsOpen) ↔ s.Works i)
    (hholds : s.sOngoingConnectRequest ≠ none → (∃ o ∈ s.operations i, o.Holds) →
      ∃ o ∈ operation, o.Holds) :
    (s.setOperation i operation).Guarded := by
  have hworks : ∀ j, (s.setOperation i operation).Works j ↔ s.Works j := by
    intro j
    refine works_setOperation.trans ?_
    by_cases hj : j = i
    · rw [if_pos hj, hopen, hj]
    · rw [if_neg hj]
  refine ⟨⟨fun j k hj hk => h.one j k ((hworks j).mp hj) ((hworks k).mp hk),
    fun hcontrol j hj => h.control hcontrol j ((hworks j).mp hj),
    h.switching.trans (or_congr_right (exists_congr fun j => (hworks j).symm)), h.carriedOut⟩,
    h.checked, fun hsome => ?_⟩
  rcases h.ongoing hsome with hcontrol | hcontrol | ⟨j, o, ho, hj⟩
  · exact .inl hcontrol
  · exact .inr (.inl hcontrol)
  · refine .inr (.inr ?_)
    by_cases hji : j = i
    · obtain ⟨o', ho', hholds'⟩ := hholds hsome ⟨o, hji ▸ ho, hj⟩
      exact ⟨i, o', by simpa [Switcher.setOperation] using ho', hholds'⟩
    · exact ⟨j, o, by simpa [Switcher.setOperation, hji] using ho, hj⟩

/-- The operation that is at work sets the state back. -/
theorem Guarded.operation_setReady {operation : Option Operation} (h : s.Guarded) (hi : s.Works i)
    (hclosed : ∀ o ∈ operation, ¬ o.IsOpen) (hholds : ∀ o ∈ s.operations i, ¬ o.Holds) :
    (Switcher.setOperation { s with mState := .kReady } i operation).Guarded := by
  have hcontrol : ¬ s.control.IsOpen := fun hopen => h.control hopen i hi
  refine guarded_setReady rfl hcontrol (fun j hj => ?_) ?_
  · rw [works_setOperation] at hj
    by_cases hji : j = i
    · rw [if_pos hji] at hj
      obtain ⟨o, ho, hopen⟩ := hj
      exact hclosed o ho hopen
    · rw [if_neg hji] at hj
      exact hji (h.one j i hj hi)
  · by_contra hsome
    rcases h.ongoing hsome with hat | hat | ⟨j, o, ho, hj⟩
    · exact hcontrol (by rw [hat]; trivial)
    · exact hcontrol (by rw [hat]; exact nofun)
    · obtain rfl := h.one j i ⟨o, ho, hj.isOpen⟩ hi
      exact hholds o ho hj

theorem Guarded.operationStep (h : s.Guarded) (hs : s.operationStep i = .ok s') : s'.Guarded := by
  unfold Switcher.operationStep at hs
  split at hs
  · cases hs
  · next isConnect hat =>
    cases hs
    have hworks : s.Works i := ⟨_, hat, nofun⟩
    refine h.setOperation (iff_of_true ⟨_, rfl, ?_⟩ hworks) fun _ hold => ?_
    · cases isConnect <;> exact nofun
    · obtain ⟨o, ho, hholds⟩ := hold
      obtain rfl := Option.some.inj (hat.symm.trans ho)
      obtain rfl : isConnect = true := hholds.1
      exact ⟨_, rfl, rfl, .inr rfl⟩
  · next isConnect report hat =>
    cases hs
    have hown : ∀ o ∈ s.operations i, o = ⟨isConnect, some report⟩ := fun o ho =>
      (Option.some.inj (hat.symm.trans ho)).symm
    cases report with
    | clear =>
      have hworks : s.Works i := ⟨_, hat, nofun⟩
      exact h.clear.setOperation (iff_of_true ⟨_, rfl, nofun⟩ hworks) fun hsome => absurd rfl hsome
    | getState =>
      have hworks : s.Works i := ⟨_, hat, nofun⟩
      have hswitching := h.switching.mpr (.inr ⟨i, hworks⟩)
      simp only [hswitching]
      refine h.setOperation (iff_of_true ⟨_, rfl, nofun⟩ hworks) fun _ hold => ?_
      obtain ⟨o, ho, -, hreport⟩ := hold
      rw [hown o ho] at hreport
      rcases hreport with hreport | hreport <;> cases hreport
    | setReady =>
      have hworks : s.Works i := ⟨_, hat, nofun⟩
      refine h.operation_setReady hworks (fun o ho => ?_) fun o ho hholds => ?_
      · cases isConnect with
        | false => cases ho
        | true =>
          cases ho
          exact fun hopen => hopen rfl
      · rw [hown o ho] at hholds
        rcases hholds.2 with hreport | hreport <;> cases hreport
    | clearAgain =>
      refine h.clear.setOperation (iff_of_false ?_ ?_) fun hsome => absurd rfl hsome
      · rintro ⟨o, ho, -⟩
        cases ho
      · rintro ⟨o, ho, hopen⟩
        rw [hown o ho] at hopen
        exact hopen rfl

theorem guarded_step (s : Switcher) (l : Step) (s' : Switcher) (h : s.Guarded)
    (hs : s.step find l = .ok s') : s'.Guarded := by
  cases l with
  | receive command =>
    rw [step] at hs
    split at hs
    · cases hs
    · next hidle =>
      split at hs
      · cases hs
        exact h
      · next hready =>
        cases hs
        exact h.receive (not_not.mp hidle) hready
  | control accepts => exact h.controlStep hs
  | operation i => exact h.operationStep hs

theorem reached_guarded {ls : List Step} (hr : Runs.Reached (step find) init ls s) : s.Guarded := by
  have hall : Runs.AllSteps (step find) (fun _ _ => True) init ls :=
    Runs.AllSteps.of_labels (fun _ _ _ => trivial) init
  exact Runs.throughout_of_allSteps (fun s l s' h _ hs => guarded_step s l s' h hs) guarded_init
    hall hr

def twoAdapters (adapterId : Int32) : Bool := adapterId = 1 ∨ adapterId = 2

/-- Adapter 1 is connecting. -/
def connecting : List Step :=
  [.receive (.connect 1), .control true, .control true, .control true]

/-- The transaction that was made is started. -/
def Started (find : Int32 → Bool) (s : Switcher) : Prop :=
  s.control = .created → ∀ accepts, s.step find (.control accepts) ≠ .error (.thrown .nullPointer)

/-- No earlier connection resets `sOngoingConnectRequest` for the second time between the creation of
a transaction and its start. -/
def Careful (s : Switcher) : Step → Prop
  | .operation i => s.control = .created → ∀ o ∈ s.operations i, o.report ≠ some .clearAgain
  | _ => True

instance (s : Switcher) : ∀ l, Decidable (Careful s l)
  | .operation i =>
    inferInstanceAs (Decidable (s.control = .created →
      ∀ o ∈ s.operations i, o.report ≠ some .clearAgain))
  | .receive _ | .control _ => .isTrue trivial

theorem started_iff_ongoing :
    Started find s ↔ (s.control = .created → s.sOngoingConnectRequest ≠ none) := by
  refine forall_congr' fun hat => ?_
  cases hongoing : s.sOngoingConnectRequest with
  | none =>
    refine iff_of_false (fun h => h true ?_) fun h => h rfl
    simp only [step, Switcher.controlStep, hat, hongoing]
  | some adapterId =>
    refine iff_of_true (fun accepts => ?_) nofun
    simp only [step, Switcher.controlStep, hat, hongoing]
    exact nofun

theorem reportStep_control (isConnect : Bool) (report : Report) :
    (s.reportStep isConnect report).1.control = s.control := by
  cases report with
  | getState =>
    simp only [reportStep]
    cases s.mState <;> rfl
  | clear | setReady | clearAgain => rfl

/-- The transaction is still there if the threads of the adapters do not reset it. -/
theorem started_operation (h : s.Guarded) (hstarted : Started find s)
    (hcareful : Careful s (.operation i)) (hs : s.operationStep i = .ok s') : Started find s' := by
  rw [started_iff_ongoing] at hstarted ⊢
  unfold Switcher.operationStep at hs
  split at hs
  · cases hs
  · cases hs
    exact hstarted
  · next isConnect report hat =>
    have hworks : report ≠ .clearAgain → s.control ≠ .created := by
      intro hreport hcreated
      refine h.control (by rw [hcreated]; trivial) i ⟨_, hat, fun hclosed => hreport ?_⟩
      exact Option.some.inj hclosed
    cases hs
    intro hcreated
    have hcreated : s.control = .created := (reportStep_control isConnect report).symm.trans hcreated
    by_cases hreport : report = .clearAgain
    · exact absurd (congrArg some hreport) (hcareful hcreated _ hat)
    · exact absurd hcreated (hworks hreport)

theorem started_control {accepts : Bool} (hs : s.controlStep find accepts = .ok s') :
    Started find s' := by
  rw [started_iff_ongoing]
  intro hcreated
  unfold Switcher.controlStep at hs
  split at hs
  · cases hs
  · split at hs <;> cases hs <;> cases hcreated
  · cases hs
    cases hcreated
  · split at hs
    · cases hs
      exact nofun
    · cases hs
      cases hcreated
  · cases hs
    cases hcreated
  · split at hs <;> cases hs
    cases hcreated
  · split at hs <;> cases hs
    cases hcreated
  · split at hs <;> cases hs
    unfold startConnect at hcreated
    split at hcreated
    · split at hcreated <;> cases hcreated
    · cases hcreated
  · next report _ =>
    cases hs
    unfold Switcher.goOn at hcreated
    split at hcreated <;> cases hcreated
  · cases hs
    cases hcreated

theorem started_step (h : s.Guarded) (hstarted : Started find s) {l : Step} (hcareful : Careful s l)
    (hs : s.step find l = .ok s') : Started find s' := by
  cases l with
  | receive command =>
    rw [step] at hs
    split at hs
    · cases hs
    · split at hs
      · cases hs
        exact hstarted
      · cases hs
        exact nofun
  | control accepts => exact started_control hs
  | operation i => exact started_operation h hstarted hcareful hs

theorem not_started_step {l : Step} (hcareless : ¬ Careful s l) (hs : s.step find l = .ok s') :
    ¬ Started find s' := by
  cases l with
  | receive command => exact absurd trivial hcareless
  | control accepts => exact absurd trivial hcareless
  | operation i =>
    simp only [Careful, not_forall, not_not] at hcareless
    obtain ⟨hcreated, ⟨isConnect, report⟩, ho, rfl⟩ := hcareless
    rw [started_iff_ongoing]
    simp only [step, Switcher.operationStep, Option.mem_def.mp ho, reportStep] at hs
    cases hs
    exact fun h => h hcreated rfl

/-- **No transaction is lost before its start**, exactly in the runs in which no connection that was
reported before resets `sOngoingConnectRequest` between its creation and its start. -/
theorem started_iff (ls : List Step) :
    (∀ t, Runs.Reached (step find) init ls t → Started find t) ↔
      Runs.AllSteps (step find) Careful init ls := by
  have hinit : Started find init := nofun
  refine Runs.throughout_iff_allSteps (fun s (h : s.Guarded ∧ Started find s) => h.2)
    (fun s l s' h hc hs => ?_) (fun s l s' h hc hs => ?_) ⟨guarded_init, hinit⟩
  · exact ⟨guarded_step s l s' h.1 hs, started_step h.1 h.2 hc hs⟩
  · exact not_started_step hc hs

/-! ## What stops the switcher for good -/

/-- The threads can go on so that the switcher is ready for another command. -/
def CanRest (find : Int32 → Bool) (s : Switcher) : Prop :=
  ∃ ls t, Runs.run (step find) s ls = .ok t ∧ t.mState = .kReady ∧ t.control = .idle

theorem CanRest.here (hready : s.mState = .kReady) (hidle : s.control = .idle) : CanRest find s :=
  ⟨[], s, rfl, hready, hidle⟩

theorem CanRest.step {l : Step} (hs : s.step find l = .ok s') (h : CanRest find s') :
    CanRest find s := by
  obtain ⟨ls, t, hr, ht⟩ := h
  exact ⟨l :: ls, t, Runs.run_cons_eq_ok.mpr ⟨s', hs, hr⟩, ht⟩

section Operation

variable {isConnect : Bool} {report : Report}

theorem step_report (ho : s.operations i = some ⟨isConnect, some report⟩) :
    s.step find (.operation i) = .ok ((s.reportStep isConnect report).1.setOperation i
      ((s.reportStep isConnect report).2.map fun report => ⟨isConnect, some report⟩)) := by
  rw [Switcher.step, operationStep, ho]

theorem operations_setOperation {o : Operation} :
    (s.setOperation i (some o)).operations i = some o := Function.update_self ..

theorem canRest_setReady (hidle : s.control = .idle)
    (ho : s.operations i = some ⟨isConnect, some .setReady⟩) : CanRest find s :=
  .step (step_report ho) (.here rfl hidle)

theorem canRest_getState (hidle : s.control = .idle)
    (ho : s.operations i = some ⟨isConnect, some .getState⟩) : CanRest find s := by
  cases hstate : s.mState with
  | kReady => exact .here hstate hidle
  | kSwitching =>
    have hs : s.step find (.operation i) = _ := step_report ho
    simp only [reportStep, hstate] at hs
    exact .step hs (canRest_setReady hidle operations_setOperation)

theorem canRest_clear (hidle : s.control = .idle)
    (ho : s.operations i = some ⟨isConnect, some .clear⟩) : CanRest find s :=
  .step (step_report ho) (canRest_getState hidle operations_setOperation)

theorem CanRest.operation {o : Operation} (hidle : s.control = .idle) (ho : s.operations i = some o)
    (hopen : o.IsOpen) : CanRest find s := by
  obtain ⟨isConnect, report⟩ := o
  cases report with
  | none =>
    have hs : s.step find (.operation i) = .ok (s.setOperation i
        (some ⟨isConnect, some (if isConnect then .clear else .getState)⟩)) := by
      rw [Switcher.step, operationStep, ho]
    cases isConnect with
    | true => exact .step hs (canRest_clear hidle operations_setOperation)
    | false => exact .step hs (canRest_getState hidle operations_setOperation)
  | some report =>
    cases report with
    | clear => exact canRest_clear hidle ho
    | getState => exact canRest_getState hidle ho
    | setReady => exact canRest_setReady hidle ho
    | clearAgain => exact absurd rfl hopen

end Operation

/-- Whatever is at work can be reported. -/
theorem Guarded.canRest_idle (h : s.Guarded) (hidle : s.control = .idle) : CanRest find s := by
  cases hstate : s.mState with
  | kReady => exact .here hstate hidle
  | kSwitching =>
    rcases h.switching.mp hstate with hopen | ⟨i, o, ho, hopen⟩
    · rw [hidle] at hopen
      exact absurd hopen id
    · exact .operation hidle ho hopen

section Control

variable {report : Report}

theorem step_goOn (hat : s.control = .notConnected report) :
    s.step find (.control true) = .ok (Switcher.goOn (s.reportStep true report)) := by
  rw [Switcher.step, Switcher.controlStep, hat]

theorem Guarded.canRest_clearAgain (h : s.Guarded) (hat : s.control = .notConnected .clearAgain) :
    CanRest find s :=
  .step (step_goOn hat) ((h.goOn hat).canRest_idle rfl)

theorem Guarded.canRest_setReady (h : s.Guarded) (hat : s.control = .notConnected .setReady) :
    CanRest find s :=
  .step (step_goOn hat) ((h.goOn hat).canRest_clearAgain rfl)

theorem Guarded.canRest_getState (h : s.Guarded) (hat : s.control = .notConnected .getState) :
    CanRest find s := by
  have hnext := h.goOn hat
  have hs : s.step find (.control true) = _ := step_goOn hat
  cases hstate : s.mState with
  | kReady =>
    simp only [reportStep, hstate] at hs hnext
    exact .step hs (hnext.canRest_clearAgain rfl)
  | kSwitching =>
    simp only [reportStep, hstate] at hs hnext
    exact .step hs (hnext.canRest_setReady rfl)

theorem Guarded.canRest_notConnected (h : s.Guarded) (hat : s.control = .notConnected report) :
    CanRest find s := by
  cases report with
  | clear => exact .step (step_goOn hat) ((h.goOn hat).canRest_getState rfl)
  | getState => exact h.canRest_getState hat
  | setReady => exact h.canRest_setReady hat
  | clearAgain => exact h.canRest_clearAgain hat

/-- The receiving thread uses the adapter of this command without a look whether there is one. -/
def Misses (find : Int32 → Bool) : Command → Prop
  | .connect _ | .disconnect _ => False
  | .sleep adapterId | .wakeUp adapterId => find adapterId = false

/-- The receiving thread cannot but die. -/
def Doomed (find : Int32 → Bool) (s : Switcher) : Prop :=
  (s.control = .created ∧ s.sOngoingConnectRequest = none) ∨
    ∃ command, Misses find command ∧ (s.control = .checked command ∨ s.control = .switching command)

theorem Guarded.canRest_created (h : s.Guarded) (hat : s.control = .created)
    (hongoing : s.sOngoingConnectRequest ≠ none) : CanRest find s := by
  obtain ⟨adapterId, hsome⟩ := Option.ne_none_iff_exists'.mp hongoing
  have hs : s.step find (.control false) = .ok { s with control := .notConnected .clear } := by
    simp only [Switcher.step, Switcher.controlStep, hat, hsome]
    cases hfind : find adapterId <;> simp [Switcher.startConnect, hfind, hsome]
  exact .step hs ((guarded_step s _ _ h hs).canRest_notConnected rfl)

theorem canRest_slept (hat : s.control = .slept) : CanRest find s := by
  have hs : s.step find (.control true) = .ok { s with mState := .kReady, control := .idle } := by
    rw [Switcher.step, Switcher.controlStep, hat]
  exact .step hs (.here rfl rfl)

theorem Guarded.canRest_switching {command : Command} (h : s.Guarded)
    (hat : s.control = .switching command) (hfound : ¬ Misses find command) : CanRest find s := by
  have hslept : ∀ adapterId, find adapterId = true → command = .sleep adapterId ∨
      command = .wakeUp adapterId → CanRest find s := by
    intro adapterId hfind hcommand
    have hs : s.step find (.control true) = .ok { s with control := .slept } := by
      rcases hcommand with rfl | rfl <;> simp [Switcher.step, Switcher.controlStep, hat, hfind]
    exact .step hs (canRest_slept rfl)
  cases command with
  | connect adapterId =>
    have hs : s.step find (.control true) =
        .ok { s with sOngoingConnectRequest := some adapterId, control := .created } := by
      simp only [Switcher.step, Switcher.controlStep, hat, h.carriedOut adapterId hat]
    exact .step hs ((guarded_step s _ _ h hs).canRest_created rfl nofun)
  | disconnect adapterId =>
    have hs : s.step find (.control true) = .ok (s.begin false) := by
      rw [Switcher.step, Switcher.controlStep, hat]
    exact .step hs ((guarded_step s _ _ h hs).canRest_idle rfl)
  | sleep adapterId => exact hslept adapterId (by simpa [Misses] using hfound) (.inl rfl)
  | wakeUp adapterId => exact hslept adapterId (by simpa [Misses] using hfound) (.inr rfl)

theorem Guarded.canRest (h : s.Guarded) (hdoomed : ¬ Doomed find s) : CanRest find s := by
  cases hat : s.control with
  | idle => exact h.canRest_idle hat
  | checked command =>
    have hfound : ¬ Misses find command := fun hmisses =>
      hdoomed (.inr ⟨command, hmisses, .inl hat⟩)
    have hswitching : s.step find (.control true) =
        .ok { s with mState := .kSwitching, control := .switching command } → CanRest find s :=
      fun hs => .step hs ((guarded_step s _ _ h hs).canRest_switching rfl hfound)
    cases command with
    | disconnect adapterId =>
      cases hfind : find adapterId with
      | true =>
        exact hswitching (by simp [Switcher.step, Switcher.controlStep, hat, hfind])
      | false =>
        have hs : s.step find (.control true) = .ok { s with control := .idle } := by
          simp [Switcher.step, Switcher.controlStep, hat, hfind]
        exact .step hs ((guarded_step s _ _ h hs).canRest_idle rfl)
    | connect adapterId => exact hswitching (by rw [Switcher.step, Switcher.controlStep, hat])
    | sleep adapterId => exact hswitching (by rw [Switcher.step, Switcher.controlStep, hat])
    | wakeUp adapterId => exact hswitching (by rw [Switcher.step, Switcher.controlStep, hat])
  | switching command =>
    exact h.canRest_switching hat fun hmisses => hdoomed (.inr ⟨command, hmisses, .inr hat⟩)
  | created => exact h.canRest_created hat fun hnone => hdoomed (.inl ⟨hat, hnone⟩)
  | notConnected report => exact h.canRest_notConnected hat
  | slept => exact canRest_slept hat

end Control

theorem doomed_step {l : Step} (h : Doomed find s) (hs : s.step find l = .ok s') :
    Doomed find s' := by
  cases l with
  | receive command =>
    rw [Switcher.step] at hs
    split at hs
    · cases hs
    · next hidle =>
      have hidle : s.control = .idle := not_not.mp hidle
      rcases h with ⟨hat, -⟩ | ⟨c, -, hat | hat⟩ <;> rw [hidle] at hat <;> cases hat
  | control accepts =>
    rw [Switcher.step, Switcher.controlStep] at hs
    rcases h with ⟨hat, hnone⟩ | ⟨command, hmisses, hat | hat⟩
    · rw [hat, hnone] at hs
      cases hs
    · rw [hat] at hs
      cases command with
      | connect adapterId | disconnect adapterId => exact absurd hmisses id
      | sleep adapterId | wakeUp adapterId =>
        cases hs
        exact .inr ⟨_, hmisses, .inr rfl⟩
    · rw [hat] at hs
      cases command with
      | connect adapterId | disconnect adapterId => exact absurd hmisses id
      | sleep adapterId | wakeUp adapterId =>
        rw [Misses] at hmisses
        simp [hmisses] at hs
  | operation i =>
    have hkept : s'.control = s.control ∧
        (s.sOngoingConnectRequest = none → s'.sOngoingConnectRequest = none) := by
      rw [Switcher.step, operationStep] at hs
      split at hs
      · cases hs
      · cases hs
        exact ⟨rfl, id⟩
      · next isConnect report hat =>
        cases hs
        refine ⟨reportStep_control isConnect report, fun hnone => ?_⟩
        cases report with
        | clear | setReady | clearAgain => first | rfl | exact hnone
        | getState => cases s.mState <;> exact hnone
    unfold Doomed
    rw [hkept.1]
    exact h.imp_left fun hcreated => ⟨hcreated.1, hkept.2 hcreated.2⟩

/-- Adapter 1 has been connected, and its thread is late: it resets the transaction of adapter 2. -/
def lateReset : List Step :=
  connecting ++ [.operation 0, .operation 0, .operation 0, .operation 0, .receive (.connect 2),
    .control true, .control true, .operation 0]

end Switcher

end NetworkSwitcher
end Android
end VirtualConnection
