import VirtualConnection.Lib.Runs
import VirtualConnection.Linux.PeerCommands

/-!
# Linux.SwitcherThreads

The monitor thread and the control message thread, as they use the state of the network switcher.
Each `get_state`, each `set_state` and the creation of a transaction is a step of its own, and the
steps of the two threads are interleaved. What an operation does to the adapters takes place while
its thread is `working`.

`excluded_iff`: the threads exclude each other in the runs in which no check of the state falls into
one of two gaps of the other thread: between its own check and its change of the state, and between
the end of a transaction's switching state and the reset of the transaction's `sOngoing`.
-/

namespace VirtualConnection
namespace Linux

inductive SwitcherThread where
  | monitor
  | control
  deriving DecidableEq, Repr

/-- What a thread asks for: `switch_adapters`, or a command of the peer. -/
inductive SwitcherRequest where
  | switch
  | peer (command : PeerCommand)
  deriving DecidableEq, Repr

namespace SwitcherRequest

def thread : SwitcherRequest → SwitcherThread
  | switch => .monitor
  | peer _ => .control

/-- It is carried out by a transaction with an `sOngoing`. -/
def IsTransaction : SwitcherRequest → Prop
  | switch | peer .connect => True
  | peer _ => False

instance : DecidablePred IsTransaction := fun r =>
  match r with
  | switch | peer .connect => .isTrue trivial
  | peer .disconnect | peer .sleep | peer .wakeUp => .isFalse id

end SwitcherRequest

inductive SwitcherPhase where
  | idle
  /-- `get_state` has said that the switcher is ready. -/
  | checked (request : SwitcherRequest)
  /-- The state has been set to switching. -/
  | switching (request : SwitcherRequest)
  | working (request : SwitcherRequest)
  /-- `done_switch` has seen that the state is switching. -/
  | resetting (request : SwitcherRequest)
  /-- `done_switch` is over, and `sOngoing` is not yet `NULL`. -/
  | clearing (request : SwitcherRequest)
  /-- There was another transaction: the request is dropped, and `done_switch` called. -/
  | refused (request : SwitcherRequest)
  /-- The same, after `done_switch` has seen that the state is switching. -/
  | refusedResetting (request : SwitcherRequest)
  deriving DecidableEq, Repr

structure Switcher where
  mState : NSState
  /-- `sOngoing` of `SwitchAdapterTransaction` and of `ConnectRequestTransaction`, by its request. -/
  isOngoing : SwitcherRequest → Bool
  phases : SwitcherThread → SwitcherPhase

inductive SwitcherStep where
  | check (request : SwitcherRequest)
  /-- There is nothing to do: no switch is decided on, or there is no such adapter. -/
  | giveUp (thread : SwitcherThread)
  | setSwitching (thread : SwitcherThread)
  /-- The transaction's `run`, or the call of the adapter's operation. -/
  | run (thread : SwitcherThread)
  /-- The operation is over; a transaction goes on with `get_state` in `done_switch`. -/
  | finish (thread : SwitcherThread)
  | setReady (thread : SwitcherThread)
  | clear (thread : SwitcherThread)

namespace Switcher

variable (s : Switcher)

def goTo (thread : SwitcherThread) (phase : SwitcherPhase) : Switcher :=
  { s with phases := Function.update s.phases thread phase }

def check (request : SwitcherRequest) : Switcher :=
  match s.mState with
  | .kNSStateSwitching => s
  | .kNSStateReady => s.goTo request.thread (.checked request)

def run (thread : SwitcherThread) (request : SwitcherRequest) : Switcher :=
  if request.IsTransaction then
    if s.isOngoing request then s.goTo thread (.refused request)
    else { s with isOngoing := Function.update s.isOngoing request true }.goTo thread
      (.working request)
  else s.goTo thread (.working request)

/-- `get_state` in `done_switch`. -/
def seeState (thread : SwitcherThread) (seen unseen : SwitcherPhase) : Switcher :=
  match s.mState with
  | .kNSStateSwitching => s.goTo thread seen
  | .kNSStateReady => s.goTo thread unseen

def finish (thread : SwitcherThread) (request : SwitcherRequest) : Switcher :=
  match request with
  | .switch | .peer .connect => s.seeState thread (.resetting request) (.clearing request)
  | .peer .disconnect => s.goTo thread .idle
  | .peer .sleep | .peer .wakeUp => { s with mState := .kNSStateReady }.goTo thread .idle

def step (s : Switcher) : SwitcherStep → Except Unit Switcher
  | .check request =>
    match s.phases request.thread with
    | .idle => .ok (s.check request)
    | _ => .error ()
  | .giveUp thread =>
    match s.phases thread with
    | .checked _ => .ok (s.goTo thread .idle)
    | _ => .error ()
  | .setSwitching thread =>
    match s.phases thread with
    | .checked request =>
      .ok ({ s with mState := .kNSStateSwitching }.goTo thread (.switching request))
    | _ => .error ()
  | .run thread =>
    match s.phases thread with
    | .switching request => .ok (s.run thread request)
    | _ => .error ()
  | .finish thread =>
    match s.phases thread with
    | .working request => .ok (s.finish thread request)
    | .refused request => .ok (s.seeState thread (.refusedResetting request) .idle)
    | _ => .error ()
  | .setReady thread =>
    match s.phases thread with
    | .resetting request => .ok ({ s with mState := .kNSStateReady }.goTo thread (.clearing request))
    | .refusedResetting _ => .ok ({ s with mState := .kNSStateReady }.goTo thread .idle)
    | _ => .error ()
  | .clear thread =>
    match s.phases thread with
    | .clearing request =>
      .ok ({ s with isOngoing := Function.update s.isOngoing request false }.goTo thread .idle)
    | _ => .error ()

/-! ## What is claimed, and when it holds -/

/-- An operation that has begun and is not over has the switcher in the switching state; it is between
its own two changes of the state. -/
def Works : SwitcherPhase → Prop
  | .switching _ | .working _ | .resetting _ => True
  | _ => False

/-- The request has been dropped. -/
def Drops : SwitcherPhase → Prop
  | .refused _ | .refusedResetting _ => True
  | _ => False

/-- At most one operation is past its check and not finished; the switcher is switching while it works;
and it is not dropped. -/
def Excluded (s : Switcher) : Prop :=
  (s.phases .monitor = .idle ∨ s.phases .control = .idle) ∧
    ∀ thread, (Works (s.phases thread) → s.mState = .kNSStateSwitching) ∧ ¬ Drops (s.phases thread)

def other : SwitcherThread → SwitcherThread
  | .monitor => .control
  | .control => .monitor

/-- The thread is past its check and has not changed the state, or it has changed it back and has not
reset its `sOngoing`. -/
def InGap : SwitcherPhase → Prop
  | .checked _ | .clearing _ => True
  | _ => False

/-- A check that finds the switcher ready does not fall into a gap of the other thread. -/
def Careful (s : Switcher) : SwitcherStep → Prop
  | .check request => s.mState = .kNSStateReady → ¬ InGap (s.phases (other request.thread))
  | _ => True

def request : SwitcherPhase → Option SwitcherRequest
  | .idle => none
  | .checked r | .switching r | .working r | .resetting r | .clearing r | .refused r
  | .refusedResetting r => some r

/-- The transaction of the request is there. -/
def Holds (r : SwitcherRequest) : SwitcherPhase → Prop
  | .working r' | .resetting r' | .clearing r' => r' = r
  | _ => False

structure Guarded (s : Switcher) : Prop where
  excluded : Excluded s
  own : ∀ thread r, request (s.phases thread) = some r → r.thread = thread
  ongoing : ∀ r, s.isOngoing r = true → Holds r (s.phases r.thread)
  transaction : ∀ r, s.isOngoing r = true → r.IsTransaction

variable {s : Switcher} {thread : SwitcherThread}

@[simp] theorem goTo_phases_self (phase : SwitcherPhase) :
    (s.goTo thread phase).phases thread = phase := Function.update_self ..

@[simp] theorem goTo_phases_other (phase : SwitcherPhase) :
    (s.goTo thread phase).phases (other thread) = s.phases (other thread) := by
  cases thread <;> simp [goTo, other]

theorem eq_or_eq_other (thread k : SwitcherThread) : k = thread ∨ k = other thread := by
  cases thread <;> cases k <;> simp [other]

/-- While a thread is at a request, the other one is not. -/
theorem Guarded.other_idle {phase : SwitcherPhase} (h : Guarded s) (hphase : s.phases thread = phase)
    (hbusy : phase ≠ .idle) : s.phases (other thread) = .idle := by
  rw [← hphase] at hbusy
  cases thread with
  | monitor => exact h.excluded.1.resolve_left hbusy
  | control => exact h.excluded.1.resolve_right hbusy

theorem guarded_goTo {phase : SwitcherPhase} (hidle : s.phases (other thread) = .idle)
    (hworks : Works phase → s.mState = .kNSStateSwitching) (hdrops : ¬ Drops phase)
    (hown : ∀ r, request phase = some r → r.thread = thread)
    (hongoing : ∀ r, s.isOngoing r = true → Holds r phase)
    (htransaction : ∀ r, s.isOngoing r = true → r.IsTransaction) :
    Guarded (s.goTo thread phase) := by
  have hother : (s.goTo thread phase).phases (other thread) = .idle := by simp [hidle]
  refine ⟨⟨?_, fun k => ?_⟩, fun k r hr => ?_, fun r hr => ?_, htransaction⟩
  · cases thread with
    | monitor => exact .inr hother
    | control => exact .inl hother
  · rcases eq_or_eq_other thread k with rfl | rfl
    · rw [goTo_phases_self]
      exact ⟨hworks, hdrops⟩
    · rw [hother]
      exact ⟨nofun, nofun⟩
  · rcases eq_or_eq_other thread k with rfl | rfl
    · exact hown r (by simpa using hr)
    · rw [hother] at hr
      cases hr
  · have hholds := hongoing r hr
    have hthread : r.thread = thread := by
      refine hown r ?_
      cases phase <;> simp_all [Holds, request]
    rw [hthread, goTo_phases_self]
    exact hholds

/-- The transaction that is going on is the one of the thread that is at a request. -/
theorem Guarded.holds {phase : SwitcherPhase} (h : Guarded s) (hphase : s.phases thread = phase)
    (hbusy : phase ≠ .idle) {r : SwitcherRequest} (hr : s.isOngoing r = true) : Holds r phase := by
  have hholds := h.ongoing r hr
  rcases eq_or_eq_other thread r.thread with hthread | hthread
  · rwa [hthread, hphase] at hholds
  · rw [hthread, h.other_idle hphase hbusy] at hholds
    cases hholds

theorem guarded_check {r : SwitcherRequest} (h : Guarded s) (hcareful : Careful s (.check r))
    (hidle : s.phases r.thread = .idle) : Guarded (s.check r) := by
  unfold check
  cases hstate : s.mState with
  | kNSStateSwitching => exact h
  | kNSStateReady =>
    have hother : s.phases (other r.thread) = .idle := by
      have hgap := hcareful hstate
      obtain ⟨hworks, hdrops⟩ := h.excluded.2 (other r.thread)
      rw [hstate] at hworks
      cases hphase : s.phases (other r.thread) <;> simp_all [InGap, Works, Drops]
    refine guarded_goTo hother nofun id (fun r' hr' => ?_) (fun r' hr' => ?_) h.transaction
    · obtain rfl : r = r' := Option.some.inj hr'
      rfl
    · have hholds := h.ongoing r' hr'
      rcases eq_or_eq_other r.thread r'.thread with hthread | hthread
      · rw [hthread, hidle] at hholds
        cases hholds
      · rw [hthread, hother] at hholds
        cases hholds

theorem guarded_run {r : SwitcherRequest} (h : Guarded s) (hphase : s.phases thread = .switching r) :
    Guarded (s.run thread r) := by
  have hidle := h.other_idle hphase nofun
  have hown : ∀ r', request (.working r) = some r' → r'.thread = thread := fun r' hr' =>
    h.own thread r' (by rw [hphase]; exact hr')
  have hnone : ∀ r', s.isOngoing r' ≠ true := by
    intro r' hr'
    have hholds := h.holds hphase nofun hr'
    cases hholds
  have hstate : s.mState = .kNSStateSwitching := (h.excluded.2 thread).1 (by rw [hphase]; trivial)
  unfold run
  split
  · rename_i htransaction
    rw [if_neg (hnone r)]
    refine guarded_goTo hidle (fun _ => hstate) id hown (fun r' hr' => ?_) (fun r' hr' => ?_)
    · by_cases hrr : r' = r
      · exact hrr.symm
      · exact absurd (by simpa [hrr] using hr') (hnone r')
    · by_cases hrr : r' = r
      · rw [hrr]
        exact htransaction
      · exact absurd (by simpa [hrr] using hr') (hnone r')
  · exact guarded_goTo hidle (fun _ => hstate) id hown (fun r' hr' => absurd hr' (hnone r'))
      h.transaction

theorem guarded_finish {r : SwitcherRequest} (h : Guarded s) (hphase : s.phases thread = .working r) :
    Guarded (s.finish thread r) := by
  have hidle := h.other_idle hphase nofun
  have hstate : s.mState = .kNSStateSwitching := (h.excluded.2 thread).1 (by rw [hphase]; trivial)
  have hholds : ∀ r', s.isOngoing r' = true → r = r' := by
    intro r' hr'
    exact h.holds hphase nofun hr'
  have htx : ∀ r', request (.resetting r) = some r' → r'.thread = thread := fun r' hr' =>
    h.own thread r' (by rw [hphase]; exact hr')
  have hnone : ¬ r.IsTransaction → ∀ r', s.isOngoing r' ≠ true := fun hr r' hr' =>
    hr (hholds r' hr' ▸ h.transaction r' hr')
  unfold finish seeState
  rw [hstate]
  split
  · exact guarded_goTo hidle (fun _ => hstate) id htx hholds h.transaction
  · exact guarded_goTo hidle (fun _ => hstate) id htx hholds h.transaction
  · exact guarded_goTo hidle nofun id nofun (fun r' hr' => absurd hr' (hnone id r')) h.transaction
  · exact guarded_goTo (s := { s with mState := .kNSStateReady }) hidle nofun id nofun
      (fun r' hr' => absurd hr' (hnone id r')) h.transaction
  · exact guarded_goTo (s := { s with mState := .kNSStateReady }) hidle nofun id nofun
      (fun r' hr' => absurd hr' (hnone id r')) h.transaction

theorem guarded_step {s' : Switcher} {l : SwitcherStep} (h : Guarded s) (hcareful : Careful s l)
    (hs : step s l = .ok s') : Guarded s' := by
  cases l with
  | check r =>
    simp only [step] at hs
    split at hs
    · obtain rfl := Except.ok.inj hs
      exact guarded_check h hcareful ‹_›
    · cases hs
  | giveUp thread =>
    simp only [step] at hs
    split at hs
    · rename_i r hphase
      obtain rfl := Except.ok.inj hs
      refine guarded_goTo (h.other_idle hphase nofun) nofun id nofun (fun r' hr' => ?_) h.transaction
      cases h.holds hphase nofun hr'
    · cases hs
  | setSwitching thread =>
    simp only [step] at hs
    split at hs
    · rename_i r hphase
      obtain rfl := Except.ok.inj hs
      refine guarded_goTo (s := { s with mState := .kNSStateSwitching }) (h.other_idle hphase nofun)
        (fun _ => rfl) id (fun r' hr' => ?_) (fun r' hr' => ?_) h.transaction
      · exact h.own thread r' (by rw [hphase]; exact hr')
      · cases h.holds hphase nofun hr'
    · cases hs
  | run thread =>
    simp only [step] at hs
    split at hs
    · obtain rfl := Except.ok.inj hs
      exact guarded_run h ‹_›
    · cases hs
  | finish thread =>
    simp only [step] at hs
    split at hs
    · obtain rfl := Except.ok.inj hs
      exact guarded_finish h ‹_›
    · rename_i r hphase
      exact absurd (by rw [hphase]; trivial) (h.excluded.2 thread).2
    · cases hs
  | setReady thread =>
    simp only [step] at hs
    split at hs
    · rename_i r hphase
      obtain rfl := Except.ok.inj hs
      refine guarded_goTo (s := { s with mState := .kNSStateReady }) (h.other_idle hphase nofun)
        nofun id (fun r' hr' => ?_) (fun r' hr' => ?_) h.transaction
      · exact h.own thread r' (by rw [hphase]; exact hr')
      · exact h.holds hphase nofun hr'
    · rename_i r hphase
      exact absurd (by rw [hphase]; trivial) (h.excluded.2 thread).2
    · cases hs
  | clear thread =>
    simp only [step] at hs
    split at hs
    · rename_i r hphase
      obtain rfl := Except.ok.inj hs
      have hnone : ∀ r', Function.update s.isOngoing r false r' ≠ true := by
        intro r' hr'
        by_cases hrr : r' = r
        · simp [hrr] at hr'
        · have hh := h.holds hphase nofun (r := r') (by simpa [hrr] using hr')
          exact hrr hh.symm
      exact guarded_goTo (s := { s with isOngoing := Function.update s.isOngoing r false })
        (h.other_idle hphase nofun) nofun id nofun (fun r' hr' => absurd hr' (hnone r'))
        (fun r' hr' => absurd hr' (hnone r'))
    · cases hs

theorem not_excluded_step {s' : Switcher} {l : SwitcherStep} (hcareless : ¬ Careful s l)
    (hs : step s l = .ok s') : ¬ Excluded s' := by
  cases l with
  | check r =>
    simp only [Careful, not_forall, not_not] at hcareless
    obtain ⟨hready, hgap⟩ := hcareless
    simp only [step] at hs
    split at hs
    · obtain rfl := Except.ok.inj hs
      have hcheck : s.check r = s.goTo r.thread (.checked r) := by
        unfold check
        rw [hready]
      have hself : (s.check r).phases r.thread ≠ .idle := by simp [hcheck]
      have hother : (s.check r).phases (other r.thread) ≠ .idle := by
        rw [hcheck, goTo_phases_other]
        intro hidle
        rw [hidle] at hgap
        cases hgap
      rintro ⟨h, -⟩
      cases r <;> rcases h with h | h
      · exact hself h
      · exact hother h
      · exact hother h
      · exact hself h
    · cases hs
  | giveUp | setSwitching | run | finish | setReady | clear => exact absurd trivial hcareless

def init (mState : NSState) : Switcher where
  mState := mState
  isOngoing _ := false
  phases _ := .idle

theorem guarded_init (mState : NSState) : Guarded (init mState) :=
  ⟨⟨.inl rfl, fun _ => ⟨nofun, nofun⟩⟩, nofun, nofun, nofun⟩

theorem excluded_iff (mState : NSState) (ls : List SwitcherStep) :
    (∀ t, Runs.Reached step (init mState) ls t → Excluded t) ↔
      Runs.AllSteps step Careful (init mState) ls :=
  Runs.throughout_iff_allSteps (fun _ h => h.excluded)
    (fun _ _ _ h hcareful hs => guarded_step h hcareful hs)
    (fun _ _ _ _ hcareless hs => not_excluded_step hcareless hs) (guarded_init mState)

/-- Both threads see that the switcher is ready, and both work on the adapters. -/
theorem both_working : ∃ t, Runs.Reached step (init .kNSStateReady)
    [.check .switch, .check (.peer .connect), .setSwitching .monitor, .setSwitching .control,
      .run .monitor, .run .control] t ∧
    t.phases .monitor = .working .switch ∧ t.phases .control = .working (.peer .connect) ∧
    ¬ Excluded t := by
  obtain ⟨t, hr, hview⟩ : ∃ t, Runs.run step (init .kNSStateReady)
      [.check .switch, .check (.peer .connect), .setSwitching .monitor, .setSwitching .control,
        .run .monitor, .run .control] = .ok t ∧
      (t.phases .monitor, t.phases .control) = (.working .switch, .working (.peer .connect)) :=
    Runs.exists_run_of_view (fun t : Switcher => (t.phases .monitor, t.phases .control))
      (by decide +kernel)
  simp only [Prod.mk.injEq] at hview
  refine ⟨t, .of_run hr, hview.1, hview.2, fun h => ?_⟩
  rcases h.1 with h | h
  · cases hview.1.symm.trans h
  · cases hview.2.symm.trans h

end Switcher

end Linux
end VirtualConnection
