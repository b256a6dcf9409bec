import VirtualConnection.Linux.ServerAdapter

/-!
# Linux.Callbacks

The seven operations of `ServerAdapter` with the callback they are given. An operation calls back once
when it comes to the same with every callback: it runs to the callback, or it does not return.

The check at the beginning of the four operations that connect and disconnect does not look for a null
callback; `sleep` reports a sender that is already paused twice; `connect_or_wake_up` does not report
that there is nothing to do.
-/

namespace VirtualConnection
namespace Linux
namespace ServerAdapter

inductive Operation where
  | connect (isSendRequest : Bool)
  | disconnectOnCommand
  | disconnectOnPeerCommand
  | disconnectOnFailure
  | sleep (isSendRequest : Bool)
  | wakeUp (isSendRequest : Bool)
  | connectOrWakeUp (isSendRequest : Bool)
  deriving DecidableEq, Repr

/-- A call of the operation. -/
def Operation.call (o : ℕ → Outcomes) (i : ℕ) (callback : Option Callback) : Operation → Action
  | .connect isSendRequest => ServerAdapter.connect o i callback isSendRequest
  | .disconnectOnCommand => ServerAdapter.disconnectOnCommand o i callback
  | .disconnectOnPeerCommand => ServerAdapter.disconnectOnPeerCommand o i callback
  | .disconnectOnFailure => ServerAdapter.disconnectOnFailure o i callback
  | .sleep isSendRequest => ServerAdapter.sleep i callback isSendRequest
  | .wakeUp isSendRequest => ServerAdapter.wakeUp i callback isSendRequest
  | .connectOrWakeUp isSendRequest => ServerAdapter.connectOrWakeUp o i callback isSendRequest

/-- What the operation is for. -/
def Operation.Goal (a : ServerAdapter) : Operation → Prop
  | .connect _ => a.mState = .kActive
  | .disconnectOnCommand => a.mState = .kDisconnected
  | .disconnectOnPeerCommand => a.mState = .kDisconnected
  | .disconnectOnFailure => a.mState = .kDisconnected
  | .sleep _ => a.mState = .kGoingSleeping ∧ a.isSenderLoopPaused = true
  | .wakeUp _ => a.mState = .kWakingUp ∧ a.isSenderLoopPaused = false
  | .connectOrWakeUp _ =>
    a.mState = .kActive ∨ a.mState = .kWakingUp ∧ a.isSenderLoopPaused = false

/-- The operation is what brought the adapter there. -/
def Operation.TookEffect (op : Operation) (before after : ServerAdapter) : Prop :=
  ¬ op.Goal before ∧ op.Goal after

/-- How an operation ends before its callback is called: it does not return, or there is the result to
be reported. -/
abbrev Ending := Except (Halt × Process) (Bool × Process)

def Ending.report (r : Ending) (i : ℕ) (callback : Callback) : Except (Halt × Process) Process :=
  match r with
  | .error e => .error e
  | .ok (isSuccess, q) => callback i isSuccess q

/-- A non-null callback is called once, with what the operation did, and a null one is not called. -/
def CallsBack (o : ℕ → Outcomes) (i : ℕ) (p : Process) (op : Operation) : (isNull : Bool) → Prop
  | false => ∃ r : Ending, (∀ callback, op.call o i (some callback) p = r.report i callback) ∧
      ∀ isSuccess q, r = .ok (isSuccess, q) →
        (isSuccess = true ↔ op.TookEffect (p.adapters i) (q.adapters i))
  | true => ∀ q, op.call o i none p ≠ .error (.nullCallback, q)

/-- The states, pause flags and callbacks that the operation handles. -/
def Operation.Handles (a : ServerAdapter) (isNull : Bool) : Operation → Prop
  | .connect _ => isNull = false ∨ a.mState = .kDisconnected
  | .disconnectOnCommand => isNull = false ∨ a.Asleep
  | .disconnectOnPeerCommand => isNull = false ∨ a.Asleep
  | .disconnectOnFailure =>
    isNull = false ∨ ¬ (a.mState = .kDisconnected ∨ a.mState = .kDisconnecting)
  | .sleep _ => isNull = true ∨ ¬ (a.mState = .kActive ∧ a.isSenderLoopPaused = true)
  | .wakeUp _ => True
  | .connectOrWakeUp _ => isNull = true ∨ a.mState = .kDisconnected ∨ a.mState = .kSleeping

variable {o : ℕ → Outcomes} {i : ℕ} {p : Process} {isSendRequest : Bool}

/-! ## The internal operations -/

/-- With a callback it ends in `r`, and with a null callback it does not go through the null pointer. -/
structure Reports (act : Option Callback → Except (Halt × Process) Process) (i : ℕ) (r : Ending) :
    Prop where
  nonNull : ∀ callback, act (some callback) = r.report i callback
  null : ∀ q, act none ≠ .error (.nullCallback, q)

namespace Reports

variable {act act' : Option Callback → Except (Halt × Process) Process} {r : Ending}

theorem congr (h : Reports act' i r) (heq : ∀ callback, act callback = act' callback) :
    Reports act i r :=
  ⟨fun callback => (heq _).trans (h.nonNull callback), fun q => heq none ▸ h.null q⟩

theorem callIfSet (i : ℕ) (isSuccess : Bool) (q : Process) :
    Reports (fun callback => callIfSet callback i isSuccess q) i (.ok (isSuccess, q)) :=
  ⟨fun _ => rfl, fun _ h => by cases h⟩

/-- What does not return is not for the callback. -/
theorem halt (i : ℕ) {h : Halt} (q : Process) (hh : h ≠ .nullCallback) :
    Reports (fun _ => .error (h, q)) i (.error (h, q)) :=
  ⟨fun _ => rfl, fun _ he => hh (Prod.mk.inj (Except.error.inj he)).1⟩

end Reports

theorem connectInternal_reports (p : Process) (isSendRequest : Bool) : ∃ isSuccess q,
    Reports (fun callback => connectInternal o i callback isSendRequest p) i (.ok (isSuccess, q)) ∧
      (q.adapters i).mState = if isSuccess then .kActive else .kDisconnected := by
  refine ⟨_, _, Reports.callIfSet i _ _, ?_⟩
  rw [Process.setAdapter_adapters_self]

/-- A disconnection that reports, or does not return: `oldState` is where a failed one ends. -/
def ReportsDisconnect (act : Option Callback → Except (Halt × Process) Process) (i : ℕ)
    (oldState : ServerAdapterState) : Prop :=
  ∃ r, Reports act i r ∧ ∀ isSuccess q, r = .ok (isSuccess, q) →
    (q.adapters i).mState = if isSuccess then .kDisconnected else oldState

theorem ReportsDisconnect.halt (i : ℕ) (oldState : ServerAdapterState) {h : Halt} (q : Process)
    (hh : h ≠ .nullCallback) : ReportsDisconnect (fun _ => .error (h, q)) i oldState :=
  ⟨_, .halt i q hh, fun _ _ h => by cases h⟩

theorem disconnectInternal_reports (p : Process) {oldState : ServerAdapterState}
    (hp : (p.adapters i).mState = oldState) :
    ReportsDisconnect (fun callback => disconnectInternal o i callback p) i oldState := by
  subst hp
  unfold disconnectInternal
  dsimp only
  cases hswitch : (p.setState i .kDisconnecting).switchOngoing with
  | none => exact .halt i _ _ (by decide)
  | some tx =>
    rcases hbody : ((p.setState i .kDisconnecting).adapters i).disconnectInternalBody
      (p.adapters i).mState (o i) with ⟨res, a⟩
    cases res with
    | none => exact .halt i _ _ (by decide)
    | some res =>
      refine ⟨_, .callIfSet i res _, fun isSuccess q h => ?_⟩
      obtain ⟨rfl, rfl⟩ := Prod.mk.inj (Except.ok.inj h)
      rw [Process.setAdapter_adapters_self]

theorem disconnectSleeping_reports (p : Process) (hp : (p.adapters i).mState = .kSleeping) :
    ReportsDisconnect (fun callback => disconnectSleeping o i callback p) i .kSleeping := by
  refine disconnectInternal_reports _ ?_
  rw [Process.send, Process.setAdapter_adapters_self]
  exact hp

theorem disconnectSleepingByPeer_reports (p : Process) (hp : (p.adapters i).mState = .kSleeping) :
    ReportsDisconnect (fun callback => disconnectSleepingByPeer o i callback p) i .kSleeping := by
  unfold disconnectSleepingByPeer
  dsimp only
  split
  · refine disconnectInternal_reports _ ?_
    rw [Process.send, Process.setAdapter_adapters_self]
    exact hp
  · exact .halt i _ _ (by decide)

/-- Both commanded disconnections: the wait for `kSleeping`, and what is done then. -/
theorem waitForSleeping_reports {next : Option Callback → Action}
    (hnext : ∀ p : Process, (p.adapters i).mState = .kSleeping →
      ReportsDisconnect (fun callback => next callback p) i .kSleeping) (p : Process) :
    ReportsDisconnect (fun callback => waitForSleeping o i (next callback) p) i .kSleeping := by
  unfold waitForSleeping
  split
  · refine hnext _ ?_
    rw [Process.setState, Process.setAdapter_adapters_self]
  · exact .halt i _ _ (by decide)

theorem disconnectOnCommand_reports (hasleep : (p.adapters i).Asleep) :
    ReportsDisconnect (fun callback => disconnectOnCommand o i callback p) i .kSleeping := by
  unfold disconnectOnCommand
  rcases hasleep with hs | hs
  · simpa [hs] using disconnectSleeping_reports p hs
  · simpa [hs] using waitForSleeping_reports disconnectSleeping_reports p

theorem disconnectOnPeerCommand_reports (hasleep : (p.adapters i).Asleep) :
    ReportsDisconnect (fun callback => disconnectOnPeerCommand o i callback p) i .kSleeping := by
  unfold disconnectOnPeerCommand
  rcases hasleep with hs | hs
  · simpa [hs] using disconnectSleepingByPeer_reports p hs
  · simpa [hs] using waitForSleeping_reports disconnectSleepingByPeer_reports p

/-! ## Each operation -/

/-- A disconnection calls back when it gets past its check. -/
theorem ReportsDisconnect.callsBack {op : Operation} {oldState : ServerAdapterState} (isNull : Bool)
    (h : ReportsDisconnect (fun callback => op.call o i callback p) i oldState)
    (hgoal : ∀ a : ServerAdapter, op.Goal a ↔ a.mState = .kDisconnected)
    (hbefore : (p.adapters i).mState ≠ .kDisconnected) (hold : oldState ≠ .kDisconnected) :
    CallsBack o i p op isNull := by
  obtain ⟨r, hr, hstate⟩ := h
  cases isNull with
  | true => exact hr.null
  | false =>
    refine ⟨r, hr.nonNull, fun isSuccess q hq => ?_⟩
    have := hstate isSuccess q hq
    rw [Operation.TookEffect, hgoal, hgoal, this]
    cases isSuccess
    · simp [hold]
    · simp [hbefore]

theorem Operation.not_tookEffect_self (op : Operation) (a : ServerAdapter) :
    ¬ op.TookEffect a a := fun h => h.1 h.2

/-- A result that is reported when there is a callback. -/
theorem callsBack_of_callIfSet {op : Operation} (isNull : Bool) {isSuccess : Bool} {q : Process}
    (h : ∀ callback, op.call o i callback p = callIfSet callback i isSuccess q)
    (heffect : isSuccess = true ↔ op.TookEffect (p.adapters i) (q.adapters i)) :
    CallsBack o i p op isNull := by
  have hr : Reports (fun callback => op.call o i callback p) i (.ok (isSuccess, q)) :=
    (Reports.callIfSet i isSuccess q).congr h
  cases isNull with
  | true => exact hr.null
  | false =>
    refine ⟨_, hr.nonNull, fun isSuccess' q' hq => ?_⟩
    obtain ⟨rfl, rfl⟩ := Prod.mk.inj (Except.ok.inj hq)
    exact heffect

/-- The checks of the operations that connect and disconnect. -/
theorem callsBack_of_call {op : Operation} (isNull : Bool)
    (h : ∀ callback, op.call o i callback p = ServerAdapter.call callback i false p) :
    CallsBack o i p op isNull ↔ isNull = false := by
  cases isNull with
  | true =>
    refine ⟨fun hnull => absurd (h none) (hnull p), fun h => by cases h⟩
  | false =>
    refine iff_of_true ⟨.ok (false, p), fun callback => h (some callback), fun isSuccess q hq => ?_⟩ rfl
    obtain ⟨rfl, rfl⟩ := Prod.mk.inj (Except.ok.inj hq)
    simp [op.not_tookEffect_self]

/-- A disconnected adapter is connected, or stays disconnected. -/
theorem connectInternal_callsBack {op : Operation} (isNull : Bool)
    (hs : (p.adapters i).mState = .kDisconnected)
    (h : ∀ callback, op.call o i callback p = connectInternal o i callback isSendRequest p)
    (hactive : ∀ a : ServerAdapter, a.mState = .kActive → op.Goal a)
    (hdisconnected : ∀ a : ServerAdapter, a.mState = .kDisconnected → ¬ op.Goal a) :
    CallsBack o i p op isNull := by
  obtain ⟨isSuccess, q, hr, hstate⟩ := connectInternal_reports (o := o) (i := i) p isSendRequest
  have hr' := hr.congr h
  cases isNull with
  | true => exact hr'.null
  | false =>
    refine ⟨_, hr'.nonNull, fun isSuccess' q' hq => ?_⟩
    obtain ⟨rfl, rfl⟩ := Prod.mk.inj (Except.ok.inj hq)
    cases isSuccess
    · simp [Operation.TookEffect, hdisconnected _ hstate]
    · simp [Operation.TookEffect, hdisconnected _ hs, hactive _ hstate]

theorem connect_callsBack (isNull : Bool) : CallsBack o i p (.connect isSendRequest) isNull ↔
    (Operation.connect isSendRequest).Handles (p.adapters i) isNull := by
  by_cases hs : (p.adapters i).mState = .kDisconnected
  · have hcall : ∀ callback, (Operation.connect isSendRequest).call o i callback p =
        connectInternal o i callback isSendRequest p := by
      simp [Operation.call, connect, hs]
    refine iff_of_true (connectInternal_callsBack isNull hs hcall (fun _ => id) fun a ha => ?_)
      (.inr hs)
    simp [Operation.Goal, ha]
  · rw [callsBack_of_call isNull fun _ => by simp [Operation.call, connect, hs]]
    simp [Operation.Handles, hs]

/-- A commanded disconnection disconnects an adapter that is asleep, and fails its check otherwise. -/
theorem commanded_callsBack {op : Operation} (isNull : Bool)
    (hgoal : ∀ a : ServerAdapter, op.Goal a ↔ a.mState = .kDisconnected)
    (hreports : (p.adapters i).Asleep →
      ReportsDisconnect (fun callback => op.call o i callback p) i .kSleeping)
    (hawake : ¬ (p.adapters i).Asleep →
      ∀ callback, op.call o i callback p = ServerAdapter.call callback i false p) :
    CallsBack o i p op isNull ↔ isNull = false ∨ (p.adapters i).Asleep := by
  by_cases hasleep : (p.adapters i).Asleep
  · refine iff_of_true ((hreports hasleep).callsBack isNull hgoal ?_ (by decide)) (.inr hasleep)
    rcases hasleep with h | h <;> rw [h] <;> decide
  · rw [callsBack_of_call isNull (hawake hasleep)]
    simp [hasleep]

theorem disconnectOnCommand_callsBack (isNull : Bool) :
    CallsBack o i p .disconnectOnCommand isNull ↔
      Operation.disconnectOnCommand.Handles (p.adapters i) isNull := by
  refine commanded_callsBack isNull (fun _ => Iff.rfl) disconnectOnCommand_reports fun hawake _ => ?_
  obtain ⟨hsleeping, hgoing⟩ := not_or.mp hawake
  simp [Operation.call, disconnectOnCommand, hsleeping, hgoing]

theorem disconnectOnPeerCommand_callsBack (isNull : Bool) :
    CallsBack o i p .disconnectOnPeerCommand isNull ↔
      Operation.disconnectOnPeerCommand.Handles (p.adapters i) isNull := by
  refine commanded_callsBack isNull (fun _ => Iff.rfl) disconnectOnPeerCommand_reports
    fun hawake _ => ?_
  obtain ⟨hsleeping, hgoing⟩ := not_or.mp hawake
  simp [Operation.call, disconnectOnPeerCommand, hsleeping, hgoing]

theorem disconnectOnFailure_callsBack (isNull : Bool) :
    CallsBack o i p .disconnectOnFailure isNull ↔
      Operation.disconnectOnFailure.Handles (p.adapters i) isNull := by
  by_cases hoff : (p.adapters i).mState = .kDisconnected ∨ (p.adapters i).mState = .kDisconnecting
  · rw [callsBack_of_call isNull fun _ => by simp [Operation.call, disconnectOnFailure, hoff]]
    simp [Operation.Handles, hoff]
  · refine iff_of_true ?_ (.inr hoff)
    have hstate : (p.adapters i).mState ≠ .kDisconnected := fun h => hoff (.inl h)
    have hr : ReportsDisconnect (fun callback => Operation.disconnectOnFailure.call o i callback p) i
        (p.adapters i).mState := by
      simpa [Operation.call, disconnectOnFailure, hoff] using
        disconnectInternal_reports (o := o) p rfl
    exact hr.callsBack isNull (fun _ => Iff.rfl) hstate hstate

/-- `wake_up` reports whether it has woken a sleeping adapter. -/
theorem wakeUp_eq (p : Process) (isSendRequest : Bool) : ∃ isSuccess q,
    (∀ callback, wakeUp i callback isSendRequest p = callIfSet callback i isSuccess q) ∧
      if isSuccess then (p.adapters i).mState = .kSleeping ∧ (q.adapters i).mState = .kWakingUp ∧
        (q.adapters i).isSenderLoopPaused = false else q = p := by
  unfold wakeUp
  dsimp only
  by_cases hs : (p.adapters i).mState = .kSleeping
  · cases hpaused : (p.adapters i).isSenderLoopPaused with
    | true =>
      refine ⟨true, _, fun _ => by rw [if_neg (not_not.mpr hs), if_pos rfl], hs, ?_⟩
      rw [Process.setAdapter_adapters_self]
      exact ⟨rfl, rfl⟩
    | false =>
      exact ⟨false, p, fun _ => by rw [if_neg (not_not.mpr hs), if_neg Bool.false_ne_true], rfl⟩
  · exact ⟨false, p, fun _ => by rw [if_pos hs], rfl⟩

theorem wakeUp_callsBack_of {op : Operation} (isNull : Bool)
    (h : ∀ callback, op.call o i callback p = wakeUp i callback isSendRequest p)
    (hwakingUp : ∀ a : ServerAdapter, a.mState = .kWakingUp ∧ a.isSenderLoopPaused = false → op.Goal a)
    (hsleeping : ∀ a : ServerAdapter, a.mState = .kSleeping → ¬ op.Goal a) :
    CallsBack o i p op isNull := by
  obtain ⟨isSuccess, q, hcall, hq⟩ := wakeUp_eq (i := i) p isSendRequest
  refine callsBack_of_callIfSet isNull (fun callback => (h callback).trans (hcall callback)) ?_
  cases isSuccess with
  | true => simp [Operation.TookEffect, hsleeping _ hq.1, hwakingUp _ hq.2]
  | false =>
    obtain rfl : q = p := hq
    simp [op.not_tookEffect_self]

theorem wakeUp_callsBack (isNull : Bool) : CallsBack o i p (.wakeUp isSendRequest) isNull := by
  refine wakeUp_callsBack_of isNull (fun _ => rfl) (fun _ => id) fun a ha => ?_
  simp [Operation.Goal, ha]

/-- A callback that leaves a mark. -/
def marking : Callback := fun _ isSuccess p => .ok { p with doneStops := isSuccess :: p.doneStops }

/-- Two calls are not one: the marks that they leave can be counted. -/
theorem not_report_of_twice {r : Ending} :
    ¬ ∀ callback : Callback, (callback i false p >>= callback i true) = r.report i callback := by
  intro hr
  have hmarks := hr marking
  have hsilent := hr fun _ _ p => .ok p
  cases r with
  | error e => cases hsilent
  | ok result =>
    obtain rfl : p = result.2 := Except.ok.inj hsilent
    have hlength := congrArg (fun p => p.doneStops.length) (Except.ok.inj hmarks)
    simp at hlength

/-- A call that never comes is not one. -/
theorem not_report_of_never {r : Ending} :
    ¬ ∀ callback : Callback, .ok p = r.report i callback := by
  intro hr
  have hwaits := hr fun _ _ p => .error (.waits, p)
  cases r <;> cases hwaits

theorem sleep_paused (hs : (p.adapters i).mState = .kActive)
    (hpaused : (p.adapters i).isSenderLoopPaused = true) (callback : Callback) :
    sleep i (some callback) isSendRequest p = callback i false p >>= callback i true := by
  simp only [sleep, callIfSet, hs, hpaused]
  cases callback i false p <;> rfl

theorem sleep_callsBack (isNull : Bool) : CallsBack o i p (.sleep isSendRequest) isNull ↔
    (Operation.sleep isSendRequest).Handles (p.adapters i) isNull := by
  by_cases hs : (p.adapters i).mState = .kActive
  · cases hpaused : (p.adapters i).isSenderLoopPaused with
    | true =>
      cases isNull with
      | true =>
        refine iff_of_true (fun q h => ?_) (.inl rfl)
        simp [Operation.call, sleep, callIfSet, hs, hpaused] at h
      | false =>
        refine iff_of_false ?_ (by simp [Operation.Handles, hs, hpaused])
        rintro ⟨r, hr, -⟩
        exact not_report_of_twice fun callback => (sleep_paused hs hpaused callback).symm.trans
          (hr callback)
    | false =>
      refine iff_of_true ?_ (.inr (by simp [hpaused]))
      have hcall : ∀ callback, (Operation.sleep isSendRequest).call o i callback p =
          callIfSet callback i true ((if isSendRequest then p.send (.sleep (p.adapters i).mId)
            else p).setAdapter i { p.adapters i with
              mState := .kGoingSleeping, isSenderLoopPaused := true }) := by
        simp [Operation.call, sleep, hs, hpaused]
      refine callsBack_of_callIfSet isNull hcall ?_
      rw [Process.setAdapter_adapters_self]
      simp [Operation.TookEffect, Operation.Goal, hs]
  · have hcall : ∀ callback, (Operation.sleep isSendRequest).call o i callback p =
        callIfSet callback i false p := by
      simp [Operation.call, sleep, hs]
    refine iff_of_true (callsBack_of_callIfSet isNull hcall ?_) (.inr (by simp [hs]))
    simp [Operation.not_tookEffect_self]

theorem connectOrWakeUp_callsBack (isNull : Bool) :
    CallsBack o i p (.connectOrWakeUp isSendRequest) isNull ↔
      (Operation.connectOrWakeUp isSendRequest).Handles (p.adapters i) isNull := by
  by_cases hd : (p.adapters i).mState = .kDisconnected
  · have hcall : ∀ callback, (Operation.connectOrWakeUp isSendRequest).call o i callback p =
        connectInternal o i callback isSendRequest p := by
      simp [Operation.call, connectOrWakeUp, connect, hd]
    refine iff_of_true (connectInternal_callsBack isNull hd hcall (fun _ => .inl) fun a ha => ?_)
      (.inr (.inl hd))
    simp [Operation.Goal, ha]
  · by_cases hs : (p.adapters i).mState = .kSleeping
    · have hcall : ∀ callback, (Operation.connectOrWakeUp isSendRequest).call o i callback p =
          wakeUp i callback isSendRequest p := by
        simp [Operation.call, connectOrWakeUp, hs]
      refine iff_of_true (wakeUp_callsBack_of isNull hcall (fun _ => .inr) fun a ha => ?_)
        (.inr (.inr hs))
      simp [Operation.Goal, ha]
    · have hcall : ∀ callback,
          (Operation.connectOrWakeUp isSendRequest).call o i callback p = .ok p := by
        intro callback
        simp [Operation.call, connectOrWakeUp, hd, hs]
      cases isNull with
      | true =>
        refine iff_of_true (fun q h => ?_) (.inl rfl)
        rw [hcall] at h
        cases h
      | false =>
        refine iff_of_false ?_ (by simp [Operation.Handles, hd, hs])
        rintro ⟨r, hr, -⟩
        exact not_report_of_never fun callback => (hcall _).symm.trans (hr callback)

/-- Every operation calls back as it should exactly in the cases that it handles. -/
theorem callsBack_iff (o : ℕ → Outcomes) (i : ℕ) (p : Process) (op : Operation) (isNull : Bool) :
    CallsBack o i p op isNull ↔ op.Handles (p.adapters i) isNull := by
  cases op with
  | connect isSendRequest => exact connect_callsBack isNull
  | disconnectOnCommand => exact disconnectOnCommand_callsBack isNull
  | disconnectOnPeerCommand => exact disconnectOnPeerCommand_callsBack isNull
  | disconnectOnFailure => exact disconnectOnFailure_callsBack isNull
  | sleep isSendRequest => exact sleep_callsBack isNull
  | wakeUp isSendRequest => exact iff_of_true (wakeUp_callsBack isNull) trivial
  | connectOrWakeUp isSendRequest => exact connectOrWakeUp_callsBack isNull

/-- One adapter, which is active. -/
def oneActive (isSenderLoopPaused : Bool) : Process where
  adapters _ := { active 0 with isSenderLoopPaused := isSenderLoopPaused }
  adaptersCount := 1
  mActiveAdapterIndex := 0
  coreState := .kCoreStateReady
  nsState := .kNSStateReady
  switchOngoing := none
  connectOngoing := none
  stopOngoing := none
  requests := []
  starts := 0
  ends := []
  doneStops := []

/-- A connection with a null callback fails in its call, a paused adapter is told twice that it sleeps,
and an active one not at all that it is not to be woken up. -/
theorem callback_null_twice_never :
    ¬ CallsBack (fun _ => .succeed) 0 (oneActive false) (.connect true) true ∧
      ¬ CallsBack (fun _ => .succeed) 0 (oneActive true) (.sleep true) false ∧
      ¬ CallsBack (fun _ => .succeed) 0 (oneActive false) (.connectOrWakeUp true) false := by
  refine ⟨fun h => h _ rfl, ?_, ?_⟩
  · rintro ⟨r, hr, -⟩
    have htwice : ∀ callback, sleep 0 (some callback) true (oneActive true) =
        callback 0 false (oneActive true) >>= callback 0 true := sleep_paused rfl rfl
    exact not_report_of_twice fun callback => (htwice callback).symm.trans (hr callback)
  · rintro ⟨r, hr, -⟩
    exact not_report_of_never hr

end ServerAdapter
end Linux
end VirtualConnection
