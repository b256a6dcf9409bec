import VirtualConnection.Linux.NetworkSwitcher

/-!
# Linux.Reconnect

`ReconnectAdapterTransaction` of `NetworkSwitcher.cpp`: a sender or receiver loop that ended without
a command disconnects its adapter and connects it again.

* `ServerAdapter.connectReport`, `ServerAdapter.disconnectReport` — `connect` and
  `disconnect_on_failure` up to the call of the callback.
* `start`, `done`, `disconnectCallback` — the transaction. The callbacks are called before `connect`
  and `disconnect_on_failure` return, so the functions call one another; the number they take bounds
  how deep.
* `reconnectAdapter` — `reconnect_adapter`, with its wait for another switch.

Both operations are given `disconnect_callback`; nothing is given `connect_callback`.
-/

namespace VirtualConnection
namespace Linux

/-! ## Up to the callback -/

/-- `is_success` and the process when the callback is called. -/
abbrev Report := Except (Halt × Process) (Bool × Process)

namespace ServerAdapter

variable (o : Outcomes) (i : ℕ)

def connectReport (isSendRequest : Bool) (p : Process) : Report :=
  if (p.adapters i).mState ≠ .kDisconnected then .ok (false, p)
  else
    let r := { p.adapters i with mState := .kConnecting }.connectInternalBody o isSendRequest
    .ok (r.1, p.setAdapter i { r.2 with mState := if r.1 then .kActive else .kDisconnected })

def disconnectReport (p : Process) : Report :=
  let oldState := (p.adapters i).mState
  if oldState = .kDisconnected ∨ oldState = .kDisconnecting then .ok (false, p)
  else
    let p := p.setState i .kDisconnecting
    match p.switchOngoing with
    | none => .error (.nullSwitch, p)
    | some _ =>
      match (p.adapters i).disconnectInternalBody oldState o with
      | (none, a) => .error (.waits, p.setAdapter i a)
      | (some res, a) =>
        .ok (res, p.setAdapter i { a with
          mState := if res then .kDisconnected else oldState
          mIsDisconnectingOnPurpose := false
          mIsDisconnectingOnPurposePeer := false })

theorem connect_eq (o : ℕ → Outcomes) (callback : Callback) (isSendRequest : Bool) (p : Process) :
    connect o i (some callback) isSendRequest p =
      connectReport (o i) i isSendRequest p >>= fun r => callback i r.1 r.2 := by
  unfold connect connectReport
  split <;> rfl

theorem disconnectOnFailure_eq (o : ℕ → Outcomes) (callback : Callback) (p : Process) :
    disconnectOnFailure o i (some callback) p =
      disconnectReport (o i) i p >>= fun r => callback i r.1 r.2 := by
  unfold disconnectOnFailure disconnectReport disconnectInternal
  by_cases hstate : (p.adapters i).mState = .kDisconnected ∨ (p.adapters i).mState = .kDisconnecting
  · simp only [if_pos hstate]
    rfl
  · simp only [if_neg hstate]
    rcases (p.setState i .kDisconnecting).switchOngoing with _ | _
    · rfl
    · dsimp only
      rcases ServerAdapter.disconnectInternalBody _ _ _ with ⟨_ | _, _⟩ <;> rfl

end ServerAdapter

/-! ## The transaction -/

structure ReconnectAdapterTransaction where
  mTargetAdapter : Option ℕ
  deriving DecidableEq, Repr

/-- `ongoing` is `sOngoing`. `attempts` counts the calls of `connect` and `disconnect_on_failure`,
and `connects` has what each `connect` came to; no code reads them. -/
structure Reconnection where
  process : Process
  ongoing : Option ReconnectAdapterTransaction
  attempts : ℕ
  connects : List Bool

inductive ReconnectHalt where
  | adapter (h : Halt)
  /-- `ReconnectAdapterTransaction::sOngoing` is `NULL`. -/
  | nullReconnect
  /-- The bound on the calls is too small. -/
  | unfinished
  deriving DecidableEq, Repr

abbrev ReconnectAction := Reconnection → Except (ReconnectHalt × Reconnection) Reconnection

namespace Reconnection

def doneSwitch (s : Reconnection) : Reconnection := { s with process := s.process.doneSwitch }

def attempted (s : Reconnection) (p : Process) : Reconnection :=
  { s with process := p, attempts := s.attempts + 1 }

/-- An operation on an adapter, and its callback. -/
def attempt (report : Process → Report) (callback : Bool → ReconnectAction) :
    ReconnectAction := fun s =>
  match report s.process with
  | .error (h, p) => .error (.adapter h, s.attempted p)
  | .ok (isSuccess, p) => callback isSuccess (s.attempted p)

end Reconnection

namespace ReconnectAdapterTransaction

open Reconnection

-- What the world outside answers to each attempt.
variable (answers : ℕ → Outcomes)

/-- `disconnect_on_failure(disconnect_callback)`. -/
def disconnectOnFailure (callback : Bool → ReconnectAction) (i : ℕ) : ReconnectAction := fun s =>
  attempt (ServerAdapter.disconnectReport (answers s.attempts) i) callback s

/-- `connect(disconnect_callback, false)`. -/
def connect (callback : Bool → ReconnectAction) (i : ℕ) : ReconnectAction := fun s =>
  attempt (ServerAdapter.connectReport (answers s.attempts) i false)
    (fun isSuccess s => callback isSuccess { s with connects := s.connects ++ [isSuccess] }) s

mutual

def done : ℕ → ReconnectAdapterTransaction → Bool → ReconnectAction
  | 0, _, _, s => .error (.unfinished, s)
  | depth + 1, tx, requireRestart, s =>
    let s := { s with ongoing := none }
    if requireRestart then start depth tx s else .ok s.doneSwitch

def start : ℕ → ReconnectAdapterTransaction → ReconnectAction
  | 0, _, s => .error (.unfinished, s)
  | depth + 1, tx, s =>
    match tx.mTargetAdapter with
    | none => done depth tx true s
    | some i => disconnectOnFailure answers (disconnectCallback depth) i s

/-- The callback of the disconnection, and of the connection as well. -/
def disconnectCallback : ℕ → Bool → ReconnectAction
  | 0, _, s => .error (.unfinished, s)
  | depth + 1, isSuccess, s =>
    match s.ongoing with
    | none => .error (.nullReconnect, s)
    | some tx =>
      if isSuccess = false then done depth tx true s
      else
        match tx.mTargetAdapter with
        | none => done depth tx true s
        | some i => connect answers (disconnectCallback depth) i s

end

def run (depth : ℕ) (targetAdapter : Option ℕ) : ReconnectAction := fun s =>
  match s.ongoing with
  | none => start answers depth ⟨targetAdapter⟩ { s with ongoing := some ⟨targetAdapter⟩ }
  | some _ => .ok s.doneSwitch

end ReconnectAdapterTransaction

/-- The list has what the other threads make of the state during each `sleep(1)`. -/
def NetworkSwitcher.reconnectAdapter (answers : ℕ → Outcomes) (depth i : ℕ)
    (retryIfAlreadySwitching : Bool) : List Reconnection → ReconnectAction
  | later, s =>
    if retryIfAlreadySwitching = true ∧ s.process.nsState = .kNSStateSwitching then
      match later with
      | [] => .error (.adapter .waits, s)
      | s :: later => reconnectAdapter answers depth i retryIfAlreadySwitching later s
    else
      ReconnectAdapterTransaction.run answers depth (some i)
        { s with process := { s.process with nsState := .kNSStateSwitching } }

/-! ## What the attempts do -/

/-- `disconnect_on_failure` has nothing to do. -/
def ServerAdapter.Down (a : ServerAdapter) : Prop :=
  a.mState = .kDisconnected ∨ a.mState = .kDisconnecting

/-- A disconnection of adapter `i` does not go through the null pointer of a switch. -/
def Process.Guarded (p : Process) (i : ℕ) : Prop := (p.adapters i).Down ∨ p.switchOngoing ≠ none

instance (a : ServerAdapter) : Decidable a.Down := inferInstanceAs (Decidable (_ ∨ _))
instance (p : Process) (i : ℕ) : Decidable (p.Guarded i) := inferInstanceAs (Decidable (_ ∨ _))

namespace ServerAdapter

variable {o : Outcomes} {i : ℕ} {p : Process}

/-- A disconnection is refused, goes through the null pointer of a switch, waits or reports. -/
theorem disconnectReport_cases (o : Outcomes) (i : ℕ) (p : Process) :
    (p.adapters i).Down ∧ disconnectReport o i p = .ok (false, p) ∨
      ¬ (p.adapters i).Down ∧ p.switchOngoing = none ∧
        disconnectReport o i p = .error (.nullSwitch, p.setState i .kDisconnecting) ∨
      ¬ (p.adapters i).Down ∧ p.switchOngoing ≠ none ∧ ∃ q : Process,
        q.switchOngoing = p.switchOngoing ∧
          (o.loopsEnd = false ∧ disconnectReport o i p = .error (.waits, q) ∨
            ∃ res, disconnectReport o i p = .ok (res, q)) := by
  by_cases hdown : (p.adapters i).Down
  · exact .inl ⟨hdown, if_pos hdown⟩
  have hstate : ¬ ((p.adapters i).mState = .kDisconnected ∨
    (p.adapters i).mState = .kDisconnecting) := hdown
  rcases hon : p.switchOngoing with _ | tx
  · have hset : (p.setState i .kDisconnecting).switchOngoing = none := hon
    refine .inr (.inl ⟨hdown, rfl, ?_⟩)
    unfold disconnectReport
    simp only [if_neg hstate, hset]
  · have hset : (p.setState i .kDisconnecting).switchOngoing = some tx := hon
    have hfst := disconnectInternalBody_fst (a := (p.setState i .kDisconnecting).adapters i)
      (o := o) (p.adapters i).mState
    unfold disconnectReport
    simp only [if_neg hstate, hset]
    rcases hbody : ((p.setState i .kDisconnecting).adapters i).disconnectInternalBody
      (p.adapters i).mState o with ⟨_ | res, a⟩
    · refine .inr (.inr ⟨hdown, Option.some_ne_none tx, _, ?_, .inl ⟨?_, rfl⟩⟩)
      · exact hset
      · cases hends : o.loopsEnd with
        | false => rfl
        | true =>
          rw [hbody, if_pos hends] at hfst
          split at hfst <;> cases hfst
    · refine .inr (.inr ⟨hdown, Option.some_ne_none tx, _, ?_, .inr ⟨res, rfl⟩⟩)
      exact hset

/-- A connection does not wait, and the adapter is Active when it succeeded. -/
theorem connectReport_cases (isSendRequest : Bool) (p : Process) : ∃ res q,
    connectReport o i isSendRequest p = .ok (res, q) ∧ q.switchOngoing = p.switchOngoing ∧
      (res = true → (q.adapters i).mState = .kActive) := by
  unfold connectReport
  split
  · exact ⟨false, p, rfl, rfl, fun h => absurd h Bool.false_ne_true⟩
  · refine ⟨_, _, rfl, rfl, fun h => ?_⟩
    rw [Process.setAdapter_adapters_self]
    exact if_pos h

theorem disconnectReport_guarded {res : Bool} {q : Process}
    (h : disconnectReport o i p = .ok (res, q)) (hp : p.Guarded i) : q.Guarded i := by
  rcases disconnectReport_cases o i p with
    ⟨-, he⟩ | ⟨-, -, he⟩ | ⟨-, hon, r, hr, ⟨-, he⟩ | ⟨res', he⟩⟩ <;> rw [he] at h <;> cases h
  · exact hp
  · exact .inr (hr ▸ hon)

theorem connectReport_active (isSendRequest : Bool) (hactive : (p.adapters i).mState = .kActive) :
    connectReport o i isSendRequest p = .ok (false, p) := by
  unfold connectReport
  rw [if_pos (by simp [hactive])]

end ServerAdapter

/-! ## No call returns -/

namespace Reconnection

def NeverReturns (f : ReconnectAction) : Prop := ∀ s s', f s ≠ .ok s'

theorem attempt_neverReturns (report : Process → Report) {callback : Bool → ReconnectAction}
    (hcallback : ∀ isSuccess, NeverReturns (callback isSuccess)) :
    NeverReturns (attempt report callback) := by
  intro s s'
  unfold attempt
  rcases report s.process with ⟨h, p⟩ | ⟨isSuccess, p⟩
  · intro h
    cases h
  · exact hcallback isSuccess _ s'

end Reconnection

namespace ReconnectAdapterTransaction

open Reconnection

variable {answers : ℕ → Outcomes} {depth i : ℕ} {tx : ReconnectAdapterTransaction}
  {s : Reconnection}

theorem disconnectCallback_cleared (hcleared : s.ongoing = none) (isSuccess : Bool) :
    disconnectCallback answers (depth + 1) isSuccess s = .error (.nullReconnect, s) := by
  simp only [disconnectCallback, hcleared]

theorem disconnectCallback_failure (hon : s.ongoing = some tx) :
    disconnectCallback answers (depth + 1) false s = done answers depth tx true s := by
  simp only [disconnectCallback, hon, if_true]

theorem disconnectCallback_success (hon : s.ongoing = some ⟨some i⟩) :
    disconnectCallback answers (depth + 1) true s =
      connect answers (disconnectCallback answers depth) i s := by
  simp only [disconnectCallback, hon, Bool.true_eq_false, if_false]

/-- A failure starts the transaction again, and so does a success, which is told to the callback of
the disconnection. -/
theorem never_returns (answers : ℕ → Outcomes) (depth : ℕ) :
    (∀ tx, NeverReturns (start answers depth tx)) ∧
      (∀ tx, NeverReturns (done answers depth tx true)) ∧
      ∀ isSuccess, NeverReturns (disconnectCallback answers depth isSuccess) := by
  induction depth with
  | zero =>
    refine ⟨fun tx s s' => ?_, fun tx s s' => ?_, fun isSuccess s s' => ?_⟩
    · simp [start]
    · simp [done]
    · simp [disconnectCallback]
  | succ depth ih =>
    obtain ⟨hstart, hdone, hcallback⟩ := ih
    refine ⟨fun tx s s' => ?_, fun tx s s' => ?_, fun isSuccess s s' => ?_⟩
    · rw [start]
      rcases tx.mTargetAdapter with _ | i
      · exact hdone tx s s'
      · exact attempt_neverReturns _ hcallback s s'
    · rw [done]
      exact hstart tx _ s'
    · rcases hon : s.ongoing with _ | ⟨_ | i⟩
      · rw [disconnectCallback_cleared hon]
        intro h
        cases h
      · simp only [disconnectCallback, hon, ite_self]
        exact hdone _ s s'
      · cases isSuccess with
        | false =>
          rw [disconnectCallback_failure hon]
          exact hdone _ s s'
        | true =>
          rw [disconnectCallback_success hon]
          exact attempt_neverReturns _ (fun isSuccess s s' => hcallback isSuccess _ s') s s'

theorem run_ok {targetAdapter : Option ℕ} {s' : Reconnection}
    (h : run answers depth targetAdapter s = .ok s') : s'.ongoing ≠ none := by
  rcases hon : s.ongoing with _ | tx
  · simp only [run, hon] at h
    exact absurd h ((never_returns answers depth).1 _ _ _)
  · simp only [run, hon] at h
    cases h
    simp [doneSwitch, hon]

end ReconnectAdapterTransaction

/-! ## Where it halts -/

namespace Reconnection

/-- Whatever the depth from some depth on, a run from `s` halts, and the calls of `connect` came to
`connects`. It halts at a cleared `sOngoing`, unless it goes through the null pointer of a switch or
waits for the loops. -/
def HaltsAfter (answers : ℕ → Outcomes) (i : ℕ) (f : ℕ → ReconnectAction) (s : Reconnection)
    (connects : List Bool) : Prop :=
  ∃ h s', (∃ k, ∀ n, k ≤ n → f n s = .error (h, s')) ∧ s'.connects = s.connects ++ connects ∧
    ((∀ n, (answers n).loopsEnd = true) → s.process.Guarded i → h = .nullReconnect)

variable {answers : ℕ → Outcomes} {i : ℕ} {f g : ℕ → ReconnectAction} {s t : Reconnection}
  {connects : List Bool}

theorem HaltsAfter.step (called : List Bool) (hg : HaltsAfter answers i g t connects)
    (hstep : ∀ n, f (n + 1) s = g n t) (hcalled : t.connects = s.connects ++ called)
    (hguard : s.process.Guarded i → t.process.Guarded i) :
    HaltsAfter answers i f s (called ++ connects) := by
  obtain ⟨h, s', ⟨k, hk⟩, hconnects, hnull⟩ := hg
  refine ⟨h, s', ⟨k + 1, fun n hn => ?_⟩, ?_, fun hends hs => hnull hends (hguard hs)⟩
  · obtain ⟨m, rfl⟩ : ∃ m, n = m + 1 := ⟨n - 1, by omega⟩
    rw [hstep]
    exact hk m (by omega)
  · rw [hconnects, hcalled, List.append_assoc]

end Reconnection

namespace ReconnectAdapterTransaction

open Reconnection

variable {answers : ℕ → Outcomes} {i : ℕ} {s : Reconnection}

theorem halts_cleared (hcleared : s.ongoing = none) (isSuccess : Bool) :
    HaltsAfter answers i (fun n => disconnectCallback answers n isSuccess) s [] := by
  refine ⟨.nullReconnect, s, ⟨1, fun n hn => ?_⟩, (List.append_nil _).symm, fun _ _ => rfl⟩
  obtain ⟨m, rfl⟩ : ∃ m, n = m + 1 := ⟨n - 1, by omega⟩
  exact disconnectCallback_cleared hcleared isSuccess

theorem halts_report {isSuccess : Bool} {p : Process} {connects : List Bool}
    (hreport : ServerAdapter.disconnectReport (answers s.attempts) i s.process = .ok (isSuccess, p))
    (hcallback : HaltsAfter answers i (fun n => disconnectCallback answers n isSuccess)
      (s.attempted p) connects) :
    HaltsAfter answers i (fun n => start answers n ⟨some i⟩) s connects := by
  refine hcallback.step [] (fun n => ?_) (List.append_nil _).symm
    (ServerAdapter.disconnectReport_guarded hreport)
  simp only [start, disconnectOnFailure, attempt, hreport]

theorem start_error {h : Halt} {p : Process}
    (hreport : ServerAdapter.disconnectReport (answers s.attempts) i s.process = .error (h, p))
    (n : ℕ) : start answers (n + 1) ⟨some i⟩ s = .error (.adapter h, s.attempted p) := by
  simp only [start, disconnectOnFailure, attempt, hreport]

theorem halts_error {h : Halt} {p : Process}
    (hreport : ServerAdapter.disconnectReport (answers s.attempts) i s.process = .error (h, p)) :
    HaltsAfter answers i (fun n => start answers n ⟨some i⟩) s [] := by
  refine ⟨.adapter h, s.attempted p, ⟨1, fun n hn => ?_⟩,
    (List.append_nil _).symm, fun hends hguard => ?_⟩
  · obtain ⟨m, rfl⟩ : ∃ m, n = m + 1 := ⟨n - 1, by omega⟩
    exact start_error hreport m
  · rcases ServerAdapter.disconnectReport_cases (answers s.attempts) i s.process with
      ⟨-, he⟩ | ⟨hup, hnone, -⟩ | ⟨-, -, q, -, ⟨hwaits, -⟩ | ⟨res, he⟩⟩
    · rw [he] at hreport
      cases hreport
    · rcases hguard with hdown | hon
      · exact absurd hdown hup
      · exact absurd hnone hon
    · rw [hends] at hwaits
      cases hwaits
    · rw [he] at hreport
      cases hreport

/-- The second start of a transaction. -/
theorem halts_start_cleared (hcleared : s.ongoing = none) :
    HaltsAfter answers i (fun n => start answers n ⟨some i⟩) s [] := by
  rcases hreport : ServerAdapter.disconnectReport (answers s.attempts) i s.process with
    ⟨h, p⟩ | ⟨isSuccess, p⟩
  · exact halts_error hreport
  · exact halts_report hreport (halts_cleared (s := s.attempted p) hcleared isSuccess)

theorem halts_failure (hon : s.ongoing = some ⟨some i⟩) :
    HaltsAfter answers i (fun n => disconnectCallback answers n false) s [] := by
  have hdone : HaltsAfter answers i (fun n => done answers n ⟨some i⟩ true) s [] := by
    have hcleared : ({ s with ongoing := none } : Reconnection).ongoing = none := rfl
    exact (halts_start_cleared hcleared).step [] (fun n => by simp [done])
      (List.append_nil _).symm id
  exact hdone.step [] (fun n => disconnectCallback_failure hon) (List.append_nil _).symm id

/-- The callback that is told of a connection connects once more. -/
theorem halts_connected (hon : s.ongoing = some ⟨some i⟩)
    (hactive : (s.process.adapters i).mState = .kActive) :
    HaltsAfter answers i (fun n => disconnectCallback answers n true) s [false] := by
  refine (halts_failure (s := { s.attempted s.process with connects := s.connects ++ [false] })
    hon).step [false] (fun n => ?_) rfl id
  rw [disconnectCallback_success hon]
  simp only [connect, attempt, ServerAdapter.connectReport_active false hactive]
  rfl

/-- A disconnection succeeded: what the connection comes to, and that it is made a second time when
it succeeded. -/
theorem halts_success {isSuccess : Bool} {p : Process} (hon : s.ongoing = some ⟨some i⟩)
    (hswitch : s.process.switchOngoing ≠ none)
    (hreport : ServerAdapter.connectReport (answers s.attempts) i false s.process =
      .ok (isSuccess, p)) :
    HaltsAfter answers i (fun n => disconnectCallback answers n true) s
      (isSuccess :: if isSuccess then [false] else []) := by
  obtain ⟨res, q, he, hq, hactive⟩ :=
    ServerAdapter.connectReport_cases (o := answers s.attempts) (i := i) false s.process
  rw [he] at hreport
  cases hreport
  have hguard : s.process.Guarded i → p.Guarded i := fun _ => .inr (hq ▸ hswitch)
  have hstep : ∀ n, disconnectCallback answers (n + 1) true s =
      disconnectCallback answers n isSuccess
        { s.attempted p with connects := s.connects ++ [isSuccess] } := by
    intro n
    rw [disconnectCallback_success hon]
    simp only [connect, attempt, he]
    rfl
  cases isSuccess with
  | false =>
    exact (halts_failure (s := { s.attempted p with connects := s.connects ++ [false] }) hon).step
      [false] hstep rfl hguard
  | true =>
    exact (halts_connected (s := { s.attempted p with connects := s.connects ++ [true] }) hon
      (hactive rfl)).step [true] hstep rfl hguard

theorem halts_start (hon : s.ongoing = some ⟨some i⟩) :
    ∃ connects, HaltsAfter answers i (fun n => start answers n ⟨some i⟩) s connects := by
  rcases ServerAdapter.disconnectReport_cases (answers s.attempts) i s.process with
    ⟨-, he⟩ | ⟨-, -, he⟩ | ⟨-, hswitch, p, hp, ⟨-, he⟩ | ⟨_ | _, he⟩⟩
  · exact ⟨_, halts_report he (halts_failure (s := s.attempted s.process) hon)⟩
  · exact ⟨_, halts_error he⟩
  · exact ⟨_, halts_error he⟩
  · exact ⟨_, halts_report he (halts_failure (s := s.attempted p) hon)⟩
  · obtain ⟨res, q, hq, -, -⟩ :=
      ServerAdapter.connectReport_cases (o := answers (s.attempts + 1)) (i := i) false p
    exact ⟨_, halts_report he (halts_success (s := s.attempted p) hon (hp ▸ hswitch) hq)⟩

end ReconnectAdapterTransaction

namespace Reconnection

variable {answers : ℕ → Outcomes} {i : ℕ} {retry : Bool} {s : Reconnection}

/-- The state in which `start` is called. -/
def begun (s : Reconnection) (i : ℕ) : Reconnection :=
  { s with
    process := { s.process with nsState := .kNSStateSwitching }
    ongoing := some ⟨some i⟩ }

theorem reconnectAdapter_start (hover : s.ongoing = none)
    (hstarts : retry = false ∨ s.process.nsState = .kNSStateReady) (later : List Reconnection)
    (depth : ℕ) : NetworkSwitcher.reconnectAdapter answers depth i retry later s =
      ReconnectAdapterTransaction.start answers depth ⟨some i⟩ (s.begun i) := by
  have hwait : ¬ (retry = true ∧ s.process.nsState = .kNSStateSwitching) := by
    rintro ⟨rfl, hswitching⟩
    rcases hstarts with h | h
    · cases h
    · rw [h] at hswitching
      cases hswitching
  have hrun : NetworkSwitcher.reconnectAdapter answers depth i retry later s =
      ReconnectAdapterTransaction.run answers depth (some i)
        { s with process := { s.process with nsState := .kNSStateSwitching } } := by
    cases later <;> rw [NetworkSwitcher.reconnectAdapter, if_neg hwait]
  rw [hrun, ReconnectAdapterTransaction.run]
  simp only [hover]
  rfl

/-- With loops that end, a call that need not wait goes through a null pointer. -/
theorem reconnect_halts (hover : s.ongoing = none)
    (hstarts : retry = false ∨ s.process.nsState = .kNSStateReady) (later : List Reconnection)
    (hends : ∀ n, (answers n).loopsEnd = true) : ∃ s' k, ∀ depth, k ≤ depth →
      NetworkSwitcher.reconnectAdapter answers depth i retry later s =
        .error (if s.process.Guarded i then .nullReconnect else .adapter .nullSwitch, s') := by
  have hrun : ∀ depth, NetworkSwitcher.reconnectAdapter answers depth i retry later s =
      ReconnectAdapterTransaction.start answers depth ⟨some i⟩ (s.begun i) :=
    reconnectAdapter_start hover hstarts later
  by_cases hguard : s.process.Guarded i
  · have hstart : ∃ connects, HaltsAfter answers i
        (fun depth => ReconnectAdapterTransaction.start answers depth ⟨some i⟩) (s.begun i)
        connects :=
      ReconnectAdapterTransaction.halts_start rfl
    obtain ⟨connects, h, s', ⟨k, hk⟩, -, hnull⟩ := hstart
    obtain rfl := hnull hends hguard
    refine ⟨s', k, fun depth hdepth => ?_⟩
    rw [hrun, if_pos hguard]
    exact hk depth hdepth
  · rcases ServerAdapter.disconnectReport_cases (answers s.attempts) i (s.begun i).process with
      ⟨hdown, -⟩ | ⟨-, -, he⟩ | ⟨-, hon, -⟩
    · exact absurd (.inl hdown) hguard
    · refine ⟨(s.begun i).attempted ((s.begun i).process.setState i .kDisconnecting), 1,
        fun depth hdepth => ?_⟩
      obtain ⟨n, rfl⟩ : ∃ n, depth = n + 1 := ⟨depth - 1, by omega⟩
      rw [hrun, if_neg hguard]
      exact ReconnectAdapterTransaction.start_error (s := s.begun i) he n
    · exact absurd (.inr hon) hguard

/-- A disconnection and a connection that succeed are followed by one more call of `connect`. -/
theorem connects_again {p q : Process} (hover : s.ongoing = none)
    (hstarts : retry = false ∨ s.process.nsState = .kNSStateReady) (later : List Reconnection)
    (hdisconnected : ServerAdapter.disconnectReport (answers s.attempts) i (s.begun i).process =
      .ok (true, p))
    (hconnected : ServerAdapter.connectReport (answers (s.attempts + 1)) i false p = .ok (true, q)) :
    HaltsAfter answers i
      (fun depth => NetworkSwitcher.reconnectAdapter answers depth i retry later) s
      [true, false] := by
  have hswitch : p.switchOngoing ≠ none := by
    rcases ServerAdapter.disconnectReport_cases (answers s.attempts) i (s.begun i).process with
      ⟨-, he⟩ | ⟨-, -, he⟩ | ⟨-, hon, r, hr, ⟨-, he⟩ | ⟨res, he⟩⟩ <;>
      rw [he] at hdisconnected <;> cases hdisconnected
    exact hr ▸ hon
  obtain ⟨h, s', ⟨k, hk⟩, hconnects, hnull⟩ :=
    ReconnectAdapterTransaction.halts_report hdisconnected
      (ReconnectAdapterTransaction.halts_success (s := (s.begun i).attempted p) rfl hswitch
        hconnected)
  refine ⟨h, s', ⟨k, fun depth hdepth => ?_⟩, hconnects, hnull⟩
  dsimp only
  rw [reconnectAdapter_start hover hstarts]
  exact hk depth hdepth

end Reconnection

/-! ## The end that is meant -/

namespace Reconnection

structure Reconnected (i : ℕ) (s : Reconnection) : Prop where
  active : (s.process.adapters i).mState = .kActive
  ready : s.process.nsState = .kNSStateReady
  ended : s.ongoing = none
  /-- No call of `connect` after one that succeeded. -/
  once : true ∉ s.connects.dropLast

/-- The call returns, and the adapter is connected again. -/
def Reconnects (answers : ℕ → Outcomes) (i : ℕ) (retryIfAlreadySwitching : Bool)
    (later : List Reconnection) (s : Reconnection) : Prop :=
  ∃ depth s', NetworkSwitcher.reconnectAdapter answers depth i retryIfAlreadySwitching later s =
    .ok s' ∧ s'.Reconnected i

/-- It returns only where another transaction was found, which is then still ongoing. -/
theorem reconnectAdapter_ok {answers : ℕ → Outcomes} {depth i : ℕ} {retry : Bool}
    {later : List Reconnection} {s s' : Reconnection}
    (h : NetworkSwitcher.reconnectAdapter answers depth i retry later s = .ok s') :
    s'.ongoing ≠ none := by
  induction later generalizing s with
  | nil =>
    rw [NetworkSwitcher.reconnectAdapter] at h
    split at h
    · cases h
    · exact ReconnectAdapterTransaction.run_ok h
  | cons t later ih =>
    rw [NetworkSwitcher.reconnectAdapter] at h
    split at h
    · exact ih h
    · exact ReconnectAdapterTransaction.run_ok h

/-- The adapter is never connected again, whatever the attempts come to. -/
theorem never_reconnects (answers : ℕ → Outcomes) (i : ℕ) (retryIfAlreadySwitching : Bool)
    (later : List Reconnection) (s : Reconnection) :
    ¬ Reconnects answers i retryIfAlreadySwitching later s := by
  rintro ⟨depth, s', hok, hend⟩
  exact reconnectAdapter_ok hok hend.ended

/-- An Active adapter whose loop ended, with the switcher Ready. -/
def lost (switchOngoing : Option SwitchAdapterTransaction) : Reconnection where
  process :=
    { adapters := fun _ => ServerAdapter.active 1
      adaptersCount := 2
      mActiveAdapterIndex := 0
      coreState := .kCoreStateReady
      nsState := .kNSStateReady
      switchOngoing := switchOngoing
      connectOngoing := none
      stopOngoing := none
      requests := []
      starts := 1
      ends := []
      doneStops := [] }
  ongoing := none
  attempts := 0
  connects := []

/-- Every attempt succeeds. With a switch going on the adapter is connected, and connected again;
without one the first disconnection already goes through a null pointer. -/
theorem lost_not_reconnected :
    ¬ Reconnects (fun _ => .succeed) 0 true [] (lost (some ⟨0, 1, 0⟩)) ∧
      (∃ s' k, (∀ depth, k ≤ depth →
        NetworkSwitcher.reconnectAdapter (fun _ => .succeed) depth 0 true []
          (lost (some ⟨0, 1, 0⟩)) = .error (.nullReconnect, s')) ∧ s'.connects = [true, false]) ∧
      ¬ Reconnects (fun _ => .succeed) 0 true [] (lost none) ∧
      ∃ s' k, ∀ depth, k ≤ depth →
        NetworkSwitcher.reconnectAdapter (fun _ => .succeed) depth 0 true [] (lost none) =
          .error (.adapter .nullSwitch, s') := by
  refine ⟨?_, ?_, ?_, ?_⟩
  · rintro ⟨depth, s', hok, hend⟩
    exact reconnectAdapter_ok hok hend.ended
  · have hagain : HaltsAfter (fun _ => .succeed) 0
        (fun depth => NetworkSwitcher.reconnectAdapter (fun _ => .succeed) depth 0 true [])
        (lost (some ⟨0, 1, 0⟩)) [true, false] :=
      connects_again rfl (.inr rfl) [] rfl rfl
    obtain ⟨h, s', ⟨k, hk⟩, hconnects, hnull⟩ := hagain
    obtain rfl := hnull (fun _ => rfl) (by decide)
    exact ⟨s', k, hk, hconnects⟩
  · rintro ⟨depth, s', hok, hend⟩
    exact reconnectAdapter_ok hok hend.ended
  · exact reconnect_halts (s := lost none) rfl (.inr rfl) [] fun _ => rfl

end Reconnection

end Linux
end VirtualConnection
