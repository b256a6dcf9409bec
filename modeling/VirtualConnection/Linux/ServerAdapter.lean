import Mathlib.Logic.Function.Basic
import VirtualConnection.Linux.ServerSocket

/-!
# Linux.ServerAdapter

`ServerAdapter.cpp`: connecting, disconnecting, sleeping and waking up. An operation runs to its end
in the thread that calls it, callbacks included, so it is an `Action` on the `Process`: the adapters,
the core, the network switcher and its transactions. What the devices, the other threads and the peer
contribute is in the `Outcomes`, one for each adapter; each of these steps is taken at most once in
an operation.

A callback is a function or `NULL`. An action that does not return leaves the process as it was when
it stopped: it waits for ever, or it goes through a null pointer, or an assertion fails.

`requests` are the control messages sent to the peer. The transactions have a number, and `starts`,
`ends` and `doneStops` say what has been started and reported; no code reads them.
-/

namespace VirtualConnection
namespace Linux

inductive DeviceState where
  | kOff
  | kTurningOn
  | kOn
  | kTurningOff
  deriving DecidableEq, Repr

inductive P2PServerState where
  | kDisallowed
  | kAllowed
  deriving DecidableEq, Repr

inductive CoreState where
  | kCoreStateIdle
  | kCoreStateStarting
  | kCoreStateReady
  | kCoreStateStopping
  deriving DecidableEq, Repr

inductive NSState where
  | kNSStateReady
  | kNSStateSwitching
  deriving DecidableEq, Repr

/-! ## Devices, P2P servers and sockets -/

namespace DeviceState

/-- `impl` is what `turn_on_impl` returns. -/
def turnOn (s : DeviceState) (impl : Bool) : Bool × DeviceState :=
  if s = .kOn ∨ s = .kTurningOn then (false, s) else (impl, if impl then .kOn else .kOff)

def turnOff (s : DeviceState) (impl : Bool) : Bool × DeviceState :=
  if s = .kOff ∨ s = .kTurningOff then (false, s) else (impl, if impl then .kOff else .kOn)

end DeviceState

namespace P2PServerState

def allowDiscover (s : P2PServerState) (impl : Bool) : Bool × P2PServerState :=
  if s = .kAllowed then (false, s) else (impl, if impl then .kAllowed else .kDisallowed)

def disallowDiscover (s : P2PServerState) (impl : Bool) : Bool × P2PServerState :=
  if s = .kDisallowed then (false, s) else (impl, if impl then .kDisallowed else .kAllowed)

end P2PServerState

namespace ServerSocketState

/-- `ServerSocket::open`. -/
def «open» (s : ServerSocketState) (impl : Bool) : Bool × ServerSocketState :=
  if s ≠ .kClosed then (false, s) else (impl, if impl then .kOpened else .kClosed)

/-- `ServerSocket::close`: the socket counts as closed even when `close_impl` fails. -/
def close (s : ServerSocketState) (impl : Bool) : Bool × ServerSocketState :=
  if s ≠ .kOpened then (false, s) else (impl, .kClosed)

end ServerSocketState

/-! ## The adapter -/

/-- What the world outside answers to an operation on one adapter. -/
structure Outcomes where
  turnOnImpl : Bool
  turnOffImpl : Bool
  allowDiscoverImpl : Bool
  disallowDiscoverImpl : Bool
  /-- `open_impl(is_send_request)`, which also sends the request. -/
  openImpl : Bool → Bool
  closeImpl : Bool
  /-- The sender thread sees that it is paused, and reports `kSleeping`. -/
  reportsSleeping : Bool
  /-- `wait_receiving` returns. -/
  receivesAll : Bool
  /-- The sender loop and the receiver loop end once they are disabled. -/
  loopsEnd : Bool

/-- The three components are there (`StartCoreTransaction` needs them), and so are the two threads,
which `register_adapter` launches. -/
structure ServerAdapter where
  mId : Int
  mState : ServerAdapterState
  mIsDisconnectingOnPurpose : Bool
  mIsDisconnectingOnPurposePeer : Bool
  mDevice : DeviceState
  mP2PServer : P2PServerState
  mServerSocket : ServerSocketState
  isThreadRunning : Bool
  isSenderLoopEnabled : Bool
  isSenderLoopPaused : Bool
  isReceiverLoopEnabled : Bool
  mLastSeqNoControl : UInt32
  mLastSeqNoData : UInt32
  deriving DecidableEq, Repr

namespace Outcomes

def succeed : Outcomes where
  turnOnImpl := true
  turnOffImpl := true
  allowDiscoverImpl := true
  disallowDiscoverImpl := true
  openImpl _ := true
  closeImpl := true
  reportsSleeping := true
  receivesAll := true
  loopsEnd := true

end Outcomes

namespace ServerAdapter

def disconnected (adapterId : Int) : ServerAdapter where
  mId := adapterId
  mState := .kDisconnected
  mIsDisconnectingOnPurpose := false
  mIsDisconnectingOnPurposePeer := false
  mDevice := .kOff
  mP2PServer := .kDisallowed
  mServerSocket := .kClosed
  isThreadRunning := true
  isSenderLoopEnabled := false
  isSenderLoopPaused := false
  isReceiverLoopEnabled := false
  mLastSeqNoControl := 0
  mLastSeqNoData := 0

def active (adapterId : Int) : ServerAdapter :=
  { disconnected adapterId with
    mState := .kActive
    mDevice := .kOn
    mP2PServer := .kAllowed
    mServerSocket := .kOpened
    isSenderLoopEnabled := true
    isReceiverLoopEnabled := true }

/-- The last part of `__connect_internal`. -/
def enableLoops (a : ServerAdapter) : ServerAdapter :=
  { a with isSenderLoopEnabled := true, isReceiverLoopEnabled := true }

/-- "Open server socket" and what follows. -/
def openSocket (a : ServerAdapter) (o : Outcomes) (isSendRequest : Bool) : Bool × ServerAdapter :=
  if a.mServerSocket ≠ .kOpened ∧ a.mServerSocket ≠ .kOpening then
    let r := a.mServerSocket.open (o.openImpl isSendRequest)
    if r.1 = false ∨ r.2 ≠ .kOpened then
      (false, { a with
        mServerSocket := r.2
        mP2PServer := (a.mP2PServer.disallowDiscover o.disallowDiscoverImpl).2
        mDevice := (a.mDevice.turnOff o.turnOffImpl).2 })
    else (true, { a with mServerSocket := r.2 }.enableLoops)
  else (true, a.enableLoops)

/-- "Allow client's connection" and what follows. -/
def allowDiscover (a : ServerAdapter) (o : Outcomes) (isSendRequest : Bool) :
    Bool × ServerAdapter :=
  if a.mP2PServer ≠ .kAllowed then
    let r := a.mP2PServer.allowDiscover o.allowDiscoverImpl
    if r.1 = false ∨ r.2 ≠ .kAllowed then
      (false, { a with mP2PServer := r.2, mDevice := (a.mDevice.turnOff o.turnOffImpl).2 })
    else { a with mP2PServer := r.2 }.openSocket o isSendRequest
  else a.openSocket o isSendRequest

/-- `__connect_internal`. -/
def connectInternalBody (a : ServerAdapter) (o : Outcomes) (isSendRequest : Bool) :
    Bool × ServerAdapter :=
  if a.mDevice ≠ .kOn ∧ a.mDevice ≠ .kTurningOn then
    let r := a.mDevice.turnOn o.turnOnImpl
    if r.1 = false ∨ r.2 ≠ .kOn then (false, { a with mDevice := r.2 })
    else { a with mDevice := r.2 }.allowDiscover o isSendRequest
  else a.allowDiscover o isSendRequest

/-- "Wait for sender/receiver thread": the thread that ends its loop resets the flags. The result is
`none` when the wait does not end. -/
def waitLoops (a : ServerAdapter) (o : Outcomes) : Option Bool × ServerAdapter :=
  if o.loopsEnd then
    (some true, { a with
      isSenderLoopEnabled := false
      isSenderLoopPaused := false
      isReceiverLoopEnabled := false })
  else (none, a)

/-- "Turn off device" and what follows. -/
def turnOffDevice (a : ServerAdapter) (o : Outcomes) : Option Bool × ServerAdapter :=
  if a.mDevice ≠ .kOff ∧ a.mDevice ≠ .kTurningOff then
    let r := a.mDevice.turnOff o.turnOffImpl
    if r.1 = false then (some false, { a with mDevice := r.2 })
    else { a with mDevice := r.2 }.waitLoops o
  else a.waitLoops o

/-- "Disallow scan P2P Server" and what follows. -/
def disallowDiscover (a : ServerAdapter) (o : Outcomes) : Option Bool × ServerAdapter :=
  if a.mP2PServer ≠ .kDisallowed then
    let r := a.mP2PServer.disallowDiscover o.disallowDiscoverImpl
    if r.1 = false then (some false, { a with mP2PServer := r.2 })
    else { a with mP2PServer := r.2 }.turnOffDevice o
  else a.turnOffDevice o

/-- "Close server socket" and what follows. -/
def closeSocket (a : ServerAdapter) (o : Outcomes) : Option Bool × ServerAdapter :=
  if a.mServerSocket ≠ .kClosed ∧ a.mServerSocket ≠ .kClosing then
    let r := a.mServerSocket.close o.closeImpl
    if r.1 = false ∨ r.2 ≠ .kClosed then (some false, { a with mServerSocket := r.2 })
    else { a with mServerSocket := r.2 }.disallowDiscover o
  else a.disallowDiscover o

/-- `__disconnect_internal`. -/
def disconnectInternalBody (a : ServerAdapter) (oldState : ServerAdapterState) (o : Outcomes) :
    Option Bool × ServerAdapter :=
  { a with
    isSenderLoopEnabled := false
    isSenderLoopPaused := if oldState = ServerAdapterState.kSleeping then false else a.isSenderLoopPaused
    isReceiverLoopEnabled := false }.closeSocket o

end ServerAdapter

/-! ## The process -/

/-- Messages of `ControlMessageSender`, as `ServerAdapter` sends them. -/
inductive Request where
  | sleep (adapterId : Int)
  | wakeUp (adapterId : Int)
  | disconnect (adapterId : Int) (finalSeqNoControl finalSeqNoData : UInt32)
  | disconnectAck (adapterId : Int)
  deriving DecidableEq, Repr

structure SwitchAdapterTransaction where
  mPrevIndex : Int
  mNextIndex : Int
  number : ℕ
  deriving DecidableEq, Repr

/-- What `SwitchAdapterTransaction::done` reported, and the adapters at that moment. -/
structure SwitchEnd where
  number : ℕ
  isSuccess : Bool
  activeAdapterIndex : Int
  adapters : ℕ → ServerAdapter

/-- The three `sOngoing` of interest are `switchOngoing`, `connectOngoing` and `stopOngoing`; the
last one has the count of its transaction. -/
structure Process where
  adapters : ℕ → ServerAdapter
  adaptersCount : ℕ
  mActiveAdapterIndex : Int
  coreState : CoreState
  nsState : NSState
  switchOngoing : Option SwitchAdapterTransaction
  connectOngoing : Option Int
  stopOngoing : Option Int
  requests : List Request
  starts : ℕ
  ends : List SwitchEnd
  doneStops : List Bool

/-- Why an action does not return. -/
inductive Halt where
  | waits
  | nullCallback
  /-- `SwitchAdapterTransaction::sOngoing` is `NULL`. -/
  | nullSwitch
  /-- `ConnectRequestTransaction::sOngoing` is `NULL`. -/
  | nullConnect
  /-- `StopCoreTransaction::sOngoing` is `NULL`. -/
  | nullStop
  | assertion
  deriving DecidableEq, Repr

abbrev Action := Process → Except (Halt × Process) Process

/-- A `ConnectCallback` or `DisconnectCallback`: its adapter, and `is_success`. -/
abbrev Callback := ℕ → Bool → Action

namespace Process

def setAdapter (p : Process) (i : ℕ) (a : ServerAdapter) : Process :=
  { p with adapters := Function.update p.adapters i a }

def setState (p : Process) (i : ℕ) (state : ServerAdapterState) : Process :=
  p.setAdapter i { p.adapters i with mState := state }

def send (p : Process) (request : Request) : Process :=
  { p with requests := p.requests ++ [request] }

@[simp] theorem setAdapter_adapters_self (p : Process) (i : ℕ) (a : ServerAdapter) :
    (p.setAdapter i a).adapters i = a := Function.update_self ..

@[simp] theorem setAdapter_adapters_of_ne (p : Process) {i k : ℕ} (a : ServerAdapter)
    (hk : k ≠ i) : (p.setAdapter i a).adapters k = p.adapters k := by
  simp [setAdapter, hk]

@[simp] theorem setAdapter_self (p : Process) (i : ℕ) : p.setAdapter i (p.adapters i) = p := by
  unfold setAdapter
  rw [Function.update_eq_self]

end Process

namespace ServerAdapter

/-- `callback(this, is_success)`. -/
def call (callback : Option Callback) (i : ℕ) (isSuccess : Bool) : Action := fun p =>
  match callback with
  | none => .error (.nullCallback, p)
  | some callback => callback i isSuccess p

/-- The same behind `if (callback != NULL)`. -/
def callIfSet (callback : Option Callback) (i : ℕ) (isSuccess : Bool) : Action := fun p =>
  match callback with
  | none => .ok p
  | some callback => callback i isSuccess p

variable (o : ℕ → Outcomes) (i : ℕ)

def connectInternal (callback : Option Callback) (isSendRequest : Bool) : Action := fun p =>
  let r := { p.adapters i with mState := .kConnecting }.connectInternalBody (o i) isSendRequest
  callIfSet callback i r.1
    (p.setAdapter i { r.2 with mState := if r.1 then .kActive else .kDisconnected })

def connect (callback : Option Callback) (isSendRequest : Bool) : Action := fun p =>
  if (p.adapters i).mState ≠ .kDisconnected then call callback i false p
  else connectInternal o i callback isSendRequest p

/-- `SwitchAdapterTransaction::getOnGoing()` is used without a check. -/
def disconnectInternal (callback : Option Callback) : Action := fun p =>
  let oldState := (p.adapters i).mState
  let p := p.setState i .kDisconnecting
  match p.switchOngoing with
  | none => .error (.nullSwitch, p)
  | some _ =>
    match (p.adapters i).disconnectInternalBody oldState (o i) with
    | (none, a) => .error (.waits, p.setAdapter i a)
    | (some res, a) =>
      callIfSet callback i res (p.setAdapter i { a with
        mState := if res then .kDisconnected else oldState
        mIsDisconnectingOnPurpose := false
        mIsDisconnectingOnPurposePeer := false })

/-- The loop that waits for `kSleeping`. -/
def waitForSleeping (next : Action) : Action := fun p =>
  if (o i).reportsSleeping then next (p.setState i .kSleeping) else .error (.waits, p)

/-- What `disconnect_on_command` does with a sleeping adapter. -/
def disconnectSleeping (callback : Option Callback) : Action := fun p =>
  let a := p.adapters i
  disconnectInternal o i callback
    ((p.setAdapter i { a with mIsDisconnectingOnPurpose := true }).send
      (.disconnect a.mId a.mLastSeqNoControl a.mLastSeqNoData))

def disconnectOnCommand (callback : Option Callback) : Action := fun p =>
  if (p.adapters i).mState = .kGoingSleeping then
    waitForSleeping o i (disconnectSleeping o i callback) p
  else if (p.adapters i).mState ≠ .kSleeping then call callback i false p
  else disconnectSleeping o i callback p

/-- What `disconnect_on_peer_command` does with a sleeping adapter. -/
def disconnectSleepingByPeer (callback : Option Callback) : Action := fun p =>
  let a := p.adapters i
  let p := p.setAdapter i { a with mIsDisconnectingOnPurpose := true }
  if (o i).receivesAll then disconnectInternal o i callback (p.send (.disconnectAck a.mId))
  else .error (.waits, p)

/-- The final numbers of the peer are passed to `wait_receiving`. -/
def disconnectOnPeerCommand (callback : Option Callback) : Action := fun p =>
  if (p.adapters i).mState = .kGoingSleeping then
    waitForSleeping o i (disconnectSleepingByPeer o i callback) p
  else if (p.adapters i).mState ≠ .kSleeping then call callback i false p
  else disconnectSleepingByPeer o i callback p

def disconnectOnFailure (callback : Option Callback) : Action := fun p =>
  if (p.adapters i).mState = .kDisconnected ∨ (p.adapters i).mState = .kDisconnecting then
    call callback i false p
  else disconnectInternal o i callback p

/-- A paused sender loop is reported as a failure, and then as a success. -/
def sleep (callback : Option Callback) (isSendRequest : Bool) : Action := fun p =>
  let a := p.adapters i
  if a.mState ≠ .kActive then callIfSet callback i false p
  else if a.isSenderLoopPaused then
    match callIfSet callback i false p with
    | .error e => .error e
    | .ok p => callIfSet callback i true p
  else
    let p := if isSendRequest then p.send (.sleep a.mId) else p
    callIfSet callback i true
      (p.setAdapter i { a with mState := .kGoingSleeping, isSenderLoopPaused := true })

def wakeUp (callback : Option Callback) (isSendRequest : Bool) : Action := fun p =>
  let a := p.adapters i
  if a.mState ≠ .kSleeping then callIfSet callback i false p
  else if a.isSenderLoopPaused then
    let p := if isSendRequest then p.send (.wakeUp a.mId) else p
    callIfSet callback i true
      (p.setAdapter i { a with mState := .kWakingUp, isSenderLoopPaused := false })
  else callIfSet callback i false p

/-- In the other states nothing happens, and the callback is not called. -/
def connectOrWakeUp (callback : Option Callback) (isSendRequest : Bool) : Action := fun p =>
  if (p.adapters i).mState = .kDisconnected then connect o i callback isSendRequest p
  else if (p.adapters i).mState = .kSleeping then wakeUp i callback isSendRequest p
  else .ok p

end ServerAdapter

/-! ## When the operations succeed -/

namespace ServerAdapter

variable {a : ServerAdapter} {o : Outcomes} {isSendRequest : Bool}

/-- Every step of `__connect_internal` succeeds. -/
def Connects (a : ServerAdapter) (o : Outcomes) (isSendRequest : Bool) : Prop :=
  (a.mDevice = .kOn ∨ a.mDevice = .kTurningOn ∨ o.turnOnImpl = true) ∧
    (a.mP2PServer = .kAllowed ∨ o.allowDiscoverImpl = true) ∧
    (a.mServerSocket = .kOpened ∨ a.mServerSocket = .kOpening ∨
      a.mServerSocket = .kClosed ∧ o.openImpl isSendRequest = true)

/-- Every step of `__disconnect_internal` succeeds. -/
def Disconnects (a : ServerAdapter) (o : Outcomes) : Prop :=
  (a.mServerSocket = .kClosed ∨ a.mServerSocket = .kClosing ∨
      a.mServerSocket = .kOpened ∧ o.closeImpl = true) ∧
    (a.mP2PServer = .kDisallowed ∨ o.disallowDiscoverImpl = true) ∧
    (a.mDevice = .kOff ∨ a.mDevice = .kTurningOff ∨ o.turnOffImpl = true)

/-- The sender loop is paused, or is about to see that it is. -/
def Asleep (a : ServerAdapter) : Prop := a.mState = .kSleeping ∨ a.mState = .kGoingSleeping

/-- `disconnect_on_command` gets past its check. -/
def FallsAsleep (a : ServerAdapter) (o : Outcomes) : Prop :=
  a.mState = .kSleeping ∨ a.mState = .kGoingSleeping ∧ o.reportsSleeping = true

instance : Decidable a.Asleep := inferInstanceAs (Decidable (_ ∨ _))
instance : Decidable (a.FallsAsleep o) := inferInstanceAs (Decidable (_ ∨ _ ∧ _))
instance : Decidable (a.Connects o isSendRequest) := inferInstanceAs (Decidable (_ ∧ _ ∧ _))
instance : Decidable (a.Disconnects o) := inferInstanceAs (Decidable (_ ∧ _ ∧ _))

theorem openSocket_fst : (a.openSocket o isSendRequest).1 = true ↔
    a.mServerSocket = .kOpened ∨ a.mServerSocket = .kOpening ∨
      a.mServerSocket = .kClosed ∧ o.openImpl isSendRequest = true := by
  unfold openSocket ServerSocketState.open
  cases a.mServerSocket <;> cases o.openImpl isSendRequest <;> simp

theorem connectInternalBody_fst :
    (a.connectInternalBody o isSendRequest).1 = true ↔ a.Connects o isSendRequest := by
  have hallow : ∀ b : ServerAdapter, (b.allowDiscover o isSendRequest).1 = true ↔
      (b.mP2PServer = .kAllowed ∨ o.allowDiscoverImpl = true) ∧
        (b.mServerSocket = .kOpened ∨ b.mServerSocket = .kOpening ∨
          b.mServerSocket = .kClosed ∧ o.openImpl isSendRequest = true) := by
    intro b
    unfold allowDiscover P2PServerState.allowDiscover
    cases b.mP2PServer <;> cases o.allowDiscoverImpl <;> simp [openSocket_fst]
  unfold connectInternalBody DeviceState.turnOn Connects
  cases a.mDevice <;> cases o.turnOnImpl <;> simp [hallow]

/-- A disconnection succeeds, fails, or waits for the loops for ever. -/
theorem disconnectInternalBody_fst (oldState : ServerAdapterState) :
    (a.disconnectInternalBody oldState o).1 =
      if a.Disconnects o then (if o.loopsEnd then some true else none) else some false := by
  have hwait : ∀ b : ServerAdapter, (b.waitLoops o).1 = if o.loopsEnd then some true else none := by
    intro b
    unfold waitLoops
    split <;> rfl
  have hoff : ∀ b : ServerAdapter, (b.turnOffDevice o).1 =
      if b.mDevice = .kOff ∨ b.mDevice = .kTurningOff ∨ o.turnOffImpl = true then
        (if o.loopsEnd then some true else none) else some false := by
    intro b
    unfold turnOffDevice DeviceState.turnOff
    cases b.mDevice <;> cases o.turnOffImpl <;> simp [hwait]
  have hdisallow : ∀ b : ServerAdapter, (b.disallowDiscover o).1 =
      if (b.mP2PServer = .kDisallowed ∨ o.disallowDiscoverImpl = true) ∧
          (b.mDevice = .kOff ∨ b.mDevice = .kTurningOff ∨ o.turnOffImpl = true) then
        (if o.loopsEnd then some true else none) else some false := by
    intro b
    unfold disallowDiscover P2PServerState.disallowDiscover
    cases b.mP2PServer <;> cases o.disallowDiscoverImpl <;> simp [hoff]
  have hclose : ∀ b : ServerAdapter, (b.closeSocket o).1 =
      if b.Disconnects o then (if o.loopsEnd then some true else none) else some false := by
    intro b
    cases hs : b.mServerSocket <;> cases hc : o.closeImpl <;>
      simp [closeSocket, ServerSocketState.close, Disconnects, hs, hc, hdisallow]
  exact hclose _

end ServerAdapter

/-! ## The end of a disconnection -/

/-- The process in the middle of an operation. -/
def Process.during (p : Process) (adapters : ℕ → ServerAdapter) (requests : List Request) : Process :=
  { p with adapters := adapters, requests := requests }

namespace ServerAdapter

variable {o : ℕ → Outcomes} {i : ℕ} {p : Process}

/-- With a switch going on, a disconnection reports what came of it, unless it waits. -/
theorem disconnectInternal_cases (callback : Option Callback) (hon : p.switchOngoing ≠ none) :
    ∃ f, (∀ k, k ≠ i → f k = p.adapters k) ∧
      ((p.adapters i).Disconnects (o i) ∧ (o i).loopsEnd = true ∧ (f i).mState = .kDisconnected ∧
        disconnectInternal o i callback p = callIfSet callback i true (p.during f p.requests) ∨
      (p.adapters i).Disconnects (o i) ∧ (o i).loopsEnd = false ∧
        disconnectInternal o i callback p = .error (.waits, p.during f p.requests) ∨
      ¬ (p.adapters i).Disconnects (o i) ∧ (f i).mState = (p.adapters i).mState ∧
        disconnectInternal o i callback p = callIfSet callback i false (p.during f p.requests)) := by
  obtain ⟨tx, htx⟩ := Option.ne_none_iff_exists'.mp hon
  have hon' : (p.setState i .kDisconnecting).switchOngoing = some tx := htx
  have hset : ∀ a, (p.setState i .kDisconnecting).setAdapter i a =
      p.during (Function.update p.adapters i a) p.requests := by
    intro a
    simp [Process.setState, Process.setAdapter, Process.during]
  have hother : ∀ a k, k ≠ i → Function.update p.adapters i a k = p.adapters k :=
    fun a k hk => Function.update_of_ne hk a p.adapters
  have hself : (p.setState i .kDisconnecting).adapters i =
      { p.adapters i with mState := .kDisconnecting } := Function.update_self ..
  have hfst := disconnectInternalBody_fst
    (a := (p.setState i .kDisconnecting).adapters i) (o := o i) (p.adapters i).mState
  have hdis : ((p.setState i .kDisconnecting).adapters i).Disconnects (o i) ↔
      (p.adapters i).Disconnects (o i) := by rw [hself]; exact Iff.rfl
  rw [if_congr hdis rfl rfl] at hfst
  unfold disconnectInternal
  simp only [hon', hset]
  rcases hbody : ((p.setState i .kDisconnecting).adapters i).disconnectInternalBody
    (p.adapters i).mState (o i) with ⟨res, a⟩
  rw [hbody] at hfst
  by_cases hd : (p.adapters i).Disconnects (o i)
  · by_cases hends : (o i).loopsEnd = true
    · obtain rfl : res = some true := by simpa [hd, hends] using hfst
      refine ⟨_, hother _, .inl ⟨hd, hends, ?_, rfl⟩⟩
      simp
    · obtain rfl : res = none := by simpa [hd, hends] using hfst
      exact ⟨_, hother _, .inr (.inl ⟨hd, by simpa using hends, rfl⟩)⟩
  · obtain rfl : res = some false := by simpa [hd] using hfst
    refine ⟨_, hother _, .inr (.inr ⟨hd, ?_, rfl⟩)⟩
    simp

/-! ## A commanded disconnection -/

/-- An adapter that does not sleep is not disconnected. -/
theorem disconnectOnCommand_awake (callback : Callback) (hawake : ¬ (p.adapters i).Asleep) :
    disconnectOnCommand o i (some callback) p = callback i false p := by
  have hgoing : (p.adapters i).mState ≠ .kGoingSleeping := fun h => hawake (.inr h)
  have hsleeping : (p.adapters i).mState ≠ .kSleeping := fun h => hawake (.inl h)
  unfold disconnectOnCommand
  rw [if_neg hgoing, if_pos hsleeping]
  rfl

/-- The wait for an adapter that never reports. -/
theorem disconnectOnCommand_restless (callback : Option Callback)
    (hasleep : (p.adapters i).Asleep) (hfalls : ¬ (p.adapters i).FallsAsleep (o i)) :
    disconnectOnCommand o i callback p = .error (.waits, p) := by
  have hgoing : (p.adapters i).mState = .kGoingSleeping := by
    rcases hasleep with h | h
    · exact absurd (.inl h) hfalls
    · exact h
  have hreports : ¬ (o i).reportsSleeping = true := fun h => hfalls (.inr ⟨hgoing, h⟩)
  unfold disconnectOnCommand waitForSleeping
  rw [if_pos hgoing, if_neg hreports]

theorem disconnectSleeping_eq (callback : Option Callback) : ∃ q : Process,
    disconnectSleeping o i callback p = disconnectInternal o i callback q ∧
      q = p.during q.adapters q.requests ∧ (∀ k, k ≠ i → q.adapters k = p.adapters k) ∧
      (q.adapters i).mState = (p.adapters i).mState ∧
      ((q.adapters i).Disconnects (o i) ↔ (p.adapters i).Disconnects (o i)) := by
  let purpose : ServerAdapter := { p.adapters i with mIsDisconnectingOnPurpose := true }
  have hself : ∀ request, ((p.setAdapter i purpose).send request).adapters i = purpose :=
    fun _ => p.setAdapter_adapters_self i purpose
  refine ⟨(p.setAdapter i purpose).send _, rfl, rfl,
    fun k hk => p.setAdapter_adapters_of_ne purpose hk, ?_, ?_⟩
  · rw [hself]
  · rw [hself]
    exact Iff.rfl

theorem disconnectOnCommand_asleep (callback : Option Callback)
    (hfalls : (p.adapters i).FallsAsleep (o i)) : ∃ q : Process,
    disconnectOnCommand o i callback p = disconnectInternal o i callback q ∧
      q = p.during q.adapters q.requests ∧ (∀ k, k ≠ i → q.adapters k = p.adapters k) ∧
      (q.adapters i).mState = .kSleeping ∧
      ((q.adapters i).Disconnects (o i) ↔ (p.adapters i).Disconnects (o i)) := by
  unfold disconnectOnCommand
  rcases hfalls with hs | ⟨hs, hreports⟩
  · obtain ⟨q, he, hq, hother, hstate, hdis⟩ :=
      disconnectSleeping_eq (o := o) (i := i) (p := p) callback
    refine ⟨q, ?_, hq, hother, hstate.trans hs, hdis⟩
    simpa [hs] using he
  · let r := p.setState i .kSleeping
    have hself : r.adapters i = { p.adapters i with mState := .kSleeping } :=
      p.setAdapter_adapters_self i _
    obtain ⟨q, he, hq, hother, hstate, hdis⟩ :=
      disconnectSleeping_eq (o := o) (i := i) (p := r) callback
    refine ⟨q, ?_, hq, fun k hk => ?_, ?_, ?_⟩
    · rw [if_pos hs, waitForSleeping, if_pos hreports]
      exact he
    · exact (hother k hk).trans (p.setAdapter_adapters_of_ne _ hk)
    · rw [hstate, hself]
    · rw [hdis, hself]
      exact Iff.rfl

/-- Without a switch, the disconnection of an adapter goes through a null pointer. -/
theorem disconnectOnCommand_noSwitch (callback : Option Callback) (hnone : p.switchOngoing = none)
    (hfalls : (p.adapters i).FallsAsleep (o i)) : ∃ f requests,
    disconnectOnCommand o i callback p = .error (.nullSwitch, p.during f requests) := by
  obtain ⟨q, he, hq, -⟩ := disconnectOnCommand_asleep callback hfalls
  have hqnone : q.switchOngoing = none := by
    rw [hq]
    exact hnone
  have hfault : disconnectInternal o i callback q =
      .error (.nullSwitch, q.setState i .kDisconnecting) := by
    unfold disconnectInternal
    simp only [show (q.setState i .kDisconnecting).switchOngoing = none from hqnone]
  refine ⟨(q.setState i .kDisconnecting).adapters, q.requests, ?_⟩
  rw [he, hfault]
  conv_lhs => rw [hq]
  rfl

/-- What a commanded disconnection does while a switch is going on. -/
theorem disconnectOnCommand_cases (callback : Callback) (hon : p.switchOngoing ≠ none)
    (hfalls : (p.adapters i).FallsAsleep (o i)) : ∃ f requests,
    (∀ k, k ≠ i → f k = p.adapters k) ∧
      ((p.adapters i).Disconnects (o i) ∧ (o i).loopsEnd = true ∧ (f i).mState = .kDisconnected ∧
        disconnectOnCommand o i (some callback) p = callback i true (p.during f requests) ∨
      (p.adapters i).Disconnects (o i) ∧ (o i).loopsEnd = false ∧
        disconnectOnCommand o i (some callback) p = .error (.waits, p.during f requests) ∨
      ¬ (p.adapters i).Disconnects (o i) ∧ (f i).mState = .kSleeping ∧
        disconnectOnCommand o i (some callback) p = callback i false (p.during f requests)) := by
  obtain ⟨q, he, hq, hother, hstate, hdis⟩ := disconnectOnCommand_asleep (some callback) hfalls
  have hqon : q.switchOngoing ≠ none := by
    rw [hq]
    exact hon
  have hduring : ∀ f, q.during f q.requests = p.during f q.requests := by
    intro f
    rw [hq]
    rfl
  obtain ⟨f, hf, hcases⟩ := disconnectInternal_cases (o := o) (i := i) (some callback) hqon
  rw [hduring, hdis, hstate] at hcases
  refine ⟨f, q.requests, fun k hk => (hf k hk).trans (hother k hk), ?_⟩
  rw [he]
  exact hcases

end ServerAdapter

end Linux
end VirtualConnection
