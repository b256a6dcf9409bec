import VirtualConnection.Android.Sending

/-!
# Android.AdapterCycles

`ClientAdapter.java` with `SenderThread.java` and `ReceiverThread.java`, step by step: connections and
disconnections of one adapter, one after the other, while its two threads run. The operations of the
device, the P2P client and the socket succeed, except for `sendImpl` and `receiveImpl`; what they give
is in the label. `Object.wait` may return at any time.

Both thread objects are made in the constructor, and a `Thread` can be started once. So the adapter can
be connected once. Even then much is up to the scheduler: the threads are started while the adapter is
still connecting, when `send` and `receive` refuse and the loops end; and `finish` clears the flag that
`waitUntilFinish` looks at, so it waits for nothing.

* `ends_good`: how the calls end in the runs without such steps.
* `never_connected_again`: nothing connects an adapter again whose sender thread is over.
-/

namespace VirtualConnection
namespace Android
namespace AdapterCycles

/-! ## The two threads -/

/-- What an operation gives. `short` is a `receiveImpl` with too few bytes; a thread that takes a
segment, or asks whether to acknowledge one, gets `ok` for one. -/
inductive Outcome where
  | ok
  | short
  | failed
  deriving DecidableEq, Repr

/-- What the threads share with the calls. -/
structure View where
  mState : ClientAdapterState
  mClientSocket : ClientSocketState
  isDisconnectingOnPurpose : Bool
  deriving DecidableEq, Repr

inductive SenderPoint where
  | new
  /-- `start` was called. -/
  | started
  | clearWaiting
  | clearSuspended
  /-- `while (this.mIsOn)` -/
  | loop
  | isSuspended
  /-- `onSuspendSender` -/
  | suspend
  /-- `synchronized (this.mIsSuspended)` -/
  | lock
  /-- `this.mIsSuspended.wait()`, with the object that was locked. -/
  | wait (locked : Bool)
  | blocked
  /-- `onWakeupSender` -/
  | wakeup
  | dequeue
  /-- The check of the adapter's state, for a disconnection. -/
  | checkState
  | isSuspendedAgain
  /-- `getState` in `ClientAdapter.send`. -/
  | send
  /-- `getState` in `ClientSocket.send`. -/
  | socketSend
  | sendImpl
  /-- Out of the loop. -/
  | left
  | terminated
  deriving DecidableEq, Repr

structure SenderThread where
  mIsOn : Bool
  mIsSuspended : Bool
  mIsWaiting : Bool
  point : SenderPoint
  deriving DecidableEq, Repr

namespace SenderThread

def init : SenderThread := ⟨false, false, false, .new⟩

/-- One step of the thread. `mIsSuspended` is an object too, `Boolean.TRUE` or `Boolean.FALSE`: a wait
on another one than was locked throws. -/
def step (outcome : Outcome) (v : View) (t : SenderThread) : Option (SenderThread × View) :=
  match t.point with
  | .new => none
  | .started => some ({ t with mIsOn := true, point := .clearWaiting }, v)
  | .clearWaiting => some ({ t with mIsWaiting := false, point := .clearSuspended }, v)
  | .clearSuspended => some ({ t with mIsSuspended := false, point := .loop }, v)
  | .loop => some ({ t with point := if t.mIsOn then .isSuspended else .left }, v)
  | .isSuspended => some ({ t with point := if t.mIsSuspended then .suspend else .dequeue }, v)
  | .suspend => some ({ t with point := .lock }, { v with mState := .kSleeping })
  | .lock => some ({ t with point := .wait t.mIsSuspended }, v)
  | .wait locked =>
    some ({ t with point := if t.mIsSuspended = locked then .blocked else .terminated }, v)
  | .blocked => some ({ t with point := .wakeup }, v)
  | .wakeup => some ({ t with point := .isSuspended }, { v with mState := .kActive })
  | .dequeue => some ({ t with point := if outcome = .ok then .checkState else .loop }, v)
  | .checkState =>
    some ({ t with
      point := if v.mState = .kDisconnecting ∨ v.mState = .kDisconnected ∨
        v.isDisconnectingOnPurpose then .loop else .isSuspendedAgain }, v)
  | .isSuspendedAgain => some ({ t with point := if t.mIsSuspended then .loop else .send }, v)
  | .send => some ({ t with point := if v.mState = .kActive then .socketSend else .left }, v)
  | .socketSend =>
    some ({ t with point := if v.mClientSocket = .kOpened then .sendImpl else .left }, v)
  | .sendImpl =>
    if outcome = .failed then
      some ({ t with point := .left }, { v with mClientSocket := .kClosed })
    else some ({ t with point := .loop }, v)
  | .left => some ({ t with point := .terminated }, v)
  | .terminated => none

/-- The thread was started, and is not out of its loop. -/
def IsRunning (t : SenderThread) : Bool :=
  t.point ≠ .new ∧ t.point ≠ .left ∧ t.point ≠ .terminated

/-- The thread is out of its loop for good. -/
def IsOver (t : SenderThread) : Bool := t.point = .left ∨ t.point = .terminated

end SenderThread

inductive ReceiverPoint where
  | new
  /-- `start` was called. -/
  | started
  | clearWaiting
  /-- `while (this.isOn())` -/
  | loop
  /-- `getState` in `ClientAdapter.receive`. -/
  | receive
  /-- `getState` in `ClientSocket.receive`. -/
  | socketReceive
  | receiveImpl
  /-- A whole segment; an acknowledgement is sent for some. -/
  | received
  /-- `getState` in `ClientAdapter.send`, for the acknowledgement. -/
  | ack
  | socketAck
  | ackImpl
  /-- Out of the loop. -/
  | left
  | terminated
  deriving DecidableEq, Repr

structure ReceiverThread where
  mIsOn : Bool
  mIsWaiting : Bool
  point : ReceiverPoint
  deriving DecidableEq, Repr

namespace ReceiverThread

def init : ReceiverThread := ⟨false, false, .new⟩

/-- The states in which `ClientAdapter.receive` asks the socket. -/
def LetsThrough (state : ClientAdapterState) : Bool :=
  state = .kActive ∨ state = .kGoingSleep ∨ state = .kSleeping ∨ state = .kWakingUp

/-- One step of the thread. What becomes of an acknowledgement is ignored. -/
def step (outcome : Outcome) (v : View) (t : ReceiverThread) : Option (ReceiverThread × View) :=
  match t.point with
  | .new => none
  | .started => some ({ t with mIsOn := true, point := .clearWaiting }, v)
  | .clearWaiting => some ({ t with mIsWaiting := false, point := .loop }, v)
  | .loop => some ({ t with point := if t.mIsOn then .receive else .left }, v)
  | .receive => some ({ t with point := if LetsThrough v.mState then .socketReceive else .left }, v)
  | .socketReceive =>
    some ({ t with point := if v.mClientSocket = .kOpened then .receiveImpl else .left }, v)
  | .receiveImpl =>
    match outcome with
    | .ok => some ({ t with point := .received }, v)
    | .short => some ({ t with point := .left }, v)
    | .failed => some ({ t with point := .left }, { v with mClientSocket := .kClosed })
  | .received => some ({ t with point := if outcome = .ok then .ack else .loop }, v)
  | .ack => some ({ t with point := if v.mState = .kActive then .socketAck else .loop }, v)
  | .socketAck =>
    some ({ t with point := if v.mClientSocket = .kOpened then .ackImpl else .loop }, v)
  | .ackImpl =>
    some ({ t with point := .loop },
      if outcome = .failed then { v with mClientSocket := .kClosed } else v)
  | .left => some ({ t with point := .terminated }, v)
  | .terminated => none

/-- The thread was started, and is not out of its loop. -/
def IsRunning (t : ReceiverThread) : Bool :=
  t.point ≠ .new ∧ t.point ≠ .left ∧ t.point ≠ .terminated

/-- The thread is out of its loop for good. -/
def IsOver (t : ReceiverThread) : Bool := t.point = .left ∨ t.point = .terminated

end ReceiverThread

/-! ## The calls -/

inductive Caller where
  | idle
  | connecting
  | connected
  /-- In `sleep`, before `suspendSending`. -/
  | suspending
  | disconnecting
  deriving DecidableEq, Repr

/-- `ConnectThread` and `SocketOpenThread`. -/
inductive ConnectPoint where
  | idle
  | run
  | turnOn
  | discover
  | p2pConnect
  | openSocket
  | openImpl
  | startSender
  | startReceiver
  | setActive
  | report
  deriving DecidableEq, Repr

/-- `DisconnectThread`. -/
inductive DisconnectPoint where
  | idle
  | run
  | checkPeer
  | waitPeer
  | finishSender
  | clearSuspended
  | finishReceiver
  | checkSocket
  | close
  | closeImpl
  | p2pDisconnect
  | waitSender
  | blockedSender
  | waitReceiver
  | blockedReceiver
  | finishPurpose
  deriving DecidableEq, Repr

/-- The results of `DisconnectThread`: `onDisconnectResult` and `onTurnOffResult`. -/
inductive ResultPoint where
  | idle
  | p2pDisconnect
  | turnOff
  | report
  deriving DecidableEq, Repr

/-- How a call has ended. A disconnection has ended when its thread has and the result was reported;
`notConnected` is a connection that was refused, or whose thread has died. -/
inductive CallEnd where
  | connected (mState : ClientAdapterState) (senderRuns receiverRuns : Bool) (reports : ℕ)
  | notConnected
  | disconnected (senderIsOver receiverIsOver : Bool)
  deriving DecidableEq, Repr

/-- As it should. -/
def CallEnd.Good : CallEnd → Prop
  | .connected mState senderRuns receiverRuns reports =>
    mState = .kActive ∧ senderRuns = true ∧ receiverRuns = true ∧ reports = 1
  | .notConnected => False
  | .disconnected senderIsOver receiverIsOver => senderIsOver = true ∧ receiverIsOver = true

instance (e : CallEnd) : Decidable e.Good := by
  cases e <;> unfold CallEnd.Good <;> infer_instance

/-- `reports` counts the successes that the last connection has reported. -/
structure Adapter where
  mState : ClientAdapterState
  mClientSocket : ClientSocketState
  mIsDisconnectingOnPurpose : Bool
  mIsDisconnectingOnPurposePeer : Bool
  sender : SenderThread
  receiver : ReceiverThread
  caller : Caller
  connecting : ConnectPoint
  disconnecting : DisconnectPoint
  results : ResultPoint
  reports : ℕ
  ends : List CallEnd
  deriving DecidableEq, Repr

namespace Adapter

def init : Adapter :=
  ⟨.kDisconnected, .kClosed, false, false, .init, .init, .idle, .idle, .idle, .idle, 0, []⟩

def view (s : Adapter) : View := ⟨s.mState, s.mClientSocket, s.mIsDisconnectingOnPurpose⟩

inductive Call where
  | connect
  | sleep
  | wakeUp
  | disconnectOnCommand
  | disconnectOnPeerCommand
  | disconnectOnFailure
  deriving DecidableEq, Repr

/-- `disconnectInternal` -/
def disconnectInternal (s : Adapter) : Adapter :=
  { s with caller := .disconnecting, disconnecting := .run }

/-- The next call, once the last one has been reported. A disconnection or `sleep` that is refused
changes nothing. -/
def call (s : Adapter) : Call → Except Linux.Stop Adapter
  | .connect =>
    if s.caller ≠ .idle then .error .waiting
    else if s.mState ≠ .kDisconnected then .ok { s with ends := s.ends ++ [.notConnected] }
    else .ok { s with caller := .connecting, connecting := .run, reports := 0 }
  | .sleep =>
    if s.caller ≠ .connected then .error .waiting
    else if s.mState ≠ .kActive ∨ s.sender.mIsSuspended then .ok s
    else .ok { s with mState := .kGoingSleep, caller := .suspending }
  | .wakeUp =>
    if s.caller ≠ .connected then .error .waiting
    else if s.mState ≠ .kSleeping ∨ ¬ s.sender.mIsSuspended then .ok s
    else
      -- `notifyAll` is called on `Boolean.FALSE`, with `Boolean.TRUE` locked, and throws
      .ok { s with mState := .kWakingUp, sender := { s.sender with mIsSuspended := false } }
  | .disconnectOnCommand =>
    if s.caller ≠ .connected ∨ s.disconnecting ≠ .idle ∨ s.mState = .kGoingSleep then
      .error .waiting
    else if s.mState ≠ .kSleeping then .ok s
    else .ok { s with mIsDisconnectingOnPurpose := true }.disconnectInternal
  | .disconnectOnPeerCommand =>
    if s.caller ≠ .connected ∨ s.disconnecting ≠ .idle then .error .waiting
    else .ok { s with
      mIsDisconnectingOnPurpose := true
      mIsDisconnectingOnPurposePeer := true }.disconnectInternal
  | .disconnectOnFailure =>
    if s.caller ≠ .connected ∨ s.disconnecting ≠ .idle then .error .waiting
    else if s.mState = .kDisconnected ∨ s.mState = .kDisconnecting then .ok s
    else .ok s.disconnectInternal

/-- The `SocketOpenThread` ends with an `IllegalThreadStateException`. -/
def die (s : Adapter) : Adapter :=
  { s with connecting := .idle, ends := s.ends ++ [.notConnected] }

/-- The next step of the connection: of a thread, or the result of the device or the P2P client. -/
def connectStep (s : Adapter) : Except Linux.Stop Adapter :=
  match s.connecting with
  | .idle => .error .waiting
  | .run => .ok { s with mState := .kConnecting, connecting := .turnOn }
  | .turnOn => .ok { s with connecting := .discover }
  | .discover => .ok { s with connecting := .p2pConnect }
  | .p2pConnect => .ok { s with connecting := .openSocket }
  | .openSocket =>
    if s.mClientSocket = .kOpened then .ok { s with connecting := .startSender }
    else if s.mClientSocket ≠ .kClosed then .error .waiting
    else .ok { s with mClientSocket := .kOpening, connecting := .openImpl }
  | .openImpl => .ok { s with mClientSocket := .kOpened, connecting := .startSender }
  | .startSender =>
    if s.sender.mIsOn then .ok { s with connecting := .startReceiver }
    else if s.sender.point ≠ .new then .ok s.die
    else .ok { s with sender := { s.sender with point := .started }, connecting := .startReceiver }
  | .startReceiver =>
    if s.receiver.mIsOn then .ok { s with connecting := .setActive }
    else if s.receiver.point ≠ .new then .ok s.die
    else .ok { s with receiver := { s.receiver with point := .started }, connecting := .setActive }
  | .setActive => .ok { s with mState := .kActive, connecting := .report }
  | .report =>
    .ok { s with
      caller := .connected
      connecting := .idle
      reports := s.reports + 1
      ends := s.ends ++ [.connected s.mState s.sender.IsRunning s.receiver.IsRunning (s.reports + 1)] }

def endDisconnection (s : Adapter) : Adapter :=
  if s.disconnecting = .idle ∧ s.results = .idle then
    { s with ends := s.ends ++ [.disconnected s.sender.IsOver s.receiver.IsOver] }
  else s

/-- The next step of `DisconnectThread`. `wakeUpInternal` finds a flag that is false already. -/
def disconnectStep (s : Adapter) : Except Linux.Stop Adapter :=
  match s.disconnecting with
  | .idle => .error .waiting
  | .run => .ok { s with mState := .kDisconnecting, disconnecting := .checkPeer }
  | .checkPeer =>
    if s.mIsDisconnectingOnPurpose ∧ ¬ s.mIsDisconnectingOnPurposePeer then
      .ok { s with disconnecting := .waitPeer }
    else .ok { s with disconnecting := .finishSender }
  | .waitPeer => .ok { s with disconnecting := .finishSender }
  | .finishSender =>
    .ok { s with sender := { s.sender with mIsOn := false }, disconnecting := .clearSuspended }
  | .clearSuspended =>
    .ok { s with sender := { s.sender with mIsSuspended := false }, disconnecting := .finishReceiver }
  | .finishReceiver =>
    .ok { s with receiver := { s.receiver with mIsOn := false }, disconnecting := .checkSocket }
  | .checkSocket =>
    .ok { s with disconnecting := if s.mClientSocket = .kClosed then .p2pDisconnect else .close }
  | .close =>
    if s.mClientSocket ≠ .kOpened then .error .waiting
    else .ok { s with mClientSocket := .kClosing, disconnecting := .closeImpl }
  | .closeImpl => .ok { s with mClientSocket := .kClosed, disconnecting := .p2pDisconnect }
  | .p2pDisconnect => .ok { s with disconnecting := .waitSender, results := .p2pDisconnect }
  | .waitSender =>
    if s.sender.mIsOn then
      .ok { s with sender := { s.sender with mIsWaiting := true }, disconnecting := .blockedSender }
    else .ok { s with disconnecting := .waitReceiver }
  | .blockedSender => .ok { s with disconnecting := .waitReceiver }
  | .waitReceiver =>
    if s.receiver.mIsOn then
      .ok { s with
        receiver := { s.receiver with mIsWaiting := true }
        disconnecting := .blockedReceiver }
    else .ok { s with disconnecting := .finishPurpose }
  | .blockedReceiver => .ok { s with disconnecting := .finishPurpose }
  | .finishPurpose =>
    .ok ({ s with
      mIsDisconnectingOnPurpose := false
      mIsDisconnectingOnPurposePeer := false
      disconnecting := .idle } : Adapter).endDisconnection

/-- The next result. -/
def resultStep (s : Adapter) : Except Linux.Stop Adapter :=
  match s.results with
  | .idle => .error .waiting
  | .p2pDisconnect => .ok { s with results := .turnOff }
  | .turnOff => .ok { s with mState := .kDisconnected, results := .report }
  | .report => .ok ({ s with caller := .idle, results := .idle } : Adapter).endDisconnection

def senderStep (s : Adapter) (outcome : Outcome) : Except Linux.Stop Adapter :=
  match s.sender.step outcome s.view with
  | none => .error .waiting
  | some (t, v) =>
    .ok { s with mState := v.mState, mClientSocket := v.mClientSocket, sender := t }

def receiverStep (s : Adapter) (outcome : Outcome) : Except Linux.Stop Adapter :=
  match s.receiver.step outcome s.view with
  | none => .error .waiting
  | some (t, v) =>
    .ok { s with mState := v.mState, mClientSocket := v.mClientSocket, receiver := t }

inductive Label where
  | call (c : Call)
  /-- `suspendSending`, in `sleep`. -/
  | suspendSending
  /-- `peerKnowsDisconnectingOnPurpose`, when the acknowledgement comes. -/
  | peerKnows
  | connect
  | disconnect
  | result
  | sender (outcome : Outcome)
  | receiver (outcome : Outcome)
  deriving DecidableEq, Repr

def step (s : Adapter) : Label → Except Linux.Stop Adapter
  | .call c => s.call c
  | .suspendSending =>
    if s.caller ≠ .suspending then .error .waiting
    else .ok { s with caller := .connected, sender := { s.sender with mIsSuspended := true } }
  | .peerKnows => .ok { s with mIsDisconnectingOnPurposePeer := true }
  | .connect => s.connectStep
  | .disconnect => s.disconnectStep
  | .result => s.resultStep
  | .sender outcome => s.senderStep outcome
  | .receiver outcome => s.receiverStep outcome

end Adapter

/-! ## What the threads keep -/

namespace SenderThread

variable {t t' : SenderThread} {v v' : View} {outcome : Outcome}

/-- The thread is on its way to its loop, or in it, and has no reason to leave it. -/
def IsUp (t : SenderThread) : Prop :=
  t.mIsSuspended = false ∧
    match t.point with
    | .started => True
    | .clearWaiting | .clearSuspended | .loop | .isSuspended | .dequeue | .checkState
    | .isSuspendedAgain | .send | .socketSend | .sendImpl => t.mIsOn = true
    | _ => False

theorem IsUp.isRunning (h : t.IsUp) : t.IsRunning = true := by
  obtain ⟨-, hp⟩ := h
  unfold IsRunning
  cases hpt : t.point <;> simp_all

theorem IsUp.step (h : t.IsUp) (hsocket : v.mClientSocket = .kOpened)
    (hsend : t.point = .send → v.mState = .kActive)
    (himpl : t.point = .sendImpl → outcome ≠ .failed) (hs : t.step outcome v = some (t', v')) :
    t'.IsUp ∧ v' = v := by
  obtain ⟨on, suspended, waiting, point⟩ := t
  obtain ⟨hsus, hp⟩ := h
  obtain rfl : suspended = false := hsus
  cases point <;> simp only [SenderThread.step] at hp hs
  case started => cases hs; exact ⟨⟨rfl, rfl⟩, rfl⟩
  case clearWaiting => cases hs; exact ⟨⟨rfl, hp⟩, rfl⟩
  case clearSuspended => cases hs; exact ⟨⟨rfl, hp⟩, rfl⟩
  case loop => rw [hp] at hs; cases hs; exact ⟨⟨rfl, rfl⟩, rfl⟩
  case isSuspended => cases hs; exact ⟨⟨rfl, hp⟩, rfl⟩
  case dequeue =>
    cases hs
    refine ⟨⟨rfl, ?_⟩, rfl⟩
    by_cases ho : outcome = .ok <;> simpa [ho] using hp
  case checkState =>
    cases hs
    refine ⟨⟨rfl, ?_⟩, rfl⟩
    split_ifs <;> exact hp
  case isSuspendedAgain => cases hs; exact ⟨⟨rfl, hp⟩, rfl⟩
  case send => rw [hsend rfl] at hs; cases hs; exact ⟨⟨rfl, hp⟩, rfl⟩
  case socketSend => rw [hsocket] at hs; cases hs; exact ⟨⟨rfl, hp⟩, rfl⟩
  case sendImpl => rw [if_neg (himpl rfl)] at hs; cases hs; exact ⟨⟨rfl, hp⟩, rfl⟩

theorem step_ne_new (hs : t.step outcome v = some (t', v')) :
    t.point ≠ .new ∧ t'.point ≠ .new := by
  obtain ⟨on, suspended, waiting, point⟩ := t
  cases point <;> simp only [step] at hs
  case new => cases hs
  case terminated => cases hs
  case sendImpl => split at hs <;> cases hs <;> exact ⟨nofun, nofun⟩
  all_goals
    cases hs
    refine ⟨nofun, ?_⟩
    dsimp only
    first
      | exact SenderPoint.noConfusion
      | split_ifs <;> exact SenderPoint.noConfusion

theorem IsOver.step (h : t.IsOver = true) (hs : t.step outcome v = some (t', v')) :
    t'.IsOver = true ∧ t'.mIsOn = t.mIsOn := by
  obtain ⟨on, suspended, waiting, point⟩ := t
  simp only [IsOver, decide_eq_true_eq] at h
  rcases h with rfl | rfl
  · cases hs
    exact ⟨rfl, rfl⟩
  · cases hs

end SenderThread

namespace ReceiverThread

variable {t t' : ReceiverThread} {v v' : View} {outcome : Outcome}

/-- The thread is on its way to its loop, or in it, and has no reason to leave it. -/
def IsUp (t : ReceiverThread) : Prop :=
  match t.point with
  | .started => True
  | .new | .left | .terminated => False
  | _ => t.mIsOn = true

theorem IsUp.isRunning (h : t.IsUp) : t.IsRunning = true := by
  unfold IsUp at h
  unfold IsRunning
  cases hpt : t.point <;> simp_all

theorem IsUp.step (h : t.IsUp) (hsocket : v.mClientSocket = .kOpened)
    (hreceive : t.point = .receive → v.mState = .kActive)
    (himpl : t.point = .receiveImpl → outcome = .ok)
    (hack : t.point = .ackImpl → outcome ≠ .failed) (hs : t.step outcome v = some (t', v')) :
    t'.IsUp ∧ v' = v := by
  obtain ⟨on, waiting, point⟩ := t
  unfold IsUp at h
  cases point <;> simp only [ReceiverThread.step] at h hs
  case started => cases hs; exact ⟨rfl, rfl⟩
  case clearWaiting => cases hs; exact ⟨h, rfl⟩
  case loop => rw [h] at hs; cases hs; exact ⟨rfl, rfl⟩
  case receive => rw [hreceive rfl] at hs; cases hs; exact ⟨h, rfl⟩
  case socketReceive => rw [hsocket] at hs; cases hs; exact ⟨h, rfl⟩
  case receiveImpl => rw [himpl rfl] at hs; cases hs; exact ⟨h, rfl⟩
  case received =>
    cases hs
    refine ⟨?_, rfl⟩
    unfold IsUp
    by_cases ho : outcome = .ok <;> simpa [ho] using h
  case ack =>
    cases hs
    refine ⟨?_, rfl⟩
    unfold IsUp
    by_cases ho : v.mState = .kActive <;> simpa [ho] using h
  case socketAck => rw [hsocket] at hs; cases hs; exact ⟨h, rfl⟩
  case ackImpl => rw [if_neg (hack rfl)] at hs; cases hs; exact ⟨h, rfl⟩

theorem step_ne_new (hs : t.step outcome v = some (t', v')) : t.point ≠ .new := by
  intro hnew
  unfold step at hs
  rw [hnew] at hs
  cases hs

theorem IsOver.step (h : t.IsOver = true) (hs : t.step outcome v = some (t', v')) :
    t'.IsOver = true := by
  obtain ⟨on, waiting, point⟩ := t
  simp only [IsOver, decide_eq_true_eq] at h
  rcases h with rfl | rfl
  · cases hs
    rfl
  · cases hs

end ReceiverThread

namespace Adapter

/-! ## What the steps keep -/

/-- Not one of the steps that go wrong: the adapter is connected for the first time; while a connection
is in progress, no loop asks the adapter before it is active, and no I/O call fails; and the
disconnection waits for a thread that is out of its loop. -/
def Kept (s : Adapter) : Label → Prop
  | .call .connect => s.sender.point = .new
  | .sender outcome =>
    (s.sender.point = .send → s.mState ≠ .kConnecting) ∧
      (s.sender.point = .sendImpl → outcome = .failed → s.caller ≠ .connecting)
  | .receiver outcome =>
    (s.receiver.point = .receive → s.mState ≠ .kConnecting) ∧
      (s.receiver.point = .receiveImpl → outcome ≠ .ok → s.caller ≠ .connecting) ∧
      (s.receiver.point = .ackImpl → outcome = .failed → s.caller ≠ .connecting)
  | .disconnect =>
    (s.disconnecting = .waitSender → s.sender.IsOver = true) ∧
      (s.disconnecting = .waitReceiver → s.receiver.IsOver = true)
  | _ => True

instance (s : Adapter) (l : Label) : Decidable (s.Kept l) := by
  cases l with
  | call c => cases c <;> unfold Kept <;> infer_instance
  | _ => unfold Kept; infer_instance

/-- No thread was started. -/
structure Fresh (s : Adapter) : Prop where
  sender : s.sender = .init
  receiver : s.receiver = .init
  disconnecting : s.disconnecting = .idle
  results : s.results = .idle
  early : s.connecting ≠ .startReceiver ∧ s.connecting ≠ .setActive ∧ s.connecting ≠ .report
  idle : s.connecting = .idle → s.caller = .idle ∧ s.mState = .kDisconnected
  begun : s.connecting ≠ .idle → s.caller = .connecting ∧ s.reports = 0
  mState : s.connecting ≠ .idle → s.connecting ≠ .run → s.mState = .kConnecting
  socket : s.connecting = .startSender → s.mClientSocket = .kOpened

/-- The first thread was started, and the connection has not been reported. -/
structure Late (s : Adapter) : Prop where
  caller : s.caller = .connecting
  reports : s.reports = 0
  disconnecting : s.disconnecting = .idle
  results : s.results = .idle
  socket : s.mClientSocket = .kOpened
  sender : s.sender.IsUp
  connecting : (s.connecting = .startReceiver ∧ s.receiver = .init ∧ s.mState = .kConnecting) ∨
    (s.connecting = .setActive ∧ s.receiver.IsUp ∧ s.mState = .kConnecting) ∨
    (s.connecting = .report ∧ s.receiver.IsUp ∧ s.mState = .kActive)

/-- The connection was reported; a disconnection waits for the threads in turn. -/
structure Settled (s : Adapter) : Prop where
  sender : s.sender.point ≠ .new
  connecting : s.connecting = .idle
  senderIsOver : s.disconnecting ∈ [.blockedSender, .waitReceiver, .blockedReceiver, .finishPurpose] ∨
    (s.disconnecting = .idle ∧ s.results ≠ .idle) → s.sender.IsOver = true
  receiverIsOver : s.disconnecting ∈ [.blockedReceiver, .finishPurpose] ∨
    (s.disconnecting = .idle ∧ s.results ≠ .idle) → s.receiver.IsOver = true

structure Inv (s : Adapter) : Prop where
  good : ∀ e ∈ s.ends, e.Good
  phase : s.Fresh ∨ s.Late ∨ s.Settled

variable {s s' : Adapter}

theorem inv_init : Inv init :=
  ⟨nofun, .inl ⟨rfl, rfl, rfl, rfl, by decide, fun _ => ⟨rfl, rfl⟩, fun h => absurd rfl h,
    fun h => absurd rfl h, nofun⟩⟩

theorem Fresh.caller (h : s.Fresh) : s.caller = .idle ∨ s.caller = .connecting := by
  by_cases hi : s.connecting = .idle
  · exact .inl (h.idle hi).1
  · exact .inr (h.begun hi).1

/-- A connection begins; nothing else can be called. -/
theorem Fresh.call (h : s.Fresh) {c : Call} (hs : s.call c = .ok s') :
    s'.Fresh ∧ s'.ends = s.ends := by
  have hcaller : s.caller ≠ .connected := by
    rcases h.caller with hc | hc <;> simp [hc]
  cases c <;> simp only [Adapter.call, hcaller, ne_eq, not_false_eq_true, true_or, if_true] at hs
  case connect =>
    split at hs
    · cases hs
    · next hc =>
      have hi : s.connecting = .idle := by
        by_contra hi
        exact hc (by rw [(h.begun hi).1]; nofun)
      rw [if_neg (by simp [(h.idle hi).2])] at hs
      cases hs
      exact ⟨⟨h.sender, h.receiver, h.disconnecting, h.results, by simp, nofun,
        fun _ => ⟨rfl, rfl⟩, fun _ hr => absurd rfl hr, nofun⟩, rfl⟩
  all_goals cases hs

theorem Fresh.connectStep (h : s.Fresh) (hs : s.connectStep = .ok s') :
    (s'.Fresh ∨ s'.Late) ∧ s'.ends = s.ends := by
  obtain ⟨hsender, hreceiver, hdis, hres, ⟨hrec, hact, hrep⟩, -, hbegun, hstate, hsocket⟩ := h
  cases hc : s.connecting <;> simp only [Adapter.connectStep, hc] at hs <;>
    simp only [hc, ne_eq, not_true_eq_false] at hrec hact hrep
  case idle => cases hs
  case run =>
    cases hs
    exact ⟨.inl ⟨hsender, hreceiver, hdis, hres, by simp, nofun, fun _ => hbegun (by simp [hc]),
      fun _ _ => rfl, nofun⟩, rfl⟩
  case openSocket =>
    have hs' := hstate (by simp [hc]) (by simp [hc])
    split at hs
    · next hopened =>
      cases hs
      exact ⟨.inl ⟨hsender, hreceiver, hdis, hres, by simp, nofun, fun _ => hbegun (by simp [hc]),
        fun _ _ => hs', fun _ => hopened⟩, rfl⟩
    · split at hs
      · cases hs
      · cases hs
        exact ⟨.inl ⟨hsender, hreceiver, hdis, hres, by simp, nofun,
          fun _ => hbegun (by simp [hc]), fun _ _ => hs', nofun⟩, rfl⟩
  case openImpl =>
    cases hs
    exact ⟨.inl ⟨hsender, hreceiver, hdis, hres, by simp, nofun, fun _ => hbegun (by simp [hc]),
      fun _ _ => hstate (by simp [hc]) (by simp [hc]), fun _ => rfl⟩, rfl⟩
  case startSender =>
    rw [hsender] at hs
    cases hs
    exact ⟨.inr ⟨(hbegun (by simp [hc])).1, (hbegun (by simp [hc])).2, hdis, hres, hsocket hc,
      ⟨rfl, trivial⟩, .inl ⟨rfl, hreceiver, hstate (by simp [hc]) (by simp [hc])⟩⟩, rfl⟩
  all_goals
    cases hs
    exact ⟨.inl ⟨hsender, hreceiver, hdis, hres, by simp, nofun, fun _ => hbegun (by simp [hc]),
      fun _ _ => hstate (by simp [hc]) (by simp [hc]), nofun⟩, rfl⟩

theorem Fresh.step (h : s.Fresh) {l : Label} (hs : s.step l = .ok s') :
    (s'.Fresh ∨ s'.Late) ∧ s'.ends = s.ends := by
  cases l with
  | call c => exact (h.call hs).imp .inl id
  | suspendSending =>
    have hcaller : s.caller ≠ .suspending := by
      rcases h.caller with hc | hc <;> simp [hc]
    rw [Adapter.step, if_pos hcaller] at hs
    cases hs
  | peerKnows => cases hs; exact ⟨.inl { h with }, rfl⟩
  | connect => exact h.connectStep hs
  | disconnect => simp [Adapter.step, disconnectStep, h.disconnecting] at hs
  | result => simp [Adapter.step, resultStep, h.results] at hs
  | sender outcome =>
    simp only [Adapter.step, senderStep, h.sender] at hs
    cases hs
  | receiver outcome =>
    simp only [Adapter.step, receiverStep, h.receiver] at hs
    cases hs

theorem Late.mState_active (h : s.Late) (hne : s.mState ≠ .kConnecting) : s.mState = .kActive := by
  rcases h.connecting with ⟨-, -, hst⟩ | ⟨-, -, hst⟩ | ⟨-, -, hst⟩
  · exact absurd hst hne
  · exact absurd hst hne
  · exact hst

theorem Late.connectStep (h : s.Late) (hgood : ∀ e ∈ s.ends, e.Good)
    (hs : s.connectStep = .ok s') : Inv s' := by
  obtain ⟨hcaller, hreports, hdis, hres, hsocket, hup, hconn⟩ := h
  rcases hconn with ⟨hc, hrec, hst⟩ | ⟨hc, hrec, hst⟩ | ⟨hc, hrec, hst⟩ <;>
    simp only [Adapter.connectStep, hc] at hs
  · rw [hrec] at hs
    cases hs
    exact ⟨hgood, .inr (.inl ⟨hcaller, hreports, hdis, hres, hsocket, hup,
      .inr (.inl ⟨rfl, trivial, hst⟩)⟩)⟩
  · cases hs
    exact ⟨hgood, .inr (.inl ⟨hcaller, hreports, hdis, hres, hsocket, hup,
      .inr (.inr ⟨rfl, hrec, rfl⟩)⟩)⟩
  · cases hs
    have hrunning := hup.isRunning
    refine ⟨List.forall_mem_append.mpr ⟨hgood, ?_⟩, .inr (.inr ⟨?_, rfl, fun ho => ?_, fun ho => ?_⟩)⟩
    · exact List.forall_mem_singleton.mpr ⟨hst, hrunning, hrec.isRunning, by rw [hreports]⟩
    · intro hnew
      simp only at hnew
      simp [SenderThread.IsRunning, hnew] at hrunning
    · simp [hdis, hres] at ho
    · simp [hdis, hres] at ho

theorem Late.step (h : s.Late) (hgood : ∀ e ∈ s.ends, e.Good) {l : Label} (hk : s.Kept l)
    (hs : s.step l = .ok s') : Inv s' := by
  have hcaller := h.caller
  cases l with
  | call c => cases c <;> simp [Adapter.step, Adapter.call, hcaller] at hs
  | suspendSending => simp [Adapter.step, hcaller] at hs
  | peerKnows => cases hs; exact ⟨hgood, .inr (.inl { h with })⟩
  | connect => exact h.connectStep hgood hs
  | disconnect => simp [Adapter.step, disconnectStep, h.disconnecting] at hs
  | result => simp [Adapter.step, resultStep, h.results] at hs
  | sender outcome =>
    obtain ⟨hsend, himpl⟩ := hk
    simp only [Adapter.step, senderStep] at hs
    split at hs
    · cases hs
    · next t v hstep =>
      cases hs
      obtain ⟨hup, rfl⟩ := h.sender.step h.socket (fun hp => h.mState_active (hsend hp))
        (fun hp ho => himpl hp ho hcaller) hstep
      exact ⟨hgood, .inr (.inl { h with sender := hup })⟩
  | receiver outcome =>
    obtain ⟨hreceive, himpl, hack⟩ := hk
    simp only [Adapter.step, receiverStep] at hs
    split at hs
    · cases hs
    · next t v hstep =>
      cases hs
      have hup : s.receiver.IsUp → t.IsUp ∧ v = s.view := fun hrec =>
        hrec.step h.socket (fun hp => h.mState_active (hreceive hp))
          (fun hp => by_contra fun ho => himpl hp ho hcaller) (fun hp ho => hack hp ho hcaller) hstep
      rcases h.connecting with ⟨hc, hrec, hst⟩ | ⟨hc, hrec, hst⟩ | ⟨hc, hrec, hst⟩
      · exact absurd (by rw [hrec]; rfl) (ReceiverThread.step_ne_new hstep)
      · obtain ⟨hup', rfl⟩ := hup hrec
        exact ⟨hgood, .inr (.inl { h with connecting := .inr (.inl ⟨hc, hup', hst⟩) })⟩
      · obtain ⟨hup', rfl⟩ := hup hrec
        exact ⟨hgood, .inr (.inl { h with connecting := .inr (.inr ⟨hc, hup', hst⟩) })⟩

/-- Both threads are over when the disconnection ends. -/
theorem inv_endDisconnection (hgood : ∀ e ∈ s.ends, e.Good) (h : s.Settled)
    (hover : s.disconnecting = .idle → s.results = .idle →
      s.sender.IsOver = true ∧ s.receiver.IsOver = true) : Inv s.endDisconnection := by
  unfold endDisconnection
  split
  · next hidle =>
    obtain ⟨hdis, hres⟩ := hidle
    refine ⟨List.forall_mem_append.mpr ⟨hgood, ?_⟩, .inr (.inr { h with })⟩
    exact List.forall_mem_singleton.mpr (hover hdis hres)
  · exact ⟨hgood, .inr (.inr h)⟩

theorem Settled.disconnectStep (h : s.Settled) (hgood : ∀ e ∈ s.ends, e.Good)
    (hk : s.Kept .disconnect) (hs : s.disconnectStep = .ok s') : Inv s' := by
  obtain ⟨hsender, hconn, hover, hover'⟩ := h
  obtain ⟨hwait, hwait'⟩ := hk
  cases hd : s.disconnecting <;> simp only [Adapter.disconnectStep, hd] at hs <;>
    simp only [hd] at hover hover'
  case idle => cases hs
  case finishPurpose =>
    cases hs
    have hs' : s.sender.IsOver = true := hover (by simp)
    have hr' : s.receiver.IsOver = true := hover' (by simp)
    exact inv_endDisconnection hgood ⟨hsender, hconn, fun _ => hs', fun _ => hr'⟩
      fun _ _ => ⟨hs', hr'⟩
  case waitSender =>
    have hs' : s.sender.IsOver = true := hwait hd
    split at hs <;> cases hs <;>
      exact ⟨hgood, .inr (.inr ⟨hsender, hconn, fun _ => hs', by simp⟩)⟩
  case blockedSender =>
    cases hs
    exact ⟨hgood, .inr (.inr ⟨hsender, hconn, fun _ => hover (by simp), by simp⟩)⟩
  case waitReceiver =>
    have hs' : s.sender.IsOver = true := hover (by simp)
    have hr' : s.receiver.IsOver = true := hwait' hd
    split at hs <;> cases hs <;>
      exact ⟨hgood, .inr (.inr ⟨hsender, hconn, fun _ => hs', fun _ => hr'⟩)⟩
  case blockedReceiver =>
    cases hs
    exact ⟨hgood, .inr (.inr ⟨hsender, hconn, fun _ => hover (by simp), fun _ => hover' (by simp)⟩)⟩
  case checkPeer =>
    split at hs <;> cases hs <;>
      exact ⟨hgood, .inr (.inr ⟨hsender, hconn, by simp, by simp⟩)⟩
  case close =>
    split at hs <;> cases hs
    exact ⟨hgood, .inr (.inr ⟨hsender, hconn, by simp, by simp⟩)⟩
  case checkSocket =>
    cases hs
    refine ⟨hgood, .inr (.inr ⟨hsender, hconn, fun ho => ?_, fun ho => ?_⟩)⟩ <;>
      split at ho <;> simp at ho
  all_goals
    cases hs
    exact ⟨hgood, .inr (.inr ⟨hsender, hconn, by simp, by simp⟩)⟩

theorem Settled.resultStep (h : s.Settled) (hgood : ∀ e ∈ s.ends, e.Good)
    (hs : s.resultStep = .ok s') : Inv s' := by
  obtain ⟨hsender, hconn, hover, hover'⟩ := h
  cases hr : s.results <;> simp only [Adapter.resultStep, hr] at hs <;>
    simp only [hr] at hover hover'
  case idle => cases hs
  case report =>
    cases hs
    refine inv_endDisconnection hgood ⟨hsender, hconn, fun ho => hover ?_, fun ho => hover' ?_⟩
      fun hd _ => ⟨hover (.inr ⟨hd, nofun⟩), hover' (.inr ⟨hd, nofun⟩)⟩
    · exact ho.imp id fun ⟨hd, _⟩ => ⟨hd, nofun⟩
    · exact ho.imp id fun ⟨hd, _⟩ => ⟨hd, nofun⟩
  all_goals
    cases hs
    refine ⟨hgood, .inr (.inr ⟨hsender, hconn, fun ho => hover ?_, fun ho => hover' ?_⟩)⟩
    · exact ho.imp id fun ⟨hd, _⟩ => ⟨hd, nofun⟩
    · exact ho.imp id fun ⟨hd, _⟩ => ⟨hd, nofun⟩

/-- A call that begins a disconnection, or changes states and flags only. -/
theorem Settled.call (h : s.Settled) (hgood : ∀ e ∈ s.ends, e.Good) {c : Call}
    (hk : s.Kept (.call c)) (hs : s.call c = .ok s') : Inv s' := by
  have hinv : Inv s := ⟨hgood, .inr (.inr h)⟩
  have hinternal : ∀ purpose peer : Bool, Inv ({ s with
      mIsDisconnectingOnPurpose := purpose
      mIsDisconnectingOnPurposePeer := peer } : Adapter).disconnectInternal := fun _ _ =>
    ⟨hgood, .inr (.inr ⟨h.sender, h.connecting, by simp [disconnectInternal],
      by simp [disconnectInternal]⟩)⟩
  cases c <;> simp only [Adapter.call] at hs
  case connect => exact absurd hk h.sender
  case sleep =>
    split at hs
    · cases hs
    · split at hs <;> cases hs
      · exact hinv
      · exact ⟨hgood, .inr (.inr { h with })⟩
  case wakeUp =>
    split at hs
    · cases hs
    · split at hs <;> cases hs
      · exact hinv
      · exact ⟨hgood, .inr (.inr { h with })⟩
  case disconnectOnCommand =>
    split at hs
    · cases hs
    · split at hs <;> cases hs
      · exact hinv
      · exact hinternal true s.mIsDisconnectingOnPurposePeer
  case disconnectOnPeerCommand =>
    split at hs <;> cases hs
    exact hinternal true true
  case disconnectOnFailure =>
    split at hs
    · cases hs
    · split at hs <;> cases hs
      · exact hinv
      · exact hinternal s.mIsDisconnectingOnPurpose s.mIsDisconnectingOnPurposePeer

theorem Settled.step (h : s.Settled) (hgood : ∀ e ∈ s.ends, e.Good) {l : Label} (hk : s.Kept l)
    (hs : s.step l = .ok s') : Inv s' := by
  cases l with
  | call c => exact h.call hgood hk hs
  | suspendSending =>
    simp only [Adapter.step] at hs
    split at hs <;> cases hs
    exact ⟨hgood, .inr (.inr { h with })⟩
  | peerKnows => cases hs; exact ⟨hgood, .inr (.inr { h with })⟩
  | connect => simp [Adapter.step, Adapter.connectStep, h.connecting] at hs
  | disconnect => exact h.disconnectStep hgood hk hs
  | result => exact h.resultStep hgood hs
  | sender outcome =>
    simp only [Adapter.step, senderStep] at hs
    split at hs
    · cases hs
    · next t v hstep =>
      cases hs
      exact ⟨hgood, .inr (.inr ⟨(SenderThread.step_ne_new hstep).2, h.connecting,
        fun ho => (SenderThread.IsOver.step (h.senderIsOver ho) hstep).1, h.receiverIsOver⟩)⟩
  | receiver outcome =>
    simp only [Adapter.step, receiverStep] at hs
    split at hs
    · cases hs
    · next t v hstep =>
      cases hs
      exact ⟨hgood, .inr (.inr ⟨h.sender, h.connecting, h.senderIsOver,
        fun ho => ReceiverThread.IsOver.step (h.receiverIsOver ho) hstep⟩)⟩

theorem step_inv (s : Adapter) (l : Label) (s' : Adapter) (h : Inv s) (hk : s.Kept l)
    (hs : s.step l = .ok s') : Inv s' := by
  rcases h.phase with hfresh | hlate | hsettled
  · obtain ⟨hphase, hends⟩ := hfresh.step hs
    exact ⟨hends ▸ h.good, hphase.imp id .inl⟩
  · exact hlate.step h.good hk hs
  · exact hsettled.step h.good hk hs

/-! ## Runs -/

/-- A connection and a disconnection on failure. -/
def cycle : List Label := List.flatten [
  .call .connect :: List.replicate 10 .connect,
  List.replicate 5 (.sender .ok),
  List.replicate 5 (.receiver .ok),
  [.receiver .failed, .receiver .ok],
  .call .disconnectOnFailure :: List.replicate 7 .disconnect,
  [.sender .short, .sender .ok, .sender .ok],
  [.disconnect, .disconnect, .result, .result, .disconnect, .result]]

def connections (s : Adapter) : List CallEnd :=
  s.ends.filter fun e => match e with | .connected .. => true | _ => false

/-- The sender thread has had its turn, and no connection is past it. -/
structure Spent (s : Adapter) : Prop where
  isOver : s.sender.IsOver = true
  off : s.sender.mIsOn = false
  connecting : s.connecting ≠ .startReceiver ∧ s.connecting ≠ .setActive ∧ s.connecting ≠ .report

theorem Spent.connectStep (h : s.Spent) (hs : s.connectStep = .ok s') :
    s'.Spent ∧ s'.connections = s.connections := by
  obtain ⟨hover, hoff, hrec, hact, hrep⟩ := h
  have hstarted : s.sender.point ≠ .new := by
    intro hnew
    simp [SenderThread.IsOver, hnew] at hover
  cases hc : s.connecting <;> simp only [Adapter.connectStep, hc] at hs <;>
    simp only [hc, ne_eq, not_true_eq_false] at hrec hact hrep
  case idle => cases hs
  case openSocket =>
    split at hs
    · cases hs
      exact ⟨⟨hover, hoff, by simp⟩, rfl⟩
    · split at hs <;> cases hs
      exact ⟨⟨hover, hoff, by simp⟩, rfl⟩
  case startSender =>
    rw [hoff, if_neg Bool.false_ne_true, if_pos hstarted] at hs
    cases hs
    exact ⟨⟨hover, hoff, by simp [die]⟩, by simp [die, connections]⟩
  all_goals
    cases hs
    exact ⟨⟨hover, hoff, by simp⟩, rfl⟩

theorem endDisconnection_spent (h : s.Spent) :
    s.endDisconnection.Spent ∧ s.endDisconnection.connections = s.connections := by
  unfold endDisconnection
  split
  · exact ⟨{ h with }, by simp [connections]⟩
  · exact ⟨h, rfl⟩

theorem Spent.disconnectStep (h : s.Spent) (hs : s.disconnectStep = .ok s') :
    s'.Spent ∧ s'.connections = s.connections := by
  cases hd : s.disconnecting <;> simp only [Adapter.disconnectStep, hd] at hs
  case idle => cases hs
  case finishSender => cases hs; exact ⟨{ h with off := rfl }, rfl⟩
  case finishPurpose => cases hs; exact endDisconnection_spent { h with }
  case checkPeer => split at hs <;> cases hs <;> exact ⟨{ h with }, rfl⟩
  case close => split at hs <;> cases hs; exact ⟨{ h with }, rfl⟩
  case waitSender => split at hs <;> cases hs <;> exact ⟨{ h with }, rfl⟩
  case waitReceiver => split at hs <;> cases hs <;> exact ⟨{ h with }, rfl⟩
  all_goals
    cases hs
    exact ⟨{ h with }, rfl⟩

theorem Spent.call (h : s.Spent) {c : Call} (hs : s.call c = .ok s') :
    s'.Spent ∧ s'.connections = s.connections := by
  cases c <;> simp only [Adapter.call] at hs <;> split at hs
  case connect.isFalse =>
    split at hs <;> cases hs
    · exact ⟨{ h with }, by simp [connections]⟩
    · exact ⟨{ h with connecting := by simp }, rfl⟩
  case disconnectOnPeerCommand.isFalse => cases hs; exact ⟨{ h with }, rfl⟩
  all_goals
    first
      | split at hs <;> cases hs <;> exact ⟨{ h with }, rfl⟩
      | cases hs

theorem Spent.step (h : s.Spent) {l : Label} (hs : s.step l = .ok s') :
    s'.Spent ∧ s'.connections = s.connections := by
  cases l with
  | call c => exact h.call hs
  | suspendSending =>
    simp only [Adapter.step] at hs
    split at hs <;> cases hs
    exact ⟨{ h with }, rfl⟩
  | peerKnows => cases hs; exact ⟨{ h with }, rfl⟩
  | connect => exact h.connectStep hs
  | disconnect => exact h.disconnectStep hs
  | result =>
    cases hr : s.results <;> simp only [Adapter.step, Adapter.resultStep, hr] at hs
    case idle => cases hs
    case report => cases hs; exact endDisconnection_spent { h with }
    all_goals
      cases hs
      exact ⟨{ h with }, rfl⟩
  | sender outcome =>
    simp only [Adapter.step, senderStep] at hs
    split at hs
    · cases hs
    · next t v hstep =>
      cases hs
      obtain ⟨hover, hon⟩ := SenderThread.IsOver.step h.isOver hstep
      exact ⟨⟨hover, hon.trans h.off, h.connecting⟩, rfl⟩
  | receiver outcome =>
    simp only [Adapter.step, receiverStep] at hs
    split at hs <;> cases hs
    exact ⟨{ h with }, rfl⟩

/-- **An adapter whose sender thread is over is never connected again**, whatever is called. -/
theorem never_connected_again {ls : List Label} (h : s.Spent) (hr : Runs.Reached step s ls s') :
    s'.connections = s.connections := by
  refine (@Runs.throughout_of_allSteps Adapter Label Linux.Stop step
    (fun t => t.Spent ∧ t.connections = s.connections) (fun _ _ => True) ?_ s s' ls ⟨h, rfl⟩
    (Runs.AllSteps.of_labels (fun _ _ _ => trivial) s) hr).2
  rintro t l t' ⟨ht, hconn⟩ - hs
  obtain ⟨ht', hconn'⟩ := ht.step hs
  exact ⟨ht', hconn'.trans hconn⟩

end Adapter

end AdapterCycles
end Android
end VirtualConnection
