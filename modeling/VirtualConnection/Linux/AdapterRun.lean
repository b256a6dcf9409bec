import VirtualConnection.Lib.Runs
import VirtualConnection.Linux.ServerAdapter

/-!
# Linux.AdapterRun

Connections and disconnections of one adapter, step by step, while its sender thread and its receiver
thread run: they change the state of the adapter too, and close its socket when an I/O call fails. The
calls come one after the other. What a device, a P2P server or a socket answers is in the label, and
so is what a thread finds: a segment, an I/O error, a reason to leave its loop.

`std::condition_variable::wait` may return at any time. In `wait_until_enable_loop` and
`wait_until_resume_loop` the threads go on; `wait_until_loop_ends` does not look at the flag again.

`disallowFailed` and `turnOffFailed` say how the last rollback ended, and `activations` what the three
components were when a connection set the state to `kActive`; no code reads them.
-/

namespace VirtualConnection
namespace Linux

/-! ## The two threads -/

inductive LoopRole where
  | sender
  | receiver
  deriving DecidableEq, Repr

inductive LoopPoint where
  /-- `wait_until_enable_loop`. -/
  | outside
  /-- `set_is_loop_ends(false)`. -/
  | starting
  /-- The head of the loop. -/
  | check
  /-- "If loop is paused, wait until resume loop", of the sender. -/
  | pause
  /-- `set_state(kSleeping)`. -/
  | report
  /-- `wait_until_resume_loop`. -/
  | wait
  /-- `get_state` after the wait. -/
  | resumed
  /-- `set_state(kActive)`. -/
  | reactivate
  /-- The sender takes a segment, and looks at the pause flag again. -/
  | dequeue
  /-- `get_state` in `ServerAdapter::send` and `receive`. -/
  | readState
  /-- They wait for `kActive`. -/
  | connecting
  /-- The check of the socket's state in `ServerSocket::send` and `receive`. -/
  | calling
  /-- `send_impl`, `receive_impl`, and what follows. -/
  | inSocket
  | returned
  /-- `set_is_loop_enabled(false)`, after the loop. -/
  | disabling
  /-- `set_is_loop_paused(false)`, after the sender's loop. -/
  | unpausing
  /-- `set_is_loop_ends(true)`. -/
  | ending
  deriving DecidableEq, Repr

/-- The pause flag of a receiver thread, which has none, stays `false`. -/
structure LoopThread where
  isLoopEnabled : Bool
  isLoopPaused : Bool
  isLoopEnds : Bool
  point : LoopPoint
  deriving DecidableEq, Repr

namespace LoopThread

/-- What the threads share with the calls. -/
structure View where
  mState : ServerAdapterState
  mServerSocket : ServerSocketState
  deriving DecidableEq, Repr

/-- `send` asks for `kActive`, `receive` for one of four states. -/
def LetsThrough : LoopRole → ServerAdapterState → Bool
  | .sender, state => state = .kActive
  | .receiver, state =>
    state = .kActive ∨ state = .kGoingSleeping ∨ state = .kSleeping ∨ state = .kWakingUp

/-- One step of a thread. `b` says that there is a segment to send, that the I/O call fails so that
the socket is closed, or that the loop goes on. -/
def step (role : LoopRole) (b : Bool) (v : View) (t : LoopThread) : LoopThread × View :=
  match t.point with
  | .outside => ({ t with point := .starting }, v)
  | .starting => ({ t with isLoopEnds := false, point := .check }, v)
  | .check =>
    if t.isLoopEnabled then
      ({ t with point := match role with | .sender => .pause | .receiver => .readState }, v)
    else ({ t with point := .disabling }, v)
  | .pause => ({ t with point := if t.isLoopPaused then .report else .dequeue }, v)
  | .report => ({ t with point := .wait }, { v with mState := .kSleeping })
  | .wait => ({ t with point := .resumed }, v)
  | .resumed =>
    if v.mState ≠ .kDisconnecting ∧ v.mState ≠ .kDisconnected then
      ({ t with point := .reactivate }, v)
    else ({ t with point := .pause }, v)
  | .reactivate => ({ t with point := .pause }, { v with mState := .kActive })
  | .dequeue => ({ t with point := if b then .readState else .check }, v)
  | .readState =>
    if v.mState = .kConnecting then ({ t with point := .connecting }, v)
    else ({ t with point := if LetsThrough role v.mState then .calling else .returned }, v)
  | .connecting =>
    ({ t with point := if v.mState = .kActive then .calling else .connecting }, v)
  | .calling =>
    ({ t with point := if v.mServerSocket = .kOpened then .inSocket else .returned }, v)
  | .inSocket =>
    ({ t with point := .returned }, if b then { v with mServerSocket := .kClosed } else v)
  | .returned => ({ t with point := if b then .check else .disabling }, v)
  | .disabling =>
    ({ t with isLoopEnabled := false
              point := match role with | .sender => .unpausing | .receiver => .ending }, v)
  | .unpausing => ({ t with isLoopPaused := false, point := .ending }, v)
  | .ending => ({ t with isLoopEnds := true, point := .outside }, v)

end LoopThread

/-! ## The calls -/

inductive ConnectPoint where
  | setConnecting
  | turnOn
  | allowDiscover
  /-- `get_state` before `open`. -/
  | openCheck
  /-- The check in `ServerSocket::open`. -/
  | openCall
  | openImpl
  /-- `get_state` after `open`. -/
  | openResult
  | rollbackDisallow
  | rollbackTurnOff
  | failed
  | enableSender
  | enableReceiver
  | setActive
  deriving DecidableEq, Repr

inductive DisconnectPoint where
  | setDisconnecting
  | disableSender
  | resumeSender
  | disableReceiver
  /-- `get_state` before `close`. -/
  | closeCheck
  | closeRecheck
  /-- The check in `ServerSocket::close`. -/
  | closeCall
  | closeImpl
  /-- `get_state` after `close`. -/
  | closeResult (res : Bool)
  | disallowDiscover
  | turnOff
  /-- The old state is set again. -/
  | restore
  deriving DecidableEq, Repr

inductive CallPoint where
  | idle
  | connect (point : ConnectPoint)
  /-- A command waits for `kSleeping`. -/
  | awaitSleeping (byPeer : Bool)
  | waitReceiving
  /-- `oldState` is read. -/
  | readOldState
  | disconnect (oldState : ServerAdapterState) (point : DisconnectPoint)
  /-- `wait_until_disable_loop_done`. -/
  | waitLoop (role : LoopRole)
  /-- Blocked in it. -/
  | waiting (role : LoopRole)
  | disconnected
  /-- `sleep` has seen that the adapter is active. -/
  | sleepChecked
  | sleepUnpaused
  | sleepSet
  /-- `wake_up` has seen that the adapter sleeps. -/
  | wakeChecked
  | wakePaused
  | wakeSet
  deriving DecidableEq, Repr

inductive AdapterCall where
  | connect
  | disconnectOnCommand
  | disconnectOnPeerCommand
  | disconnectOnFailure
  | sleep
  | wakeUp
  deriving DecidableEq, Repr

structure Activation where
  device : DeviceState
  p2pServer : P2PServerState
  serverSocket : ServerSocketState
  deriving DecidableEq, Repr

structure AdapterRun extends LoopThread.View where
  mDevice : DeviceState
  mP2PServer : P2PServerState
  loops : LoopRole → LoopThread
  call : CallPoint
  disallowFailed : Bool
  turnOffFailed : Bool
  activations : List Activation

inductive AdapterStep where
  | call (call : AdapterCall)
  /-- The next step of the call; `impl` is what a component answers. -/
  | proceed (impl : Bool)
  /-- `wait_until_loop_ends` returns after it has blocked. -/
  | returns
  | loop (role : LoopRole) (b : Bool)
  deriving DecidableEq, Repr

namespace AdapterRun

variable (s : AdapterRun)

def goTo (point : CallPoint) : AdapterRun := { s with call := point }

def setLoop (role : LoopRole) (t : LoopThread) : AdapterRun :=
  { s with loops := Function.update s.loops role t }

/-- `enable_loop`, `disable_loop`. -/
def setLoopEnabled (role : LoopRole) (isEnabled : Bool) : AdapterRun :=
  s.setLoop role { s.loops role with isLoopEnabled := isEnabled }

/-- `pause_loop`, `resume_loop`. -/
def setLoopPaused (isPaused : Bool) : AdapterRun :=
  s.setLoop .sender { s.loops .sender with isLoopPaused := isPaused }

def begin : AdapterCall → AdapterRun
  | .connect => s.goTo (if s.mState ≠ .kDisconnected then .idle else .connect .setConnecting)
  | .disconnectOnCommand =>
    s.goTo (if s.mState = .kGoingSleeping then .awaitSleeping false
      else if s.mState ≠ .kSleeping then .idle else .readOldState)
  | .disconnectOnPeerCommand =>
    s.goTo (if s.mState = .kGoingSleeping then .awaitSleeping true
      else if s.mState ≠ .kSleeping then .idle else .waitReceiving)
  | .disconnectOnFailure =>
    s.goTo (if s.mState = .kDisconnected ∨ s.mState = .kDisconnecting then .idle
      else .readOldState)
  | .sleep => s.goTo (if s.mState ≠ .kActive then .idle else .sleepChecked)
  | .wakeUp => s.goTo (if s.mState ≠ .kSleeping then .idle else .wakeChecked)

/-- `connect_internal` and `__connect_internal`. -/
def connectStep (impl : Bool) : ConnectPoint → AdapterRun
  | .setConnecting => { s with mState := .kConnecting, call := .connect .turnOn }
  | .turnOn =>
    if s.mDevice ≠ .kOn ∧ s.mDevice ≠ .kTurningOn then
      let r := s.mDevice.turnOn impl
      { s with
        mDevice := r.2
        call := .connect (if r.1 = false ∨ r.2 ≠ .kOn then .failed else .allowDiscover) }
    else s.goTo (.connect .allowDiscover)
  | .allowDiscover =>
    if s.mP2PServer ≠ .kAllowed then
      let r := s.mP2PServer.allowDiscover impl
      { s with
        mP2PServer := r.2
        call := .connect (if r.1 = false ∨ r.2 ≠ .kAllowed then .rollbackTurnOff else .openCheck) }
    else s.goTo (.connect .openCheck)
  | .openCheck =>
    s.goTo (.connect (if s.mServerSocket ≠ .kOpened ∧ s.mServerSocket ≠ .kOpening then .openCall
      else .enableSender))
  | .openCall =>
    if s.mServerSocket ≠ .kClosed then s.goTo (.connect .rollbackDisallow)
    else { s with mServerSocket := .kOpening, call := .connect .openImpl }
  | .openImpl =>
    if impl then { s with mServerSocket := .kOpened, call := .connect .openResult }
    else { s with mServerSocket := .kClosed, call := .connect .rollbackDisallow }
  | .openResult =>
    s.goTo (.connect (if s.mServerSocket ≠ .kOpened then .rollbackDisallow else .enableSender))
  | .rollbackDisallow =>
    let r := s.mP2PServer.disallowDiscover impl
    { s with mP2PServer := r.2, disallowFailed := !r.1, call := .connect .rollbackTurnOff }
  | .rollbackTurnOff =>
    let r := s.mDevice.turnOff impl
    { s with mDevice := r.2, turnOffFailed := !r.1, call := .connect .failed }
  | .failed => { s with mState := .kDisconnected, call := .idle }
  | .enableSender => (s.setLoopEnabled .sender true).goTo (.connect .enableReceiver)
  | .enableReceiver => (s.setLoopEnabled .receiver true).goTo (.connect .setActive)
  | .setActive =>
    { s with
      mState := .kActive
      call := .idle
      activations := s.activations ++ [⟨s.mDevice, s.mP2PServer, s.mServerSocket⟩] }

/-- `disconnect_internal` and `__disconnect_internal`, up to the waits. -/
def disconnectStep (impl : Bool) (oldState : ServerAdapterState) : DisconnectPoint → AdapterRun
  | .setDisconnecting =>
    { s with mState := .kDisconnecting, call := .disconnect oldState .disableSender }
  | .disableSender =>
    (s.setLoopEnabled .sender false).goTo (.disconnect oldState .resumeSender)
  | .resumeSender =>
    (if oldState = .kSleeping then s.setLoopPaused false else s).goTo
      (.disconnect oldState .disableReceiver)
  | .disableReceiver =>
    (s.setLoopEnabled .receiver false).goTo (.disconnect oldState .closeCheck)
  | .closeCheck =>
    s.goTo (.disconnect oldState
      (if s.mServerSocket ≠ .kClosed ∧ s.mServerSocket ≠ .kClosing then .closeRecheck
        else .disallowDiscover))
  | .closeRecheck =>
    s.goTo (.disconnect oldState
      (if s.mServerSocket ≠ .kClosed then .closeCall else .disallowDiscover))
  | .closeCall =>
    if s.mServerSocket ≠ .kOpened then s.goTo (.disconnect oldState .restore)
    else { s with mServerSocket := .kClosing, call := .disconnect oldState .closeImpl }
  | .closeImpl =>
    { s with mServerSocket := .kClosed, call := .disconnect oldState (.closeResult impl) }
  | .closeResult res =>
    s.goTo (.disconnect oldState
      (if res = false ∨ s.mServerSocket ≠ .kClosed then .restore else .disallowDiscover))
  | .disallowDiscover =>
    if s.mP2PServer ≠ .kDisallowed then
      let r := s.mP2PServer.disallowDiscover impl
      { s with
        mP2PServer := r.2
        call := .disconnect oldState (if r.1 = false then .restore else .turnOff) }
    else s.goTo (.disconnect oldState .turnOff)
  | .turnOff =>
    if s.mDevice ≠ .kOff ∧ s.mDevice ≠ .kTurningOff then
      let r := s.mDevice.turnOff impl
      { s with
        mDevice := r.2
        call := if r.1 = false then .disconnect oldState .restore else .waitLoop .sender }
    else s.goTo (.waitLoop .sender)
  | .restore => { s with mState := oldState, call := .idle }

/-- What follows the wait for a loop. -/
def afterWait : LoopRole → CallPoint
  | .sender => .waitLoop .receiver
  | .receiver => .disconnected

def proceed (impl : Bool) : Except Unit AdapterRun :=
  match s.call with
  | .idle | .waiting _ => .error ()
  | .connect point => .ok (s.connectStep impl point)
  | .awaitSleeping byPeer =>
    .ok (s.goTo (if s.mState ≠ .kSleeping then .awaitSleeping byPeer
      else if byPeer then .waitReceiving else .readOldState))
  | .waitReceiving => .ok (s.goTo .readOldState)
  | .readOldState => .ok (s.goTo (.disconnect s.mState .setDisconnecting))
  | .disconnect oldState point => .ok (s.disconnectStep impl oldState point)
  | .waitLoop role =>
    .ok (s.goTo (if (s.loops role).isLoopEnds then afterWait role else .waiting role))
  | .disconnected => .ok { s with mState := .kDisconnected, call := .idle }
  | .sleepChecked =>
    .ok (s.goTo (if (s.loops .sender).isLoopPaused then .idle else .sleepUnpaused))
  | .sleepUnpaused => .ok { s with mState := .kGoingSleeping, call := .sleepSet }
  | .sleepSet => .ok ((s.setLoopPaused true).goTo .idle)
  | .wakeChecked =>
    .ok (s.goTo (if (s.loops .sender).isLoopPaused then .wakePaused else .idle))
  | .wakePaused => .ok { s with mState := .kWakingUp, call := .wakeSet }
  | .wakeSet => .ok ((s.setLoopPaused false).goTo .idle)

def loopStep (role : LoopRole) (b : Bool) : AdapterRun :=
  let r := (s.loops role).step role b s.toView
  { s with toView := r.2, loops := Function.update s.loops role r.1 }

def step : AdapterStep → Except Unit AdapterRun
  | .call call => if s.call = .idle then .ok (s.begin call) else .error ()
  | .proceed impl => s.proceed impl
  | .returns =>
    match s.call with
    | .waiting role => .ok (s.goTo (afterWait role))
    | _ => .error ()
  | .loop role b => .ok (s.loopStep role b)

/-- After `launch_threads`; the constructors leave `mIsLoopEnds` as it is. -/
def launched (isLoopEnds : LoopRole → Bool) : AdapterRun where
  mState := .kDisconnected
  mDevice := .kOff
  mP2PServer := .kDisallowed
  mServerSocket := .kClosed
  loops role := ⟨false, false, isLoopEnds role, .outside⟩
  call := .idle
  disallowFailed := false
  turnOffFailed := false
  activations := []

end AdapterRun
end Linux
end VirtualConnection
