import VirtualConnection.Lib.Transfer
import VirtualConnection.Linux.Segment

/-!
# Linux.ServerSocket

What lies between the threads of an adapter and the kernel: `ServerAdapter::send` and `receive`,
`ServerSocket::send` and `receive`, and the loops around `::send` and `::recv`. The results of the
system calls are arguments. `errno` is the thread's own; a call that succeeds does not change it.

An outcome has the result, `errno`, and the bytes moved; `none` is a call that has not returned.
-/

namespace VirtualConnection
namespace Linux

open Transfer

def EINTR : ℕ := 4
def EAGAIN : ℕ := 11
def EWOULDBLOCK : ℕ := EAGAIN
def EINPROGRESS : ℕ := 115

/-- The error numbers after which `ServerSocket` keeps its connection and `sender_loop` goes on. -/
def Retryable (errno : ℕ) : Prop := errno = 0 ∨ errno = EINTR ∨ errno = EAGAIN

instance (errno : ℕ) : Decidable (Retryable errno) := inferInstanceAs (Decidable (_ ∨ _))

inductive ServerSocketState where
  | kClosed
  | kOpening
  | kOpened
  | kClosing
  deriving DecidableEq, Repr

inductive ServerAdapterState where
  | kDisconnected
  | kConnecting
  | kActive
  | kDisconnecting
  | kGoingSleeping
  | kSleeping
  | kWakingUp
  deriving DecidableEq, Repr

inductive Poll where
  | ready
  | timeout
  | failed (errno : ℕ)
  deriving DecidableEq, Repr

inductive ServerSocketKind where
  | tcp
  | rfcomm
  deriving DecidableEq, Repr

structure ServerSocket where
  kind : ServerSocketKind
  mState : ServerSocketState
  mClientSocket : Int
  deriving DecidableEq, Repr

/-! ## The loops around the system calls -/

/-- The body that the two `send_impl` share. -/
def sendAll (mClientSocket : Int) (errno dataLength : ℕ) (calls : List Syscall) : Option Outcome :=
  if mClientSocket ≤ 0 then some ⟨-1, errno, 0⟩ else transfer dataLength errno 0 calls

/-- The body that the two `receive_impl` share. -/
def receiveAll (mClientSocket : Int) (errno dataLength : ℕ) (poll : Poll) (calls : List Syscall) :
    Option Outcome :=
  if mClientSocket ≤ 0 then some ⟨-1, errno, 0⟩
  else
    match poll with
    | .failed e => some ⟨-1, e, 0⟩
    | .timeout => some ⟨-999, errno, 0⟩
    | .ready => transfer dataLength errno 0 calls

def TcpServerSocket.sendImpl := sendAll
/-- Without `BT_THROTTLING_ON`; the statistics it keeps are read by the network monitor only. -/
def RfcommServerSocket.sendImpl := sendAll
def TcpServerSocket.receiveImpl := receiveAll
def RfcommServerSocket.receiveImpl := receiveAll

namespace ServerSocket

def sendImpl (socket : ServerSocket) : ℕ → ℕ → List Syscall → Option Outcome :=
  match socket.kind with
  | .tcp => TcpServerSocket.sendImpl socket.mClientSocket
  | .rfcomm => RfcommServerSocket.sendImpl socket.mClientSocket

def receiveImpl (socket : ServerSocket) : ℕ → ℕ → Poll → List Syscall → Option Outcome :=
  match socket.kind with
  | .tcp => TcpServerSocket.receiveImpl socket.mClientSocket
  | .rfcomm => RfcommServerSocket.receiveImpl socket.mClientSocket

def send (socket : ServerSocket) (errno dataLength : ℕ) (calls : List Syscall) :
    Option (Outcome × ServerSocket) :=
  if socket.mState ≠ .kOpened then some (⟨-1, errno, 0⟩, socket)
  else
    (socket.sendImpl errno dataLength calls).map fun o =>
      if o.errno ≠ EINTR ∧ o.errno ≠ EAGAIN ∧ o.errno ≠ 0 ∧ o.res < 0 then
        (o, { socket with mState := .kClosed })
      else (o, socket)

def receive (socket : ServerSocket) (errno dataLength : ℕ) (poll : Poll) (calls : List Syscall) :
    Option (Outcome × ServerSocket) :=
  if socket.mState ≠ .kOpened then some (⟨-1, errno, 0⟩, socket)
  else
    (socket.receiveImpl errno dataLength poll calls).map fun o =>
      if o.errno ≠ EINTR ∧ o.errno ≠ EAGAIN ∧ o.errno ≠ 0 ∧ o.res ≠ -999 ∧ o.res < 0 then
        (o, { socket with mState := .kClosed })
      else (o, socket)

/-- The socket has a connection that the system calls are made on. -/
def Connected (socket : ServerSocket) : Prop :=
  socket.mState = .kOpened ∧ 0 < socket.mClientSocket

instance (socket : ServerSocket) : Decidable socket.Connected :=
  inferInstanceAs (Decidable (_ ∧ _))

end ServerSocket

namespace ServerAdapter

/-- `send` on an adapter whose socket is there. While the adapter is connecting it waits, until the
state is `kActive`. -/
def send (state : ServerAdapterState) (socket : ServerSocket) (errno len : ℕ)
    (calls : List Syscall) : Option (Outcome × ServerSocket) :=
  if state ≠ .kConnecting ∧ state ≠ .kActive then some (⟨-1, errno, 0⟩, socket)
  else socket.send errno len calls

def receive (state : ServerAdapterState) (socket : ServerSocket) (errno len : ℕ) (poll : Poll)
    (calls : List Syscall) : Option (Outcome × ServerSocket) :=
  if state ≠ .kConnecting ∧ state ≠ .kActive ∧ state ≠ .kGoingSleeping ∧ state ≠ .kSleeping ∧
      state ≠ .kWakingUp then
    some (⟨-1, errno, 0⟩, socket)
  else socket.receive errno len poll calls

end ServerAdapter

/-! ## What the calls can do -/

variable {state : ServerAdapterState} {socket socket' : ServerSocket} {errno len : ℕ} {poll : Poll}
  {calls : List Syscall} {o : Outcome}

theorem ServerSocket.sendImpl_eq : socket.sendImpl errno len calls =
    sendAll socket.mClientSocket errno len calls := by
  unfold ServerSocket.sendImpl
  cases socket.kind <;> rfl

theorem ServerSocket.receiveImpl_eq : socket.receiveImpl errno len poll calls =
    receiveAll socket.mClientSocket errno len poll calls := by
  unfold ServerSocket.receiveImpl
  cases socket.kind <;> rfl

theorem not_retryable (hintr : errno ≠ EINTR) (hagain : errno ≠ EAGAIN) (hzero : errno ≠ 0) :
    ¬ Retryable errno := by
  simp [Retryable, hintr, hagain, hzero]

/-- What `send` and `receive` do behind their loops: the socket closes itself, or stays as it is. -/
theorem closed_or_same {closes : Outcome → Prop} [DecidablePred closes] {result : Option Outcome}
    (hcloses : ∀ o, closes o → ¬ Retryable o.errno)
    (h : (result.map fun o => if closes o then (o, { socket with mState := .kClosed })
      else (o, socket)) = some (o, socket')) :
    result = some o ∧
      (socket' = socket ∨ ¬ Retryable o.errno ∧ socket' = { socket with mState := .kClosed }) := by
  obtain ⟨o', ho, hsock⟩ := Option.map_eq_some_iff.mp h
  split at hsock <;> cases hsock
  · next hclose => exact ⟨ho, .inr ⟨hcloses o hclose, rfl⟩⟩
  · exact ⟨ho, .inl rfl⟩

/-- A call either finds no connection, or it is the loop around the system calls. -/
theorem ServerSocket.send_eq_some (h : socket.send errno len calls = some (o, socket')) :
    (¬ socket.Connected ∧ o = ⟨-1, errno, 0⟩ ∨
        socket.Connected ∧ transfer len errno 0 calls = some o) ∧
      (socket' = socket ∨ ¬ Retryable o.errno ∧ socket' = { socket with mState := .kClosed }) := by
  unfold ServerSocket.send at h
  split at h
  · next hopen =>
    cases h
    exact ⟨.inl ⟨fun hc => hopen hc.1, rfl⟩, .inl rfl⟩
  · next hopen =>
    obtain ⟨ho, hsock⟩ := closed_or_same (fun o hc => not_retryable hc.1 hc.2.1 hc.2.2.1) h
    refine ⟨?_, hsock⟩
    rw [ServerSocket.sendImpl_eq, sendAll] at ho
    split at ho
    · next hfd =>
      cases ho
      exact .inl ⟨fun hc => absurd hc.2 (by omega), rfl⟩
    · next hfd => exact .inr ⟨⟨not_not.mp hopen, by omega⟩, ho⟩

theorem ServerSocket.receive_eq_some (h : socket.receive errno len poll calls = some (o, socket')) :
    (¬ socket.Connected ∧ o = ⟨-1, errno, 0⟩ ∨
        socket.Connected ∧ receiveAll socket.mClientSocket errno len poll calls = some o) ∧
      (socket' = socket ∨ ¬ Retryable o.errno ∧ socket' = { socket with mState := .kClosed }) := by
  unfold ServerSocket.receive at h
  split at h
  · next hopen =>
    cases h
    exact ⟨.inl ⟨fun hc => hopen hc.1, rfl⟩, .inl rfl⟩
  · next hopen =>
    obtain ⟨ho, hsock⟩ := closed_or_same (fun o hc => not_retryable hc.1 hc.2.1 hc.2.2.1) h
    refine ⟨?_, hsock⟩
    rw [ServerSocket.receiveImpl_eq] at ho
    by_cases hfd : socket.mClientSocket ≤ 0
    · simp only [receiveAll, hfd, if_true] at ho
      cases ho
      exact .inl ⟨fun hc => absurd hc.2 (by omega), rfl⟩
    · exact .inr ⟨⟨not_not.mp hopen, by omega⟩, ho⟩

namespace ServerAdapter

/-- The adapter lets a frame through to the system calls. -/
def CanSend (state : ServerAdapterState) (socket : ServerSocket) : Prop :=
  (state = .kConnecting ∨ state = .kActive) ∧ socket.Connected

instance (state : ServerAdapterState) (socket : ServerSocket) : Decidable (CanSend state socket) :=
  inferInstanceAs (Decidable (_ ∧ _))

theorem send_eq_some (h : send state socket errno len calls = some (o, socket')) :
    (¬ CanSend state socket ∧ o = ⟨-1, errno, 0⟩ ∨
        CanSend state socket ∧ transfer len errno 0 calls = some o) ∧
      (socket' = socket ∨ ¬ Retryable o.errno ∧ socket' = { socket with mState := .kClosed }) := by
  unfold send at h
  split at h
  · next hstate =>
    cases h
    refine ⟨.inl ⟨fun hc => ?_, rfl⟩, .inl rfl⟩
    rcases hc.1 with he | he <;> simp [he] at hstate
  · next hstate =>
    have hstate' : state = .kConnecting ∨ state = .kActive := by
      by_contra hn
      exact hstate (not_or.mp hn)
    obtain ⟨⟨hc, ho⟩ | ⟨hc, ho⟩, hsock⟩ := ServerSocket.send_eq_some h
    · exact ⟨.inl ⟨fun hs => hc hs.2, ho⟩, hsock⟩
    · exact ⟨.inr ⟨⟨hstate', hc⟩, ho⟩, hsock⟩

/-- The adapter lets a request for a frame through to the system calls. -/
def CanReceive (state : ServerAdapterState) (socket : ServerSocket) : Prop :=
  (state = .kConnecting ∨ state = .kActive ∨ state = .kGoingSleeping ∨ state = .kSleeping ∨
    state = .kWakingUp) ∧ socket.Connected

instance (state : ServerAdapterState) (socket : ServerSocket) :
    Decidable (CanReceive state socket) :=
  inferInstanceAs (Decidable (_ ∧ _))

theorem receive_eq_some (h : receive state socket errno len poll calls = some (o, socket')) :
    (o.moved = 0 ∧ o.res < 0 ∧ (o.errno = errno ∨ o.res = -1) ∧
        ¬ (CanReceive state socket ∧ poll = .ready)) ∨
      (CanReceive state socket ∧ poll = .ready ∧ transfer len errno 0 calls = some o) := by
  unfold receive at h
  split at h
  · next hstate =>
    cases h
    refine .inl ⟨rfl, by simp, .inl rfl, fun hc => ?_⟩
    rcases hc.1.1 with he | he | he | he | he <;> simp [he] at hstate
  · next hstate =>
    have hstate' : state = .kConnecting ∨ state = .kActive ∨ state = .kGoingSleeping ∨
        state = .kSleeping ∨ state = .kWakingUp := by
      by_contra hn
      simp only [not_or] at hn
      exact hstate hn
    obtain ⟨⟨hc, rfl⟩ | ⟨hc, ho⟩, -⟩ := ServerSocket.receive_eq_some h
    · exact .inl ⟨rfl, by simp, .inl rfl, fun hs => hc hs.1.2⟩
    · have hfd : ¬ socket.mClientSocket ≤ 0 := by have := hc.2; omega
      simp only [receiveAll, hfd, if_false] at ho
      cases poll with
      | failed e => cases ho; exact .inl ⟨rfl, by simp, .inr rfl, by simp⟩
      | timeout => cases ho; exact .inl ⟨rfl, by simp, .inl rfl, by simp⟩
      | ready => exact .inr ⟨⟨hstate', hc⟩, rfl, ho⟩

end ServerAdapter

end Linux
end VirtualConnection
