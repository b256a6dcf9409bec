import VirtualConnection.Linux.NetworkSwitcher

/-!
# Linux.FailedDisconnect

What is left of an adapter when `__disconnect_internal` fails: `disconnect_internal` gives it its old
state back. By then both loops are disabled and a sleeping sender loop has been resumed, whichever
step failed, and nothing enables a loop but a connection.
-/

namespace VirtualConnection
namespace Linux
namespace ServerAdapter

variable {a : ServerAdapter} {o : Outcomes}

/-- Nothing but the components. -/
def ComponentsOnly (a b : ServerAdapter) : Prop :=
  ∃ device server socket,
    b = { a with mDevice := device, mP2PServer := server, mServerSocket := socket }

theorem ComponentsOnly.congr {b c : ServerAdapter} (h : ComponentsOnly b c)
    (hab : ComponentsOnly a b) : ComponentsOnly a c := by
  obtain ⟨_, _, _, rfl⟩ := hab
  obtain ⟨device, server, socket, rfl⟩ := h
  exact ⟨device, server, socket, rfl⟩

theorem waitLoops_ne_failed (a : ServerAdapter) : (a.waitLoops o).1 ≠ some false := by
  unfold waitLoops
  split <;> simp

theorem turnOffDevice_failed (a : ServerAdapter) :
    (a.turnOffDevice o).1 = some false → ComponentsOnly a (a.turnOffDevice o).2 := by
  unfold turnOffDevice
  split
  · dsimp only
    split
    · exact fun _ => ⟨_, _, _, rfl⟩
    · exact fun h => absurd h (waitLoops_ne_failed _)
  · exact fun h => absurd h (waitLoops_ne_failed _)

theorem disallowDiscover_failed (a : ServerAdapter) :
    (a.disallowDiscover o).1 = some false → ComponentsOnly a (a.disallowDiscover o).2 := by
  unfold disallowDiscover
  split
  · dsimp only
    split
    · exact fun _ => ⟨_, _, _, rfl⟩
    · exact fun h => (turnOffDevice_failed _ h).congr ⟨_, _, _, rfl⟩
  · exact turnOffDevice_failed a

theorem closeSocket_failed (a : ServerAdapter) :
    (a.closeSocket o).1 = some false → ComponentsOnly a (a.closeSocket o).2 := by
  unfold closeSocket
  split
  · dsimp only
    split
    · exact fun _ => ⟨_, _, _, rfl⟩
    · exact fun h => (disallowDiscover_failed _ h).congr ⟨_, _, _, rfl⟩
  · exact disallowDiscover_failed a

/-- Whichever step fails, the loops stay disabled, and the sender loop of a sleeping adapter resumed. -/
theorem disconnectInternalBody_failed (oldState : ServerAdapterState)
    (h : (a.disconnectInternalBody oldState o).1 = some false) :
    (a.disconnectInternalBody oldState o).2.isSenderLoopEnabled = false ∧
      (a.disconnectInternalBody oldState o).2.isReceiverLoopEnabled = false ∧
      (oldState = .kSleeping →
        (a.disconnectInternalBody oldState o).2.isSenderLoopPaused = false) := by
  obtain ⟨device, server, socket, he⟩ := closeSocket_failed _ h
  unfold disconnectInternalBody
  rw [he]
  exact ⟨rfl, rfl, fun hs => if_pos hs⟩

/-! ## The old state -/

/-- The call reports success, whoever listens. -/
def WakesUp (i : ℕ) (p : Process) : Prop :=
  ∀ callback isSendRequest, ∃ q, wakeUp i (some callback) isSendRequest p = callback i true q

/-- The adapter really is asleep, or really is active. -/
def IsReally (i : ℕ) (p : Process) : ServerAdapterState → Prop
  | .kSleeping => (p.adapters i).isSenderLoopEnabled = true ∧
      (p.adapters i).isSenderLoopPaused = true ∧ (p.adapters i).mServerSocket = .kOpened ∧
      WakesUp i p
  | .kActive => (p.adapters i).isSenderLoopEnabled = true ∧
      (p.adapters i).isReceiverLoopEnabled = true ∧ (p.adapters i).mServerSocket = .kOpened
  | _ => False

variable {o : ℕ → Outcomes} {i : ℕ} {p : Process}

/-- The process that is handed to the callback of a failed disconnection. -/
theorem disconnectInternal_failed (callback : Option Callback) (hon : p.switchOngoing ≠ none)
    (hfails : ¬ (p.adapters i).Disconnects (o i)) :
    ∃ q, disconnectInternal o i callback p = callIfSet callback i false q ∧
      (q.adapters i).mState = (p.adapters i).mState ∧
      (q.adapters i).isSenderLoopEnabled = false ∧ (q.adapters i).isReceiverLoopEnabled = false ∧
      ((p.adapters i).mState = .kSleeping → (q.adapters i).isSenderLoopPaused = false) := by
  obtain ⟨tx, htx⟩ := Option.ne_none_iff_exists'.mp hon
  let during := p.setState i .kDisconnecting
  have hon' : during.switchOngoing = some tx := htx
  have hself : during.adapters i = { p.adapters i with mState := .kDisconnecting } :=
    p.setAdapter_adapters_self i _
  have hfst : ((during.adapters i).disconnectInternalBody (p.adapters i).mState (o i)).1 =
      some false := by
    rw [disconnectInternalBody_fst, hself]
    exact if_neg hfails
  obtain ⟨hsender, hreceiver, hpaused⟩ := disconnectInternalBody_failed _ hfst
  refine ⟨during.setAdapter i
    { ((during.adapters i).disconnectInternalBody (p.adapters i).mState (o i)).2 with
      mState := (p.adapters i).mState
      mIsDisconnectingOnPurpose := false
      mIsDisconnectingOnPurposePeer := false }, ?_, ?_⟩
  · unfold disconnectInternal
    simp only [show (p.setState i .kDisconnecting).switchOngoing = some tx from htx]
    rw [show ((p.setState i .kDisconnecting).adapters i).disconnectInternalBody
        (p.adapters i).mState (o i) = (some false, _) from Prod.ext hfst rfl]
    rfl
  · rw [Process.setAdapter_adapters_self]
    exact ⟨rfl, hsender, hreceiver, hpaused⟩

/-- The sender loop has been resumed, so it cannot be resumed again. -/
theorem wakeUp_failed (callback : Callback) (isSendRequest : Bool)
    (hpaused : (p.adapters i).isSenderLoopPaused = false) :
    wakeUp i (some callback) isSendRequest p = callback i false p := by
  unfold wakeUp callIfSet
  simp [hpaused]

/-- **A failed disconnection is not undone.** Whichever step fails, the adapter is told to be in its old
state and is not; one that was asleep cannot be woken up. -/
theorem failed_disconnect_not_undone (callback : Option Callback) (hon : p.switchOngoing ≠ none)
    (hfails : ¬ (p.adapters i).Disconnects (o i)) :
    ∃ q, disconnectInternal o i callback p = callIfSet callback i false q ∧
      (q.adapters i).mState = (p.adapters i).mState ∧ ¬ IsReally i q (p.adapters i).mState ∧
      ((p.adapters i).mState = .kSleeping → ¬ WakesUp i q) := by
  obtain ⟨q, he, hstate, hsender, hreceiver, hpaused⟩ :=
    disconnectInternal_failed callback hon hfails
  refine ⟨q, he, hstate, fun hreally => ?_, fun hsleeping hwakes => ?_⟩
  · cases hold : (p.adapters i).mState <;> rw [hold] at hreally <;> try exact hreally
    · exact nomatch hsender.symm.trans hreally.1
    · exact nomatch hsender.symm.trans hreally.1
  · -- a callback that does not return says which result it was called with
    obtain ⟨r, hr⟩ := hwakes (fun _ isSuccess r =>
      .error (if isSuccess then .waits else .assertion, r)) false
    rw [wakeUp_failed _ _ (hpaused hsleeping)] at hr
    cases hr

/-- The active adapter 0, while a switch to adapter 1 is going on. -/
def switching : Process :=
  { NetworkSwitcher.twoAdapters with switchOngoing := some ⟨0, 1, 0⟩ }

def turnOffFails : Outcomes := { Outcomes.succeed with turnOffImpl := false }

theorem failed_disconnect_not_undone_switching :
    ∃ q, disconnectInternal (fun _ => turnOffFails) 0 none switching = .ok q ∧
      (q.adapters 0).mState = .kActive ∧ ¬ IsReally 0 q .kActive := by
  obtain ⟨q, he, hstate, hreally, -⟩ := @failed_disconnect_not_undone (fun _ => turnOffFails) 0
    switching none (by decide) (by decide)
  exact ⟨q, he, hstate, hreally⟩

/-- The device cannot be turned off: the adapter is active again, with a closed socket and no loops. -/
theorem active_without_loops :
    ∃ q, disconnectInternal (fun _ => turnOffFails) 0 none switching = .ok q ∧
      (q.adapters 0).mState = .kActive ∧ (q.adapters 0).mServerSocket = .kClosed ∧
      (q.adapters 0).isSenderLoopEnabled = false ∧ (q.adapters 0).isReceiverLoopEnabled = false :=
  ⟨_, rfl, rfl, rfl, rfl, rfl⟩

end ServerAdapter
end Linux
end VirtualConnection
