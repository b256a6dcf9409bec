import VirtualConnection.Linux.NetworkSwitcher

/-!
# Linux.PeerCommands

The entry points of `NetworkSwitcher.cpp` for the control messages of the peer. Each of them checks
that the switcher is ready and sets it to switching; they differ in how they look the adapter up, and
in what makes the switcher ready again.

* connecting: by the id, and `ConnectRequestTransaction::done`;
* disconnecting: by the id, and nothing;
* sleeping and waking up: the id is taken as an index, and the entry point itself.

`peerCommand_released_iff` says for which commands this is good enough.
-/

namespace VirtualConnection
namespace Linux

namespace ConnectRequestTransaction

def done : Action := fun p => .ok { p.doneSwitch with connectOngoing := none }

def connectCallback : Callback := fun _ isSuccess p =>
  match p.connectOngoing with
  | none => .error (.nullConnect, p)
  | some _ => if isSuccess = false then done p else done p

def start (o : ℕ → Outcomes) (adapterId : Int) : Action := fun p =>
  match p.findAdapterById adapterId with
  | none => done p
  | some i => ServerAdapter.connect o i (some connectCallback) false p

def run (o : ℕ → Outcomes) (adapterId : Int) : Action := fun p =>
  match p.connectOngoing with
  | none => start o adapterId { p with connectOngoing := some adapterId }
  | some _ => .ok p.doneSwitch

end ConnectRequestTransaction

namespace NetworkSwitcher

variable (o : ℕ → Outcomes)

def connectAdapterByPeer (adapterId : Int) : Action := fun p =>
  if p.nsState = .kNSStateSwitching then .ok p
  else ConnectRequestTransaction.run o adapterId { p with nsState := .kNSStateSwitching }

def disconnectAdapterByPeer (adapterId : Int) : Action := fun p =>
  if p.nsState = .kNSStateSwitching then .ok p
  else
    match p.findAdapterById adapterId with
    | none => .ok p
    | some i => ServerAdapter.disconnectOnPeerCommand o i none { p with nsState := .kNSStateSwitching }

/-- The operation on the adapter, between the two changes of the state. -/
def switchingDuring (operation : Action) : Action := fun p =>
  (operation { p with nsState := .kNSStateSwitching }).map fun p =>
    { p with nsState := .kNSStateReady }

def sleepAdapterByPeer (adapterId : Int) : Action := fun p =>
  if p.nsState = .kNSStateSwitching then .ok p
  else p.getAdapter adapterId fun i => switchingDuring (ServerAdapter.sleep i none false)

def wakeUpAdapterByPeer (adapterId : Int) : Action := fun p =>
  if p.nsState = .kNSStateSwitching then .ok p
  else p.getAdapter adapterId fun i => switchingDuring (ServerAdapter.wakeUp i none false)

end NetworkSwitcher

inductive PeerCommand where
  | connect
  | disconnect
  | sleep
  | wakeUp
  deriving DecidableEq, Repr

namespace PeerCommand

def handle (o : ℕ → Outcomes) : PeerCommand → Int → Action
  | .connect => NetworkSwitcher.connectAdapterByPeer o
  | .disconnect => NetworkSwitcher.disconnectAdapterByPeer o
  | .sleep => NetworkSwitcher.sleepAdapterByPeer
  | .wakeUp => NetworkSwitcher.wakeUpAdapterByPeer

/-- The command returns with the switcher ready. Only adapters with the id have changed, and control
messages may have been sent; without such an adapter nothing has changed. -/
def Released (o : ℕ → Outcomes) (command : PeerCommand) (adapterId : Int) (p : Process) : Prop :=
  ∃ f requests, command.handle o adapterId p = .ok (p.during f requests) ∧
    (p.during f requests).nsState = .kNSStateReady ∧
    (∀ i, (p.adapters i).mId ≠ adapterId → f i = p.adapters i) ∧
    (p.findAdapterById adapterId = none → p.during f requests = p)

/-- `sleep` and `wakeUp` change an adapter in these states. -/
def Changes (a : ServerAdapter) : PeerCommand → Prop
  | .sleep => a.mState = .kActive ∧ a.isSenderLoopPaused = false
  | .wakeUp => a.mState = .kSleeping ∧ a.isSenderLoopPaused = true
  | _ => True

/-- The id is that of the adapter that the command works on. -/
def Fits (command : PeerCommand) (adapterId : Int) (p : Process) : Prop :=
  match command with
  | .connect => True
  | .disconnect => p.findAdapterById adapterId = none
  | _ => 0 ≤ adapterId ∧ adapterId < p.adaptersCount ∧
      (Changes (p.adapters adapterId.toNat) command → (p.adapters adapterId.toNat).mId = adapterId)

variable {o : ℕ → Outcomes} {adapterId : Int} {p : Process}

theorem findAdapterById_some {i : ℕ} (h : p.findAdapterById adapterId = some i) :
    i < p.adaptersCount ∧ (p.adapters i).mId = adapterId := by
  unfold Process.findAdapterById at h
  exact ⟨List.mem_range.mp (List.mem_of_find?_eq_some h), by simpa using List.find?_some h⟩

theorem findAdapterById_ne_none {i : ℕ} (hi : i < p.adaptersCount)
    (hid : (p.adapters i).mId = adapterId) : p.findAdapterById adapterId ≠ none := by
  unfold Process.findAdapterById
  intro hnone
  simpa [hid] using List.find?_eq_none.mp hnone i (List.mem_range.mpr hi)

theorem update_other {i k : ℕ} (hid : (p.adapters i).mId = adapterId) (a : ServerAdapter)
    (hk : (p.adapters k).mId ≠ adapterId) : Function.update p.adapters i a k = p.adapters k := by
  refine Function.update_of_ne ?_ a p.adapters
  rintro rfl
  exact hk hid

theorem connect_done (hready : p.nsState = .kNSStateReady) (hidle : p.connectOngoing = none)
    (f : ℕ → ServerAdapter) : ConnectRequestTransaction.done { p with
      nsState := .kNSStateSwitching, connectOngoing := some adapterId, adapters := f } =
    .ok (p.during f p.requests) := by
  cases p
  cases hready
  cases hidle
  rfl

/-- Whatever comes of the connection, its callback ends the request. -/
theorem connect_returns {q : Process} (hon : q.connectOngoing = some adapterId) (i : ℕ) :
    ∃ a, ServerAdapter.connect o i (some ConnectRequestTransaction.connectCallback) false q =
      ConnectRequestTransaction.done (q.setAdapter i a) := by
  have hcallback : ∀ (isSuccess : Bool) a,
      ConnectRequestTransaction.connectCallback i isSuccess (q.setAdapter i a) =
        ConnectRequestTransaction.done (q.setAdapter i a) := by
    intro isSuccess a
    unfold ConnectRequestTransaction.connectCallback
    rw [show (q.setAdapter i a).connectOngoing = some adapterId from hon]
    cases isSuccess <;> rfl
  unfold ServerAdapter.connect
  split
  · refine ⟨q.adapters i, ?_⟩
    have h := hcallback false (q.adapters i)
    rw [q.setAdapter_self] at h ⊢
    exact h
  · exact ⟨_, hcallback _ _⟩

theorem connect_released (hready : p.nsState = .kNSStateReady) :
    Released o .connect adapterId p := by
  unfold Released handle NetworkSwitcher.connectAdapterByPeer ConnectRequestTransaction.run
  simp only [hready, reduceCtorEq, if_false]
  cases hon : p.connectOngoing with
  | some ongoing =>
    refine ⟨p.adapters, p.requests, ?_, hready, fun _ _ => rfl, fun _ => rfl⟩
    show Except.ok (Process.doneSwitch _) = _
    rw [Process.doneSwitch_eq]
    cases p
    cases hready
    cases hon
    rfl
  | none =>
    simp only [ConnectRequestTransaction.start]
    have hfind : Process.findAdapterById { p with
        nsState := .kNSStateSwitching, connectOngoing := some adapterId } adapterId =
      p.findAdapterById adapterId := rfl
    rw [hfind]
    cases hf : p.findAdapterById adapterId with
    | none =>
      exact ⟨p.adapters, p.requests, connect_done hready hon p.adapters, hready,
        fun _ _ => rfl, fun _ => rfl⟩
    | some i =>
      let q : Process := { p with nsState := .kNSStateSwitching, connectOngoing := some adapterId }
      have hongoing : q.connectOngoing = some adapterId := rfl
      obtain ⟨a, ha⟩ := connect_returns (o := o) hongoing i
      refine ⟨Function.update p.adapters i a, p.requests, ha.trans (connect_done hready hon _),
        hready, fun k hk => update_other (findAdapterById_some hf).2 a hk, nofun⟩

/-- No end of a disconnection makes the switcher ready. -/
theorem disconnectOnPeerCommand_switching {q r : Process} {i : ℕ}
    (hswitching : q.nsState = .kNSStateSwitching)
    (h : ServerAdapter.disconnectOnPeerCommand o i none q = .ok r) :
    r.nsState = .kNSStateSwitching := by
  have hinternal : ∀ {q : Process}, q.nsState = .kNSStateSwitching →
      ServerAdapter.disconnectInternal o i none q = .ok r → r.nsState = .kNSStateSwitching := by
    intro q hq h
    unfold ServerAdapter.disconnectInternal ServerAdapter.callIfSet at h
    simp only at h
    split at h
    · cases h
    · split at h
      · cases h
      · cases h
        exact hq
  have hsleeping : ∀ {q : Process}, q.nsState = .kNSStateSwitching →
      ServerAdapter.disconnectSleepingByPeer o i none q = .ok r →
      r.nsState = .kNSStateSwitching := by
    intro q hq h
    unfold ServerAdapter.disconnectSleepingByPeer at h
    simp only at h
    split at h
    · refine hinternal ?_ h
      exact hq
    · cases h
  unfold ServerAdapter.disconnectOnPeerCommand ServerAdapter.waitForSleeping
    ServerAdapter.call at h
  split_ifs at h
  · refine hsleeping ?_ h
    exact hswitching
  · exact hsleeping hswitching h

theorem disconnect_released_iff (hready : p.nsState = .kNSStateReady) :
    Released o .disconnect adapterId p ↔ p.findAdapterById adapterId = none := by
  unfold Released handle NetworkSwitcher.disconnectAdapterByPeer
  simp only [hready, reduceCtorEq, if_false]
  cases hf : p.findAdapterById adapterId with
  | none =>
    refine iff_of_true ⟨p.adapters, p.requests, rfl, hready, fun _ _ => rfl, fun _ => rfl⟩ rfl
  | some i =>
    refine iff_of_false ?_ nofun
    rintro ⟨f, requests, h, hstate, -⟩
    cases hstate.symm.trans (disconnectOnPeerCommand_switching rfl h)

theorem getAdapter_released_iff {operation : ℕ → Action} {g : ServerAdapter → ServerAdapter}
    (hready : p.nsState = .kNSStateReady)
    (hoperation : ∀ i q, operation i q = .ok (q.setAdapter i (g (q.adapters i)))) :
    (∃ f requests, p.getAdapter adapterId (fun i => NetworkSwitcher.switchingDuring (operation i)) =
        .ok (p.during f requests) ∧ (p.during f requests).nsState = .kNSStateReady ∧
      (∀ i, (p.adapters i).mId ≠ adapterId → f i = p.adapters i) ∧
      (p.findAdapterById adapterId = none → p.during f requests = p)) ↔
    0 ≤ adapterId ∧ adapterId < p.adaptersCount ∧
      (g (p.adapters adapterId.toNat) ≠ p.adapters adapterId.toNat →
        (p.adapters adapterId.toNat).mId = adapterId) := by
  let i := adapterId.toNat
  unfold Process.getAdapter
  by_cases hrange : 0 ≤ adapterId ∧ adapterId < p.adaptersCount
  · have hreturns : NetworkSwitcher.switchingDuring (operation i) p =
        .ok (p.during (Function.update p.adapters i (g (p.adapters i))) p.requests) := by
      unfold NetworkSwitcher.switchingDuring
      rw [hoperation]
      cases p
      cases hready
      rfl
    rw [if_pos hrange]
    beta_reduce
    rw [show NetworkSwitcher.switchingDuring (operation adapterId.toNat) p = _ from hreturns]
    constructor
    · rintro ⟨f, requests, h, -, hother, -⟩
      refine ⟨hrange.1, hrange.2, fun hchanges => ?_⟩
      by_contra hid
      have hf : f i = g (p.adapters i) := by
        have hadapters := congrArg Process.adapters (Except.ok.inj h)
        have hi := congrFun hadapters i
        rw [show (p.during (Function.update p.adapters i (g (p.adapters i))) p.requests).adapters i = g (p.adapters i)
          from
          Function.update_self ..] at hi
        exact hi.symm
      exact hchanges (hf.symm.trans (hother i hid))
    · rintro ⟨-, -, hid⟩
      refine ⟨_, _, rfl, hready, fun k hk => ?_, fun hnone => ?_⟩
      · by_cases hki : k = i
        · subst hki
          by_contra hne
          rw [show Function.update p.adapters i (g (p.adapters i)) i = g (p.adapters i) from Function.update_self ..] at hne
          exact hk (hid hne)
        · exact Function.update_of_ne hki (g (p.adapters i)) p.adapters
      · have hsame : g (p.adapters i) = p.adapters i := by
          by_contra hne
          exact findAdapterById_ne_none (by omega) (hid hne) hnone
        rw [hsame, Function.update_eq_self]
        rfl
  · rw [if_neg hrange]
    refine iff_of_false ?_ (fun h => hrange ⟨h.1, h.2.1⟩)
    rintro ⟨f, requests, h, -⟩
    cases h

def slept (a : ServerAdapter) : ServerAdapter :=
  if a.mState = .kActive ∧ a.isSenderLoopPaused = false then
    { a with mState := .kGoingSleeping, isSenderLoopPaused := true }
  else a

def wokenUp (a : ServerAdapter) : ServerAdapter :=
  if a.mState = .kSleeping ∧ a.isSenderLoopPaused = true then
    { a with mState := .kWakingUp, isSenderLoopPaused := false }
  else a

theorem sleep_eq (i : ℕ) (q : Process) :
    ServerAdapter.sleep i none false q = .ok (q.setAdapter i (slept (q.adapters i))) := by
  unfold ServerAdapter.sleep ServerAdapter.callIfSet slept
  cases hs : (q.adapters i).mState <;> cases hp : (q.adapters i).isSenderLoopPaused <;>
    simp [hs, hp]

theorem wakeUp_eq (i : ℕ) (q : Process) :
    ServerAdapter.wakeUp i none false q = .ok (q.setAdapter i (wokenUp (q.adapters i))) := by
  unfold ServerAdapter.wakeUp ServerAdapter.callIfSet wokenUp
  cases hs : (q.adapters i).mState <;> cases hp : (q.adapters i).isSenderLoopPaused <;>
    simp [hs, hp]

theorem slept_ne_iff (a : ServerAdapter) : slept a ≠ a ↔ Changes a .sleep := by
  obtain ⟨_, state, _, _, _, _, _, _, _, paused, _⟩ := a
  cases state <;> cases paused <;> simp [slept, Changes]

theorem wokenUp_ne_iff (a : ServerAdapter) : wokenUp a ≠ a ↔ Changes a .wakeUp := by
  obtain ⟨_, state, _, _, _, _, _, _, _, paused, _⟩ := a
  cases state <;> cases paused <;> simp [wokenUp, Changes]

theorem peerCommand_released_iff (command : PeerCommand) (hready : p.nsState = .kNSStateReady) :
    Released o command adapterId p ↔ Fits command adapterId p := by
  cases command with
  | connect => exact iff_of_true (connect_released hready) trivial
  | disconnect => exact disconnect_released_iff hready
  | sleep =>
    unfold Released handle NetworkSwitcher.sleepAdapterByPeer
    simp only [hready, reduceCtorEq, if_false]
    rw [getAdapter_released_iff hready sleep_eq, slept_ne_iff]
    exact Iff.rfl
  | wakeUp =>
    unfold Released handle NetworkSwitcher.wakeUpAdapterByPeer
    simp only [hready, reduceCtorEq, if_false]
    rw [getAdapter_released_iff hready wakeUp_eq, wokenUp_ne_iff]
    exact Iff.rfl

theorem peerCommand_released_iff_twoAdapters :
    Released (fun _ => .succeed) .connect 1 NetworkSwitcher.twoAdapters ↔
      Fits .connect 1 NetworkSwitcher.twoAdapters :=
  peerCommand_released_iff .connect rfl

/-- A disconnection is commanded for an active adapter: the callback is null. -/
theorem disconnect_not_released : ¬ ∀ (o : ℕ → Outcomes) (command : PeerCommand) (adapterId : Int)
    (p : Process), p.nsState = .kNSStateReady → Released o command adapterId p := by
  intro hall
  obtain ⟨f, requests, h, -⟩ :=
    hall (fun _ => .succeed) .disconnect 0 NetworkSwitcher.twoAdapters rfl
  cases h

end PeerCommand

end Linux
end VirtualConnection
