import VirtualConnection.Linux.AdapterRun

/-!
# Linux.AdapterResources

The components of an adapter follow its state. While the adapter is disconnected or connecting, a
thread whose loop is not enabled (`LoopThread.Quiet`), or has just been (`LoopThread.Fresh`), does
not get to the state or the socket.

`resources_follow`: the components follow the state, in the runs whose steps are all `Orderly`.
-/

namespace VirtualConnection
namespace Linux

/-! ## What a thread can do -/

namespace LoopThread

variable {role : LoopRole} {b : Bool} {v : View} {t : LoopThread}

/-- Between the start of the loop and its end. -/
def InLoop : LoopPoint → Bool
  | .outside | .starting | .ending => false
  | _ => true

/-- Points of a loop that is not enabled. -/
def IsQuiet : LoopPoint → Bool
  | .outside | .starting | .check | .disabling | .unpausing | .ending => true
  | _ => false

/-- Points of a loop whose adapter has been connecting since the loop began. -/
def IsFresh : LoopPoint → Bool
  | .pause | .dequeue | .readState | .connecting => true
  | point => IsQuiet point

/-- The thread does not get to the state or the socket of the adapter. -/
structure Quiet (t : LoopThread) : Prop where
  enabled : t.isLoopEnabled = false
  paused : t.isLoopPaused = false
  point : IsQuiet t.point

structure Fresh (t : LoopThread) : Prop where
  paused : t.isLoopPaused = false
  point : IsFresh t.point

/-- What the flags of a thread say about its point. -/
structure Regular (role : LoopRole) (t : LoopThread) : Prop where
  ends : t.isLoopEnds = true → t.point = .outside ∨ t.point = .starting
  paused : t.isLoopPaused = true → role = .sender ∧ InLoop t.point

theorem Quiet.enable (h : Quiet t) : Fresh { t with isLoopEnabled := true } := by
  refine ⟨h.paused, ?_⟩
  have hp := h.point
  show IsFresh t.point = true
  cases ht : t.point <;> simp_all [IsQuiet, IsFresh]

theorem Quiet.fresh (h : Quiet t) : Fresh t := by
  refine ⟨h.paused, ?_⟩
  have hp := h.point
  cases ht : t.point <;> simp_all [IsQuiet, IsFresh]

theorem Quiet.step (h : Quiet t) : Quiet (t.step role b v).1 ∧ (t.step role b v).2 = v := by
  obtain ⟨he, hp, hq⟩ := h
  unfold LoopThread.step
  cases ht : t.point <;> rw [ht] at hq <;> simp only [IsQuiet, Bool.false_eq_true] at hq
  case disabling => cases role <;> exact ⟨⟨rfl, hp, rfl⟩, rfl⟩
  case check => simp only [he]; exact ⟨⟨rfl, hp, rfl⟩, rfl⟩
  case unpausing => exact ⟨⟨he, rfl, rfl⟩, rfl⟩
  all_goals exact ⟨⟨he, hp, rfl⟩, rfl⟩

/-- While the adapter is connecting, a loop that has just been enabled gets no further than the wait
for `kActive`. -/
theorem Fresh.step (h : Fresh t) (hv : v.mState = .kConnecting) :
    Fresh (t.step role b v).1 ∧ (t.step role b v).2 = v := by
  obtain ⟨hp, hq⟩ := h
  unfold LoopThread.step
  cases ht : t.point <;> rw [ht] at hq <;> simp only [IsFresh, IsQuiet, Bool.false_eq_true] at hq
  case check =>
    dsimp only
    split
    · cases role <;> exact ⟨⟨hp, rfl⟩, rfl⟩
    · exact ⟨⟨hp, rfl⟩, rfl⟩
  case pause => exact ⟨⟨hp, by simp [hp, IsFresh]⟩, rfl⟩
  case dequeue => cases b <;> exact ⟨⟨hp, rfl⟩, rfl⟩
  case readState =>
    rw [if_pos hv]
    exact ⟨⟨hp, rfl⟩, rfl⟩
  case connecting => exact ⟨⟨hp, by simp [hv, IsFresh]⟩, rfl⟩
  case disabling => cases role <;> exact ⟨⟨hp, rfl⟩, rfl⟩
  case unpausing => exact ⟨⟨rfl, rfl⟩, rfl⟩
  all_goals exact ⟨⟨hp, rfl⟩, rfl⟩

theorem Regular.quiet (h : Regular role t) (hdisabled : t.isLoopEnabled = false)
    (hends : t.isLoopEnds = true) : Quiet t := by
  have hpoint := h.ends hends
  refine ⟨hdisabled, ?_, ?_⟩
  · by_contra hpaused
    have hin := (h.paused (by simpa using hpaused)).2
    rcases hpoint with hp | hp <;> simp [hp, InLoop] at hin
  · rcases hpoint with hp | hp <;> rw [hp] <;> rfl

theorem Regular.step (h : Regular role t) : Regular role (t.step role b v).1 := by
  obtain ⟨he, hp⟩ := h
  unfold LoopThread.step
  cases ht : t.point <;> simp [ht, InLoop] at he hp
  case outside => exact ⟨fun _ => .inr rfl, fun hpaused => by simp [hp] at hpaused⟩
  case starting => exact ⟨fun hends => by simp at hends, fun hpaused => by simp [hp] at hpaused⟩
  case ending => exact ⟨fun _ => .inl rfl, fun hpaused => by simp [hp] at hpaused⟩
  case unpausing => exact ⟨fun hends => by simp [he] at hends, fun hpaused => by simp at hpaused⟩
  case disabling =>
    refine ⟨fun hends => by simp [he] at hends, fun hpaused => ?_⟩
    obtain rfl := hp hpaused
    exact ⟨rfl, rfl⟩
  all_goals
    dsimp only
    repeat' split
    all_goals exact ⟨fun hends => by simp [he] at hends, fun hpaused => ⟨hp hpaused, rfl⟩⟩

/-- A thread sets the state to `kSleeping` or `kActive`, closes the socket, and disables its loop. -/
theorem step_cases (t : LoopThread) (role : LoopRole) (b : Bool) (v : View) :
    ((t.step role b v).2.mState = v.mState ∨ (t.step role b v).2.mState = .kSleeping ∨
      (t.step role b v).2.mState = .kActive) ∧
    ((t.step role b v).2.mServerSocket = v.mServerSocket ∨
      (t.step role b v).2.mServerSocket = .kClosed) ∧
    (t.isLoopEnabled = false → (t.step role b v).1.isLoopEnabled = false) := by
  unfold LoopThread.step
  split <;> (try split) <;> simp_all

end LoopThread

/-! ## The invariant -/

namespace AdapterRun

variable {s : AdapterRun}

/-- Neither disconnected nor connecting. -/
def Away (state : ServerAdapterState) : Prop := state ≠ .kDisconnected ∧ state ≠ .kConnecting

/-- What a connection finds, and what it leaves when it fails. -/
structure Released (s : AdapterRun) : Prop where
  socket : s.mServerSocket = .kClosed
  p2pServer : s.disallowFailed = false → s.mP2PServer = .kDisallowed
  device : s.turnOffFailed = false → s.mDevice = .kOff

/-- The components at a point of `connect`. -/
def Equipped (s : AdapterRun) : ConnectPoint → Prop
  | .setConnecting | .turnOn | .failed => s.Released
  | .allowDiscover | .rollbackTurnOff =>
    s.mServerSocket = .kClosed ∧ s.mDevice = .kOn ∧
      (s.disallowFailed = false → s.mP2PServer = .kDisallowed)
  | .openCheck | .openCall =>
    s.mServerSocket = .kClosed ∧ s.mDevice = .kOn ∧ s.mP2PServer = .kAllowed
  | .openImpl => s.mDevice = .kOn ∧ s.mP2PServer = .kAllowed
  | .rollbackDisallow => s.mServerSocket = .kClosed ∧ s.mDevice = .kOn
  | .openResult | .enableSender | .enableReceiver | .setActive =>
    s.mServerSocket = .kOpened ∧ s.mDevice = .kOn ∧ s.mP2PServer = .kAllowed

def connectState : ConnectPoint → ServerAdapterState
  | .setConnecting => .kDisconnected
  | _ => .kConnecting

def ConnectLoop : ConnectPoint → LoopThread → Prop
  | .enableReceiver | .setActive => LoopThread.Fresh
  | _ => LoopThread.Quiet

def LoopsDisabled (s : AdapterRun) : Prop := ∀ role, (s.loops role).isLoopEnabled = false

/-- What has been given up at a point of a disconnection. -/
def GivenUp (s : AdapterRun) : DisconnectPoint → Prop
  | .setDisconnecting | .disableSender | .restore => True
  | .resumeSender | .disableReceiver => (s.loops .sender).isLoopEnabled = false
  | .closeCheck | .closeRecheck | .closeCall | .closeImpl | .closeResult _ => s.LoopsDisabled
  | .disallowDiscover => s.LoopsDisabled ∧ s.mServerSocket = .kClosed
  | .turnOff =>
    s.LoopsDisabled ∧ s.mServerSocket = .kClosed ∧ s.mP2PServer = .kDisallowed

structure AllGivenUp (s : AdapterRun) : Prop where
  loops : s.LoopsDisabled
  socket : s.mServerSocket = .kClosed
  p2pServer : s.mP2PServer = .kDisallowed
  device : s.mDevice = .kOff

def Stage (s : AdapterRun) : CallPoint → Prop
  | .idle => s.mState ≠ .kConnecting ∧
      (s.mState = .kDisconnected → (∀ role, LoopThread.Quiet (s.loops role)) ∧ s.Released)
  | .connect point => s.mState = connectState point ∧
      (∀ role, ConnectLoop point (s.loops role)) ∧ s.Equipped point
  | .disconnect oldState point => Away oldState ∧ Away s.mState ∧ s.GivenUp point
  | .waitLoop role | .waiting role =>
    s.AllGivenUp ∧ (role = .receiver → LoopThread.Quiet (s.loops .sender))
  | .disconnected => s.AllGivenUp ∧ ∀ role, LoopThread.Quiet (s.loops role)
  | _ => Away s.mState

/-- Inside `open` or `close`. -/
def InImpl : CallPoint → Prop
  | .connect .openImpl | .disconnect _ .closeImpl => True
  | _ => False

structure Inv (s : AdapterRun) : Prop where
  regular : ∀ role, LoopThread.Regular role (s.loops role)
  device : s.mDevice = .kOn ∨ s.mDevice = .kOff
  socket : s.mServerSocket = .kOpened ∨ s.mServerSocket = .kClosed ∨ InImpl s.call
  stage : s.Stage s.call
  activations : ∀ a ∈ s.activations, a = ⟨.kOn, .kAllowed, .kOpened⟩

/-! ### Steps of the threads -/

theorem loops_loopStep {role : LoopRole} {b : Bool} {P : LoopRole → LoopThread → Prop}
    (h : P role (s.loops role) → P role ((s.loops role).step role b s.toView).1) (r : LoopRole)
    (hr : P r (s.loops r)) : P r ((s.loopStep role b).loops r) := by
  by_cases hrole : r = role
  · subst hrole
    simpa [loopStep] using h hr
  · simpa [loopStep, hrole] using hr

theorem loopsDisabled_loopStep {role : LoopRole} {b : Bool} (r : LoopRole)
    (h : (s.loops r).isLoopEnabled = false) :
    ((s.loopStep role b).loops r).isLoopEnabled = false :=
  loops_loopStep (P := fun _ t => t.isLoopEnabled = false)
    ((s.loops role).step_cases role b s.toView).2.2 r h

theorem quiet_loopStep {role : LoopRole} {b : Bool} (r : LoopRole)
    (h : LoopThread.Quiet (s.loops r)) : LoopThread.Quiet ((s.loopStep role b).loops r) :=
  loops_loopStep (P := fun _ => LoopThread.Quiet) (fun hq => hq.step.1) r h

theorem away_loopStep {role : LoopRole} {b : Bool} (h : Away s.mState) :
    Away (s.loopStep role b).mState := by
  have hcases := ((s.loops role).step_cases role b s.toView).1
  change Away ((s.loops role).step role b s.toView).2.mState
  rcases hcases with he | he | he <;> rw [he]
  · exact h
  · exact ⟨by decide, by decide⟩
  · exact ⟨by decide, by decide⟩

theorem closed_loopStep {role : LoopRole} {b : Bool} (h : s.mServerSocket = .kClosed) :
    (s.loopStep role b).mServerSocket = .kClosed := by
  rcases ((s.loops role).step_cases role b s.toView).2.1 with he | he
  · exact he.trans h
  · exact he

theorem allGivenUp_loopStep {role : LoopRole} {b : Bool} (h : s.AllGivenUp) :
    (s.loopStep role b).AllGivenUp :=
  ⟨fun r => loopsDisabled_loopStep r (h.loops r), closed_loopStep h.socket, h.p2pServer, h.device⟩

/-- A thread whose adapter is disconnected or connecting keeps away from what it shares. -/
theorem connect_loopStep {role : LoopRole} {b : Bool} {point : ConnectPoint}
    (hstate : s.mState = connectState point) (h : ∀ r, ConnectLoop point (s.loops r)) :
    (s.loopStep role b).toView = s.toView ∧
      ∀ r, ConnectLoop point ((s.loopStep role b).loops r) := by
  have hstep : ConnectLoop point ((s.loops role).step role b s.toView).1 ∧
      ((s.loops role).step role b s.toView).2 = s.toView := by
    have hrole := h role
    cases point
    case enableReceiver | setActive => exact LoopThread.Fresh.step hrole hstate
    all_goals exact LoopThread.Quiet.step hrole
  exact ⟨hstep.2,
    fun r => loops_loopStep (P := fun _ => ConnectLoop point) (fun _ => hstep.1) r (h r)⟩

theorem equipped_of_view {s' : AdapterRun} (hview : s'.toView = s.toView)
    (hdevice : s'.mDevice = s.mDevice) (hp2p : s'.mP2PServer = s.mP2PServer)
    (hdisallow : s'.disallowFailed = s.disallowFailed)
    (hoff : s'.turnOffFailed = s.turnOffFailed) {point : ConnectPoint} (h : s.Equipped point) :
    s'.Equipped point := by
  have hsocket : s'.mServerSocket = s.mServerSocket := congrArg LoopThread.View.mServerSocket hview
  have hreleased : s.Released → s'.Released := by
    rintro ⟨h₁, h₂, h₃⟩
    exact ⟨hsocket.trans h₁, by rwa [hdisallow, hp2p], by rwa [hoff, hdevice]⟩
  cases point <;> simp only [Equipped, hsocket, hdevice, hp2p, hdisallow] at h ⊢
  case setConnecting | turnOn | failed => exact hreleased h
  all_goals exact h

theorem givenUp_loopStep {role : LoopRole} {b : Bool} {point : DisconnectPoint}
    (h : s.GivenUp point) : (s.loopStep role b).GivenUp point := by
  have hloops : s.LoopsDisabled → (s.loopStep role b).LoopsDisabled :=
    fun hd r => loopsDisabled_loopStep r (hd r)
  cases point
  case setDisconnecting | disableSender | restore => trivial
  case resumeSender | disableReceiver => exact loopsDisabled_loopStep _ h
  case closeCheck | closeRecheck | closeCall | closeImpl | closeResult => exact hloops h
  case disallowDiscover => exact ⟨hloops h.1, closed_loopStep h.2⟩
  case turnOff => exact ⟨hloops h.1, closed_loopStep h.2.1, h.2.2⟩

theorem stage_loopStep {role : LoopRole} {b : Bool} {call : CallPoint} (h : s.Stage call) :
    (s.loopStep role b).Stage call := by
  cases call with
  | idle =>
    obtain ⟨hconnecting, hdisconnected⟩ := h
    by_cases hstate : s.mState = .kDisconnected
    · obtain ⟨hquiet, hreleased⟩ := hdisconnected hstate
      obtain ⟨hview, -⟩ := @connect_loopStep s role b .setConnecting hstate hquiet
      have hstate' : (s.loopStep role b).mState = .kDisconnected :=
        (congrArg LoopThread.View.mState hview).trans hstate
      refine ⟨by rw [hstate']; decide, fun _ => ⟨fun r => quiet_loopStep r (hquiet r), ?_⟩⟩
      exact @equipped_of_view s _ hview rfl rfl rfl rfl .setConnecting hreleased
    · obtain ⟨hne, hne'⟩ := @away_loopStep s role b ⟨hstate, hconnecting⟩
      exact ⟨hne', fun h => absurd h hne⟩
  | connect point =>
    obtain ⟨hstate, hloops, hequipped⟩ := h
    obtain ⟨hview, hloops'⟩ := @connect_loopStep s role b point hstate hloops
    exact ⟨(congrArg LoopThread.View.mState hview).trans hstate, hloops',
      equipped_of_view hview rfl rfl rfl rfl hequipped⟩
  | disconnect oldState point => exact ⟨h.1, away_loopStep h.2.1, givenUp_loopStep h.2.2⟩
  | waitLoop r | waiting r =>
    exact ⟨allGivenUp_loopStep h.1, fun hr => quiet_loopStep _ (h.2 hr)⟩
  | disconnected => exact ⟨allGivenUp_loopStep h.1, fun r => quiet_loopStep r (h.2 r)⟩
  | _ => exact away_loopStep h

theorem inv_loopStep {role : LoopRole} {b : Bool} (h : s.Inv) : (s.loopStep role b).Inv where
  regular r := loops_loopStep (P := LoopThread.Regular) (fun hr => hr.step) r (h.regular r)
  device := h.device
  socket := by
    have hcases := ((s.loops role).step_cases role b s.toView).2.1
    rcases hcases with he | he
    · have he' : (s.loopStep role b).mServerSocket = s.mServerSocket := he
      rw [he']
      exact h.socket
    · exact .inr (.inl he)
  stage := stage_loopStep h.stage
  activations := h.activations

/-! ### Steps of the calls -/

theorem loops_setLoop {role : LoopRole} {t : LoopThread} {P : LoopRole → LoopThread → Prop}
    (ht : P role t) (r : LoopRole) (hr : P r (s.loops r)) : P r ((s.setLoop role t).loops r) := by
  by_cases hrole : r = role
  · subst hrole
    simpa [setLoop] using ht
  · simpa [setLoop, hrole] using hr

theorem regular_setLoopEnabled {role : LoopRole} {isEnabled : Bool}
    (h : ∀ r, LoopThread.Regular r (s.loops r)) (r : LoopRole) :
    LoopThread.Regular r ((s.setLoopEnabled role isEnabled).loops r) := by
  have ht : LoopThread.Regular role { s.loops role with isLoopEnabled := isEnabled } :=
    ⟨(h role).ends, (h role).paused⟩
  exact loops_setLoop ht r (h r)

theorem regular_resume (h : ∀ r, LoopThread.Regular r (s.loops r)) (r : LoopRole) :
    LoopThread.Regular r ((s.setLoopPaused false).loops r) := by
  have ht : LoopThread.Regular .sender { s.loops .sender with isLoopPaused := false } :=
    ⟨(h .sender).ends, fun hp => absurd hp Bool.false_ne_true⟩
  exact loops_setLoop ht r (h r)

theorem regular_pause (h : ∀ r, LoopThread.Regular r (s.loops r))
    (hin : LoopThread.InLoop (s.loops .sender).point) (r : LoopRole) :
    LoopThread.Regular r ((s.setLoopPaused true).loops r) := by
  have ht : LoopThread.Regular .sender { s.loops .sender with isLoopPaused := true } :=
    ⟨(h .sender).ends, fun _ => ⟨rfl, hin⟩⟩
  exact loops_setLoop ht r (h r)

theorem connectStep_inv {impl : Bool} {point : ConnectPoint} (h : s.Inv)
    (hcall : s.call = .connect point) : (s.connectStep impl point).Inv := by
  obtain ⟨hregular, hdevice, hsocket, hstage, hactivations⟩ := h
  rw [hcall] at hstage hsocket
  obtain ⟨hstate, hloops, hequipped⟩ := hstage
  cases point with
  | setConnecting =>
    obtain ⟨hs, hp, hd⟩ := hequipped
    exact ⟨hregular, hdevice, .inr (.inl hs), ⟨rfl, hloops, ⟨hs, hp, hd⟩⟩, hactivations⟩
  | turnOn =>
    obtain ⟨hs, hp, hd⟩ := hequipped
    rcases hdevice with hon | hoff
    · have he : s.connectStep impl .turnOn = s.goTo (.connect .allowDiscover) := by
        simp [connectStep, hon]
      rw [he]
      exact ⟨hregular, .inl hon, .inr (.inl hs), ⟨hstate, hloops, hs, hon, hp⟩, hactivations⟩
    · cases impl
      · have he : s.connectStep false .turnOn =
            { s with mDevice := .kOff, call := .connect .failed } := by
          simp [connectStep, hoff, DeviceState.turnOn]
        rw [he]
        exact ⟨hregular, .inr rfl, .inr (.inl hs), ⟨hstate, hloops, ⟨hs, hp, fun _ => rfl⟩⟩,
          hactivations⟩
      · have he : s.connectStep true .turnOn =
            { s with mDevice := .kOn, call := .connect .allowDiscover } := by
          simp [connectStep, hoff, DeviceState.turnOn]
        rw [he]
        exact ⟨hregular, .inl rfl, .inr (.inl hs), ⟨hstate, hloops, hs, rfl, hp⟩, hactivations⟩
  | allowDiscover =>
    obtain ⟨hs, hon, hp⟩ := hequipped
    cases hserver : s.mP2PServer with
    | kAllowed =>
      have he : s.connectStep impl .allowDiscover = s.goTo (.connect .openCheck) := by
        simp [connectStep, hserver]
      rw [he]
      exact ⟨hregular, .inl hon, .inr (.inl hs), ⟨hstate, hloops, hs, hon, hserver⟩, hactivations⟩
    | kDisallowed =>
      cases impl
      · have he : s.connectStep false .allowDiscover =
            { s with mP2PServer := .kDisallowed, call := .connect .rollbackTurnOff } := by
          simp [connectStep, hserver, P2PServerState.allowDiscover]
        rw [he]
        exact ⟨hregular, .inl hon, .inr (.inl hs), ⟨hstate, hloops, hs, hon, fun _ => rfl⟩,
          hactivations⟩
      · have he : s.connectStep true .allowDiscover =
            { s with mP2PServer := .kAllowed, call := .connect .openCheck } := by
          simp [connectStep, hserver, P2PServerState.allowDiscover]
        rw [he]
        exact ⟨hregular, .inl hon, .inr (.inl hs), ⟨hstate, hloops, hs, hon, rfl⟩, hactivations⟩
  | openCheck =>
    obtain ⟨hs, hon, hp⟩ := hequipped
    have he : s.connectStep impl .openCheck = s.goTo (.connect .openCall) := by
      simp [connectStep, hs]
    rw [he]
    exact ⟨hregular, .inl hon, .inr (.inl hs), ⟨hstate, hloops, hs, hon, hp⟩, hactivations⟩
  | openCall =>
    obtain ⟨hs, hon, hp⟩ := hequipped
    have he : s.connectStep impl .openCall =
        { s with mServerSocket := .kOpening, call := .connect .openImpl } := by
      simp [connectStep, hs]
    rw [he]
    exact ⟨hregular, .inl hon, .inr (.inr trivial), ⟨hstate, hloops, hon, hp⟩, hactivations⟩
  | openImpl =>
    obtain ⟨hon, hp⟩ := hequipped
    cases impl
    · exact ⟨hregular, .inl hon, .inr (.inl rfl), ⟨hstate, hloops, rfl, hon⟩, hactivations⟩
    · exact ⟨hregular, .inl hon, .inl rfl, ⟨hstate, hloops, rfl, hon, hp⟩, hactivations⟩
  | openResult =>
    obtain ⟨hs, hon, hp⟩ := hequipped
    have he : s.connectStep impl .openResult = s.goTo (.connect .enableSender) := by
      simp [connectStep, hs]
    rw [he]
    exact ⟨hregular, .inl hon, .inl hs, ⟨hstate, hloops, hs, hon, hp⟩, hactivations⟩
  | rollbackDisallow =>
    obtain ⟨hs, hon⟩ := hequipped
    refine ⟨hregular, .inl hon, .inr (.inl hs), ⟨hstate, hloops, hs, hon, ?_⟩, hactivations⟩
    cases hserver : s.mP2PServer <;> cases impl <;>
      simp [connectStep, hserver, P2PServerState.disallowDiscover]
  | rollbackTurnOff =>
    obtain ⟨hs, hon, hp⟩ := hequipped
    cases impl
    · refine ⟨hregular, .inl ?_, .inr (.inl hs), ⟨hstate, hloops, ⟨hs, hp, fun hfailed => ?_⟩⟩,
        hactivations⟩
      · simp [connectStep, hon, DeviceState.turnOff]
      · simp [connectStep, hon, DeviceState.turnOff] at hfailed
    · have hoff : (s.connectStep true .rollbackTurnOff).mDevice = .kOff := by
        simp [connectStep, hon, DeviceState.turnOff]
      exact ⟨hregular, .inr hoff, .inr (.inl hs), ⟨hstate, hloops, ⟨hs, hp, fun _ => hoff⟩⟩,
        hactivations⟩
  | failed =>
    obtain ⟨hs, hp, hd⟩ := hequipped
    exact ⟨hregular, hdevice, .inr (.inl hs), ⟨by simp [connectStep], fun _ => ⟨hloops, hs, hp, hd⟩⟩,
      hactivations⟩
  | enableSender =>
    obtain ⟨hs, hon, hp⟩ := hequipped
    refine ⟨regular_setLoopEnabled hregular, .inl hon, .inl hs, ⟨hstate, fun r => ?_, hs, hon, hp⟩,
      hactivations⟩
    exact loops_setLoop (P := fun _ => LoopThread.Fresh) (hloops .sender).enable r (hloops r).fresh
  | enableReceiver =>
    obtain ⟨hs, hon, hp⟩ := hequipped
    have hfresh : LoopThread.Fresh { s.loops .receiver with isLoopEnabled := true } :=
      ⟨(hloops .receiver).paused, (hloops .receiver).point⟩
    refine ⟨regular_setLoopEnabled hregular, .inl hon, .inl hs, ⟨hstate, fun r => ?_, hs, hon, hp⟩,
      hactivations⟩
    exact loops_setLoop (P := fun _ => LoopThread.Fresh) hfresh r (hloops r)
  | setActive =>
    obtain ⟨hs, hon, hp⟩ := hequipped
    refine ⟨hregular, .inl hon, .inl hs, ⟨by simp [connectStep], fun h => ?_⟩, fun a ha => ?_⟩
    · simp [connectStep] at h
    · rcases List.mem_append.mp ha with ha | ha
      · exact hactivations a ha
      · rw [List.mem_singleton.mp ha, hs, hon, hp]

theorem loopsDisabled_setLoopEnabled {role : LoopRole} (r : LoopRole)
    (h : r ≠ role → (s.loops r).isLoopEnabled = false) :
    ((s.setLoopEnabled role false).loops r).isLoopEnabled = false := by
  by_cases hrole : r = role
  · subst hrole
    simp [setLoopEnabled, setLoop]
  · simpa [setLoopEnabled, setLoop, hrole] using h hrole

theorem Inv.settled (h : s.Inv) {call : CallPoint} (hcall : s.call = call) (hin : ¬ InImpl call) :
    s.mServerSocket = .kOpened ∨ s.mServerSocket = .kClosed := by
  subst hcall
  exact h.socket.imp_right fun hs => hs.resolve_right hin

theorem not_inImpl {oldState : ServerAdapterState} {point : DisconnectPoint}
    (hne : point ≠ .closeImpl) : ¬ InImpl (.disconnect oldState point) := by
  cases point
  case closeImpl => exact fun _ => hne rfl
  all_goals exact id

/-- A disconnection goes on without a change. -/
theorem Inv.goOn {oldState : ServerAdapterState} {point next : DisconnectPoint} {s' : AdapterRun}
    (h : s.Inv) (hcall : s.call = .disconnect oldState point) (hne : point ≠ .closeImpl)
    (hs' : s' = s.goTo (.disconnect oldState next)) (hnext : s.GivenUp next) : s'.Inv := by
  subst hs'
  have hstage := h.stage
  rw [hcall] at hstage
  obtain ⟨hold, haway, -⟩ := hstage
  exact ⟨h.regular, h.device, (h.settled hcall (not_inImpl hne)).imp_right .inl,
    ⟨hold, haway, hnext⟩, h.activations⟩

theorem disconnectStep_inv {impl : Bool} {oldState : ServerAdapterState} {point : DisconnectPoint}
    (h : s.Inv) (hcall : s.call = .disconnect oldState point) :
    (s.disconnectStep impl oldState point).Inv := by
  have hsettled : point ≠ .closeImpl → s.mServerSocket = .kOpened ∨ s.mServerSocket = .kClosed :=
    fun hne => h.settled hcall (not_inImpl hne)
  have hgo : ∀ {s' : AdapterRun} {next : DisconnectPoint}, point ≠ .closeImpl →
      s' = s.goTo (.disconnect oldState next) → s.GivenUp next → s'.Inv := h.goOn hcall
  obtain ⟨hregular, hdevice, -, hstage, hactivations⟩ := h
  rw [hcall] at hstage
  obtain ⟨hold, haway, hgiven⟩ := hstage
  cases point with
  | setDisconnecting =>
    have haway' : Away (s.disconnectStep impl oldState .setDisconnecting).mState :=
      ⟨by simp [disconnectStep], by simp [disconnectStep]⟩
    exact ⟨hregular, hdevice, (hsettled (by decide)).imp_right .inl, ⟨hold, haway', trivial⟩,
      hactivations⟩
  | disableSender =>
    exact ⟨regular_setLoopEnabled hregular, hdevice, (hsettled (by decide)).imp_right .inl,
      ⟨hold, haway, loopsDisabled_setLoopEnabled _ fun hne => absurd rfl hne⟩, hactivations⟩
  | resumeSender =>
    by_cases hsleeping : oldState = .kSleeping
    · have he : s.disconnectStep impl oldState .resumeSender =
          (s.setLoopPaused false).goTo (.disconnect oldState .disableReceiver) := by
        simp only [disconnectStep, if_pos hsleeping]
      rw [he]
      exact ⟨regular_resume hregular, hdevice, (hsettled (by decide)).imp_right .inl,
        ⟨hold, haway, hgiven⟩, hactivations⟩
    · have he : s.disconnectStep impl oldState .resumeSender =
          s.goTo (.disconnect oldState .disableReceiver) := by
        simp only [disconnectStep, if_neg hsleeping]
      exact hgo (by decide) he hgiven
  | disableReceiver =>
    refine ⟨regular_setLoopEnabled hregular, hdevice, (hsettled (by decide)).imp_right .inl,
      ⟨hold, haway, fun r => loopsDisabled_setLoopEnabled r fun hne => ?_⟩, hactivations⟩
    cases r with
    | sender => exact hgiven
    | receiver => exact absurd rfl hne
  | closeCheck =>
    rcases hsettled (by decide) with hs | hs
    · have he : s.disconnectStep impl oldState .closeCheck =
          s.goTo (.disconnect oldState .closeRecheck) := by
        simp [disconnectStep, hs]
      exact hgo (by decide) he hgiven
    · have he : s.disconnectStep impl oldState .closeCheck =
          s.goTo (.disconnect oldState .disallowDiscover) := by
        simp [disconnectStep, hs]
      exact hgo (by decide) he ⟨hgiven, hs⟩
  | closeRecheck =>
    rcases hsettled (by decide) with hs | hs
    · have he : s.disconnectStep impl oldState .closeRecheck =
          s.goTo (.disconnect oldState .closeCall) := by
        simp [disconnectStep, hs]
      exact hgo (by decide) he hgiven
    · have he : s.disconnectStep impl oldState .closeRecheck =
          s.goTo (.disconnect oldState .disallowDiscover) := by
        simp [disconnectStep, hs]
      exact hgo (by decide) he ⟨hgiven, hs⟩
  | closeCall =>
    rcases hsettled (by decide) with hs | hs
    · have he : s.disconnectStep impl oldState .closeCall =
          { s with mServerSocket := .kClosing, call := .disconnect oldState .closeImpl } := by
        simp [disconnectStep, hs]
      rw [he]
      exact ⟨hregular, hdevice, .inr (.inr trivial), ⟨hold, haway, hgiven⟩, hactivations⟩
    · have he : s.disconnectStep impl oldState .closeCall =
          s.goTo (.disconnect oldState .restore) := by
        simp [disconnectStep, hs]
      exact hgo (by decide) he trivial
  | closeImpl =>
    exact ⟨hregular, hdevice, .inr (.inl rfl), ⟨hold, haway, hgiven⟩, hactivations⟩
  | closeResult res =>
    by_cases hfail : res = false ∨ s.mServerSocket ≠ .kClosed
    · have he : s.disconnectStep impl oldState (.closeResult res) =
          s.goTo (.disconnect oldState .restore) := by
        simp only [disconnectStep, if_pos hfail]
      exact hgo (by simp) he trivial
    · have he : s.disconnectStep impl oldState (.closeResult res) =
          s.goTo (.disconnect oldState .disallowDiscover) := by
        simp only [disconnectStep, if_neg hfail]
      have hclosed : s.mServerSocket = .kClosed := not_not.mp (not_or.mp hfail).2
      exact hgo (by simp) he ⟨hgiven, hclosed⟩
  | disallowDiscover =>
    obtain ⟨hdisabled, hs⟩ := hgiven
    cases hserver : s.mP2PServer with
    | kDisallowed =>
      have he : s.disconnectStep impl oldState .disallowDiscover =
          s.goTo (.disconnect oldState .turnOff) := by
        simp [disconnectStep, hserver]
      exact hgo (by decide) he ⟨hdisabled, hs, hserver⟩
    | kAllowed =>
      cases impl
      · have he : s.disconnectStep false oldState .disallowDiscover =
            { s with mP2PServer := .kAllowed, call := .disconnect oldState .restore } := by
          simp [disconnectStep, hserver, P2PServerState.disallowDiscover]
        rw [he]
        exact ⟨hregular, hdevice, .inr (.inl hs), ⟨hold, haway, trivial⟩, hactivations⟩
      · have he : s.disconnectStep true oldState .disallowDiscover =
            { s with mP2PServer := .kDisallowed, call := .disconnect oldState .turnOff } := by
          simp [disconnectStep, hserver, P2PServerState.disallowDiscover]
        rw [he]
        exact ⟨hregular, hdevice, .inr (.inl hs), ⟨hold, haway, hdisabled, hs, rfl⟩, hactivations⟩
  | turnOff =>
    obtain ⟨hdisabled, hs, hp⟩ := hgiven
    rcases hdevice with hon | hoff
    · cases impl
      · have he : s.disconnectStep false oldState .turnOff =
            { s with mDevice := .kOn, call := .disconnect oldState .restore } := by
          simp [disconnectStep, hon, DeviceState.turnOff]
        rw [he]
        exact ⟨hregular, .inl rfl, .inr (.inl hs), ⟨hold, haway, trivial⟩, hactivations⟩
      · have he : s.disconnectStep true oldState .turnOff =
            { s with mDevice := .kOff, call := .waitLoop .sender } := by
          simp [disconnectStep, hon, DeviceState.turnOff]
        rw [he]
        exact ⟨hregular, .inr rfl, .inr (.inl hs), ⟨⟨hdisabled, hs, hp, rfl⟩, by simp⟩, hactivations⟩
    · have he : s.disconnectStep impl oldState .turnOff = s.goTo (.waitLoop .sender) := by
        simp [disconnectStep, hoff]
      rw [he]
      exact ⟨hregular, .inr hoff, .inr (.inl hs), ⟨⟨hdisabled, hs, hp, hoff⟩, by simp⟩, hactivations⟩
  | restore =>
    exact ⟨hregular, hdevice, (hsettled (by decide)).imp_right .inl,
      ⟨hold.2, fun hdisconnected => absurd hdisconnected hold.1⟩, hactivations⟩

theorem begin_inv (h : s.Inv) (hidle : s.call = .idle) (call : AdapterCall) : (s.begin call).Inv := by
  have hsocket := (h.settled hidle id).imp_right (Or.inl (b := InImpl (s.begin call).call))
  obtain ⟨hregular, hdevice, -, hstage, hactivations⟩ := h
  rw [hidle] at hstage
  have hidle' : (s.goTo .idle).Stage .idle := ⟨hstage.1, fun hd =>
    ⟨(hstage.2 hd).1, ⟨(hstage.2 hd).2.socket, (hstage.2 hd).2.p2pServer, (hstage.2 hd).2.device⟩⟩⟩
  have haway : s.mState ≠ .kDisconnected → Away s.mState := fun hne => ⟨hne, hstage.1⟩
  have hstage' : (s.begin call).Stage (s.begin call).call := by
    cases call <;> simp only [begin]
    case connect =>
      split
      · exact hidle'
      · rename_i hd
        obtain ⟨hquiet, hs, hp, ho⟩ := hstage.2 (not_not.mp hd)
        exact ⟨not_not.mp hd, hquiet, hs, hp, ho⟩
    case disconnectOnCommand | disconnectOnPeerCommand =>
      split
      · rename_i hd
        exact haway (by simp [hd])
      · split
        · exact hidle'
        · rename_i hd
          exact haway (by simp [not_not.mp hd])
    case disconnectOnFailure =>
      split
      · exact hidle'
      · rename_i hd
        exact haway (not_or.mp hd).1
    case sleep | wakeUp =>
      split
      · exact hidle'
      · rename_i hd
        exact haway (by simp [not_not.mp hd])
  have hsame : (s.begin call).loops = s.loops ∧ (s.begin call).mDevice = s.mDevice ∧
      (s.begin call).activations = s.activations ∧
      (s.begin call).mServerSocket = s.mServerSocket := by
    cases call <;> exact ⟨rfl, rfl, rfl, rfl⟩
  obtain ⟨hl, hd, ha, hs⟩ := hsame
  exact ⟨by rwa [hl], by rwa [hd], by rwa [hs], hstage', by rwa [ha]⟩

/-- A wait for a loop is over. -/
theorem afterWait_inv {role : LoopRole} (h : s.Inv)
    (hstage : s.AllGivenUp ∧ (role = .receiver → LoopThread.Quiet (s.loops .sender)))
    (hends : (s.loops role).isLoopEnds = true) : (s.goTo (afterWait role)).Inv := by
  obtain ⟨hregular, hdevice, -, -, hactivations⟩ := h
  obtain ⟨⟨hdisabled, hs, hp, hd⟩, hsender⟩ := hstage
  have hquiet : LoopThread.Quiet (s.loops role) := (hregular role).quiet (hdisabled role) hends
  refine ⟨hregular, hdevice, .inr (.inl hs), ?_, hactivations⟩
  cases role with
  | sender => exact ⟨⟨hdisabled, hs, hp, hd⟩, fun _ => hquiet⟩
  | receiver =>
    refine ⟨⟨hdisabled, hs, hp, hd⟩, fun r => ?_⟩
    cases r with
    | sender => exact hsender rfl
    | receiver => exact hquiet

theorem Inv.away {state : ServerAdapterState} {before call : CallPoint} (h : s.Inv)
    (hbefore : s.call = before) (hin : ¬ InImpl before) (hstate : Away state)
    (hstage : ∀ s' : AdapterRun, Away s'.mState → s'.Stage call) :
    Inv { s with mState := state, call := call } :=
  ⟨h.regular, h.device, (h.settled hbefore hin).imp_right .inl, hstage _ hstate, h.activations⟩

theorem stage_idle_of_away (s : AdapterRun) (h : Away s.mState) : s.Stage .idle :=
  ⟨h.2, fun hd => absurd hd h.1⟩

/-! ### Runs -/

/-- The loop whose end a call waits for. -/
def awaited : CallPoint → Option LoopRole
  | .waiting role => some role
  | _ => none

/-- `wait_until_loop_ends` returns when the loop has ended, and `sleep` pauses a loop that runs. -/
def Orderly (s : AdapterRun) : AdapterStep → Prop
  | .returns => ∀ role ∈ awaited s.call, (s.loops role).isLoopEnds = true
  | .proceed _ => s.call = .sleepSet → LoopThread.InLoop (s.loops .sender).point = true
  | .call _ | .loop .. => True

instance (s : AdapterRun) : DecidablePred s.Orderly
  | .returns => inferInstanceAs (Decidable (∀ role ∈ awaited s.call, _))
  | .proceed _ => inferInstanceAs (Decidable (_ → _))
  | .call _ | .loop .. => .isTrue trivial

theorem proceed_inv {s' : AdapterRun} {impl : Bool} (h : s.Inv) (hl : s.Orderly (.proceed impl))
    (hs : s.proceed impl = .ok s') : s'.Inv := by
  have hstage := h.stage
  unfold proceed at hs
  cases hcall : s.call <;> rw [hcall] at hs hstage <;> simp only [reduceCtorEq] at hs
  case connect point =>
    obtain rfl := Except.ok.inj hs
    exact connectStep_inv h hcall
  case disconnect oldState point =>
    obtain rfl := Except.ok.inj hs
    exact disconnectStep_inv h hcall
  case waitLoop role =>
    obtain rfl := Except.ok.inj hs
    by_cases hends : (s.loops role).isLoopEnds = true
    · rw [if_pos hends]
      exact afterWait_inv h hstage hends
    · rw [if_neg hends]
      obtain ⟨⟨hdisabled, hclosed, hp, hd⟩, hsender⟩ := hstage
      exact ⟨h.regular, h.device, .inr (.inl hclosed), ⟨⟨hdisabled, hclosed, hp, hd⟩, hsender⟩,
        h.activations⟩
  case disconnected =>
    obtain rfl := Except.ok.inj hs
    obtain ⟨⟨-, hclosed, hp, hd⟩, hquiet⟩ := hstage
    exact ⟨h.regular, h.device, .inr (.inl hclosed), ⟨by simp, fun _ =>
      ⟨hquiet, ⟨hclosed, fun _ => hp, fun _ => hd⟩⟩⟩, h.activations⟩
  case waitReceiving =>
    obtain rfl := Except.ok.inj hs
    exact h.away hcall id hstage fun _ ha => ha
  case readOldState =>
    obtain rfl := Except.ok.inj hs
    exact h.away hcall id hstage fun _ ha => ⟨hstage, ha, trivial⟩
  case awaitSleeping byPeer =>
    obtain rfl := Except.ok.inj hs
    split
    · exact h.away hcall id hstage fun _ ha => ha
    · cases byPeer
      · exact h.away hcall id hstage fun _ ha => ha
      · exact h.away hcall id hstage fun _ ha => ha
  case sleepChecked | wakeChecked =>
    obtain rfl := Except.ok.inj hs
    split
    · exact h.away hcall id hstage (by first | exact stage_idle_of_away | exact fun _ ha => ha)
    · exact h.away hcall id hstage (by first | exact stage_idle_of_away | exact fun _ ha => ha)
  case sleepUnpaused | wakePaused =>
    obtain rfl := Except.ok.inj hs
    exact h.away hcall id ⟨by simp, by simp⟩ fun _ ha => ha
  case sleepSet =>
    obtain rfl := Except.ok.inj hs
    refine ⟨regular_pause h.regular (hl hcall), h.device, (h.settled hcall id).imp_right .inl,
      stage_idle_of_away _ hstage, h.activations⟩
  case wakeSet =>
    obtain rfl := Except.ok.inj hs
    exact ⟨regular_resume h.regular, h.device, (h.settled hcall id).imp_right .inl,
      stage_idle_of_away _ hstage, h.activations⟩

theorem inv_step {s' : AdapterRun} {l : AdapterStep} (h : s.Inv) (hl : s.Orderly l)
    (hs : s.step l = .ok s') : s'.Inv := by
  cases l with
  | call call =>
    simp only [step] at hs
    split at hs
    · rename_i hidle
      obtain rfl := Except.ok.inj hs
      exact begin_inv h hidle call
    · cases hs
  | proceed impl => exact proceed_inv h hl hs
  | returns =>
    simp only [step] at hs
    split at hs
    · rename_i role hcall
      obtain rfl := Except.ok.inj hs
      have hstage := h.stage
      rw [hcall] at hstage
      exact afterWait_inv h hstage (hl role (by rw [hcall]; rfl))
    · cases hs
  | loop role b =>
    obtain rfl := Except.ok.inj hs
    exact inv_loopStep h

theorem inv_launched (isLoopEnds : LoopRole → Bool) : (launched isLoopEnds).Inv where
  regular _ := ⟨fun _ => .inl rfl, fun h => absurd h Bool.false_ne_true⟩
  device := .inr rfl
  socket := .inr (.inl rfl)
  stage := ⟨by simp [launched], fun _ => ⟨fun _ => ⟨rfl, rfl, rfl⟩, rfl, fun _ => rfl, fun _ => rfl⟩⟩
  activations := by simp [launched]

/-- The components follow the state of the adapter. -/
structure ResourcesFollow (s : AdapterRun) : Prop where
  released : s.call = .idle → s.mState = .kDisconnected → s.Released
  activations : ∀ a ∈ s.activations, a = ⟨.kOn, .kAllowed, .kOpened⟩

theorem Inv.resourcesFollow (h : s.Inv) : s.ResourcesFollow := by
  refine ⟨fun hidle hdisconnected => ?_, h.activations⟩
  have hstage := h.stage
  rw [hidle] at hstage
  exact (hstage.2 hdisconnected).2

theorem resources_follow (isLoopEnds : LoopRole → Bool) {ls : List AdapterStep} {t : AdapterRun}
    (h : Runs.AllSteps step Orderly (launched isLoopEnds) ls)
    (ht : Runs.Reached step (launched isLoopEnds) ls t) : t.ResourcesFollow :=
  (Runs.throughout_of_allSteps (fun _ _ _ => inv_step) (inv_launched isLoopEnds) h ht).resourcesFollow

/-- A connection, and a disconnection that waits for the receiver thread, which is in the socket. -/
def disconnectWaiting : List AdapterStep := List.flatten [
  .call .connect :: List.replicate 10 (.proceed true),
  List.replicate 3 (.loop .sender true),
  List.replicate 5 (.loop .receiver true),
  .call .disconnectOnFailure :: List.replicate 12 (.proceed true),
  .loop .sender true :: List.replicate 5 (.loop .sender false),
  List.replicate 2 (.proceed true)]

/-- The receiver thread leaves its loop, and the adapter is disconnected. -/
def disconnectOrderly : List AdapterStep :=
  disconnectWaiting ++ List.replicate 4 (.loop .receiver false) ++ [.returns, .proceed true]

theorem orderly_disconnectOrderly :
    Runs.AllSteps step Orderly (launched fun _ => false) disconnectOrderly := by
  decide +kernel

theorem resources_follow_disconnectOrderly : ∃ t,
    Runs.run step (launched fun _ => false) disconnectOrderly = .ok t ∧
      t.mState = .kDisconnected ∧ t.ResourcesFollow := by
  obtain ⟨t, ht, hstate⟩ : ∃ t : AdapterRun,
      Runs.run step (launched fun _ => false) disconnectOrderly = .ok t ∧
        t.mState = .kDisconnected :=
    Runs.exists_run_of_view (fun t : AdapterRun => t.mState) (by decide +kernel)
  exact ⟨t, ht, hstate, resources_follow _ orderly_disconnectOrderly (Runs.Reached.of_run ht)⟩

/-- The wait returns early, and the old call of the receiver thread closes the next connection. -/
def disconnectEarly : List AdapterStep :=
  disconnectWaiting ++ .returns :: .proceed true ::
    .call .connect :: List.replicate 9 (.proceed true) ++ [.loop .receiver true, .proceed true]

theorem active_with_closed_socket : ∃ t,
    Runs.Reached step (launched fun _ => false) disconnectEarly t ∧ ¬ t.ResourcesFollow := by
  obtain ⟨t, ht, hactivations⟩ : ∃ t : AdapterRun,
      Runs.run step (launched fun _ => false) disconnectEarly = .ok t ∧
        t.activations = [⟨.kOn, .kAllowed, .kOpened⟩, ⟨.kOn, .kAllowed, .kClosed⟩] :=
    Runs.exists_run_of_view (fun t : AdapterRun => t.activations) (by decide +kernel)
  refine ⟨t, Runs.Reached.of_run ht, fun h => ?_⟩
  have hlast := h.activations ⟨.kOn, .kAllowed, .kClosed⟩ (by simp [hactivations])
  cases hlast

end AdapterRun
end Linux
end VirtualConnection
