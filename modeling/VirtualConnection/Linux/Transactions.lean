import VirtualConnection.Lib.Runs
import VirtualConnection.Linux.Core
import VirtualConnection.Linux.PeerCommands

/-!
# Linux.Transactions

Runs of the operations that use a `SwitchAdapterTransaction`: network switches, as the monitor thread
asks for them, core stops, and disconnections commanded by the peer or made on failure. They come one
after the other; in between the other threads may do anything to the adapters. An operation that
does not return ends the run.

`transactions_end_iff`: every transaction ends exactly once and is not used afterwards, in the runs
whose steps are all `Safe`.
-/

namespace VirtualConnection
namespace Linux

inductive Operation where
  | increase (o : ℕ → Outcomes)
  | decrease (o : ℕ → Outcomes)
  | stop (o : ℕ → Outcomes)
  | disconnectByPeer (o : ℕ → Outcomes) (adapterId : Int)
  | disconnectOnFailure (o : ℕ → Outcomes) (i : ℕ)
  /-- What the other threads make of the adapters. -/
  | others (adapters : ℕ → ServerAdapter)

namespace Operation

/-- The monitor thread looks at the state of the switcher first. -/
def monitored (p : Process) (action : Action) : Except (Halt × Process) Process :=
  if p.nsState = .kNSStateReady then action p else .ok p

def action : Operation → Action
  | increase o, p => monitored p (NetworkMonitorThread.increaseAdapter o)
  | decrease o, p => monitored p (NetworkMonitorThread.decreaseAdapter o)
  | stop o, p => Core.stop o p
  | disconnectByPeer o adapterId, p => NetworkSwitcher.disconnectAdapterByPeer o adapterId p
  | disconnectOnFailure o i, p => ServerAdapter.disconnectOnFailure o i (some fun _ _ => .ok) p
  | others adapters, p => .ok { p with adapters := adapters }

end Operation

structure System where
  process : Process
  halted : Option Halt

namespace System

def after : Except (Halt × Process) Process → System
  | .ok p => ⟨p, none⟩
  | .error (halt, p) => ⟨p, some halt⟩

def step (s : System) (op : Operation) : Except Unit System :=
  match s.halted with
  | none => .ok (after (op.action s.process))
  | some _ => .error ()

/-- Every transaction that was started has ended once, and none was used after its end. -/
def AllEnded (s : System) : Prop :=
  s.halted ≠ some .nullSwitch ∧
    s.process.ends.map SwitchEnd.number = List.range s.process.starts

/-- A switch from `i` to `j` comes to its end. -/
def SwitchEnds (o : ℕ → Outcomes) (i j : ℕ) (p : Process) : Prop :=
  (p.adapters j).NextReady (o j) → ¬ (p.adapters i).Asleep ∧
    ((p.adapters i).mState = .kActive → (p.adapters i).isSenderLoopPaused = false ∧
      (o i).reportsSleeping = true ∧ ((p.adapters i).Disconnects (o i) → (o i).loopsEnd = true))

/-- A stop gets past all adapters, or waits before it comes to one that falls asleep. -/
def StopPasses (o : ℕ → Outcomes) (p : Process) : Prop :=
  p.coreState = .kCoreStateReady → p.stopOngoing = none →
    ∀ i, (List.range p.adaptersCount).find? (fun i => (p.adapters i).Asleep) = some i →
      ¬ (p.adapters i).FallsAsleep (o i)

/-- The adapter that the peer commands to disconnect does not get as far as that. -/
def PeerPasses (o : ℕ → Outcomes) (adapterId : Int) (p : Process) : Prop :=
  p.nsState = .kNSStateReady → ∀ i, p.findAdapterById adapterId = some i →
    (p.adapters i).FallsAsleep (o i) → (o i).receivesAll = false

/-- No adapter is disconnected outside a switch, and switches come to their end. -/
def Safe (s : System) : Operation → Prop
  | .increase o => s.process.nsState = .kNSStateReady →
      NetworkMonitorThread.isIncreaseable s.process = true →
      SwitchEnds o s.process.mActiveAdapterIndex.toNat
        (s.process.mActiveAdapterIndex.toNat + 1) s.process
  | .decrease o => s.process.nsState = .kNSStateReady →
      NetworkMonitorThread.isDecreaseable s.process = true →
      SwitchEnds o s.process.mActiveAdapterIndex.toNat
        (s.process.mActiveAdapterIndex.toNat - 1) s.process
  | .stop o => StopPasses o s.process
  | .disconnectByPeer o adapterId => PeerPasses o adapterId s.process
  | .disconnectOnFailure _ i => ¬ (s.process.adapters i).Connected
  | .others _ => True

end System

/-! ## Operations outside a switch -/

/-- What the switches are made of. -/
def Process.Kept (p q : Process) : Prop :=
  q.switchOngoing = p.switchOngoing ∧ q.ends = p.ends ∧ q.starts = p.starts ∧
    q.mActiveAdapterIndex = p.mActiveAdapterIndex ∧ q.adaptersCount = p.adaptersCount

theorem Process.Kept.rfl {p : Process} : p.Kept p := ⟨Eq.refl _, Eq.refl _, Eq.refl _, Eq.refl _, Eq.refl _⟩

theorem Process.Kept.trans {p q r : Process} (hpq : p.Kept q) (hqr : q.Kept r) : p.Kept r := by
  obtain ⟨h1, h2, h3, h4, h5⟩ := hpq
  obtain ⟨g1, g2, g3, g4, g5⟩ := hqr
  exact ⟨g1.trans h1, g2.trans h2, g3.trans h3, g4.trans h4, g5.trans h5⟩

/-- The action has not touched the switches, and has not gone through their null pointer. -/
def Harmless (p : Process) : Except (Halt × Process) Process → Prop
  | .ok q => p.Kept q
  | .error (halt, q) => halt ≠ .nullSwitch ∧ p.Kept q

namespace System

variable {o : ℕ → Outcomes} {p : Process}

theorem harmless_of_kept {q : Process} {r : Except (Halt × Process) Process} (hkept : p.Kept q)
    (h : Harmless q r) : Harmless p r := by
  cases r with
  | ok t => exact hkept.trans h
  | error e => exact ⟨h.1, hkept.trans h.2⟩

open StopCoreTransaction in
/-- The first adapter that falls asleep stops the loop, or the first one that never does. -/
theorem disconnectAll_noSwitch (is : List ℕ) (hnone : p.switchOngoing = none) :
    ((∀ i, is.find? (fun i => (p.adapters i).Asleep) = some i →
        ¬ (p.adapters i).FallsAsleep (o i)) → Harmless p (disconnectAll o is p)) ∧
    (∀ i, is.find? (fun i => (p.adapters i).Asleep) = some i → (p.adapters i).FallsAsleep (o i) →
      ∃ q, disconnectAll o is p = .error (.nullSwitch, q)) := by
  induction is generalizing p with
  | nil =>
    refine ⟨fun _ => .rfl, fun i h => ?_⟩
    cases h
  | cons i is ih =>
    by_cases hasleep : (p.adapters i).Asleep
    · have hcon : (p.adapters i).Connected := by
        unfold ServerAdapter.Connected
        rcases hasleep with h | h <;> simp [h]
      have hfind : (i :: is).find? (fun i => (p.adapters i).Asleep) = some i :=
        List.find?_cons_of_pos (by simpa using hasleep)
      rw [hfind]
      simp only [Option.some.injEq, forall_eq', disconnectAll, hcon, if_true]
      constructor
      · intro hfalls
        rw [ServerAdapter.disconnectOnCommand_restless _ hasleep hfalls]
        refine ⟨fun h => ?_, .rfl⟩
        cases h
      · intro hfalls
        obtain ⟨f, requests, he⟩ := ServerAdapter.disconnectOnCommand_noSwitch
          (some disconnectAdapterCallback) hnone hfalls
        rw [he]
        exact ⟨_, rfl⟩
    · have hfind : (i :: is).find? (fun i => (p.adapters i).Asleep) =
          is.find? fun i => (p.adapters i).Asleep :=
        List.find?_cons_of_neg (by simpa using hasleep)
      rw [hfind]
      by_cases hcon : (p.adapters i).Connected
      · -- the callback is told of a failure; it leaves the adapters alone
        obtain ⟨q, hq, hkept, hadapters⟩ : ∃ q, disconnectAdapterCallback i false p = .ok q ∧
            p.Kept q ∧ q.adapters = p.adapters := by
          cases hon : p.stopOngoing with
          | none => exact ⟨p, by simp [disconnectAdapterCallback, hon], .rfl, rfl⟩
          | some n =>
            exact ⟨{ Core.doneStop false p with stopOngoing := none },
              by simp [disconnectAdapterCallback, hon, done], .rfl, rfl⟩
        have hall : disconnectAll o (i :: is) p = disconnectAll o is q := by
          rw [disconnectAll, if_pos hcon, ServerAdapter.disconnectOnCommand_awake _ hasleep, hq]
        have hrest := ih (hkept.1.trans hnone)
        rw [hadapters] at hrest
        rw [hall]
        exact ⟨fun h => harmless_of_kept hkept (hrest.1 h), hrest.2⟩
      · rw [disconnectAll, if_neg hcon]
        exact ih hnone

theorem stop_noSwitch (hnone : p.switchOngoing = none) :
    (StopPasses o p → Harmless p (Core.stop o p)) ∧
      (¬ StopPasses o p → ∃ q, Core.stop o p = .error (.nullSwitch, q)) := by
  unfold StopPasses Core.stop
  by_cases hready : p.coreState = .kCoreStateReady
  · by_cases hcount : p.adaptersCount = 0
    · simp only [hready, hcount, ne_eq, not_true_eq_false, if_false, if_true, List.range_zero]
      exact ⟨fun _ => .rfl, fun h => absurd (fun _ _ _ => nofun) h⟩
    simp only [hready, hcount, ne_eq, not_true_eq_false, if_false]
    unfold StopCoreTransaction.run
    cases hon : p.stopOngoing with
    | some n => exact ⟨fun _ => .rfl, fun h => absurd (fun _ => nofun) h⟩
    | none =>
      let q : Process := { p with
        coreState := .kCoreStateStopping
        stopOngoing := some (((List.range p.adaptersCount).countP fun i =>
          (p.adapters i).Connected : ℕ) : Int) }
      obtain ⟨hok, hbad⟩ := disconnectAll_noSwitch (o := o) (p := q) (List.range p.adaptersCount) hnone
      constructor
      · intro hsafe
        exact harmless_of_kept .rfl (hok (hsafe trivial rfl))
      · intro hfall
        simp only [forall_const, not_forall, not_not] at hfall
        obtain ⟨i, hfind, hfalls⟩ := hfall
        exact hbad i hfind hfalls
  · simp only [hready, ne_eq, not_false_eq_true, if_true]
    exact ⟨fun _ => .rfl, fun h => absurd (fun h => nomatch h) h⟩

theorem disconnectInternal_noSwitch {i : ℕ} (callback : Option Callback)
    (hnone : p.switchOngoing = none) : ∃ q,
    ServerAdapter.disconnectInternal o i callback p = .error (.nullSwitch, q) := by
  unfold ServerAdapter.disconnectInternal
  simp only [show (p.setState i .kDisconnecting).switchOngoing = none from hnone]
  exact ⟨_, rfl⟩

/-- A disconnection for the peer waits before it has begun, or goes through the null pointer. -/
theorem disconnectOnPeerCommand_noSwitch {i : ℕ} (hnone : p.switchOngoing = none) :
    (((p.adapters i).FallsAsleep (o i) → (o i).receivesAll = false) →
        Harmless p (ServerAdapter.disconnectOnPeerCommand o i none p)) ∧
      ((p.adapters i).FallsAsleep (o i) → (o i).receivesAll = true →
        ∃ q, ServerAdapter.disconnectOnPeerCommand o i none p = .error (.nullSwitch, q)) := by
  have hsleeping : ∀ {q : Process}, q.switchOngoing = none → p.Kept q →
      ((o i).receivesAll = false →
        Harmless p (ServerAdapter.disconnectSleepingByPeer o i none q)) ∧
      ((o i).receivesAll = true →
        ∃ r, ServerAdapter.disconnectSleepingByPeer o i none q = .error (.nullSwitch, r)) := by
    intro q hq hkept
    unfold ServerAdapter.disconnectSleepingByPeer
    constructor
    · intro hreceives
      simp only [hreceives, Bool.false_eq_true, if_false]
      exact ⟨nofun, hkept.trans .rfl⟩
    · intro hreceives
      simp only [hreceives, if_true]
      exact disconnectInternal_noSwitch none hq
  unfold ServerAdapter.disconnectOnPeerCommand ServerAdapter.waitForSleeping
  by_cases hgoing : (p.adapters i).mState = .kGoingSleeping
  · rw [if_pos hgoing]
    by_cases hreports : (o i).reportsSleeping = true
    · have hfalls : (p.adapters i).FallsAsleep (o i) := .inr ⟨hgoing, hreports⟩
      rw [if_pos hreports]
      have hrest := hsleeping (q := p.setState i .kSleeping) hnone .rfl
      exact ⟨fun h => hrest.1 (h hfalls), fun _ => hrest.2⟩
    · rw [if_neg hreports]
      refine ⟨fun _ => ⟨nofun, .rfl⟩, ?_⟩
      rintro (h | h)
      · cases h.symm.trans hgoing
      · exact absurd h.2 hreports
  · rw [if_neg hgoing]
    by_cases hs : (p.adapters i).mState = .kSleeping
    · rw [if_neg (not_not.mpr hs)]
      exact ⟨fun h => (hsleeping hnone .rfl).1 (h (.inl hs)), fun _ => (hsleeping hnone .rfl).2⟩
    · rw [if_pos hs]
      refine ⟨fun _ => ⟨nofun, .rfl⟩, ?_⟩
      rintro (h | h)
      · exact absurd h hs
      · exact absurd h.1 hgoing

theorem disconnectByPeer_noSwitch {adapterId : Int} (hnone : p.switchOngoing = none) :
    (PeerPasses o adapterId p →
        Harmless p (NetworkSwitcher.disconnectAdapterByPeer o adapterId p)) ∧
      (¬ PeerPasses o adapterId p →
        ∃ q, NetworkSwitcher.disconnectAdapterByPeer o adapterId p = .error (.nullSwitch, q)) := by
  unfold PeerPasses NetworkSwitcher.disconnectAdapterByPeer
  cases hns : p.nsState with
  | kNSStateSwitching => exact ⟨fun _ => .rfl, fun h => absurd (fun h => nomatch h) h⟩
  | kNSStateReady =>
    simp only [reduceCtorEq, if_false]
    cases hfind : p.findAdapterById adapterId with
    | none => exact ⟨fun _ => .rfl, fun h => absurd (fun _ _ => nofun) h⟩
    | some i =>
      let q : Process := { p with nsState := .kNSStateSwitching }
      obtain ⟨hok, hbad⟩ := disconnectOnPeerCommand_noSwitch (o := o) (p := q) (i := i) hnone
      constructor
      · intro hsafe
        exact harmless_of_kept .rfl (hok (hsafe trivial i rfl))
      · intro hfall
        simp only [forall_const, not_forall, Option.some.injEq] at hfall
        obtain ⟨_, rfl, hfalls, hreceives⟩ := hfall
        exact hbad hfalls (by simpa using hreceives)

theorem disconnectOnFailure_noSwitch {i : ℕ} (hnone : p.switchOngoing = none) :
    (¬ (p.adapters i).Connected →
        Harmless p (ServerAdapter.disconnectOnFailure o i (some fun _ _ => .ok) p)) ∧
      ((p.adapters i).Connected → ∃ q, ServerAdapter.disconnectOnFailure o i
        (some fun _ _ => .ok) p = .error (.nullSwitch, q)) := by
  have hcon : (p.adapters i).Connected ↔
      ¬ ((p.adapters i).mState = .kDisconnected ∨ (p.adapters i).mState = .kDisconnecting) := by
    rw [not_or]
    exact Iff.rfl
  unfold ServerAdapter.disconnectOnFailure
  rw [hcon, not_not]
  constructor
  · intro hsafe
    rw [if_pos hsafe]
    exact .rfl
  · intro hfall
    rw [if_neg hfall]
    exact disconnectInternal_noSwitch _ hnone

/-! ## A switch -/

open NetworkSwitcher SwitchAdapterTransaction in
/-- A switch comes to its end, or it waits in the middle, or goes on after its end. -/
theorem switch_cases {i j : ℕ} (hnone : p.switchOngoing = none) (hi : i < p.adaptersCount)
    (hj : j < p.adaptersCount) (hij : i ≠ j) :
    (SwitchEnds o i j p ∧ ∃ isSuccess f requests, switchAdapters o i j p =
      .ok (finish ⟨i, j, p.starts⟩ isSuccess ((switching p ⟨i, j, p.starts⟩).during f requests))) ∨
    (¬ SwitchEnds o i j p ∧ ((∃ f requests, switchAdapters o i j p =
        .error (.waits, (switching p ⟨i, j, p.starts⟩).during f requests)) ∨
      ∃ q, switchAdapters o i j p = .error (.nullSwitch, q))) := by
  have hsw := switchAdapters_switched (o := o) hnone hi hj hij
  generalize switchAdapters o i j p = r at hsw ⊢
  unfold SwitchEnds ServerAdapter.Asleep
  cases hsw with
  | unready hnext hf => exact .inl ⟨fun h => absurd h hnext, _, _, _, rfl⟩
  | refused hnext hprev hf =>
    refine .inl ⟨fun _ => ?_, _, _, _, rfl⟩
    rcases hprev with h | h | h <;>
      rw [show (p.adapters i).mState = _ from h] <;> exact ⟨by simp, nofun⟩
  | gone hnext hprev =>
    refine .inl ⟨fun _ => ?_, _, _, _, rfl⟩
    rw [show (p.adapters i).mState = _ from hprev]
    exact ⟨by simp, nofun⟩
  | done hnext hprev hpaused hreports hdis hends =>
    refine .inl ⟨fun _ => ⟨?_, fun _ => ⟨hpaused, hreports, fun _ => hends⟩⟩, _, _, _, rfl⟩
    rw [show (p.adapters i).mState = _ from hprev]
    simp
  | failed hnext hprev hpaused hreports hdis hf =>
    refine .inl ⟨fun _ => ⟨?_, fun _ => ⟨hpaused, hreports, fun h => absurd h hdis⟩⟩, _, _, _, rfl⟩
    rw [show (p.adapters i).mState = _ from hprev]
    simp
  | waits hnext hprev hpaused hwaits =>
    refine .inr ⟨fun h => ?_, .inl ⟨_, _, rfl⟩⟩
    obtain ⟨-, hreports, hends⟩ := (h hnext).2 hprev
    rcases hwaits with hw | ⟨hdis, hw⟩
    · cases hw.symm.trans hreports
    · cases hw.symm.trans (hends hdis)
  | paused hnext hprev hpaused hf =>
    refine .inr ⟨fun h => ?_, .inr ⟨_, rfl⟩⟩
    cases hpaused.symm.trans ((h hnext).2 hprev).1
  | asleepWaits hnext hprev => exact .inr ⟨fun h => (h hnext).1 hprev, .inl ⟨_, _, rfl⟩⟩
  | asleep hnext hprev => exact .inr ⟨fun h => (h hnext).1 hprev, .inr ⟨_, rfl⟩⟩

/-! ## Runs -/

/-- Between two operations no switch is going on. -/
def Between (s : System) : Prop :=
  s.AllEnded ∧ (s.halted = none → s.process.switchOngoing = none ∧
    (0 < s.process.adaptersCount → 0 ≤ s.process.mActiveAdapterIndex ∧
      s.process.mActiveAdapterIndex < s.process.adaptersCount))

/-- An operation keeps `Between` if it is safe, and else costs `AllEnded`. -/
def Separates (safe : Prop) (r : Except (Halt × Process) Process) : Prop :=
  (safe → Between (after r)) ∧ (¬ safe → ¬ (after r).AllEnded)

theorem separates_of_harmless {safe : Prop} {r : Except (Halt × Process) Process}
    (hs : Between ⟨p, none⟩) (h : (safe → Harmless p r) ∧ (¬ safe → ∃ q, r = .error (.nullSwitch, q))) :
    Separates safe r := by
  obtain ⟨⟨-, hends⟩, hidle⟩ := hs
  obtain ⟨hnone, hindex⟩ := hidle rfl
  constructor
  · intro hsafe
    have hharmless := h.1 hsafe
    cases r with
    | ok q =>
      obtain ⟨h1, h2, h3, h4, h5⟩ := hharmless
      refine ⟨⟨nofun, ?_⟩, fun _ => ⟨h1.trans hnone, ?_⟩⟩
      · show q.ends.map SwitchEnd.number = List.range q.starts
        rw [h2, h3]
        exact hends
      · show 0 < q.adaptersCount → 0 ≤ q.mActiveAdapterIndex ∧ q.mActiveAdapterIndex < q.adaptersCount
        rw [h4, h5]
        exact hindex
    | error e =>
      obtain ⟨hne, -, h2, h3, -⟩ := hharmless
      refine ⟨⟨fun he => hne (Option.some.inj he), ?_⟩, nofun⟩
      show e.2.ends.map SwitchEnd.number = List.range e.2.starts
      rw [h2, h3]
      exact hends
  · intro hfall
    obtain ⟨q, rfl⟩ := h.2 hfall
    exact fun hall => hall.1 rfl

theorem separates_switch {i j : ℕ} (hs : Between ⟨p, none⟩) (hi : i < p.adaptersCount)
    (hj : j < p.adaptersCount) (hij : i ≠ j) :
    Separates (SwitchEnds o i j p) (NetworkSwitcher.switchAdapters o i j p) := by
  obtain ⟨⟨-, hends⟩, hidle⟩ := hs
  obtain ⟨hnone, hindex⟩ := hidle rfl
  rcases switch_cases (o := o) hnone hi hj hij with ⟨hsafe, isSuccess, f, requests, he⟩ |
    ⟨hfall, ⟨f, requests, he⟩ | ⟨q, he⟩⟩
  · refine ⟨fun _ => ?_, fun h => absurd hsafe h⟩
    rw [he, SwitchAdapterTransaction.finish_eq]
    refine ⟨⟨nofun, ?_⟩, fun _ => ⟨rfl, fun hcount => ?_⟩⟩
    · show (p.ends ++ [_]).map SwitchEnd.number = List.range (p.starts + 1)
      rw [List.map_append, show p.ends.map SwitchEnd.number = _ from hends, List.range_succ]
      rfl
    · cases isSuccess with
      | false => exact hindex hcount
      | true => exact ⟨Int.natCast_nonneg j, Int.ofNat_lt.mpr hj⟩
  · refine ⟨fun h => absurd h hfall, fun _ hall => ?_⟩
    rw [he] at hall
    have hlate : p.ends.map SwitchEnd.number = List.range (p.starts + 1) := hall.2
    have hlength := congrArg List.length (hends.symm.trans hlate)
    simp at hlength
  · refine ⟨fun h => absurd h hfall, fun _ hall => ?_⟩
    rw [he] at hall
    exact hall.1 rfl

theorem separates_monitored (able : Process → Bool) (next : Process → Int) {j : ℕ}
    (hs : Between ⟨p, none⟩) (hable : able p = true → 0 < p.adaptersCount ∧ next p = j ∧
      j < p.adaptersCount ∧ p.mActiveAdapterIndex.toNat ≠ j) :
    Separates (p.nsState = .kNSStateReady → able p = true →
        SwitchEnds o p.mActiveAdapterIndex.toNat j p)
      (Operation.monitored p fun p =>
        if p.adaptersCount = 0 then .ok p
        else if able p = false then .ok p
        else NetworkSwitcher.switchAdapters o p.mActiveAdapterIndex (next p) p) := by
  have hnothing : ∀ {safe : Prop}, safe → Separates safe (.ok p) := fun hsafe =>
    separates_of_harmless hs ⟨fun _ => .rfl, fun h => absurd hsafe h⟩
  unfold Operation.monitored
  by_cases hready : p.nsState = .kNSStateReady
  · rw [if_pos hready]
    dsimp only
    by_cases hcan : able p = true
    · obtain ⟨hcount, hnext, hj, hij⟩ := hable hcan
      obtain ⟨h0, hlt⟩ := (hs.2 rfl).2 hcount
      have hi : p.mActiveAdapterIndex.toNat < p.adaptersCount := (Int.toNat_lt h0).mpr hlt
      have hswitch := separates_switch (o := o) hs hi hj hij
      rw [Int.toNat_of_nonneg h0] at hswitch
      rw [if_neg (Nat.pos_iff_ne_zero.mp hcount), if_neg (by simp [hcan]), hnext]
      simpa [hready, hcan] using hswitch
    · rw [if_pos (show able p = false by simpa using hcan), ite_self]
      exact hnothing fun _ h => absurd h hcan
  · rw [if_neg hready]
    exact hnothing fun h => absurd h hready

theorem separates_action (hs : Between ⟨p, none⟩) (op : Operation) :
    Separates (Safe ⟨p, none⟩ op) (op.action p) := by
  obtain ⟨hnone, hindex⟩ := hs.2 rfl
  cases op with
  | increase o =>
    refine separates_monitored (j := p.mActiveAdapterIndex.toNat + 1)
      NetworkMonitorThread.isIncreaseable (fun p => p.mActiveAdapterIndex + 1) hs fun h => ?_
    have hable : 1 < p.adaptersCount ∧ p.mActiveAdapterIndex < p.adaptersCount - 1 := by
      simpa [NetworkMonitorThread.isIncreaseable] using h
    have hactive : 0 ≤ p.mActiveAdapterIndex ∧ p.mActiveAdapterIndex < p.adaptersCount :=
      hindex (show 0 < p.adaptersCount by omega)
    dsimp only
    omega
  | decrease o =>
    refine separates_monitored (j := p.mActiveAdapterIndex.toNat - 1)
      NetworkMonitorThread.isDecreaseable (fun p => p.mActiveAdapterIndex - 1) hs fun h => ?_
    have hable : 1 < p.adaptersCount ∧ 0 < p.mActiveAdapterIndex := by
      simpa [NetworkMonitorThread.isDecreaseable] using h
    have hactive : 0 ≤ p.mActiveAdapterIndex ∧ p.mActiveAdapterIndex < p.adaptersCount :=
      hindex (show 0 < p.adaptersCount by omega)
    dsimp only
    omega
  | stop o => exact separates_of_harmless hs (stop_noSwitch hnone)
  | disconnectByPeer o adapterId => exact separates_of_harmless hs (disconnectByPeer_noSwitch hnone)
  | disconnectOnFailure o i =>
    obtain ⟨hok, hbad⟩ := disconnectOnFailure_noSwitch (o := o) (i := i) hnone
    exact separates_of_harmless hs ⟨hok, fun h => hbad (not_not.mp h)⟩
  | others adapters =>
    exact separates_of_harmless hs ⟨fun _ => .rfl, fun h => absurd trivial h⟩

theorem transactions_end_iff {s : System} {ls : List Operation} (hs : Between s) :
    (∀ t, Runs.Reached step s ls t → t.AllEnded) ↔ Runs.AllSteps step Safe s ls := by
  have hstep : ∀ s op s', Between s → step s op = .ok s' →
      (Safe s op → Between s') ∧ (¬ Safe s op → ¬ s'.AllEnded) := by
    rintro ⟨p, halted⟩ op s' hs h
    cases halted with
    | some halt => cases h
    | none =>
      obtain rfl := Except.ok.inj h
      exact separates_action hs op
  exact Runs.throughout_iff_allSteps (fun s h => h.1)
    (fun s op s' hs hsafe h => (hstep s op s' hs h).1 hsafe)
    (fun s op s' hs hfall h => (hstep s op s' hs h).2 hfall) hs

theorem between_twoAdapters : Between ⟨NetworkSwitcher.twoAdapters, none⟩ :=
  ⟨⟨nofun, rfl⟩, fun _ => ⟨rfl, fun _ => ⟨by decide, by decide⟩⟩⟩

theorem transactions_end_iff_twoAdapters :
    (∀ t, Runs.Reached step ⟨NetworkSwitcher.twoAdapters, none⟩ [.increase fun _ => .succeed] t →
      t.AllEnded) ↔
    Runs.AllSteps step Safe ⟨NetworkSwitcher.twoAdapters, none⟩ [.increase fun _ => .succeed] :=
  transactions_end_iff between_twoAdapters

/-- The core is stopped while an adapter sleeps. -/
theorem stop_asleep_faults : ¬ ∀ (s : System) (ls : List Operation), Between s →
    ∀ t, Runs.Reached step s ls t → t.AllEnded := by
  intro hall
  have hended := hall ⟨NetworkSwitcher.twoAdapters, none⟩
    [.others fun i => { ServerAdapter.active i with
        mState := .kSleeping, isSenderLoopPaused := true },
      .stop fun _ => .succeed]
    between_twoAdapters _ (.next rfl (.next rfl .here))
  exact hended.1 rfl

end System

end Linux
end VirtualConnection
