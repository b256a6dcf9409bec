import VirtualConnection.Linux.NetworkSwitcher

/-!
# Linux.Core

Stopping the core, from `Core.cpp`: `StopCoreTransaction` counts the connected adapters and commands
each of them to disconnect. The callback counts down, and reports the stop when it reaches zero; the
first disconnection that fails reports it as failed, and ends the transaction.

* `disconnectAll_ended`: what the loop does after that.
* `loopEnd_disconnectAll`: the loop as a whole.
* `stop_right_iff`: when a stop is reported as it should be.
-/

namespace VirtualConnection
namespace Linux

namespace CoreState

def doneStart (isSuccess : Bool) : CoreState :=
  if isSuccess then .kCoreStateReady else .kCoreStateIdle

def doneStop (isSuccess : Bool) : CoreState :=
  if isSuccess then .kCoreStateIdle else .kCoreStateReady

end CoreState

namespace Core

def doneStop (isSuccess : Bool) (p : Process) : Process :=
  { p with
    coreState := .doneStop isSuccess
    doneStops := p.doneStops ++ [isSuccess] }

end Core

namespace StopCoreTransaction

def done (isSuccess : Bool) : Action := fun p =>
  match p.stopOngoing with
  | none => .error (.nullStop, p)
  | some _ => .ok { Core.doneStop isSuccess p with stopOngoing := none }

/-- `ServerAdapter::finish_thread` comes first. -/
def disconnected (i : ℕ) : Action := fun p =>
  let p := p.setAdapter i { p.adapters i with isThreadRunning := false }
  match p.stopOngoing with
  | none => .error (.nullStop, p)
  | some mAdaptersCount =>
    let p := { p with stopOngoing := some (mAdaptersCount - 1) }
    if mAdaptersCount - 1 = 0 then done true p else .ok p

def disconnectAdapterCallback : Callback := fun i isSuccess p =>
  if isSuccess = false then
    match p.stopOngoing with
    | none => .ok p
    | some _ => done false p
  else disconnected i p

end StopCoreTransaction

/-- Only such an adapter is told to disconnect. -/
def ServerAdapter.Connected (a : ServerAdapter) : Prop :=
  a.mState ≠ .kDisconnected ∧ a.mState ≠ .kDisconnecting

instance (a : ServerAdapter) : Decidable a.Connected := inferInstanceAs (Decidable (_ ∧ _))

namespace StopCoreTransaction

variable (o : ℕ → Outcomes)

def disconnectAll : List ℕ → Action
  | [], p => .ok p
  | i :: is, p =>
    if (p.adapters i).Connected then
      match ServerAdapter.disconnectOnCommand o i (some disconnectAdapterCallback) p with
      | .error e => .error e
      | .ok p => disconnectAll is p
    else disconnectAll is p

def start : Action := fun p =>
  let adapters := List.range p.adaptersCount
  let mAdaptersCount := adapters.countP fun i => (p.adapters i).Connected
  disconnectAll o adapters { p with stopOngoing := some mAdaptersCount }

def run : Action := fun p =>
  match p.stopOngoing with
  | none => start o p
  | some _ => .ok (Core.doneStop false p)

end StopCoreTransaction

namespace Core

def stop (o : ℕ → Outcomes) : Action := fun p =>
  if p.coreState ≠ .kCoreStateReady then .ok (doneStop false p)
  else if p.adaptersCount = 0 then .ok (doneStop false p)
  else StopCoreTransaction.run o { p with coreState := .kCoreStateStopping }

end Core

/-! ## One adapter -/

namespace StopCoreTransaction

/-- The adapter is disconnected; `isSwitching` says whether a switch is going on. -/
def Succeeds (a : ServerAdapter) (o : Outcomes) (isSwitching : Bool) : Prop :=
  a.FallsAsleep o ∧ isSwitching = true ∧ a.Disconnects o ∧ o.loopsEnd = true

/-- The callback is told of a failure. -/
def Fails (a : ServerAdapter) (o : Outcomes) (isSwitching : Bool) : Prop :=
  ¬ a.Asleep ∨ a.FallsAsleep o ∧ isSwitching = true ∧ ¬ a.Disconnects o

variable {o : ℕ → Outcomes} {p : Process} {i : ℕ}

theorem Succeeds.not_fails {a : ServerAdapter} {o : Outcomes} {isSwitching : Bool}
    (h : Succeeds a o isSwitching) : ¬ Fails a o isSwitching := by
  obtain ⟨hfalls, -, hdis, -⟩ := h
  rintro (hawake | ⟨-, -, hd⟩)
  · exact hawake (hfalls.imp id And.left)
  · exact hd hdis

/-- A disconnection that succeeds, one that fails, and one that does not come to an end. -/
theorem disconnect_cases (callback : Callback) :
    (Succeeds (p.adapters i) (o i) p.switchOngoing.isSome ∧ ∃ f requests,
      (∀ k, k ≠ i → f k = p.adapters k) ∧ (f i).mState = .kDisconnected ∧
      ServerAdapter.disconnectOnCommand o i (some callback) p =
        callback i true (p.during f requests)) ∨
    (Fails (p.adapters i) (o i) p.switchOngoing.isSome ∧ ∃ f requests,
      (∀ k, k ≠ i → f k = p.adapters k) ∧
      ServerAdapter.disconnectOnCommand o i (some callback) p =
        callback i false (p.during f requests)) ∨
    (¬ Succeeds (p.adapters i) (o i) p.switchOngoing.isSome ∧
      ¬ Fails (p.adapters i) (o i) p.switchOngoing.isSome ∧
      ∃ e, ServerAdapter.disconnectOnCommand o i (some callback) p = .error e) := by
  by_cases hasleep : (p.adapters i).Asleep
  · by_cases hfalls : (p.adapters i).FallsAsleep (o i)
    · cases hon : p.switchOngoing with
      | none =>
        obtain ⟨f, requests, he⟩ :=
          ServerAdapter.disconnectOnCommand_noSwitch (some callback) hon hfalls
        refine .inr (.inr ⟨fun h => (nomatch h.2.1), ?_, _, he⟩)
        rintro (h | h)
        · exact h hasleep
        · exact nomatch h.2.1
      | some tx =>
        obtain ⟨f, requests, hother, ⟨hd, hends, hf, he⟩ | ⟨hd, hends, he⟩ | ⟨hd, hf, he⟩⟩ :=
          ServerAdapter.disconnectOnCommand_cases callback (by simp [hon]) hfalls
        · exact .inl ⟨⟨hfalls, rfl, hd, hends⟩, f, requests, hother, hf, he⟩
        · refine .inr (.inr ⟨fun h => ?_, ?_, _, he⟩)
          · simp [h.2.2.2] at hends
          · rintro (h | h)
            · exact h hasleep
            · exact h.2.2 hd
        · exact .inr (.inl ⟨.inr ⟨hfalls, rfl, hd⟩, f, requests, hother, he⟩)
    · refine .inr (.inr ⟨fun h => hfalls h.1, ?_, _,
        ServerAdapter.disconnectOnCommand_restless (some callback) hasleep hfalls⟩)
      rintro (h | h)
      · exact h hasleep
      · exact hfalls h.1
  · exact .inr (.inl ⟨.inl hasleep, p.adapters, p.requests, fun _ _ => rfl,
      ServerAdapter.disconnectOnCommand_awake callback hasleep⟩)

/-! ## All adapters -/

variable {is : List ℕ}

theorem disconnectAll_connected {q : Process} (is : List ℕ) (hcon : (q.adapters i).Connected) :
    disconnectAll o (i :: is) q =
      match ServerAdapter.disconnectOnCommand o i (some disconnectAdapterCallback) q with
      | .error e => .error e
      | .ok q => disconnectAll o is q := by
  rw [disconnectAll, if_pos hcon]

theorem disconnectAll_skip {q : Process} (hcon : ¬ (q.adapters i).Connected) :
    disconnectAll o (i :: is) q = disconnectAll o is q := by
  rw [disconnectAll, if_neg hcon]

theorem disconnectAll_idle {q : Process} (hidle : ∀ i ∈ is, ¬ (q.adapters i).Connected) :
    disconnectAll o is q = .ok q := by
  induction is with
  | nil => rfl
  | cons i is ih =>
    rw [disconnectAll_skip (hidle i List.mem_cons_self)]
    exact ih fun k hk => hidle k (List.mem_cons_of_mem i hk)

theorem callback_ended {q : Process} (hended : q.stopOngoing = none) (i : ℕ) :
    disconnectAdapterCallback i false q = .ok q ∧
      ∃ e, disconnectAdapterCallback i true q = .error e := by
  constructor
  · simp [disconnectAdapterCallback, hended]
  · refine ⟨(.nullStop, q.setAdapter i { q.adapters i with isThreadRunning := false }), ?_⟩
    show disconnected i q = _
    unfold disconnected
    simp only [show (q.setAdapter i { q.adapters i with isThreadRunning := false }).stopOngoing =
      none from hended]

/-- After the end of the transaction, failures go unnoticed, and anything else is fatal. -/
theorem disconnectAll_ended (q : Process) (hnodup : is.Nodup) (hended : q.stopOngoing = none)
    (hq : ∀ i ∈ is, q.adapters i = p.adapters i) (hon : q.switchOngoing = p.switchOngoing) :
    ((∀ i ∈ is, (p.adapters i).Connected → Fails (p.adapters i) (o i) p.switchOngoing.isSome) ∧
      ∃ r, disconnectAll o is q = .ok r ∧ r.doneStops = q.doneStops) ∨
    (¬ (∀ i ∈ is, (p.adapters i).Connected →
        Fails (p.adapters i) (o i) p.switchOngoing.isSome) ∧
      ∃ e, disconnectAll o is q = .error e) := by
  induction is generalizing q with
  | nil => exact .inl ⟨nofun, q, rfl, rfl⟩
  | cons i is ih =>
    obtain ⟨hi, hnodup⟩ := List.nodup_cons.mp hnodup
    have hqi : q.adapters i = p.adapters i := hq i List.mem_cons_self
    have hqis : ∀ k ∈ is, q.adapters k = p.adapters k := fun k hk => hq k (List.mem_cons_of_mem i hk)
    by_cases hcon : (p.adapters i).Connected
    · have hall := disconnectAll_connected (o := o) is (hqi.symm ▸ hcon)
      have hcases := disconnect_cases (o := o) (p := q) (i := i) disconnectAdapterCallback
      rw [hqi, hon] at hcases
      rcases hcases with ⟨hs, f, requests, hother, -, he⟩ | ⟨hf, f, requests, hother, he⟩ |
        ⟨-, hf, e, he⟩
      · obtain ⟨e, hcb⟩ := (callback_ended (q := q.during f requests) hended i).2
        refine .inr ⟨fun h => hs.not_fails (h i List.mem_cons_self hcon), e, ?_⟩
        rw [hall, he, hcb]
      · have hsame : ∀ k ∈ is, (q.during f requests).adapters k = p.adapters k := by
          intro k hk
          exact (hother k fun hki => hi (hki ▸ hk)).trans (hqis k hk)
        rcases ih (q.during f requests) hnodup hended hsame hon with ⟨hfails, r, hr, hd⟩ |
          ⟨hnot, e, hr⟩
        · refine .inl ⟨List.forall_mem_cons.mpr ⟨fun _ => hf, hfails⟩, r, ?_, hd⟩
          rw [hall, he, (callback_ended (q := q.during f requests) hended i).1]
          exact hr
        · refine .inr ⟨fun h => hnot (List.forall_mem_cons.mp h).2, e, ?_⟩
          rw [hall, he, (callback_ended (q := q.during f requests) hended i).1]
          exact hr
      · refine .inr ⟨fun h => hf (h i List.mem_cons_self hcon), e, ?_⟩
        rw [hall, he]
    · rw [disconnectAll_skip (hqi.symm ▸ hcon)]
      rcases ih q hnodup hended hqis hon with ⟨hfails, r, hr, hd⟩ | ⟨hnot, e, hr⟩
      · exact .inl ⟨List.forall_mem_cons.mpr ⟨fun h => absurd h hcon, hfails⟩, r, hr, hd⟩
      · exact .inr ⟨fun h => hnot (List.forall_mem_cons.mp h).2, e, hr⟩

/-- One disconnection fails, after others that succeed, and the later ones fail as well. -/
def FailsCleanly (o : ℕ → Outcomes) (p : Process) (is : List ℕ) : Prop :=
  ∃ before i after, is = before ++ i :: after ∧
    (∀ k ∈ before, (p.adapters k).Connected →
      Succeeds (p.adapters k) (o k) p.switchOngoing.isSome) ∧
    (p.adapters i).Connected ∧ Fails (p.adapters i) (o i) p.switchOngoing.isSome ∧
    ∀ k ∈ after, (p.adapters k).Connected → Fails (p.adapters k) (o k) p.switchOngoing.isSome

theorem failsCleanly_cons : FailsCleanly o p (i :: is) ↔
    ((p.adapters i).Connected ∧ Fails (p.adapters i) (o i) p.switchOngoing.isSome ∧
      ∀ k ∈ is, (p.adapters k).Connected → Fails (p.adapters k) (o k) p.switchOngoing.isSome) ∨
    (((p.adapters i).Connected → Succeeds (p.adapters i) (o i) p.switchOngoing.isSome) ∧
      FailsCleanly o p is) := by
  constructor
  · rintro ⟨_ | ⟨j, before⟩, k, after, hsplit, hbefore, hcon, hf, hafter⟩
    · obtain ⟨rfl, rfl⟩ := List.cons.inj hsplit
      exact .inl ⟨hcon, hf, hafter⟩
    · obtain ⟨rfl, rfl⟩ := List.cons.inj hsplit
      obtain ⟨hi, hbefore⟩ := List.forall_mem_cons.mp hbefore
      exact .inr ⟨hi, before, k, after, rfl, hbefore, hcon, hf, hafter⟩
  · rintro (⟨hcon, hf, hafter⟩ | ⟨hi, before, k, after, rfl, hbefore, hcon, hf, hafter⟩)
    · exact ⟨[], i, is, rfl, nofun, hcon, hf, hafter⟩
    · exact ⟨i :: before, k, after, rfl, List.forall_mem_cons.mpr ⟨hi, hbefore⟩, hcon, hf, hafter⟩

theorem FailsCleanly.not_succeed (h : FailsCleanly o p is) : ¬ ∀ i ∈ is, (p.adapters i).Connected →
    Succeeds (p.adapters i) (o i) p.switchOngoing.isSome := by
  obtain ⟨before, i, after, rfl, -, hcon, hf, -⟩ := h
  exact fun hall => (hall i (by simp) hcon).not_fails hf

/-- The callback of a transaction that goes on: a failure ends it, and so does the last success. -/
theorem callback_ongoing {q : Process} {n : ℕ} (hon : q.stopOngoing = some (n + 1 : ℕ)) (i : ℕ) :
    disconnectAdapterCallback i false q =
      .ok { Core.doneStop false q with stopOngoing := none } ∧
    disconnectAdapterCallback i true q =
      .ok (let q := q.setAdapter i { q.adapters i with isThreadRunning := false }
        if n = 0 then { Core.doneStop true q with stopOngoing := none }
        else { q with stopOngoing := some (n : Int) }) := by
  constructor
  · simp [disconnectAdapterCallback, hon, done]
  · show disconnected i q = _
    unfold disconnected
    simp only [show (q.setAdapter i { q.adapters i with isThreadRunning := false }).stopOngoing =
      some ((n + 1 : ℕ) : Int) from hon]
    rw [show ((n + 1 : ℕ) : Int) - 1 = n by omega]
    by_cases hn : n = 0
    · simp [hn, done, Core.doneStop]
    · simp [hn]

/-- How the loop comes out from a process `q`: with nothing to do, with a success, with a failure, or
not at all. -/
inductive LoopEnd (o : ℕ → Outcomes) (p : Process) (is : List ℕ) (q : Process) :
    Except (Halt × Process) Process → Prop where
  | idle (none_connected : ∀ i ∈ is, ¬ (p.adapters i).Connected) : LoopEnd o p is q (.ok q)
  | success {r : Process} (some_connected : ∃ i ∈ is, (p.adapters i).Connected)
      (succeeds : ∀ i ∈ is, (p.adapters i).Connected →
        Succeeds (p.adapters i) (o i) p.switchOngoing.isSome)
      (reported : r.doneStops = q.doneStops ++ [true]) (core : r.coreState = .kCoreStateIdle)
      (disconnected : ∀ k, k ∈ is ∧ (p.adapters k).Connected →
        (r.adapters k).mState = .kDisconnected)
      (kept : ∀ k, ¬ (k ∈ is ∧ (p.adapters k).Connected) → r.adapters k = q.adapters k) :
      LoopEnd o p is q (.ok r)
  | failure {r : Process} (clean : FailsCleanly o p is)
      (reported : r.doneStops = q.doneStops ++ [false]) : LoopEnd o p is q (.ok r)
  | stuck {e : Halt × Process} (not_succeed : ¬ ∀ i ∈ is, (p.adapters i).Connected →
        Succeeds (p.adapters i) (o i) p.switchOngoing.isSome)
      (not_clean : ¬ FailsCleanly o p is) : LoopEnd o p is q (.error e)

variable {q : Process} {x : Except (Halt × Process) Process}

/-- An adapter that is not connected does not count. -/
theorem LoopEnd.skip (hcon : ¬ (p.adapters i).Connected) (h : LoopEnd o p is q x) :
    LoopEnd o p (i :: is) q x := by
  have hmem : ∀ k, k ∈ i :: is ∧ (p.adapters k).Connected → k ∈ is ∧ (p.adapters k).Connected := by
    rintro k ⟨hk, hkcon⟩
    rcases List.mem_cons.mp hk with rfl | hk
    · exact absurd hkcon hcon
    · exact ⟨hk, hkcon⟩
  have hclean : FailsCleanly o p (i :: is) ↔ FailsCleanly o p is := by
    rw [failsCleanly_cons, or_iff_right fun h => hcon h.1, and_iff_right fun h => absurd h hcon]
  cases h with
  | idle hnone => exact .idle (List.forall_mem_cons.mpr ⟨hcon, hnone⟩)
  | success hsome hsucceed hd hc hk hkn =>
    obtain ⟨k, hks, hkcon⟩ := hsome
    exact .success ⟨k, List.mem_cons_of_mem i hks, hkcon⟩
      (List.forall_mem_cons.mpr ⟨fun h => absurd h hcon, hsucceed⟩) hd hc
      (fun k h => hk k (hmem k h)) fun k h => hkn k fun h' => h ⟨List.mem_cons_of_mem i h'.1, h'.2⟩
  | failure hcl hd => exact .failure (hclean.mpr hcl) hd
  | stuck hnot hcl =>
    exact .stuck (fun h => hnot (List.forall_mem_cons.mp h).2) fun h => hcl (hclean.mp h)

/-- The first adapter is disconnected, and some of the others are connected. -/
theorem LoopEnd.cons {r : Process} (hi : i ∉ is) (hcon : (p.adapters i).Connected)
    (hs : Succeeds (p.adapters i) (o i) p.switchOngoing.isSome)
    (hri : (r.adapters i).mState = .kDisconnected)
    (hrk : ∀ k, k ≠ i → r.adapters k = q.adapters k) (hdone : r.doneStops = q.doneStops)
    (hmore : ¬ ∀ k ∈ is, ¬ (p.adapters k).Connected) (h : LoopEnd o p is r x) :
    LoopEnd o p (i :: is) q x := by
  have hclean : FailsCleanly o p (i :: is) ↔ FailsCleanly o p is := by
    rw [failsCleanly_cons, or_iff_right fun h => hs.not_fails h.2.1, and_iff_right fun _ => hs]
  cases h with
  | idle hnone => exact absurd hnone hmore
  | success hsome hsucceed hd hc hk hkn =>
    refine .success ⟨i, List.mem_cons_self, hcon⟩ (List.forall_mem_cons.mpr ⟨fun _ => hs, hsucceed⟩)
      (hd.trans (by rw [hdone])) hc ?_ ?_
    · rintro k ⟨hkm, hkcon⟩
      rcases List.mem_cons.mp hkm with rfl | hkm
      · rw [hkn k fun h => hi h.1]
        exact hri
      · exact hk k ⟨hkm, hkcon⟩
    · intro k hkm
      rw [hkn k fun h => hkm ⟨List.mem_cons_of_mem i h.1, h.2⟩]
      refine hrk k ?_
      rintro rfl
      exact hkm ⟨List.mem_cons_self, hcon⟩
  | failure hcl hd => exact .failure (hclean.mpr hcl) (hd.trans (by rw [hdone]))
  | stuck hnot hcl =>
    exact .stuck (fun h => hnot (List.forall_mem_cons.mp h).2) fun h => hcl (hclean.mp h)

/-- The first adapter is disconnected, and the rest of the loop finds nothing to do. -/
theorem LoopEnd.last {r : Process} (hcon : (p.adapters i).Connected)
    (hs : Succeeds (p.adapters i) (o i) p.switchOngoing.isSome)
    (hri : (r.adapters i).mState = .kDisconnected)
    (hrk : ∀ k, k ≠ i → r.adapters k = q.adapters k)
    (hrest : ∀ k ∈ is, ¬ (p.adapters k).Connected)
    (hdone : r.doneStops = q.doneStops ++ [true]) (hcore : r.coreState = .kCoreStateIdle) :
    LoopEnd o p (i :: is) q (.ok r) := by
  refine .success ⟨i, List.mem_cons_self, hcon⟩
    (List.forall_mem_cons.mpr ⟨fun _ => hs, fun k hk h => absurd h (hrest k hk)⟩) hdone hcore ?_ ?_
  · rintro k ⟨hk, hkcon⟩
    rcases List.mem_cons.mp hk with rfl | hk
    · exact hri
    · exact absurd hkcon (hrest k hk)
  · intro k hk
    refine hrk k ?_
    rintro rfl
    exact hk ⟨List.mem_cons_self, hcon⟩

theorem loopEnd_disconnectAll (q : Process) (hnodup : is.Nodup)
    (hongoing : q.stopOngoing = some ((is.countP fun i => (p.adapters i).Connected : ℕ) : Int))
    (hq : ∀ i ∈ is, q.adapters i = p.adapters i) (hon : q.switchOngoing = p.switchOngoing) :
    LoopEnd o p is q (disconnectAll o is q) := by
  induction is generalizing q with
  | nil => exact .idle nofun
  | cons i is ih =>
    obtain ⟨hi, hnodup⟩ := List.nodup_cons.mp hnodup
    have hqi : q.adapters i = p.adapters i := hq i List.mem_cons_self
    have hqis : ∀ k ∈ is, q.adapters k = p.adapters k := fun k hk => hq k (List.mem_cons_of_mem i hk)
    by_cases hcon : (p.adapters i).Connected
    · have hcount : q.stopOngoing =
          some (((is.countP fun i => (p.adapters i).Connected) + 1 : ℕ) : Int) := by
        rw [hongoing, List.countP_cons_of_pos (by simpa using hcon)]
      have hcases := disconnect_cases (o := o) (p := q) (i := i) disconnectAdapterCallback
      rw [hqi, hon] at hcases
      rw [disconnectAll_connected is (hqi.symm ▸ hcon)]
      rcases hcases with ⟨hs, f, requests, hother, hfi, he⟩ | ⟨hf, f, requests, hother, he⟩ |
        ⟨hs, hf, e, he⟩
      · let r := (q.during f requests).setAdapter i { f i with isThreadRunning := false }
        have hri : (r.adapters i).mState = .kDisconnected := by
          rw [(q.during f requests).setAdapter_adapters_self]
          exact hfi
        have hrk : ∀ k, k ≠ i → r.adapters k = q.adapters k := fun k hk =>
          ((q.during f requests).setAdapter_adapters_of_ne _ hk).trans (hother k hk)
        have hris : ∀ k ∈ is, r.adapters k = p.adapters k := fun k hk =>
          (hrk k fun hki => hi (hki ▸ hk)).trans (hqis k hk)
        have hcb := (callback_ongoing (q := q.during f requests) hcount i).2
        rw [he, hcb]
        by_cases hlast : (is.countP fun i => (p.adapters i).Connected) = 0
        · have hrest : ∀ k ∈ is, ¬ (p.adapters k).Connected := by
            simpa [List.countP_eq_zero] using hlast
          let t : Process := { Core.doneStop true r with stopOngoing := none }
          have ht : disconnectAll o is t = .ok t :=
            disconnectAll_idle fun k hk => by
              rw [show t.adapters k = p.adapters k from hris k hk]
              exact hrest k hk
          rw [if_pos hlast]
          show LoopEnd o p (i :: is) q (disconnectAll o is t)
          rw [ht]
          exact .last hcon hs hri hrk hrest rfl rfl
        · have hmore : ¬ ∀ k ∈ is, ¬ (p.adapters k).Connected := by
            simpa [List.countP_eq_zero] using hlast
          let t : Process := { r with
            stopOngoing := some ((is.countP fun i => (p.adapters i).Connected : ℕ) : Int) }
          have hrest : LoopEnd o p is t (disconnectAll o is t) := ih t hnodup rfl hris hon
          rw [if_neg hlast]
          exact LoopEnd.cons (r := t) hi hcon hs hri hrk rfl hmore hrest
      · have hclean : FailsCleanly o p (i :: is) ↔ ∀ k ∈ is, (p.adapters k).Connected →
            Fails (p.adapters k) (o k) p.switchOngoing.isSome := by
          rw [failsCleanly_cons, or_iff_left fun h => (h.1 hcon).not_fails hf,
            and_iff_right hcon, and_iff_right hf]
        have hsame : ∀ k ∈ is, (q.during f requests).adapters k = p.adapters k := by
          intro k hk
          exact (hother k fun hki => hi (hki ▸ hk)).trans (hqis k hk)
        let t : Process := { Core.doneStop false (q.during f requests) with stopOngoing := none }
        have hall : LoopEnd o p (i :: is) q (disconnectAll o is t) := by
          rcases disconnectAll_ended (o := o) (p := p) t hnodup rfl hsame hon with
            ⟨hfails, r, hr, hd⟩ | ⟨hnot, e, hr⟩
          · rw [hr]
            exact .failure (hclean.mpr hfails) hd
          · rw [hr]
            exact .stuck (fun h => (h i List.mem_cons_self hcon).not_fails hf)
              fun h => hnot (hclean.mp h)
        rw [he, (callback_ongoing (q := q.during f requests) hcount i).1]
        exact hall
      · rw [he]
        refine .stuck (fun h => hs (h i List.mem_cons_self hcon)) ?_
        rw [failsCleanly_cons]
        rintro (⟨-, h, -⟩ | ⟨h, -⟩)
        · exact hf h
        · exact hs (h hcon)
    · have hcount : q.stopOngoing =
          some ((is.countP fun i => (p.adapters i).Connected : ℕ) : Int) := by
        rw [hongoing, List.countP_cons_of_neg (by simpa using hcon)]
      rw [disconnectAll_skip (hqi.symm ▸ hcon)]
      exact .skip hcon (ih q hnodup hcount hqis hon)

end StopCoreTransaction

/-! ## A stop that is reported as it should be -/

namespace Core

open StopCoreTransaction

/-- The stop is reported once. A success says that all adapters are disconnected; and it is a success
when no connected adapter has a disconnection that fails. -/
def StopsRight (o : ℕ → Outcomes) (p : Process) : Prop :=
  ∃ q isSuccess, stop o p = .ok q ∧ q.doneStops = p.doneStops ++ [isSuccess] ∧
    (isSuccess = true → ∀ i < p.adaptersCount, (q.adapters i).mState = .kDisconnected) ∧
    ((∀ i < p.adaptersCount, (p.adapters i).Connected → (p.adapters i).Disconnects (o i)) →
      isSuccess = true ∧ q.coreState = .kCoreStateIdle)

/-- All connected adapters are disconnected, and no adapter was on its way; or some disconnection
could not succeed, and what is reported is a clean failure. -/
def StopsWell (o : ℕ → Outcomes) (p : Process) : Prop :=
  (p.stopOngoing = none ∧ (∃ i < p.adaptersCount, (p.adapters i).Connected) ∧
    ∀ i < p.adaptersCount, (p.adapters i).mState ≠ .kDisconnecting ∧
      ((p.adapters i).Connected → Succeeds (p.adapters i) (o i) p.switchOngoing.isSome)) ∨
  ((∃ i < p.adaptersCount, (p.adapters i).Connected ∧ ¬ (p.adapters i).Disconnects (o i)) ∧
    (p.stopOngoing = none → FailsCleanly o p (List.range p.adaptersCount)))

variable {o : ℕ → Outcomes} {p : Process}

theorem some_not_disconnects_iff : (∃ i < p.adaptersCount, (p.adapters i).Connected ∧
    ¬ (p.adapters i).Disconnects (o i)) ↔
      ¬ ∀ i < p.adaptersCount, (p.adapters i).Connected → (p.adapters i).Disconnects (o i) := by
  push Not
  rfl

/-- What is left to show when the result of the stop is known. -/
theorem stopsRight_iff_of_ok {q : Process} {isSuccess : Bool} (hq : stop o p = .ok q)
    (hd : q.doneStops = p.doneStops ++ [isSuccess]) : StopsRight o p ↔
      (isSuccess = true → ∀ i < p.adaptersCount, (q.adapters i).mState = .kDisconnected) ∧
      ((∀ i < p.adaptersCount, (p.adapters i).Connected → (p.adapters i).Disconnects (o i)) →
        isSuccess = true ∧ q.coreState = .kCoreStateIdle) := by
  constructor
  · rintro ⟨r, b, hr, hrd, hrest⟩
    obtain rfl : q = r := Except.ok.inj (hq.symm.trans hr)
    obtain rfl : isSuccess = b := by simpa using hd.symm.trans hrd
    exact hrest
  · intro hrest
    exact ⟨q, isSuccess, hq, hd, hrest⟩

/-- An adapter that is not connected keeps its state, and is on its way if that is not
`kDisconnected`. -/
theorem all_disconnected_iff {q : Process} {n : ℕ}
    (hdone : ∀ i, i < n ∧ (p.adapters i).Connected → (q.adapters i).mState = .kDisconnected)
    (hkept : ∀ i, ¬ (i < n ∧ (p.adapters i).Connected) → q.adapters i = p.adapters i) :
    (∀ i < n, (q.adapters i).mState = .kDisconnected) ↔
      ∀ i < n, (p.adapters i).mState ≠ .kDisconnecting := by
  refine forall₂_congr fun i hi => ?_
  by_cases hcon : (p.adapters i).Connected
  · exact iff_of_true (hdone i ⟨hi, hcon⟩) hcon.2
  · rw [hkept i fun h => hcon h.2]
    unfold ServerAdapter.Connected at hcon
    cases hs : (p.adapters i).mState <;> simp [hs] at hcon ⊢

/-- The stop comes out right as the loop over the adapters comes out. -/
theorem stopsRight_iff_of_loopEnd {q : Process} (hstopping : p.stopOngoing = none)
    (hq : q.doneStops = p.doneStops) (hadapters : q.adapters = p.adapters)
    (hend : LoopEnd o p (List.range p.adaptersCount) q (stop o p)) :
    StopsRight o p ↔ StopsWell o p := by
  generalize hr : stop o p = x at hend
  cases hend with
  | idle hidle =>
    simp only [List.mem_range] at hidle
    refine iff_of_false ?_ ?_
    · rintro ⟨r, b, hr', hd, -⟩
      obtain rfl : q = r := Except.ok.inj (hr.symm.trans hr')
      rw [hq] at hd
      simp at hd
    · rintro (⟨-, ⟨i, hi, hcon⟩, -⟩ | ⟨⟨i, hi, hcon, -⟩, -⟩) <;> exact hidle i hi hcon
  | @success r hsome hall hd hc hdone hkept =>
    simp only [List.mem_range] at hsome hall hdone hkept
    rw [hadapters] at hkept
    have hstate := all_disconnected_iff hdone hkept
    rw [stopsRight_iff_of_ok hr (hd.trans (by rw [hq]))]
    constructor
    · rintro ⟨hall', -⟩
      exact .inl ⟨hstopping, hsome, fun i hi => ⟨hstate.mp (hall' rfl) i hi, hall i hi⟩⟩
    · rintro (⟨-, -, h⟩ | ⟨⟨i, hi, hcon, hnd⟩, -⟩)
      · exact ⟨fun _ => hstate.mpr fun i hi => (h i hi).1, fun _ => ⟨rfl, hc⟩⟩
      · exact absurd (hall i hi hcon).2.2.1 hnd
  | failure hclean hd =>
    have hns := hclean.not_succeed
    simp only [List.mem_range] at hns
    rw [stopsRight_iff_of_ok hr (hd.trans (by rw [hq])), StopsWell, some_not_disconnects_iff]
    constructor
    · rintro ⟨-, h⟩
      exact .inr ⟨fun hdis => (nomatch (h hdis).1), fun _ => hclean⟩
    · rintro (⟨-, -, h⟩ | ⟨h, -⟩)
      · exact absurd (fun i hi => (h i hi).2) hns
      · exact ⟨nofun, fun hdis => absurd hdis h⟩
  | stuck hnot hclean =>
    simp only [List.mem_range] at hnot
    refine iff_of_false ?_ ?_
    · rintro ⟨r, b, hr', -⟩
      cases hr.symm.trans hr'
    · rintro (⟨-, -, h⟩ | ⟨-, h⟩)
      · exact hnot fun i hi => (h i hi).2
      · exact hclean (h hstopping)

theorem stop_right_iff (hready : p.coreState = .kCoreStateReady) :
    StopsRight o p ↔ StopsWell o p := by
  by_cases hcount : p.adaptersCount = 0
  · have hstop : stop o p = .ok (doneStop false p) := by simp [stop, hready, hcount]
    rw [stopsRight_iff_of_ok hstop rfl]
    refine iff_of_false (fun h => ?_) ?_
    · exact nomatch (h.2 fun i hi => absurd hi (by omega)).1
    · rintro (⟨-, ⟨i, hi, -⟩, -⟩ | ⟨⟨i, hi, -⟩, -⟩) <;> omega
  have hrun : stop o p = StopCoreTransaction.run o { p with coreState := .kCoreStateStopping } := by
    simp [stop, hready, hcount]
  cases hstopping : p.stopOngoing with
  | some n =>
    have hstop : stop o p = .ok (doneStop false { p with coreState := .kCoreStateStopping }) := by
      rw [hrun]
      simp [StopCoreTransaction.run, hstopping]
    rw [stopsRight_iff_of_ok hstop rfl, StopsWell, some_not_disconnects_iff]
    simp [hstopping]
  | none =>
    let q : Process := { p with
      coreState := .kCoreStateStopping
      stopOngoing := some (((List.range p.adaptersCount).countP fun i =>
        (p.adapters i).Connected : ℕ) : Int) }
    have hstop : stop o p = disconnectAll o (List.range p.adaptersCount) q := by
      rw [hrun]
      simp only [StopCoreTransaction.run, hstopping, StopCoreTransaction.start]
      rfl
    have hend := loopEnd_disconnectAll (o := o) (p := p) q List.nodup_range rfl (fun _ _ => rfl) rfl
    rw [← hstop] at hend
    exact stopsRight_iff_of_loopEnd (q := q) hstopping rfl rfl hend

theorem stop_right_iff_twoAdapters :
    StopsRight (fun _ => .succeed) NetworkSwitcher.twoAdapters ↔
      StopsWell (fun _ => .succeed) NetworkSwitcher.twoAdapters :=
  stop_right_iff rfl

/-- An active adapter refuses to be disconnected on command, and the stop fails. -/
theorem stop_active_fails : ¬ ∀ (o : ℕ → Outcomes) (p : Process),
    p.coreState = .kCoreStateReady → StopsRight o p := by
  intro hall
  obtain ⟨q, isSuccess, hq, hd, -, hsucceed⟩ :=
    hall (fun _ => .succeed) NetworkSwitcher.twoAdapters rfl
  obtain rfl := Except.ok.inj hq
  obtain rfl : false = isSuccess := (List.cons.inj (show [false] = [isSuccess] from hd)).1
  exact nomatch (hsucceed (by decide)).1

end Core

end Linux
end VirtualConnection
