import VirtualConnection.Linux.ServerAdapter

/-!
# Linux.NetworkSwitcher

`NetworkSwitcher.cpp`: a switch from one adapter to another connects or wakes up the next adapter,
puts the previous one to sleep and disconnects it. Each of these operations calls the callback that
takes the next step.

The callback that finds the previous adapter asleep goes on with the disconnection, and then puts the
adapter to sleep all the same (`connectNextAdapterCallback`): the transaction is over by then.
-/

namespace VirtualConnection
namespace Linux

def Process.doneSwitch (p : Process) : Process :=
  match p.nsState with
  | .kNSStateSwitching => { p with nsState := .kNSStateReady }
  | .kNSStateReady => p

theorem Process.doneSwitch_eq (p : Process) : p.doneSwitch = { p with nsState := .kNSStateReady } := by
  obtain ⟨_, _, _, _, ns, _⟩ := p
  cases ns <;> rfl

namespace Process

/-- `Core::get_adapter`: the index is compared as an unsigned number. -/
def getAdapter (p : Process) (index : Int) (next : ℕ → Action) : Except (Halt × Process) Process :=
  if 0 ≤ index ∧ index < p.adaptersCount then next index.toNat p else .error (.assertion, p)

def findAdapterById (p : Process) (adapterId : Int) : Option ℕ :=
  (List.range p.adaptersCount).find? fun i => (p.adapters i).mId = adapterId

end Process

namespace SwitchAdapterTransaction

def finish (tx : SwitchAdapterTransaction) (isSuccess : Bool) (p : Process) : Process :=
  let index := if isSuccess then tx.mNextIndex else p.mActiveAdapterIndex
  { p.doneSwitch with
    mActiveAdapterIndex := index
    switchOngoing := none
    ends := p.ends ++ [⟨tx.number, isSuccess, index, p.adapters⟩] }

theorem finish_eq (tx : SwitchAdapterTransaction) (isSuccess : Bool) (p : Process) :
    tx.finish isSuccess p =
      { p with
        nsState := .kNSStateReady
        mActiveAdapterIndex := if isSuccess then tx.mNextIndex else p.mActiveAdapterIndex
        switchOngoing := none
        ends := p.ends ++ [⟨tx.number, isSuccess,
          if isSuccess then tx.mNextIndex else p.mActiveAdapterIndex, p.adapters⟩] } := by
  unfold finish
  rw [Process.doneSwitch_eq]

def done (isSuccess : Bool) : Action := fun p =>
  match p.switchOngoing with
  | none => .error (.nullSwitch, p)
  | some tx => .ok (tx.finish isSuccess p)

def disconnectPrevAdapterCallback : Callback := fun _ isSuccess =>
  if isSuccess = false then done false else done true

variable (o : ℕ → Outcomes)

def sleepPrevAdapterCallback : Callback := fun _ isSuccess p =>
  if isSuccess = false then done false p
  else
    match p.switchOngoing with
    | none => .error (.nullSwitch, p)
    | some tx =>
      p.getAdapter tx.mPrevIndex fun prev p =>
        match (p.adapters prev).mState with
        | .kDisconnected => done true p
        | .kGoingSleeping =>
          ServerAdapter.waitForSleeping o prev
            (ServerAdapter.disconnectOnCommand o prev (some disconnectPrevAdapterCallback)) p
        | .kConnecting | .kDisconnecting | .kWakingUp => done false p
        | .kActive | .kSleeping =>
          ServerAdapter.disconnectOnCommand o prev (some disconnectPrevAdapterCallback) p

/-- The branch for a sleeping adapter does not return. -/
def connectNextAdapterCallback : Callback := fun next isSuccess p =>
  match p.switchOngoing with
  | none => .error (.nullSwitch, p)
  | some tx =>
    if isSuccess = false then done false p
    else
      p.getAdapter tx.mPrevIndex fun prev p =>
        let sleep := ServerAdapter.sleep prev (some (sleepPrevAdapterCallback o)) false
        match (p.adapters prev).mState with
        | .kDisconnected => done true p
        | .kSleeping | .kGoingSleeping => sleepPrevAdapterCallback o next true p >>= sleep
        | .kConnecting | .kDisconnecting | .kWakingUp => done false p
        | .kActive => sleep p

def start (tx : SwitchAdapterTransaction) : Action := fun p =>
  p.getAdapter tx.mNextIndex fun next p =>
    match (p.adapters next).mState with
    | .kActive => connectNextAdapterCallback o next true p
    | .kConnecting | .kDisconnecting | .kGoingSleeping | .kWakingUp => done false p
    | .kDisconnected | .kSleeping =>
      ServerAdapter.connectOrWakeUp o next (some (connectNextAdapterCallback o)) true p

def run (prevIndex nextIndex : Int) : Action := fun p =>
  match p.switchOngoing with
  | none =>
    let tx : SwitchAdapterTransaction := ⟨prevIndex, nextIndex, p.starts⟩
    tx.start o { p with switchOngoing := some tx, starts := p.starts + 1 }
  | some _ => .ok p.doneSwitch

end SwitchAdapterTransaction

namespace NetworkSwitcher

def switchAdapters (o : ℕ → Outcomes) (prevIndex nextIndex : Int) : Action := fun p =>
  SwitchAdapterTransaction.run o prevIndex nextIndex { p with nsState := .kNSStateSwitching }

end NetworkSwitcher

namespace NetworkMonitorThread

def isIncreaseable (p : Process) : Bool :=
  1 < p.adaptersCount ∧ p.mActiveAdapterIndex < p.adaptersCount - 1

def isDecreaseable (p : Process) : Bool := 1 < p.adaptersCount ∧ 0 < p.mActiveAdapterIndex

def increaseAdapter (o : ℕ → Outcomes) : Action := fun p =>
  if p.adaptersCount = 0 then .ok p
  else if isIncreaseable p = false then .ok p
  else NetworkSwitcher.switchAdapters o p.mActiveAdapterIndex (p.mActiveAdapterIndex + 1) p

def decreaseAdapter (o : ℕ → Outcomes) : Action := fun p =>
  if p.adaptersCount = 0 then .ok p
  else if isDecreaseable p = false then .ok p
  else NetworkSwitcher.switchAdapters o p.mActiveAdapterIndex (p.mActiveAdapterIndex - 1) p

end NetworkMonitorThread

/-! ## What a switch can do -/

/-- The next adapter is Active, or it can be connected or woken up. -/
def ServerAdapter.NextReady (a : ServerAdapter) (o : Outcomes) : Prop :=
  a.mState = .kActive ∨ a.mState = .kDisconnected ∧ a.Connects o true ∨
    a.mState = .kSleeping ∧ a.isSenderLoopPaused = true

instance (a : ServerAdapter) (o : Outcomes) : Decidable (a.NextReady o) :=
  inferInstanceAs (Decidable (_ ∨ _ ∧ _ ∨ _ ∧ _))

namespace SwitchAdapterTransaction

/-- How a switch from adapter `i` to adapter `j` comes out. -/
inductive Switched (o : ℕ → Outcomes) (tx : SwitchAdapterTransaction) (i j : ℕ) (p : Process) :
    Except (Halt × Process) Process → Prop where
  | unready {f : ℕ → ServerAdapter} {requests : List Request}
      (hnext : ¬ (p.adapters j).NextReady (o j)) (hf : f i = p.adapters i) :
      Switched o tx i j p (.ok (tx.finish false (p.during f requests)))
  | refused {f : ℕ → ServerAdapter} {requests : List Request}
      (hnext : (p.adapters j).NextReady (o j)) (hprev : (p.adapters i).mState = .kConnecting ∨
        (p.adapters i).mState = .kDisconnecting ∨ (p.adapters i).mState = .kWakingUp)
      (hf : f i = p.adapters i) :
      Switched o tx i j p (.ok (tx.finish false (p.during f requests)))
  | gone {f : ℕ → ServerAdapter} {requests : List Request}
      (hnext : (p.adapters j).NextReady (o j)) (hprev : (p.adapters i).mState = .kDisconnected) :
      Switched o tx i j p (.ok (tx.finish true (p.during f requests)))
  | done {f : ℕ → ServerAdapter} {requests : List Request}
      (hnext : (p.adapters j).NextReady (o j)) (hprev : (p.adapters i).mState = .kActive)
      (hpaused : (p.adapters i).isSenderLoopPaused = false) (hreports : (o i).reportsSleeping = true)
      (hdis : (p.adapters i).Disconnects (o i)) (hends : (o i).loopsEnd = true) :
      Switched o tx i j p (.ok (tx.finish true (p.during f requests)))
  | failed {f : ℕ → ServerAdapter} {requests : List Request}
      (hnext : (p.adapters j).NextReady (o j)) (hprev : (p.adapters i).mState = .kActive)
      (hpaused : (p.adapters i).isSenderLoopPaused = false) (hreports : (o i).reportsSleeping = true)
      (hdis : ¬ (p.adapters i).Disconnects (o i)) (hf : (f i).mState ≠ .kActive) :
      Switched o tx i j p (.ok (tx.finish false (p.during f requests)))
  | waits {f : ℕ → ServerAdapter} {requests : List Request}
      (hnext : (p.adapters j).NextReady (o j)) (hprev : (p.adapters i).mState = .kActive)
      (hpaused : (p.adapters i).isSenderLoopPaused = false)
      (hwaits : (o i).reportsSleeping = false ∨
        (p.adapters i).Disconnects (o i) ∧ (o i).loopsEnd = false) :
      Switched o tx i j p (.error (.waits, p.during f requests))
  | paused {f : ℕ → ServerAdapter} {requests : List Request}
      (hnext : (p.adapters j).NextReady (o j)) (hprev : (p.adapters i).mState = .kActive)
      (hpaused : (p.adapters i).isSenderLoopPaused = true) (hf : f i = p.adapters i) :
      Switched o tx i j p (.error (.nullSwitch, tx.finish false (p.during f requests)))
  | asleepWaits {f : ℕ → ServerAdapter} {requests : List Request}
      (hnext : (p.adapters j).NextReady (o j)) (hprev : (p.adapters i).Asleep) :
      Switched o tx i j p (.error (.waits, p.during f requests))
  | asleep {f : ℕ → ServerAdapter} {requests : List Request} {isSuccess : Bool}
      (hnext : (p.adapters j).NextReady (o j)) (hprev : (p.adapters i).Asleep) :
      Switched o tx i j p (.error (.nullSwitch, tx.finish isSuccess (p.during f requests)))

variable {o : ℕ → Outcomes} {tx : SwitchAdapterTransaction} {p : Process} {i j : ℕ}

theorem done_eq (hon : p.switchOngoing = some tx) (isSuccess : Bool) :
    done isSuccess p = .ok (tx.finish isSuccess p) := by
  unfold SwitchAdapterTransaction.done
  rw [hon]

theorem getAdapter_eq (hi : i < p.adaptersCount) (next : ℕ → Action) :
    p.getAdapter i next = next i p := by
  unfold Process.getAdapter
  rw [if_pos ⟨Int.natCast_nonneg i, by omega⟩, Int.toNat_natCast]

theorem disconnectPrev_cases (hon : p.switchOngoing = some tx)
    (hsleeping : (p.adapters i).mState = .kSleeping) : ∃ f requests,
      (p.adapters i).Disconnects (o i) ∧ (o i).loopsEnd = true ∧ (f i).mState = .kDisconnected ∧
        ServerAdapter.disconnectOnCommand o i (some disconnectPrevAdapterCallback) p =
          .ok (tx.finish true (p.during f requests)) ∨
      (p.adapters i).Disconnects (o i) ∧ (o i).loopsEnd = false ∧
        ServerAdapter.disconnectOnCommand o i (some disconnectPrevAdapterCallback) p =
          .error (.waits, p.during f requests) ∨
      ¬ (p.adapters i).Disconnects (o i) ∧ (f i).mState = .kSleeping ∧
        ServerAdapter.disconnectOnCommand o i (some disconnectPrevAdapterCallback) p =
          .ok (tx.finish false (p.during f requests)) := by
  have hdone : ∀ f requests isSuccess, done isSuccess (p.during f requests) =
      .ok (tx.finish isSuccess (p.during f requests)) :=
    fun f requests => done_eq (show (p.during f requests).switchOngoing = some tx from hon)
  have hne : p.switchOngoing ≠ none := by simp [hon]
  obtain ⟨f, requests, -, ⟨hd, hends, hf, he⟩ | ⟨hd, hends, he⟩ | ⟨hd, hf, he⟩⟩ :=
    ServerAdapter.disconnectOnCommand_cases (o := o) disconnectPrevAdapterCallback hne
      (.inl hsleeping)
  · exact ⟨f, requests, .inl ⟨hd, hends, hf, he.trans (hdone f requests true)⟩⟩
  · exact ⟨f, requests, .inr (.inl ⟨hd, hends, he⟩)⟩
  · exact ⟨f, requests, .inr (.inr ⟨hd, hf, he.trans (hdone f requests false)⟩)⟩

/-- Step 3 with an adapter that sleeps, or is about to. -/
theorem sleepPrev_cases (hon : p.switchOngoing = some tx) (hprev : tx.mPrevIndex = i)
    (hi : i < p.adaptersCount) (hasleep : (p.adapters i).Asleep) (k : ℕ) : ∃ f requests,
      ((p.adapters i).mState = .kGoingSleeping → (o i).reportsSleeping = true) ∧
        (p.adapters i).Disconnects (o i) ∧ (o i).loopsEnd = true ∧ (f i).mState = .kDisconnected ∧
        sleepPrevAdapterCallback o k true p = .ok (tx.finish true (p.during f requests)) ∨
      ((p.adapters i).mState = .kGoingSleeping ∧ (o i).reportsSleeping = false ∨
          (p.adapters i).Disconnects (o i) ∧ (o i).loopsEnd = false) ∧
        sleepPrevAdapterCallback o k true p = .error (.waits, p.during f requests) ∨
      ((p.adapters i).mState = .kGoingSleeping → (o i).reportsSleeping = true) ∧
        ¬ (p.adapters i).Disconnects (o i) ∧ (f i).mState = .kSleeping ∧
        sleepPrevAdapterCallback o k true p = .ok (tx.finish false (p.during f requests)) := by
  unfold sleepPrevAdapterCallback
  simp only [hon, hprev, getAdapter_eq hi]
  rcases hasleep with hs | hs
  · simp only [hs, Bool.true_eq_false, if_false]
    obtain ⟨f, rs, ⟨hd, hends, hf, he⟩ | ⟨hd, hends, he⟩ | ⟨hd, hf, he⟩⟩ :=
      disconnectPrev_cases (o := o) hon hs
    · exact ⟨f, rs, .inl ⟨nofun, hd, hends, hf, he⟩⟩
    · exact ⟨f, rs, .inr (.inl ⟨.inr ⟨hd, hends⟩, he⟩)⟩
    · exact ⟨f, rs, .inr (.inr ⟨nofun, hd, hf, he⟩)⟩
  · simp only [hs, Bool.true_eq_false, if_false, ServerAdapter.waitForSleeping]
    by_cases hr : (o i).reportsSleeping = true
    · simp only [hr, if_true]
      have hself : (p.setState i .kSleeping).adapters i =
          { p.adapters i with mState := .kSleeping } := Function.update_self ..
      have hdis : ((p.setState i .kSleeping).adapters i).Disconnects (o i) ↔
          (p.adapters i).Disconnects (o i) := by rw [hself]; exact Iff.rfl
      have hon' : (p.setState i .kSleeping).switchOngoing = some tx := hon
      obtain ⟨f, rs, ⟨hd, hends, hf, he⟩ | ⟨hd, hends, he⟩ | ⟨hd, hf, he⟩⟩ :=
        disconnectPrev_cases (o := o) hon' (by rw [hself])
      · exact ⟨f, rs, .inl ⟨fun _ => trivial, hdis.mp hd, hends, hf, he⟩⟩
      · exact ⟨f, rs, .inr (.inl ⟨.inr ⟨hdis.mp hd, hends⟩, he⟩)⟩
      · exact ⟨f, rs, .inr (.inr ⟨fun _ => trivial, fun h => hd (hdis.mpr h), hf, he⟩)⟩
    · have hr' : (o i).reportsSleeping = false := by simpa using hr
      simp only [hr', Bool.false_eq_true, if_false]
      exact ⟨p.adapters, p.requests, .inr (.inl ⟨.inl ⟨trivial, trivial⟩, rfl⟩)⟩

theorem sleepPrev_finished (k : ℕ) (isSuccess : Bool) (q : Process) :
    sleepPrevAdapterCallback o k false (tx.finish isSuccess q) =
      .error (.nullSwitch, tx.finish isSuccess q) := rfl

theorem sleep_switched (hon : p.switchOngoing = some tx) (hprev : tx.mPrevIndex = i)
    (hi : i < p.adaptersCount) (hnext : (p.adapters j).NextReady (o j)) {g : ℕ → ServerAdapter}
    (hg : g i = p.adapters i) (requests : List Request)
    (hactive : (p.adapters i).mState = .kActive) :
    Switched o tx i j p (ServerAdapter.sleep i (some (sleepPrevAdapterCallback o)) false
      (p.during g requests)) := by
  let q := p.during g requests
  have hqon : q.switchOngoing = some tx := hon
  have hqa : q.adapters i = p.adapters i := hg
  show Switched o tx i j p (ServerAdapter.sleep i (some (sleepPrevAdapterCallback o)) false q)
  unfold ServerAdapter.sleep
  simp only [hqa, hactive, ne_eq, not_true_eq_false, if_false, Bool.false_eq_true]
  by_cases hpaused : (p.adapters i).isSenderLoopPaused = true
  · have hfirst : ServerAdapter.callIfSet (some (sleepPrevAdapterCallback o)) i false q =
        .ok (tx.finish false q) := done_eq hqon false
    simp only [hpaused, if_true, hfirst]
    exact .paused hnext hactive hpaused hqa
  · have hpaused' : (p.adapters i).isSenderLoopPaused = false := by simpa using hpaused
    simp only [hpaused', Bool.false_eq_true, if_false]
    let asleep : ServerAdapter :=
      { p.adapters i with mState := .kGoingSleeping, isSenderLoopPaused := true }
    have hself : (q.setAdapter i asleep).adapters i = asleep := Function.update_self ..
    have hon' : (q.setAdapter i asleep).switchOngoing = some tx := hon
    have hasleep : ((q.setAdapter i asleep).adapters i).Asleep := by
      rw [hself]
      exact .inr rfl
    show Switched o tx i j p (sleepPrevAdapterCallback o i true (q.setAdapter i asleep))
    have hdis : ((q.setAdapter i asleep).adapters i).Disconnects (o i) ↔
        (p.adapters i).Disconnects (o i) := by rw [hself]; exact Iff.rfl
    have hgoing : ((q.setAdapter i asleep).adapters i).mState = .kGoingSleeping := by rw [hself]
    obtain ⟨f, rs, ⟨hr, hd, hends, _, he⟩ | ⟨hw, he⟩ | ⟨hr, hd, hf, he⟩⟩ :=
      sleepPrev_cases (o := o) hon' hprev hi hasleep i
    · exact he ▸ .done hnext hactive hpaused' (hr hgoing) (hdis.mp hd) hends
    · refine he ▸ .waits hnext hactive hpaused' ?_
      exact hw.imp (·.2) (fun h => ⟨hdis.mp h.1, h.2⟩)
    · exact he ▸ .failed hnext hactive hpaused' (hr hgoing) (fun h => hd (hdis.mpr h)) (by simp [hf])

/-- Step 2 with an adapter that sleeps, or is about to: the step is taken after the transaction. -/
theorem asleep_switched (hon : p.switchOngoing = some tx) (hprev : tx.mPrevIndex = i)
    (hi : i < p.adaptersCount) (hnext : (p.adapters j).NextReady (o j)) {g : ℕ → ServerAdapter}
    (hg : g i = p.adapters i) (requests : List Request) (hasleep : (p.adapters i).Asleep) (k : ℕ) :
    Switched o tx i j p (sleepPrevAdapterCallback o k true (p.during g requests) >>=
      ServerAdapter.sleep i (some (sleepPrevAdapterCallback o)) false) := by
  have hon' : (p.during g requests).switchOngoing = some tx := hon
  have hqasleep : ((p.during g requests).adapters i).Asleep := by
    rw [show (p.during g requests).adapters i = p.adapters i from hg]
    exact hasleep
  have hlate : ∀ (isSuccess : Bool) f rs, (f i).mState ≠ .kActive →
      ServerAdapter.sleep i (some (sleepPrevAdapterCallback o)) false
        (tx.finish isSuccess ((p.during g requests).during f rs)) =
      .error (.nullSwitch, tx.finish isSuccess (p.during f rs)) := by
    intro isSuccess f rs hf
    unfold ServerAdapter.sleep
    rw [show (tx.finish isSuccess ((p.during g requests).during f rs)).adapters i = f i by
      rw [finish_eq]; rfl]
    rw [if_pos hf]
    exact sleepPrev_finished (o := o) i isSuccess _
  obtain ⟨f, rs, ⟨_, _, _, hf, he⟩ | ⟨_, he⟩ | ⟨_, _, hf, he⟩⟩ :=
    sleepPrev_cases (o := o) hon' hprev hi hqasleep k
  · rw [he]
    show Switched o tx i j p (ServerAdapter.sleep i _ false _)
    rw [hlate true f rs (by simp [hf])]
    exact .asleep hnext hasleep
  · exact he ▸ .asleepWaits hnext hasleep
  · rw [he]
    show Switched o tx i j p (ServerAdapter.sleep i _ false _)
    rw [hlate false f rs (by simp [hf])]
    exact .asleep hnext hasleep

/-- Step 1-b, and what follows: the next adapter is ready. -/
theorem connectNext_switched (hon : p.switchOngoing = some tx) (hprev : tx.mPrevIndex = i)
    (hi : i < p.adaptersCount) (hnext : (p.adapters j).NextReady (o j)) {g : ℕ → ServerAdapter}
    (hg : g i = p.adapters i) (requests : List Request) (k : ℕ) :
    Switched o tx i j p (connectNextAdapterCallback o k true (p.during g requests)) := by
  let q := p.during g requests
  have hqon : q.switchOngoing = some tx := hon
  have hqi : i < q.adaptersCount := hi
  have hqa : q.adapters i = p.adapters i := hg
  show Switched o tx i j p (connectNextAdapterCallback o k true q)
  unfold connectNextAdapterCallback
  simp only [hqon, hprev, getAdapter_eq hqi, Bool.true_eq_false, if_false]
  cases hs : (q.adapters i).mState with
  | kDisconnected => exact done_eq hqon true ▸ .gone hnext (hqa ▸ hs)
  | kConnecting => exact done_eq hqon false ▸ .refused hnext (.inl (hqa ▸ hs)) hqa
  | kActive => exact sleep_switched hon hprev hi hnext hg requests (hqa ▸ hs)
  | kDisconnecting => exact done_eq hqon false ▸ .refused hnext (.inr (.inl (hqa ▸ hs))) hqa
  | kGoingSleeping =>
    exact asleep_switched hon hprev hi hnext hg requests (.inr (hqa ▸ hs)) k
  | kSleeping => exact asleep_switched hon hprev hi hnext hg requests (.inl (hqa ▸ hs)) k
  | kWakingUp => exact done_eq hqon false ▸ .refused hnext (.inr (.inr (hqa ▸ hs))) hqa

theorem connectNext_failed (hon : p.switchOngoing = some tx)
    (hnext : ¬ (p.adapters j).NextReady (o j)) {g : ℕ → ServerAdapter} (hg : g i = p.adapters i)
    {requests : List Request} (k : ℕ) :
    Switched o tx i j p (connectNextAdapterCallback o k false (p.during g requests)) := by
  have hqon : (p.during g requests).switchOngoing = some tx := hon
  unfold connectNextAdapterCallback
  simp only [hqon, if_true]
  exact done_eq hqon false ▸ .unready hnext hg

/-- The whole transaction, between two adapters. -/
theorem start_switched (hon : p.switchOngoing = some tx) (hprev : tx.mPrevIndex = i)
    (hnextIndex : tx.mNextIndex = j) (hi : i < p.adaptersCount) (hj : j < p.adaptersCount)
    (hij : i ≠ j) : Switched o tx i j p (tx.start o p) := by
  have hbusy : ∀ s, (p.adapters j).mState = s → s ≠ .kActive → s ≠ .kDisconnected →
      s ≠ .kSleeping → Switched o tx i j p (done false p) := by
    rintro s rfl h1 h2 h3
    refine done_eq hon false ▸ .unready ?_ rfl
    rintro (h | ⟨h, -⟩ | ⟨h, -⟩) <;> contradiction
  have hset : ∀ b, p.setAdapter j b = p.during (Function.update p.adapters j b) p.requests :=
    fun _ => rfl
  have hother : ∀ b, Function.update p.adapters j b i = p.adapters i :=
    fun b => Function.update_of_ne hij b p.adapters
  unfold start
  rw [hnextIndex, getAdapter_eq hj]
  cases hs : (p.adapters j).mState with
  | kActive => exact connectNext_switched hon hprev hi (.inl hs) rfl p.requests j
  | kConnecting => exact hbusy _ hs nofun nofun nofun
  | kDisconnecting => exact hbusy _ hs nofun nofun nofun
  | kGoingSleeping => exact hbusy _ hs nofun nofun nofun
  | kWakingUp => exact hbusy _ hs nofun nofun nofun
  | kDisconnected =>
    let a : ServerAdapter := { p.adapters j with mState := .kConnecting }
    have hcon : (a.connectInternalBody (o j) true).1 = true ↔ a.Connects (o j) true :=
      ServerAdapter.connectInternalBody_fst
    simp only [ServerAdapter.connectOrWakeUp, hs, if_true, ServerAdapter.connect, ne_eq,
      not_true_eq_false, if_false, ServerAdapter.connectInternal]
    rcases hbody : ServerAdapter.connectInternalBody { p.adapters j with mState := .kConnecting }
      (o j) true with ⟨res, a⟩
    rw [hbody] at hcon
    rw [hset]
    cases res with
    | true =>
      exact connectNext_switched hon hprev hi (.inr (.inl ⟨hs, hcon.mp rfl⟩)) (hother _) _ j
    | false =>
      refine connectNext_failed hon ?_ (hother _) j
      rintro (h | ⟨-, h⟩ | ⟨h, -⟩)
      · rw [hs] at h
        contradiction
      · exact absurd (hcon.mpr h) (by simp)
      · rw [hs] at h
        contradiction
  | kSleeping =>
    have hnot : ServerAdapterState.kSleeping ≠ .kDisconnected := nofun
    simp only [ServerAdapter.connectOrWakeUp, hs, hnot, if_true, ServerAdapter.wakeUp, ne_eq,
      not_true_eq_false, if_false]
    by_cases hpaused : (p.adapters j).isSenderLoopPaused = true
    · simp only [hpaused, if_true]
      exact connectNext_switched hon hprev hi (.inr (.inr ⟨hs, hpaused⟩)) (hother _) _ j
    · simp only [hpaused, if_false, Bool.false_eq_true]
      refine connectNext_failed hon ?_ rfl j
      rintro (h | ⟨h, -⟩ | ⟨-, h⟩)
      · rw [hs] at h
        contradiction
      · rw [hs] at h
        contradiction
      · exact hpaused h

end SwitchAdapterTransaction

/-! ## A failed switch -/

namespace NetworkSwitcher

variable {o : ℕ → Outcomes} {p : Process} {i j : ℕ}

def switching (p : Process) (tx : SwitchAdapterTransaction) : Process :=
  { p with nsState := .kNSStateSwitching, switchOngoing := some tx, starts := p.starts + 1 }

theorem switchAdapters_switched (hidle : p.switchOngoing = none) (hi : i < p.adaptersCount)
    (hj : j < p.adaptersCount) (hij : i ≠ j) :
    SwitchAdapterTransaction.Switched o ⟨i, j, p.starts⟩ i j (switching p ⟨i, j, p.starts⟩)
      (switchAdapters o i j p) := by
  have hrun : switchAdapters o i j p =
      SwitchAdapterTransaction.start o ⟨i, j, p.starts⟩ (switching p ⟨i, j, p.starts⟩) := by
    unfold switchAdapters SwitchAdapterTransaction.run
    simp only [hidle]
    rfl
  rw [hrun]
  exact SwitchAdapterTransaction.start_switched rfl rfl rfl hi hj hij

def lastState : Except (Halt × Process) Process → Process
  | .ok p => p
  | .error (_, p) => p

/-- Every switch that is reported as failed leaves the active adapter index, and the adapter there
as active as before. -/
def FailsAtomically (o : ℕ → Outcomes) (i j : ℕ) (p : Process) : Prop :=
  ∀ e ∈ (lastState (switchAdapters o i j p)).ends.drop p.ends.length, e.isSuccess = false →
    e.activeAdapterIndex = i ∧
      ((p.adapters i).mState = .kActive → (e.adapters i).mState = .kActive ∧
        (e.adapters i).isSenderLoopEnabled = true ∧ (e.adapters i).isSenderLoopPaused = false)

/-- An active previous adapter sends, and its disconnection does not fail once it sleeps. -/
def KeepsActive (o : ℕ → Outcomes) (i j : ℕ) (p : Process) : Prop :=
  (p.adapters i).mState = .kActive → (p.adapters i).isSenderLoopPaused = false ∧
    if (p.adapters j).NextReady (o j) then
      (o i).reportsSleeping = true → (p.adapters i).Disconnects (o i)
    else (p.adapters i).isSenderLoopEnabled = true

/-- A switch that has reported is atomic when it succeeded, or when the adapter is as active as
before. -/
theorem reported_iff (hindex : p.mActiveAdapterIndex = i) (isSuccess : Bool)
    (f : ℕ → ServerAdapter) (requests : List Request) : (∀ e ∈ (SwitchAdapterTransaction.finish ⟨i, j, p.starts⟩ isSuccess
        ((switching p ⟨i, j, p.starts⟩).during f requests)).ends.drop p.ends.length,
      e.isSuccess = false → e.activeAdapterIndex = i ∧
        ((p.adapters i).mState = .kActive → (e.adapters i).mState = .kActive ∧
          (e.adapters i).isSenderLoopEnabled = true ∧ (e.adapters i).isSenderLoopPaused = false)) ↔
    (isSuccess = false → (p.adapters i).mState = .kActive → (f i).mState = .kActive ∧
      (f i).isSenderLoopEnabled = true ∧ (f i).isSenderLoopPaused = false) := by
  have hends : (SwitchAdapterTransaction.finish ⟨i, j, p.starts⟩ isSuccess
      ((switching p ⟨i, j, p.starts⟩).during f requests)).ends.drop p.ends.length =
      [⟨p.starts, isSuccess, if isSuccess then j else p.mActiveAdapterIndex, f⟩] := by
    rw [SwitchAdapterTransaction.finish_eq]
    exact List.drop_left
  rw [hends]
  cases isSuccess <;> simp [hindex]

theorem unreported (f : ℕ → ServerAdapter) (requests : List Request) (e : SwitchEnd) :
    ¬ e ∈ ((switching p ⟨i, j, p.starts⟩).during f requests).ends.drop p.ends.length := by
  rw [show ((switching p ⟨i, j, p.starts⟩).during f requests).ends = p.ends from rfl,
    List.drop_length]
  exact List.not_mem_nil

theorem failed_switch_atomic_iff (hidle : p.switchOngoing = none)
    (hindex : p.mActiveAdapterIndex = i) (hi : i < p.adaptersCount) (hj : j < p.adaptersCount)
    (hij : i ≠ j) : FailsAtomically o i j p ↔ KeepsActive o i j p := by
  have hsw := switchAdapters_switched (o := o) hidle hi hj hij
  unfold FailsAtomically KeepsActive
  generalize switchAdapters o i j p = r at hsw ⊢
  cases hsw with
  | unready hnext hf =>
    refine (reported_iff hindex false _ _).trans ?_
    rw [if_neg (show ¬ (p.adapters j).NextReady (o j) from hnext), hf]
    exact ⟨fun h hs => ⟨(h rfl hs).2.2, (h rfl hs).2.1⟩, fun h _ hs => ⟨hs, (h hs).2, (h hs).1⟩⟩
  | refused hnext hprev hf =>
    have hs : (p.adapters i).mState ≠ .kActive := by
      intro hs
      rcases hprev with h | h | h <;> cases hs.symm.trans h
    exact ⟨fun _ h => absurd h hs, fun _ => (reported_iff hindex false _ _).mpr fun _ h => absurd h hs⟩
  | gone hnext hprev =>
    have hs : (p.adapters i).mState ≠ .kActive := fun hs => nomatch hs.symm.trans hprev
    exact ⟨fun _ h => absurd h hs, fun _ => (reported_iff hindex true _ _).mpr nofun⟩
  | done hnext hprev hpaused hreports hdis hends =>
    refine iff_of_true ((reported_iff hindex true _ _).mpr nofun) fun _ => ⟨hpaused, ?_⟩
    rw [if_pos (show (p.adapters j).NextReady (o j) from hnext)]
    exact fun _ => hdis
  | failed hnext hprev hpaused hreports hdis hf =>
    refine iff_of_false (fun h => hf ((reported_iff hindex false _ _).mp h rfl hprev).1) fun h => hdis ?_
    have hkeeps := (h hprev).2
    rw [if_pos (show (p.adapters j).NextReady (o j) from hnext)] at hkeeps
    exact hkeeps hreports
  | waits hnext hprev hpaused hwaits =>
    refine iff_of_true (fun e he => absurd he (unreported _ _ e)) fun _ => ⟨hpaused, ?_⟩
    rw [if_pos (show (p.adapters j).NextReady (o j) from hnext)]
    intro hreports
    rcases hwaits with h | h
    · rw [h] at hreports
      cases hreports
    · exact h.1
  | paused hnext hprev hpaused hf =>
    refine iff_of_false (fun h => ?_) (fun h => ?_)
    · have hsends := ((reported_iff hindex false _ _).mp h rfl hprev).2.2
      rw [hf] at hsends
      cases hsends.symm.trans hpaused
    · cases (h hprev).1.symm.trans hpaused
  | asleepWaits hnext hprev =>
    have hs : (p.adapters i).mState ≠ .kActive := by
      intro hs
      rcases hprev with h | h <;> cases hs.symm.trans h
    exact iff_of_true (fun e he => absurd he (unreported _ _ e)) fun h => absurd h hs
  | asleep hnext hprev =>
    have hs : (p.adapters i).mState ≠ .kActive := by
      intro hs
      rcases hprev with h | h <;> cases hs.symm.trans h
    refine iff_of_true ((reported_iff hindex _ _ _).mpr fun _ h => absurd h hs) fun h => absurd h hs

/-- Adapter 0 is active, and a switch to adapter 1 may begin. -/
def twoAdapters : Process where
  adapters i := if i = 0 then .active 0 else .disconnected i
  adaptersCount := 2
  mActiveAdapterIndex := 0
  coreState := .kCoreStateReady
  nsState := .kNSStateReady
  switchOngoing := none
  connectOngoing := none
  stopOngoing := none
  requests := []
  starts := 0
  ends := []
  doneStops := []

theorem failed_switch_atomic_iff_twoAdapters :
    FailsAtomically (fun _ => .succeed) 0 1 twoAdapters ↔
      KeepsActive (fun _ => .succeed) 0 1 twoAdapters :=
  failed_switch_atomic_iff rfl rfl (by decide) (by decide) (by decide)

/-- The device of the previous adapter cannot be turned off: the adapter stays asleep. -/
theorem failed_switch_asleep : ¬ ∀ (o : ℕ → Outcomes) (p : Process) (i j : ℕ),
    p.switchOngoing = none → p.mActiveAdapterIndex = i → i < p.adaptersCount →
      j < p.adaptersCount → i ≠ j → FailsAtomically o i j p := by
  intro hall
  have hswitch := hall (fun _ => { Outcomes.succeed with turnOffImpl := false }) twoAdapters 0 1
    rfl rfl (by decide) (by decide) (by decide)
  have hstate := ((hswitch _ List.mem_cons_self rfl).2 rfl).1
  cases hstate

end NetworkSwitcher

end Linux
end VirtualConnection
