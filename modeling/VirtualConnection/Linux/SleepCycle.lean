import VirtualConnection.Lib.Runs
import VirtualConnection.Linux.SenderLoop

/-!
# Linux.SleepCycle

`ServerAdapter::sleep` and `wake_up` against the sender thread of the adapter, step by step: every
read or write of the adapter's state and of the loop's flags is a step, and so are the waits. The
adapter is connected and is not disconnected on the way. What is dequeued, what a send returns and
what `errno` is then belong to the label; a send that is refused because of the state returns -1, with
`errno` as some earlier call has left it.

`std::condition_variable::wait` may return at any time, and the code does not look at the flag again.

`not_stuck`: an adapter that has been told to sleep gets there and can be woken up, in the runs whose
steps are all `Steady`.
-/

namespace VirtualConnection
namespace Linux

/-- How far a call of `sleep` or `wake_up` has come. -/
inductive SleepPoint where
  | idle
  /-- `sleep` has seen that the adapter is active. -/
  | sleepChecked
  /-- It has seen that the sender loop is not paused. -/
  | sleepUnpaused
  /-- The adapter is going to sleep. -/
  | sleepSet
  /-- The sender loop is paused; `wake_up_dequeue_waiting` comes next. -/
  | sleepPaused
  /-- `wake_up` has seen that the adapter sleeps. -/
  | wakeChecked
  /-- It has seen that the sender loop is paused. -/
  | wakePaused
  /-- The adapter is waking up. -/
  | wakeSet
  deriving DecidableEq, Repr

/-- Where the sender thread is. -/
inductive SenderPoint where
  /-- `wait_until_enable_loop`. -/
  | disabled
  /-- The head of `sender_loop`. -/
  | check
  /-- "If loop is paused, wait until resume loop". -/
  | pause
  /-- `set_state(kSleeping)`. -/
  | report
  /-- `wait_until_resume_loop` -/
  | wait
  | waiting
  /-- `get_state` after the wait. -/
  | resumed
  /-- `set_state(kActive)`. -/
  | reactivate
  | dequeue
  /-- "If it is suspended, push the segment to the send-fail queue". -/
  | repause
  /-- `get_state` in `ServerAdapter::send`. -/
  | readState
  /-- The socket's `send`. -/
  | sending
  /-- `ServerAdapter::send` has returned -1. -/
  | refused
  /-- `set_is_loop_enabled(false)`, after the loop. -/
  | disabling
  /-- `set_is_loop_paused(false)`, after the loop. -/
  | unpausing
  deriving DecidableEq, Repr

/-- The sender thread of an adapter: the adapter's state, the flags of the loop, and its point. -/
structure SenderThread where
  mState : ServerAdapterState
  isLoopEnabled : Bool
  isLoopPaused : Bool
  sender : SenderPoint
  deriving DecidableEq

/-- The steps of the sender thread that depend on nothing but the state and the flags. -/
def SenderThread.step (s : SenderThread) : Except Unit SenderThread :=
  match s.sender with
  | .disabled => if s.isLoopEnabled then .ok { s with sender := .check } else .error ()
  | .check => .ok { s with sender := if s.isLoopEnabled then .pause else .disabling }
  | .pause => .ok { s with sender := if s.isLoopPaused then .report else .dequeue }
  | .report => .ok { s with mState := .kSleeping, sender := .wait }
  | .wait => .ok { s with sender := if s.isLoopPaused then .waiting else .resumed }
  | .resumed =>
    if s.mState ≠ .kDisconnecting ∧ s.mState ≠ .kDisconnected then
      .ok { s with sender := .reactivate }
    else .ok { s with sender := .pause }
  | .reactivate => .ok { s with mState := .kActive, sender := .pause }
  | .repause => .ok { s with sender := if s.isLoopPaused then .check else .readState }
  | .readState =>
    if s.mState = .kConnecting then .error ()
    else .ok { s with sender := if s.mState = .kActive then .sending else .refused }
  | .disabling => .ok { s with isLoopEnabled := false, sender := .unpausing }
  | .unpausing => .ok { s with isLoopPaused := false, sender := .disabled }
  | .waiting | .dequeue | .sending | .refused => .error ()

/-- A wait of the sender thread returns. -/
def SenderThread.wake (s : SenderThread) : Except Unit SenderThread :=
  match s.sender with
  | .disabled => .ok { s with sender := .check }
  | .waiting => .ok { s with sender := .resumed }
  | _ => .error ()

structure SleepCycle extends SenderThread where
  calls : ℕ → SleepPoint

inductive SleepStep where
  /-- The check of the state at the head of `sleep`. -/
  | sleep (call : ℕ)
  /-- The check of the state at the head of `wake_up`. -/
  | wakeUp (call : ℕ)
  | proceed (call : ℕ)
  | sender
  /-- A wait of the sender thread returns. -/
  | wakes
  | dequeued (isSegment : Bool)
  | sent (res : Int) (errno : ℕ)

namespace SleepCycle

variable (s : SleepCycle)

def goTo (call : ℕ) (point : SleepPoint) : SleepCycle :=
  { s with calls := Function.update s.calls call point }

def proceed (call : ℕ) : Except Unit SleepCycle :=
  match s.calls call with
  | .idle => .error ()
  | .sleepChecked => .ok (s.goTo call (if s.isLoopPaused then .idle else .sleepUnpaused))
  | .sleepUnpaused => .ok ({ s with mState := .kGoingSleeping }.goTo call .sleepSet)
  | .sleepSet => .ok ({ s with isLoopPaused := true }.goTo call .sleepPaused)
  | .sleepPaused => .ok (s.goTo call .idle)
  | .wakeChecked => .ok (s.goTo call (if s.isLoopPaused then .wakePaused else .idle))
  | .wakePaused => .ok ({ s with mState := .kWakingUp }.goTo call .wakeSet)
  | .wakeSet => .ok ({ s with isLoopPaused := false }.goTo call .idle)

/-- A step of the sender thread alone. -/
def senderStep (next : SenderThread → Except Unit SenderThread) : Except Unit SleepCycle :=
  match next s.toSenderThread with
  | .ok t => .ok { s with toSenderThread := t }
  | .error e => .error e

def sendEnd (res : Int) (errno : ℕ) : PassEnd :=
  passEnd (if s.sender = .refused then -1 else res) segmentDataSize false errno

def step (s : SleepCycle) : SleepStep → Except Unit SleepCycle
  | .sleep call =>
    if s.calls call ≠ .idle then .error ()
    else if s.mState = .kActive then .ok (s.goTo call .sleepChecked) else .ok s
  | .wakeUp call =>
    if s.calls call ≠ .idle then .error ()
    else if s.mState = .kSleeping then .ok (s.goTo call .wakeChecked) else .ok s
  | .proceed call => s.proceed call
  | .sender => s.senderStep SenderThread.step
  | .wakes => s.senderStep SenderThread.wake
  | .dequeued isSegment =>
    if s.sender = .dequeue then
      .ok { s with sender := if isSegment then .repause else .check }
    else .error ()
  | .sent res errno =>
    if s.sender = .sending ∨ s.sender = .refused then
      .ok { s with sender := if s.sendEnd res errno = .left then .disabling else .check }
    else .error ()

/-! ## What is claimed, and when it holds -/

/-- The sender thread is in its loop and has not come to the report. -/
def WillReport : SenderPoint → Prop
  | .disabled | .check | .pause | .report | .dequeue | .repause | .readState | .sending
  | .refused => True
  | _ => False

/-- With no call in progress, an adapter that is to sleep has its sender loop enabled and paused, and
one that does not sleep yet has the report before it. -/
def NotStuck (s : SleepCycle) : Prop :=
  (∀ call, s.calls call = .idle) → s.mState = .kGoingSleeping ∨ s.mState = .kSleeping →
    s.isLoopEnabled = true ∧ s.isLoopPaused = true ∧
      (s.mState = .kGoingSleeping → WillReport s.sender)

def Broken (s : SleepCycle) : Prop :=
  s.isLoopEnabled = false ∨ s.sender = .disabling ∨ s.sender = .unpausing

/-- The call is past its check, and has not made its last change. -/
def Busy : SleepPoint → Prop
  | .idle | .sleepPaused => False
  | _ => True

/-- No call passes its check while another one is busy, and no `sleep` does when the sender loop has
been left; the loop is left only while the adapter is active and no call is busy; the wait for the
resumption returns only when the loop has been resumed. -/
def Steady (s : SleepCycle) : SleepStep → Prop
  | .sleep _ => s.mState = .kActive → ¬ Broken s ∧ ∀ call, ¬ Busy (s.calls call)
  | .wakeUp _ => s.mState = .kSleeping → ∀ call, ¬ Busy (s.calls call)
  | .sent res errno => s.sendEnd res errno = .left →
      s.mState = .kActive ∧ ∀ call, ¬ Busy (s.calls call)
  | .wakes => s.sender = .waiting → s.isLoopPaused = false
  | _ => True

/-- What a call that has come to a point knows. -/
def Knows (s : SleepCycle) : SleepPoint → Prop
  | .idle | .sleepPaused => True
  | .sleepChecked | .sleepUnpaused => s.mState = .kActive ∧ ¬ Broken s
  | .sleepSet => s.mState = .kGoingSleeping ∧ s.isLoopPaused = false
  | .wakeChecked | .wakePaused => s.mState = .kSleeping
  | .wakeSet => s.mState = .kWakingUp ∧ s.isLoopPaused = true

/-- Where the sender thread can be in the states of the adapter. -/
def Fits (s : SleepCycle) : Prop :=
  match s.mState with
  | .kActive => s.isLoopPaused = false ∧ s.sender ≠ .report ∧
      (WillReport s.sender ∨ s.sender = .disabling ∨ s.sender = .unpausing)
  | .kGoingSleeping => s.isLoopEnabled = true ∧ WillReport s.sender ∧
      (s.sender = .report → s.isLoopPaused = true) ∧
      (s.isLoopPaused = false → ∃ call, s.calls call = .sleepSet)
  | .kSleeping => s.isLoopEnabled = true ∧ s.isLoopPaused = true ∧
      (s.sender = .wait ∨ s.sender = .waiting)
  | .kWakingUp => s.isLoopEnabled = true ∧ (s.sender = .wait ∨ s.sender = .waiting ∨
      s.isLoopPaused = false ∧ (s.sender = .resumed ∨ s.sender = .reactivate))
  | _ => False

structure Sound (s : SleepCycle) : Prop where
  fits : Fits s
  knows : ∀ call, Knows s (s.calls call)
  one : ∀ c d, Busy (s.calls c) → Busy (s.calls d) → c = d

variable {s : SleepCycle}

theorem Sound.notStuck (h : Sound s) : NotStuck s := by
  rintro hidle (hs | hs)
  · have hfits := h.fits
    unfold Fits at hfits
    rw [hs] at hfits
    obtain ⟨henabled, hreport, -, hpaused⟩ := hfits
    refine ⟨henabled, ?_, fun _ => hreport⟩
    by_contra hp
    obtain ⟨call, hcall⟩ := hpaused (by simpa using hp)
    cases (hidle call).symm.trans hcall
  · have hfits := h.fits
    unfold Fits at hfits
    rw [hs] at hfits
    exact ⟨hfits.1, hfits.2.1, fun hg => nomatch hs.symm.trans hg⟩

variable {t : SleepCycle} {call : ℕ} {point : SleepPoint}

@[simp] theorem goTo_calls_self : (s.goTo call point).calls call = point := Function.update_self ..

@[simp] theorem goTo_calls_of_ne {d : ℕ} (hd : d ≠ call) :
    (s.goTo call point).calls d = s.calls d := by
  simp [goTo, hd]

theorem knows_of_not_busy (h : ¬ Busy point) : Knows s point := by
  cases point <;> simp_all [Busy, Knows]

theorem Knows.mono (h : Knows s point) (hstate : t.mState = s.mState)
    (hpaused : t.isLoopPaused = s.isLoopPaused) (hbroken : Broken t → Broken s) : Knows t point := by
  cases point <;> simp_all [Knows]

/-- A step of a busy call, or of one that becomes busy while no other is. -/
theorem sound_goTo (hfits : Fits (t.goTo call point)) (hknows : Knows t point)
    (hothers : ∀ d, d ≠ call → ¬ Busy (t.calls d)) : Sound (t.goTo call point) := by
  refine ⟨hfits, fun d => ?_, fun c d hc hd => ?_⟩
  · by_cases hd : d = call
    · rw [hd, goTo_calls_self]
      exact hknows
    · rw [goTo_calls_of_ne hd]
      exact knows_of_not_busy (hothers d hd)
  · have hcall : ∀ k, Busy ((t.goTo call point).calls k) → k = call := by
      intro k hk
      by_contra hne
      rw [goTo_calls_of_ne hne] at hk
      exact hothers k hne hk
    rw [hcall c hc, hcall d hd]

theorem Sound.sender (h : Sound s) (hfits : Fits t) (hcalls : t.calls = s.calls)
    (hstate : t.mState = s.mState) (hpaused : t.isLoopPaused = s.isLoopPaused)
    (hbroken : Broken t → Broken s) : Sound t := by
  refine ⟨hfits, fun c => ?_, ?_⟩
  · rw [hcalls]
    exact (h.knows c).mono hstate hpaused hbroken
  · rw [hcalls]
    exact h.one

theorem sound_of_not_busy (hfits : Fits t) (hidle : ∀ c, ¬ Busy (t.calls c)) : Sound t :=
  ⟨hfits, fun c => knows_of_not_busy (hidle c), fun c _ hc _ => absurd hc (hidle c)⟩

/-- A call that is over, and that nobody waits for. -/
theorem sound_idle (h : Sound s) (hc : s.calls call ≠ .sleepSet) : Sound (s.goTo call .idle) := by
  have hfits := h.fits
  have hcalls : ∀ c, (s.goTo call .idle).calls c = s.calls c ∨
      (s.goTo call .idle).calls c = .idle := by
    intro c
    by_cases hcc : c = call
    · exact .inr (hcc ▸ goTo_calls_self)
    · exact .inl (goTo_calls_of_ne hcc)
  have hbusy : ∀ c, Busy ((s.goTo call .idle).calls c) → Busy (s.calls c) := by
    intro c hb
    rcases hcalls c with he | he
    · rwa [he] at hb
    · rw [he] at hb
      cases hb
  have hset : (∃ c, s.calls c = .sleepSet) → ∃ c, (s.goTo call .idle).calls c = .sleepSet := by
    rintro ⟨c, hcs⟩
    refine ⟨c, (goTo_calls_of_ne ?_).trans hcs⟩
    rintro rfl
    exact hc hcs
  refine ⟨?_, fun c => ?_, fun c d hc hd => h.one c d (hbusy c hc) (hbusy d hd)⟩
  · cases hm : s.mState <;> simp only [Fits, hm] at hfits
    case kGoingSleeping =>
      simp only [Fits, goTo, hm]
      exact ⟨hfits.1, hfits.2.1, hfits.2.2.1, fun hp => hset (hfits.2.2.2 hp)⟩
    all_goals
      simp only [Fits, goTo, hm]
      exact hfits
  · rcases hcalls c with he | he
    · rw [he]
      exact h.knows c
    · rw [he]
      trivial

theorem sound_proceed (h : Sound s) (hs : s.proceed call = .ok t) : Sound t := by
  have hothers : Busy (s.calls call) → ∀ d, d ≠ call → ¬ Busy (s.calls d) :=
    fun hb d hd hbd => hd (h.one d call hbd hb)
  have hknows := h.knows call
  have hfits := h.fits
  unfold proceed at hs
  cases hc : s.calls call with
  | idle => simp [hc] at hs
  | sleepChecked =>
    simp only [hc, Except.ok.injEq] at hs hknows
    obtain ⟨hactive, hunbroken⟩ := hknows
    have hp : s.isLoopPaused = false := by
      simp only [Fits, hactive] at hfits
      exact hfits.1
    subst hs
    rw [hp]
    refine sound_goTo ?_ ⟨hactive, hunbroken⟩ (hothers (by rw [hc]; trivial))
    simpa [Fits, goTo, hactive] using hfits
  | sleepUnpaused =>
    simp only [hc, Except.ok.injEq] at hs hknows
    obtain ⟨hactive, hunbroken⟩ := hknows
    simp only [Fits, hactive] at hfits
    obtain ⟨hp, hreport, hsender⟩ := hfits
    subst hs
    refine sound_goTo ?_ ⟨rfl, hp⟩ (hothers (by rw [hc]; trivial))
    simp only [Broken, not_or, Bool.not_eq_false] at hunbroken
    obtain ⟨henabled, hdis, hunp⟩ := hunbroken
    refine ⟨henabled, ?_, fun hr => absurd hr hreport, fun _ => ⟨call, goTo_calls_self⟩⟩
    rcases hsender with hw | hw | hw
    · exact hw
    · exact absurd hw hdis
    · exact absurd hw hunp
  | sleepSet =>
    simp only [hc, Except.ok.injEq] at hs hknows
    obtain ⟨hgoing, hp⟩ := hknows
    simp only [Fits, hgoing] at hfits
    obtain ⟨henabled, hreport, -, -⟩ := hfits
    subst hs
    refine sound_goTo ?_ trivial (hothers (by rw [hc]; trivial))
    simp only [Fits, goTo, hgoing]
    exact ⟨henabled, hreport, fun _ => trivial, nofun⟩
  | sleepPaused =>
    simp only [hc, Except.ok.injEq] at hs
    subst hs
    exact sound_idle h (by simp [hc])
  | wakeChecked =>
    simp only [hc, Except.ok.injEq] at hs hknows
    have hsleeping : s.mState = .kSleeping := hknows
    have hp : s.isLoopPaused = true := by
      simp only [Fits, hsleeping] at hfits
      exact hfits.2.1
    subst hs
    rw [hp]
    refine sound_goTo ?_ hsleeping (hothers (by rw [hc]; trivial))
    simpa [Fits, goTo, hsleeping] using hfits
  | wakePaused =>
    simp only [hc, Except.ok.injEq] at hs hknows
    have hsleeping : s.mState = .kSleeping := hknows
    simp only [Fits, hsleeping] at hfits
    obtain ⟨henabled, hp, hwait⟩ := hfits
    subst hs
    refine sound_goTo ⟨henabled, ?_⟩ ⟨rfl, hp⟩ (hothers (by rw [hc]; trivial))
    exact hwait.imp_right .inl
  | wakeSet =>
    simp only [hc, Except.ok.injEq] at hs hknows
    obtain ⟨hwaking, hp⟩ := hknows
    simp only [Fits, hwaking, hp] at hfits
    subst hs
    refine sound_goTo ?_ trivial (hothers (by rw [hc]; trivial))
    obtain ⟨henabled, hwait⟩ : s.isLoopEnabled = true ∧
        (s.sender = .wait ∨ s.sender = .waiting) := by simpa using hfits
    simp only [Fits, goTo, hwaking]
    exact ⟨henabled, hwait.imp_right .inl⟩

/-- No call is busy when the sender thread sets the state. -/
theorem Sound.not_busy (h : Sound s) (hc : s.sender = .report ∨ s.sender = .reactivate)
    (call : ℕ) : ¬ Busy (s.calls call) := by
  intro hb
  have hfits := h.fits
  have hknows := h.knows call
  cases hm : s.mState <;> simp only [Fits, hm] at hfits
  all_goals
    rcases hc with hc | hc <;> simp only [hc, WillReport] at hfits
  all_goals
    cases hp : s.calls call <;> simp_all [Knows, Busy]

theorem senderStep_ok {next : SenderThread → Except Unit SenderThread}
    (hs : s.senderStep next = .ok t) :
    ∃ u, next s.toSenderThread = .ok u ∧ t = { s with toSenderThread := u } := by
  unfold senderStep at hs
  split at hs
  · next u hu => exact ⟨u, hu, (Except.ok.inj hs).symm⟩
  · cases hs

theorem sound_senderStep (h : Sound s) (hs : s.senderStep SenderThread.step = .ok t) : Sound t := by
  have hfits := h.fits
  obtain ⟨u, hu, rfl⟩ := senderStep_ok hs
  unfold SenderThread.step at hu
  cases hc : s.sender with
  | disabled =>
    simp only [hc] at hu
    split_ifs at hu with he
    obtain rfl := Except.ok.inj hu
    refine h.sender ?_ rfl rfl rfl (by simp [Broken, he])
    cases hm : s.mState <;> simp_all [Fits, WillReport]
  | check =>
    simp only [hc, Except.ok.injEq] at hu
    subst hu
    refine h.sender ?_ rfl rfl rfl (by simp [Broken]; grind)
    cases hm : s.mState <;> cases he : s.isLoopEnabled <;> simp_all [Fits, WillReport]
  | pause =>
    simp only [hc, Except.ok.injEq] at hu
    subst hu
    refine h.sender ?_ rfl rfl rfl (by simp [Broken]; grind)
    cases hm : s.mState <;> cases hp : s.isLoopPaused <;> simp_all [Fits, WillReport]
  | report =>
    simp only [hc, Except.ok.injEq] at hu
    subst hu
    refine sound_of_not_busy ?_ (h.not_busy (.inl hc))
    cases hm : s.mState <;> simp_all [Fits, WillReport]
  | wait =>
    simp only [hc, Except.ok.injEq] at hu
    subst hu
    refine h.sender ?_ rfl rfl rfl (by simp [Broken]; grind)
    cases hm : s.mState <;> cases hp : s.isLoopPaused <;> simp_all [Fits, WillReport]
  | waiting => simp [hc] at hu
  | resumed =>
    simp only [hc] at hu
    split_ifs at hu with hg
    · obtain rfl := Except.ok.inj hu
      refine h.sender ?_ rfl rfl rfl (by simp [Broken]; grind)
      cases hm : s.mState <;> simp_all [Fits, WillReport]
    · cases hm : s.mState <;> simp_all [Fits, WillReport]
  | reactivate =>
    simp only [hc, Except.ok.injEq] at hu
    subst hu
    refine sound_of_not_busy ?_ (h.not_busy (.inr hc))
    cases hm : s.mState <;> simp_all [Fits, WillReport]
  | dequeue => simp [hc] at hu
  | repause =>
    simp only [hc, Except.ok.injEq] at hu
    subst hu
    refine h.sender ?_ rfl rfl rfl (by simp [Broken]; grind)
    cases hm : s.mState <;> cases hp : s.isLoopPaused <;> simp_all [Fits, WillReport]
  | readState =>
    simp only [hc] at hu
    split_ifs at hu with hconnecting hactive
    all_goals
      obtain rfl := Except.ok.inj hu
      refine h.sender ?_ rfl rfl rfl (by simp [Broken]; grind)
      cases hm : s.mState <;> simp_all [Fits, WillReport]
  | sending => simp [hc] at hu
  | refused => simp [hc] at hu
  | disabling =>
    simp only [hc, Except.ok.injEq] at hu
    subst hu
    refine h.sender ?_ rfl rfl rfl (by simp [Broken, hc])
    cases hm : s.mState <;> simp_all [Fits, WillReport]
  | unpausing =>
    simp only [hc, Except.ok.injEq] at hu
    subst hu
    have hp : s.isLoopPaused = false := by
      cases hm : s.mState <;> simp_all [Fits, WillReport]
    refine h.sender ?_ rfl rfl hp.symm (by simp [Broken, hc])
    cases hm : s.mState <;> simp_all [Fits, WillReport]

/-- No call passes its check while another is busy. -/
theorem sound_begin (h : Sound s) (hothers : ∀ d, ¬ Busy (s.calls d))
    (hknows : Knows s point) (hgoing : s.mState ≠ .kGoingSleeping) : Sound (s.goTo call point) := by
  refine sound_goTo ?_ hknows fun d _ => hothers d
  have hfits := h.fits
  cases hm : s.mState <;> simp only [Fits, hm] at hfits
  case kGoingSleeping => exact absurd hm hgoing
  all_goals
    simp only [Fits, goTo, hm]
    exact hfits

theorem sound_step {l : SleepStep} (h : Sound s) (hl : Steady s l) (hs : step s l = .ok t) :
    Sound t := by
  have hfits := h.fits
  cases l with
  | sleep call =>
    simp only [step] at hs
    split_ifs at hs with hidle hactive
    · obtain rfl := Except.ok.inj hs
      obtain ⟨hunbroken, hothers⟩ := hl hactive
      exact sound_begin h hothers ⟨hactive, hunbroken⟩ (by simp [hactive])
    · exact Except.ok.inj hs ▸ h
  | wakeUp call =>
    simp only [step] at hs
    split_ifs at hs with hidle hsleeping
    · obtain rfl := Except.ok.inj hs
      exact sound_begin h (hl hsleeping) hsleeping (by simp [hsleeping])
    · exact Except.ok.inj hs ▸ h
  | proceed call => exact sound_proceed h hs
  | sender => exact sound_senderStep h hs
  | wakes =>
    obtain ⟨u, hu, rfl⟩ := senderStep_ok hs
    cases hc : s.sender <;> simp only [SenderThread.wake, hc, reduceCtorEq, Except.ok.injEq] at hu
    case disabled =>
      subst hu
      refine h.sender ?_ rfl rfl rfl (by simp [Broken]; grind)
      cases hm : s.mState <;> simp_all [Fits, WillReport]
    case waiting =>
      have hp : s.isLoopPaused = false := hl hc
      subst hu
      refine h.sender ?_ rfl rfl rfl (by simp [Broken]; grind)
      cases hm : s.mState <;> simp_all [Fits, WillReport]
  | dequeued isSegment =>
    simp only [step] at hs
    split_ifs at hs with hc hseg
    all_goals
      obtain rfl := Except.ok.inj hs
      refine h.sender ?_ rfl rfl rfl (by simp [Broken]; grind)
      cases hm : s.mState <;> simp_all [Fits, WillReport]
  | sent res errno =>
    simp only [step] at hs
    split_ifs at hs with hc hleft
    · obtain rfl := Except.ok.inj hs
      obtain ⟨hactive, hothers⟩ := hl hleft
      refine sound_of_not_busy ?_ hothers
      simp only [Fits, hactive] at hfits ⊢
      exact ⟨hfits.1, nofun, .inr (.inl trivial)⟩
    · obtain rfl := Except.ok.inj hs
      refine h.sender ?_ rfl rfl rfl (by simp [Broken]; grind)
      cases hm : s.mState <;> rcases hc with hc | hc <;> simp_all [Fits, WillReport]

def connected : SleepCycle := ⟨⟨.kActive, true, false, .disabled⟩, fun _ => .idle⟩

theorem sound_connected : Sound connected := by
  refine ⟨⟨rfl, nofun, .inl trivial⟩, fun _ => trivial, ?_⟩
  rintro c d hc
  cases hc

/-- A `sleep` from its check to the report of the sender thread. -/
def sleepRun : List SleepStep :=
  [.sender, .sleep 0, .proceed 0, .proceed 0, .proceed 0, .proceed 0, .sender, .sender, .sender]

theorem steady_sleepRun : Runs.AllSteps step Steady connected sleepRun := by
  intro s₁ h₁
  cases h₁
  refine ⟨trivial, fun s₂ h₂ => ?_⟩
  cases h₂
  refine ⟨fun _ => ⟨by simp [Broken, connected], fun _ hb => hb⟩, ?_⟩
  exact Runs.AllSteps.of_labels (by simp +contextual [Steady]) _

end SleepCycle

end Linux
end VirtualConnection
