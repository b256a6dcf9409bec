import VirtualConnection.Linux.SegmentQueue

/-!
# Linux.WaitReceiving

`wait_receiving` against the enqueues of received segments. `SegmentManager::enqueue` holds the lock of
its dequeue type to the end, `check_receiving_done` included, so at most one check of each type is under
way; an enqueue of a segment to send makes a check too. A check reads the two expected numbers one
after the other under `mWaitReceivingMutex`, and notifies and resets the flag without it.

`wait_receiving` is called by one thread, any number of times. `std::condition_variable::wait` may
return at any time. `returned` says whether every announced segment had been enqueued then; no code
reads it.

`wait_exact`: the wait lasts as long as it should, in the runs whose steps are all `Careful`.
-/

namespace VirtualConnection
namespace Linux

namespace SegmentQueue

variable {α : Type} {seqNo : α → UInt32} {q : SegmentQueue α} {seg : α}

theorem drainPending_expected (pending : List α) : ∀ (b : Bool) (q : SegmentQueue α),
    q.mExpectedSeqNo.toNat + pending.length < 2 ^ 32 →
      q.mExpectedSeqNo ≤ (drainPending seqNo b q pending).2.mExpectedSeqNo := by
  induction pending with
  | nil => exact fun b q _ => UInt32.le_refl _
  | cons curr rest ih =>
    intro b q hn
    rw [List.length_cons] at hn
    rw [drainPending]
    split
    · have he : (q.pushMain curr).mExpectedSeqNo.toNat = q.mExpectedSeqNo.toNat + 1 :=
        toNat_succ (Nat.le_refl _) (by omega)
      refine UInt32.le_trans ?_ (ih true (q.pushMain curr) (by omega))
      rw [UInt32.le_iff_toNat_le]
      omega
    · exact UInt32.le_refl _

/-- The expected number grows, unless it is close to its wrap. -/
theorem enqueue_expected {b : Bool} {q' : SegmentQueue α} (h : enqueue seqNo q seg = .ok (b, q'))
    (hn : q.mExpectedSeqNo.toNat + q.mPendingQueue.length + 1 < 2 ^ 32) :
    q.mExpectedSeqNo ≤ q'.mExpectedSeqNo := by
  rcases enqueue_ok h with ⟨-, hr⟩ | ⟨-, pending, hp, hr⟩
  · obtain rfl := congrArg Prod.snd hr
    have he : (q.pushMain seg).mExpectedSeqNo.toNat = q.mExpectedSeqNo.toNat + 1 :=
      toNat_succ (Nat.le_refl _) (by omega)
    refine UInt32.le_trans ?_ (drainPending_expected _ true (q.pushMain seg) (by omega))
    rw [UInt32.le_iff_toNat_le]
    omega
  · obtain rfl := congrArg Prod.snd hr
    have hlength : pending.length = q.mPendingQueue.length + 1 :=
      (insertPending_perm hp).length_eq
    exact drainPending_expected _ _ _ (by omega)

end SegmentQueue

/-- How far an `enqueue` has come in `check_receiving_done`. -/
inductive CheckPoint where
  | outside
  /-- The segment is in its queue, and the check comes next. -/
  | enqueued
  /-- It holds the mutex and has read the expected number of the control queue. -/
  | readControl (expectedSeqNoControl : UInt32)
  /-- `is_wakeup` is true; `notify_all` comes next. -/
  | wakeUp
  /-- The flag is reset next. -/
  | notified
  deriving DecidableEq, Repr

/-- Where the thread that calls `wait_receiving` is. -/
inductive WaiterPoint where
  | outside
  | blocked
  | notified
  | returned (isComplete : Bool)
  deriving DecidableEq, Repr

/-- The two receive queues are told apart by `is_control`. -/
structure WaitReceiving (α : Type) where
  recvQueues : Bool → SegmentQueue α
  mIsWaitReceiving : Bool
  mWaitSeqNoControl : UInt32
  mWaitSeqNoData : UInt32
  checks : SegDequeueType → CheckPoint
  waiter : WaiterPoint

inductive WaitStep (α : Type) where
  /-- A received segment is put into its queue. -/
  | enqueue (isControl : Bool) (seg : α)
  /-- A segment to send is put into its queue. -/
  | enqueueSend
  /-- The next step of a check. -/
  | proceed (type : SegDequeueType)
  | waitReceiving (waitSeqNoControl waitSeqNoData : UInt32)
  /-- The wait returns. -/
  | returns

def recvDequeueType (isControl : Bool) : SegDequeueType :=
  if isControl then .kDeqRecvControl else .kDeqRecvData

namespace WaitReceiving

variable {α : Type} (seqNo : α → UInt32) (s : WaitReceiving α)

def expectedSeqNo (isControl : Bool) : UInt32 := (s.recvQueues isControl).getExpectedSeqNo

def SomeCheck (p : CheckPoint → Prop) : Prop :=
  p (s.checks .kDeqSendControlData) ∨ p (s.checks .kDeqRecvData) ∨ p (s.checks .kDeqRecvControl)

def HoldsMutex : CheckPoint → Prop
  | .readControl _ => True
  | _ => False

instance : DecidablePred HoldsMutex
  | .readControl _ => .isTrue trivial
  | .outside | .enqueued | .wakeUp | .notified => .isFalse id

instance {p : CheckPoint → Prop} [DecidablePred p] : Decidable (s.SomeCheck p) :=
  inferInstanceAs (Decidable (_ ∨ _ ∨ _))

theorem someCheck_iff {p : CheckPoint → Prop} : s.SomeCheck p ↔ ∃ type, p (s.checks type) := by
  constructor
  · rintro (h | h | h)
    · exact ⟨_, h⟩
    · exact ⟨_, h⟩
    · exact ⟨_, h⟩
  · rintro ⟨type, h⟩
    cases type with
    | kDeqSendControlData => exact .inl h
    | kDeqRecvData => exact .inr (.inl h)
    | kDeqRecvControl => exact .inr (.inr h)

/-- Every announced segment has been enqueued. -/
def Complete : Prop :=
  s.expectedSeqNo true > s.mWaitSeqNoControl ∧ s.expectedSeqNo false > s.mWaitSeqNoData

instance : Decidable s.Complete := inferInstanceAs (Decidable (_ ∧ _))

def goTo (type : SegDequeueType) (point : CheckPoint) : WaitReceiving α :=
  { s with checks := Function.update s.checks type point }

def proceed (type : SegDequeueType) : Except Stop (WaitReceiving α) :=
  match s.checks type with
  | .outside => .error .waiting
  | .enqueued =>
    if s.SomeCheck HoldsMutex then .error .waiting
    else .ok (s.goTo type (.readControl (s.expectedSeqNo true)))
  | .readControl expectedSeqNoControl =>
    .ok (s.goTo type
      (if s.mIsWaitReceiving ∧ expectedSeqNoControl ≥ s.mWaitSeqNoControl ∧
          s.expectedSeqNo false ≥ s.mWaitSeqNoData then .wakeUp else .outside))
  | .wakeUp =>
    .ok ((if s.waiter = .blocked then { s with waiter := .notified } else s).goTo type .notified)
  | .notified => .ok ({ s with mIsWaitReceiving := false }.goTo type .outside)

def step : WaitReceiving α → WaitStep α → Except Stop (WaitReceiving α)
  | s, .enqueue isControl seg =>
    if s.checks (recvDequeueType isControl) = .outside then
      match (s.recvQueues isControl).enqueue seqNo seg with
      | .ok (_, q) =>
        .ok ({ s with recvQueues := Function.update s.recvQueues isControl q }.goTo
          (recvDequeueType isControl) .enqueued)
      | .error f => .error (.fault f)
    else .error .waiting
  | s, .enqueueSend =>
    if s.checks .kDeqSendControlData = .outside then .ok (s.goTo .kDeqSendControlData .enqueued)
    else .error .waiting
  | s, .proceed type => s.proceed type
  | s, .waitReceiving waitSeqNoControl waitSeqNoData =>
    if s.SomeCheck HoldsMutex ∨ s.waiter = .blocked ∨ s.waiter = .notified then .error .waiting
    else
      .ok { s with
        mIsWaitReceiving := true
        mWaitSeqNoControl := waitSeqNoControl
        mWaitSeqNoData := waitSeqNoData
        waiter := .blocked }
  | s, .returns =>
    if s.SomeCheck HoldsMutex then .error .waiting
    else if s.waiter = .blocked ∨ s.waiter = .notified then
      .ok { s with waiter := .returned (decide s.Complete) }
    else .error .waiting

def init : WaitReceiving α where
  recvQueues _ := SegmentQueue.empty
  mIsWaitReceiving := false
  mWaitSeqNoControl := 0
  mWaitSeqNoData := 0
  checks _ := .outside
  waiter := .outside

/-! ## What a careful run keeps -/

section

variable {seqNo} {s}

/-- A check under way will notify. -/
def Due (s : WaitReceiving α) : CheckPoint → Prop
  | .enqueued => s.mIsWaitReceiving = true
  | .readControl expectedSeqNoControl => s.mIsWaitReceiving = true ∧
      expectedSeqNoControl ≥ s.mWaitSeqNoControl ∧ s.expectedSeqNo false ≥ s.mWaitSeqNoData
  | .wakeUp => True
  | .outside | .notified => False

/-- The caller stays blocked exactly as long as it should. -/
structure Exact (s : WaitReceiving α) : Prop where
  blocked : s.waiter = .blocked → s.Complete → ∃ type, s.Due (s.checks type)
  returned : s.waiter ≠ .returned false

def NotStarted : CheckPoint → Prop
  | .outside | .enqueued => True
  | _ => False

instance : DecidablePred NotStarted
  | .outside | .enqueued => .isTrue trivial
  | .readControl _ | .wakeUp | .notified => .isFalse id

/-- A step that keeps clear of the comparisons at the boundary, of the check that `wait_receiving` does
not make, of a reset that comes late, of a wait that returns by itself and of a wrap. -/
def Careful (s : WaitReceiving α) : WaitStep α → Prop
  | .enqueue isControl _ => s.waiter = .blocked ∨ s.waiter = .notified →
      (s.expectedSeqNo isControl).toNat + (s.recvQueues isControl).mPendingQueue.length + 1 < 2 ^ 32
  | .enqueueSend => True
  | .proceed type => HoldsMutex (s.checks type) → s.waiter = .blocked →
      s.expectedSeqNo true ≥ s.mWaitSeqNoControl → s.expectedSeqNo false ≥ s.mWaitSeqNoData →
        s.Complete
  | .waitReceiving waitSeqNoControl waitSeqNoData =>
    ¬ s.SomeCheck (fun point => ¬ NotStarted point) ∧
      (s.expectedSeqNo true > waitSeqNoControl → s.expectedSeqNo false > waitSeqNoData →
        s.SomeCheck (· = .enqueued))
  | .returns => s.waiter = .blocked → s.Complete

/-- The number that a check has read may be old; then the control queue's own check is to come. -/
def Recent (s : WaitReceiving α) (type : SegDequeueType) : CheckPoint → Prop
  | .readControl expectedSeqNoControl => expectedSeqNoControl ≤ s.expectedSeqNo true ∧
      (expectedSeqNoControl < s.expectedSeqNo true →
        type ≠ .kDeqRecvControl ∧ s.checks .kDeqRecvControl = .enqueued)
  | _ => True

structure Waits (s : WaitReceiving α) : Prop where
  flag : s.mIsWaitReceiving = true
  reset : ∀ type, s.checks type ≠ .notified
  wakeUp : ∀ type, s.checks type = .wakeUp → s.Complete
  recent : ∀ type, s.Recent type (s.checks type)
  due : s.Complete → ∃ type, s.Due (s.checks type)

def Inv (s : WaitReceiving α) : Prop :=
  match s.waiter with
  | .outside => True
  | .blocked => s.Waits
  | .notified => s.Complete
  | .returned isComplete => isComplete = true

theorem Inv.exact (h : s.Inv) : s.Exact := by
  refine ⟨fun hb hc => ?_, fun hr => ?_⟩
  · rw [Inv, hb] at h
    exact h.due hc
  · rw [Inv, hr] at h
    cases h

/-! ### One step -/

variable {s' : WaitReceiving α}

@[simp] theorem goTo_checks_self (type : SegDequeueType) (point : CheckPoint) :
    (s.goTo type point).checks type = point := by
  simp [goTo]

@[simp] theorem goTo_checks_of_ne {type t : SegDequeueType} (point : CheckPoint) (h : t ≠ type) :
    (s.goTo type point).checks t = s.checks t := by
  simp [goTo, h]

/-- What one check's step asks of all checks. -/
theorem forall_checks {P : SegDequeueType → CheckPoint → Prop} {type : SegDequeueType}
    {point : CheckPoint} (hchecks : s'.checks = Function.update s.checks type point)
    (hself : P type point) (hother : ∀ t, t ≠ type → P t (s.checks t)) (t : SegDequeueType) :
    P t (s'.checks t) := by
  rw [hchecks]
  exact (Function.forall_update_iff s.checks P).mpr ⟨hself, hother⟩ t

/-- A new check of `type` is under way, and the expected numbers have not gone down. -/
theorem Waits.enqueued (h : s.Waits) {type : SegDequeueType} (hout : s.checks type = .outside)
    (hflag : s'.mIsWaitReceiving = s.mIsWaitReceiving)
    (hchecks : s'.checks = Function.update s.checks type .enqueued)
    (hcontrol : s'.mWaitSeqNoControl = s.mWaitSeqNoControl)
    (hdata : s'.mWaitSeqNoData = s.mWaitSeqNoData)
    (hle : ∀ isControl, s.expectedSeqNo isControl ≤ s'.expectedSeqNo isControl)
    (hown : s.expectedSeqNo true < s'.expectedSeqNo true → type = .kDeqRecvControl) : s'.Waits := by
  have hself : s'.checks type = .enqueued := by simp [hchecks]
  have hcomplete : s.Complete → s'.Complete := fun hc =>
    ⟨hcontrol ▸ UInt32.lt_of_lt_of_le hc.1 (hle true), hdata ▸ UInt32.lt_of_lt_of_le hc.2 (hle false)⟩
  -- a check that is to come stays so
  have henqueued : ∀ t, s.checks t = .enqueued → s'.checks t = .enqueued := by
    intro t ht
    by_cases hne : t = type
    · rw [hne, hself]
    · simpa [hchecks, hne] using ht
  have hrecent : ∀ t, t ≠ type → s'.Recent t (s.checks t) := by
    intro t hne
    have ht := h.recent t
    cases hpoint : s.checks t with
    | readControl v =>
      rw [hpoint] at ht
      obtain ⟨hv, hold⟩ := ht
      refine ⟨UInt32.le_trans hv (hle true), fun hlt => ?_⟩
      by_cases hgrown : s.expectedSeqNo true < s'.expectedSeqNo true
      · have htype := hown hgrown
        subst htype
        exact ⟨hne, hself⟩
      · have hlt' : v < s.expectedSeqNo true := by
          simp only [UInt32.lt_iff_toNat_lt] at hgrown hlt ⊢
          omega
        obtain ⟨ht, hcheck⟩ := hold hlt'
        exact ⟨ht, henqueued _ hcheck⟩
    | _ => trivial
  have hdue : s'.Due (s'.checks type) := by
    rw [hself]
    exact hflag.trans h.flag
  refine ⟨hflag.trans h.flag, ?_, ?_, forall_checks hchecks trivial hrecent, fun _ => ⟨type, hdue⟩⟩
  · exact forall_checks (P := fun _ point => point ≠ .notified) hchecks (by simp) fun t _ => h.reset t
  · exact forall_checks (P := fun _ point => point = .wakeUp → s'.Complete) hchecks (by simp)
      fun t _ ht => hcomplete (h.wakeUp t ht)

theorem enqueue_inv {isControl : Bool} {seg : α} (h : s.Inv)
    (hl : s.Careful (.enqueue isControl seg))
    (hs : step seqNo s (.enqueue isControl seg) = .ok s') : s'.Inv := by
  simp only [step] at hs
  split at hs
  · rename_i hout
    cases hq : (s.recvQueues isControl).enqueue seqNo seg with
    | error f =>
      rw [hq] at hs
      cases hs
    | ok r =>
      rw [hq] at hs
      obtain rfl := Except.ok.inj hs
      have hgrow : s.waiter = .blocked ∨ s.waiter = .notified → ∀ c, s.expectedSeqNo c ≤
          (Function.update s.recvQueues isControl r.2 c).getExpectedSeqNo := by
        intro hwaits c
        by_cases hc : c = isControl
        · subst hc
          rw [Function.update_self]
          exact SegmentQueue.enqueue_expected hq (hl hwaits)
        · rw [Function.update_of_ne hc]
          exact UInt32.le_refl _
      cases hw : s.waiter with
      | outside => simp [Inv, goTo]
      | returned b => simpa [Inv, goTo, hw] using h
      | blocked =>
        simp only [Inv, goTo, hw] at h ⊢
        refine h.enqueued hout rfl rfl rfl rfl (hgrow (.inl hw)) fun hlt => ?_
        cases isControl with
        | true => rfl
        | false => exact absurd hlt (UInt32.lt_irrefl _)
      | notified =>
        simp only [Inv, goTo, hw] at h ⊢
        have hle := hgrow (.inr hw)
        exact ⟨UInt32.lt_of_lt_of_le h.1 (hle true), UInt32.lt_of_lt_of_le h.2 (hle false)⟩
  · cases hs

theorem enqueueSend_inv (h : s.Inv) (hs : step seqNo s .enqueueSend = .ok s') : s'.Inv := by
  simp only [step] at hs
  split at hs
  · rename_i hout
    obtain rfl := Except.ok.inj hs
    cases hw : s.waiter with
    | outside => simp [Inv, goTo, hw]
    | returned b => simpa [Inv, goTo, hw] using h
    | blocked =>
      simp only [Inv, goTo, hw] at h ⊢
      exact h.enqueued hout rfl rfl rfl rfl (fun _ => UInt32.le_refl _)
        fun hlt => absurd hlt (UInt32.lt_irrefl _)
    | notified =>
      simp only [Inv, goTo, hw] at h ⊢
      exact h
  · cases hs

/-- A check takes the mutex and reads the first number. -/
theorem Waits.read (h : s.Waits) {type : SegDequeueType} (hfree : ¬ s.SomeCheck HoldsMutex) :
    (s.goTo type (.readControl (s.expectedSeqNo true))).Waits := by
  have hnone : ∀ t v, s.checks t ≠ .readControl v := by
    intro t v ht
    have hholds : HoldsMutex (s.checks t) := by
      rw [ht]
      trivial
    exact hfree (s.someCheck_iff.mpr ⟨t, hholds⟩)
  refine ⟨h.flag, ?_, ?_, ?_, fun hc => ⟨type, ?_⟩⟩
  · exact forall_checks (P := fun _ point => point ≠ .notified) rfl (by simp) fun t _ => h.reset t
  · exact forall_checks (P := fun _ point => point = .wakeUp → s.Complete) rfl (by simp)
      fun t _ => h.wakeUp t
  · refine forall_checks rfl ⟨UInt32.le_refl _, fun hlt => absurd hlt (UInt32.lt_irrefl _)⟩ ?_
    intro t _
    cases hpoint : s.checks t with
    | readControl v => exact absurd hpoint (hnone t v)
    | _ => trivial
  · rw [goTo_checks_self]
    exact ⟨h.flag, UInt32.le_of_lt hc.1, UInt32.le_of_lt hc.2⟩

/-- When a check decides, the others keep what they have read. -/
theorem Waits.recent_goTo (h : s.Waits) {type t : SegDequeueType} (point : CheckPoint)
    (htype : s.checks type ≠ .enqueued) : (s.goTo type point).Recent t (s.checks t) := by
  have ht := h.recent t
  cases hp : s.checks t with
  | readControl v =>
    rw [hp] at ht
    refine ⟨ht.1, fun hlt => ?_⟩
    obtain ⟨hne, hcheck⟩ := ht.2 hlt
    have hother : SegDequeueType.kDeqRecvControl ≠ type := fun heq => htype (heq ▸ hcheck)
    exact ⟨hne, (goTo_checks_of_ne _ hother).trans hcheck⟩
  | _ => trivial

/-- A check reads the second number and decides. -/
theorem Waits.decide (h : s.Waits) {type : SegDequeueType} {v : UInt32}
    (hpoint : s.checks type = .readControl v)
    (hl : s.expectedSeqNo true ≥ s.mWaitSeqNoControl → s.expectedSeqNo false ≥ s.mWaitSeqNoData →
      s.Complete) :
    (s.goTo type (if s.mIsWaitReceiving ∧ v ≥ s.mWaitSeqNoControl ∧
      s.expectedSeqNo false ≥ s.mWaitSeqNoData then .wakeUp else .outside)).Waits := by
  have hread := h.recent type
  rw [hpoint] at hread
  obtain ⟨hv, hold⟩ := hread
  have htype : s.checks type ≠ .enqueued := by simp [hpoint]
  have hreset : ∀ point : CheckPoint, point ≠ .notified →
      ∀ t, (s.goTo type point).checks t ≠ .notified := fun point hp =>
    forall_checks (P := fun _ point => point ≠ .notified) rfl hp fun t _ => h.reset t
  split
  · rename_i hdecided
    obtain ⟨-, hcontrol, hdata⟩ := hdecided
    have hcomplete : s.Complete := hl (UInt32.le_trans hcontrol hv) hdata
    refine ⟨h.flag, hreset _ (by simp), fun _ _ => hcomplete, ?_, fun _ => ⟨type, ?_⟩⟩
    · exact forall_checks rfl trivial fun t _ => h.recent_goTo _ htype
    · rw [goTo_checks_self]
      trivial
  · rename_i hundecided
    refine ⟨h.flag, hreset _ (by simp), ?_, ?_, fun hc => ?_⟩
    · exact forall_checks (P := fun _ point => point = .wakeUp → s.Complete) rfl (by simp)
        fun t _ => h.wakeUp t
    · exact forall_checks rfl trivial fun t _ => h.recent_goTo _ htype
    · -- the data queue was complete, so the control queue has grown behind the reader's back
      have hlt : v < s.expectedSeqNo true := by
        by_contra hge
        refine hundecided ⟨h.flag, ?_, UInt32.le_of_lt hc.2⟩
        exact UInt32.le_trans (UInt32.le_of_lt hc.1) (UInt32.not_lt.mp hge)
      obtain ⟨hne, hcheck⟩ := hold hlt
      refine ⟨.kDeqRecvControl, ?_⟩
      rw [goTo_checks_of_ne _ (Ne.symm hne), hcheck]
      exact h.flag

/-- A check does nothing to a caller that is not blocked. -/
theorem proceed_frame {type : SegDequeueType} (hw : s.waiter ≠ .blocked)
    (hs : s.proceed type = .ok s') : s'.waiter = s.waiter ∧ (s.Complete → s'.Complete) := by
  unfold proceed at hs
  cases hpoint : s.checks type <;> rw [hpoint] at hs
  case outside => cases hs
  case enqueued =>
    dsimp only at hs
    split at hs
    · cases hs
    · obtain rfl := Except.ok.inj hs
      exact ⟨rfl, id⟩
  case wakeUp =>
    obtain rfl := Except.ok.inj hs
    rw [if_neg hw]
    exact ⟨rfl, id⟩
  case readControl | notified =>
    obtain rfl := Except.ok.inj hs
    exact ⟨rfl, id⟩

theorem proceed_inv {type : SegDequeueType} (h : s.Inv) (hl : s.Careful (.proceed type))
    (hs : s.proceed type = .ok s') : s'.Inv := by
  cases hw : s.waiter with
  | outside =>
    have hframe := proceed_frame (by simp [hw]) hs
    simp [Inv, hframe.1, hw]
  | returned b =>
    have hframe := proceed_frame (by simp [hw]) hs
    simpa [Inv, hframe.1, hw] using h
  | notified =>
    have hframe := proceed_frame (by simp [hw]) hs
    simp only [Inv, hframe.1, hw] at h ⊢
    exact hframe.2 h
  | blocked =>
    unfold proceed at hs
    have hwaits : s.Waits := by simpa only [Inv, hw] using h
    cases hpoint : s.checks type <;> rw [hpoint] at hs
    case outside => cases hs
    case enqueued =>
      dsimp only at hs
      split at hs
      · cases hs
      · rename_i hfree
        obtain rfl := Except.ok.inj hs
        simpa only [Inv, goTo, hw] using hwaits.read hfree
    case readControl v =>
      obtain rfl := Except.ok.inj hs
      have hholds : HoldsMutex (s.checks type) := by
        rw [hpoint]
        trivial
      simpa only [Inv, goTo, hw] using hwaits.decide hpoint (hl hholds hw)
    case wakeUp =>
      obtain rfl := Except.ok.inj hs
      rw [if_pos hw]
      exact hwaits.wakeUp type hpoint
    case notified => exact absurd hpoint (hwaits.reset type)

theorem waitReceiving_inv {control data : UInt32} (hl : s.Careful (.waitReceiving control data))
    (hs : step seqNo s (.waitReceiving control data) = .ok s') : s'.Inv := by
  simp only [step] at hs
  split at hs
  · cases hs
  · obtain rfl := Except.ok.inj hs
    obtain ⟨hstarted, hpending⟩ := hl
    have hnotStarted : ∀ t, NotStarted (s.checks t) := by
      intro t
      by_contra ht
      exact hstarted (s.someCheck_iff.mpr ⟨t, ht⟩)
    refine ⟨rfl, fun t ht => ?_, fun t ht => ?_, fun t => ?_, fun hc => ?_⟩
    · have hn := hnotStarted t
      rw [show s.checks t = .notified from ht] at hn
      exact hn
    · have hn := hnotStarted t
      rw [show s.checks t = .wakeUp from ht] at hn
      exact hn.elim
    · have hn := hnotStarted t
      dsimp only
      cases hp : s.checks t with
      | readControl v =>
        rw [hp] at hn
        exact hn.elim
      | _ => trivial
    · obtain ⟨t, ht⟩ := s.someCheck_iff.mp (hpending hc.1 hc.2)
      refine ⟨t, ?_⟩
      rw [show (s.checks t) = .enqueued from ht]
      rfl

theorem returns_inv (h : s.Inv) (hl : s.Careful .returns) (hs : step seqNo s .returns = .ok s') :
    s'.Inv := by
  simp only [step] at hs
  split at hs
  · cases hs
  · split at hs
    · rename_i hw
      obtain rfl := Except.ok.inj hs
      refine decide_eq_true ?_
      rcases hw with hw | hw
      · exact hl hw
      · simpa only [Inv, hw] using h
    · cases hs

theorem inv_step {l : WaitStep α} (h : s.Inv) (hl : s.Careful l) (hs : step seqNo s l = .ok s') :
    s'.Inv := by
  cases l with
  | enqueue isControl seg => exact enqueue_inv h hl hs
  | enqueueSend => exact enqueueSend_inv h hs
  | proceed type => exact proceed_inv h hl hs
  | waitReceiving control data => exact waitReceiving_inv hl hs
  | returns => exact returns_inv h hl hs

end

/-! ## Runs -/

instance (s : WaitReceiving α) : DecidablePred s.Careful
  | .enqueue .. => inferInstanceAs (Decidable (_ → _))
  | .enqueueSend => .isTrue trivial
  | .proceed _ => inferInstanceAs (Decidable (_ → _ → _ → _ → _))
  | .waitReceiving .. => inferInstanceAs (Decidable (_ ∧ _))
  | .returns => inferInstanceAs (Decidable (_ → _))

theorem inv_init : (init : WaitReceiving α).Inv := trivial

theorem wait_exact {ls : List (WaitStep α)} {t : WaitReceiving α}
    (h : Runs.AllSteps (step seqNo) Careful init ls)
    (ht : Runs.Reached (step seqNo) init ls t) : t.Exact :=
  (Runs.throughout_of_allSteps (fun _ _ _ => inv_step) inv_init h ht).exact

/-- The data segment 0 comes before the call, the control segment 0 after it. -/
def controlLast : List (WaitStep UInt32) :=
  [.enqueue false 0, .proceed .kDeqRecvData, .proceed .kDeqRecvData, .waitReceiving 0 0,
    .enqueue true 0, .proceed .kDeqRecvControl, .proceed .kDeqRecvControl,
    .proceed .kDeqRecvControl, .returns]

theorem wait_exact_controlLast : ∃ t, Runs.run (step id) init controlLast = .ok t ∧
    t.waiter = .returned true ∧ t.Exact := by
  obtain ⟨t, ht, hwaiter⟩ : ∃ t, Runs.run (step id) init controlLast = .ok t ∧
      t.waiter = .returned true :=
    Runs.exists_run_of_view (fun t : WaitReceiving UInt32 => t.waiter) (by decide +kernel)
  exact ⟨t, ht, hwaiter, wait_exact id (by decide +kernel) (.of_run ht)⟩

/-- The data segment 0 is missing when the wait is released. -/
def releasedEarly : List (WaitStep UInt32) :=
  [.waitReceiving 0 0, .enqueue true 0, .proceed .kDeqRecvControl, .proceed .kDeqRecvControl,
    .proceed .kDeqRecvControl, .returns]

/-- Both segments have been checked when `wait_receiving` is called. -/
def calledLate : List (WaitStep UInt32) :=
  [.enqueue true 0, .proceed .kDeqRecvControl, .proceed .kDeqRecvControl, .enqueue false 0,
    .proceed .kDeqRecvData, .proceed .kDeqRecvData, .waitReceiving 0 0]

theorem wait_not_exact :
    (∃ t, Runs.Reached (step id) init releasedEarly t ∧ t.waiter = .returned false) ∧
      ∃ t, Runs.Reached (step id) init calledLate t ∧ t.waiter = .blocked ∧ t.Complete ∧
        ∀ type, ¬ t.Due (t.checks type) := by
  constructor
  · obtain ⟨t, ht, hwaiter⟩ : ∃ t, Runs.run (step id) init releasedEarly = .ok t ∧
        t.waiter = .returned false :=
      Runs.exists_run_of_view (fun t : WaitReceiving UInt32 => t.waiter) (by decide +kernel)
    exact ⟨t, .of_run ht, hwaiter⟩
  · obtain ⟨t, ht, hview⟩ : ∃ t, Runs.run (step id) init calledLate = .ok t ∧
        (t.waiter, decide t.Complete, t.checks .kDeqSendControlData, t.checks .kDeqRecvData,
          t.checks .kDeqRecvControl) = (.blocked, true, .outside, .outside, .outside) :=
      Runs.exists_run_of_view (fun t : WaitReceiving UInt32 => (t.waiter, decide t.Complete,
        t.checks .kDeqSendControlData, t.checks .kDeqRecvData, t.checks .kDeqRecvControl))
        (by decide +kernel)
    simp only [Prod.mk.injEq, decide_eq_true_eq] at hview
    obtain ⟨hwaiter, hcomplete, hsend, hdata, hcontrol⟩ := hview
    refine ⟨t, .of_run ht, hwaiter, hcomplete, fun type => ?_⟩
    cases type <;> simp [hsend, hdata, hcontrol, Due]

end WaitReceiving
end Linux
end VirtualConnection
