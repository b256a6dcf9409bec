import Mathlib.Data.Int.Basic
import VirtualConnection.Lib.Resequence
import VirtualConnection.Lib.Runs
import VirtualConnection.Linux.Segment

/-!
# Linux.SegmentQueue

`SegmentQueue.h`: the queue that puts segments back in order of their sequence numbers. The main
queue is what a consumer takes from; segments that come early wait in the pending queue.

The queue stores `Segment *`; here it stores values of any type `α` whose numbers are read by
`seqNo`, so that the same definitions serve for segments by value and for addresses into a heap.
Its length is a `Counter`, an `int`.
-/

namespace VirtualConnection
namespace Linux

open Resequence

structure SegmentQueue (α : Type) where
  mMainQueue : List α
  mPendingQueue : List α
  mQueueLength : Int32
  mExpectedSeqNo : UInt32
  deriving DecidableEq

namespace SegmentQueue

variable {α : Type}

def empty : SegmentQueue α := ⟨[], [], 0, 0⟩

/-- `mExpectedSeqNo++; mMainQueue.push_back(seg); mQueueLength.increase();` -/
def pushMain (q : SegmentQueue α) (seg : α) : SegmentQueue α :=
  { q with
    mExpectedSeqNo := q.mExpectedSeqNo + 1
    mMainQueue := q.mMainQueue ++ [seg]
    mQueueLength := q.mQueueLength + 1 }

/-- The walk over the pending queue: insert before the first larger number, with the assertion
that no number met on the way is the same. -/
def insertPending (seqNo : α → UInt32) (seg : α) : List α → Except Fault (List α)
  | [] => .ok [seg]
  | walker :: rest =>
    if seqNo walker = seqNo seg then .error .assertion
    else if seqNo walker > seqNo seg then .ok (seg :: walker :: rest)
    else
      match insertPending seqNo seg rest with
      | .ok rest' => .ok (walker :: rest')
      | .error f => .error f

/-- The last loop of `enqueue`: move all the consecutive segments into the main queue. The flag is
`continuous_segment_enqueued`. -/
def drainPending (seqNo : α → UInt32) (continuous : Bool) (q : SegmentQueue α) :
    List α → Bool × SegmentQueue α
  | [] => (continuous, { q with mPendingQueue := [] })
  | curr :: rest =>
    if seqNo curr = q.mExpectedSeqNo then drainPending seqNo true (q.pushMain curr) rest
    else (continuous, { q with mPendingQueue := curr :: rest })

def enqueue (seqNo : α → UInt32) (q : SegmentQueue α) (seg : α) :
    Except Fault (Bool × SegmentQueue α) :=
  if seqNo seg = q.mExpectedSeqNo then
    .ok (drainPending seqNo true (q.pushMain seg) q.mPendingQueue)
  else if seqNo seg > q.mExpectedSeqNo then
    match insertPending seqNo seg q.mPendingQueue with
    | .ok pending => .ok (drainPending seqNo false q pending)
    | .error f => .error f
  else .error .assertion

/-- `front()` of an empty list is undefined behaviour. The stored pointers are never null. -/
def dequeue (q : SegmentQueue α) : Except Fault (α × SegmentQueue α) :=
  match q.mMainQueue with
  | [] => .error .emptyFront
  | seg :: rest =>
    .ok (seg, { q with mMainQueue := rest, mQueueLength := q.mQueueLength - 1 })

def getQueueLength (q : SegmentQueue α) : Int := q.mQueueLength.toInt

def getExpectedSeqNo (q : SegmentQueue α) : UInt32 := q.mExpectedSeqNo

/-! ## One operation -/

def key (seqNo : α → UInt32) (seg : α) : ℕ := (seqNo seg).toNat

/-- `taken` has been dequeued so far, the queue holds the rest of what arrived, and the counter
follows the main queue (as an `int`, so modulo `2 ^ 32`). -/
structure Inv (seqNo : α → UInt32) (arrived taken : List α) (q : SegmentQueue α) : Prop where
  inOrder : InOrder (key seqNo) (· < ·) arrived (taken ++ q.mMainQueue) q.mPendingQueue
    q.mExpectedSeqNo.toNat
  length : q.mQueueLength = Int32.ofNat q.mMainQueue.length

variable {seqNo : α → UInt32} {arrived taken : List α} {q : SegmentQueue α} {seg : α}

/-- What a call that does not fail does. -/
theorem enqueue_ok {r : Bool × SegmentQueue α} (h : enqueue seqNo q seg = .ok r) :
    (seqNo seg = q.mExpectedSeqNo ∧
        r = drainPending seqNo true (q.pushMain seg) q.mPendingQueue) ∨
      q.mExpectedSeqNo < seqNo seg ∧ ∃ pending,
        insertPending seqNo seg q.mPendingQueue = .ok pending ∧
        r = drainPending seqNo false q pending := by
  rw [enqueue] at h
  split at h
  · next hdue => exact .inl ⟨hdue, (Except.ok.inj h).symm⟩
  · split at h
    · next hearly =>
      split at h
      · next pending hp => exact .inr ⟨hearly, pending, hp, (Except.ok.inj h).symm⟩
      · cases h
    · cases h

theorem dequeue_eq_ok {q' : SegmentQueue α} : dequeue q = .ok (seg, q') ↔ ∃ rest,
    q.mMainQueue = seg :: rest ∧
      q' = { q with mMainQueue := rest, mQueueLength := q.mQueueLength - 1 } := by
  cases hm : q.mMainQueue with
  | nil => simp [dequeue, hm]
  | cons first rest =>
    simp only [dequeue, hm, Except.ok.injEq, Prod.mk.injEq, List.cons.injEq]
    constructor
    · rintro ⟨rfl, rfl⟩
      exact ⟨rest, ⟨rfl, rfl⟩, rfl⟩
    · rintro ⟨_, ⟨rfl, rfl⟩, rfl⟩
      exact ⟨rfl, rfl⟩

theorem toNat_succ {e : UInt32} {n : ℕ} (h : e.toNat + 1 ≤ n) (hn : n < 2 ^ 32) :
    (e + 1).toNat = e.toNat + 1 := by
  rw [UInt32.toNat_add]
  simp only [UInt32.toNat_one]
  omega

theorem inv_empty : Inv seqNo [] [] (empty : SegmentQueue α) :=
  ⟨InOrder.empty, rfl⟩

/-- A number that is new and larger than all the walked ones finds its place. -/
theorem insertPending_spec (seg : α) (pending : List α)
    (hs : pending.Pairwise fun a b => key seqNo a < key seqNo b)
    (hne : ∀ x ∈ pending, seqNo x ≠ seqNo seg) :
    ∃ pending', insertPending seqNo seg pending = .ok pending' ∧
      pending'.Perm (seg :: pending) ∧
      pending'.Pairwise fun a b => key seqNo a < key seqNo b := by
  induction pending with
  | nil => exact ⟨[seg], rfl, .refl _, by simp⟩
  | cons walker rest ih =>
    have hw : seqNo walker ≠ seqNo seg := hne walker List.mem_cons_self
    by_cases hgt : seqNo walker > seqNo seg
    · refine ⟨seg :: walker :: rest, by simp [insertPending, hw, hgt], .refl _, ?_⟩
      refine List.pairwise_cons.mpr ⟨fun x hx => ?_, hs⟩
      have hgt' : key seqNo seg < key seqNo walker := UInt32.lt_iff_toNat_lt.mp hgt
      rcases List.mem_cons.mp hx with rfl | hx
      · exact hgt'
      · exact hgt'.trans (List.rel_of_pairwise_cons hs hx)
    · obtain ⟨rest', hok, hperm, hsort⟩ :=
        ih hs.of_cons fun x hx => hne x (List.mem_cons_of_mem _ hx)
      refine ⟨walker :: rest', by simp [insertPending, hw, hgt, hok], ?_, ?_⟩
      · exact (hperm.cons walker).trans (.swap seg walker rest)
      · refine List.pairwise_cons.mpr ⟨fun x hx => ?_, hsort⟩
        rcases List.mem_cons.mp (hperm.mem_iff.mp hx) with rfl | hx
        · have hle : key seqNo walker ≤ key seqNo x := by
            have := UInt32.lt_iff_toNat_lt.not.mp hgt
            simpa [key] using this
          have hne' : key seqNo walker ≠ key seqNo x := fun h => hw (UInt32.toNat_inj.mp h)
          omega
        · exact List.rel_of_pairwise_cons hs hx

theorem pushMain_length (h : q.mQueueLength = Int32.ofNat q.mMainQueue.length) :
    (q.pushMain seg).mQueueLength = Int32.ofNat (q.pushMain seg).mMainQueue.length := by
  simp only [pushMain, List.length_append, List.length_singleton, h, Int32.ofNat_add]
  rfl

/-- The last loop: induction on the pending list. `mExpectedSeqNo` cannot wrap because at most
`arrived.length` numbers are released. -/
theorem drainPending_spec (hn : arrived.length < 2 ^ 32) (pending : List α) :
    ∀ (q : SegmentQueue α) (b : Bool),
      Settling (key seqNo) (· < ·) arrived (taken ++ q.mMainQueue) pending q.mExpectedSeqNo.toNat →
      (∀ x ∈ pending, q.mExpectedSeqNo.toNat ≤ key seqNo x) →
      q.mQueueLength = Int32.ofNat q.mMainQueue.length →
      Inv seqNo arrived taken (drainPending seqNo b q pending).2 ∧
        q.mExpectedSeqNo.toNat ≤ (drainPending seqNo b q pending).2.mExpectedSeqNo.toNat ∧
        ((drainPending seqNo b q pending).1 = true ↔
          b = true ∨
            q.mExpectedSeqNo.toNat < (drainPending seqNo b q pending).2.mExpectedSeqNo.toNat) := by
  induction pending with
  | nil =>
    intro q b h _ hl
    have hd : drainPending seqNo b q [] = (b, { q with mPendingQueue := [] }) := rfl
    rw [hd]
    exact ⟨⟨h.settle (fun _ _ => Nat.le_of_lt) (by simp), hl⟩, Nat.le_refl _, by simp⟩
  | cons curr rest ih =>
    intro q b h hge hl
    by_cases hc : seqNo curr = q.mExpectedSeqNo
    · have hkey : key seqNo curr = q.mExpectedSeqNo.toNat := by rw [key, hc]
      have hm := h.move hkey
      have he : (q.pushMain curr).mExpectedSeqNo.toNat = q.mExpectedSeqNo.toNat + 1 :=
        toNat_succ hm.next_le hn
      have hge' : ∀ x ∈ rest, (q.pushMain curr).mExpectedSeqNo.toNat ≤ key seqNo x := by
        intro x hx
        have := List.rel_of_pairwise_cons h.sorted hx
        omega
      obtain ⟨hinv, hle, hb⟩ := ih (q.pushMain curr) true
        (by rw [he]; simpa [pushMain] using hm) hge' (pushMain_length hl)
      have hd : drainPending seqNo b q (curr :: rest) =
          drainPending seqNo true (q.pushMain curr) rest := by
        simp [drainPending, hc]
      rw [hd]
      refine ⟨hinv, by omega, ?_⟩
      rw [hb]
      simp only [true_or, true_iff]
      exact .inr (by omega)
    · have hd : drainPending seqNo b q (curr :: rest) =
          (b, { q with mPendingQueue := curr :: rest }) := by
        simp [drainPending, hc]
      rw [hd]
      refine ⟨⟨h.settle (fun _ _ => Nat.le_of_lt) ?_, hl⟩, Nat.le_refl _, by simp⟩
      -- no waiting number is below the due one, and `curr` is not the due one
      intro y hy
      obtain rfl : curr = y := by simpa using hy
      have h1 := hge curr List.mem_cons_self
      have h2 : key seqNo curr ≠ q.mExpectedSeqNo.toNat := fun he => hc (UInt32.toNat_inj.mp he)
      exact Nat.lt_of_le_of_ne h1 h2.symm

/-- `enqueue` of a number that has not arrived before: no assertion fails, the queue accounts for
one more arrival, and the result says whether the expected number advanced. -/
theorem enqueue_spec (h : Inv seqNo arrived taken q) (hnew : ∀ x ∈ arrived, seqNo x ≠ seqNo seg)
    (hn : arrived.length + 1 < 2 ^ 32) :
    ∃ b q', enqueue seqNo q seg = .ok (b, q') ∧ Inv seqNo (arrived ++ [seg]) taken q' ∧
      q.mExpectedSeqNo.toNat ≤ q'.mExpectedSeqNo.toNat ∧
      (b = true ↔ q.mExpectedSeqNo.toNat < q'.mExpectedSeqNo.toNat) := by
  have hn' : (arrived ++ [seg]).length < 2 ^ 32 := by simpa using hn
  by_cases hc : seqNo seg = q.mExpectedSeqNo
  · -- the right next one
    have hkey : key seqNo seg = q.mExpectedSeqNo.toNat := by rw [key, hc]
    have hs := h.inOrder.accept hkey
    have he : (q.pushMain seg).mExpectedSeqNo.toNat = q.mExpectedSeqNo.toNat + 1 :=
      toNat_succ hs.next_le hn'
    obtain ⟨hinv, hle, hb⟩ := drainPending_spec hn' q.mPendingQueue (q.pushMain seg) true
      (by rw [he]; simpa [pushMain] using hs)
      (fun x hx => by rw [he]; exact h.inOrder.gap x hx) (pushMain_length h.length)
    have hd : enqueue seqNo q seg =
        .ok (drainPending seqNo true (q.pushMain seg) q.mPendingQueue) := by
      simp [enqueue, hc]
    refine ⟨_, _, hd, hinv, by omega, ?_⟩
    rw [hb]
    simp only [true_or, true_iff]
    omega
  · -- an early one: it cannot be a late one because every number below has arrived
    have hgt : seqNo seg > q.mExpectedSeqNo := by
      by_contra hle
      have hlt : key seqNo seg < q.mExpectedSeqNo.toNat := by
        have h1 := UInt32.lt_iff_toNat_lt.not.mp hle
        have h2 : (seqNo seg).toNat ≠ q.mExpectedSeqNo.toNat := fun he => hc (UInt32.toNat_inj.mp he)
        simp only [key]
        omega
      have hmem : key seqNo seg ∈ (taken ++ q.mMainQueue).map (key seqNo) := by
        rw [h.inOrder.out_keys]; exact List.mem_range.mpr hlt
      obtain ⟨x, hx, he⟩ := List.mem_map.mp hmem
      exact hnew x (h.inOrder.sound x (.inl hx)) (UInt32.toNat_inj.mp he)
    obtain ⟨pending, hok, hperm, hsort⟩ := insertPending_spec seg q.mPendingQueue h.inOrder.sorted
      fun x hx => hnew x (h.inOrder.sound x (.inr hx))
    have hdef := h.inOrder.defer (UInt32.lt_iff_toNat_lt.mp hgt) hperm hsort
    obtain ⟨hinv, hle, hb⟩ := drainPending_spec hn' pending q false hdef.toSettling
      (fun x hx => (hdef.gap x hx).le) h.length
    have hd : enqueue seqNo q seg = .ok (drainPending seqNo false q pending) := by
      simp [enqueue, hc, hgt, hok]
    exact ⟨_, _, hd, hinv, hle, by simpa using hb⟩

/-- A number that waits is met on the walk, because the ones before it are smaller. -/
theorem insertPending_duplicate {pending : List α} {x : α}
    (hs : pending.Pairwise fun a b => key seqNo a < key seqNo b) (hx : x ∈ pending)
    (he : seqNo x = seqNo seg) : insertPending seqNo seg pending = .error .assertion := by
  induction pending with
  | nil => cases hx
  | cons walker rest ih =>
    by_cases hw : seqNo walker = seqNo seg
    · simp [insertPending, hw]
    · have hrest : x ∈ rest := (List.mem_cons.mp hx).resolve_left fun h => hw (h ▸ he)
      have hlt : key seqNo walker < key seqNo x := List.rel_of_pairwise_cons hs hrest
      have hgt : ¬ seqNo walker > seqNo seg := by
        rw [← he, gt_iff_lt, UInt32.lt_iff_toNat_lt]
        exact Nat.lt_asymm hlt
      simp [insertPending, hw, hgt, ih hs.of_cons hrest]

/-- `enqueue` of a number that has arrived before. -/
theorem enqueue_duplicate {x : α} (h : Inv seqNo arrived taken q) (hx : x ∈ arrived)
    (he : seqNo x = seqNo seg) : enqueue seqNo q seg = .error .assertion := by
  have hkey : key seqNo x = key seqNo seg := congrArg UInt32.toNat he
  rcases h.inOrder.complete x hx with hlt | ⟨y, hy, hyx⟩
  · rw [hkey] at hlt
    have hne : seqNo seg ≠ q.mExpectedSeqNo := fun heq => by
      rw [key, heq] at hlt
      exact Nat.lt_irrefl _ hlt
    have hngt : ¬ seqNo seg > q.mExpectedSeqNo := by
      rw [gt_iff_lt, UInt32.lt_iff_toNat_lt]
      exact Nat.lt_asymm hlt
    simp [enqueue, hne, hngt]
  · have hgap := h.inOrder.gap y hy
    rw [hyx, hkey] at hgap
    have hne : seqNo seg ≠ q.mExpectedSeqNo := fun heq => by
      rw [key, heq] at hgap
      exact Nat.lt_irrefl _ hgap
    have hgt : seqNo seg > q.mExpectedSeqNo := UInt32.lt_iff_toNat_lt.mpr hgap
    have hpending := insertPending_duplicate h.inOrder.sorted hy
      (UInt32.toNat_inj.mp (hyx.trans hkey))
    simp [enqueue, hne, hgt, hpending]

theorem dequeue_spec {rest : List α} (h : Inv seqNo arrived taken q)
    (hm : q.mMainQueue = seg :: rest) :
    ∃ q', dequeue q = .ok (seg, q') ∧ Inv seqNo arrived (taken ++ [seg]) q' := by
  refine ⟨_, dequeue_eq_ok.mpr ⟨rest, hm, rfl⟩, ?_, ?_⟩
  · simpa [hm] using h.inOrder
  · simp only [h.length, hm, List.length_cons, Int32.ofNat_add]
    exact Int32.add_sub_cancel _ _

/-! ## What the queue holds -/

/-- The segments waiting in the queue, in either list. -/
def segments (q : SegmentQueue α) : List α := q.mMainQueue ++ q.mPendingQueue

theorem insertPending_perm {pending pending' : List α}
    (h : insertPending seqNo seg pending = .ok pending') : pending'.Perm (seg :: pending) := by
  induction pending generalizing pending' with
  | nil => cases h; exact .refl _
  | cons walker rest ih =>
    rw [insertPending] at h
    split at h
    · cases h
    · split at h
      · cases h; exact .refl _
      · cases hr : insertPending seqNo seg rest with
        | error f => rw [hr] at h; cases h
        | ok rest' =>
          rw [hr] at h
          cases h
          exact ((ih hr).cons walker).trans (.swap seg walker rest)

theorem drainPending_segments (pending : List α) : ∀ (b : Bool) (q : SegmentQueue α),
    (drainPending seqNo b q pending).2.segments = q.mMainQueue ++ pending := by
  induction pending with
  | nil => intro b q; rfl
  | cons curr rest ih =>
    intro b q
    rw [drainPending]
    split
    · rw [ih]; simp [pushMain]
    · rfl

theorem enqueue_segments {b : Bool} {q' : SegmentQueue α}
    (h : enqueue seqNo q seg = .ok (b, q')) : q'.segments.Perm (seg :: q.segments) := by
  rcases enqueue_ok h with ⟨-, hr⟩ | ⟨-, pending, hp, hr⟩
  · obtain rfl := congrArg Prod.snd hr
    rw [drainPending_segments]
    simp [pushMain, segments]
  · obtain rfl := congrArg Prod.snd hr
    rw [drainPending_segments]
    exact ((insertPending_perm hp).append_left _).trans List.perm_middle

theorem dequeue_segments {q' : SegmentQueue α} (h : dequeue q = .ok (seg, q')) :
    q.segments = seg :: q'.segments := by
  obtain ⟨rest, hm, rfl⟩ := dequeue_eq_ok.mp h
  simp [segments, hm]

/-! ## The length -/

/-- The counter follows the main queue. -/
def Counted (q : SegmentQueue α) : Prop := q.mQueueLength = Int32.ofNat q.mMainQueue.length

theorem Counted.eq_nil (hq : Counted q) (h : q.getQueueLength = 0)
    (hlt : q.mMainQueue.length < 2 ^ 32) : q.mMainQueue = [] := by
  unfold getQueueLength at h
  rw [hq, Int32.toInt_ofNat', Int.bmod_def, Int32.size] at h
  have hlength : q.mMainQueue.length = 0 := by
    split at h <;> omega
  exact List.length_eq_zero_iff.mp hlength

theorem drainPending_true (pending : List α) : ∀ q : SegmentQueue α,
    (drainPending seqNo true q pending).1 = true := by
  induction pending with
  | nil => exact fun _ => rfl
  | cons curr rest ih =>
    intro q
    rw [drainPending]
    split
    · exact ih _
    · rfl

/-- The last loop moves a segment and says so, or leaves the main queue alone. -/
theorem drainPending_counted (seqNo : α → UInt32) (pending : List α) : ∀ (b : Bool) (q : SegmentQueue α), Counted q →
    Counted (drainPending seqNo b q pending).2 ∧
      ((drainPending seqNo b q pending).1 = false →
        (drainPending seqNo b q pending).2.mMainQueue = q.mMainQueue) := by
  induction pending with
  | nil => exact fun b q h => ⟨h, fun _ => rfl⟩
  | cons curr rest ih =>
    intro b q h
    rw [drainPending]
    split
    · obtain ⟨hc, -⟩ := ih true (q.pushMain curr) (pushMain_length h)
      exact ⟨hc, fun hb => nomatch (drainPending_true rest _).symm.trans hb⟩
    · exact ⟨h, fun _ => rfl⟩

/-- `enqueue` says whether the main queue has grown. -/
theorem enqueue_counted {b : Bool} {q' : SegmentQueue α} (hq : Counted q)
    (h : enqueue seqNo q seg = .ok (b, q')) :
    Counted q' ∧ (b = false → q'.mMainQueue = q.mMainQueue) := by
  rcases enqueue_ok h with ⟨-, hr⟩ | ⟨-, pending, -, hr⟩
  · have hb : b = true := (congrArg Prod.fst hr).trans (drainPending_true _ _)
    obtain ⟨hc, -⟩ := drainPending_counted seqNo q.mPendingQueue true (q.pushMain seg)
      (pushMain_length hq)
    rw [← hr] at hc
    exact ⟨hc, fun hf => nomatch hb.symm.trans hf⟩
  · have hd := drainPending_counted seqNo pending false q hq
    rwa [← hr] at hd

theorem dequeue_counted {q' : SegmentQueue α} (hq : Counted q) (h : dequeue q = .ok (seg, q')) :
    Counted q' := by
  obtain ⟨rest, hm, rfl⟩ := dequeue_eq_ok.mp h
  unfold Counted at hq ⊢
  simp only [hq, hm, List.length_cons, Int32.ofNat_add]
  exact Int32.add_sub_cancel _ _

/-! ## Segments behind addresses -/

section Map

variable {β : Type} {f : β → α} {b : Bool}

/-- The queue of what the stored values stand for. -/
def map (f : β → α) (q : SegmentQueue β) : SegmentQueue α :=
  ⟨q.mMainQueue.map f, q.mPendingQueue.map f, q.mQueueLength, q.mExpectedSeqNo⟩

theorem map_congr {g : β → α} {q : SegmentQueue β} (h : ∀ p ∈ q.segments, f p = g p) :
    q.map f = q.map g := by
  rw [map, map, List.map_congr_left fun p hp => h p (List.mem_append_left _ hp),
    List.map_congr_left fun p hp => h p (List.mem_append_right _ hp)]

theorem insertPending_map {seg : β} {pending pending' : List β}
    (h : insertPending (seqNo ∘ f) seg pending = .ok pending') :
    insertPending seqNo (f seg) (pending.map f) = .ok (pending'.map f) := by
  induction pending generalizing pending' with
  | nil => cases h; rfl
  | cons walker rest ih =>
    simp only [insertPending, Function.comp_apply] at h
    rw [List.map_cons, insertPending]
    by_cases he : seqNo (f walker) = seqNo (f seg)
    · rw [if_pos he] at h
      cases h
    · rw [if_neg he] at h ⊢
      by_cases hgt : seqNo (f walker) > seqNo (f seg)
      · rw [if_pos hgt] at h ⊢
        cases h
        rfl
      · rw [if_neg hgt] at h ⊢
        cases hr : insertPending (seqNo ∘ f) seg rest with
        | error e => rw [hr] at h; cases h
        | ok rest' =>
          rw [hr] at h
          cases h
          rw [ih hr]
          rfl

theorem drainPending_map (pending : List β) : ∀ (b : Bool) (q : SegmentQueue β),
    drainPending seqNo b (q.map f) (pending.map f) =
      ((drainPending (seqNo ∘ f) b q pending).1, (drainPending (seqNo ∘ f) b q pending).2.map f) := by
  induction pending with
  | nil => intro b q; rfl
  | cons curr rest ih =>
    intro b q
    by_cases hc : seqNo (f curr) = q.mExpectedSeqNo
    · have hc' : seqNo (f curr) = (q.map f).mExpectedSeqNo := hc
      have hpush : (q.map f).pushMain (f curr) = (q.pushMain curr).map f := by
        simp [pushMain, map]
      simp only [List.map_cons, drainPending, Function.comp_apply, if_pos hc, if_pos hc', hpush, ih]
    · have hc' : ¬ seqNo (f curr) = (q.map f).mExpectedSeqNo := hc
      simp only [List.map_cons, drainPending, Function.comp_apply, if_neg hc, if_neg hc']
      rfl

theorem enqueue_map (f : β → α) (seqNo : α → UInt32) {seg : β} {q q' : SegmentQueue β}
    (h : enqueue (seqNo ∘ f) q seg = .ok (b, q')) :
    enqueue seqNo (q.map f) (f seg) = .ok (b, q'.map f) := by
  rcases enqueue_ok h with ⟨hdue, hr⟩ | ⟨hearly, pending, hp, hr⟩
  · have hdue' : seqNo (f seg) = (q.map f).mExpectedSeqNo := hdue
    have hpush : (q.map f).pushMain (f seg) = (q.pushMain seg).map f := by simp [pushMain, map]
    rw [enqueue, if_pos hdue', hpush]
    exact congrArg Except.ok ((drainPending_map _ true _).trans (by rw [← hr]))
  · have hearly' : seqNo (f seg) > (q.map f).mExpectedSeqNo := hearly
    have hins : insertPending seqNo (f seg) (q.map f).mPendingQueue = .ok (pending.map f) :=
      insertPending_map hp
    rw [enqueue, if_neg (UInt32.ne_of_lt hearly').symm, if_pos hearly', hins]
    exact congrArg Except.ok ((drainPending_map pending false q).trans (by rw [← hr]))

theorem dequeue_map {seg : β} {q q' : SegmentQueue β} (h : dequeue q = .ok (seg, q')) :
    dequeue (q.map f) = .ok (f seg, q'.map f) := by
  obtain ⟨rest, hm, rfl⟩ := dequeue_eq_ok.mp h
  exact dequeue_eq_ok.mpr ⟨rest.map f, by simp [map, hm], rfl⟩

end Map

/-! ## Any sequence of operations -/

inductive Op (α : Type) where
  | enqueue (seg : α)
  | dequeue
  deriving DecidableEq

/-- A queue with its history: what was enqueued and what was dequeued, in order. -/
structure History (α : Type) where
  queue : SegmentQueue α
  arrived : List α
  taken : List α
  deriving DecidableEq

namespace History

def init : History α := ⟨empty, [], []⟩

def step (seqNo : α → UInt32) (h : History α) : Op α → Except Fault (History α)
  | .enqueue seg =>
    match h.queue.enqueue seqNo seg with
    | .ok (_, q) => .ok { h with queue := q, arrived := h.arrived ++ [seg] }
    | .error f => .error f
  | .dequeue =>
    match h.queue.dequeue with
    | .ok (seg, q) => .ok { h with queue := q, taken := h.taken ++ [seg] }
    | .error f => .error f

/-- The segments that a list of calls enqueues. -/
def enqueued : List (Op α) → List α
  | [] => []
  | .enqueue seg :: ops => seg :: enqueued ops
  | .dequeue :: ops => enqueued ops

/-- The queue is in order of the sequence numbers after this history. -/
structure Ordered (seqNo : α → UInt32) (h : History α) : Prop where
  expected_least :
    IsLeast {n | ∀ x ∈ h.arrived, key seqNo x ≠ n} h.queue.getExpectedSeqNo.toNat
  delivered :
    (h.taken ++ h.queue.mMainQueue).map (key seqNo) = List.range h.queue.getExpectedSeqNo.toNat
  arrived : ∀ x ∈ h.taken ++ h.queue.mMainQueue ++ h.queue.mPendingQueue, x ∈ h.arrived
  pending_sorted : (h.queue.mPendingQueue.map (key seqNo)).Pairwise (· < ·)
  pending_above : ∀ x ∈ h.queue.mPendingQueue, h.queue.getExpectedSeqNo.toNat < key seqNo x
  queue_length : h.queue.mMainQueue.length < 2 ^ 31 →
    h.queue.getQueueLength = h.queue.mMainQueue.length

theorem ordered_of_inv {h : History α} (hi : Inv seqNo h.arrived h.taken h.queue) :
    Ordered seqNo h where
  expected_least := hi.inOrder.isLeast
  delivered := hi.inOrder.out_keys
  arrived := by
    intro x hx
    rw [List.mem_append] at hx
    exact hi.inOrder.sound x hx
  pending_sorted := List.pairwise_map.mpr hi.inOrder.sorted
  pending_above := hi.inOrder.gap
  queue_length := by
    intro hlt
    rw [getQueueLength, hi.length, Int32.toInt_ofNat_of_lt hlt]

/-- The run lemma: from any history in order, calls with new numbers, fewer than `2 ^ 32` in all,
keep it in order; the only fault left is the front of an empty main queue. -/
theorem run_inv (ops : List (Op α)) : ∀ (h : History α), Inv seqNo h.arrived h.taken h.queue →
    ((h.arrived ++ enqueued ops).map seqNo).Nodup → (h.arrived ++ enqueued ops).length < 2 ^ 32 →
    Runs.run (step seqNo) h ops ≠ .error .emptyFront →
    ∃ h', Runs.run (step seqNo) h ops = .ok h' ∧ Inv seqNo h'.arrived h'.taken h'.queue ∧
      h'.arrived = h.arrived ++ enqueued ops := by
  induction ops with
  | nil => intro h hi _ _ _; exact ⟨h, rfl, hi, by simp [enqueued]⟩
  | cons op ops ih =>
    intro h hi hd hn hf
    cases op with
    | enqueue seg =>
      have hnew : ∀ x ∈ h.arrived, seqNo x ≠ seqNo seg := by
        intro x hx he
        rw [List.map_append] at hd
        exact (List.nodup_append.mp hd).2.2 _ (List.mem_map_of_mem hx) (seqNo seg)
          (by simp [enqueued]) he
      have hlen : h.arrived.length + 1 < 2 ^ 32 := by
        simp only [enqueued, List.length_append, List.length_cons] at hn
        omega
      obtain ⟨b, q', hok, hinv, -, -⟩ := enqueue_spec hi hnew hlen
      have hs : step seqNo h (.enqueue seg) =
          .ok { h with queue := q', arrived := h.arrived ++ [seg] } := by
        simp [step, hok]
      rw [Runs.run_cons_ok ops hs] at hf ⊢
      obtain ⟨h', hr, hi', ha⟩ := ih _ hinv (by simpa [enqueued] using hd)
        (by simpa [enqueued] using hn) hf
      exact ⟨h', hr, hi', by simpa [enqueued] using ha⟩
    | dequeue =>
      cases hm : h.queue.mMainQueue with
      | nil =>
        have hs : step seqNo h .dequeue = .error .emptyFront := by simp [step, dequeue, hm]
        exact absurd (by simp [Runs.run, hs]) hf
      | cons seg rest =>
        obtain ⟨q', hok, hinv⟩ := dequeue_spec hi hm
        have hs : step seqNo h .dequeue = .ok { h with queue := q', taken := h.taken ++ [seg] } := by
          simp [step, hok]
        rw [Runs.run_cons_ok ops hs] at hf ⊢
        exact ih _ hinv (by simpa [enqueued] using hd) (by simpa [enqueued] using hn) hf

/-- **Ordering of the Linux segment queue.** Whatever the arrival order of distinct numbers, and
with dequeues on a non-empty main queue in between, no assertion fails, the queue is in order, and
the next `enqueue` returns true exactly when the expected number advances. -/
theorem run_ordered (ops : List (Op α)) (hd : ((enqueued ops).map seqNo).Nodup)
    (hn : (enqueued ops).length < 2 ^ 32)
    (hf : Runs.run (step seqNo) init ops ≠ .error .emptyFront) :
    ∃ h, Runs.run (step seqNo) init ops = .ok h ∧ Ordered seqNo h ∧
      ∀ seg, seqNo seg ∉ (enqueued ops).map seqNo → (enqueued ops).length + 1 < 2 ^ 32 →
        ∃ b q', h.queue.enqueue seqNo seg = .ok (b, q') ∧
          (b = true ↔ h.queue.getExpectedSeqNo.toNat < q'.getExpectedSeqNo.toNat) := by
  obtain ⟨h, hr, hi, ha⟩ := @run_inv α seqNo ops init inv_empty
    (by simpa [init] using hd) (by simpa [init] using hn) hf
  refine ⟨h, hr, ordered_of_inv hi, fun seg hnew hlen => ?_⟩
  have ha' : h.arrived = enqueued ops := by simpa [init] using ha
  have hne : ∀ x ∈ h.arrived, seqNo x ≠ seqNo seg :=
    fun x hx he => hnew (he ▸ List.mem_map_of_mem (ha' ▸ hx))
  obtain ⟨b, q', hok, -, -, hb⟩ := enqueue_spec hi hne (by rw [ha']; exact hlen)
  exact ⟨b, q', hok, hb⟩

/-- Three early arrivals, the missing one, and two dequeues. -/
theorem run_ordered_example :
    ∃ h, Runs.run (step id) (init : History UInt32)
      [.enqueue 2, .enqueue 3, .enqueue 1, .enqueue 0, .dequeue, .dequeue] = .ok h ∧
      Ordered id h := by
  obtain ⟨h, hr, ho, -⟩ := @run_ordered UInt32 id
    [.enqueue 2, .enqueue 3, .enqueue 1, .enqueue 0, .dequeue, .dequeue]
    (by decide) (by decide) (by decide)
  exact ⟨h, hr, ho⟩

/-- The numbers `0, 1, ..., n - 1` enqueued in order, with no dequeue. -/
def backlog (n : ℕ) : List (Op UInt32) := (List.range n).map fun k => .enqueue (UInt32.ofNat k)

theorem enqueued_backlog (n : ℕ) : enqueued (backlog n) = (List.range n).map UInt32.ofNat := by
  have hmap : ∀ l : List ℕ,
      enqueued (l.map fun k => Op.enqueue (UInt32.ofNat k)) = l.map UInt32.ofNat := by
    intro l
    induction l with
    | nil => rfl
    | cons k l ih => simp [enqueued, ih]
  exact hmap _

theorem run_backlog (n : ℕ) : Runs.run (step id) init (backlog n) =
    .ok ⟨⟨(List.range n).map UInt32.ofNat, [], Int32.ofNat n, UInt32.ofNat n⟩,
      (List.range n).map UInt32.ofNat, []⟩ := by
  induction n with
  | zero => rfl
  | succ n ih =>
    rw [backlog, List.range_succ, List.map_append, List.map_singleton]
    refine Runs.run_snoc.mpr ⟨_, ih, ?_⟩
    simp [step, enqueue, drainPending, pushMain, Int32.ofNat_add, UInt32.ofNat_add]

/-- The counter of the main queue is an `int`: with `2 ^ 31` segments waiting to be taken its
value is not the size of the main queue. -/
theorem queueLength_overflow :
    ((enqueued (backlog (2 ^ 31))).map id).Nodup ∧ (enqueued (backlog (2 ^ 31))).length < 2 ^ 32 ∧
      ∃ h : History UInt32, Runs.run (step id) init (backlog (2 ^ 31)) = .ok h ∧
        h.queue.getQueueLength ≠ h.queue.mMainQueue.length := by
  refine ⟨?_, ?_, _, run_backlog _, ?_⟩
  · rw [enqueued_backlog, List.map_id]
    refine List.Nodup.map_on (fun a ha b hb he => ?_) List.nodup_range
    have ha' := List.mem_range.mp ha
    have hb' := List.mem_range.mp hb
    have := congrArg UInt32.toNat he
    simp only [UInt32.toNat_ofNat'] at this
    omega
  · rw [enqueued_backlog, List.length_map, List.length_range]
    decide
  · rw [getQueueLength, List.length_map, List.length_range]
    decide

/-! ## Numbers that come again -/

/-- As long as the numbers have not come round, a run without a fault is one of distinct numbers. -/
theorem inv_of_run {ops : List (Op α)} {h : History α} (hr : Runs.run (step seqNo) init ops = .ok h)
    (hn : h.arrived.length < 2 ^ 32) : Inv seqNo h.arrived h.taken h.queue := by
  induction ops using List.reverseRecOn generalizing h with
  | nil => cases hr; exact inv_empty
  | append_singleton ops op ih =>
    obtain ⟨g, hg, hs⟩ := Runs.run_snoc.mp hr
    cases op with
    | enqueue seg =>
      simp only [step] at hs
      split at hs
      · next b q he =>
        cases hs
        have hlen : g.arrived.length + 1 < 2 ^ 32 := by simpa using hn
        have hi := ih hg (by omega)
        have hnew : ∀ x ∈ g.arrived, seqNo x ≠ seqNo seg := fun x hx hxs =>
          nomatch (enqueue_duplicate hi hx hxs).symm.trans he
        obtain ⟨b', q', he', hi', -, -⟩ := enqueue_spec hi hnew hlen
        obtain rfl := congrArg Prod.snd (Except.ok.inj (he.symm.trans he'))
        exact hi'
      · cases hs
    | dequeue =>
      simp only [step] at hs
      split at hs
      · next seg q hd =>
        cases hs
        obtain ⟨rest, hm, -⟩ := dequeue_eq_ok.mp hd
        obtain ⟨q', hd', hi'⟩ := dequeue_spec (ih hg hn) hm
        obtain rfl := congrArg Prod.snd (Except.ok.inj (hd.symm.trans hd'))
        exact hi'
      · cases hs

/-- **Duplicates are not ignored.** In whatever state a run has left the queue, the enqueue of a number
that was enqueued before does not leave the queue as it is; as long as the numbers have not come
round, it fails the assertion. -/
theorem duplicate_not_ignored {ops : List (Op α)} {h : History α}
    (hr : Runs.run (step seqNo) init ops = .ok h) {seg : α}
    (hdup : ∃ x ∈ h.arrived, seqNo x = seqNo seg) :
    (¬ ∃ b, h.queue.enqueue seqNo seg = .ok (b, h.queue)) ∧
      (h.arrived.length < 2 ^ 32 → h.queue.enqueue seqNo seg = .error .assertion) := by
  obtain ⟨x, hx, he⟩ := hdup
  refine ⟨fun ⟨b, hb⟩ => ?_, fun hn => enqueue_duplicate (inv_of_run hr hn) hx he⟩
  -- even when the number is due again, the segment stays in the queue
  have hlen := (enqueue_segments hb).length_eq
  simp at hlen

/-- A segment that waits, and one that has been delivered. -/
theorem duplicate_not_ignored_pending :
    (¬ ∃ b, (⟨[0], [2], 1, 1⟩ : SegmentQueue UInt32).enqueue id 2 = .ok (b, ⟨[0], [2], 1, 1⟩)) ∧
      ((⟨[0], [2], 1, 1⟩ : SegmentQueue UInt32).enqueue id 2 = .error .assertion) :=
  have hr : Runs.run (step id) init [.enqueue (0 : UInt32), .enqueue 2] =
    .ok ⟨⟨[0], [2], 1, 1⟩, [0, 2], []⟩ := by decide
  have h := @duplicate_not_ignored UInt32 id _ _ hr 2 ⟨2, by decide, rfl⟩
  ⟨h.1, h.2 (by decide)⟩

/-- The first segment comes a second time. -/
theorem duplicate_assertion : ∃ h : History UInt32,
    Runs.run (step id) init [.enqueue 0] = .ok h ∧ 0 ∈ h.arrived ∧
      h.queue.enqueue id 0 = .error .assertion :=
  ⟨⟨⟨[0], [], 1, 1⟩, [0], []⟩, by decide, by decide, by decide⟩

end History
end SegmentQueue
end Linux
end VirtualConnection
