import Mathlib.Data.Int.Basic
import VirtualConnection.Lib.Resequence
import VirtualConnection.Lib.Runs

/-!
# Android.SegmentManager

`SegmentManager.java`: the queues of the Android side. `Queue` is one index of the arrays
`mQueues`, `mPendingQueue`, `mQueueLengths` and `mExpectedSeqNo`; `enqueue` and `dequeue` are the
parts of the methods that work on it, under its lock. An `int` is an `Int32`.

Unlike its Linux counterpart this queue has to cope with numbers that come again. It drops the
ones below the expected number, but an early segment is inserted with `ListIterator.add`, which
puts it behind the element that was just read: after the first larger number, not before it.

* `ordered_iff`: the runs on which the queue stays in order are those in which that never matters.
* `misplaced_arrival`: three early arrivals and the missing one, after which delivery stalls.
-/

namespace VirtualConnection
namespace Android

open Resequence

structure Queue (α : Type) where
  mQueue : List α
  mPendingQueue : List α
  mQueueLength : Int32
  mExpectedSeqNo : Int32
  deriving DecidableEq

namespace Queue

variable {α : Type}

def empty : Queue α := ⟨[], [], 0, 0⟩

/-- `mExpectedSeqNo++`, `offerLast` and `mQueueLengths++`. -/
def offerLast (q : Queue α) (segment : α) : Queue α :=
  { q with
    mExpectedSeqNo := q.mExpectedSeqNo + 1
    mQueue := q.mQueue ++ [segment]
    mQueueLength := q.mQueueLength + 1 }

/-- Case 3: the walk stops once `it.next()` has returned a larger number, and `it.add` inserts
behind it. -/
def insertPending (seqNo : α → Int32) (segment : α) : List α → List α
  | [] => [segment]
  | walker :: rest =>
    if seqNo walker > seqNo segment then walker :: segment :: rest
    else walker :: insertPending seqNo segment rest

/-- The last loop of `enqueue`; the flag is `segmentEnqueued`. -/
def drainPending (seqNo : α → Int32) (enqueued : Bool) (q : Queue α) : List α → Bool × Queue α
  | [] => (enqueued, { q with mPendingQueue := [] })
  | walker :: rest =>
    if q.mExpectedSeqNo > seqNo walker then drainPending seqNo enqueued q rest
    else if q.mExpectedSeqNo < seqNo walker then
      (enqueued, { q with mPendingQueue := walker :: rest })
    else drainPending seqNo true (q.offerLast walker) rest

/-- The result says whether `wakeUpDequeueWaiting` is called. -/
def enqueue (seqNo : α → Int32) (q : Queue α) (segment : α) : Bool × Queue α :=
  if seqNo segment = q.mExpectedSeqNo then
    drainPending seqNo true (q.offerLast segment) q.mPendingQueue
  else if seqNo segment < q.mExpectedSeqNo then (false, q)
  else drainPending seqNo false q (insertPending seqNo segment q.mPendingQueue)

/-- `pollFirst`; the caller gets `null` when the queue is empty. -/
def dequeue (q : Queue α) : Option α × Queue α :=
  match q.mQueue with
  | [] => (none, q)
  | segment :: rest =>
    (some segment, { q with mQueue := rest, mQueueLength := q.mQueueLength - 1 })

/-! ## One operation -/

def key (seqNo : α → Int32) (segment : α) : ℕ := (seqNo segment).toInt.toNat

/-- `taken` has been dequeued so far and the queue holds the rest of what arrived. -/
structure Inv (seqNo : α → Int32) (arrived taken : List α) (q : Queue α) : Prop where
  inOrder : InOrder (key seqNo) (· ≤ ·) arrived (taken ++ q.mQueue) q.mPendingQueue
    q.mExpectedSeqNo.toInt.toNat
  expected_nonneg : 0 ≤ q.mExpectedSeqNo.toInt
  length : q.mQueueLength = Int32.ofNat q.mQueue.length

/-- Some number that an `int` can hold has not arrived. -/
def Missing (seqNo : α → Int32) (arrived : List α) : Prop :=
  ∃ n < 2 ^ 31, ∀ x ∈ arrived, key seqNo x ≠ n

variable {seqNo : α → Int32} {arrived taken : List α} {q : Queue α} {segment : α}

theorem inv_empty : Inv seqNo [] [] (empty : Queue α) :=
  { inOrder := InOrder.empty, expected_nonneg := by simp [empty], length := rfl }

theorem key_eq (h : 0 ≤ seqNo segment) : (key seqNo segment : ℤ) = (seqNo segment).toInt := by
  have h0 := Int32.le_iff_toInt_le.mp h
  rw [Int32.toInt_zero] at h0
  simp only [key]
  omega

theorem offerLast_length (h : q.mQueueLength = Int32.ofNat q.mQueue.length) :
    (q.offerLast segment).mQueueLength = Int32.ofNat (q.offerLast segment).mQueue.length := by
  simp only [offerLast, List.length_append, List.length_singleton, h, Int32.ofNat_add]
  rfl

theorem offerLast_expected (segment : α) {n : ℕ} (h0 : 0 ≤ q.mExpectedSeqNo.toInt)
    (hle : q.mExpectedSeqNo.toInt.toNat + 1 ≤ n) (hn : n < 2 ^ 31) :
    0 ≤ (q.offerLast segment).mExpectedSeqNo.toInt ∧
      (q.offerLast segment).mExpectedSeqNo.toInt.toNat = q.mExpectedSeqNo.toInt.toNat + 1 := by
  have he : (q.offerLast segment).mExpectedSeqNo.toInt = q.mExpectedSeqNo.toInt + 1 := by
    simp only [offerLast, Int32.toInt_add, Int32.toInt_one]
    rw [Int.bmod_eq_of_le (by omega) (by omega)]
  rw [he]
  omega

theorem insertPending_perm (segment : α) (pending : List α) :
    (insertPending seqNo segment pending).Perm (segment :: pending) := by
  induction pending with
  | nil => exact .refl _
  | cons walker rest ih =>
    simp only [insertPending]
    split
    · exact .swap segment walker rest
    · exact (ih.cons walker).trans (.swap segment walker rest)

/-- A number no smaller than the waiting ones goes to the end. -/
theorem insertPending_of_le {pending : List α} (h : ∀ w ∈ pending, seqNo w ≤ seqNo segment) :
    insertPending seqNo segment pending = pending ++ [segment] := by
  induction pending with
  | nil => rfl
  | cons walker rest ih =>
    have hw : ¬ seqNo walker > seqNo segment :=
      Int32.not_lt.mpr (h walker List.mem_cons_self)
    simp [insertPending, hw, ih fun w hw => h w (List.mem_cons_of_mem _ hw)]

/-- A smaller number than one of the waiting ones ends up behind a larger one. -/
theorem insertPending_not_sorted {pending : List α} {w : α} (hw : w ∈ pending)
    (hlt : seqNo segment < seqNo w) :
    ¬ (insertPending seqNo segment pending).Pairwise fun a b => seqNo a ≤ seqNo b := by
  induction pending with
  | nil => cases hw
  | cons walker rest ih =>
    simp only [insertPending]
    split
    · next hgt =>
      intro hs
      have := List.rel_of_pairwise_cons hs (List.mem_cons_self)
      exact Int32.not_lt.mpr this hgt
    · next hle =>
      intro hs
      rcases List.mem_cons.mp hw with rfl | hw
      · exact hle hlt
      · exact ih hw hs.of_cons

/-- Nothing is due as long as everything that waits is early. -/
theorem drainPending_of_early {pending : List α} {b : Bool}
    (h : ∀ x ∈ pending, q.mExpectedSeqNo < seqNo x) :
    (drainPending seqNo b q pending).2.mPendingQueue = pending := by
  cases pending with
  | nil => rfl
  | cons walker rest =>
    have hw := h walker List.mem_cons_self
    simp [drainPending, hw, Int32.lt_asymm hw]

/-- The last loop: induction on the pending list. -/
theorem drainPending_spec (hnn : ∀ x, 0 ≤ seqNo x) (hm : Missing seqNo arrived)
    (pending : List α) : ∀ (q : Queue α) (b : Bool),
      Settling (key seqNo) (· ≤ ·) arrived (taken ++ q.mQueue) pending
        q.mExpectedSeqNo.toInt.toNat →
      0 ≤ q.mExpectedSeqNo.toInt → q.mQueueLength = Int32.ofNat q.mQueue.length →
      Inv seqNo arrived taken (drainPending seqNo b q pending).2 := by
  obtain ⟨n, hn, hmiss⟩ := hm
  induction pending with
  | nil =>
    intro q b h h0 hl
    have hgap : ∀ y ∈ ([] : List α).head?, q.mExpectedSeqNo.toInt.toNat < key seqNo y := nofun
    exact ⟨h.settle (fun _ _ => id) hgap, h0, hl⟩
  | cons walker rest ih =>
    intro q b h h0 hl
    have hk : (key seqNo walker : ℤ) = (seqNo walker).toInt := key_eq (hnn walker)
    simp only [drainPending]
    split
    · next hgt =>
      -- obsolete: its number was delivered before
      have hlt : key seqNo walker < q.mExpectedSeqNo.toInt.toNat := by
        have := Int32.lt_iff_toInt_lt.mp hgt
        omega
      exact ih q b (h.drop hlt) h0 hl
    · next hle =>
      split
      · next hlt =>
        -- future: everything behind it is as early
        have hgap : ∀ y ∈ (walker :: rest).head?, q.mExpectedSeqNo.toInt.toNat < key seqNo y := by
          intro y hy
          obtain rfl : walker = y := by simpa using hy
          have := Int32.lt_iff_toInt_lt.mp hlt
          omega
        exact ⟨h.settle (fun _ _ => id) hgap, h0, hl⟩
      · next hge =>
        have he : key seqNo walker = q.mExpectedSeqNo.toInt.toNat := by
          have h1 := Int32.lt_iff_toInt_lt.not.mp hle
          have h2 := Int32.lt_iff_toInt_lt.not.mp hge
          omega
        have hmove := h.move he
        obtain ⟨h0', he'⟩ := offerLast_expected walker h0
          (hmove.next_le_of_missing hmiss) hn
        refine ih (q.offerLast walker) true ?_ h0' (offerLast_length hl)
        rw [he']
        simpa [offerLast] using hmove

/-- What an arrival must meet for the queue to stay in order: an early one is not smaller than a
waiting one, and some number stays missing. -/
structure Fits (seqNo : α → Int32) (arrived : List α) (q : Queue α) (segment : α) : Prop where
  place : q.mExpectedSeqNo < seqNo segment → ∀ w ∈ q.mPendingQueue, seqNo w ≤ seqNo segment
  missing : Missing seqNo (arrived ++ [segment])

theorem enqueue_spec (hnn : ∀ x, 0 ≤ seqNo x) (h : Inv seqNo arrived taken q)
    (hfit : Fits seqNo arrived q segment) :
    Inv seqNo (arrived ++ [segment]) taken (enqueue seqNo q segment).2 := by
  have hk : (key seqNo segment : ℤ) = (seqNo segment).toInt := key_eq (hnn segment)
  have h0 := h.expected_nonneg
  simp only [enqueue]
  split
  · next heq =>
    have hkey : key seqNo segment = q.mExpectedSeqNo.toInt.toNat := by rw [key, heq]
    have hacc := h.inOrder.accept hkey
    obtain ⟨n, hn, hmiss⟩ := hfit.missing
    obtain ⟨h0', he'⟩ := offerLast_expected segment h0
      (hacc.next_le_of_missing hmiss) hn
    refine drainPending_spec hnn hfit.missing _ _ _ ?_ h0' (offerLast_length h.length)
    rw [he']
    simpa [offerLast] using hacc
  · next hne =>
    split
    · next hlt =>
      have hlt' : key seqNo segment < q.mExpectedSeqNo.toInt.toNat := by
        have := Int32.lt_iff_toInt_lt.mp hlt
        omega
      exact ⟨h.inOrder.ignore hlt', h0, h.length⟩
    · next hge =>
      have hgt : q.mExpectedSeqNo < seqNo segment := by
        have h1 := Int32.lt_iff_toInt_lt.not.mp hge
        have h2 : (seqNo segment).toInt ≠ q.mExpectedSeqNo.toInt := Int32.toInt_inj.not.mpr hne
        exact Int32.lt_iff_toInt_lt.mpr (by omega)
      have hplace := hfit.place hgt
      have hkgt : q.mExpectedSeqNo.toInt.toNat < key seqNo segment := by
        have := Int32.lt_iff_toInt_lt.mp hgt
        omega
      have hsort : (insertPending seqNo segment q.mPendingQueue).Pairwise
          fun a b => key seqNo a ≤ key seqNo b := by
        rw [insertPending_of_le hplace, List.pairwise_append]
        refine ⟨h.inOrder.sorted, List.pairwise_singleton _ _, fun w hw s hs => ?_⟩
        obtain rfl : s = segment := by simpa using hs
        have := Int32.le_iff_toInt_le.mp (hplace w hw)
        have := key_eq (hnn w)
        omega
      exact drainPending_spec hnn hfit.missing _ _ _
        (h.inOrder.defer hkgt (insertPending_perm segment _) hsort).toSettling h0 h.length

theorem dequeue_spec (h : Inv seqNo arrived taken q) :
    Inv seqNo arrived (taken ++ (dequeue q).1.toList) (dequeue q).2 := by
  cases hm : q.mQueue with
  | nil => simpa [dequeue, hm] using h
  | cons segment rest =>
    refine ⟨by simpa [dequeue, hm] using h.inOrder, by simpa [dequeue, hm] using h.expected_nonneg,
      ?_⟩
    simp only [dequeue, hm, h.length, List.length_cons, Int32.ofNat_add]
    exact Int32.add_sub_cancel _ _

/-! ## What comes out, whatever arrives -/

section Counts

variable {P : α → Prop} {x : α}

/-- What has been delivered is numbered from 0 on, and the expected number is the next one. -/
structure Counts (seqNo : α → Int32) (P : α → Prop) (taken : List α) (q : Queue α) : Prop where
  numbered : (taken ++ q.mQueue).map seqNo =
    (List.range (taken ++ q.mQueue).length).map Int32.ofNat
  expected : q.mExpectedSeqNo = Int32.ofNat (taken ++ q.mQueue).length
  sound : ∀ x ∈ taken ++ q.mQueue ++ q.mPendingQueue, P x

theorem counts_empty : Counts seqNo P [] (empty : Queue α) := ⟨rfl, rfl, by simp [empty]⟩

theorem Counts.mono {P' : α → Prop} (h : Counts seqNo P taken q) (hp : ∀ x, P x → P' x) :
    Counts seqNo P' taken q :=
  ⟨h.numbered, h.expected, fun x hx => hp x (h.sound x hx)⟩

theorem map_append_next {out : List α} (h : out.map seqNo = (List.range out.length).map Int32.ofNat)
    (hx : seqNo x = Int32.ofNat out.length) :
    (out ++ [x]).map seqNo = (List.range (out ++ [x]).length).map Int32.ofNat := by
  rw [List.length_append, List.length_singleton, List.range_succ, List.map_append, List.map_append,
    List.map_singleton, List.map_singleton, h, hx]

theorem Counts.offerLast (h : Counts seqNo P taken q) (hx : P x) (he : seqNo x = q.mExpectedSeqNo) :
    Counts seqNo P taken (q.offerLast x) where
  numbered := by
    have hq : taken ++ (q.offerLast x).mQueue = (taken ++ q.mQueue) ++ [x] :=
      (List.append_assoc _ _ _).symm
    rw [hq]
    exact map_append_next h.numbered (he.trans h.expected)
  expected := by
    have hq : (taken ++ (q.offerLast x).mQueue).length = (taken ++ q.mQueue).length + 1 := by
      simp [Queue.offerLast, Nat.add_assoc]
    have hone : (Int32.ofNat 1) = 1 := rfl
    rw [hq, Int32.ofNat_add, hone, ← h.expected]
    rfl
  sound := by
    intro y hy
    simp only [Queue.offerLast, List.mem_append, List.mem_singleton] at hy
    rcases hy with (hy | hy | rfl) | hy
    · exact h.sound y (by simp [hy])
    · exact h.sound y (by simp [hy])
    · exact hx
    · exact h.sound y (by simp [hy])

/-- The last loop: induction on the pending list. -/
theorem Counts.drainPending (pending : List α) : ∀ (b : Bool) (q : Queue α),
    Counts seqNo P taken { q with mPendingQueue := pending } →
    Counts seqNo P taken (drainPending seqNo b q pending).2 := by
  induction pending with
  | nil => exact fun _ _ h => h
  | cons walker rest ih =>
    intro b q h
    have hrest : Counts seqNo P taken { q with mPendingQueue := rest } :=
      ⟨h.numbered, h.expected, fun y hy => h.sound y (by
        simp only [List.mem_append, List.mem_cons] at hy ⊢
        exact hy.imp id .inr)⟩
    have hwalker : P walker := h.sound walker (by simp)
    unfold Queue.drainPending
    split
    · exact ih b q hrest
    · next hle =>
      split
      · exact h
      · next hge =>
        have he : seqNo walker = q.mExpectedSeqNo :=
          Int32.le_antisymm (Int32.not_lt.mp hge) (Int32.not_lt.mp hle)
        exact ih true _ (hrest.offerLast hwalker he)

/-- **Delivery is in order of the numbers, whatever arrives.** -/
theorem Counts.enqueue (h : Counts seqNo P taken q) (hx : P x) :
    Counts seqNo P taken (q.enqueue seqNo x).2 := by
  unfold Queue.enqueue
  split
  · next he => exact Counts.drainPending _ true _ (h.offerLast hx he)
  · split
    · exact h
    · refine Counts.drainPending _ false _ ⟨h.numbered, h.expected, fun y hy => ?_⟩
      rcases List.mem_append.mp hy with hy | hy
      · exact h.sound y (List.mem_append_left _ hy)
      · rcases List.mem_cons.mp ((insertPending_perm x _).mem_iff.mp hy) with rfl | hy
        · exact hx
        · exact h.sound y (List.mem_append_right _ hy)

theorem Counts.dequeue (h : Counts seqNo P taken q) :
    Counts seqNo P (taken ++ q.dequeue.1.toList) q.dequeue.2 := by
  unfold Queue.dequeue
  split
  · simpa using h
  · next segment rest hq =>
    have hsplit : taken ++ [segment] ++ rest = taken ++ q.mQueue := by simp [hq]
    refine ⟨?_, ?_, ?_⟩
    · simpa [hq] using h.numbered
    · simpa [hq] using h.expected
    · simpa [hq] using h.sound

variable {β : Type} {out : List α} {stream : List β} {read : α → β}

theorem numbered_getElem (h : out.map seqNo = (List.range out.length).map Int32.ofNat) {i : ℕ}
    (hi : i < out.length) (hlt : i < 2 ^ 32) : (seqNo out[i]).toUInt32.toNat = i := by
  have hseq : seqNo out[i] = Int32.ofNat i := by
    have := congrArg (fun l => l[i]?) h
    simpa [hi] using this
  rw [hseq]
  show (UInt32.ofNat i).toNat = i
  rw [UInt32.toNat_ofNat', Nat.mod_eq_of_lt hlt]

/-- Items that are numbered from 0 on, each at its place in a stream, are the beginning of it. -/
theorem prefix_of_numbered (h : out.map seqNo = (List.range out.length).map Int32.ofNat)
    (hn : stream.length < 2 ^ 32)
    (hp : ∀ x ∈ out, stream[(seqNo x).toUInt32.toNat]? = some (read x)) :
    out.map read <+: stream := by
  have hget : ∀ i (hi : i < out.length), i < 2 ^ 32 → stream[i]? = some (read out[i]) := by
    intro i hi hlt
    have hread := hp _ (List.getElem_mem hi)
    rwa [numbered_getElem h hi hlt] at hread
  have hle : out.length ≤ stream.length := by
    by_contra hgt
    have hread := hget stream.length (by omega) (by omega)
    simp at hread
  refine List.prefix_iff_eq_take.mpr (List.ext_getElem? fun i => ?_)
  rw [List.length_map, List.getElem?_take, List.getElem?_map]
  split
  · next hi => rw [hget i hi (by omega), List.getElem?_eq_getElem hi]; rfl
  · next hi => rw [List.getElem?_eq_none (by omega)]; rfl

theorem numbered_nodup (h : out.map seqNo = (List.range out.length).map Int32.ofNat)
    (hn : out.length ≤ 2 ^ 32) : (out.map seqNo).Nodup := by
  refine List.nodup_iff_getElem?_ne_getElem?.mpr fun i j hij hj he => ?_
  rw [List.length_map] at hj
  have heq : seqNo out[i] = seqNo out[j] := by simpa [hj, hij.trans hj] using he
  have hi' := numbered_getElem h (hij.trans hj) (by omega)
  have hj' := numbered_getElem h hj (by omega)
  rw [heq] at hi'
  omega

end Counts

/-! ## Any sequence of operations -/

inductive Op (α : Type) where
  | enqueue (segment : α)
  | dequeue
  deriving DecidableEq

/-- A queue with its history: what was enqueued and what was dequeued, in order. -/
structure History (α : Type) where
  queue : Queue α
  arrived : List α
  taken : List α
  deriving DecidableEq

namespace History

def init : History α := ⟨empty, [], []⟩

/-- No call fails. -/
def step (seqNo : α → Int32) (h : History α) : Op α → Except Empty (History α)
  | .enqueue segment =>
    .ok { h with
      queue := (h.queue.enqueue seqNo segment).2
      arrived := h.arrived ++ [segment] }
  | .dequeue =>
    .ok { h with
      queue := h.queue.dequeue.2
      taken := h.taken ++ h.queue.dequeue.1.toList }

/-- The queue is in order of the sequence numbers after this history. -/
structure Ordered (seqNo : α → Int32) (h : History α) : Prop where
  expected_least : ∃ n : ℕ, h.queue.mExpectedSeqNo.toInt = n ∧
    IsLeast {n | ∀ x ∈ h.arrived, key seqNo x ≠ n} n
  delivered : (h.taken ++ h.queue.mQueue).map (key seqNo) =
    List.range h.queue.mExpectedSeqNo.toInt.toNat
  arrived : ∀ x ∈ h.taken ++ h.queue.mQueue ++ h.queue.mPendingQueue, x ∈ h.arrived
  pending_sorted : h.queue.mPendingQueue.Pairwise fun a b => seqNo a ≤ seqNo b
  pending_above : ∀ x ∈ h.queue.mPendingQueue, h.queue.mExpectedSeqNo < seqNo x
  queue_length : h.queue.mQueueLength.toInt = h.queue.mQueue.length

/-- The calls that keep the queue in order: every dequeue, and the enqueue of what fits. -/
def InPlace (seqNo : α → Int32) (h : History α) : Op α → Prop
  | .enqueue segment => Fits seqNo h.arrived h.queue segment
  | .dequeue => True

theorem ordered_of_inv (hnn : ∀ x, 0 ≤ seqNo x) {h : History α}
    (hi : Inv seqNo h.arrived h.taken h.queue) : Ordered seqNo h where
  expected_least :=
    ⟨_, (Int.toNat_of_nonneg hi.expected_nonneg).symm, hi.inOrder.isLeast⟩
  delivered := hi.inOrder.out_keys
  arrived := by
    intro x hx
    rw [List.mem_append] at hx
    exact hi.inOrder.sound x hx
  pending_sorted := by
    refine hi.inOrder.sorted.imp fun {a b} hab => Int32.le_iff_toInt_le.mpr ?_
    have ha := key_eq (hnn a)
    have hb := key_eq (hnn b)
    omega
  pending_above := by
    intro x hx
    have hgap := hi.inOrder.gap x hx
    have hk := key_eq (hnn x)
    have h0 := hi.expected_nonneg
    exact Int32.lt_iff_toInt_lt.mpr (by omega)
  queue_length := by
    have hlen := hi.inOrder.out_length
    have hlt := h.queue.mExpectedSeqNo.toInt_lt
    rw [List.length_append] at hlen
    rw [hi.length, Int32.toInt_ofNat_of_lt (by omega)]

theorem step_inv (hnn : ∀ x, 0 ≤ seqNo x) (h : History α) (op : Op α) (h' : History α)
    (hi : Inv seqNo h.arrived h.taken h.queue) (hc : InPlace seqNo h op)
    (hs : step seqNo h op = .ok h') : Inv seqNo h'.arrived h'.taken h'.queue := by
  cases op with
  | enqueue segment => cases hs; exact enqueue_spec hnn hi hc
  | dequeue => cases hs; exact dequeue_spec hi

/-- An arrival that does not fit leaves the queue out of order: either the pending queue is no
longer sorted, or no `int` is left for the number that is due. -/
theorem not_ordered_of_not_fits (hnn : ∀ x, 0 ≤ seqNo x) (h : History α) (op : Op α)
    (h' : History α) (hi : Inv seqNo h.arrived h.taken h.queue) (hc : ¬ InPlace seqNo h op)
    (hs : step seqNo h op = .ok h') : ¬ Ordered seqNo h' := by
  cases op with
  | dequeue => exact absurd trivial hc
  | enqueue segment =>
    cases hs
    intro ho
    refine hc ⟨fun hgt w hw => ?_, ?_⟩
    · by_contra hlt
      have hlt' : seqNo segment < seqNo w := Int32.not_le.mp hlt
      have hne : seqNo segment ≠ h.queue.mExpectedSeqNo := fun he => Int32.lt_irrefl (he ▸ hgt)
      -- everything waiting is early, so the last loop stops at once
      have hearly : ∀ x ∈ insertPending seqNo segment h.queue.mPendingQueue,
          h.queue.mExpectedSeqNo < seqNo x := by
        intro x hx
        rcases List.mem_cons.mp ((insertPending_perm segment _).mem_iff.mp hx) with rfl | hx
        · exact hgt
        · exact (ordered_of_inv hnn hi).pending_above x hx
      have hq : (h.queue.enqueue seqNo segment).2.mPendingQueue =
          insertPending seqNo segment h.queue.mPendingQueue := by
        rw [enqueue, if_neg hne, if_neg (Int32.lt_asymm hgt)]
        exact drainPending_of_early hearly
      have hsort := ho.pending_sorted
      rw [hq] at hsort
      exact insertPending_not_sorted hw hlt' hsort
    · obtain ⟨n, hn, hleast⟩ := ho.expected_least
      have := (h.queue.enqueue seqNo segment).2.mExpectedSeqNo.toInt_lt
      exact ⟨n, by simp only [] at hn; omega, hleast.1⟩

/-- **Ordering of the Android queues.** A run of calls with non-negative numbers keeps the queue in
order throughout if and only if every enqueued segment fits. -/
theorem ordered_iff (hnn : ∀ x, 0 ≤ seqNo x) (ops : List (Op α)) :
    (∀ h, Runs.Reached (step seqNo) init ops h → Ordered seqNo h) ↔
      Runs.AllSteps (step seqNo) (InPlace seqNo) init ops :=
  Runs.throughout_iff_allSteps (fun _ => ordered_of_inv hnn) (step_inv hnn)
    (not_ordered_of_not_fits hnn) inv_empty

/-- Early arrivals in ascending order: the queue is in order throughout. -/
theorem ordered_iff_ascending :
    (∀ n : Fin 4, 0 ≤ Int32.ofNat n) ∧
      ∀ h, Runs.Reached (step fun n : Fin 4 => Int32.ofNat n) init
        [.enqueue 1, .enqueue 2, .enqueue 0, .dequeue] h →
          Ordered (fun n : Fin 4 => Int32.ofNat n) h := by
  refine ⟨by decide, (ordered_iff (by decide) _).mpr ?_⟩
  have hmiss : ∀ arrived : List (Fin 4), 3 ∉ arrived →
      Missing (fun n : Fin 4 => Int32.ofNat n) arrived := by
    intro arrived h3
    refine ⟨3, by decide, fun x hx he => h3 ?_⟩
    have hx3 : ∀ x : Fin 4, key (fun n : Fin 4 => Int32.ofNat n) x = 3 → x = 3 := by decide
    exact hx3 x he ▸ hx
  rintro _ ⟨⟩
  refine ⟨⟨by decide, hmiss _ (by decide)⟩, ?_⟩
  rintro _ ⟨⟩
  refine ⟨⟨by decide, hmiss _ (by decide)⟩, ?_⟩
  rintro _ ⟨⟩
  refine ⟨⟨by decide, hmiss _ (by decide)⟩, ?_⟩
  rintro _ ⟨⟩
  exact ⟨trivial, trivial⟩

/-- The arrivals 3, 2, 0, 1: all four numbers are there, but 2 was inserted behind 3 and only
0 and 1 are delivered. -/
theorem misplaced_arrival :
    (∀ n : Fin 4, 0 ≤ Int32.ofNat n) ∧
      ∃ h, Runs.Reached (step fun n : Fin 4 => Int32.ofNat n) init
        [.enqueue 3, .enqueue 2, .enqueue 0, .enqueue 1] h ∧
        h.arrived = [3, 2, 0, 1] ∧ h.queue.mQueue = [0, 1] ∧ h.queue.mPendingQueue = [3, 2] ∧
        ¬ Ordered (fun n : Fin 4 => Int32.ofNat n) h := by
  refine ⟨by decide, ⟨⟨[0, 1], [3, 2], 2, 2⟩, [3, 2, 0, 1], []⟩, Runs.Reached.of_run rfl,
    rfl, rfl, rfl, ?_⟩
  intro ho
  have hsort := ho.pending_sorted
  revert hsort
  decide

end History
end Queue
end Android
end VirtualConnection
