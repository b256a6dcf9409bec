import VirtualConnection.Linux.SegmentQueue

/-!
# Linux.WrapAround

The segment queue on a stream that is longer than its numbers: the segment at position `k` of the
stream carries `k` modulo `2 ^ 32`, and `pos` reads its position.

`enqueue` compares the numbers as they are. That is right as long as the positions it compares lie in
one block of `2 ^ 32`; a segment that is early across the end of a block has a small number, and is
taken for a late one.

* `enqueue_follows`, `enqueue_crossed`: an arrival in the block of the due position, and one behind it.
* `delivered_iff`: the arrival orders on which the queue delivers the stream.
-/

namespace VirtualConnection
namespace Linux

open Resequence

namespace SegmentQueue

/-- The positions of a block have different numbers, in their order. -/
def block (k : ℕ) : ℕ := k / 2 ^ 32

theorem ofNat_eq_iff {j k : ℕ} (h : block j = block k) :
    UInt32.ofNat j = UInt32.ofNat k ↔ j = k := by
  rw [← UInt32.toNat_inj, UInt32.toNat_ofNat', UInt32.toNat_ofNat']
  simp only [block] at h
  omega

theorem ofNat_lt_iff {j k : ℕ} (h : block j = block k) :
    UInt32.ofNat j < UInt32.ofNat k ↔ j < k := by
  rw [UInt32.lt_iff_toNat_lt, UInt32.toNat_ofNat', UInt32.toNat_ofNat']
  simp only [block] at h
  omega

theorem block_succ {j k : ℕ} (h : block k = block j) (hlt : j < k) : block k = block (j + 1) := by
  simp only [block] at h ⊢
  omega

variable {α : Type} {seqNo : α → UInt32} {pos : α → ℕ} {arrived taken : List α}
  {q : SegmentQueue α} {seg : α} {next : ℕ}

/-- The queue has delivered the positions below `next`, and what waits is in its block. -/
structure Follows (pos : α → ℕ) (arrived taken : List α) (next : ℕ) (q : SegmentQueue α) :
    Prop where
  inOrder : InOrder pos (· < ·) arrived (taken ++ q.mMainQueue) q.mPendingQueue next
  expected : q.mExpectedSeqNo = UInt32.ofNat next
  same : ∀ x ∈ q.mPendingQueue, block (pos x) = block next

theorem follows_empty : Follows pos [] [] 0 (empty : SegmentQueue α) :=
  ⟨InOrder.empty, rfl, nofun⟩

theorem Follows.isLeast (h : Follows pos arrived taken next q) :
    IsLeast {n | n ∉ arrived.map pos} next := by
  have hset : {n | n ∉ arrived.map pos} = {n | ∀ x ∈ arrived, pos x ≠ n} := by
    ext n
    simp
  rw [hset]
  exact h.inOrder.isLeast

/-- What has not arrived is not below the due position. -/
theorem Follows.le (h : Follows pos arrived taken next q) (hnew : pos seg ∉ arrived.map pos) :
    next ≤ pos seg :=
  h.isLeast.2 hnew

/-- The last loop: induction on the pending list. While something waits, the due position does not
leave its block. -/
theorem drainPending_follows (hnum : ∀ x, seqNo x = UInt32.ofNat (pos x)) (pending : List α) :
    ∀ (q : SegmentQueue α) (b : Bool) (next : ℕ),
      Settling pos (· < ·) arrived (taken ++ q.mMainQueue) pending next →
      (∀ x ∈ pending, next ≤ pos x) → q.mExpectedSeqNo = UInt32.ofNat next →
      (∀ x ∈ pending, block (pos x) = block next) →
      ∃ next', Follows pos arrived taken next' (drainPending seqNo b q pending).2 := by
  induction pending with
  | nil =>
    intro q b next h _ he _
    have hd : drainPending seqNo b q [] = (b, { q with mPendingQueue := [] }) := rfl
    rw [hd]
    exact ⟨next, h.settle (fun _ _ => Nat.le_of_lt) (by simp), he, nofun⟩
  | cons curr rest ih =>
    intro q b next h hge he hsame
    have hblock := hsame curr List.mem_cons_self
    have hiff : seqNo curr = q.mExpectedSeqNo ↔ pos curr = next := by
      rw [hnum, he]
      exact ofNat_eq_iff hblock
    by_cases hc : pos curr = next
    · have hd : drainPending seqNo b q (curr :: rest) =
          drainPending seqNo true (q.pushMain curr) rest := by
        simp [drainPending, hiff.mpr hc]
      have hgt : ∀ x ∈ rest, next < pos x := by
        intro x hx
        have := List.rel_of_pairwise_cons h.sorted hx
        omega
      rw [hd]
      refine ih (q.pushMain curr) true (next + 1) (by simpa [pushMain] using h.move hc) hgt ?_ ?_
      · simp [pushMain, he]
      · exact fun x hx => block_succ (hsame x (List.mem_cons_of_mem _ hx)) (hgt x hx)
    · have hd : drainPending seqNo b q (curr :: rest) =
          (b, { q with mPendingQueue := curr :: rest }) := by
        simp [drainPending, mt hiff.mp hc]
      rw [hd]
      refine ⟨next, h.settle (fun _ _ => Nat.le_of_lt) ?_, he, hsame⟩
      intro y hy
      obtain rfl : curr = y := by simpa using hy
      have := hge curr List.mem_cons_self
      omega

/-- An arrival in the block of the due position is delivered, or waits at its place. -/
theorem enqueue_follows (hnum : ∀ x, seqNo x = UInt32.ofNat (pos x))
    (h : Follows pos arrived taken next q) (hnew : pos seg ∉ arrived.map pos)
    (hblock : block (pos seg) = block next) :
    ∃ b q' next', enqueue seqNo q seg = .ok (b, q') ∧
      Follows pos (arrived ++ [seg]) taken next' q' := by
  have hiff : seqNo seg = q.mExpectedSeqNo ↔ pos seg = next := by
    rw [hnum, h.expected]
    exact ofNat_eq_iff hblock
  by_cases hc : pos seg = next
  · obtain ⟨next', hd⟩ := drainPending_follows hnum q.mPendingQueue (q.pushMain seg) true (next + 1)
      (by simpa [pushMain] using h.inOrder.accept hc) h.inOrder.gap (by simp [pushMain, h.expected])
      fun x hx => block_succ (h.same x hx) (h.inOrder.gap x hx)
    have hok : enqueue seqNo q seg =
        .ok (drainPending seqNo true (q.pushMain seg) q.mPendingQueue) := by
      simp [enqueue, hiff.mpr hc]
    exact ⟨_, _, next', hok, hd⟩
  · have hlt : next < pos seg := Nat.lt_of_le_of_ne (h.le hnew) (Ne.symm hc)
    have hgt : seqNo seg > q.mExpectedSeqNo := by
      rw [gt_iff_lt, hnum, h.expected, ofNat_lt_iff hblock.symm]
      exact hlt
    -- in one block, the order of the positions is the order of the numbers
    have hkey : ∀ x y, block (pos x) = block next → block (pos y) = block next →
        (key seqNo x < key seqNo y ↔ pos x < pos y) := by
      intro x y hx hy
      rw [key, key, ← UInt32.lt_iff_toNat_lt, hnum, hnum]
      exact ofNat_lt_iff (hx.trans hy.symm)
    have hsorted : q.mPendingQueue.Pairwise fun a b => key seqNo a < key seqNo b :=
      h.inOrder.sorted.imp_of_mem fun ha hb hab => (hkey _ _ (h.same _ ha) (h.same _ hb)).mpr hab
    have hne : ∀ x ∈ q.mPendingQueue, seqNo x ≠ seqNo seg := by
      intro x hx hxs
      rw [hnum, hnum, ofNat_eq_iff ((h.same x hx).trans hblock.symm)] at hxs
      exact hnew (List.mem_map.mpr ⟨x, h.inOrder.sound x (.inr hx), hxs⟩)
    obtain ⟨pending, hok, hperm, hsort⟩ := insertPending_spec seg q.mPendingQueue hsorted hne
    have hsame : ∀ x ∈ pending, block (pos x) = block next := by
      intro x hx
      rcases List.mem_cons.mp (hperm.mem_iff.mp hx) with rfl | hx
      · exact hblock
      · exact h.same x hx
    have hdefer := h.inOrder.defer hlt hperm
      (hsort.imp_of_mem fun ha hb hab => (hkey _ _ (hsame _ ha) (hsame _ hb)).mp hab)
    obtain ⟨next', hd⟩ := drainPending_follows hnum pending q false next hdefer.toSettling
      (fun x hx => (hdefer.gap x hx).le) h.expected hsame
    have hok' : enqueue seqNo q seg = .ok (drainPending seqNo false q pending) := by
      simp [enqueue, mt hiff.mp hc, hgt, hok]
    exact ⟨_, _, next', hok', hd⟩

/-- An early arrival from the next block has a number below the expected one. -/
theorem enqueue_crossed (hnum : ∀ x, seqNo x = UInt32.ofNat (pos x))
    (h : Follows pos arrived taken next q) (hnew : pos seg ∉ arrived.map pos)
    (hwindow : pos seg ≤ next + (2 ^ 31 - 1)) (hblock : block (pos seg) ≠ block next) :
    enqueue seqNo q seg = .error .assertion := by
  have hle := h.le hnew
  have hlt : seqNo seg < q.mExpectedSeqNo := by
    rw [hnum, h.expected, UInt32.lt_iff_toNat_lt, UInt32.toNat_ofNat', UInt32.toNat_ofNat']
    simp only [block] at hblock
    omega
  have hne : seqNo seg ≠ q.mExpectedSeqNo := fun he => UInt32.lt_irrefl _ (he ▸ hlt)
  have hngt : ¬ seqNo seg > q.mExpectedSeqNo := UInt32.lt_asymm hlt
  simp [enqueue, hne, hngt]

theorem dequeue_follows {rest : List α} (h : Follows pos arrived taken next q)
    (hm : q.mMainQueue = seg :: rest) :
    ∃ q', dequeue q = .ok (seg, q') ∧ Follows pos arrived (taken ++ [seg]) next q' := by
  refine ⟨{ q with mMainQueue := rest, mQueueLength := q.mQueueLength - 1 }, by simp [dequeue, hm],
    ?_, h.expected, h.same⟩
  simpa [hm] using h.inOrder

/-! ## Arrival orders -/

/-- Every arrival stands in the relation `P` to the position that is due when it comes: the least one
that has not arrived. -/
def Arrives (P : ℕ → ℕ → Prop) : List ℕ → List ℕ → Prop
  | _, [] => True
  | before, k :: later =>
    (∀ due, IsLeast {n | n ∉ before} due → P due k) ∧ Arrives P (before ++ [k]) later

/-- At most `2 ^ 31 - 1` positions ahead. -/
def InWindow (due k : ℕ) : Prop := k ≤ due + (2 ^ 31 - 1)

def SameBlock (due k : ℕ) : Prop := block k = block due

namespace History

/-- What has been delivered is the stream, up to the first position that has not arrived. -/
def Delivered (pos : α → ℕ) (h : History α) : Prop :=
  ∃ due, IsLeast {n | n ∉ h.arrived.map pos} due ∧
    (h.taken ++ h.queue.mMainQueue).map pos = List.range due

/-- The run lemma: the calls are followed, or an arrival from another block stops them. -/
theorem run_cases (hnum : ∀ x, seqNo x = UInt32.ofNat (pos x)) (ops : List (Op α)) :
    ∀ (h : History α) (next : ℕ), Follows pos h.arrived h.taken next h.queue →
      (h.arrived.map pos ++ (enqueued ops).map pos).Nodup →
      Arrives InWindow (h.arrived.map pos) ((enqueued ops).map pos) →
      Runs.run (step seqNo) h ops ≠ .error .emptyFront →
      Arrives SameBlock (h.arrived.map pos) ((enqueued ops).map pos) ∧
          (∃ h' next', Runs.run (step seqNo) h ops = .ok h' ∧
            h'.arrived = h.arrived ++ enqueued ops ∧
            Follows pos h'.arrived h'.taken next' h'.queue) ∨
        ¬ Arrives SameBlock (h.arrived.map pos) ((enqueued ops).map pos) ∧
          Runs.run (step seqNo) h ops = .error .assertion := by
  induction ops with
  | nil =>
    intro h next hfol _ _ _
    exact .inl ⟨trivial, h, next, rfl, by simp [enqueued], hfol⟩
  | cons op ops ih =>
    intro h next hfol honce hwindow hf
    cases op with
    | enqueue seg =>
      simp only [enqueued, List.map_cons] at honce hwindow ⊢
      have hnew : pos seg ∉ h.arrived.map pos := fun hmem =>
        (List.nodup_append.mp honce).2.2 _ hmem _ List.mem_cons_self rfl
      have hdue : ∀ due, IsLeast {n | n ∉ h.arrived.map pos} due → due = next :=
        fun due hdue => hdue.unique hfol.isLeast
      by_cases hblock : block (pos seg) = block next
      · obtain ⟨b, q', next', hok, hfol'⟩ := enqueue_follows hnum hfol hnew hblock
        have hs : step seqNo h (.enqueue seg) =
            .ok { h with queue := q', arrived := h.arrived ++ [seg] } := by
          simp [step, hok]
        have hfirst : ∀ due, IsLeast {n | n ∉ h.arrived.map pos} due → SameBlock due (pos seg) :=
          fun due hleast => hdue due hleast ▸ hblock
        rw [Runs.run_cons_ok ops hs] at hf ⊢
        rcases ih _ next' hfol' (by simpa using honce) (by simpa using hwindow.2) hf with
          ⟨hlater, h', n, hr, ha, hfol''⟩ | ⟨hlater, hr⟩
        · exact .inl ⟨⟨hfirst, by simpa using hlater⟩, h', n, hr, by simpa using ha, hfol''⟩
        · exact .inr ⟨fun hsame => hlater (by simpa using hsame.2), hr⟩
      · have herr := enqueue_crossed hnum hfol hnew (hwindow.1 next hfol.isLeast) hblock
        refine .inr ⟨fun hsame => hblock (hsame.1 next hfol.isLeast), ?_⟩
        simp [Runs.run, step, herr]
    | dequeue =>
      cases hm : h.queue.mMainQueue with
      | nil =>
        have hs : step seqNo h .dequeue = .error .emptyFront := by simp [step, dequeue, hm]
        exact absurd (by simp [Runs.run, hs]) hf
      | cons seg rest =>
        obtain ⟨q', hok, hfol'⟩ := dequeue_follows hfol hm
        have hs : step seqNo h .dequeue = .ok { h with queue := q', taken := h.taken ++ [seg] } := by
          simp [step, hok]
        rw [Runs.run_cons_ok ops hs] at hf ⊢
        exact ih { h with queue := q', taken := h.taken ++ [seg] } next hfol' honce hwindow hf

theorem run_cases_init (hnum : ∀ x, seqNo x = UInt32.ofNat (pos x)) (ops : List (Op α))
    (honce : ((enqueued ops).map pos).Nodup)
    (hwindow : Arrives InWindow [] ((enqueued ops).map pos))
    (hf : Runs.run (step seqNo) init ops ≠ .error .emptyFront) :
    Arrives SameBlock [] ((enqueued ops).map pos) ∧
        (∃ h next, Runs.run (step seqNo) init ops = .ok h ∧ h.arrived = enqueued ops ∧
          Follows pos h.arrived h.taken next h.queue) ∨
      ¬ Arrives SameBlock [] ((enqueued ops).map pos) ∧
        Runs.run (step seqNo) init ops = .error .assertion :=
  run_cases hnum ops init 0 follows_empty honce hwindow hf

/-- **The stream across the wraps.** The queue delivers the stream, whatever its length, if and only if
no segment comes early from the block behind the due position. -/
theorem delivered_iff (hnum : ∀ x, seqNo x = UInt32.ofNat (pos x)) (ops : List (Op α))
    (honce : ((enqueued ops).map pos).Nodup)
    (hwindow : Arrives InWindow [] ((enqueued ops).map pos))
    (hf : Runs.run (step seqNo) init ops ≠ .error .emptyFront) :
    (∃ h, Runs.run (step seqNo) init ops = .ok h ∧ h.arrived = enqueued ops ∧ Delivered pos h) ↔
      Arrives SameBlock [] ((enqueued ops).map pos) := by
  rcases run_cases_init hnum ops honce hwindow hf with
    ⟨hsame, h, next, hr, ha, hfol⟩ | ⟨hsame, herr⟩
  · exact iff_of_true ⟨h, hr, ha, next, hfol.isLeast, hfol.inOrder.out_keys⟩ hsame
  · exact iff_of_false (fun ⟨h, hr, _⟩ => nomatch hr.symm.trans herr) hsame

/-- The first segments of a stream, with an early one among them. -/
theorem delivered_iff_early :
    ∃ h : History ℕ, Runs.run (step UInt32.ofNat) init
      [.enqueue 1, .enqueue 0, .dequeue, .enqueue 2] = .ok h ∧ Delivered id h := by
  have hdue : ∀ {before : List ℕ} {n due : ℕ}, n ∉ before → IsLeast {n | n ∉ before} due → due ≤ n :=
    fun hn hdue => hdue.2 hn
  have hblock : ∀ {due k : ℕ}, due < 2 ^ 32 → k < 2 ^ 32 → SameBlock due k := by
    intro due k hd hk
    simp only [SameBlock, block]
    omega
  obtain ⟨h, hr, -, hd⟩ := (@delivered_iff ℕ UInt32.ofNat id (fun _ => rfl)
    [.enqueue 1, .enqueue 0, .dequeue, .enqueue 2] (by decide)
    ⟨fun due _ => by simp [InWindow], fun due _ => by simp [InWindow],
      fun due _ => by simp [InWindow], trivial⟩ (by decide)).mpr
    ⟨fun due h => hblock (by have := hdue (n := 0) (by simp) h; omega) (by decide),
      fun due h => hblock (by have := hdue (n := 0) (by simp) h; omega) (by decide),
      fun due h => hblock (by have := hdue (n := 2) (by simp) h; omega) (by decide), trivial⟩
  exact ⟨h, hr, hd⟩

/-- The first `n` segments in order. -/
def inOrder (n : ℕ) : List (Op ℕ) := (List.range n).map .enqueue

theorem run_inOrder (n : ℕ) : ∃ h, Runs.run (step UInt32.ofNat) init (inOrder n) = .ok h ∧
    h.arrived = List.range n ∧ Follows id h.arrived h.taken n h.queue := by
  induction n with
  | zero => exact ⟨init, rfl, rfl, follows_empty⟩
  | succ n ih =>
    obtain ⟨h, hr, ha, hfol⟩ := ih
    have hnew : id n ∉ h.arrived.map id := by simp [ha]
    have hnum : ∀ k : ℕ, UInt32.ofNat k = UInt32.ofNat (id k) := fun _ => rfl
    obtain ⟨b, q', next', hok, hfol'⟩ := enqueue_follows hnum hfol hnew rfl
    have harrived : h.arrived ++ [n] = List.range (n + 1) := by rw [ha, List.range_succ]
    have hleast : IsLeast {k | k ∉ (h.arrived ++ [n]).map id} (n + 1) := by
      rw [harrived]
      exact ⟨by simp, fun k hk => by simpa using hk⟩
    rw [hfol'.isLeast.unique hleast] at hfol'
    refine ⟨{ h with queue := q', arrived := h.arrived ++ [n] }, ?_, harrived, hfol'⟩
    rw [inOrder, List.range_succ, List.map_append]
    exact Runs.run_snoc.mpr ⟨h, hr, by simp only [step] at hok ⊢; rw [hok]⟩

/-- Position `2 ^ 32` comes before position `2 ^ 32 - 1`: its number is 0, and the expected number is
`2 ^ 32 - 1`. -/
theorem early_across_wrap :
    ∃ h, Runs.run (step UInt32.ofNat) init (inOrder (2 ^ 32 - 1)) = .ok h ∧
      IsLeast {n | n ∉ h.arrived} (2 ^ 32 - 1) ∧ 2 ^ 32 ∉ h.arrived ∧
      InWindow (2 ^ 32 - 1) (2 ^ 32) ∧
      h.queue.enqueue UInt32.ofNat (2 ^ 32) = .error .assertion := by
  obtain ⟨h, hr, ha, hfol⟩ := run_inOrder (2 ^ 32 - 1)
  have hnew : 2 ^ 32 ∉ h.arrived := by
    rw [ha, List.mem_range]
    omega
  refine ⟨h, hr, by simpa using hfol.isLeast, hnew, by simp [InWindow], ?_⟩
  exact enqueue_crossed (fun _ => rfl) hfol (by simpa using hnew) (by simp) (by simp [block])

end History
end SegmentQueue
end Linux
end VirtualConnection
