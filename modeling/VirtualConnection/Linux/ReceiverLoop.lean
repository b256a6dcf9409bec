import VirtualConnection.Lib.Runs
import VirtualConnection.Linux.ServerSocket

/-!
# Linux.ReceiverLoop

One run of `ReceiverThread::receiver_loop` over one connection. The peer has sent `frames`, one
behind the other; a pass of the loop asks for one frame, and `poll` and `recv` deliver what they
like of it. The loop keeps nothing of a frame it did not get whole, and it looks at `errno` even when
the frame is whole.

`errno` keeps its value across calls that succeed, so one interrupted call makes it stale for good.
While it is, every frame that comes in is thrown away: the loop drops nothing exactly as long as the
bytes it throws away complete no frame but acknowledgements (`Kept`).
-/

namespace VirtualConnection
namespace Linux

open Bytes Transfer

/-- `RES_OK`, `RES_CONTINUE` and `RES_BREAK`. -/
inductive Res where
  | ok
  | continue
  | break
  deriving DecidableEq, Repr

/-- The error numbers that `receive_buffer` takes for a call to be repeated. -/
def Interrupted (errno : ℕ) : Prop :=
  errno = EINTR ∨ errno = EAGAIN ∨ errno = EWOULDBLOCK ∨ errno = EINPROGRESS

instance (errno : ℕ) : Decidable (Interrupted errno) := inferInstanceAs (Decidable (_ ∨ _))

/-- `receive_buffer`, after `ServerAdapter::receive`. -/
def receiveBuffer (res : Int) (errno len : ℕ) : Res :=
  if res = -999 then .continue
  else if errno = EINTR then .continue
  else if errno = EAGAIN ∨ errno = EWOULDBLOCK ∨ errno = EINPROGRESS then .continue
  else if res ≠ len then .break
  else .ok

/-- What a pass meets; `segmentToReceive` is what `pop_free_segment` returned. -/
structure Reception where
  segmentToReceive : Segment
  adapterState : ServerAdapterState
  poll : Poll
  calls : List Syscall

/-- The queue that `receiver_loop` enqueues to. -/
def recvQueueType (seg : Segment) : SegQueueType :=
  if seg.isControl then .kSQRecvControl else .kSQRecvData

/-- The loop: its socket, the thread's `errno`, whether it has been left, how many bytes of the
connection it has read, and what it has enqueued. -/
structure ReceiverLoop where
  socket : ServerSocket
  errno : ℕ
  isRunning : Bool
  pos : ℕ
  enqueued : List (SegQueueType × Segment)

namespace ReceiverLoop

def start (socket : ServerSocket) (errno : ℕ) : ReceiverLoop := ⟨socket, errno, true, 0, []⟩

/-- The bytes that the peer has sent. -/
def stream (frames : List (Area segmentDataSize)) : List UInt8 := frames.flatMap fun f => f.1

/-- The buffer of the segment after `recv` wrote `bytes` to it. -/
def received (seg : Segment) (bytes : List UInt8) : Area segmentDataSize :=
  seg.data.store 0 (bytes.take segmentDataSize) (by rw [List.length_take]; omega)

/-- A pass of the loop. Bytes that the peer has not sent cannot come in. -/
def pass (frames : List (Area segmentDataSize)) (s : ReceiverLoop) (reception : Reception) :
    Except Stop ReceiverLoop :=
  if s.isRunning = false then .error .waiting
  else
    match ServerAdapter.receive reception.adapterState s.socket s.errno segmentDataSize reception.poll
        reception.calls with
    | none => .error .waiting
    | some (o, socket) =>
      if (stream frames).length < s.pos + o.moved then .error .waiting
      else
        let s' := { s with socket := socket, errno := o.errno, pos := s.pos + o.moved }
        match receiveBuffer o.res o.errno segmentDataSize with
        | .continue => .ok s'
        | .break => .ok { s' with isRunning := false }
        | .ok =>
          let seg := readHeader (received reception.segmentToReceive
            (((stream frames).drop s.pos).take o.moved))
          if seg.isAck then .ok s'
          else .ok { s' with enqueued := s.enqueued ++ [(recvQueueType seg, seg)] }

inductive Label where
  | pass (reception : Reception)
  /-- `is_loop_enabled` is false at the head of the loop. -/
  | disable
  /-- Another thread closes the socket. -/
  | close

def step (frames : List (Area segmentDataSize)) (s : ReceiverLoop) :
    Label → Except Stop ReceiverLoop
  | .pass reception => pass frames s reception
  | .disable => .ok { s with isRunning := false }
  | .close => .ok { s with socket := { s.socket with mState := .kClosed, mClientSocket := 0 } }

/-! ## What should come in -/

/-- What the first `n` frames hold for the queues. -/
def expected (frames : List (Area segmentDataSize)) (n : ℕ) : List (SegQueueType × Segment) :=
  ((frames.take n).map readHeader).filter (fun seg => !seg.isAck) |>.map fun seg =>
    (recvQueueType seg, seg)

/-- As long as the loop runs, it has enqueued what the frames delivered so far hold. -/
def Faithful (frames : List (Area segmentDataSize)) (s : ReceiverLoop) : Prop :=
  s.isRunning = true → s.enqueued = expected frames (s.pos / segmentDataSize)

/-- The pass reads `moved` bytes and throws them away. -/
def Discards (s : ReceiverLoop) (reception : Reception) (moved : ℕ) : Prop :=
  ServerAdapter.CanReceive reception.adapterState s.socket ∧ reception.poll = .ready ∧
    (Interrupted s.errno ∧ Through segmentDataSize reception.calls ∧ moved = segmentDataSize ∨
      ∃ e, Interrupted e ∧ Halted segmentDataSize s.errno moved e reception.calls)

/-- What a pass throws away completes no frame but acknowledgements. -/
def Kept (frames : List (Area segmentDataSize)) (s : ReceiverLoop) : Label → Prop
  | .pass reception => ∀ moved, s.Discards reception moved → ∀ k (hk : k < frames.length),
      s.pos < segmentDataSize * (k + 1) → segmentDataSize * (k + 1) ≤ s.pos + moved →
      (readHeader frames[k]).isAck = true
  | _ => True

/-! ## The calls of a pass -/

variable {frames : List (Area segmentDataSize)} {s s' : ReceiverLoop} {reception : Reception}

theorem receiveBuffer_ok {res : Int} {errno len : ℕ} (h : receiveBuffer res errno len = .ok) :
    ¬ Interrupted errno ∧ res = len := by
  unfold receiveBuffer at h
  split_ifs at h with h999 hintr hagain hlen
  exact ⟨by simp [Interrupted, hintr, not_or.mp hagain], not_not.mp hlen⟩

theorem receiveBuffer_continue {res : Int} {errno len : ℕ}
    (h : receiveBuffer res errno len = .continue) : res = -999 ∨ Interrupted errno := by
  unfold receiveBuffer at h
  split_ifs at h with h999 hintr hagain hlen
  · exact .inl h999
  · exact .inr (.inl hintr)
  · exact .inr (.inr hagain)

theorem receiveBuffer_interrupted (res : Int) (len : ℕ) {errno : ℕ} (h : Interrupted errno) :
    receiveBuffer res errno len = .continue := by
  unfold receiveBuffer
  split_ifs with h999 hintr hagain hlen <;> [rfl; rfl; rfl; skip; skip] <;>
    exact absurd h (by simp [Interrupted, hintr, not_or.mp hagain])

theorem pass_ok (h : pass frames s reception = .ok s') :
    s.isRunning = true ∧ ∃ o socket,
      ServerAdapter.receive reception.adapterState s.socket s.errno segmentDataSize reception.poll
          reception.calls = some (o, socket) ∧
        s.pos + o.moved ≤ (stream frames).length ∧ s'.pos = s.pos + o.moved ∧ s'.errno = o.errno ∧
        (receiveBuffer o.res o.errno segmentDataSize = .continue ∧ s'.isRunning = true ∧
            s'.enqueued = s.enqueued ∨
          receiveBuffer o.res o.errno segmentDataSize = .break ∧ s'.isRunning = false ∧
            s'.enqueued = s.enqueued ∨
          receiveBuffer o.res o.errno segmentDataSize = .ok ∧ s'.isRunning = true ∧
            s'.enqueued = s.enqueued ++ expected [received reception.segmentToReceive
              (((stream frames).drop s.pos).take o.moved)] 1) := by
  unfold pass at h
  split at h
  · cases h
  next hrun =>
  have hrun' : s.isRunning = true := by simpa using hrun
  split at h
  · cases h
  next o socket hr =>
  split at h
  · cases h
  next hpos =>
  refine ⟨hrun', o, socket, hr, by omega, ?_⟩
  simp only at h
  split at h
  · next hb => cases h; exact ⟨rfl, rfl, .inl ⟨hb, hrun', rfl⟩⟩
  · next hb => cases h; exact ⟨rfl, rfl, .inr (.inl ⟨hb, rfl, rfl⟩)⟩
  · next hb =>
    split at h
    · next hack => cases h; exact ⟨rfl, rfl, .inr (.inr ⟨hb, hrun', by simp [expected, hack]⟩)⟩
    · next hack => cases h; exact ⟨rfl, rfl, .inr (.inr ⟨hb, hrun', by simp [expected, hack]⟩)⟩

/-! ## Frames and positions -/

theorem expected_succ {k : ℕ} (hk : k < frames.length) :
    expected frames (k + 1) = expected frames k ++ expected [frames[k]] 1 := by
  unfold expected
  rw [List.take_succ_eq_append_getElem hk, List.map_append, List.filter_append, List.map_append]
  rfl

theorem expected_stable {n m : ℕ} (hnm : n ≤ m) (h : ∀ k (hk : k < frames.length), n ≤ k → k < m →
    (readHeader frames[k]).isAck = true) : expected frames m = expected frames n := by
  induction m, hnm using Nat.le_induction with
  | base => rfl
  | succ m hm ih =>
    rw [← ih fun k hk hn hlt => h k hk hn (by omega)]
    by_cases hlt : m < frames.length
    · rw [expected_succ hlt]
      simp [expected, h m hlt hm (by omega)]
    · simp [expected, List.take_of_length_le (show frames.length ≤ m + 1 by omega),
        List.take_of_length_le (show frames.length ≤ m by omega)]

theorem expected_length_mono (frames : List (Area segmentDataSize)) {n m : ℕ} (hnm : n ≤ m) :
    (expected frames n).length ≤ (expected frames m).length := by
  have hp : frames.take n <+: frames.take m := List.take_prefix_take_left hnm
  exact (((hp.map readHeader).filter _).map _).length_le

theorem expected_length_lt {n m k : ℕ} (hk : k < frames.length) (hn : n ≤ k) (hm : k < m)
    (hack : (readHeader frames[k]).isAck = false) :
    (expected frames n).length < (expected frames m).length := by
  have hstep : (expected frames (k + 1)).length = (expected frames k).length + 1 := by
    rw [expected_succ hk]
    simp [expected, hack]
  have := expected_length_mono frames hn
  have := expected_length_mono frames (show k + 1 ≤ m by omega)
  omega

theorem completes_iff {pos moved k : ℕ} : pos < segmentDataSize * (k + 1) ∧
    segmentDataSize * (k + 1) ≤ pos + moved ↔
      pos / segmentDataSize ≤ k ∧ k < (pos + moved) / segmentDataSize := by
  have h540 : segmentDataSize = 540 := rfl
  rw [h540]
  omega

theorem received_eq {seg : Segment} {k : ℕ} (hk : k < frames.length) :
    received seg (((stream frames).drop (segmentDataSize * k)).take segmentDataSize) = frames[k] := by
  have hpiece := piece_flatMap frames hk
  apply Subtype.ext
  have hlen : (frames[k]).1.length = segmentDataSize := frames[k].2
  rw [piece] at hpiece
  simp only [received, Area.store, stream, hpiece, overwrite]
  rw [List.take_of_length_le (le_of_eq hlen), hlen]
  simp [List.drop_eq_nil_of_le (le_of_eq seg.data.2)]

/-! ## What the loop keeps -/

/-- While `errno` is not stale, the loop stands at the border of two frames. -/
structure Steady (frames : List (Area segmentDataSize)) (s : ReceiverLoop) : Prop where
  faithful : Faithful frames s
  border : s.isRunning = true → ¬ Interrupted s.errno → segmentDataSize ∣ s.pos

theorem steady_start (socket : ServerSocket) (errno : ℕ) :
    Steady frames (start socket errno) where
  faithful := by intro _; simp [start, expected]
  border := by intro _ _; simp [start]

/-- A pass that throws bytes away goes on, having enqueued nothing. -/
theorem pass_discards {moved : ℕ} (hd : s.Discards reception moved)
    (h : pass frames s reception = .ok s') :
    s'.isRunning = true ∧ s'.enqueued = s.enqueued ∧ s'.pos = s.pos + moved := by
  obtain ⟨hc, hready, hcalls⟩ := hd
  obtain ⟨hrun, o, socket, hr, -, hpos, -, hend⟩ := pass_ok h
  have ho : transfer segmentDataSize s.errno 0 reception.calls = some o := by
    rcases ServerAdapter.receive_eq_some hr with ⟨-, -, -, hn⟩ | ⟨-, -, ho⟩
    · exact absurd ⟨hc, hready⟩ hn
    · exact ho
  have hout : Interrupted o.errno ∧ o.moved = moved := by
    rcases hcalls with ⟨hi, ht, rfl⟩ | ⟨e, hi, hh⟩
    · obtain rfl := Option.some.inj (ho.symm.trans (transfer_through _ ht))
      exact ⟨hi, rfl⟩
    · obtain ⟨-, rfl, hm⟩ := hh.unique ho
      exact ⟨hi, hm⟩
  have hcont := receiveBuffer_interrupted o.res segmentDataSize hout.1
  rw [hcont] at hend
  rcases hend with ⟨-, hrun', he⟩ | ⟨hb, -⟩ | ⟨hb, -⟩
  · exact ⟨hrun', he, by rw [hpos, hout.2]⟩
  · cases hb
  · cases hb

theorem steady_of_stopped (h : s.isRunning = false) : Steady frames s :=
  ⟨fun hr => by simp [h] at hr, fun hr => by simp [h] at hr⟩

/-- What is thrown away completes no frame that is expected. -/
theorem steady_discards {moved : ℕ} (hs : Steady frames s) (hk : Kept frames s (.pass reception))
    (hd : s.Discards reception moved) (h : pass frames s reception = .ok s')
    (hi : Interrupted s'.errno) : Steady frames s' := by
  obtain ⟨-, hq, hpos⟩ := pass_discards hd h
  refine ⟨fun _ => ?_, fun _ hn => absurd hi hn⟩
  rw [hq, hpos, hs.faithful (pass_ok h).1]
  refine (expected_stable (Nat.div_le_div_right (by omega)) fun k hkl hn hlt => ?_).symm
  obtain ⟨h1, h2⟩ := completes_iff.mpr ⟨hn, hlt⟩
  exact hk moved hd k hkl h1 h2

theorem steady_frame (hs : Steady frames s) (hrun : s.isRunning = true) (hi : ¬ Interrupted s.errno)
    (hfit : s.pos + segmentDataSize ≤ (stream frames).length)
    (hpos : s'.pos = s.pos + segmentDataSize) {seg : Segment}
    (hq : s'.enqueued = s.enqueued ++
      expected [received seg (((stream frames).drop s.pos).take segmentDataSize)] 1) :
    Steady frames s' := by
  have h540 : 0 < segmentDataSize := by decide
  obtain ⟨k, hk⟩ := hs.border hrun hi
  have hkl : k < frames.length := by
    rw [stream, length_flatMap_area, hk, ← Nat.mul_succ] at hfit
    exact Nat.le_of_mul_le_mul_left hfit h540
  have hdiv : s.pos / segmentDataSize = k := by
    rw [hk]
    exact Nat.mul_div_cancel_left k h540
  have hpos' : s'.pos = segmentDataSize * (k + 1) := by rw [hpos, hk, Nat.mul_succ]
  refine ⟨fun _ => ?_, fun _ _ => ⟨k + 1, hpos'⟩⟩
  rw [hq, hs.faithful hrun, hdiv, hpos', Nat.mul_div_cancel_left _ h540, expected_succ hkl, hk,
    received_eq hkl]

theorem steady_pass (hs : Steady frames s) (hk : Kept frames s (.pass reception))
    (h : pass frames s reception = .ok s') : Steady frames s' := by
  have h540 : 0 < segmentDataSize := by decide
  obtain ⟨hrun, o, socket, hr, hfit, hpos, herr, hend⟩ := pass_ok h
  rcases hend with ⟨hb, hrun', hq⟩ | ⟨-, hstop, -⟩ | ⟨hb, -, hq⟩
  · rcases ServerAdapter.receive_eq_some hr with ⟨h0, -, hsame, -⟩ | ⟨hc, hready, ho⟩
    · have hpos' : s'.pos = s.pos := by omega
      refine ⟨fun _ => by rw [hq, hpos', hs.faithful hrun], fun _ hn => ?_⟩
      rw [herr] at hn
      have hout : o.res = -999 := (receiveBuffer_continue hb).resolve_right hn
      have hkeep : o.errno = s.errno := hsame.resolve_right (by omega)
      rw [hpos']
      exact hs.border hrun (hkeep ▸ hn)
    · have hd : Interrupted o.errno ∧ s.Discards reception o.moved := by
        rcases transfer_eq_some ho with ⟨ht, rfl⟩ | ⟨hh, hlow, hres⟩
        · have hi := (receiveBuffer_continue hb).resolve_left (by simp)
          exact ⟨hi, hc, hready, .inl ⟨hi, ht, rfl⟩⟩
        · have hi := (receiveBuffer_continue hb).resolve_left (by omega)
          exact ⟨hi, hc, hready, .inr ⟨o.errno, hi, hh⟩⟩
      exact steady_discards hs hk hd.2 h (herr ▸ hd.1)
  · exact steady_of_stopped hstop
  · obtain ⟨hi, hres⟩ := receiveBuffer_ok hb
    rcases ServerAdapter.receive_eq_some hr with ⟨-, hneg, -⟩ | ⟨-, -, ho⟩
    · omega
    · rcases transfer_eq_some ho with ⟨-, rfl⟩ | ⟨-, -, hle⟩
      · exact steady_frame hs hrun hi hfit hpos hq
      · omega

theorem step_steady (l : Label) (hs : Steady frames s) (hk : Kept frames s l)
    (h : step frames s l = .ok s') : Steady frames s' := by
  cases l with
  | pass reception => exact steady_pass hs hk h
  | disable =>
    cases h
    exact steady_of_stopped rfl
  | close =>
    cases h
    exact ⟨hs.faithful, hs.border⟩

/-- A pass that throws away the rest of a frame to be enqueued loses it. -/
theorem not_faithful_pass (hs : Steady frames s) (hk : ¬ Kept frames s (.pass reception))
    (h : pass frames s reception = .ok s') : ¬ Faithful frames s' := by
  simp only [Kept] at hk
  push Not at hk
  obtain ⟨moved, hd, k, hkl, h1, h2, hack⟩ := hk
  obtain ⟨hrun', hq, hpos⟩ := pass_discards hd h
  obtain ⟨hn, hlt⟩ := completes_iff.mp ⟨h1, h2⟩
  intro hf
  have hloss := expected_length_lt hkl hn hlt (by simpa using hack)
  rw [← hpos, ← hf hrun', hq, hs.faithful (pass_ok h).1] at hloss
  exact absurd hloss (lt_irrefl _)

/-- **Nothing is dropped or misread.** In every state of a run the loop has enqueued what the
delivered frames hold if and only if the bytes it throws away complete no frame but
acknowledgements. -/
theorem faithful_iff (frames : List (Area segmentDataSize)) (socket : ServerSocket) (errno : ℕ)
    (ls : List Label) :
    (∀ t, Runs.Reached (step frames) (start socket errno) ls t → Faithful frames t) ↔
      Runs.AllSteps (step frames) (Kept frames) (start socket errno) ls := by
  refine Runs.throughout_iff_allSteps (fun s hs => hs.faithful)
    (fun s l s' hs hk h => step_steady l hs hk h) (fun s l s' hs hk h => ?_)
    (steady_start socket errno)
  cases l with
  | pass reception => exact not_faithful_pass hs hk h
  | disable => exact absurd trivial hk
  | close => exact absurd trivial hk

/-! ## What a loop leaves behind -/

/-- The pass reads `moved` bytes and enqueues nothing, whether the loop goes on or not. -/
def Drops (s : ReceiverLoop) (reception : Reception) (moved : ℕ) : Prop :=
  ServerAdapter.CanReceive reception.adapterState s.socket ∧ reception.poll = .ready ∧
    (Interrupted s.errno ∧ Through segmentDataSize reception.calls ∧ moved = segmentDataSize ∨
      ∃ e, Halted segmentDataSize s.errno moved e reception.calls)

/-- What a pass reads without enqueuing it completes no frame but acknowledgements. -/
def Careful (frames : List (Area segmentDataSize)) (s : ReceiverLoop) : Label → Prop
  | .pass reception => ∀ moved, s.Drops reception moved → ∀ k (hk : k < frames.length),
      s.pos < segmentDataSize * (k + 1) → segmentDataSize * (k + 1) ≤ s.pos + moved →
      (readHeader frames[k]).isAck = true
  | _ => True

theorem drops_iff {moved : ℕ} : s.Drops reception moved ↔
    (ServerAdapter.CanReceive reception.adapterState s.socket ∧ reception.poll = .ready) ∧
      ∃ o, transfer segmentDataSize s.errno 0 reception.calls = some o ∧
        (Interrupted s.errno ∨ o.res ≤ 0) ∧ o.moved = moved := by
  unfold Drops
  rw [← and_assoc]
  refine and_congr_right fun _ => ⟨?_, ?_⟩
  · rintro (⟨hi, ht, rfl⟩ | ⟨e, hh⟩)
    · exact ⟨_, transfer_through _ ht, .inl hi, rfl⟩
    · obtain ⟨res, -, hres, ho⟩ := transfer_halted hh
      exact ⟨_, ho, .inr hres, rfl⟩
  · rintro ⟨o, ho, hres, rfl⟩
    rcases transfer_eq_some ho with ⟨ht, rfl⟩ | ⟨hh, -⟩
    · have hpos : ¬ (segmentDataSize : ℤ) ≤ 0 := by decide
      exact .inl ⟨hres.resolve_right hpos, ht, rfl⟩
    · exact .inr ⟨_, hh⟩

instance (frames : List (Area segmentDataSize)) (s : ReceiverLoop) :
    ∀ l, Decidable (Careful frames s l)
  | .pass reception =>
    decidable_of_iff ((ServerAdapter.CanReceive reception.adapterState s.socket ∧
        reception.poll = .ready) → ∀ o ∈ transfer segmentDataSize s.errno 0 reception.calls,
          (Interrupted s.errno ∨ o.res ≤ 0) → ∀ k (hk : k < frames.length),
            s.pos < segmentDataSize * (k + 1) → segmentDataSize * (k + 1) ≤ s.pos + o.moved →
            (readHeader frames[k]).isAck = true)
      ⟨fun h moved hd => by
        obtain ⟨hc, o, ho, hres, rfl⟩ := drops_iff.mp hd
        exact h hc o ho hres,
      fun h hc o ho hres => h o.moved (drops_iff.mpr ⟨hc, o, ho, hres, rfl⟩)⟩
  | .disable | .close => .isTrue trivial

/-- Also when it has stopped, the loop has enqueued all frames that it has read. -/
structure Sound (frames : List (Area segmentDataSize)) (s : ReceiverLoop) : Prop where
  steady : Steady frames s
  bound : s.pos ≤ (stream frames).length
  covered : ∀ e ∈ expected frames (s.pos / segmentDataSize), e ∈ s.enqueued

theorem sound_start (socket : ServerSocket) (errno : ℕ) : Sound frames (start socket errno) where
  steady := steady_start socket errno
  bound := Nat.zero_le _
  covered := by simp [start, expected]

theorem Discards.drops {moved : ℕ} (h : s.Discards reception moved) : s.Drops reception moved := by
  obtain ⟨hc, hready, hcalls⟩ := h
  exact ⟨hc, hready, hcalls.imp id fun ⟨e, _, hh⟩ => ⟨e, hh⟩⟩

theorem Careful.kept {l : Label} (h : Careful frames s l) : Kept frames s l := by
  cases l with
  | pass reception => exact fun moved hd => h moved hd.drops
  | disable => trivial
  | close => trivial

/-- A pass that ends the loop has read a part of a frame at most. -/
theorem drops_of_break {o : Outcome} {socket : ServerSocket}
    (hr : ServerAdapter.receive reception.adapterState s.socket s.errno segmentDataSize
      reception.poll reception.calls = some (o, socket))
    (hb : receiveBuffer o.res o.errno segmentDataSize = .break) :
    o.moved = 0 ∨ s.Drops reception o.moved := by
  rcases ServerAdapter.receive_eq_some hr with ⟨h0, -⟩ | ⟨hc, hready, ho⟩
  · exact .inl h0
  · rcases transfer_eq_some ho with ⟨-, rfl⟩ | ⟨hh, -⟩
    · unfold receiveBuffer at hb
      split_ifs at hb <;> contradiction
    · exact .inr ⟨hc, hready, .inr ⟨o.errno, hh⟩⟩

theorem sound_pass (hs : Sound frames s) (hk : Careful frames s (.pass reception))
    (h : pass frames s reception = .ok s') : Sound frames s' := by
  have hsteady := steady_pass hs.steady hk.kept h
  obtain ⟨hrun, o, socket, hr, hfit, hpos, -, hend⟩ := pass_ok h
  refine ⟨hsteady, by omega, fun e he => ?_⟩
  rcases hend with ⟨-, hrun', -⟩ | ⟨hb, -, hq⟩ | ⟨-, hrun', -⟩
  · rwa [hsteady.faithful hrun']
  · rw [hq]
    refine hs.covered e ?_
    rwa [← expected_stable (Nat.div_le_div_right (hpos ▸ Nat.le_add_right _ _)) ?_]
    intro k hkl hn hlt
    rw [hpos] at hlt
    obtain ⟨h1, h2⟩ := completes_iff.mpr ⟨hn, hlt⟩
    rcases drops_of_break hr hb with h0 | hd
    · omega
    · exact hk o.moved hd k hkl h1 h2
  · rwa [hsteady.faithful hrun']

theorem step_sound (l : Label) (hs : Sound frames s) (hk : Careful frames s l)
    (h : step frames s l = .ok s') : Sound frames s' := by
  have hsteady := step_steady l hs.steady hk.kept h
  cases l with
  | pass reception => exact sound_pass hs hk h
  | disable =>
    cases h
    exact ⟨hsteady, hs.bound, hs.covered⟩
  | close =>
    cases h
    exact ⟨hsteady, hs.bound, hs.covered⟩

theorem Sound.append (hs : Sound frames s) (f : Area segmentDataSize) : Sound (frames ++ [f]) s := by
  have hle : s.pos / segmentDataSize ≤ frames.length := by
    have hbound := hs.bound
    rw [stream, length_flatMap_area] at hbound
    exact Nat.div_le_of_le_mul hbound
  have hsame : expected (frames ++ [f]) (s.pos / segmentDataSize) =
      expected frames (s.pos / segmentDataSize) := by
    unfold expected
    rw [List.take_append_of_le_length hle]
  refine ⟨⟨fun hr => ?_, hs.steady.border⟩, ?_, ?_⟩
  · rw [hsame]
    exact hs.steady.faithful hr
  · have hlen : (stream (frames ++ [f])).length = (stream frames).length + f.1.length := by
      simp [stream]
    exact hs.bound.trans (by omega)
  · rw [hsame]
    exact hs.covered

theorem Sound.enqueued (hs : Sound frames s) {f : Area segmentDataSize}
    (hf : f ∈ frames.take (s.pos / segmentDataSize)) (hack : (readHeader f).isAck = false) :
    (recvQueueType (readHeader f), readHeader f) ∈ s.enqueued := by
  refine hs.covered _ ?_
  unfold expected
  refine List.mem_map.mpr ⟨readHeader f, List.mem_filter.mpr ⟨List.mem_map.mpr ⟨f, hf, rfl⟩, ?_⟩, rfl⟩
  simpa using hack

/-- A data frame with a payload of one byte. -/
def oneByteFrame : Area segmentDataSize := (serializeSegmentHeader { Segment.zero with len := 1 }).data

/-- An interrupted `poll`, and then a whole frame. -/
def interruptedFirst : List Label :=
  [.pass ⟨.zero, .kActive, .failed EINTR, []⟩,
    .pass ⟨.zero, .kActive, .ready, [.moved segmentDataSize]⟩]

/-- The frame that comes after an interrupted `poll` is thrown away. -/
theorem frame_dropped :
    ∃ t, Runs.Reached (step [oneByteFrame]) (start ⟨.tcp, .kOpened, 5⟩ 0) interruptedFirst t ∧
      t.isRunning = true ∧ t.pos = segmentDataSize ∧ t.enqueued = [] ∧
      ¬ Faithful [oneByteFrame] t := by
  obtain ⟨t, hr, hview⟩ : ∃ t, Runs.run (step [oneByteFrame]) (start ⟨.tcp, .kOpened, 5⟩ 0)
      interruptedFirst = .ok t ∧
        (t.isRunning, t.pos, t.enqueued.length) = (true, segmentDataSize, 0) :=
    Runs.exists_run_of_view (fun t : ReceiverLoop => (t.isRunning, t.pos, t.enqueued.length))
      (by decide +kernel)
  obtain ⟨hrun, hrest⟩ := Prod.mk.inj hview
  obtain ⟨hpos, hlen⟩ := Prod.mk.inj hrest
  have hnil : t.enqueued = [] := List.eq_nil_of_length_eq_zero hlen
  refine ⟨t, .of_run hr, hrun, hpos, hnil, fun hf => ?_⟩
  have he := congrArg List.length (hf hrun)
  rw [hnil, hpos, Nat.div_self (by decide)] at he
  exact absurd he (by decide)

end ReceiverLoop
end Linux
end VirtualConnection
