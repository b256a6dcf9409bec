import VirtualConnection.Linux.ServerSocket
import VirtualConnection.Linux.Traffic

/-!
# Linux.SenderLoop

One run of `SenderThread::sender_loop` over one connection, at the level of bytes. A pass of the loop
takes a segment and hands its frame to the socket; the results of the `::send` calls, the adapter's
state, the paused flag and `is_disconnecting_on_purpose` are what the other threads and the kernel
make of them, so they belong to the label. `Linux.Traffic` has the same passes at the level of
segments; `filed_iff_whole` says which of its results a pass stands for.

The kernel must see whole frames. It does as long as no pass that was halted in the middle of a frame
goes on with the loop (`Kept`); after one that does, the next frame follows a truncated one.
-/

namespace VirtualConnection
namespace Linux

open Bytes Transfer

/-- How a pass ends: the segment goes to the sent list, or it goes to the failed list and the loop
goes on (`continue`) or is left (`break`). -/
inductive PassEnd where
  | filed
  | retried
  | left
  deriving DecidableEq, Repr

/-- "Error handling" in `sender_loop`. -/
def passEnd (res : Int) (len : ℕ) (isDisconnectingOnPurpose : Bool) (errno : ℕ) : PassEnd :=
  if res ≤ 0 then
    if isDisconnectingOnPurpose then .left
    else if errno = 0 then .retried
    else if errno = EINTR then .retried
    else if errno = EAGAIN then .retried
    else .left
  else if res ≠ len then .left
  else .filed

structure Turn where
  segmentToSend : Segment
  isLoopPaused : Bool
  adapterState : ServerAdapterState
  mediaStartTsSec : UInt32
  mediaStartTsUsec : UInt32
  calls : List Syscall
  isDisconnectingOnPurpose : Bool

/-- The frame that `ServerAdapter::send` hands to the socket. -/
def Turn.frame (turn : Turn) : Area segmentDataSize :=
  (turn.segmentToSend.stampMedia turn.mediaStartTsSec turn.mediaStartTsUsec).data

/-- A frame of which the kernel took some bytes. -/
structure Handed where
  frame : Area segmentDataSize
  accepted : ℕ
  deriving DecidableEq

def Handed.bytes (h : Handed) : List UInt8 := h.frame.1.take h.accepted

/-- The loop: its socket, the thread's `errno`, whether it has been left, and what the kernel took. -/
structure SenderLoop where
  socket : ServerSocket
  errno : ℕ
  isRunning : Bool
  handed : List Handed

namespace SenderLoop

def start (socket : ServerSocket) (errno : ℕ) : SenderLoop := ⟨socket, errno, true, []⟩

def pass (s : SenderLoop) (turn : Turn) : Except Stop SenderLoop :=
  if s.isRunning = false then .error .waiting
  else if turn.isLoopPaused then .ok s
  else
    match ServerAdapter.send turn.adapterState s.socket s.errno segmentDataSize turn.calls with
    | none => .error .waiting
    | some (o, socket) =>
      .ok {
        socket := socket
        errno := o.errno
        isRunning := passEnd o.res segmentDataSize turn.isDisconnectingOnPurpose o.errno ≠ .left
        handed := s.handed ++ if o.moved = 0 then [] else [⟨turn.frame, o.moved⟩] }

inductive Label where
  | pass (turn : Turn)
  /-- Another library call of the thread, between two passes. -/
  | libraryCall (errno : ℕ)
  /-- `is_loop_enabled` is false at the head of the loop. -/
  | disable
  /-- Another thread closes the socket. -/
  | close

def step (s : SenderLoop) : Label → Except Stop SenderLoop
  | .pass turn => s.pass turn
  | .libraryCall errno => .ok { s with errno := errno }
  | .disable => .ok { s with isRunning := false }
  | .close => .ok { s with socket := { s.socket with mState := .kClosed, mClientSocket := 0 } }

/-! ## Frames on the wire -/

/-- The bytes that the kernel took on this connection. -/
def wire (s : SenderLoop) : List UInt8 := s.handed.flatMap Handed.bytes

/-- The bytes are whole frames and then at most one truncated frame, with nothing behind it. -/
def Aligned (s : SenderLoop) : Prop :=
  ∃ whole cut : List Handed, s.handed = whole ++ cut ∧
    (∀ h ∈ whole, h.accepted = segmentDataSize) ∧ cut.length ≤ 1 ∧
    s.wire = whole.flatMap (fun h => h.frame.1) ++ cut.flatMap Handed.bytes

/-- No pass that is halted in the middle of a frame goes on with the loop. -/
def Kept (s : SenderLoop) : Label → Prop
  | .pass turn => turn.isLoopPaused = false → ServerAdapter.CanSend turn.adapterState s.socket →
      turn.isDisconnectingOnPurpose = false →
      ∀ moved e, 0 < moved → Halted segmentDataSize s.errno moved e turn.calls → ¬ Retryable e
  | _ => True

variable {s s' : SenderLoop} {turn : Turn}

theorem passEnd_filed_iff {res : Int} {len errno : ℕ} {onPurpose : Bool} (hlen : 0 < len) :
    passEnd res len onPurpose errno = .filed ↔ res = len := by
  unfold passEnd
  by_cases hres : res ≤ 0
  · have hne : res ≠ len := by omega
    simp only [hres, if_true, hne, iff_false]
    intro h
    split_ifs at h
  · by_cases he : res = len <;> simp [hres, he]
    omega

theorem passEnd_retried_iff {res : Int} {len errno : ℕ} {onPurpose : Bool} (hres : res ≤ 0) :
    passEnd res len onPurpose errno ≠ .left ↔ onPurpose = false ∧ Retryable errno := by
  unfold passEnd Retryable
  cases onPurpose with
  | true => simp [hres]
  | false =>
    by_cases h0 : errno = 0
    · simp [hres, h0]
    · by_cases hintr : errno = EINTR
      · simp [hres, hintr]
      · by_cases hagain : errno = EAGAIN <;> simp [hres, h0, hintr, hagain]

/-- A pass files its segment as sent if and only if the kernel took the whole frame. -/
theorem filed_iff_whole {state : ServerAdapterState} {socket socket' : ServerSocket} {errno : ℕ}
    {calls : List Syscall} {o : Outcome} (onPurpose : Bool)
    (h : ServerAdapter.send state socket errno segmentDataSize calls = some (o, socket')) :
    passEnd o.res segmentDataSize onPurpose o.errno = .filed ↔ o.moved = segmentDataSize := by
  have hpos : 0 < segmentDataSize := by decide
  rw [passEnd_filed_iff hpos]
  rcases (ServerAdapter.send_eq_some h).1 with ⟨-, rfl⟩ | ⟨-, ho⟩
  · exact iff_of_false (by simp) (by simp; omega)
  · rcases transfer_eq_some ho with ⟨-, rfl⟩ | ⟨hh, -, hres⟩
    · simp
    · have hlt := hh.lt
      exact iff_of_false (by omega) (by omega)

theorem aligned_of {whole cut : List Handed} (hh : s.handed = whole ++ cut)
    (hw : ∀ h ∈ whole, h.accepted = segmentDataSize) (hc : cut.length ≤ 1) : s.Aligned := by
  refine ⟨whole, cut, hh, hw, hc, ?_⟩
  rw [wire, hh, List.flatMap_append]
  congr 1
  refine List.flatMap_congr fun h hmem => ?_
  rw [Handed.bytes, hw h hmem]
  exact List.take_of_length_le (le_of_eq h.frame.2)

theorem not_aligned (before : List Handed) {h₁ h₂ : Handed} (hh : s.handed = before ++ [h₁, h₂])
    (hlt : h₁.accepted < segmentDataSize) : ¬ s.Aligned := by
  rintro ⟨whole, cut, hs, hw, hc, -⟩
  have hmem : h₁ ∈ whole := by
    rcases List.eq_nil_or_concat cut with rfl | ⟨front, last, rfl⟩
    · rw [List.append_nil] at hs
      simp [← hs, hh]
    · have hfront : front = [] := List.eq_nil_of_length_eq_zero (by simpa using hc)
      subst hfront
      have he : (before ++ [h₁]) ++ [h₂] = whole ++ [last] := by simpa [hh] using hs
      rw [← (List.append_inj' he rfl).1]
      simp
  have := hw h₁ hmem
  omega

/-- What a pass does, with the three ways a frame can go. -/
theorem pass_ok (h : s.pass turn = .ok s') :
    s.isRunning = true ∧ (turn.isLoopPaused = true ∧ s' = s ∨ turn.isLoopPaused = false ∧
      ∃ o socket, ServerAdapter.send turn.adapterState s.socket s.errno segmentDataSize turn.calls =
          some (o, socket) ∧
        s' = {
          socket := socket
          errno := o.errno
          isRunning := passEnd o.res segmentDataSize turn.isDisconnectingOnPurpose o.errno ≠ .left
          handed := s.handed ++ if o.moved = 0 then [] else [⟨turn.frame, o.moved⟩] }) := by
  unfold pass at h
  split at h
  · cases h
  · next hrun =>
    refine ⟨by simpa using hrun, ?_⟩
    split at h
    · next hp => cases h; exact .inl ⟨hp, rfl⟩
    · next hp =>
      split at h
      · cases h
      · next o socket hs => cases h; exact .inr ⟨by simpa using hp, o, socket, hs, rfl⟩

/-! ## What the loop keeps -/

/-- The kernel's bytes are aligned, and while the loop can still send they are whole frames. -/
structure Framed (s : SenderLoop) : Prop where
  aligned : s.Aligned
  whole : s.isRunning = true → s.socket.Connected → ∀ h ∈ s.handed, h.accepted = segmentDataSize

theorem framed_start (socket : ServerSocket) (errno : ℕ) : Framed (start socket errno) where
  aligned := aligned_of (List.append_nil _).symm (by simp [start]) (by simp)
  whole := by simp [start]

theorem not_connected_of_closed {socket : ServerSocket} :
    ¬ { socket with mState := ServerSocketState.kClosed }.Connected := by
  intro h
  cases h.1

theorem pass_halted (hs : Framed s) (h : s.pass turn = .ok s') (hp : turn.isLoopPaused = false)
    (hc : ServerAdapter.CanSend turn.adapterState s.socket) {moved e : ℕ} (hpos : 0 < moved)
    (hh : Halted segmentDataSize s.errno moved e turn.calls) :
    (∀ x ∈ s.handed, x.accepted = segmentDataSize) ∧
      s'.handed = s.handed ++ [⟨turn.frame, moved⟩] ∧
      (s'.isRunning = true ↔ turn.isDisconnectingOnPurpose = false ∧ Retryable e) ∧
      (Retryable e → s'.socket = s.socket) := by
  obtain ⟨hrun, ⟨hp', -⟩ | ⟨-, o, socket, hsend, rfl⟩⟩ := pass_ok h
  · simp [hp] at hp'
  obtain ⟨⟨hnc, -⟩ | ⟨-, ho⟩, hsock⟩ := ServerAdapter.send_eq_some hsend
  · exact absurd hc hnc
  obtain ⟨hres, rfl, rfl⟩ := hh.unique ho
  have hne : o.moved ≠ 0 := by omega
  refine ⟨hs.whole hrun hc.2, by simp [hne], ?_, fun hretry => ?_⟩
  · show decide _ = true ↔ _
    rw [decide_eq_true_iff, passEnd_retried_iff hres]
  · rcases hsock with rfl | ⟨hn, -⟩
    · rfl
    · exact absurd hretry hn

/-- What a pass does to the bytes on the wire: nothing, a whole frame, or part of one. -/
theorem handed_pass (hs : Framed s) (h : s.pass turn = .ok s') :
    (s'.handed = s.handed ∧ (s'.socket.Connected → s.socket.Connected)) ∨
      (∀ x ∈ s'.handed, x.accepted = segmentDataSize) ∨
      ∃ moved e, 0 < moved ∧ turn.isLoopPaused = false ∧
        ServerAdapter.CanSend turn.adapterState s.socket ∧
        Halted segmentDataSize s.errno moved e turn.calls := by
  obtain ⟨hrun, ⟨-, rfl⟩ | ⟨hp, o, socket, hsend, rfl⟩⟩ := pass_ok h
  · exact .inl ⟨rfl, id⟩
  obtain ⟨hsent, hsock⟩ := ServerAdapter.send_eq_some hsend
  have hstay : socket.Connected → s.socket.Connected := by
    rcases hsock with rfl | ⟨-, rfl⟩
    · exact id
    · exact fun hc => absurd hc not_connected_of_closed
  rcases hsent with ⟨-, rfl⟩ | ⟨hc, ho⟩
  · exact .inl ⟨by simp, hstay⟩
  rcases transfer_eq_some ho with ⟨-, rfl⟩ | ⟨hh, -⟩
  · refine .inr (.inl fun x hx => ?_)
    have hne : segmentDataSize ≠ 0 := by decide
    simp only [hne, if_false, List.mem_append, List.mem_singleton] at hx
    rcases hx with hx | rfl
    · exact hs.whole hrun hc.2 x hx
    · rfl
  · by_cases h0 : o.moved = 0
    · exact .inl ⟨by simp [h0], hstay⟩
    · exact .inr (.inr ⟨o.moved, o.errno, Nat.pos_of_ne_zero h0, hp, hc, hh⟩)

/-- Whatever a pass meets, the frame it hands over follows whole frames. -/
theorem aligned_pass (hs : Framed s) (h : s.pass turn = .ok s') : s'.Aligned := by
  rcases handed_pass hs h with ⟨hh, -⟩ | hw | ⟨moved, e, hpos, hp, hc, hhalt⟩
  · obtain ⟨whole, cut, hsplit, hall, hc, -⟩ := hs.aligned
    exact aligned_of (hh.trans hsplit) hall hc
  · exact aligned_of (List.append_nil _).symm hw (by simp)
  · obtain ⟨hw, hh, -⟩ := pass_halted hs h hp hc hpos hhalt
    exact aligned_of hh hw (by simp)

theorem framed_pass (hs : Framed s) (hk : Kept s (.pass turn)) (h : s.pass turn = .ok s') :
    Framed s' := by
  refine ⟨aligned_pass hs h, fun hrun hc => ?_⟩
  obtain ⟨hrun', -⟩ := pass_ok h
  rcases handed_pass hs h with ⟨hh, hcon⟩ | hw | ⟨moved, e, hpos, hp, hsend, hhalt⟩
  · rw [hh]
    exact hs.whole hrun' (hcon hc)
  · exact hw
  · obtain ⟨-, -, hend, -⟩ := pass_halted hs h hp hsend hpos hhalt
    obtain ⟨hpurpose, hretry⟩ := hend.mp hrun
    exact absurd hretry (hk hp hsend hpurpose moved e hpos hhalt)

theorem step_framed (l : Label) (hs : Framed s) (hk : Kept s l) (h : s.step l = .ok s') :
    Framed s' := by
  cases l with
  | pass turn => exact framed_pass hs hk h
  | libraryCall errno =>
    cases h
    exact ⟨hs.aligned, hs.whole⟩
  | disable =>
    cases h
    exact ⟨hs.aligned, by simp⟩
  | close =>
    cases h
    exact ⟨hs.aligned, fun _ hc => absurd hc.1 (by simp)⟩

/-- A whole frame that finds the loop running. -/
def wholeTurn : Turn := ⟨.zero, false, .kActive, 0, 0, [.moved segmentDataSize], false⟩

theorem pass_wholeTurn (hrun : s.isRunning = true) (hc : s.socket.Connected) :
    ∃ t, s.pass wholeTurn = .ok t ∧
      t.handed = s.handed ++ [⟨wholeTurn.frame, segmentDataSize⟩] := by
  have hthrough : Through segmentDataSize [.moved segmentDataSize] :=
    ⟨[segmentDataSize], [], rfl, by simpa using (by decide : 0 < segmentDataSize), by simp⟩
  have hfd : ¬ s.socket.mClientSocket ≤ 0 := by have := hc.2; omega
  have himpl : s.socket.sendImpl s.errno segmentDataSize [.moved segmentDataSize] =
      some ⟨segmentDataSize, s.errno, segmentDataSize⟩ := by
    rw [ServerSocket.sendImpl_eq, sendAll, if_neg hfd, transfer_through _ hthrough]
  have hsend : ServerAdapter.send .kActive s.socket s.errno segmentDataSize
      [.moved segmentDataSize] = some (⟨segmentDataSize, s.errno, segmentDataSize⟩, s.socket) := by
    have hpos : ¬ ((segmentDataSize : ℕ) : Int) < 0 := by omega
    simp [ServerAdapter.send, ServerSocket.send, hc.1, himpl, hpos]
  refine ⟨_, by simp only [pass, hrun, wholeTurn, hsend]; rfl, ?_⟩
  rfl

/-- A pass that misses the condition leaves a loop whose next frame is not aligned. -/
theorem misaligned_next (hs : Framed s) (hk : ¬ Kept s (.pass turn)) (h : s.pass turn = .ok s') :
    ∃ t, s'.pass wholeTurn = .ok t ∧ ¬ t.Aligned := by
  simp only [Kept] at hk
  push Not at hk
  obtain ⟨hp, hc, hpurpose, moved, e, hpos, hhalt, hretry⟩ := hk
  obtain ⟨-, hh, hend, hsock⟩ := pass_halted hs h hp hc hpos hhalt
  have hrun : s'.isRunning = true := hend.mpr ⟨hpurpose, hretry⟩
  have hcon : s'.socket.Connected := by
    rw [hsock hretry]
    exact hc.2
  obtain ⟨t, ht, hh'⟩ := pass_wholeTurn hrun hcon
  refine ⟨t, ht, ?_⟩
  rw [hh, List.append_assoc] at hh'
  exact not_aligned _ hh' hhalt.lt

/-- **Frames stay whole.** The bytes are aligned in every state of a run, and after any further pass
from it, if and only if no pass of the run that is halted in the middle of a frame goes on. -/
theorem frames_aligned_iff (socket : ServerSocket) (errno : ℕ) (ls : List Label) :
    (∀ t, Runs.Reached step (start socket errno) ls t →
        t.Aligned ∧ ∀ turn t', t.pass turn = .ok t' → t'.Aligned) ↔
      Runs.AllSteps step Kept (start socket errno) ls := by
  refine Runs.throughout_iff_allSteps
    (fun s hs => ⟨hs.aligned, fun turn t' ht => aligned_pass hs ht⟩)
    (fun s l s' hs hk h => step_framed l hs hk h) (fun s l s' hs hk h hgood => ?_)
    (framed_start socket errno)
  cases l with
  | pass turn =>
    obtain ⟨t, ht, hbad⟩ := misaligned_next hs hk h
    exact hbad (hgood.2 _ _ ht)
  | libraryCall errno => exact hk trivial
  | disable => exact hk trivial
  | close => exact hk trivial

/-- 100 bytes of a frame, then a full socket buffer. -/
def cutTurn : Turn := { wholeTurn with calls := [.moved 100, .failed EAGAIN] }

/-- The loop goes on after it, and the next frame goes out whole behind the 100 bytes. -/
theorem frames_misaligned :
    ∃ t, Runs.Reached step (start ⟨.tcp, .kOpened, 5⟩ 0) [.pass cutTurn, .pass wholeTurn] t ∧
      t.handed = [⟨cutTurn.frame, 100⟩, ⟨wholeTurn.frame, segmentDataSize⟩] ∧ ¬ t.Aligned := by
  obtain ⟨t, hr, hh⟩ : ∃ t, Runs.run step (start ⟨.tcp, .kOpened, 5⟩ 0)
      [.pass cutTurn, .pass wholeTurn] = .ok t ∧
        t.handed = [⟨cutTurn.frame, 100⟩, ⟨wholeTurn.frame, segmentDataSize⟩] :=
    Runs.exists_run_of_view SenderLoop.handed rfl
  exact ⟨t, .of_run hr, hh, not_aligned [] hh (by decide)⟩

end SenderLoop
end Linux
end VirtualConnection
