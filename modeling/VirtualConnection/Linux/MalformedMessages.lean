import VirtualConnection.Linux.ControlMessages

/-!
# Linux.MalformedMessages

Control messages with any contents. `IsMessage` is what `ControlMessageProtocol.h` and the two senders
define; `receiving_thread_loop_internal` cuts the text at its newlines and takes whatever number each
part begins with.

`contained_iff`: a message does no harm exactly when it is one of the protocol, or when its first line
begins with a number that is no code. Every other text with a known code is acted upon or ends the
process.
-/

namespace VirtualConnection
namespace Linux

open Text

/-! ## The protocol -/

/-- An `int` or a `uint32_t`: Android writes sequence numbers as the former, Linux as the latter. -/
def IsSeqNo (z : Int) : Prop := -2 ^ 31 ≤ z ∧ z < 2 ^ 32

inductive IsMessage : List Char → Prop where
  | normal {code : CMCode} (adapterId : Int32)
      (hcode : code ∈ [CMCode.kCMCodeConnect, .kCMCodeSleep, .kCMCodeWakeUp, .kCMCodeDisconnectAck]) :
      IsMessage (numberLines code.toInt [adapterId.toInt])
  | disconnect (adapterId : Int32) {c d : Int} (hc : IsSeqNo c) (hd : IsSeqNo d) :
      IsMessage (numberLines CMCode.kCMCodeDisconnect.toInt [adapterId.toInt, c, d])
  | priv (privType : Int32) (contents : List Char) :
      IsMessage (decimal CMCode.kCMCodePriv.toInt ++ '\n' :: (decimal privType.toInt ++
        '\n' :: contents))
  | retransmit (segmentType : Int32) {s e : Int} (hs : IsSeqNo s) (he : IsSeqNo e) :
      IsMessage (numberLines CMCode.kCMCodeRetransmit.toInt [segmentType.toInt, s, e])
  | queueStatus {c d : Int} (hc : IsSeqNo c) (hd : IsSeqNo d) :
      IsMessage (numberLines CMCode.kCMCodeQueueStatus.toInt [c, d])

namespace ControlMessageReceiver

/-- The first line begins with a number that is no code. -/
def HasUnknownCode (text : List Char) : Prop :=
  ∃ n, stoi (splitLine text).1 = .ok n ∧ CMCode.ofInt? n.toInt = none

/-- A method is called. -/
def Dispatched.IsAction (d : Dispatched) : Prop := ∀ n, d ≠ .unknown n

/-- The call with a buffer, and whether the buffer is freed: `free` is the last statement, which an
exception does not come to. -/
def handle (memory : List UInt8) : Except StdException (Option Dispatched) × Bool :=
  match receivingThreadLoopInternal (some memory) with
  | .ok dispatched => (.ok dispatched, true)
  | .error e => (.error e, false)

/-- No exception, no leak, and no action but for a message of the protocol. -/
def Contained (memory : List UInt8) : Prop :=
  ∃ d, handle memory = (.ok (some d), true) ∧
    (d.IsAction → IsMessage (ofBytes (cString memory)))

/-! ## What is dispatched -/

variable {text : List Char} {memory : List UInt8} {d : Dispatched}

theorem stoul_isSeqNo {z : Int} (hz : IsSeqNo z) : ∃ n, stoul (decimal z) = .ok n := by
  obtain ⟨hlow, hhigh⟩ := hz
  have hlt : z.natAbs < 2 ^ 64 := by omega
  simp only [stoul, leadingNumber_decimal]
  rw [if_pos hlt]
  exact ⟨_, rfl⟩

theorem dispatch_isMessage (h : IsMessage text) : ∃ d, dispatch text = .ok d := by
  cases h with
  | normal adapterId hcode => exact ⟨_, dispatch_normal adapterId _ hcode⟩
  | disconnect adapterId hc hd =>
    obtain ⟨m, hm⟩ := stoul_isSeqNo hc
    obtain ⟨n, hn⟩ := stoul_isSeqNo hd
    exact ⟨_, dispatch_disconnect_of adapterId hm hn⟩
  | priv privType contents => exact ⟨_, dispatch_priv privType contents⟩
  | retransmit segmentType hs he =>
    obtain ⟨m, hm⟩ := stoul_isSeqNo hs
    obtain ⟨n, hn⟩ := stoul_isSeqNo he
    exact ⟨_, dispatch_retransmit_of segmentType hm hn⟩
  | queueStatus hc hd =>
    obtain ⟨m, hm⟩ := stoul_isSeqNo hc
    obtain ⟨n, hn⟩ := stoul_isSeqNo hd
    exact ⟨_, dispatch_queueStatus_of hm hn⟩

theorem onReceivePrivMessage_isAction {contents : List Char}
    (h : onReceivePrivMessage contents = .ok d) : d.IsAction := by
  unfold onReceivePrivMessage at h
  split at h
  · obtain ⟨privType, -, hd⟩ := exists_ok_of_bind h
    intro n
    simp [← Except.ok.inj hd]
  · cases h

/-- Nothing is called exactly when the code is unknown. -/
theorem hasUnknownCode_iff : HasUnknownCode text ↔ ∃ n, dispatch text = .ok (.unknown n) := by
  unfold HasUnknownCode dispatch
  refine exists_congr fun n => ?_
  constructor
  · rintro ⟨hcode, hnone⟩
    simp only [hcode, ok_bind, hnone]
    rfl
  · intro h
    obtain ⟨code, hcode, h⟩ := exists_ok_of_bind h
    cases hknown : CMCode.ofInt? code.toInt with
    | none =>
      rw [hknown] at h
      cases h
      exact ⟨hcode, hknown⟩
    | some known =>
      rw [hknown] at h
      cases known with
      | kCMCodePriv => exact absurd rfl (onReceivePrivMessage_isAction h n)
      | kCMCodeConnect | kCMCodeSleep | kCMCodeWakeUp | kCMCodeDisconnectAck =>
        obtain ⟨_, -, h⟩ := exists_ok_of_bind h
        cases h
      | kCMCodeDisconnect | kCMCodeRetransmit =>
        obtain ⟨_, -, h⟩ := exists_ok_of_bind h
        obtain ⟨_, -, h⟩ := exists_ok_of_bind h
        obtain ⟨_, -, h⟩ := exists_ok_of_bind h
        cases h
      | kCMCodeQueueStatus =>
        obtain ⟨_, -, h⟩ := exists_ok_of_bind h
        obtain ⟨_, -, h⟩ := exists_ok_of_bind h
        cases h

theorem handle_eq_ok : handle memory = (.ok (some d), true) ↔
    dispatch (ofBytes (cString memory)) = .ok d := by
  unfold handle receivingThreadLoopInternal
  cases hd : dispatch (ofBytes (cString memory)) <;> simp [hd]

/-- A text with a known code that is no message is acted upon, or an exception ends the process. -/
theorem contained_iff (memory : List UInt8) : Contained memory ↔
    IsMessage (ofBytes (cString memory)) ∨ HasUnknownCode (ofBytes (cString memory)) := by
  simp only [Contained, handle_eq_ok]
  constructor
  · rintro ⟨d, hd, haction⟩
    by_cases hunknown : HasUnknownCode (ofBytes (cString memory))
    · exact .inr hunknown
    · refine .inl (haction fun n hn => hunknown ?_)
      exact hasUnknownCode_iff.mpr ⟨n, hn ▸ hd⟩
  · rintro (hmessage | hunknown)
    · obtain ⟨d, hd⟩ := dispatch_isMessage hmessage
      exact ⟨d, hd, fun _ => hmessage⟩
    · obtain ⟨n, hn⟩ := hasUnknownCode_iff.mp hunknown
      exact ⟨_, hn, fun haction => absurd rfl (haction n)⟩

theorem newline_mem_of_isMessage (h : IsMessage text) : '\n' ∈ text := by
  cases h <;> simp [numberLines]

/-- An empty text ends the process, and a lone `1` is taken for a request to connect adapter 1. -/
theorem not_contained_empty_one : ¬ Contained [0] ∧ ¬ Contained [49, 0] := by
  refine ⟨fun ⟨d, hd, _⟩ => ?_, fun ⟨d, hd, haction⟩ => ?_⟩
  · have hthrow : handle [0] = (.error .invalidArgument, false) := rfl
    cases hthrow.symm.trans hd
  · have hconnect : handle [49, 0] = (.ok (some (.normal .kCMCodeConnect 1)), true) := rfl
    cases hconnect.symm.trans hd
    have hnewline := newline_mem_of_isMessage (haction fun n hn => by cases hn)
    revert hnewline
    decide

end ControlMessageReceiver
end Linux
end VirtualConnection
