import VirtualConnection.Android.ControlMessages
import VirtualConnection.Linux.ControlMessages

/-!
# System.ControlMessages

A control message written by one side and read by the other.

* `LinuxToAndroid.decoded_iff`: which messages of `ControlMessageSender.cpp` Android reads as they were
  meant.
* `AndroidToLinux.not_decoded`: a message of `ControlMessageSender.java` has no NUL, so Linux reads on
  behind its buffer; `received_terminated` is what Linux makes of it when there happens to be a NUL.
-/

namespace VirtualConnection

open Text

/-! ## From Linux to Android -/

namespace LinuxToAndroid

/-- A control message that Linux builds. -/
inductive Request where
  | connect (adapterId : Int32)
  | sleep (adapterId : Int32)
  | wakeUp (adapterId : Int32)
  | disconnectAck (adapterId : Int32)
  | disconnect (adapterId : Int32) (finalSeqNoControl finalSeqNoData : UInt32)
  | retransmit (segmentType : Int32) (seqNoStart seqNoEnd : UInt32)
  | queueStatus (lastSeqNoControl lastSeqNoData : UInt32)
  | privateData (privType : Int32) (privData : {text // IsText text})

namespace Request

open Linux.ControlMessageSender in
def bytes : Request → List UInt8
  | connect adapterId => sendRequestConnect adapterId
  | sleep adapterId => sendRequestSleep adapterId
  | wakeUp adapterId => sendRequestWakeUp adapterId
  | disconnectAck adapterId => sendRequestDisconnectAck adapterId
  | disconnect adapterId c d => sendRequestDisconnect adapterId c d
  | retransmit segmentType s e => sendRequestRetransmit segmentType s e
  | queueStatus c d => sendRequestQueueStatus c d
  | privateData privType privData => sendNotiPrivateData privType privData.1

/-- The call that Android should make for it: the same code, the same bits, the same contents. -/
def meaning : Request → Android.ControlMessageReceiver.Dispatched
  | connect adapterId => .normal .kConnect adapterId
  | sleep adapterId => .normal .kSleep adapterId
  | wakeUp adapterId => .normal .kWakeup adapterId
  | disconnectAck adapterId => .normal .kDisconnectAck adapterId
  | disconnect adapterId c d => .disconnect adapterId c.toInt32 d.toInt32
  | retransmit segmentType s e => .retransmit segmentType s.toInt32 e.toInt32
  | queueStatus c d => .queueStatus c.toInt32 d.toInt32
  | privateData privType privData => .priv privType privData.1

/-- Numbers that are no more than an `int`; contents with room in 10 KiB, which do not end with a blank
and are not empty. -/
def Decodable : Request → Prop
  | connect _ | sleep _ | wakeUp _ | disconnectAck _ => True
  | disconnect _ c d | retransmit _ c d | queueStatus c d => c.toNat < 2 ^ 31 ∧ d.toNat < 2 ^ 31
  | privateData privType privData =>
    (∃ front c, privData.1 = front ++ [c] ∧ isBlank c = false) ∧
      (decimal privType.toInt).length + privData.1.length + 4 ≤ 10 * 1024

end Request

open Android.ControlMessageReceiver

section Numbers

variable {c d : UInt32}

theorem parseInt_both {f : Int32 → Int32 → Dispatched} :
    (do
      let c ← parseInt (decimal c.toNat)
      let d ← parseInt (decimal d.toNat)
      return f c d) = Except.ok (f c.toInt32 d.toInt32) ↔ c.toNat < 2 ^ 31 ∧ d.toNat < 2 ^ 31 := by
  by_cases hc : c.toNat < 2 ^ 31
  · by_cases hd : d.toNat < 2 ^ 31
    · rw [parseInt_decimal_small hc, parseInt_decimal_small hd]
      exact ⟨fun _ => ⟨hc, hd⟩, fun _ => rfl⟩
    · rw [parseInt_decimal_small hc, parseInt_decimal_big hd]
      exact ⟨nofun, fun h => absurd h.2 hd⟩
  · rw [parseInt_decimal_big hc]
    exact ⟨nofun, fun h => absurd h.1 hc⟩

theorem natAbs_toNat_lt (x : UInt32) : (x.toNat : ℤ).natAbs < 10 ^ 10 := by
  have := x.toNat_lt
  omega

end Numbers

theorem loopInternal_numbers (z : Int) (zs : List Int) {result : Dispatched}
    (h : ∀ n ∈ z :: zs, n.natAbs < 10 ^ 10) (hlines : zs.length ≤ 3) :
    loopInternal (Linux.ControlMessageSender.sendControlMessage (numberLines z zs)) =
      .ok (some result) ↔ dispatch (numberLines z zs) = .ok result := by
  rw [Linux.ControlMessageSender.sendControlMessage_text (isText_numberLines zs z),
    loopInternal_numberLines h hlines, map_some_eq]

theorem privateData_iff (privType : Int32) (privData : {text // IsText text}) :
    loopInternal (Request.privateData privType privData).bytes =
      .ok (some (.priv privType privData.1)) ↔ (Request.privateData privType privData).Decodable := by
  have hline := length_decimal_int_le privType
  have htext := isText_decimal (z := 10).newline ((isText_decimal (z := privType.toInt)).newline privData.2)
  have hbytes : (Request.privateData privType privData).bytes = toBytes
      (decimal 10 ++ '\n' :: (decimal privType.toInt ++ '\n' :: privData.1)) ++ [0] :=
    Linux.ControlMessageSender.sendControlMessage_text htext
  refine Iff.trans ?_ (keptContents_eq_self_iff privType)
  by_cases hlen : privData.1.length + (decimal privType.toInt).length + 5 < 2 ^ 31
  · rw [hbytes]
    refine (Eq.congr_left (loopInternal_priv privType privData.2 hlen)).trans ?_
    constructor
    · intro h
      split at h
      · cases h
      · next hkept =>
        injection h with h
        injection h with h
        injection h with _ hsame
        exact ⟨hsame ▸ hkept, hsame⟩
    · rintro ⟨hne, hkept⟩
      rw [hkept, if_neg hne]
  · have hbig : 2 ^ 31 ≤ (toBytes (decimal 10 ++ '\n' :: (decimal privType.toInt ++
        '\n' :: privData.1)) ++ [0]).length := by
      have htwo : (decimal 10).length = 2 := rfl
      simp only [List.length_append, length_toBytes, List.length_cons, List.length_nil, htwo]
      omega
    rw [hbytes, loopInternal_negativeArraySize hbig]
    refine ⟨nofun, fun h => ?_⟩
    have hfits := ((keptContents_eq_self_iff privType).mp h).2
    have hroom : bufferSize = 10240 := rfl
    omega

theorem loopInternal_request (requestCode : Linux.CMCode) (code : Android.CMCode) (adapterId : Int32)
    (hsame : requestCode.toInt = code.toInt)
    (h : code ∈ [Android.CMCode.kConnect, .kSleep, .kWakeup, .kDisconnectAck]) :
    loopInternal (Linux.ControlMessageSender.sendRequest requestCode adapterId) =
      .ok (some (.normal code adapterId)) := by
  have hcode : code.toInt.natAbs < 10 ^ 10 := by cases code <;> decide
  rw [Linux.ControlMessageSender.sendRequest, hsame]
  refine (loopInternal_numbers code.toInt [adapterId.toInt] ?_ (by simp)).mpr
    (dispatch_normal adapterId code h)
  simpa using ⟨hcode, natAbs_toInt_lt adapterId⟩

/-- A request is decoded as it was meant if, and only if, its numbers are no more than an `int` and
its contents survive the buffer and `trim`. -/
theorem decoded_iff (request : Request) :
    loopInternal request.bytes = .ok (some request.meaning) ↔ request.Decodable := by
  cases request with
  | connect adapterId =>
    exact iff_of_true (loopInternal_request .kCMCodeConnect .kConnect adapterId rfl (by decide)) trivial
  | sleep adapterId =>
    exact iff_of_true (loopInternal_request .kCMCodeSleep .kSleep adapterId rfl (by decide)) trivial
  | wakeUp adapterId =>
    exact iff_of_true (loopInternal_request .kCMCodeWakeUp .kWakeup adapterId rfl (by decide)) trivial
  | disconnectAck adapterId =>
    exact iff_of_true (loopInternal_request .kCMCodeDisconnectAck .kDisconnectAck adapterId rfl (by decide)) trivial
  | disconnect adapterId c d =>
    refine (loopInternal_numbers 4 [adapterId.toInt, c.toNat, d.toNat] ?_ (by simp)).trans ?_
    · simpa using ⟨natAbs_toInt_lt adapterId, natAbs_toNat_lt c, natAbs_toNat_lt d⟩
    · exact (Eq.congr_left (dispatch_disconnect adapterId _ _)).trans parseInt_both
  | retransmit segmentType s e =>
    refine (loopInternal_numbers 30 [segmentType.toInt, s.toNat, e.toNat] ?_ (by simp)).trans ?_
    · simpa using ⟨natAbs_toInt_lt segmentType, natAbs_toNat_lt s, natAbs_toNat_lt e⟩
    · exact (Eq.congr_left (dispatch_retransmit segmentType _ _)).trans parseInt_both
  | queueStatus c d =>
    refine (loopInternal_numbers 31 [c.toNat, d.toNat] ?_ (by simp)).trans ?_
    · simpa using ⟨natAbs_toNat_lt c, natAbs_toNat_lt d⟩
    · exact (Eq.congr_left (dispatch_queueStatus _ _)).trans parseInt_both
  | privateData privType privData => exact privateData_iff privType privData

/-- The sequence number is 2^31, the first one that is no `int`. -/
theorem queueStatus_throws : loopInternal (Request.queueStatus 2147483648 0).bytes =
    .error .numberFormat := by
  have hbytes : (Request.queueStatus 2147483648 0).bytes = toBytes (numberLines 31
      [(2147483648 : UInt32).toNat, (0 : UInt32).toNat]) ++ [0] :=
    Linux.ControlMessageSender.sendControlMessage_text (isText_numberLines
      [(2147483648 : UInt32).toNat, (0 : UInt32).toNat] 31)
  have hdispatch : dispatch (numberLines 31 [(2147483648 : UInt32).toNat, (0 : UInt32).toNat]) =
      .error .numberFormat := by
    refine (dispatch_queueStatus _ _).trans ?_
    rw [parseInt_decimal_big (by decide)]
    rfl
  rw [hbytes, loopInternal_numberLines (by decide) (by decide), hdispatch]
  rfl

end LinuxToAndroid

/-! ## From Android to Linux -/

namespace AndroidToLinux

/-- A control message that Android builds. -/
inductive Request where
  | connect (adapterId : Int32)
  | sleep (adapterId : Int32)
  | wakeup (adapterId : Int32)
  | disconnectAck (adapterId : Int32)
  | disconnect (adapterId finalSeqNoControl finalSeqNoData : Int32)
  | retransmit (segType seqNoStart seqNoEnd : Int32)
  | queueStatus (lastSeqNoControl lastSeqNoData : Int32)
  | privateData (privateType : Int32) (privateMessage : {text // IsText text})

namespace Request

open Android.ControlMessageSender in
def bytes : Request → List UInt8
  | connect adapterId => sendRequestConnect adapterId
  | sleep adapterId => sendRequestSleep adapterId
  | wakeup adapterId => sendRequestWakeup adapterId
  | disconnectAck adapterId => sendRequestDisconnectAck adapterId
  | disconnect adapterId c d => sendRequestDisconnect adapterId c d
  | retransmit segType s e => sendRequestRetransmit segType s e
  | queueStatus c d => sendRequestQueueStatusMessage c d
  | privateData privateType privateMessage => sendNotiPrivateData privateType privateMessage.1

/-- The call that Linux should make for it, if its private contents are `contents`. -/
def meaningWith (request : Request) (contents : List Char → List Char) :
    Linux.ControlMessageReceiver.Dispatched :=
  match request with
  | connect adapterId => .normal .kCMCodeConnect adapterId
  | sleep adapterId => .normal .kCMCodeSleep adapterId
  | wakeup adapterId => .normal .kCMCodeWakeUp adapterId
  | disconnectAck adapterId => .normal .kCMCodeDisconnectAck adapterId
  | disconnect adapterId c d => .disconnect adapterId c.toUInt32 d.toUInt32
  | retransmit segType s e => .retransmit segType s.toUInt32 e.toUInt32
  | queueStatus c d => .queueStatus c.toUInt32 d.toUInt32
  | privateData privateType privateMessage => .priv privateType (contents privateMessage.1)

def meaning (request : Request) : Linux.ControlMessageReceiver.Dispatched := request.meaningWith id

open Linux.ControlMessageReceiver in
/-- Linux reads no more than the buffer, and makes the call that was meant. What lies behind the buffer
in memory is `beyond`. -/
def Decoded (request : Request) (beyond : List UInt8) : Prop :=
  cStringRead (request.bytes ++ beyond) ≤ request.bytes.length ∧
    receivingThreadLoopInternal (some (request.bytes ++ beyond)) = .ok (some request.meaning)

end Request

open Linux.ControlMessageReceiver

/-- The text of a request: no NUL in it and none behind it. -/
theorem Request.bytes_text (request : Request) : ∃ text, IsText text ∧ request.bytes = toBytes text ∧
    dispatch text = .ok (request.meaningWith fun contents => '\n' :: contents) := by
  cases request with
  | connect adapterId =>
    exact ⟨_, isText_numberLines [adapterId.toInt] 1, rfl,
      dispatch_normal adapterId .kCMCodeConnect (by decide)⟩
  | sleep adapterId =>
    exact ⟨_, isText_numberLines [adapterId.toInt] 2, rfl,
      dispatch_normal adapterId .kCMCodeSleep (by decide)⟩
  | wakeup adapterId =>
    exact ⟨_, isText_numberLines [adapterId.toInt] 3, rfl,
      dispatch_normal adapterId .kCMCodeWakeUp (by decide)⟩
  | disconnectAck adapterId =>
    exact ⟨_, isText_numberLines [adapterId.toInt] 24, rfl,
      dispatch_normal adapterId .kCMCodeDisconnectAck (by decide)⟩
  | disconnect adapterId c d =>
    exact ⟨_, isText_numberLines [adapterId.toInt, c.toInt, d.toInt] 4, rfl,
      dispatch_disconnect adapterId c d⟩
  | retransmit segType s e =>
    exact ⟨_, isText_numberLines [segType.toInt, s.toInt, e.toInt] 30, rfl,
      dispatch_retransmit segType s e⟩
  | queueStatus c d =>
    exact ⟨_, isText_numberLines [c.toInt, d.toInt] 31, rfl, dispatch_queueStatus c d⟩
  | privateData privateType privateMessage =>
    exact ⟨_, isText_decimal.newline (isText_decimal.newline privateMessage.2), rfl,
      dispatch_priv privateType privateMessage.1⟩

/-- Linux always reads on behind the buffer. -/
theorem not_decoded (request : Request) (beyond : List UInt8) : ¬ request.Decoded beyond := by
  intro h
  obtain ⟨text, htext, hbytes, -⟩ := request.bytes_text
  have hread := cStringRead_text htext beyond
  have hin := h.1
  rw [hbytes, length_toBytes] at hin
  omega

/-- With a NUL behind the buffer the code and the numbers are right; private contents begin with the
newline that separates them from the type. -/
theorem received_terminated (request : Request) (beyond : List UInt8) :
    receivingThreadLoopInternal (some (request.bytes ++ 0 :: beyond)) =
      .ok (some (request.meaningWith fun contents => '\n' :: contents)) := by
  obtain ⟨text, htext, hbytes, hdispatch⟩ := request.bytes_text
  rw [hbytes]
  exact receivingThreadLoopInternal_text htext beyond hdispatch

/-- The contents are one letter. Linux reads the byte behind the buffer, and when that is a NUL it takes
the contents for a newline and the letter. -/
theorem privateData_misread :
    let request := Request.privateData 1 ⟨['a'], isText_nil.cons (by decide)⟩
    cStringRead (request.bytes ++ [0]) = request.bytes.length + 1 ∧
      receivingThreadLoopInternal (some (request.bytes ++ [0])) = .ok (some (.priv 1 ['\n', 'a'])) ∧
      ¬ request.Decoded [0] := by
  intro request
  have hread : cStringRead (request.bytes ++ [0]) = request.bytes.length + 1 := by decide +kernel
  refine ⟨hread, by rfl, fun h => ?_⟩
  exact absurd h.1 (by omega)

end AndroidToLinux

end VirtualConnection
