import VirtualConnection.Android.ProtocolManager
import VirtualConnection.Lib.Text

/-!
# Android.ControlMessages

`ControlMessageSender.java` and `ControlMessageReceiver.java`: control messages as text. A message is
sent without a NUL at its end. The receiver makes a string of its whole buffer of 10 KiB and trims it.

Text is ASCII, so a byte is a character in any charset of the platform.
-/

namespace VirtualConnection
namespace Android

open Text

inductive CMCode where
  | kConnect
  | kSleep
  | kWakeup
  | kDisconnect
  | kPriv
  | kDisconnectAck
  | kRetransmit
  | kQueueStatus
  deriving DecidableEq, Repr

def CMCode.toInt : CMCode → Int
  | .kConnect => 1
  | .kSleep => 2
  | .kWakeup => 3
  | .kDisconnect => 4
  | .kPriv => 10
  | .kDisconnectAck => 24
  | .kRetransmit => 30
  | .kQueueStatus => 31

def CMCode.ofInt? : Int → Option CMCode
  | 1 => some .kConnect
  | 2 => some .kSleep
  | 3 => some .kWakeup
  | 4 => some .kDisconnect
  | 10 => some .kPriv
  | 24 => some .kDisconnectAck
  | 30 => some .kRetransmit
  | 31 => some .kQueueStatus
  | _ => none

/-! ## Sending -/

namespace ControlMessageSender

/-- `getBytes`; all of them are sent. -/
def sendControlMessage (controlMessage : List Char) : List UInt8 := toBytes controlMessage

def sendRequest (requestCode : CMCode) (adapterId : Int32) : List UInt8 :=
  sendControlMessage (decimal requestCode.toInt ++ '\n' :: decimal adapterId.toInt)

def sendRequestConnect (adapterId : Int32) : List UInt8 := sendRequest .kConnect adapterId

def sendRequestDisconnectAck (adapterId : Int32) : List UInt8 := sendRequest .kDisconnectAck adapterId

def sendRequestSleep (adapterId : Int32) : List UInt8 := sendRequest .kSleep adapterId

def sendRequestWakeup (adapterId : Int32) : List UInt8 := sendRequest .kWakeup adapterId

def sendRequestDisconnect (adapterId finalSeqNoControl finalSeqNoData : Int32) : List UInt8 :=
  sendControlMessage (decimal CMCode.kDisconnect.toInt ++ '\n' :: (decimal adapterId.toInt ++
    '\n' :: (decimal finalSeqNoControl.toInt ++ '\n' :: decimal finalSeqNoData.toInt)))

def sendRequestRetransmit (segType seqNoStart seqNoEnd : Int32) : List UInt8 :=
  sendControlMessage (decimal CMCode.kRetransmit.toInt ++ '\n' :: (decimal segType.toInt ++
    '\n' :: (decimal seqNoStart.toInt ++ '\n' :: decimal seqNoEnd.toInt)))

/-- With no adapter switching, when the message is not sent. -/
def sendRequestQueueStatusMessage (lastSeqNoControl lastSeqNoData : Int32) : List UInt8 :=
  sendControlMessage (decimal CMCode.kQueueStatus.toInt ++
    '\n' :: (decimal lastSeqNoControl.toInt ++ '\n' :: decimal lastSeqNoData.toInt))

def sendNotiPrivateData (privateType : Int32) (privateMessage : List Char) : List UInt8 :=
  sendControlMessage (decimal CMCode.kPriv.toInt ++ '\n' :: (decimal privateType.toInt ++
    '\n' :: privateMessage))

end ControlMessageSender

/-! ## Receiving -/

namespace ControlMessageReceiver

/-- `substring(0, separatorPos)` and `substring(separatorPos + 1)`; without a newline
`substring(0, -1)` throws. -/
def splitLine (text : List Char) : Except JavaException (List Char × List Char) :=
  if '\n' ∈ text then .ok (text.take (text.idxOf '\n'), text.drop (text.idxOf '\n' + 1))
  else .error .indexOutOfBounds

def parseInt (text : List Char) : Except JavaException Int32 :=
  let (negative, digits) := splitSign text
  if digits = [] ∨ ¬ digits.all Char.isDigit then .error .numberFormat
  else if -2 ^ 31 ≤ withSign negative (Nat.ofDigitChars 10 digits 0) ∧
      withSign negative (Nat.ofDigitChars 10 digits 0) < 2 ^ 31 then
    .ok (Int32.ofInt (withSign negative (Nat.ofDigitChars 10 digits 0)))
  else .error .numberFormat

def trim (text : List Char) : List Char := (text.dropWhile isBlank).rdropWhile isBlank

/-- What is called for a message: one of the `onReceive` methods, or nothing. -/
inductive Dispatched where
  | normal (controlMessageCode : CMCode) (adapterId : Int32)
  | disconnect (adapterId finalSeqNoControl finalSeqNoData : Int32)
  | retransmit (segType seqNoStart seqNoEnd : Int32)
  | queueStatus (lastSeqNoControl lastSeqNoData : Int32)
  | priv (privateType : Int32) (privateMessage : List Char)
  | unknown (controlMessageCode : Int32)
  deriving DecidableEq, Repr

/-- `onReceivePrivateMessage` up to the listeners. -/
def onReceivePrivateMessage (contents : List Char) : Except JavaException Dispatched := do
  let (secondLine, privateMessage) ← splitLine contents
  let privateType ← parseInt secondLine
  return .priv privateType privateMessage

def threeLines (otherLines : List Char) :
    Except JavaException (List Char × List Char × List Char) := do
  let (secondLine, thirdFourthLine) ← splitLine otherLines
  let (thirdLine, fourthLine) ← splitLine thirdFourthLine
  return (secondLine, thirdLine, fourthLine)

def dispatch (message : List Char) : Except JavaException Dispatched := do
  let (firstLine, otherLines) ← splitLine message
  let controlMessageCode ← parseInt firstLine
  match CMCode.ofInt? controlMessageCode.toInt with
  | some .kDisconnect =>
    let (secondLine, thirdLine, fourthLine) ← threeLines otherLines
    let adapterId ← parseInt secondLine
    let finalSeqNoControl ← parseInt thirdLine
    let finalSeqNoData ← parseInt fourthLine
    return .disconnect adapterId finalSeqNoControl finalSeqNoData
  | some .kRetransmit =>
    let (secondLine, thirdLine, fourthLine) ← threeLines otherLines
    let segType ← parseInt secondLine
    let seqNoStart ← parseInt thirdLine
    let seqNoEnd ← parseInt fourthLine
    return .retransmit segType seqNoStart seqNoEnd
  | some .kQueueStatus =>
    let (secondLine, thirdLine) ← splitLine otherLines
    let lastSeqNoControl ← parseInt secondLine
    let lastSeqNoData ← parseInt thirdLine
    return .queueStatus lastSeqNoControl lastSeqNoData
  | some .kPriv => onReceivePrivateMessage otherLines
  | some code =>
    let adapterId ← parseInt otherLines
    return .normal code adapterId
  | none => return .unknown controlMessageCode

/-- `new byte[10 * 1024]` -/
def bufferSize : ℕ := 10 * 1024

/-- What `recv_packet` leaves in the buffer, for a message that `recv_from_segment_manager` returns:
null for an empty message, an array whose length is `protocolData.len`, or none for a length that is
not an `int`. -/
def receive (data : List UInt8) : Except JavaException (Int32 × List UInt8) :=
  if 2 ^ 31 ≤ data.length then .error .negativeArraySize
  else
    match copyPacket (if data = [] then none else some data) (Int32.ofNat data.length)
        (List.replicate bufferSize 0) with
    | .ok messageBuffer => .ok (Int32.ofNat data.length, messageBuffer)
    | .error e => .error e

def loopInternal (data : List UInt8) : Except JavaException (Option Dispatched) := do
  let (res, messageBuffer) ← receive data
  if res ≤ 0 then return none
  let dispatched ← dispatch (trim (ofBytes messageBuffer))
  return some dispatched

/-! ## Reading what was written -/

theorem splitLine_line {line : List Char} (h : '\n' ∉ line) (others : List Char) :
    splitLine (line ++ '\n' :: others) = .ok (line, others) := by
  have hmem : '\n' ∈ line ++ '\n' :: others := by simp
  rw [splitLine, if_pos hmem, idxOf_line h, List.take_left' rfl, ← List.drop_drop,
    List.drop_left' rfl]
  rfl

theorem parseInt_decimal (z : Int) : parseInt (decimal z) =
    if -2 ^ 31 ≤ z ∧ z < 2 ^ 31 then .ok (Int32.ofInt z) else .error .numberFormat := by
  have hall : (Nat.toDigits 10 z.natAbs).all Char.isDigit = true :=
    List.all_eq_true.mpr fun c hc => isDigit_of_mem c hc
  simp only [parseInt, splitSign_decimal, Nat.ofDigitChars_ten_toDigits, withSign_natAbs]
  rw [if_neg (by simp [hall, Nat.toDigits_ne_nil])]

theorem parseInt_decimal_int (x : Int32) : parseInt (decimal x.toInt) = .ok x := by
  have hlow := x.le_toInt
  have hhigh := x.toInt_lt
  rw [parseInt_decimal, if_pos ⟨by simpa using hlow, by simpa using hhigh⟩, Int32.ofInt_toInt]

theorem parseInt_decimal_small {x : UInt32} (h : x.toNat < 2 ^ 31) :
    parseInt (decimal x.toNat) = .ok x.toInt32 := by
  rw [parseInt_decimal, if_pos ⟨by omega, by omega⟩]
  simp [Int32.ofInt_eq_ofNat, ← UInt32.toInt32_ofNat']

theorem parseInt_decimal_big {x : UInt32} (h : ¬ x.toNat < 2 ^ 31) :
    parseInt (decimal x.toNat) = .error .numberFormat := by
  rw [parseInt_decimal, if_neg (by omega)]

/-! ## Receiving a text -/

/-- The rest of the buffer is NUL, which is blank. -/
theorem trim_append_replicate (text : List Char) (k : ℕ) :
    trim (text ++ List.replicate k '\x00') = trim text := by
  have hblank : ∀ c ∈ List.replicate k '\x00', isBlank c = true := by
    intro c hc
    rw [List.eq_of_mem_replicate hc]
    decide
  unfold trim
  rw [List.dropWhile_append]
  split
  · next hempty =>
    rw [List.isEmpty_iff.mp hempty, List.dropWhile_eq_nil_iff.mpr hblank]
  · exact rdropWhile_append_of_forall hblank

/-- The buffer holds the text, or as much of it as there is room for. -/
theorem receive_text {text : List Char} (h : IsText text) (hlen : text.length + 1 < 2 ^ 31) :
    ∃ buffer, receive (toBytes text ++ [0]) = .ok (Int32.ofNat (text.length + 1), buffer) ∧
      trim (ofBytes buffer) = trim (text.take bufferSize) := by
  have hsize : (toBytes text ++ [0]).length = text.length + 1 := by simp
  have hint : (Int32.ofNat (text.length + 1)).toInt = (toBytes text ++ [0]).length := by
    rw [hsize]
    exact Int32.toInt_ofNat_of_lt hlen
  have hne : toBytes text ++ [0] ≠ [] := by simp
  unfold receive
  rw [hsize, if_neg (by omega), if_neg hne]
  by_cases hfits : text.length < bufferSize
  · rw [copyPacket_eq hint (by rwa [hsize, List.length_replicate])]
    refine ⟨_, rfl, ?_⟩
    have hzeros : ofBytes (List.drop (toBytes text ++ [0]).length (List.replicate bufferSize 0)) =
        List.replicate (bufferSize - (text.length + 1)) '\x00' := by
      simp [ofBytes]
    rw [ofBytes_append, ofBytes_append, ofBytes_toBytes h, hzeros, List.append_assoc,
      List.take_of_length_le hfits.le]
    exact trim_append_replicate text (bufferSize - (text.length + 1) + 1)
  · rw [copyPacket_cut hint (by simp [hsize]; omega)]
    refine ⟨_, rfl, ?_⟩
    have hcut : (toBytes text ++ [0]).take bufferSize = toBytes (text.take bufferSize) := by
      rw [List.take_append_of_le_length (by simp; omega)]
      simp [toBytes]
    rw [List.length_replicate, hcut, ofBytes_toBytes fun c hc => h c (List.mem_of_mem_take hc)]

/-- A length that is not an `int` is negative. -/
theorem loopInternal_negativeArraySize {data : List UInt8} (h : 2 ^ 31 ≤ data.length) :
    loopInternal data = .error .negativeArraySize := by
  rw [loopInternal, receive, if_pos h]
  rfl

theorem loopInternal_text {text : List Char} (h : IsText text) (hlen : text.length + 1 < 2 ^ 31) :
    loopInternal (toBytes text ++ [0]) = (dispatch (trim (text.take bufferSize))).map some := by
  obtain ⟨buffer, hreceive, htrim⟩ := receive_text h hlen
  have hpos : ¬ Int32.ofNat (text.length + 1) ≤ 0 := by
    rw [Int32.le_iff_toInt_le, Int32.toInt_ofNat_of_lt hlen]
    simp
  unfold loopInternal
  rw [hreceive]
  simp only [ok_bind, if_neg hpos, htrim]
  cases dispatch (trim (text.take bufferSize)) <;> rfl

theorem trim_numberLines (z : Int) (zs : List Int) : trim (numberLines z zs) = numberLines z zs := by
  obtain ⟨others, hfirst⟩ := numberLines_first z zs
  obtain ⟨others', n, hlast⟩ := numberLines_last zs z
  rw [trim, hfirst, dropWhile_isBlank_decimal, ← hfirst, hlast, rdropWhile_isBlank_decimal]

theorem loopInternal_numberLines {z : Int} {zs : List Int} (h : ∀ n ∈ z :: zs, n.natAbs < 10 ^ 10)
    (hlines : zs.length ≤ 3) :
    loopInternal (toBytes (numberLines z zs) ++ [0]) = (dispatch (numberLines z zs)).map some := by
  have hlen := length_numberLines_le (by decide) zs z h
  have hfits : (numberLines z zs).length ≤ bufferSize := by
    refine hlen.trans (le_trans (Nat.mul_le_mul_left _ (Nat.succ_le_succ hlines)) ?_)
    decide
  have hint : (numberLines z zs).length + 1 < 2 ^ 31 := by
    have : bufferSize = 10240 := rfl
    omega
  rw [loopInternal_text (isText_numberLines zs z) hint, List.take_of_length_le hfits,
    trim_numberLines]

/-! ## Dispatching what was written -/

theorem parseInt_code (code : CMCode) :
    parseInt (decimal code.toInt) = .ok (Int32.ofInt code.toInt) := by
  rw [parseInt_decimal]
  cases code <;> rfl

theorem ofInt?_code (code : CMCode) : CMCode.ofInt? (Int32.ofInt code.toInt).toInt = some code := by
  cases code <;> rfl

section Dispatch

variable (id : Int32) (c d : Int)

theorem dispatch_normal (code : CMCode)
    (h : code ∈ [CMCode.kConnect, .kSleep, .kWakeup, .kDisconnectAck]) :
    dispatch (numberLines code.toInt [id.toInt]) = .ok (.normal code id) := by
  simp only [dispatch, numberLines, splitLine_line newline_not_mem_decimal, ok_bind, parseInt_code,
    ofInt?_code]
  simp only [List.mem_cons, List.not_mem_nil, or_false] at h
  rcases h with rfl | rfl | rfl | rfl <;> simp only [parseInt_decimal_int, ok_bind] <;> rfl

theorem dispatch_disconnect :
    dispatch (numberLines CMCode.kDisconnect.toInt [id.toInt, c, d]) = (do
      let c ← parseInt (decimal c)
      let d ← parseInt (decimal d)
      return .disconnect id c d) := by
  simp only [dispatch, threeLines, numberLines, splitLine_line newline_not_mem_decimal, ok_bind,
    parseInt_code, ofInt?_code, parseInt_decimal_int, pure, Except.pure]

theorem dispatch_retransmit :
    dispatch (numberLines CMCode.kRetransmit.toInt [id.toInt, c, d]) = (do
      let c ← parseInt (decimal c)
      let d ← parseInt (decimal d)
      return .retransmit id c d) := by
  simp only [dispatch, threeLines, numberLines, splitLine_line newline_not_mem_decimal, ok_bind,
    parseInt_code, ofInt?_code, parseInt_decimal_int, pure, Except.pure]

theorem dispatch_queueStatus :
    dispatch (numberLines CMCode.kQueueStatus.toInt [c, d]) = (do
      let c ← parseInt (decimal c)
      let d ← parseInt (decimal d)
      return .queueStatus c d) := by
  simp only [dispatch, numberLines, splitLine_line newline_not_mem_decimal, ok_bind, parseInt_code,
    ofInt?_code]

theorem dispatch_priv (contents : List Char) :
    dispatch (decimal CMCode.kPriv.toInt ++ '\n' :: (decimal id.toInt ++ '\n' :: contents)) =
      .ok (.priv id contents) := by
  simp only [dispatch, onReceivePrivateMessage, splitLine_line newline_not_mem_decimal, ok_bind,
    parseInt_code, ofInt?_code, parseInt_decimal_int, pure, Except.pure]

/-- The contents are gone, and with them the newline before them. -/
theorem dispatch_priv_empty :
    dispatch (decimal CMCode.kPriv.toInt ++ '\n' :: decimal id.toInt) = .error .indexOutOfBounds := by
  simp only [dispatch, onReceivePrivateMessage, splitLine_line newline_not_mem_decimal, ok_bind,
    parseInt_code, ofInt?_code]
  rw [splitLine, if_neg newline_not_mem_decimal]
  rfl

/-- Contents that are blank go with the newline before them. -/
theorem trim_priv (z : Int) (contents : List Char) :
    trim (decimal z ++ '\n' :: (decimal id.toInt ++ '\n' :: contents)) =
      if contents.rdropWhile isBlank = [] then decimal z ++ '\n' :: decimal id.toInt
      else decimal z ++ '\n' :: (decimal id.toInt ++ '\n' :: contents.rdropWhile isBlank) := by
  have hsplit : ∀ rest, decimal z ++ '\n' :: (decimal id.toInt ++ '\n' :: rest) =
      (decimal z ++ '\n' :: decimal id.toInt) ++ '\n' :: rest := by simp
  rw [trim, dropWhile_isBlank_decimal, hsplit, hsplit]
  split
  · next hblank =>
    have hall := List.rdropWhile_eq_nil_iff.mp hblank
    rw [rdropWhile_append_of_forall (b := '\n' :: contents) fun c hc => ?_]
    · simpa using rdropWhile_isBlank_decimal (decimal z ++ ['\n']) id.toInt
    · rcases List.mem_cons.mp hc with rfl | hc
      · rfl
      · exact hall c hc
  · next hblank =>
    have hex : ∃ c ∈ contents, isBlank c = false := by
      by_contra hno
      push Not at hno
      exact hblank (List.rdropWhile_eq_nil_iff.mpr fun c hc => by simpa using hno c hc)
    have hcons : ∀ rest, (decimal z ++ '\n' :: decimal id.toInt) ++ '\n' :: rest =
        (decimal z ++ '\n' :: decimal id.toInt ++ ['\n']) ++ rest := by simp
    rw [hcons contents, hcons (contents.rdropWhile isBlank), rdropWhile_append_of_exists hex]

theorem natAbs_toInt_lt (x : Int32) : x.toInt.natAbs < 10 ^ 10 := by
  have := x.le_toInt
  have := x.toInt_lt
  omega

theorem length_decimal_int_le (x : Int32) : (decimal x.toInt).length ≤ 11 :=
  length_decimal_le (by decide) (natAbs_toInt_lt x)

/-- What is left of private contents after the buffer and `trim`. -/
def keptContents (contents : List Char) : List Char :=
  (contents.take (bufferSize - ((decimal id.toInt).length + 4))).rdropWhile isBlank

/-- Contents that are kept as they are: not empty, no blank at the end, and there is room for them. -/
theorem keptContents_eq_self_iff {contents : List Char} :
    contents ≠ [] ∧ keptContents id contents = contents ↔
      (∃ front c, contents = front ++ [c] ∧ isBlank c = false) ∧
        (decimal id.toInt).length + contents.length + 4 ≤ bufferSize := by
  have hline := length_decimal_int_le id
  have hroom : bufferSize = 10240 := rfl
  unfold keptContents
  constructor
  · rintro ⟨hne, hkept⟩
    have hfits : contents.length ≤ bufferSize - ((decimal id.toInt).length + 4) := by
      have hle := (List.rdropWhile_prefix isBlank (l := contents.take
        (bufferSize - ((decimal id.toInt).length + 4)))).length_le
      rw [hkept, List.length_take] at hle
      omega
    rw [List.take_of_length_le hfits] at hkept
    refine ⟨⟨contents.dropLast, contents.getLast hne, (List.dropLast_append_getLast hne).symm, ?_⟩,
      by omega⟩
    simpa using List.rdropWhile_eq_self_iff.mp hkept hne
  · rintro ⟨⟨front, c, rfl, hc⟩, hfits⟩
    rw [List.take_of_length_le (by omega), List.rdropWhile_concat_neg _ _ _ (by simp [hc])]
    simp

theorem loopInternal_priv {contents : List Char} (h : IsText contents)
    (hlen : contents.length + (decimal id.toInt).length + 5 < 2 ^ 31) :
    loopInternal (toBytes (decimal CMCode.kPriv.toInt ++
        '\n' :: (decimal id.toInt ++ '\n' :: contents)) ++ [0]) =
      if keptContents id contents = [] then .error .indexOutOfBounds
      else .ok (some (.priv id (keptContents id contents))) := by
  have htwo : (decimal CMCode.kPriv.toInt).length = 2 := rfl
  have hline := length_decimal_int_le id
  have hroom : bufferSize = 10240 := rfl
  rw [loopInternal_text ((isText_decimal).newline (isText_decimal.newline h))
    (by simp only [List.length_append, List.length_cons, htwo]; omega)]
  have htake : (decimal CMCode.kPriv.toInt ++
        '\n' :: (decimal id.toInt ++ '\n' :: contents)).take bufferSize =
      decimal CMCode.kPriv.toInt ++ '\n' :: (decimal id.toInt ++
        '\n' :: contents.take (bufferSize - ((decimal id.toInt).length + 4))) := by
    rw [List.take_append, List.take_of_length_le (by omega), htwo,
      show bufferSize - 2 = (bufferSize - 3) + 1 by omega, List.take_succ_cons, List.take_append,
      List.take_of_length_le (by omega),
      show bufferSize - 3 - (decimal id.toInt).length =
        (bufferSize - ((decimal id.toInt).length + 4)) + 1 by omega, List.take_succ_cons]
  rw [htake, trim_priv, ← keptContents]
  split
  · rw [dispatch_priv_empty]
    rfl
  · rw [dispatch_priv]
    rfl

end Dispatch

end ControlMessageReceiver

end Android
end VirtualConnection
