import VirtualConnection.Lib.Text

/-!
# Linux.ControlMessages

`ControlMessageSender.cpp` and `ControlMessageReceiver.cpp`: control messages as text. The receiver
makes a C string of the buffer it gets, so what it reads is a matter of where the first NUL is; the
memory it looks at is the buffer and whatever lies behind it.

Text is ASCII. An exception of the standard library is an error.
-/

namespace VirtualConnection
namespace Linux

open Text

inductive CMCode where
  | kCMCodeConnect
  | kCMCodeSleep
  | kCMCodeWakeUp
  | kCMCodeDisconnect
  | kCMCodePriv
  | kCMCodeDisconnectAck
  | kCMCodeRetransmit
  | kCMCodeQueueStatus
  deriving DecidableEq, Repr

def CMCode.toInt : CMCode → Int
  | .kCMCodeConnect => 1
  | .kCMCodeSleep => 2
  | .kCMCodeWakeUp => 3
  | .kCMCodeDisconnect => 4
  | .kCMCodePriv => 10
  | .kCMCodeDisconnectAck => 24
  | .kCMCodeRetransmit => 30
  | .kCMCodeQueueStatus => 31

def CMCode.ofInt? : Int → Option CMCode
  | 1 => some .kCMCodeConnect
  | 2 => some .kCMCodeSleep
  | 3 => some .kCMCodeWakeUp
  | 4 => some .kCMCodeDisconnect
  | 10 => some .kCMCodePriv
  | 24 => some .kCMCodeDisconnectAck
  | 30 => some .kCMCodeRetransmit
  | 31 => some .kCMCodeQueueStatus
  | _ => none

/-! ## Sending -/

namespace ControlMessageSender

/-- `strncpy` into a buffer with room for the text and a NUL. Its size is an `int`. -/
def sendControlMessage (message : List Char) : List UInt8 :=
  let copied := toBytes (message.takeWhile fun c => c ≠ '\x00')
  copied ++ List.replicate (message.length + 1 - copied.length) 0

def sendRequest (requestCode : CMCode) (adapterId : Int32) : List UInt8 :=
  sendControlMessage (decimal requestCode.toInt ++ '\n' :: decimal adapterId.toInt)

def sendRequestConnect (adapterId : Int32) : List UInt8 := sendRequest .kCMCodeConnect adapterId

def sendRequestDisconnectAck (adapterId : Int32) : List UInt8 :=
  sendRequest .kCMCodeDisconnectAck adapterId

def sendRequestSleep (adapterId : Int32) : List UInt8 := sendRequest .kCMCodeSleep adapterId

def sendRequestWakeUp (adapterId : Int32) : List UInt8 := sendRequest .kCMCodeWakeUp adapterId

def sendRequestDisconnect (adapterId : Int32) (finalSeqNoControl finalSeqNoData : UInt32) :
    List UInt8 :=
  sendControlMessage (decimal CMCode.kCMCodeDisconnect.toInt ++ '\n' :: (decimal adapterId.toInt ++
    '\n' :: (decimal finalSeqNoControl.toNat ++ '\n' :: decimal finalSeqNoData.toNat)))

/-- The adapter's id is not sent. -/
def sendRequestRetransmit (segmentType : Int32) (seqNoStart seqNoEnd : UInt32) : List UInt8 :=
  sendControlMessage (decimal CMCode.kCMCodeRetransmit.toInt ++ '\n' :: (decimal segmentType.toInt ++
    '\n' :: (decimal seqNoStart.toNat ++ '\n' :: decimal seqNoEnd.toNat)))

def sendRequestQueueStatus (lastSeqNoControl lastSeqNoData : UInt32) : List UInt8 :=
  sendControlMessage (decimal CMCode.kCMCodeQueueStatus.toInt ++
    '\n' :: (decimal lastSeqNoControl.toNat ++ '\n' :: decimal lastSeqNoData.toNat))

def sendNotiPrivateData (privType : Int32) (privData : List Char) : List UInt8 :=
  sendControlMessage (decimal CMCode.kCMCodePriv.toInt ++ '\n' :: (decimal privType.toInt ++
    '\n' :: privData))

theorem sendControlMessage_text {text : List Char} (h : IsText text) :
    sendControlMessage text = toBytes text ++ [0] := by
  have hcopied : (text.takeWhile fun c => c ≠ '\x00') = text := by
    refine List.takeWhile_eq_self_iff.mpr fun c hc => decide_eq_true ?_
    rintro rfl
    exact absurd (h _ hc).1 (by decide)
  have hroom : text.length + 1 - (toBytes text).length = 1 := by
    rw [length_toBytes]
    omega
  rw [sendControlMessage, hcopied, hroom]
  rfl

end ControlMessageSender

/-! ## Receiving -/

inductive StdException where
  | invalidArgument
  | outOfRange
  deriving DecidableEq, Repr

namespace ControlMessageReceiver

/-- `substr(0, separator_pos)` and `substr(separator_pos + 1)`. Without a newline `separator_pos` is
`npos`, the largest `size_t`: the first part is the whole text, and so is the second, as `npos + 1` is
0. -/
def splitLine (text : List Char) : List Char × List Char :=
  if '\n' ∈ text then (text.take (text.idxOf '\n'), text.drop (text.idxOf '\n' + 1))
  else (text, text)

/-- `isspace` -/
def isSpace (c : Char) : Bool := c = ' ' ∨ 9 ≤ c.toNat ∧ c.toNat ≤ 13

/-- What `strtol` reads: blanks, a sign, and digits up to the first other character. -/
def leadingNumber (text : List Char) : Option (Bool × ℕ) :=
  let (negative, rest) := splitSign (text.dropWhile isSpace)
  let digits := rest.takeWhile Char.isDigit
  if digits = [] then none else some (negative, Nat.ofDigitChars 10 digits 0)

def stoi (text : List Char) : Except StdException Int32 :=
  match leadingNumber text with
  | none => .error .invalidArgument
  | some (negative, n) =>
    if -2 ^ 31 ≤ withSign negative n ∧ withSign negative n < 2 ^ 31 then
      .ok (Int32.ofInt (withSign negative n))
    else .error .outOfRange

/-- `stoul`, converted to `uint32_t`. A minus sign negates the `unsigned long`. -/
def stoul (text : List Char) : Except StdException UInt32 :=
  match leadingNumber text with
  | none => .error .invalidArgument
  | some (negative, n) =>
    if n < 2 ^ 64 then .ok (UInt32.ofNat (if negative then 2 ^ 64 - n else n))
    else .error .outOfRange

/-- What is called for a message: one of the `on_receive_` methods, or nothing. -/
inductive Dispatched where
  | normal (controlMessageCode : CMCode) (adapterId : Int32)
  | disconnect (adapterId : Int32) (finalSeqNoControl finalSeqNoData : UInt32)
  | priv (privType : Int32) (privMessage : List Char)
  | retransmit (segmentType : Int32) (seqNoStart seqNoEnd : UInt32)
  | queueStatus (lastSeqNoControl lastSeqNoData : UInt32)
  | unknown (controlMessageCode : Int32)
  deriving DecidableEq, Repr

/-- `on_receive_priv_message` up to the listeners. The message begins at the separator; `substr(npos)`
throws. -/
def onReceivePrivMessage (contents : List Char) : Except StdException Dispatched :=
  if '\n' ∈ contents then do
    let privType ← stoi (contents.take (contents.idxOf '\n'))
    return .priv privType (contents.drop (contents.idxOf '\n'))
  else .error .outOfRange

def threeLines (otherLines : List Char) : List Char × List Char × List Char :=
  let (secondLine, thirdFourthLine) := splitLine otherLines
  (secondLine, splitLine thirdFourthLine)

def dispatch (message : List Char) : Except StdException Dispatched := do
  let (firstLine, otherLines) := splitLine message
  let controlMessageCode ← stoi firstLine
  match CMCode.ofInt? controlMessageCode.toInt with
  | some .kCMCodeDisconnect =>
    let (secondLine, thirdLine, fourthLine) := threeLines otherLines
    let adapterId ← stoi secondLine
    let finalSeqNoControl ← stoul thirdLine
    let finalSeqNoData ← stoul fourthLine
    return .disconnect adapterId finalSeqNoControl finalSeqNoData
  | some .kCMCodePriv => onReceivePrivMessage otherLines
  | some .kCMCodeRetransmit =>
    let (secondLine, thirdLine, fourthLine) := threeLines otherLines
    let segmentType ← stoi secondLine
    let seqNoStart ← stoul thirdLine
    let seqNoEnd ← stoul fourthLine
    return .retransmit segmentType seqNoStart seqNoEnd
  | some .kCMCodeQueueStatus =>
    let (secondLine, thirdLine) := splitLine otherLines
    let lastSeqNoControl ← stoul secondLine
    let lastSeqNoData ← stoul thirdLine
    return .queueStatus lastSeqNoControl lastSeqNoData
  | some code =>
    let adapterId ← stoi otherLines
    return .normal code adapterId
  | none => return .unknown controlMessageCode

/-- `std::string message((char *)message_buffer)`: what is read of the memory from the buffer on. -/
def cString (memory : List UInt8) : List UInt8 := memory.takeWhile fun b => b ≠ 0

/-- How many bytes that takes: the C string and its NUL. -/
def cStringRead (memory : List UInt8) : ℕ := (cString memory).length + 1

/-- One message; the buffer is null when nothing was received. -/
def receivingThreadLoopInternal (memory : Option (List UInt8)) :
    Except StdException (Option Dispatched) :=
  match memory with
  | none => .ok none
  | some memory =>
    match dispatch (ofBytes (cString memory)) with
    | .ok dispatched => .ok (some dispatched)
    | .error e => .error e

/-! ## Reading what was written -/

theorem splitLine_line {line : List Char} (h : '\n' ∉ line) (others : List Char) :
    splitLine (line ++ '\n' :: others) = (line, others) := by
  have hmem : '\n' ∈ line ++ '\n' :: others := by simp
  rw [splitLine, if_pos hmem, idxOf_line h, List.take_left' rfl, ← List.drop_drop,
    List.drop_left' rfl]
  rfl

theorem leadingNumber_decimal (z : Int) :
    leadingNumber (decimal z) = some (decide (z < 0), z.natAbs) := by
  have hspace : (decimal z).dropWhile isSpace = decimal z := by
    cases hd : decimal z with
    | nil => rfl
    | cons c rest =>
      have hc := toNat_of_mem_decimal (z := z) (hd ▸ List.mem_cons_self : c ∈ decimal z)
      refine List.dropWhile_cons_of_neg ?_
      simp only [isSpace, decide_eq_true_eq, not_or, not_and_or]
      refine ⟨?_, .inr (by omega)⟩
      rintro rfl
      simp at hc
  have hdigits : (Nat.toDigits 10 z.natAbs).takeWhile Char.isDigit = Nat.toDigits 10 z.natAbs :=
    List.takeWhile_eq_self_iff.mpr fun c hc => isDigit_of_mem c hc
  simp only [leadingNumber, hspace, splitSign_decimal, hdigits, if_neg Nat.toDigits_ne_nil,
    Nat.ofDigitChars_ten_toDigits]

theorem stoi_decimal (x : Int32) : stoi (decimal x.toInt) = .ok x := by
  have hlow := x.le_toInt
  have hhigh := x.toInt_lt
  simp only [stoi, leadingNumber_decimal, withSign_natAbs]
  rw [if_pos ⟨by simpa using hlow, by simpa using hhigh⟩, Int32.ofInt_toInt]

/-- A minus sign gives the same bits. -/
theorem stoul_decimal_int (x : Int32) : stoul (decimal x.toInt) = .ok x.toUInt32 := by
  have hlow := x.le_toInt
  have hhigh := x.toInt_lt
  simp only [stoul, leadingNumber_decimal]
  rw [if_pos (by omega)]
  have hbits : (x.toUInt32.toNat : ℤ) = if x.toInt < 0 then x.toInt + 2 ^ 32 else x.toInt := by
    have hcond : x.toInt = if 2 * x.toUInt32.toNat < 2 ^ 32 then (x.toUInt32.toNat : ℤ)
        else (x.toUInt32.toNat : ℤ) - (2 ^ 32 : ℕ) := x.toBitVec.toInt_eq_toNat_cond
    have hlt := x.toUInt32.toNat_lt
    split at hcond <;> split <;> omega
  congr 1
  apply UInt32.toNat.inj
  rw [UInt32.toNat_ofNat']
  by_cases hneg : x.toInt < 0
  · rw [if_pos hneg] at hbits
    rw [if_pos (decide_eq_true hneg)]
    omega
  · rw [if_neg hneg] at hbits
    rw [if_neg (by simpa using hneg)]
    omega

/-! ## Dispatching what was written -/

theorem stoi_code (code : CMCode) : stoi (decimal code.toInt) = .ok (Int32.ofInt code.toInt) := by
  have hsame : (Int32.ofInt code.toInt).toInt = code.toInt := by cases code <;> rfl
  simpa only [hsame] using stoi_decimal (Int32.ofInt code.toInt)

theorem ofInt?_code (code : CMCode) : CMCode.ofInt? (Int32.ofInt code.toInt).toInt = some code := by
  cases code <;> rfl

section Dispatch

variable (id c d : Int32)

theorem dispatch_normal (code : CMCode)
    (h : code ∈ [CMCode.kCMCodeConnect, .kCMCodeSleep, .kCMCodeWakeUp, .kCMCodeDisconnectAck]) :
    dispatch (numberLines code.toInt [id.toInt]) = .ok (.normal code id) := by
  simp only [dispatch, numberLines, splitLine_line newline_not_mem_decimal, ok_bind, stoi_code,
    ofInt?_code]
  simp only [List.mem_cons, List.not_mem_nil, or_false] at h
  rcases h with rfl | rfl | rfl | rfl <;> simp only [stoi_decimal, ok_bind] <;> rfl

section SeqNos

variable {z w : ℤ} {m n : UInt32}

theorem dispatch_disconnect_of (hz : stoul (decimal z) = .ok m) (hw : stoul (decimal w) = .ok n) :
    dispatch (numberLines CMCode.kCMCodeDisconnect.toInt [id.toInt, z, w]) =
      .ok (.disconnect id m n) := by
  simp only [dispatch, threeLines, numberLines, splitLine_line newline_not_mem_decimal, ok_bind,
    stoi_code, ofInt?_code, stoi_decimal, hz, hw, pure, Except.pure]

theorem dispatch_retransmit_of (hz : stoul (decimal z) = .ok m) (hw : stoul (decimal w) = .ok n) :
    dispatch (numberLines CMCode.kCMCodeRetransmit.toInt [id.toInt, z, w]) =
      .ok (.retransmit id m n) := by
  simp only [dispatch, threeLines, numberLines, splitLine_line newline_not_mem_decimal, ok_bind,
    stoi_code, ofInt?_code, stoi_decimal, hz, hw, pure, Except.pure]

theorem dispatch_queueStatus_of (hz : stoul (decimal z) = .ok m) (hw : stoul (decimal w) = .ok n) :
    dispatch (numberLines CMCode.kCMCodeQueueStatus.toInt [z, w]) = .ok (.queueStatus m n) := by
  simp only [dispatch, numberLines, splitLine_line newline_not_mem_decimal, ok_bind, stoi_code,
    ofInt?_code, hz, hw, pure, Except.pure]

end SeqNos

theorem dispatch_disconnect :
    dispatch (numberLines CMCode.kCMCodeDisconnect.toInt [id.toInt, c.toInt, d.toInt]) =
      .ok (.disconnect id c.toUInt32 d.toUInt32) :=
  dispatch_disconnect_of id (stoul_decimal_int c) (stoul_decimal_int d)

theorem dispatch_retransmit :
    dispatch (numberLines CMCode.kCMCodeRetransmit.toInt [id.toInt, c.toInt, d.toInt]) =
      .ok (.retransmit id c.toUInt32 d.toUInt32) :=
  dispatch_retransmit_of id (stoul_decimal_int c) (stoul_decimal_int d)

theorem dispatch_queueStatus :
    dispatch (numberLines CMCode.kCMCodeQueueStatus.toInt [c.toInt, d.toInt]) =
      .ok (.queueStatus c.toUInt32 d.toUInt32) :=
  dispatch_queueStatus_of (stoul_decimal_int c) (stoul_decimal_int d)

theorem dispatch_priv (contents : List Char) :
    dispatch (decimal CMCode.kCMCodePriv.toInt ++ '\n' :: (decimal id.toInt ++ '\n' :: contents)) =
      .ok (.priv id ('\n' :: contents)) := by
  have hmem : '\n' ∈ decimal id.toInt ++ '\n' :: contents := by simp
  simp only [dispatch, splitLine_line newline_not_mem_decimal, ok_bind, stoi_code, ofInt?_code,
    onReceivePrivMessage, if_pos hmem, idxOf_line newline_not_mem_decimal]
  rw [List.take_left' rfl, List.drop_left' rfl, stoi_decimal]
  rfl

end Dispatch

/-! ## Receiving a text -/

variable {text : List Char}

/-- A text ends nowhere: its C string goes on behind it. -/
theorem cString_text (h : IsText text) (beyond : List UInt8) :
    cString (toBytes text ++ beyond) = toBytes text ++ cString beyond := by
  unfold cString
  refine List.takeWhile_append_of_pos fun b hb => decide_eq_true ?_
  rintro rfl
  exact zero_notMem_toBytes h hb

theorem cStringRead_text (h : IsText text) (beyond : List UInt8) :
    text.length < cStringRead (toBytes text ++ beyond) := by
  rw [cStringRead, cString_text h, List.length_append, length_toBytes]
  omega

/-- With a NUL behind it, a text is read as it is. -/
theorem receivingThreadLoopInternal_text (h : IsText text) (beyond : List UInt8) {result : Dispatched}
    (hdispatch : dispatch text = .ok result) :
    receivingThreadLoopInternal (some (toBytes text ++ 0 :: beyond)) = .ok (some result) := by
  have hread : cString (toBytes text ++ 0 :: beyond) = toBytes text := by
    rw [cString_text h]
    simp [cString]
  simp only [receivingThreadLoopInternal, hread, ofBytes_toBytes h, hdispatch]

end ControlMessageReceiver

end Linux
end VirtualConnection
