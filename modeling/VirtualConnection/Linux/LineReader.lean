import Mathlib.Data.List.Basic

/-!
# Linux.LineReader

`LineReader` of `csv.h`: a file is read in blocks, and cut into lines. The buffer has three blocks; the
lines are looked for in the first two, while a thread reads the next block into the third one.
`block_len`, which is `1 << 24`, is a parameter, and so is what the memory held before.

A character is a byte. What the thread reads counts as read when `finish_read` asks for it; after a
read that gave nothing the thread is gone, and another `finish_read` would wait for ever.

`readAll_eq`: the lines are those of the file, up to the first one that is too long for a block.
-/

namespace VirtualConnection
namespace Linux

/-- Why `next_line` does not return. -/
inductive LineError where
  | assertion
  /-- `line_length_limit_exceeded`, with the number of the line. -/
  | lineLengthLimitExceeded (fileLine : ℕ)
  /-- `finish_read` waits for ever. -/
  | waits
  deriving DecidableEq, Repr

/-- `source` is what the byte source has not given yet, when `reader` has one; `isOver` says that its
thread has ended. -/
structure LineReader where
  buffer : ℕ → Char
  dataBegin : ℕ
  dataEnd : ℕ
  fileLine : ℕ
  source : Option (List Char)
  isOver : Bool

namespace LineReader

/-- `read` into the buffer. -/
def fill (buffer : ℕ → Char) (offset : ℕ) (data : List Char) : ℕ → Char := fun i =>
  if offset ≤ i then (data[i - offset]?).getD (buffer i) else buffer i

/-- `memcpy(buffer + to, buffer + from, count)` -/
def copy (buffer : ℕ → Char) (dst src count : ℕ) : ℕ → Char := fun i =>
  if dst ≤ i ∧ i < dst + count then buffer (src + (i - dst)) else buffer i

/-- The UTF-8 byte order mark. -/
def bom : List Char := ['\xEF', '\xBB', '\xBF']

variable (blockLen : ℕ)

def init (memory : ℕ → Char) (file : List Char) : LineReader :=
  let data := file.take (2 * blockLen)
  { buffer := fill memory 0 data
    dataBegin := if bom.isPrefixOf data then 3 else 0
    dataEnd := data.length
    fileLine := 0
    source := if data.length = 2 * blockLen then some (file.drop (2 * blockLen)) else none
    isOver := false }

/-- The second block becomes the first one. -/
def moveBlock (r : LineReader) : LineReader :=
  { r with
    buffer := copy r.buffer 0 blockLen blockLen
    dataBegin := r.dataBegin - blockLen
    dataEnd := r.dataEnd - blockLen }

/-- `finish_read`, and the third block becomes the second one. -/
def finishRead (r : LineReader) (source : List Char) : LineReader :=
  let data := source.take blockLen
  { r with
    buffer := copy (fill r.buffer (2 * blockLen) data) blockLen (2 * blockLen) blockLen
    dataEnd := r.dataEnd + data.length
    source := some (source.drop blockLen)
    isOver := data.isEmpty }

/-- What is done when the first block has been used up. -/
def shift (r : LineReader) : Except LineError LineReader :=
  match r.source with
  | none => .ok (r.moveBlock blockLen)
  | some source =>
    if r.isOver then .error .waits else .ok ((r.moveBlock blockLen).finishRead blockLen source)

/-- The loop that looks for the end of the line; the first argument is `data_end - line_end`. -/
def findLineEnd (buffer : ℕ → Char) : ℕ → ℕ → ℕ
  | 0, lineEnd => lineEnd
  | n + 1, lineEnd => if buffer lineEnd = '\n' then lineEnd else findLineEnd buffer n (lineEnd + 1)

/-- The characters from one index up to another one. -/
def slice (buffer : ℕ → Char) (first last : ℕ) : List Char :=
  (List.range' first (last - first)).map buffer

/-- A C string ends at its first NUL. -/
def cString (text : List Char) : List Char := text.takeWhile (· ≠ '\x00')

/-- The end of the line becomes a NUL, and so does a carriage return in front of it. -/
def terminate (buffer : ℕ → Char) (dataBegin lineEnd : ℕ) : ℕ → Char :=
  let buffer := Function.update buffer lineEnd '\x00'
  if lineEnd ≠ dataBegin ∧ buffer (lineEnd - 1) = '\r' then
    Function.update buffer (lineEnd - 1) '\x00'
  else buffer

/-- A newline that is missing at the end of the file lies behind the data. -/
def advance (r : LineReader) (lineEnd : ℕ) : LineReader :=
  { r with
    buffer := terminate r.buffer r.dataBegin lineEnd
    dataBegin := lineEnd + 1
    dataEnd := if r.buffer lineEnd = '\n' then r.dataEnd else r.dataEnd + 1 }

/-- The rest of `next_line`, from the search for the end of the line. -/
def takeLine (r : LineReader) : Except LineError (List Char × LineReader) :=
  let lineEnd := findLineEnd r.buffer (r.dataEnd - r.dataBegin) r.dataBegin
  if lineEnd - r.dataBegin + 1 > blockLen then .error (.lineLengthLimitExceeded r.fileLine)
  else
    .ok (cString (slice (r.advance lineEnd).buffer r.dataBegin (lineEnd + 1)), r.advance lineEnd)

/-- The line is numbered, and there is room for it. -/
def prepare (r : LineReader) : Except LineError LineReader :=
  let r := { r with fileLine := r.fileLine + 1 }
  if r.dataBegin ≥ blockLen then r.shift blockLen else .ok r

def nextLine (r : LineReader) : Except LineError (Option (List Char) × LineReader) :=
  if r.dataBegin = r.dataEnd then .ok (none, r)
  else if ¬ r.dataBegin < r.dataEnd ∨ ¬ r.dataEnd ≤ blockLen * 2 then .error .assertion
  else do
    let r ← r.prepare blockLen
    let (line, r) ← r.takeLine blockLen
    return (some line, r)

/-- What calls of `next_line` return until one returns no line, or does not return. -/
def readAll : ℕ → LineReader → List (List Char) × Option LineError
  | 0, _ => ([], none)
  | n + 1, r =>
    match r.nextLine blockLen with
    | .error e => ([], some e)
    | .ok (none, _) => ([], none)
    | .ok (some line, r) => (line :: (readAll n r).1, (readAll n r).2)

/-! ## What should be read -/

/-- A line as it is returned: without a carriage return at its end, and up to a NUL. -/
def shown (line : List Char) : List Char :=
  cString (if line.getLast? = some '\r' then line.dropLast else line)

/-- The lines up to the first one that does not fit into a block; `k` are in front of them. -/
def expected : ℕ → List (List Char) → List (List Char) × Option LineError
  | _, [] => ([], none)
  | k, line :: rest =>
    if line.length + 1 > blockLen then ([], some (.lineLengthLimitExceeded (k + 1)))
    else (shown line :: (expected (k + 1) rest).1, (expected (k + 1) rest).2)

/-- The text of a file: whole lines, and possibly one without an end. -/
def text (lines : List (List Char)) (last : List Char) : List Char :=
  (lines.flatMap fun line => line ++ ['\n']) ++ last

/-! ## The buffer -/

section Slices

variable {f g : ℕ → Char} {i j k : ℕ}

@[simp] theorem length_slice (f : ℕ → Char) (i j : ℕ) : (slice f i j).length = j - i := by
  simp [slice]

theorem slice_congr (h : ∀ n, i ≤ n → n < j → f n = g n) : slice f i j = slice g i j := by
  refine List.map_congr_left fun n hn => ?_
  obtain ⟨hle, hlt⟩ := List.mem_range'_1.mp hn
  exact h n hle (by omega)

theorem slice_append (hij : i ≤ j) (hjk : j ≤ k) : slice f i k = slice f i j ++ slice f j k := by
  unfold slice
  have hsum : k - i = (j - i) + (k - j) := by omega
  have hj : i + (j - i) = j := by omega
  rw [hsum, ← List.range'_append_1, hj, List.map_append]

theorem slice_self (f : ℕ → Char) (i : ℕ) : slice f i i = [] := by
  simp [slice]

theorem slice_succ (f : ℕ → Char) (i : ℕ) : slice f i (i + 1) = [f i] := by
  simp [slice]

theorem slice_add (f : ℕ → Char) (i j k : ℕ) :
    slice (fun n => f (k + n)) i j = slice f (k + i) (k + j) := by
  unfold slice
  rw [show k + j - (k + i) = j - i by omega, List.range'_eq_map_range, List.range'_eq_map_range,
    List.map_map, List.map_map]
  refine List.map_congr_left fun n _ => ?_
  simp [Nat.add_assoc]

theorem slice_fill (buffer : ℕ → Char) (offset : ℕ) (data : List Char) :
    slice (fill buffer offset data) offset (offset + data.length) = data := by
  refine List.ext_getElem (by simp) fun n h₁ h₂ => ?_
  simp only [slice, List.getElem_map, List.getElem_range', fill]
  rw [if_pos (by omega), show offset + 1 * n - offset = n by omega, List.getElem?_eq_getElem h₂]
  rfl

theorem findLineEnd_eq (buffer : ℕ → Char) (n lineEnd : ℕ) :
    findLineEnd buffer n lineEnd = lineEnd + (slice buffer lineEnd (lineEnd + n)).idxOf '\n' := by
  induction n generalizing lineEnd with
  | zero => simp [findLineEnd, slice]
  | succ n ih =>
    rw [findLineEnd, slice_append (Nat.le_succ lineEnd) (by omega), Nat.succ_eq_add_one, slice_succ,
      List.singleton_append, List.idxOf_cons]
    by_cases hc : buffer lineEnd = '\n'
    · simp [hc]
    · rw [if_neg hc, ih, show lineEnd + 1 + n = lineEnd + (n + 1) by omega]
      rw [beq_eq_false_iff_ne.mpr hc, cond_false, Nat.add_assoc, Nat.add_comm 1]

theorem idxOf_prefix {a b : List Char} {c : Char} (hp : a <+: b) :
    a.idxOf c = min a.length (b.idxOf c) := by
  obtain ⟨rest, rfl⟩ := hp
  rw [List.idxOf_append]
  split
  · next h => exact (Nat.min_eq_right (Nat.le_of_lt (List.idxOf_lt_length_of_mem h))).symm
  · next h => rw [Nat.min_eq_left (Nat.le_add_left _ _), List.idxOf_eq_length h]

end Slices

/-! ## The end of a line -/

theorem terminate_of_lt (buffer : ℕ → Char) {dataBegin lineEnd n : ℕ} (h : lineEnd < n) :
    terminate buffer dataBegin lineEnd n = buffer n := by
  have hupdate : Function.update buffer lineEnd '\x00' n = buffer n :=
    Function.update_of_ne (Nat.ne_of_gt h) _ _
  unfold terminate
  split
  · rw [Function.update_of_ne (by omega), hupdate]
  · exact hupdate

theorem cString_append_nul (a b : List Char) : cString (a ++ '\x00' :: b) = cString a := by
  unfold cString
  induction a with
  | nil => rfl
  | cons c a ih => rw [List.cons_append, List.takeWhile_cons, List.takeWhile_cons, ih]

/-- A line with a last character. -/
theorem cString_terminate_concat {buffer : ℕ → Char} {dataBegin : ℕ} {front : List Char} {c : Char}
    (hfront : slice buffer dataBegin (dataBegin + front.length) = front)
    (hlast : buffer (dataBegin + front.length) = c) :
    cString (slice (terminate buffer dataBegin (dataBegin + front.length + 1)) dataBegin
      (dataBegin + front.length + 1 + 1)) = shown (front ++ [c]) := by
  let m := dataBegin + front.length
  have hcond : (m + 1 ≠ dataBegin ∧ Function.update buffer (m + 1) '\x00' (m + 1 - 1) = '\r') ↔
      c = '\r' := by
    rw [Nat.add_sub_cancel, Function.update_of_ne (Nat.ne_of_lt (Nat.lt_succ_self m)), hlast]
    exact and_iff_right (by omega)
  have hnul : Function.update buffer (m + 1) '\x00' (m + 1) = '\x00' := Function.update_self ..
  have hsplit : ∀ f : ℕ → Char, (∀ n < m, f n = buffer n) →
      slice f dataBegin (m + 1 + 1) = front ++ [f m, f (m + 1)] := by
    intro f hf
    rw [slice_append (j := m) (Nat.le_add_right _ _) (by omega),
      slice_append (j := m + 1) (Nat.le_succ m) (Nat.le_succ _), slice_succ, slice_succ,
      slice_congr fun n _ hn => hf n hn, hfront]
    rfl
  show cString (slice (terminate buffer dataBegin (m + 1)) dataBegin (m + 1 + 1)) = _
  unfold terminate shown
  rw [List.getLast?_concat]
  by_cases hc : c = '\r'
  · rw [if_pos (hcond.mpr hc), if_pos (by rw [hc]), List.dropLast_concat, hsplit]
    · rw [Nat.add_sub_cancel, Function.update_self]
      exact cString_append_nul _ _
    · intro n hn
      rw [Function.update_of_ne (by omega), Function.update_of_ne (by omega)]
  · rw [if_neg (fun h => hc (hcond.mp h)), if_neg (fun h => hc (Option.some.inj h)), hsplit]
    · rw [hnul, Function.update_of_ne (Nat.ne_of_lt (Nat.lt_succ_self m)), hlast]
      have hcons : front ++ [c, '\x00'] = (front ++ [c]) ++ '\x00' :: [] := by simp
      rw [hcons, cString_append_nul]
    · intro n hn
      exact Function.update_of_ne (by omega) _ _

/-- What a line is as a C string. -/
theorem cString_terminate {buffer : ℕ → Char} {dataBegin : ℕ} {line : List Char}
    (hline : slice buffer dataBegin (dataBegin + line.length) = line) :
    cString (slice (terminate buffer dataBegin (dataBegin + line.length)) dataBegin
      (dataBegin + line.length + 1)) = shown line := by
  rcases List.eq_nil_or_concat line with rfl | ⟨front, c, hconcat⟩
  · have hnul : terminate buffer dataBegin dataBegin dataBegin = '\x00' := by
      unfold terminate
      rw [if_neg fun h => h.1 rfl, Function.update_self]
    rw [List.length_nil, Nat.add_zero, slice_succ, hnul]
    rfl
  · rw [List.concat_eq_append] at hconcat
    subst hconcat
    rw [List.length_append, List.length_singleton, ← Nat.add_assoc] at hline ⊢
    rw [slice_append (j := dataBegin + front.length) (Nat.le_add_right _ _) (Nat.le_succ _),
      slice_succ] at hline
    obtain ⟨hfront, hlast⟩ := List.append_inj' hline rfl
    exact cString_terminate_concat hfront (List.cons.inj hlast).1

/-! ## What the reader keeps -/

variable {blockLen : ℕ}

/-- The text ends with a newline, or all of it is in the buffer and no newline is behind it. -/
def Ended (r : LineReader) (rest : List Char) : Prop :=
  rest = [] ∨ rest.getLast? = some '\n' ∨ r.source = none ∧ r.buffer r.dataEnd ≠ '\n'

/-- `rest` is what has not been returned yet: what is in the buffer, and what was not read. -/
structure Holds (blockLen : ℕ) (r : LineReader) (rest : List Char) : Prop where
  begin_le : r.dataBegin ≤ r.dataEnd
  begin_lt : r.dataBegin < 2 * blockLen
  end_le : r.dataEnd ≤ 2 * blockLen
  rest_eq : slice r.buffer r.dataBegin r.dataEnd ++ r.source.getD [] = rest
  full : r.source.getD [] ≠ [] → r.dataEnd = 2 * blockLen
  isOver : r.isOver = true → r.source ≠ none ∧ r.dataEnd ≤ blockLen
  unread : r.source = none → rest ≠ [] → r.dataEnd < 2 * blockLen
  ended : r.Ended rest

variable {r : LineReader} {rest : List Char}

theorem slice_copy (buffer : ℕ → Char) (dst src i : ℕ) {j count : ℕ} (hj : j ≤ count) :
    slice (copy buffer dst src count) (dst + i) (dst + j) = slice buffer (src + i) (src + j) := by
  rw [← slice_add buffer i j src, ← slice_add _ i j dst]
  refine slice_congr fun n _ hn => ?_
  rw [copy, if_pos (by omega), Nat.add_sub_cancel_left]

theorem slice_moveBlock (hbegin : blockLen ≤ r.dataBegin) (hend : r.dataEnd ≤ 2 * blockLen)
    (hle : r.dataBegin ≤ r.dataEnd) :
    slice (r.moveBlock blockLen).buffer (r.dataBegin - blockLen) (r.dataEnd - blockLen) =
      slice r.buffer r.dataBegin r.dataEnd := by
  have hfits : r.dataEnd - blockLen ≤ blockLen := by omega
  have hcopy := slice_copy r.buffer 0 blockLen (r.dataBegin - blockLen) hfits
  rwa [Nat.zero_add, Nat.zero_add, Nat.add_sub_cancel' hbegin,
    Nat.add_sub_cancel' (Nat.le_trans hbegin hle)] at hcopy

theorem Holds.rest_ne_nil (h : Holds blockLen r rest) (hne : r.dataBegin < r.dataEnd) :
    rest ≠ [] := by
  rintro rfl
  have hlength := congrArg List.length h.rest_eq
  rw [List.length_append, length_slice, List.length_nil] at hlength
  omega

/-- The first block has been used up, and there is nothing else to read. -/
theorem Holds.moveBlock (h : Holds blockLen r rest) (hbegin : blockLen ≤ r.dataBegin)
    (hne : r.dataBegin < r.dataEnd) (hsource : r.source = none) :
    Holds blockLen (r.moveBlock blockLen) rest := by
  have hlt := h.unread hsource (h.rest_ne_nil hne)
  have hle := h.begin_le
  refine ⟨by show _ - _ ≤ _ - _; omega, by show _ - _ < _; omega, by show _ - _ ≤ _; omega, ?_, ?_,
    ?_, ?_, ?_⟩
  · show slice (r.moveBlock blockLen).buffer (r.dataBegin - blockLen) (r.dataEnd - blockLen) ++
      r.source.getD [] = rest
    rw [slice_moveBlock hbegin h.end_le hle]
    exact h.rest_eq
  · exact fun hs => absurd (by show r.source.getD [] = []; rw [hsource]; rfl) hs
  · exact fun ho => absurd hsource (h.isOver ho).1
  · intro _ _
    show r.dataEnd - blockLen < 2 * blockLen
    omega
  · refine h.ended.imp id (Or.imp id fun hn => ⟨hn.1, ?_⟩)
    show copy r.buffer 0 blockLen blockLen (r.dataEnd - blockLen) ≠ '\n'
    rw [copy, if_pos (by omega), Nat.sub_zero, Nat.add_sub_cancel' (Nat.le_trans hbegin hle)]
    exact hn.2

/-- The next block is read behind what is left of the last one. -/
theorem Holds.finishRead {source : List Char} (h : Holds blockLen r rest)
    (hbegin : blockLen ≤ r.dataBegin) (hsource : r.source = some source) :
    Holds blockLen ((r.moveBlock blockLen).finishRead blockLen source) rest := by
  have hle := h.begin_le
  have hend := h.end_le
  have hfull : source ≠ [] → r.dataEnd = 2 * blockLen := by simpa [hsource] using h.full
  have hlength : (source.take blockLen).length = min blockLen source.length := List.length_take
  -- the two parts lie next to each other, as a block is only read behind a whole one
  have hmoved : slice ((r.moveBlock blockLen).finishRead blockLen source).buffer
      (r.dataBegin - blockLen) (r.dataEnd - blockLen) = slice r.buffer r.dataBegin r.dataEnd := by
    rw [← slice_moveBlock hbegin hend hle]
    refine slice_congr fun n _ hn => ?_
    show copy (fill (r.moveBlock blockLen).buffer (2 * blockLen) _) blockLen (2 * blockLen) blockLen n
      = _
    rw [copy, if_neg (by omega), fill, if_neg (by omega)]
  have hread : slice ((r.moveBlock blockLen).finishRead blockLen source).buffer
      (r.dataEnd - blockLen) (r.dataEnd - blockLen + (source.take blockLen).length) =
        source.take blockLen := by
    by_cases hne : source = []
    · rw [hne, List.take_nil, List.length_nil, Nat.add_zero, slice_self]
    · have hcopy := slice_copy (fill (r.moveBlock blockLen).buffer (2 * blockLen)
        (source.take blockLen)) blockLen (2 * blockLen) 0 (List.length_take_le blockLen source)
      rw [Nat.add_zero, Nat.add_zero, slice_fill] at hcopy
      rw [hfull hne, show 2 * blockLen - blockLen = blockLen by omega]
      exact hcopy
  refine ⟨by show _ - _ ≤ _ - _ + _; omega, by show _ - _ < _; have := h.begin_lt; omega,
    by show _ - _ + _ ≤ _; omega, ?_, ?_, ?_, nofun, ?_⟩
  · show slice _ (r.dataBegin - blockLen) (r.dataEnd - blockLen + (source.take blockLen).length) ++
      source.drop blockLen = rest
    rw [slice_append (j := r.dataEnd - blockLen) (by omega) (by omega), hmoved, hread,
      List.append_assoc, List.take_append_drop, ← h.rest_eq, hsource]
    rfl
  · intro hs
    have hdrop : source.drop blockLen ≠ [] := hs
    have hlt : blockLen < source.length := by
      by_contra hle
      exact hdrop (List.drop_eq_nil_of_le (by omega))
    have hne : source ≠ [] := by
      rintro rfl
      exact absurd hlt (Nat.not_lt_zero _)
    have := hfull hne
    show r.dataEnd - blockLen + (source.take blockLen).length = 2 * blockLen
    omega
  · intro ho
    have hnil : source.take blockLen = [] := List.isEmpty_iff.mp ho
    refine ⟨nofun, ?_⟩
    show r.dataEnd - blockLen + (source.take blockLen).length ≤ blockLen
    rw [hnil, List.length_nil]
    omega
  · refine h.ended.imp id (Or.imp id fun hn => absurd (hn.1.symm.trans hsource) nofun)

theorem Holds.shift (h : Holds blockLen r rest) (hbegin : blockLen ≤ r.dataBegin)
    (hne : r.dataBegin < r.dataEnd) : ∃ r', r.shift blockLen = .ok r' ∧ Holds blockLen r' rest ∧
      r'.dataBegin = r.dataBegin - blockLen ∧ r'.fileLine = r.fileLine := by
  have hend := h.end_le
  cases hsource : r.source with
  | none =>
    exact ⟨_, by simp only [LineReader.shift, hsource], h.moveBlock hbegin hne hsource, rfl, rfl⟩
  | some source =>
    have hnotover : r.isOver = false := by
      by_contra ho
      have := (h.isOver (by simpa using ho)).2
      omega
    exact ⟨_, by simp [LineReader.shift, hsource, hnotover], h.finishRead hbegin hsource, rfl, rfl⟩

/-! ## One line -/

/-- Where the first line of the text ends, seen from its beginning. -/
def lineLength (rest : List Char) : ℕ := rest.idxOf '\n'

/-- The line, and a block that is long enough for it. -/
structure LineAt (blockLen : ℕ) (r : LineReader) (rest line after : List Char) : Prop where
  holds : Holds blockLen r rest
  begin_lt : r.dataBegin < blockLen
  nonempty : r.dataBegin < r.dataEnd
  noNewline : '\n' ∉ line
  rest_eq : rest = line ++ '\n' :: after ∨ rest = line ∧ after = []

variable {line after : List Char}

/-- As far as the line goes, the search sees the whole text. -/
theorem LineAt.lineEnd (h : LineAt blockLen r rest line after) :
    findLineEnd r.buffer (r.dataEnd - r.dataBegin) r.dataBegin =
        r.dataBegin + min (r.dataEnd - r.dataBegin) line.length ∧
      (r.dataEnd - r.dataBegin < line.length → blockLen < r.dataEnd - r.dataBegin) := by
  have hle := h.holds.begin_le
  have hprefix : slice r.buffer r.dataBegin r.dataEnd <+: rest := ⟨_, h.holds.rest_eq⟩
  have hidx : rest.idxOf '\n' = line.length := by
    rcases h.rest_eq with he | ⟨he, -⟩
    · rw [he, List.idxOf_append, if_neg h.noNewline, List.idxOf_cons_self, Nat.zero_add]
    · rw [he, List.idxOf_eq_length h.noNewline]
  constructor
  · rw [findLineEnd_eq, Nat.add_sub_cancel' hle, idxOf_prefix hprefix, hidx, length_slice]
  · intro hlt
    have hsource : r.source.getD [] ≠ [] := by
      intro hnil
      have heq := h.holds.rest_eq
      rw [hnil, List.append_nil] at heq
      have hlength := congrArg List.length heq
      rw [length_slice] at hlength
      have hline : line.length ≤ rest.length := by
        rcases h.rest_eq with he | ⟨he, -⟩
        · rw [he, List.length_append]
          exact Nat.le_add_right _ _
        · exact Nat.le_of_eq (congrArg List.length he.symm)
      omega
    have hfull := h.holds.full hsource
    have := h.begin_lt
    omega

theorem LineAt.tooLong (h : LineAt blockLen r rest line after) (hlong : line.length + 1 > blockLen) :
    r.takeLine blockLen = .error (.lineLengthLimitExceeded r.fileLine) := by
  obtain ⟨hend, hbig⟩ := h.lineEnd
  unfold takeLine
  rw [hend, if_pos]
  rw [Nat.add_sub_cancel_left]
  omega

section Fits

variable (h : LineAt blockLen r rest line after) (hshort : line.length + 1 ≤ blockLen)

include h hshort

theorem LineAt.length_le : line.length ≤ r.dataEnd - r.dataBegin := by
  by_contra hlt
  have := h.lineEnd.2 (by omega)
  omega

theorem LineAt.slice_line : slice r.buffer r.dataBegin (r.dataBegin + line.length) = line ∧
    slice r.buffer (r.dataBegin + line.length) r.dataEnd ++ r.source.getD [] =
      rest.drop line.length := by
  have hlength := h.length_le hshort
  have hle := h.holds.begin_le
  have hprefix : line <+: rest := by
    rcases h.rest_eq with he | ⟨he, -⟩
    · exact ⟨_, he.symm⟩
    · exact he ▸ List.prefix_refl _
  have hrest := h.holds.rest_eq
  rw [slice_append (j := r.dataBegin + line.length) (Nat.le_add_right _ _) (by omega),
    List.append_assoc] at hrest
  have hfront : (slice r.buffer r.dataBegin (r.dataBegin + line.length)).length = line.length := by
    rw [length_slice, Nat.add_sub_cancel_left]
  constructor
  · have htake := List.prefix_iff_eq_take.mp hprefix
    rw [← hrest, List.take_left' hfront] at htake
    exact htake.symm
  · rw [← hrest, List.drop_left' hfront]

/-- The newline is in the buffer. -/
theorem LineAt.newline (he : rest = line ++ '\n' :: after) :
    r.dataBegin + line.length < r.dataEnd ∧ r.buffer (r.dataBegin + line.length) = '\n' ∧
      slice r.buffer (r.dataBegin + line.length + 1) r.dataEnd ++ r.source.getD [] = after := by
  have hlength := h.length_le hshort
  have hafter := (h.slice_line hshort).2
  rw [he, List.drop_left] at hafter
  have hlt : r.dataBegin + line.length < r.dataEnd := by
    by_contra hge
    have hbegin := h.begin_lt
    have hnonempty := h.nonempty
    rw [show r.dataBegin + line.length = r.dataEnd by omega, slice_self, List.nil_append] at hafter
    have hfull := h.holds.full (by rw [hafter]; exact List.cons_ne_nil _ _)
    omega
  rw [slice_append (j := r.dataBegin + line.length + 1) (Nat.le_succ _) hlt, slice_succ] at hafter
  obtain ⟨hc, hrest⟩ := List.cons.inj hafter
  exact ⟨hlt, hc, hrest⟩

/-- The newline is missing. -/
theorem LineAt.noNewline_end (he : rest = line) :
    r.dataBegin + line.length = r.dataEnd ∧ r.source = none ∧ r.buffer r.dataEnd ≠ '\n' := by
  have hlength := h.length_le hshort
  have hnonempty := h.nonempty
  have hbegin := h.begin_lt
  have hafter := congrArg List.length (h.slice_line hshort).2
  rw [he, List.drop_length, List.length_append, length_slice, List.length_nil] at hafter
  have hne := h.holds.rest_ne_nil hnonempty
  refine ⟨by omega, ?_⟩
  rcases h.holds.ended with hnil | hlast | hended
  · exact absurd hnil hne
  · exact absurd (he ▸ List.mem_of_getLast? hlast) h.noNewline
  · exact hended

theorem LineAt.holds_advance :
    Holds blockLen (r.advance (r.dataBegin + line.length)) after := by
  have hbound : r.dataBegin + line.length + 1 < 2 * blockLen := by
    have := h.begin_lt
    omega
  have hkept : ∀ e, slice (r.advance (r.dataBegin + line.length)).buffer
      (r.dataBegin + line.length + 1) e = slice r.buffer (r.dataBegin + line.length + 1) e := fun e =>
    slice_congr fun n hn _ => terminate_of_lt _ hn
  rcases h.rest_eq with he | ⟨he, hnil⟩
  · obtain ⟨hlt, hnewline, hrest⟩ := h.newline hshort he
    have hend : (r.advance (r.dataBegin + line.length)).dataEnd = r.dataEnd := if_pos hnewline
    refine ⟨hend ▸ hlt, hbound, hend ▸ h.holds.end_le, ?_, hend ▸ h.holds.full, hend ▸ h.holds.isOver,
      fun hs _ => hend ▸ h.holds.unread hs (h.holds.rest_ne_nil h.nonempty), ?_⟩
    · rw [hend]
      exact (congrArg (· ++ r.source.getD []) (hkept r.dataEnd)).trans hrest
    · rcases h.holds.ended with hr | hlast | ⟨hsource, hstale⟩
      · exact absurd (he.symm.trans hr) (by simp)
      · by_cases hafter : after = []
        · exact .inl hafter
        · refine .inr (.inl ?_)
          rwa [he, List.getLast?_append_of_ne_nil _ (List.cons_ne_nil _ _),
            List.getLast?_cons_of_ne_nil hafter] at hlast
      · refine .inr (.inr ⟨hsource, ?_⟩)
        rw [hend]
        exact fun hc => hstale ((terminate_of_lt _ hlt).symm.trans hc)
  · obtain ⟨hlast, hsource, hstale⟩ := h.noNewline_end hshort he
    have hunread := h.holds.unread hsource (h.holds.rest_ne_nil h.nonempty)
    have hend : (r.advance (r.dataBegin + line.length)).dataEnd = r.dataEnd + 1 :=
      if_neg (hlast ▸ hstale)
    have hbegin : (r.advance (r.dataBegin + line.length)).dataBegin = r.dataEnd + 1 :=
      congrArg (· + 1) hlast
    refine ⟨Nat.le_of_eq (hbegin.trans hend.symm), hbound, by rw [hend]; omega, ?_, fun hs => ?_,
      fun ho => absurd hsource (h.holds.isOver ho).1, fun _ hne => absurd hnil hne, .inl hnil⟩
    · rw [hbegin, hend, slice_self, hnil]
      show r.source.getD [] = []
      rw [hsource]
      rfl
    · exact absurd (show r.source.getD [] = [] by rw [hsource]; rfl) hs

end Fits

/-! ## All lines -/

theorem Holds.nextLine_nil (h : Holds blockLen r []) : r.nextLine blockLen = .ok (none, r) := by
  have hlength := congrArg List.length h.rest_eq
  rw [List.length_append, length_slice, List.length_nil] at hlength
  have hle := h.begin_le
  rw [nextLine, if_pos (by omega)]

/-- Something is left in the buffer while something is left of the file. -/
theorem Holds.begin_lt_end (h : Holds blockLen r rest) (hne : rest ≠ []) :
    r.dataBegin < r.dataEnd := by
  refine Nat.lt_of_le_of_ne h.begin_le fun heq => ?_
  have hsource := h.rest_eq
  rw [heq, slice_self, List.nil_append] at hsource
  have hfull := h.full (by rw [hsource]; exact hne)
  have := h.begin_lt
  omega

/-- A call numbers the line and makes room for it. -/
theorem Holds.nextLine_cons (h : Holds blockLen r rest) (hne : rest ≠ [])
    (hline : '\n' ∉ line) (hrest : rest = line ++ '\n' :: after ∨ rest = line ∧ after = []) :
    ∃ r', LineAt blockLen r' rest line after ∧ r'.fileLine = r.fileLine + 1 ∧
      r.nextLine blockLen = (r'.takeLine blockLen).map fun (line, r) => (some line, r) := by
  have hlt := h.begin_lt_end hne
  have hend := h.end_le
  have hnumbered : Holds blockLen { r with fileLine := r.fileLine + 1 } rest := { h with }
  obtain ⟨r', hr', hholds, hbegin, hnumber⟩ : ∃ r', r.prepare blockLen = .ok r' ∧
      Holds blockLen r' rest ∧ r'.dataBegin < blockLen ∧ r'.fileLine = r.fileLine + 1 := by
    by_cases hbegin : blockLen ≤ r.dataBegin
    · obtain ⟨r', hr', hholds, hb, hnumber⟩ := hnumbered.shift hbegin hlt
      have hb : r'.dataBegin = r.dataBegin - blockLen := hb
      exact ⟨r', by rw [prepare, if_pos hbegin, hr'], hholds, by omega, hnumber⟩
    · exact ⟨_, if_neg hbegin, hnumbered, Nat.lt_of_not_le hbegin, rfl⟩
  refine ⟨r', ⟨hholds, hbegin, hholds.begin_lt_end hne, hline, hrest⟩, hnumber, ?_⟩
  rw [nextLine, if_neg (Nat.ne_of_lt hlt), if_neg (by omega), hr']
  cases ht : r'.takeLine blockLen with
  | error e => simp [ht, bind, Except.bind, Except.map]
  | ok t => simp [ht, bind, Except.bind, Except.map, pure, Except.pure]

/-- All lines, the last one possibly without an end. -/
def allLines (lines : List (List Char)) (last : List Char) : List (List Char) :=
  lines ++ if last = [] then [] else [last]

/-- The whole file: induction on its lines. -/
theorem readAll_of_holds {last : List Char} (hlast : '\n' ∉ last)
    (lines : List (List Char)) : ∀ (n : ℕ) (r : LineReader), (∀ line ∈ lines, '\n' ∉ line) →
    Holds blockLen r (text lines last) → lines.length + 2 ≤ n →
    readAll blockLen n r = expected blockLen r.fileLine (allLines lines last) := by
  have hone : ∀ (more : List (List Char)) {n : ℕ} {r : LineReader} {line rest after : List Char},
      Holds blockLen r rest → rest ≠ [] → '\n' ∉ line →
      (rest = line ++ '\n' :: after ∨ rest = line ∧ after = []) →
      (∀ r', Holds blockLen r' after → r'.fileLine = r.fileLine + 1 →
        readAll blockLen n r' = expected blockLen r'.fileLine more) →
      readAll blockLen (n + 1) r = expected blockLen r.fileLine (line :: more) := by
    intro more n r line rest after h hne hline hrest hmore
    obtain ⟨r', hat, hnumber, hnext⟩ := h.nextLine_cons hne hline hrest
    unfold readAll expected
    by_cases hlong : line.length + 1 > blockLen
    · rw [hnext, hat.tooLong hlong, if_pos hlong, hnumber]
      rfl
    · have hshort : line.length + 1 ≤ blockLen := by omega
      have htake : r'.takeLine blockLen =
          .ok (shown line, r'.advance (r'.dataBegin + line.length)) := by
        obtain ⟨hend, -⟩ := hat.lineEnd
        rw [Nat.min_eq_right (hat.length_le hshort)] at hend
        rw [takeLine, hend, if_neg (by omega)]
        exact congrArg (fun line => Except.ok (line, _))
          (cString_terminate (hat.slice_line hshort).1)
      have hrec := hmore _ (hat.holds_advance hshort) hnumber
      rw [hnext, htake, if_neg hlong]
      show (shown line :: (readAll blockLen n _).1, (readAll blockLen n _).2) = _
      rw [hrec, show (r'.advance (r'.dataBegin + line.length)).fileLine = _ from hnumber]
  induction lines with
  | nil =>
    intro n r _ h hn
    obtain ⟨n, rfl⟩ : ∃ m, n = m + 2 := ⟨n - 2, by simp at hn; omega⟩
    have hrest : text [] last = last := rfl
    rw [hrest] at h
    have hdone : ∀ r', Holds blockLen r' [] → readAll blockLen (n + 1) r' = ([], none) := by
      intro r' h'
      unfold readAll
      rw [h'.nextLine_nil]
    by_cases hnil : last = []
    · rw [allLines, if_pos hnil]
      rw [hnil] at h
      unfold readAll
      rw [h.nextLine_nil]
      rfl
    · rw [allLines, if_neg hnil]
      exact hone [] h hnil hlast (.inr ⟨rfl, rfl⟩) fun r' h' _ => hdone r' h'
  | cons line lines ih =>
    intro n r hlines h hn
    obtain ⟨n, rfl⟩ : ∃ m, n = m + 1 := ⟨n - 1, by simp at hn; omega⟩
    have hrest : text (line :: lines) last = line ++ '\n' :: text lines last := by
      simp [text, List.append_assoc]
    refine hone (allLines lines last) h (by rw [hrest]; simp) (hlines line List.mem_cons_self)
      (.inl hrest) fun r' h' hnumber => ?_
    refine ih n r' (fun l hl => hlines l (List.mem_cons_of_mem _ hl)) h' ?_
    rw [List.length_cons] at hn
    omega

theorem shift_fileLine {r r' : LineReader} (h : r.shift blockLen = .ok r') :
    r'.fileLine = r.fileLine := by
  unfold shift at h
  split at h
  · cases h
    rfl
  · split at h <;> cases h
    rfl

/-- Every line is numbered. -/
theorem nextLine_fileLine {r r' : LineReader} {line : List Char}
    (h : r.nextLine blockLen = .ok (some line, r')) : r'.fileLine = r.fileLine + 1 := by
  unfold nextLine at h
  split at h
  · cases h
  · split at h
    · cases h
    · cases hp : r.prepare blockLen with
      | error e => rw [hp] at h; cases h
      | ok q =>
        have hq : q.fileLine = r.fileLine + 1 := by
          unfold prepare at hp
          dsimp only at hp
          split at hp
          · exact shift_fileLine hp
          · cases hp
            rfl
        cases ht : q.takeLine blockLen with
        | error e => simp [hp, ht, bind, Except.bind] at h
        | ok t =>
          have hreader : t.2 = r' := by
            simp only [hp, ht, bind, Except.bind, pure, Except.pure, Except.ok.injEq,
              Prod.mk.injEq] at h
            exact h.2
          unfold takeLine at ht
          dsimp only at ht
          split at ht
          · cases ht
          · cases ht
            rw [← hreader]
            exact hq

/-- At the end of the file the reader stays as it is. -/
theorem nextLine_none {r r' : LineReader} (h : r.nextLine blockLen = .ok (none, r')) : r' = r := by
  unfold nextLine at h
  split at h
  · cases h
    rfl
  · split at h
    · cases h
    · cases hp : r.prepare blockLen with
      | error e => rw [hp] at h; cases h
      | ok q =>
        cases ht : q.takeLine blockLen with
        | error e => simp [hp, ht, bind, Except.bind] at h
        | ok t => simp [hp, ht, bind, Except.bind, pure, Except.pure] at h

theorem readAll_cons {n : ℕ} {r : LineReader} {line : List Char} {lines : List (List Char)}
    {e : Option LineError} (h : readAll blockLen (n + 1) r = (line :: lines, e)) :
    ∃ r', r.nextLine blockLen = .ok (some line, r') ∧ readAll blockLen n r' = (lines, e) := by
  unfold readAll at h
  split at h
  · cases h
  · cases h
  · next line' r' hnext =>
    cases h
    exact ⟨r', hnext, rfl⟩

theorem readAll_nil {n : ℕ} {r : LineReader} (h : readAll blockLen (n + 1) r = ([], none)) :
    ∃ r', r.nextLine blockLen = .ok (none, r') := by
  unfold readAll at h
  split at h
  · cases h
  · next r' hnext => exact ⟨r', hnext⟩
  · cases h

theorem expected_of_fits {lines : List (List Char)} (k : ℕ)
    (hfits : ∀ line ∈ lines, line.length + 1 ≤ blockLen) :
    expected blockLen k lines = (lines.map shown, none) := by
  induction lines generalizing k with
  | nil => rfl
  | cons line lines ih =>
    have hshort : ¬ line.length + 1 > blockLen := Nat.not_lt.mpr (hfits line List.mem_cons_self)
    rw [expected, if_neg hshort, ih (k + 1) fun l hl => hfits l (List.mem_cons_of_mem _ hl)]
    rfl

/-- The mark at the beginning of a file, if there is one. -/
def IsMark (mark rest : List Char) : Prop :=
  mark = bom ∨ mark = [] ∧ bom.isPrefixOf rest = false

/-- The last line has an end, or the whole file is in the buffer and no newline is behind it. -/
def Closed (blockLen : ℕ) (memory : ℕ → Char) (mark rest : List Char) : Prop :=
  rest = [] ∨ rest.getLast? = some '\n' ∨
    (mark ++ rest).length < 2 * blockLen ∧ memory (mark ++ rest).length ≠ '\n'

theorem init_dataBegin (hB : 2 ≤ blockLen) (memory : ℕ → Char) {mark rest : List Char}
    (hmark : IsMark mark rest) :
    (init blockLen memory (mark ++ rest)).dataBegin = mark.length := by
  have hthree : bom.length ≤ 2 * blockLen := by
    show 3 ≤ 2 * blockLen
    omega
  have hbom : bom.isPrefixOf ((mark ++ rest).take (2 * blockLen)) =
      bom.isPrefixOf (mark ++ rest) := by
    rw [Bool.eq_iff_iff, List.isPrefixOf_iff_prefix, List.isPrefixOf_iff_prefix,
      List.prefix_take_iff]
    exact and_iff_left hthree
  show (if bom.isPrefixOf ((mark ++ rest).take (2 * blockLen)) then 3 else 0) = _
  rw [hbom]
  rcases hmark with rfl | ⟨rfl, hnone⟩
  · rw [if_pos (List.isPrefixOf_iff_prefix.mpr (List.prefix_append _ _))]
    rfl
  · rw [List.nil_append, hnone]
    rfl

theorem holds_init (hB : 2 ≤ blockLen) {memory : ℕ → Char} {mark rest : List Char}
    (hmark : IsMark mark rest) (hclosed : Closed blockLen memory mark rest) :
    Holds blockLen (init blockLen memory (mark ++ rest)) rest := by
  have hmarkle : mark.length ≤ 3 := by
    rcases hmark with rfl | ⟨rfl, -⟩ <;> decide
  have hlength : (mark ++ rest).length = mark.length + rest.length := List.length_append
  have hbegin := init_dataBegin hB memory hmark
  generalize hfile : mark ++ rest = file at hbegin hlength hclosed ⊢
  have hend : (init blockLen memory file).dataEnd = min (2 * blockLen) file.length :=
    List.length_take
  have hsource : (init blockLen memory file).source.getD [] = file.drop (2 * blockLen) := by
    show (if (file.take (2 * blockLen)).length = 2 * blockLen then some _ else none).getD [] = _
    split
    · rfl
    · next h =>
      rw [List.length_take] at h
      exact (List.drop_eq_nil_of_le (by omega)).symm
  have hbuffer : slice (init blockLen memory file).buffer mark.length
      (init blockLen memory file).dataEnd = (file.take (2 * blockLen)).drop mark.length := by
    have hall : slice (init blockLen memory file).buffer 0 (init blockLen memory file).dataEnd =
        file.take (2 * blockLen) := by
      have h := slice_fill memory 0 (file.take (2 * blockLen))
      rwa [Nat.zero_add] at h
    rw [slice_append (Nat.zero_le mark.length) (by omega)] at hall
    rw [← hall, List.drop_left' (by rw [length_slice, Nat.sub_zero])]
  have hrest : slice (init blockLen memory file).buffer (init blockLen memory file).dataBegin
      (init blockLen memory file).dataEnd ++ (init blockLen memory file).source.getD [] = rest := by
    rw [hsource, hbegin, hbuffer, ← List.drop_append_of_le_length (by rw [List.length_take]; omega),
      List.take_append_drop, ← hfile, List.drop_left]
  have hread : (init blockLen memory file).source = none → file.length < 2 * blockLen := by
    intro hs
    by_contra hge
    have htake : (file.take (2 * blockLen)).length = 2 * blockLen := by
      rw [List.length_take]
      omega
    exact absurd ((if_pos htake).symm.trans hs) (Option.some_ne_none _)
  refine ⟨by omega, by omega, by omega, hrest, fun hs => ?_, fun h => absurd h Bool.false_ne_true,
    fun hs _ => by have := hread hs; omega, ?_⟩
  · have hlong : ¬ file.length ≤ 2 * blockLen := fun hle =>
      hs (hsource.trans (List.drop_eq_nil_of_le hle))
    omega
  · rcases hclosed with hnil | hlast | ⟨hlt, hstale⟩
    · exact .inl hnil
    · exact .inr (.inl hlast)
    · rw [hfile] at hlt hstale
      have htake : file.take (2 * blockLen) = file := List.take_of_length_le (Nat.le_of_lt hlt)
      refine .inr (.inr ⟨?_, ?_⟩)
      · show (if (file.take (2 * blockLen)).length = 2 * blockLen then some _ else none) = none
        rw [htake, if_neg (Nat.ne_of_lt hlt)]
      · show fill memory 0 (file.take (2 * blockLen)) (file.take (2 * blockLen)).length ≠ '\n'
        rw [htake, fill, if_pos (Nat.zero_le _), Nat.sub_zero, List.getElem?_eq_none (Nat.le_refl _)]
        exact hstale

/-- A file whose last line has no end fits into the buffer, and no newline is behind it. -/
theorem holds_text (hB : 2 ≤ blockLen) {memory : ℕ → Char} {mark last : List Char}
    {lines : List (List Char)} (hmark : IsMark mark (text lines last)) (hopen : last = [] ∨
      (mark ++ text lines last).length < 2 * blockLen ∧
        memory (mark ++ text lines last).length ≠ '\n') :
    Holds blockLen (init blockLen memory (mark ++ text lines last)) (text lines last) := by
  have hclosed : Closed blockLen memory mark (text lines last) := by
    rcases hopen with rfl | hopen
    · rcases List.eq_nil_or_concat lines with rfl | ⟨front, line, rfl⟩
      · exact .inl rfl
      · refine .inr (.inl ?_)
        have htext : text (front.concat line) [] = text front line ++ ['\n'] := by
          simp [text, List.flatMap_append]
        rw [htext, List.getLast?_concat]
    · exact .inr (.inr hopen)
  exact holds_init hB hmark hclosed

/-- A line that ends with a carriage return, an empty one, one that fills a block, and one that fits
into none. -/
def fourLines : List (List Char) := [['a', '\r'], [], ['b', 'c', 'd'], ['e', 'f', 'g', 'h', 'i']]

end LineReader

end Linux
end VirtualConnection
