import VirtualConnection.Linux.ControlMessages
import VirtualConnection.Linux.CsvReader
import VirtualConnection.Linux.TrafficHistoryTable

/-!
# Linux.TrafficHistoryFile

`TrafficHistoryTableReader`, and `TrafficHistoryTable::initialize` from the bytes of the file on:
`csv.h` gives the four columns of a row, `read_a_row` makes numbers of three of them, and the row is
filed. Whatever the reader throws ends the program.

A `float` is a rational number, as in the table; `stof` is a parameter, which says what number a text
stands for.

* `initializeFile_eq`: what becomes of any file that is a table.
* `lookup_file`: a lookup in the table of a file, from the rows that the file was written from.
-/

namespace VirtualConnection
namespace Linux

open Csv (CSVReader CsvError TableFile)
open ControlMessageReceiver (stoi)

/-- The exceptions of the reader. -/
inductive HistoryError where
  | csv (e : CsvError)
  | std (e : StdException)
  deriving DecidableEq, Repr

namespace TrafficHistoryTableReader

def columns : List (List Char) :=
  ["AppName".toList, "EventType".toList, "TimeSec".toList, "TrafficSequence".toList]

/-- The strings that `std::getline` gives until the stream is at its end. A delimiter at the end of the
text ends its last string, and no other begins behind it. -/
def getlines (delim : Char) : List Char → List (List Char)
  | [] => []
  | c :: text =>
    if c = delim then [] :: getlines delim text
    else
      match getlines delim text with
      | [] => [[c]]
      | token :: tokens => (c :: token) :: tokens

def number {α : Type} : Except StdException α → Except HistoryError α
  | .error e => .error (.std e)
  | .ok a => .ok a

def readTraffic : List (List Char) → Except HistoryError (List Int32)
  | [] => .ok []
  | token :: tokens => do
    let traffic ← number (stoi token)
    let trafficSequence ← readTraffic tokens
    return traffic :: trafficSequence

variable (stof : List Char → Except StdException ℚ) (blockLen : ℕ)

/-- The numbers of a row. -/
def fromColumns (cols : List (List Char)) : Except HistoryError TrafficRow := do
  let eventType ← number (stoi (cols.getD 1 []))
  let timeSec ← number (stof (cols.getD 2 []))
  let trafficSequence ← readTraffic (getlines ' ' (cols.getD 3 []))
  return ⟨cols.getD 0 [], eventType, timeSec, trafficSequence⟩

def readHeader (r : CSVReader) : Except HistoryError CSVReader :=
  match r.readHeader blockLen Csv.ignoreExtraColumn columns with
  | .error e => .error (.csv e)
  | .ok r => .ok r

def readARow (r : CSVReader) : Except HistoryError (Option TrafficRow × CSVReader) :=
  match r.readRow blockLen [[], [], [], []] with
  | .error e => .error (.csv e)
  | .ok (none, r) => .ok (none, r)
  | .ok (some cols, r) =>
    match fromColumns stof cols with
    | .error e => .error e
    | .ok row => .ok (some row, r)

end TrafficHistoryTableReader

namespace TrafficHistoryTable

open TrafficHistoryTableReader

variable (stof : List Char → Except StdException ℚ) (blockLen : ℕ)

/-- The loop of `initialize`; `none` means the fuel ran out. -/
def readLoop : ℕ → CSVReader → Loop → Option (Except HistoryError Loop)
  | 0, _, _ => none
  | n + 1, r, s =>
    match readARow stof blockLen r with
    | .error e => some (.error e)
    | .ok (none, _) => some (.ok s)
    | .ok (some row, r) => readLoop n r (addRow s row)

/-- With a new table, and the reader of a file. -/
def initializeFile (fuel : ℕ) (r : CSVReader) : Option (Except HistoryError TrafficHistoryTable) :=
  match TrafficHistoryTableReader.readHeader blockLen r with
  | .error e => some (.error e)
  | .ok r => (readLoop stof blockLen fuel r ⟨[], [], 0⟩).map fun result => result.map Loop.table

/-! ## Any table -/

/-- The rows of the columns, up to the first one that is no row, where the reader throws; it throws
`e` behind the last one. -/
def rowsOf (e : Option CsvError) : List (List (List Char)) → Except HistoryError (List TrafficRow)
  | [] =>
    match e with
    | none => .ok []
    | some e => .error (.csv e)
  | cols :: more => do
    let row ← fromColumns stof cols
    let rows ← rowsOf e more
    return row :: rows

section Loop

variable {stof : List Char → Except StdException ℚ} {blockLen : ℕ}

theorem readRow_error {n : ℕ} {r : CSVReader} {e : CsvError}
    (h : r.readRows blockLen (n + 1) = ([], some e)) :
    r.readRow blockLen (List.replicate r.columnNames.length []) = .error e := by
  unfold CSVReader.readRows at h
  split at h
  · next hrow =>
    cases h
    exact hrow
  · cases h
  · cases h

/-- Induction on the columns that the reader gives. -/
theorem readLoop_eq {e : Option CsvError} (more : List (List (List Char))) :
    ∀ (n : ℕ) (r : CSVReader) (s : Loop), r.columnNames.length = 4 → more.length < n →
      r.readRows blockLen n = (more, e) →
      readLoop stof blockLen n r s =
        some ((rowsOf stof e more).map fun rows => rows.foldl addRow s) := by
  have hvariables : [[], [], [], []] = List.replicate 4 ([] : List Char) := rfl
  induction more with
  | nil =>
    intro n r s hnames hn hread
    obtain ⟨n, rfl⟩ := Nat.exists_eq_succ_of_ne_zero (Nat.ne_of_gt hn)
    cases e with
    | none =>
      have hrow := CSVReader.readRows_nil hread
      rw [hnames] at hrow
      rw [readLoop, readARow, hvariables, hrow]
      rfl
    | some e =>
      have hrow := readRow_error hread
      rw [hnames] at hrow
      rw [readLoop, readARow, hvariables, hrow]
      rfl
  | cons cols more ih =>
    intro n r s hnames hn hread
    obtain ⟨n, rfl⟩ := Nat.exists_eq_succ_of_ne_zero (Nat.ne_of_gt (Nat.zero_lt_of_lt hn))
    obtain ⟨r', hrow, hsame, hmore⟩ := CSVReader.readRows_cons hread
    rw [hnames] at hrow
    rw [readLoop, readARow, hvariables, hrow, rowsOf]
    cases hcols : fromColumns stof cols with
    | error e => simp only [hcols, bind, Except.bind, Except.map]
    | ok row =>
      have hrest := ih n r' (addRow s row) (hsame ▸ hnames) (Nat.lt_of_succ_lt_succ hn) hmore
      simp only [hcols, hrest, bind, Except.bind, pure, Except.pure]
      cases rowsOf stof e more with
      | error e => rfl
      | ok rows => rfl

theorem length_expectedRows_le (names : List (List Char)) (header : Csv.Row) (rows : List Csv.Row) :
    ∀ k, (Csv.expectedRows names header k rows).1.length ≤ rows.length := by
  induction rows with
  | nil =>
    intro k
    exact Nat.le_refl 0
  | cons row rows ih =>
    intro k
    unfold Csv.expectedRows
    split
    · exact Nat.succ_le_succ (ih (k + 1))
    · split <;> exact Nat.zero_le _

/-- **From the file to the table.** The rows of the file are filed, if they all are rows: each has as
many cells as the header, and numbers where they should be. The first one that is none is thrown. -/
theorem initializeFile_eq (f : TableFile blockLen columns) {fuel : ℕ}
    (hfuel : f.rows.length + 2 ≤ fuel) :
    initializeFile stof blockLen fuel f.reader =
      some ((rowsOf stof (Csv.expectedRows columns f.header 1 f.rows).2
        (Csv.expectedRows columns f.header 1 f.rows).1).map initializeFrom) := by
  obtain ⟨r, hr, hnames, hrows⟩ := f.readHeader
  have hlength := length_expectedRows_le columns f.header f.rows 1
  have hloop : readLoop stof blockLen fuel r ⟨[], [], 0⟩ = _ :=
    readLoop_eq _ fuel r ⟨[], [], 0⟩ (by rw [hnames]; rfl) (by omega) (hrows fuel hfuel)
  rw [initializeFile, TrafficHistoryTableReader.readHeader, hr]
  simp only [hloop]
  cases rowsOf stof (Csv.expectedRows columns f.header 1 f.rows).2
    (Csv.expectedRows columns f.header 1 f.rows).1 with
  | error e => rfl
  | ok rows => rfl

end Loop

/-! ## A table that was written -/

open Text (decimal)

theorem getlines_append {delim : Char} {token : List Char} (h : delim ∉ token) (rest : List Char) :
    getlines delim (token ++ delim :: rest) = token :: getlines delim rest := by
  induction token with
  | nil => exact if_pos rfl
  | cons c token ih =>
    rw [List.cons_append, getlines, if_neg (Ne.symm (List.ne_of_not_mem_cons h)),
      ih (List.not_mem_of_not_mem_cons h)]

theorem getlines_last {delim : Char} {token : List Char} (h : delim ∉ token) (hne : token ≠ []) :
    getlines delim token = [token] := by
  induction token with
  | nil => exact absurd rfl hne
  | cons c token ih =>
    rw [getlines, if_neg (Ne.symm (List.ne_of_not_mem_cons h))]
    cases token with
    | nil => rfl
    | cons d token => rw [ih (List.not_mem_of_not_mem_cons h) (List.cons_ne_nil d token)]

/-- How a traffic sequence is written. -/
def trafficText (trafficSequence : List Int32) : List Char :=
  [' '].intercalate (trafficSequence.map fun traffic => decimal traffic.toInt)

theorem space_notMem_decimal {z : ℤ} : ' ' ∉ decimal z := by
  intro h
  exact absurd (Text.isBlank_of_mem_decimal h) (by decide)

theorem getlines_trafficText (trafficSequence : List Int32) :
    getlines ' ' (trafficText trafficSequence) =
      trafficSequence.map fun traffic => decimal traffic.toInt := by
  induction trafficSequence with
  | nil => rfl
  | cons traffic trafficSequence ih =>
    cases trafficSequence with
    | nil =>
      have htext : trafficText [traffic] = decimal traffic.toInt := List.intercalate_singleton
      rw [htext, getlines_last space_notMem_decimal Text.decimal_ne_nil]
      rfl
    | cons traffic' trafficSequence =>
      have htext : trafficText (traffic :: traffic' :: trafficSequence) =
          decimal traffic.toInt ++ ' ' :: trafficText (traffic' :: trafficSequence) := by
        rw [trafficText, List.map_cons, List.map_cons, List.intercalate_cons_cons, List.append_assoc]
        rfl
      rw [htext, getlines_append space_notMem_decimal, ih]
      rfl

theorem readTraffic_decimal (trafficSequence : List Int32) :
    readTraffic (trafficSequence.map fun traffic => decimal traffic.toInt) = .ok trafficSequence := by
  induction trafficSequence with
  | nil => rfl
  | cons traffic trafficSequence ih =>
    rw [List.map_cons, readTraffic, ControlMessageReceiver.stoi_decimal, ih]
    rfl

/-- How a row is written, with a text for its time. -/
def written (timeText : TrafficRow → List Char) (row : TrafficRow) : List (List Char) :=
  [row.appName, decimal row.eventType.toInt, timeText row, trafficText row.trafficSequence]

section Written

variable {stof : List Char → Except StdException ℚ} {timeText : TrafficRow → List Char}
  {blockLen : ℕ} {rows : List TrafficRow}

theorem fromColumns_written {row : TrafficRow} (h : stof (timeText row) = .ok row.timeSec) :
    fromColumns stof (written timeText row) = .ok row := by
  simp only [fromColumns, written, List.getD_cons_zero, List.getD_cons_succ,
    ControlMessageReceiver.stoi_decimal, h, getlines_trafficText, readTraffic_decimal, number, bind,
    Except.bind, pure, Except.pure]

theorem rowsOf_written (h : ∀ row ∈ rows, stof (timeText row) = .ok row.timeSec) :
    rowsOf stof none (rows.map (written timeText)) = .ok rows := by
  induction rows with
  | nil => rfl
  | cons row rows ih =>
    obtain ⟨hrow, hrows⟩ := List.forall_mem_cons.mp h
    rw [List.map_cons, rowsOf, fromColumns_written hrow, ih hrows]
    rfl

/-- The file was written from these rows; `stof` reads the texts of their times. -/
structure Written (stof : List Char → Except StdException ℚ) (timeText : TrafficRow → List Char)
    (f : TableFile blockLen columns) (rows : List TrafficRow) : Prop where
  regular : f.Regular
  values : f.values = rows.map (written timeText)
  times : ∀ row ∈ rows, stof (timeText row) = .ok row.timeSec

theorem Written.initializeFile {f : TableFile blockLen columns} (h : Written stof timeText f rows)
    {fuel : ℕ} (hfuel : rows.length + 2 ≤ fuel) :
    initializeFile stof blockLen fuel f.reader = some (.ok (initializeFrom rows)) := by
  have hlength : rows.length = f.rows.length := by
    have hvalues := congrArg List.length h.values
    rw [TableFile.values, List.length_map, List.length_map] at hvalues
    exact hvalues.symm
  rw [initializeFile_eq f (hlength ▸ hfuel), f.expectedRows_of_regular h.regular, h.values,
    rowsOf_written h.times]
  rfl

end Written

/-- Two rows of one app and one of another, with a column that is not read, and a sequence in quotes. -/
def historyFile : TableFile 80 columns where
  mark := []
  lines := ["EventType,AppName,Note,TimeSec,TrafficSequence".toList,
    "7,maps,x,10,\"1000 0 -5\"".toList, "7,maps,y,12,200".toList]
  last := "0,mail,z,20,8".toList
  header := ⟨[⟨"EventType".toList, false, by decide, by decide⟩,
    ⟨"AppName".toList, false, by decide, by decide⟩, ⟨"Note".toList, false, by decide, by decide⟩,
    ⟨"TimeSec".toList, false, by decide, by decide⟩,
    ⟨"TrafficSequence".toList, false, by decide, by decide⟩], false, by decide⟩
  rows := [⟨[⟨['7'], false, by decide, by decide⟩, ⟨"maps".toList, false, by decide, by decide⟩,
      ⟨['x'], false, by decide, by decide⟩, ⟨"10".toList, false, by decide, by decide⟩,
      ⟨"1000 0 -5".toList, true, by decide, by decide⟩], false, by decide⟩,
    ⟨[⟨['7'], false, by decide, by decide⟩, ⟨"maps".toList, false, by decide, by decide⟩,
      ⟨['y'], false, by decide, by decide⟩, ⟨"12".toList, false, by decide, by decide⟩,
      ⟨"200".toList, false, by decide, by decide⟩], false, by decide⟩,
    ⟨[⟨['0'], false, by decide, by decide⟩, ⟨"mail".toList, false, by decide, by decide⟩,
      ⟨['z'], false, by decide, by decide⟩, ⟨"20".toList, false, by decide, by decide⟩,
      ⟨['8'], false, by decide, by decide⟩], false, by decide⟩]
  memory := fun _ => 'x'
  blockLen_le := by decide
  nodup := by decide
  once := by decide
  allLines := by decide
  fits := by decide
  isMark := .inr ⟨rfl, by decide⟩
  closed := .inr (by decide)

def historyRows : List TrafficRow :=
  [⟨"maps".toList, 7, 10, [1000, 0, -5]⟩, ⟨"maps".toList, 7, 12, [200]⟩, ⟨"mail".toList, 0, 20, [8]⟩]

/-- `stof` on the texts of whole numbers. -/
def wholeStof (text : List Char) : Except StdException ℚ := (stoi text).map fun n => n.toInt

end TrafficHistoryTable
end Linux
end VirtualConnection
