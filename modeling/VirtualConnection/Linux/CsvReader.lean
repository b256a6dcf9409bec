import Mathlib.Data.Int.Notation
import Mathlib.Data.List.DropRight
import Mathlib.Data.List.Nodup
import VirtualConnection.Linux.LineReader

/-!
# Linux.CsvReader

`CSVReader` of `csv.h`, with `trim_chars<>`, `double_quote_escape` and `no_comment`, as the program
instantiates it. Every column is a string here.

The columns of a line are chopped off in place, and what `unescape` writes stays in front of the next
column; a line is a list of characters, so a column and what is behind it are two lists. `sep` and
`quote` are parameters, as in the template.

`readTable_eq`: a table is read as it was written, with its cells quoted or not, in any order of its
columns, up to the first row with another number of cells.
-/

namespace VirtualConnection
namespace Linux
namespace Csv

/-- The exceptions about columns. A name is cut after 63 characters. -/
inductive ColumnError where
  | headerMissing
  | extraColumnInHeader (columnName : List Char)
  | duplicatedColumnInHeader (columnName : List Char)
  | missingColumnInHeader (columnName : List Char)
  | tooFewColumns
  | tooManyColumns
  | escapedStringNotClosed
  deriving DecidableEq, Repr

/-- `fileLine` is -1 until `read_row` sets it. -/
inductive CsvError where
  | nextLine (e : LineError)
  | column (e : ColumnError) (fileLine : ℤ)
  deriving DecidableEq, Repr

def setColumnName (columnName : List Char) : List Char := columnName.take 63

/-- `ignore_extra_column` and `ignore_missing_column`, which are two bits. -/
structure IgnoreColumn where
  extra : Bool
  missing : Bool
  deriving DecidableEq, Repr

def ignoreExtraColumn : IgnoreColumn := ⟨true, false⟩

variable (sep quote : Char)

/-! ## Columns -/

/-- Where the loops of `find_next_column_end` stand: at the outer one, inside of the quotes, or at the
test of the `do` loop, behind a quote that closed. -/
inductive Scan where
  | outside
  | inside
  | closed
  deriving DecidableEq, Repr

def consume (c : Char) : List Char × List Char → List Char × List Char
  | (column, rest) => (c :: column, rest)

/-- The column, and the line from its end on. -/
def findNextColumnEnd : Scan → List Char → Except ColumnError (List Char × List Char)
  | .inside, [] => .error .escapedStringNotClosed
  | .outside, [] => .ok ([], [])
  | .closed, [] => .ok ([], [])
  | .inside, c :: line =>
    (findNextColumnEnd (if c = quote then .closed else .inside) line).map (consume c)
  | .outside, c :: line =>
    if c = sep then .ok ([], c :: line)
    else (findNextColumnEnd (if c = quote then .inside else .outside) line).map (consume c)
  | .closed, c :: line =>
    if c = quote then (findNextColumnEnd .inside line).map (consume c)
    else if c = sep then .ok ([], c :: line)
    else (findNextColumnEnd .outside line).map (consume c)

/-- The column, and the line behind it, which is null after the last column. -/
def chopNextColumn (line : List Char) : Except ColumnError (List Char × Option (List Char)) :=
  match findNextColumnEnd sep quote .outside line with
  | .error e => .error e
  | .ok (column, []) => .ok (column, none)
  | .ok (column, _ :: line) => .ok (column, some line)

/-- The loop of `unescape`: of two quotes in a row the first one is skipped. -/
def dropDoubled : List Char → List Char
  | c :: d :: rest =>
    if c = quote ∧ d = quote then d :: dropDoubled rest else c :: dropDoubled (d :: rest)
  | [c] => [c]
  | [] => []

def unescape (column : List Char) : List Char :=
  if 2 ≤ column.length ∧ column.head? = some quote ∧ column.getLast? = some quote then
    dropDoubled quote (column.drop 1).dropLast
  else column

/-- `trim_chars`, with its characters. -/
def trim (trimCharList column : List Char) : List Char :=
  (column.dropWhile fun c => trimCharList.contains c).rdropWhile fun c => trimCharList.contains c

/-- What is done with a column. -/
def clean (column : List Char) : List Char := unescape quote (trim [] column)

/-- A -1 of `col_order` is `none`. -/
def parseLine : Option (List Char) → (ℕ → Option (List Char)) → List (Option ℕ) →
    Except ColumnError (ℕ → Option (List Char))
  | none, sortedCol, [] => .ok sortedCol
  | some _, _, [] => .error .tooManyColumns
  | none, _, _ :: _ => .error .tooFewColumns
  | some line, sortedCol, i :: colOrder =>
    match chopNextColumn sep quote line with
    | .error e => .error e
    | .ok (column, line) =>
      match i with
      | none => parseLine line sortedCol colOrder
      | some i =>
        parseLine line (Function.update sortedCol i (some (clean quote column))) colOrder

/-- What a column of the header adds to `col_order`; `found[i]` says that `i` is in it. -/
def headerColumn (ignorePolicy : IgnoreColumn) (colName : List (List Char))
    (colOrder : List (Option ℕ)) (column : List Char) : Except ColumnError (Option ℕ) :=
  match colName.idxOf? column with
  | some i =>
    if some i ∈ colOrder then .error (.duplicatedColumnInHeader (setColumnName column))
    else .ok (some i)
  | none =>
    if ignorePolicy.extra then .ok none
    else .error (.extraColumnInHeader (setColumnName column))

theorem length_findNextColumnEnd {scan : Scan} {line column rest : List Char}
    (h : findNextColumnEnd sep quote scan line = .ok (column, rest)) :
    rest.length ≤ line.length := by
  induction line generalizing scan column with
  | nil => cases scan <;> cases h <;> exact Nat.le_refl _
  | cons c line ih =>
    have hmap : ∀ {next : Scan},
        (findNextColumnEnd sep quote next line).map (consume c) = .ok (column, rest) →
        rest.length ≤ (c :: line).length := by
      intro next hnext
      cases hr : findNextColumnEnd sep quote next line with
      | error e => rw [hr] at hnext; cases hnext
      | ok found =>
        rw [hr] at hnext
        cases hnext
        exact Nat.le_succ_of_le (ih hr)
    cases scan with
    | inside => exact hmap h
    | outside =>
      rw [findNextColumnEnd] at h
      split at h
      · cases h
        exact Nat.le_refl _
      · exact hmap h
    | closed =>
      rw [findNextColumnEnd] at h
      split at h
      · exact hmap h
      · split at h
        · cases h
          exact Nat.le_refl _
        · exact hmap h

theorem length_chopNextColumn {line column rest : List Char}
    (h : chopNextColumn sep quote line = .ok (column, some rest)) : rest.length < line.length := by
  unfold chopNextColumn at h
  split at h
  · cases h
  · cases h
  · next c _ hfound =>
    cases h
    exact length_findNextColumnEnd sep quote hfound

/-- The loop of `parse_header_line`. -/
def parseHeaderColumns (ignorePolicy : IgnoreColumn) (colName : List (List Char))
    (colOrder : List (Option ℕ)) (line : List Char) : Except ColumnError (List (Option ℕ)) :=
  match h : chopNextColumn sep quote line with
  | .error e => .error e
  | .ok (column, none) =>
    (headerColumn ignorePolicy colName colOrder (clean quote column)).map fun i => colOrder ++ [i]
  | .ok (column, some rest) =>
    match headerColumn ignorePolicy colName colOrder (clean quote column) with
    | .error e => .error e
    | .ok i => parseHeaderColumns ignorePolicy colName (colOrder ++ [i]) rest
termination_by line.length
decreasing_by exact length_chopNextColumn sep quote h

/-- The first name that was not found. -/
def parseHeaderLine (ignorePolicy : IgnoreColumn) (colName : List (List Char)) (line : List Char) :
    Except ColumnError (List (Option ℕ)) :=
  match parseHeaderColumns sep quote ignorePolicy colName [] line with
  | .error e => .error e
  | .ok colOrder =>
    if ignorePolicy.missing then .ok colOrder
    else
      match (List.range colName.length).find? fun i => some i ∉ colOrder with
      | some i => .error (.missingColumnInHeader (setColumnName (colName[i]?.getD [])))
      | none => .ok colOrder

/-! ## The reader -/

/-- With `,` and `"`. -/
structure CSVReader where
  input : LineReader
  row : ℕ → Option (List Char)
  columnNames : List (List Char)
  colOrder : List (Option ℕ)

namespace CSVReader

variable (blockLen : ℕ)

def create (memory : ℕ → Char) (file : List Char) (columnCount : ℕ) : CSVReader where
  input := LineReader.init blockLen memory file
  row := fun _ => none
  columnNames := (List.range columnCount).map fun i => "col".toList ++ Nat.toDigits 10 (i + 1)
  colOrder := (List.range columnCount).map some

def readHeader (r : CSVReader) (ignorePolicy : IgnoreColumn) (cols : List (List Char)) :
    Except CsvError CSVReader :=
  match r.input.nextLine blockLen with
  | .error e => .error (.nextLine e)
  | .ok (none, _) => .error (.column .headerMissing (-1))
  | .ok (some line, input) =>
    match parseHeaderLine ',' '"' ignorePolicy cols line with
    | .error e => .error (.column e (-1))
    | .ok colOrder => .ok { r with input := input, columnNames := cols, colOrder := colOrder }

/-- A column that is missing leaves its variable as it is. -/
def parseHelper (row : ℕ → Option (List Char)) (cols : List (List Char)) : List (List Char) :=
  cols.mapIdx fun r t => (row r).getD t

/-- The new values of the variables, or nothing at the end of the file. -/
def readRow (r : CSVReader) (cols : List (List Char)) :
    Except CsvError (Option (List (List Char)) × CSVReader) :=
  match r.input.nextLine blockLen with
  | .error e => .error (.nextLine e)
  | .ok (none, input) => .ok (none, { r with input := input })
  | .ok (some line, input) =>
    match parseLine ',' '"' (some line) r.row r.colOrder with
    | .error e => .error (.column e input.fileLine)
    | .ok row => .ok (some (parseHelper row cols), { r with input := input, row := row })

/-- What `read_a_row` is given until there are no more rows, or until it throws. Its variables are
new strings each time. -/
def readRows : ℕ → CSVReader → List (List (List Char)) × Option CsvError
  | 0, _ => ([], none)
  | n + 1, r =>
    match r.readRow blockLen (List.replicate r.columnNames.length []) with
    | .error e => ([], some e)
    | .ok (none, _) => ([], none)
    | .ok (some cols, r) => (cols :: (readRows n r).1, (readRows n r).2)

/-- A reader of a trace or of a table: `read_header`, and then the rows. -/
def readTable (n : ℕ) (memory : ℕ → Char) (file : List Char) (cols : List (List Char)) :
    List (List (List Char)) × Option CsvError :=
  match (create blockLen memory file cols.length).readHeader blockLen ignoreExtraColumn cols with
  | .error e => ([], some e)
  | .ok r => readRows blockLen n r

end CSVReader

/-! ## How a table is written -/

/-- A cell may be quoted, and has to be if it holds a comma, a quote or a carriage return. It cannot
hold a newline. -/
structure Cell where
  text : List Char
  quoted : Bool
  noEnd : '\n' ∉ text ∧ '\x00' ∉ text
  plain : quoted = false → ',' ∉ text ∧ '"' ∉ text ∧ '\r' ∉ text

def double (text : List Char) : List Char :=
  text.flatMap fun c => if c = quote then [quote, quote] else [c]

def Cell.written (c : Cell) : List Char :=
  if c.quoted then '"' :: double '"' c.text ++ ['"'] else c.text

/-- What is behind a column. -/
def behind : Option (List Char) → List Char
  | none => []
  | some line => sep :: line

def rowLine : List Cell → Option (List Char)
  | [] => none
  | cell :: cells => some (cell.written ++ behind ',' (rowLine cells))

/-- A row, and whether its line ends with a carriage return. -/
structure Row where
  cells : List Cell
  carriageReturn : Bool
  nonempty : cells ≠ []

def Row.text (row : Row) : List Char := (rowLine row.cells).getD []

def Row.line (row : Row) : List Char := row.text ++ if row.carriageReturn then ['\r'] else []

/-- The cell below a name of the header. -/
def Row.cell (header row : Row) (name : List Char) : List Char :=
  (((header.cells.map Cell.text).zip (row.cells.map Cell.text)).lookup name).getD []

/-- The cells below the names, up to the first row that has more or less cells than the header; `k`
lines are in front. -/
def expectedRows (names : List (List Char)) (header : Row) :
    ℕ → List Row → List (List (List Char)) × Option CsvError
  | _, [] => ([], none)
  | k, row :: rows =>
    if row.cells.length = header.cells.length then
      (names.map (header.cell row) :: (expectedRows names header (k + 1) rows).1,
        (expectedRows names header (k + 1) rows).2)
    else if row.cells.length < header.cells.length then
      ([], some (.column .tooFewColumns (k + 1)))
    else ([], some (.column .tooManyColumns (k + 1)))

/-! ## Reading a column -/

section Column

variable {sep quote : Char}

/-- Inside of the quotes, up to the one that closes. -/
theorem findNextColumnEnd_inside (hne : sep ≠ quote) (text : List Char)
    (tail : Option (List Char)) :
    findNextColumnEnd sep quote .inside (double quote text ++ quote :: behind sep tail) =
      .ok (double quote text ++ [quote], behind sep tail) := by
  induction text with
  | nil =>
    have hclosed : findNextColumnEnd sep quote .closed (behind sep tail) =
        .ok ([], behind sep tail) := by
      cases tail with
      | none => rfl
      | some line => rw [behind, findNextColumnEnd, if_neg hne, if_pos rfl]
    show findNextColumnEnd sep quote .inside (quote :: behind sep tail) = _
    rw [findNextColumnEnd, if_pos rfl, hclosed]
    rfl
  | cons c text ih =>
    by_cases hc : c = quote
    · have hdouble : double quote (c :: text) = quote :: quote :: double quote text := by
        simp [double, hc]
      rw [hdouble, List.cons_append, List.cons_append, findNextColumnEnd, if_pos rfl,
        findNextColumnEnd, if_pos rfl, ih]
      rfl
    · have hdouble : double quote (c :: text) = c :: double quote text := by
        simp [double, hc]
      rw [hdouble, List.cons_append, findNextColumnEnd, if_neg hc, ih]
      rfl

theorem findNextColumnEnd_plain {text : List Char} (hsep : sep ∉ text) (hquote : quote ∉ text)
    (tail : Option (List Char)) :
    findNextColumnEnd sep quote .outside (text ++ behind sep tail) = .ok (text, behind sep tail) := by
  induction text with
  | nil =>
    cases tail with
    | none => rfl
    | some line => rw [List.nil_append, behind, findNextColumnEnd, if_pos rfl]
  | cons c text ih =>
    rw [List.mem_cons, not_or] at hsep hquote
    rw [List.cons_append, findNextColumnEnd, if_neg (Ne.symm hsep.1), if_neg (Ne.symm hquote.1),
      ih hsep.2 hquote.2]
    rfl

/-- A quoted column is one that begins and ends with a quote. -/
theorem findNextColumnEnd_quoted (hne : sep ≠ quote) (text : List Char)
    (tail : Option (List Char)) :
    findNextColumnEnd sep quote .outside ((quote :: double quote text ++ [quote]) ++ behind sep tail) =
      .ok (quote :: double quote text ++ [quote], behind sep tail) := by
  rw [List.append_assoc, List.cons_append, findNextColumnEnd, if_neg (Ne.symm hne), if_pos rfl,
    List.singleton_append, findNextColumnEnd_inside hne]
  rfl

theorem dropDoubled_cons {c : Char} (hc : c ≠ quote) (rest : List Char) :
    dropDoubled quote (c :: rest) = c :: dropDoubled quote rest := by
  cases rest with
  | nil => rfl
  | cons d rest => rw [dropDoubled, if_neg fun h => hc h.1]

theorem dropDoubled_double (text : List Char) : dropDoubled quote (double quote text) = text := by
  induction text with
  | nil => rfl
  | cons c text ih =>
    by_cases hc : c = quote
    · have hdouble : double quote (c :: text) = quote :: quote :: double quote text := by
        simp [double, hc]
      rw [hdouble, dropDoubled, if_pos ⟨rfl, rfl⟩, ih, hc]
    · have hdouble : double quote (c :: text) = c :: double quote text := by
        simp [double, hc]
      rw [hdouble, dropDoubled_cons hc, ih]

theorem unescape_quoted (text : List Char) :
    unescape quote (quote :: double quote text ++ [quote]) = text := by
  have hlength : 2 ≤ (quote :: double quote text ++ [quote]).length := by simp
  rw [unescape, if_pos ⟨hlength, rfl, List.getLast?_concat⟩, List.cons_append, List.drop_one,
    List.tail_cons, List.dropLast_concat, dropDoubled_double]

theorem unescape_plain {text : List Char} (hquote : quote ∉ text) : unescape quote text = text := by
  unfold unescape
  rw [if_neg]
  rintro ⟨-, hhead, -⟩
  exact hquote (List.mem_of_head? hhead)

theorem trim_nil (column : List Char) : trim [] column = column := by
  have hfalse : (fun c : Char => ([] : List Char).contains c) = fun _ => false := rfl
  have hdrop : ∀ l : List Char, l.dropWhile (fun _ => false) = l := fun l => by
    cases l <;> rfl
  rw [trim, hfalse, hdrop, List.rdropWhile, hdrop, List.reverse_reverse]

end Column

theorem Cell.chopNextColumn (c : Cell) (tail : Option (List Char)) :
    chopNextColumn ',' '"' (c.written ++ behind ',' tail) = .ok (c.written, tail) := by
  have hfind : findNextColumnEnd ',' '"' .outside (c.written ++ behind ',' tail) =
      .ok (c.written, behind ',' tail) := by
    unfold Cell.written
    cases hq : c.quoted with
    | true => exact findNextColumnEnd_quoted (by decide) c.text tail
    | false => exact findNextColumnEnd_plain (c.plain hq).1 (c.plain hq).2.1 tail
  unfold Csv.chopNextColumn
  rw [hfind]
  cases tail <;> rfl

theorem Cell.clean_written (c : Cell) : clean '"' c.written = c.text := by
  rw [clean, trim_nil]
  unfold Cell.written
  cases hq : c.quoted with
  | true => exact unescape_quoted c.text
  | false => exact unescape_plain (c.plain hq).2.1

/-! ## Reading a row -/

/-- What the columns of a row do to `sorted_col`. -/
def place : (ℕ → Option (List Char)) → List (Option ℕ) → List Cell → (ℕ → Option (List Char))
  | row, none :: colOrder, _ :: cells => place row colOrder cells
  | row, some i :: colOrder, cell :: cells =>
    place (Function.update row i (some cell.text)) colOrder cells
  | row, _, _ => row

/-- Induction on the cells and the order of the columns together. -/
theorem parseLine_rowLine (cells : List Cell) :
    ∀ (row : ℕ → Option (List Char)) (colOrder : List (Option ℕ)),
      parseLine ',' '"' (rowLine cells) row colOrder =
        if cells.length = colOrder.length then .ok (place row colOrder cells)
        else if cells.length < colOrder.length then .error .tooFewColumns
        else .error .tooManyColumns := by
  induction cells with
  | nil =>
    intro row colOrder
    cases colOrder with
    | nil => rfl
    | cons i colOrder => rfl
  | cons cell cells ih =>
    intro row colOrder
    cases colOrder with
    | nil => rfl
    | cons i colOrder =>
      have hline : rowLine (cell :: cells) = some (cell.written ++ behind ',' (rowLine cells)) := rfl
      rw [hline, parseLine, cell.chopNextColumn]
      simp only [List.length_cons, Nat.add_right_cancel_iff, Nat.add_lt_add_iff_right]
      cases i with
      | none => exact ih row colOrder
      | some i => rw [cell.clean_written, place]; exact ih _ colOrder

theorem place_of_notMem {k : ℕ} (cells : List Cell) :
    ∀ (colOrder : List (Option ℕ)) (row : ℕ → Option (List Char)), some k ∉ colOrder →
      place row colOrder cells k = row k := by
  induction cells with
  | nil => intro colOrder row _; cases colOrder with
    | nil => rfl
    | cons i colOrder => cases i <;> rfl
  | cons cell cells ih =>
    intro colOrder row hk
    cases colOrder with
    | nil => rfl
    | cons i colOrder =>
      rw [List.mem_cons, not_or] at hk
      cases i with
      | none => exact ih colOrder row hk.2
      | some i =>
        rw [place, ih colOrder _ hk.2, Function.update_of_ne fun h => hk.1 (congrArg some h)]

variable {names : List (List Char)} {name : List Char}

theorem idxOf?_inj {column : List Char} {k : ℕ} (hname : names.idxOf? name = some k)
    (hcolumn : names.idxOf? column = some k) : column = name := by
  obtain ⟨_, hk, -⟩ := List.idxOf?_eq_some_iff.mp hname
  obtain ⟨_, hk', -⟩ := List.idxOf?_eq_some_iff.mp hcolumn
  exact hk'.symm.trans hk

theorem some_mem_map_idxOf? {k : ℕ} (hname : names.idxOf? name = some k)
    (texts : List (List Char)) : some k ∈ texts.map names.idxOf? ↔ name ∈ texts := by
  constructor
  · intro hmem
    obtain ⟨column, hcolumn, hk⟩ := List.mem_map.mp hmem
    exact idxOf?_inj hname hk ▸ hcolumn
  · intro hmem
    exact hname ▸ List.mem_map_of_mem hmem

/-- The place of a name gets the cell below it, if the name is there once. -/
theorem place_map_idxOf? {k : ℕ} (hname : names.idxOf? name = some k) (cells : List Cell) :
    ∀ (texts : List (List Char)) (row : ℕ → Option (List Char)), cells.length = texts.length →
      texts.count name = 1 →
      place row (texts.map names.idxOf?) cells k =
        (texts.zip (cells.map Cell.text)).lookup name := by
  induction cells with
  | nil =>
    intro texts row hlength hcount
    rw [List.length_nil, eq_comm, List.length_eq_zero_iff] at hlength
    rw [hlength] at hcount
    cases hcount
  | cons cell cells ih =>
    intro texts row hlength hcount
    cases texts with
    | nil => cases hlength
    | cons column texts =>
      rw [List.length_cons, List.length_cons, Nat.add_right_cancel_iff] at hlength
      rw [List.map_cons, List.map_cons, List.zip_cons_cons]
      by_cases hcolumn : column = name
      · subst hcolumn
        rw [List.count_cons_self] at hcount
        have hnone : column ∉ texts := List.count_eq_zero.mp (Nat.succ_injective hcount)
        rw [hname, place, place_of_notMem cells _ _ (mt (some_mem_map_idxOf? hname texts).mp hnone),
          Function.update_self, List.lookup_cons_self]
      · rw [List.count_cons_of_ne hcolumn] at hcount
        have hother : names.idxOf? column ≠ some k := fun h => hcolumn (idxOf?_inj hname h)
        rw [List.lookup_cons, beq_eq_false_iff_ne.mpr (Ne.symm hcolumn)]
        cases hi : names.idxOf? column with
        | none => exact ih texts row hlength hcount
        | some i => exact ih texts _ hlength hcount

/-! ## Reading the header -/

/-- A column that was not found before. -/
theorem headerColumn_written {cell : Cell} {before after : List (List Char)}
    (hcount : ∀ name ∈ names, (before ++ cell.text :: after).count name ≤ 1) :
    headerColumn ignoreExtraColumn names (before.map names.idxOf?) (clean '"' cell.written) =
      .ok (names.idxOf? cell.text) := by
  rw [cell.clean_written]
  unfold headerColumn
  cases hi : names.idxOf? cell.text with
  | none => rfl
  | some i =>
    have hmem : cell.text ∈ names := by
      by_contra hnot
      rw [List.idxOf?_eq_none_iff.mpr hnot] at hi
      cases hi
    have hone := hcount _ hmem
    rw [List.count_append, List.count_cons_self] at hone
    have hnew : cell.text ∉ before := List.count_eq_zero.mp (by omega)
    exact if_neg (mt (some_mem_map_idxOf? hi before).mp hnew)

theorem parseHeaderColumns_last {colOrder : List (Option ℕ)} {line column : List Char} {i : Option ℕ}
    (hchop : chopNextColumn ',' '"' line = .ok (column, none))
    (hi : headerColumn ignoreExtraColumn names colOrder (clean '"' column) = .ok i) :
    parseHeaderColumns ',' '"' ignoreExtraColumn names colOrder line = .ok (colOrder ++ [i]) := by
  rw [parseHeaderColumns]
  split
  · next h => rw [hchop] at h; cases h
  · next h => rw [hchop] at h; cases h; rw [hi]; rfl
  · next h => rw [hchop] at h; cases h

theorem parseHeaderColumns_next {colOrder : List (Option ℕ)} {line column rest : List Char}
    {i : Option ℕ} (hchop : chopNextColumn ',' '"' line = .ok (column, some rest))
    (hi : headerColumn ignoreExtraColumn names colOrder (clean '"' column) = .ok i) :
    parseHeaderColumns ',' '"' ignoreExtraColumn names colOrder line =
      parseHeaderColumns ',' '"' ignoreExtraColumn names (colOrder ++ [i]) rest := by
  rw [parseHeaderColumns]
  split
  · next h => rw [hchop] at h; cases h
  · next h => rw [hchop] at h; cases h
  · next h => rw [hchop] at h; cases h; rw [hi]

/-- No column is found twice: induction on those that are left. -/
theorem parseHeaderColumns_rowLine (cells : List Cell) :
    ∀ (cell : Cell) (before : List (List Char)),
      (∀ name ∈ names, (before ++ (cell :: cells).map Cell.text).count name ≤ 1) →
      parseHeaderColumns ',' '"' ignoreExtraColumn names (before.map names.idxOf?)
          (cell.written ++ behind ',' (rowLine cells)) =
        .ok ((before ++ (cell :: cells).map Cell.text).map names.idxOf?) := by
  induction cells with
  | nil =>
    intro cell before hcount
    rw [List.map_append]
    exact parseHeaderColumns_last (cell.chopNextColumn none) (headerColumn_written hcount)
  | cons next cells ih =>
    intro cell before hcount
    have hmore := ih next (before ++ [cell.text]) (by simpa using hcount)
    rw [List.map_append, List.append_assoc] at hmore
    exact (parseHeaderColumns_next (cell.chopNextColumn _) (headerColumn_written hcount)).trans hmore

variable {header : Row}

theorem parseHeaderLine_text (hnames : names.Nodup)
    (honce : ∀ name ∈ names, (header.cells.map Cell.text).count name = 1) :
    parseHeaderLine ',' '"' ignoreExtraColumn names header.text =
      .ok ((header.cells.map Cell.text).map names.idxOf?) := by
  have hcolumns : parseHeaderColumns ',' '"' ignoreExtraColumn names [] header.text =
      .ok ((header.cells.map Cell.text).map names.idxOf?) := by
    unfold Row.text
    cases hcells : header.cells with
    | nil => exact absurd hcells header.nonempty
    | cons cell cells =>
      rw [hcells] at honce
      exact parseHeaderColumns_rowLine cells cell [] fun name hmem =>
        Nat.le_of_eq (honce name hmem)
  have hfound : (List.range names.length).find?
      (fun i => some i ∉ (header.cells.map Cell.text).map names.idxOf?) = none := by
    rw [List.find?_eq_none]
    intro i hi
    have hlt : i < names.length := List.mem_range.mp hi
    have hindex : names.idxOf? names[i] = some i :=
      List.idxOf?_eq_some_iff.mpr ⟨hlt, rfl, fun j hj heq =>
        absurd ((List.Nodup.getElem_inj_iff hnames).mp heq) (Nat.ne_of_lt hj)⟩
    have hmem : names[i] ∈ header.cells.map Cell.text :=
      List.count_pos_iff.mp (by rw [honce _ (List.getElem_mem hlt)]; exact Nat.one_pos)
    rw [decide_eq_true_iff, not_not]
    exact (some_mem_map_idxOf? hindex _).mpr hmem
  simp only [parseHeaderLine, hcolumns, hfound]
  rfl

/-! ## Reading a table -/

variable {row : Row} {rows : List Row}

theorem CSVReader.readRows_cons {blockLen n : ℕ} {r : CSVReader} {cols : List (List Char)}
    {more : List (List (List Char))} {e : Option CsvError}
    (h : r.readRows blockLen (n + 1) = (cols :: more, e)) :
    ∃ r', r.readRow blockLen (List.replicate r.columnNames.length []) = .ok (some cols, r') ∧
      r'.columnNames = r.columnNames ∧ r'.readRows blockLen n = (more, e) := by
  unfold CSVReader.readRows at h
  split at h
  · cases h
  · cases h
  · next cols' r' hrow =>
    have hnames : r'.columnNames = r.columnNames := by
      unfold CSVReader.readRow at hrow
      split at hrow
      · cases hrow
      · cases hrow
      · split at hrow <;> cases hrow
        rfl
    cases h
    exact ⟨r', hrow, hnames, rfl⟩

/-- After the last row there is none, however often one is asked for. -/
theorem CSVReader.readRows_nil {blockLen n : ℕ} {r : CSVReader}
    (h : r.readRows blockLen (n + 1) = ([], none)) :
    r.readRow blockLen (List.replicate r.columnNames.length []) = .ok (none, r) := by
  unfold CSVReader.readRows at h
  split at h
  · cases h
  · next r' hrow =>
    unfold CSVReader.readRow at hrow ⊢
    split at hrow
    · cases hrow
    · next input hnext => rw [LineReader.nextLine_none hnext]
    · split at hrow <;> cases hrow
  · cases h

theorem Cell.notMem_written {cell : Cell} {c : Char} (hc : c ∉ cell.text) (hquote : c ≠ '"') :
    c ∉ cell.written := by
  unfold Cell.written
  split
  · simp only [List.cons_append, List.mem_cons, List.mem_append, List.not_mem_nil, or_false,
      not_or, double, List.mem_flatMap]
    refine ⟨hquote, ?_, hquote⟩
    rintro ⟨d, hd, hmem⟩
    split at hmem
    · simp only [List.mem_cons, List.not_mem_nil, or_false, or_self] at hmem
      exact hquote hmem
    · exact hc (List.mem_singleton.mp hmem ▸ hd)
  · exact hc

theorem notMem_rowLine {c : Char} (hquote : c ≠ '"') (hcomma : c ≠ ',') {cells : List Cell}
    (hcells : ∀ cell ∈ cells, c ∉ cell.text) : c ∉ (rowLine cells).getD [] := by
  induction cells with
  | nil => exact List.not_mem_nil
  | cons cell cells ih =>
    have hrest := ih fun d hd => hcells d (List.mem_cons_of_mem _ hd)
    show c ∉ cell.written ++ behind ',' (rowLine cells)
    rw [List.mem_append, not_or]
    refine ⟨Cell.notMem_written (hcells cell List.mem_cons_self) hquote, ?_⟩
    cases hline : rowLine cells with
    | none => exact List.not_mem_nil
    | some line =>
      rw [hline] at hrest
      exact List.not_mem_cons_of_ne_of_not_mem hcomma hrest

/-- A carriage return at the end of a row is inside of quotes. -/
theorem getLast?_rowLine {cells : List Cell} : ((rowLine cells).getD []).getLast? ≠ some '\r' := by
  induction cells with
  | nil => decide
  | cons cell cells ih =>
    show (cell.written ++ behind ',' (rowLine cells)).getLast? ≠ _
    cases hline : rowLine cells with
    | none =>
      show (cell.written ++ []).getLast? ≠ _
      rw [List.append_nil]
      unfold Cell.written
      cases hq : cell.quoted with
      | true =>
        show ('"' :: double '"' cell.text ++ ['"']).getLast? ≠ _
        rw [List.getLast?_concat]
        decide
      | false => exact fun h => (cell.plain hq).2.2 (List.mem_of_getLast? h)
    | some line =>
      rw [hline] at ih
      show (cell.written ++ ',' :: line).getLast? ≠ _
      rw [List.getLast?_append_of_ne_nil _ (List.cons_ne_nil _ _)]
      by_cases hnil : line = []
      · subst hnil
        decide
      · rwa [List.getLast?_cons_of_ne_nil hnil]

theorem Row.shown_line (row : Row) : LineReader.shown row.line = row.text := by
  have hnul : LineReader.cString row.text = row.text := by
    refine List.takeWhile_eq_self_iff.mpr fun c hc => decide_eq_true fun h => ?_
    subst h
    exact notMem_rowLine (by decide) (by decide) (fun cell _ => cell.noEnd.2) hc
  unfold LineReader.shown Row.line
  split
  · rw [if_pos List.getLast?_concat, List.dropLast_concat, hnul]
  · have hlast : row.text.getLast? ≠ some '\r' := getLast?_rowLine
    rw [List.append_nil, if_neg hlast, hnul]

theorem Row.newline_notMem (row : Row) : '\n' ∉ row.line := by
  unfold Row.line
  rw [List.mem_append, not_or]
  refine ⟨notMem_rowLine (by decide) (by decide) fun cell _ => cell.noEnd.1, ?_⟩
  split <;> decide

/-- What the variables get from a row with the right number of cells. -/
theorem parseHelper_place (hnames : names.Nodup)
    (honce : ∀ name ∈ names, (header.cells.map Cell.text).count name = 1)
    (hlength : row.cells.length = header.cells.length) (sortedCol : ℕ → Option (List Char)) :
    CSVReader.parseHelper
        (place sortedCol ((header.cells.map Cell.text).map names.idxOf?) row.cells)
        (List.replicate names.length []) = names.map (header.cell row) := by
  refine List.ext_getElem (by simp [CSVReader.parseHelper]) fun k h₁ h₂ => ?_
  have hlt : k < names.length := by rwa [List.length_map] at h₂
  have hindex : names.idxOf? names[k] = some k :=
    List.idxOf?_eq_some_iff.mpr ⟨hlt, rfl, fun j hj heq =>
      absurd ((List.Nodup.getElem_inj_iff hnames).mp heq) (Nat.ne_of_lt hj)⟩
  have hplace := place_map_idxOf? hindex row.cells (header.cells.map Cell.text) sortedCol
    (by rwa [List.length_map]) (honce _ (List.getElem_mem hlt))
  simp only [CSVReader.parseHelper, List.getElem_mapIdx, List.getElem_replicate, List.getElem_map]
  rw [hplace]
  rfl

variable {blockLen : ℕ}

/-- Induction on the rows; each is read into variables of its own. -/
theorem readRows_eq (hnames : names.Nodup)
    (honce : ∀ name ∈ names, (header.cells.map Cell.text).count name = 1) (rows : List Row) :
    ∀ (n : ℕ) (r : CSVReader),
      r.columnNames = names → r.colOrder = (header.cells.map Cell.text).map names.idxOf? →
      r.input.readAll blockLen n = (rows.map Row.text, none) →
      r.readRows blockLen n = expectedRows names header r.input.fileLine rows := by
  induction rows with
  | nil =>
    intro n r _ _ hread
    cases n with
    | zero => rfl
    | succ n =>
      obtain ⟨input, hnext⟩ := LineReader.readAll_nil hread
      have hrow : r.readRow blockLen (List.replicate r.columnNames.length []) =
          .ok (none, { r with input := input }) := by
        rw [CSVReader.readRow, hnext]
      rw [CSVReader.readRows, hrow]
      rfl
  | cons row rows ih =>
    intro n r hcolumns horder hread
    cases n with
    | zero => cases hread
    | succ n =>
      obtain ⟨input, hnext, hrest⟩ := LineReader.readAll_cons hread
      have hnumber := LineReader.nextLine_fileLine hnext
      have hline : some row.text = rowLine row.cells := by
        unfold Row.text
        cases hcells : row.cells with
        | nil => exact absurd hcells row.nonempty
        | cons cell cells => rfl
      have hparse := parseLine_rowLine row.cells r.row r.colOrder
      rw [← hline, horder, List.length_map, List.length_map] at hparse
      unfold CSVReader.readRows CSVReader.readRow expectedRows
      rw [hnext, horder]
      by_cases hlength : row.cells.length = header.cells.length
      · rw [if_pos hlength] at hparse
        have hmore := ih n { r with input := input, row := place r.row r.colOrder row.cells } hcolumns
          horder hrest
        simp only [horder, hcolumns] at hmore
        simp only [hparse, if_pos hlength, hcolumns, parseHelper_place hnames honce hlength, ← hnumber]
        rw [hmore]
      · rw [if_neg hlength] at hparse
        have hcast : ((r.input.fileLine + 1 : ℕ) : ℤ) = (r.input.fileLine : ℤ) + 1 := rfl
        by_cases hfew : row.cells.length < header.cells.length
        · rw [if_pos hfew] at hparse
          simp only [hparse, if_neg hlength, if_pos hfew, hnumber, hcast]
        · rw [if_neg hfew] at hparse
          simp only [hparse, if_neg hlength, if_neg hfew, hnumber, hcast]

/-- A file that holds a table: a mark or none, the header with each name once, the rows, and lines
that fit into a block. If the last line has no end, the file fits into two blocks and no newline is
behind it in the memory. -/
structure TableFile (blockLen : ℕ) (names : List (List Char)) where
  mark : List Char
  lines : List (List Char)
  last : List Char
  header : Row
  rows : List Row
  memory : ℕ → Char
  blockLen_le : 2 ≤ blockLen
  nodup : names.Nodup
  once : ∀ name ∈ names, (header.cells.map Cell.text).count name = 1
  allLines : LineReader.allLines lines last = (header :: rows).map Row.line
  fits : ∀ row ∈ header :: rows, row.line.length + 1 ≤ blockLen
  isMark : LineReader.IsMark mark (LineReader.text lines last)
  closed : last = [] ∨ (mark ++ LineReader.text lines last).length < 2 * blockLen ∧
    memory (mark ++ LineReader.text lines last).length ≠ '\n'

namespace TableFile

variable (f : TableFile blockLen names)

def content : List Char := f.mark ++ LineReader.text f.lines f.last

/-- Every row has as many cells as the header. -/
def Regular : Prop := ∀ row ∈ f.rows, row.cells.length = f.header.cells.length

/-- The cells below the names. -/
def values : List (List (List Char)) := f.rows.map fun row => names.map (f.header.cell row)

/-- What a reader is that was made for the file. -/
def reader : CSVReader := CSVReader.create blockLen f.memory f.content names.length

/-- The lines that are read are those of the header and of the rows. -/
theorem readAll {n : ℕ} (hn : f.rows.length + 3 ≤ n) :
    f.reader.input.readAll blockLen n = (f.header.text :: f.rows.map Row.text, none) := by
  have hnewline : ∀ line ∈ LineReader.allLines f.lines f.last, '\n' ∉ line := by
    intro line hline
    rw [f.allLines] at hline
    obtain ⟨row, -, hrow⟩ := List.mem_map.mp hline
    exact hrow ▸ row.newline_notMem
  have hlast : '\n' ∉ f.last := by
    by_cases hnil : f.last = []
    · rw [hnil]
      exact List.not_mem_nil
    · exact hnewline f.last (by rw [LineReader.allLines, if_neg hnil]; simp)
  have hcount : f.lines.length ≤ f.rows.length + 1 := by
    have hlength := congrArg List.length f.allLines
    rw [LineReader.allLines, List.length_append, List.length_map, List.length_cons] at hlength
    omega
  have hlines : ∀ line ∈ f.lines, '\n' ∉ line := fun line hline =>
    hnewline line (List.mem_append_left _ hline)
  have hread := LineReader.readAll_of_holds hlast f.lines _ _ hlines
    (LineReader.holds_text f.blockLen_le f.isMark f.closed) (Nat.le_trans (by omega) hn)
  have hshown : (LineReader.allLines f.lines f.last).map LineReader.shown =
      f.header.text :: f.rows.map Row.text := by
    rw [f.allLines, List.map_map, List.map_cons]
    exact congrArg₂ _ f.header.shown_line (List.map_congr_left fun row _ => row.shown_line)
  have hfits : ∀ line ∈ LineReader.allLines f.lines f.last, line.length + 1 ≤ blockLen := by
    intro line hline
    rw [f.allLines] at hline
    obtain ⟨row, hmem, hrow⟩ := List.mem_map.mp hline
    exact hrow ▸ f.fits row hmem
  rw [LineReader.expected_of_fits _ hfits, hshown] at hread
  exact hread

/-- The header can be read, and then the rows. -/
theorem readHeader : ∃ r, f.reader.readHeader blockLen ignoreExtraColumn names = .ok r ∧
    r.columnNames = names ∧ ∀ n, f.rows.length + 2 ≤ n →
      r.readRows blockLen n = expectedRows names f.header 1 f.rows := by
  obtain ⟨input, hnext, -⟩ := LineReader.readAll_cons (f.readAll (Nat.le_refl _))
  refine ⟨{ f.reader with
    input := input
    columnNames := names
    colOrder := (f.header.cells.map Cell.text).map names.idxOf? }, ?_, rfl, fun n hn => ?_⟩
  · rw [CSVReader.readHeader, hnext]
    simp only [parseHeaderLine_text f.nodup f.once]
  · obtain ⟨input', hnext', hrest⟩ := LineReader.readAll_cons (f.readAll (Nat.succ_le_succ hn))
    cases hnext.symm.trans hnext'
    rw [readRows_eq f.nodup f.once f.rows n _ rfl rfl hrest, LineReader.nextLine_fileLine hnext]
    rfl

theorem expectedRows_of_regular (h : f.Regular) (k : ℕ) :
    expectedRows names f.header k f.rows = (f.values, none) := by
  have hrows : ∀ (rows : List Row) (k : ℕ),
      (∀ row ∈ rows, row.cells.length = f.header.cells.length) →
      expectedRows names f.header k rows =
        (rows.map fun row => names.map (f.header.cell row), none) := by
    intro rows
    induction rows with
    | nil => intro k _; rfl
    | cons row rows ih =>
      intro k hregular
      rw [expectedRows, if_pos (hregular row List.mem_cons_self),
        ih (k + 1) fun row' hrow => hregular row' (List.mem_cons_of_mem _ hrow)]
      rfl
  exact hrows f.rows k h

end TableFile

/-- The header is `b,"a",c`. The first row has a cell with a comma and a quote, a cell with a carriage
return, and an empty one; the second row has two cells only, and no newline at its end. -/
def shortTable : TableFile 16 [['a'], ['b']] where
  mark := []
  lines := ["b,\"a\",c\r".toList, "\",\"\"\",\"1\r\",".toList]
  last := "2,4".toList
  header := ⟨[⟨['b'], false, by decide, by decide⟩, ⟨['a'], true, by decide, by decide⟩,
    ⟨['c'], false, by decide, by decide⟩], true, by decide⟩
  rows := [⟨[⟨[',', '"'], true, by decide, by decide⟩, ⟨['1', '\r'], true, by decide, by decide⟩,
      ⟨[], false, by decide, by decide⟩], false, by decide⟩,
    ⟨[⟨['2'], false, by decide, by decide⟩, ⟨['4'], false, by decide, by decide⟩], false, by decide⟩]
  memory := fun _ => 'x'
  blockLen_le := by decide
  nodup := by decide
  once := by decide
  allLines := by decide
  fits := by decide
  isMark := .inr ⟨rfl, by decide⟩
  closed := .inr (by decide)

end Csv
end Linux
end VirtualConnection
