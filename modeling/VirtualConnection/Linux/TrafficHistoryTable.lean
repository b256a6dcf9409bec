import Mathlib.Data.Int.ConditionallyCompleteOrder
import VirtualConnection.Lib.FirstMin
import VirtualConnection.Lib.Keyed
import VirtualConnection.Linux.NMPolicyHistoryBased

/-!
# Linux.TrafficHistoryTable

`TrafficHistoryTable::initialize`: the rows of the traffic history are filed under their app and event
type, with the time since the start of the app. A row of the file is a `TrafficRow` here, as
`read_a_row` returns it. A pointer into a map is the key of what it points to.

The times and the lookup are stated over the rows, the latest first: `runStart` is the time of the
first row of the run that the latest row belongs to, and `filed` has the entries of one app and event
type in the order of the file.

* `presentStart`: the start time in the code, where a first row without a name starts nothing.
* `lookup_right_iff`: when the lookup returns the closest entry.
-/

namespace VirtualConnection
namespace Linux

structure TrafficRow where
  appName : List Char
  eventType : Int32
  timeSec : ℚ
  trafficSequence : List Int32
  deriving DecidableEq, Repr

namespace EventTypeEntry

def create (eventType : Int32) : EventTypeEntry where
  mEventType := eventType
  mTrafficList := []

def addItem (e : EventTypeEntry) (trafficEntry : TrafficEntry) : EventTypeEntry :=
  { e with mTrafficList := e.mTrafficList ++ [trafficEntry] }

end EventTypeEntry

namespace AppEntry

def create (appName : List Char) : AppEntry where
  mAppName := appName
  mEventTypeMap := []

def addItem (e : AppEntry) (eventTypeEntry : EventTypeEntry) : AppEntry :=
  { e with mEventTypeMap := Keyed.insert EventTypeEntry.mEventType eventTypeEntry e.mEventTypeMap }

/-- A change through the pointer that `getItem` returns. -/
def modifyItem (e : AppEntry) (eventType : Int32) (f : EventTypeEntry → EventTypeEntry) : AppEntry :=
  { e with mEventTypeMap := Keyed.modify EventTypeEntry.mEventType eventType f e.mEventTypeMap }

end AppEntry

namespace TrafficHistoryTable

def addItem (table : TrafficHistoryTable) (appEntry : AppEntry) : TrafficHistoryTable :=
  Keyed.insert AppEntry.mAppName appEntry table

/-- A change through the pointer that `getItem` returns. -/
def modifyItem (table : TrafficHistoryTable) (appName : List Char) (f : AppEntry → AppEntry) :
    TrafficHistoryTable :=
  Keyed.modify AppEntry.mAppName appName f table

/-- The variables of the loop of `initialize`. -/
structure Loop where
  table : TrafficHistoryTable
  presentAppName : List Char
  presentAppStartTimeSec : ℚ
  deriving DecidableEq, Repr

/-- What is done with the entry of the app: find or create that of the event type, and add to it. -/
def addTraffic (eventType : Int32) (trafficEntry : TrafficEntry) (appEntry : AppEntry) : AppEntry :=
  let appEntry := match appEntry.getItem eventType with
    | none => appEntry.addItem (.create eventType)
    | some _ => appEntry
  appEntry.modifyItem eventType fun e => e.addItem trafficEntry

/-- One round of the loop. -/
def addRow (s : Loop) (row : TrafficRow) : Loop :=
  let presentAppStartTimeSec :=
    if row.appName ≠ s.presentAppName then row.timeSec else s.presentAppStartTimeSec
  let relativeTimeSec := row.timeSec - presentAppStartTimeSec
  let table := match s.table.getItem row.appName with
    | none => s.table.addItem (.create row.appName)
    | some _ => s.table
  { table := table.modifyItem row.appName
      (addTraffic row.eventType ⟨relativeTimeSec, row.trafficSequence⟩)
    presentAppName := row.appName
    presentAppStartTimeSec := presentAppStartTimeSec }

/-- `initialize`, for the rows that the reader returns. -/
def initializeFrom (rows : List TrafficRow) : TrafficHistoryTable :=
  (rows.foldl addRow ⟨[], [], 0⟩).table

/-- `getItem`, `getItem` and `findItem`, as `decide_internal` and `get_predicted_traffic` chain them. -/
def lookup (table : TrafficHistoryTable) (appName : List Char) (eventType : Int32) (timeSec : ℚ) :
    Except Fault (Option TrafficEntry) :=
  match table.getItem appName with
  | none => .ok none
  | some appEntry =>
    match appEntry.getItem eventType with
    | none => .ok none
    | some eventTypeEntry => eventTypeEntry.findItem timeSec

/-! ## What should be filed -/

/-- The time of the first row of the contiguous run of rows of one app that the latest row, which
comes first, belongs to. -/
def runStart : List TrafficRow → ℚ
  | [] => 0
  | [row] => row.timeSec
  | row :: previous :: older =>
    if row.appName = previous.appName then runStart (previous :: older) else row.timeSec

/-- The start time in the code: a first row without a name belongs to a run that started at 0. -/
def presentStart : List TrafficRow → ℚ
  | [] => 0
  | row :: older =>
    if row.appName = (older.head?.map (·.appName)).getD [] then presentStart older else row.timeSec

/-- The entries of one app and event type, oldest first, for rows of which the latest comes first. -/
def filed (start : List TrafficRow → ℚ) (appName : List Char) (eventType : Int32) :
    List TrafficRow → List TrafficEntry
  | [] => []
  | row :: older =>
    filed start appName eventType older ++
      if row.appName = appName ∧ row.eventType = eventType then
        [⟨row.timeSec - start (row :: older), row.trafficSequence⟩]
      else []

/-- The entries of one app and event type in a file. -/
def entries (rows : List TrafficRow) (appName : List Char) (eventType : Int32) : List TrafficEntry :=
  filed runStart appName eventType rows.reverse

variable {table : TrafficHistoryTable} {appName : List Char} {eventType : Int32}

def found (table : TrafficHistoryTable) (appName : List Char) (eventType : Int32) :
    Option EventTypeEntry :=
  (table.getItem appName).bind (·.getItem eventType)

/-- The entry of an event type, for a list of entries that are to be in it. -/
def asFound (eventType : Int32) (l : List TrafficEntry) : Option EventTypeEntry :=
  if l = [] then none else some ⟨eventType, l⟩

/-- The table holds the listed entries and no others, each under one key. -/
structure Holds (table : TrafficHistoryTable)
    (listed : List Char → Int32 → List TrafficEntry) : Prop where
  apps : (table.map (·.mAppName)).Nodup
  events : ∀ appEntry ∈ table, (appEntry.mEventTypeMap.map (·.mEventType)).Nodup
  known : ∀ appName, table.getItem appName = none ↔ ∀ eventType, listed appName eventType = []
  found_eq : ∀ appName eventType,
    found table appName eventType = asFound eventType (listed appName eventType)

/-! ## One row -/

section Row

variable {s : Loop} {row : TrafficRow} {trafficEntry : TrafficEntry} {appEntry : AppEntry}

theorem getItem_eq_find : table.getItem appName = Keyed.find AppEntry.mAppName appName table := rfl

theorem appEntry_getItem_eq_find :
    appEntry.getItem eventType =
      Keyed.find EventTypeEntry.mEventType eventType appEntry.mEventTypeMap := rfl

theorem addTraffic_eq : addTraffic eventType trafficEntry appEntry =
    { appEntry with
      mEventTypeMap := Keyed.upsert EventTypeEntry.mEventType (.create eventType)
        (·.addItem trafficEntry) appEntry.mEventTypeMap } := by
  rw [addTraffic, appEntry_getItem_eq_find]
  cases h : Keyed.find EventTypeEntry.mEventType eventType appEntry.mEventTypeMap with
  | none => simp [AppEntry.modifyItem, AppEntry.addItem, Keyed.upsert, EventTypeEntry.create, h]
  | some e => simp [AppEntry.modifyItem, Keyed.upsert, EventTypeEntry.create, h]

theorem addRow_table : (addRow s row).table =
    Keyed.upsert AppEntry.mAppName (.create row.appName) (addTraffic row.eventType
      ⟨row.timeSec - (addRow s row).presentAppStartTimeSec, row.trafficSequence⟩) s.table := by
  rw [addRow, getItem_eq_find]
  cases h : Keyed.find AppEntry.mAppName row.appName s.table with
  | none => simp [modifyItem, addItem, Keyed.upsert, AppEntry.create, h]
  | some e => simp [modifyItem, Keyed.upsert, AppEntry.create, h]

theorem getItem_addTraffic {eventType' : Int32} :
    (addTraffic eventType trafficEntry appEntry).getItem eventType' =
      if eventType' = eventType then
        some (((appEntry.getItem eventType').getD (.create eventType)).addItem trafficEntry)
      else appEntry.getItem eventType' := by
  rw [addTraffic_eq]
  exact Keyed.find_upsert fun _ => rfl

theorem getItem_addRow : (addRow s row).table.getItem appName =
    if appName = row.appName then
      some (addTraffic row.eventType
        ⟨row.timeSec - (addRow s row).presentAppStartTimeSec, row.trafficSequence⟩
        ((s.table.getItem appName).getD (.create row.appName)))
    else s.table.getItem appName := by
  rw [addRow_table]
  exact Keyed.find_upsert fun a => by rw [addTraffic_eq]

/-- A row adds one entry, at the end of those of its app and event type. -/
theorem found_addRow : found (addRow s row).table appName eventType =
    if appName = row.appName ∧ eventType = row.eventType then
      some (((found s.table appName eventType).getD (.create eventType)).addItem
        ⟨row.timeSec - (addRow s row).presentAppStartTimeSec, row.trafficSequence⟩)
    else found s.table appName eventType := by
  have hnew : ∀ name, (AppEntry.create name).getItem eventType = none := fun _ => rfl
  rw [found, getItem_addRow, found]
  by_cases happ : appName = row.appName
  · rw [if_pos happ, Option.bind_some, getItem_addTraffic]
    by_cases hev : eventType = row.eventType
    · rw [if_pos hev, if_pos ⟨happ, hev⟩]
      cases s.table.getItem appName with
      | none => rw [Option.getD_none, hnew, Option.bind_none, hev]
      | some a => rw [Option.getD_some, Option.bind_some, hev]
    · rw [if_neg hev, if_neg fun h => hev h.2]
      cases s.table.getItem appName with
      | none => rw [Option.getD_none, hnew, Option.bind_none]
      | some a => rw [Option.getD_some, Option.bind_some]
  · rw [if_neg happ, if_neg fun h => happ h.1]

theorem getItem_addRow_eq_none :
    (addRow s row).table.getItem appName = none ↔
      appName ≠ row.appName ∧ s.table.getItem appName = none := by
  rw [getItem_addRow]
  by_cases happ : appName = row.appName
  · simp [happ]
  · simp [happ]

theorem asFound_addItem {l : List TrafficEntry} :
    some (((asFound eventType l).getD (.create eventType)).addItem trafficEntry) =
      asFound eventType (l ++ [trafficEntry]) := by
  by_cases hl : l = []
  · simp [asFound, hl, EventTypeEntry.create, EventTypeEntry.addItem]
  · simp [asFound, hl, EventTypeEntry.addItem]

theorem holds_addRow {listed : List Char → Int32 → List TrafficEntry} (h : Holds s.table listed) :
    Holds (addRow s row).table fun appName eventType => listed appName eventType ++
      if row.appName = appName ∧ row.eventType = eventType then
        [⟨row.timeSec - (addRow s row).presentAppStartTimeSec, row.trafficSequence⟩]
      else [] where
  apps := by
    rw [addRow_table]
    exact Keyed.nodup_upsert (fun a => by rw [addTraffic_eq]) h.apps
  events := by
    rw [addRow_table]
    refine Keyed.forall_upsert h.events List.nodup_nil fun a ha => ?_
    rw [addTraffic_eq]
    exact Keyed.nodup_upsert (fun _ => rfl) ha
  known := by
    intro appName
    rw [getItem_addRow_eq_none, h.known]
    by_cases happ : row.appName = appName
    · simp only [happ, ne_eq, not_true, false_and, true_and, false_iff, not_forall]
      exact ⟨row.eventType, by simp⟩
    · simp [happ, Ne.symm happ]
  found_eq := by
    intro appName eventType
    rw [found_addRow, h.found_eq]
    by_cases hrow : appName = row.appName ∧ eventType = row.eventType
    · obtain ⟨rfl, rfl⟩ := hrow
      rw [if_pos ⟨rfl, rfl⟩, if_pos ⟨rfl, rfl⟩]
      exact asFound_addItem
    · rw [if_neg hrow, if_neg fun h => hrow ⟨h.1.symm, h.2.symm⟩, List.append_nil]

end Row

/-! ## The file -/

section File

variable {rows : List TrafficRow} {l : List TrafficRow}

/-- A run of rows of one app begins where the rows before it are of another. -/
theorem runStart_append {run older : List TrafficRow} (hne : run ≠ [])
    (hsame : ∀ row ∈ run, row.appName = appName)
    (hother : ∀ row ∈ older.head?, row.appName ≠ appName) :
    runStart (run ++ older) = (run.getLast hne).timeSec := by
  induction run with
  | nil => exact absurd rfl hne
  | cons row run ih =>
    obtain ⟨hrow, hrun⟩ := List.forall_mem_cons.mp hsame
    cases run with
    | nil =>
      cases older with
      | nil => rfl
      | cons previous older =>
        have hprevious : row.appName ≠ previous.appName := by
          rw [hrow]
          exact (hother previous rfl).symm
        exact if_neg hprevious
    | cons previous run =>
      have hprevious : row.appName = previous.appName := by
        rw [hrow, (List.forall_mem_cons.mp hrun).1]
      rw [List.getLast_cons (List.cons_ne_nil previous run), ← ih (List.cons_ne_nil _ _) hrun]
      exact if_pos hprevious

/-- The loop after some rows, the latest of which comes first. -/
theorem loop_spec (l : List TrafficRow) :
    let s := l.foldr (fun row s => addRow s row) ⟨[], [], 0⟩
    s.presentAppName = (l.head?.map (·.appName)).getD [] ∧
      s.presentAppStartTimeSec = presentStart l ∧
      Holds s.table fun appName eventType => filed presentStart appName eventType l := by
  induction l with
  | nil => exact ⟨rfl, rfl, List.nodup_nil, by simp, by simp [getItem, filed], fun _ _ => rfl⟩
  | cons row older ih =>
    obtain ⟨hname, hstart, hholds⟩ := ih
    rw [List.foldr_cons]
    generalize older.foldr (fun row s => addRow s row) ⟨[], [], 0⟩ = s at hname hstart hholds
    have hnext : (addRow s row).presentAppStartTimeSec = presentStart (row :: older) := by
      rw [presentStart, ← hname, ← hstart]
      exact ite_not _ _ _
    refine ⟨rfl, hnext, ?_⟩
    have hadd : Holds (addRow s row).table _ := holds_addRow hholds
    rw [hnext] at hadd
    exact hadd

theorem holds_initializeFrom (rows : List TrafficRow) : Holds (initializeFrom rows)
    fun appName eventType => filed presentStart appName eventType rows.reverse := by
  rw [initializeFrom, List.foldl_eq_foldr_reverse]
  exact (loop_spec rows.reverse).2.2

/-- The first row has a name, or the time 0. -/
def FirstNamed (rows : List TrafficRow) : Prop :=
  ∀ first, rows.head? = some first → first.appName = [] → first.timeSec = 0

theorem presentStart_eq_runStart (hfirst : FirstNamed l.reverse) (hne : l ≠ []) :
    presentStart l = runStart l := by
  induction l with
  | nil => exact absurd rfl hne
  | cons row older ih =>
    cases older with
    | nil =>
      by_cases hname : row.appName = []
      · simp [presentStart, runStart, hname, hfirst row rfl hname]
      · simp [presentStart, runStart, hname]
    | cons previous older =>
      have hrest : FirstNamed (previous :: older).reverse := by
        intro first h
        exact hfirst first (by rw [List.reverse_cons, List.head?_append, h]; rfl)
      rw [presentStart, runStart, ih hrest (List.cons_ne_nil _ _)]
      rfl

theorem filed_eq (hfirst : FirstNamed l.reverse) :
    filed presentStart appName eventType l = filed runStart appName eventType l := by
  induction l with
  | nil => rfl
  | cons row older ih =>
    have hrest : FirstNamed older.reverse := by
      intro first h
      exact hfirst first (by rw [List.reverse_cons, List.head?_append, h]; rfl)
    rw [filed, filed, ih hrest, presentStart_eq_runStart hfirst (List.cons_ne_nil _ _)]

/-- The first row is the first entry of its app and event type. -/
theorem filed_concat (start : List TrafficRow → ℚ) (first : TrafficRow) (l : List TrafficRow) :
    ∃ rest, filed start first.appName first.eventType (l ++ [first]) =
      ⟨first.timeSec - start [first], first.trafficSequence⟩ :: rest := by
  induction l with
  | nil => exact ⟨[], by simp [filed]⟩
  | cons row l ih =>
    obtain ⟨rest, h⟩ := ih
    rw [List.cons_append, filed, h]
    exact ⟨_, rfl⟩

theorem asFound_injective {l l' : List TrafficEntry}
    (h : asFound eventType l = asFound eventType l') : l = l' := by
  unfold asFound at h
  split at h
  · next hl =>
    split at h
    · next hl' => rw [hl, hl']
    · cases h
  · split at h
    · cases h
    · exact congrArg EventTypeEntry.mTrafficList (Option.some.inj h)

/-- The rows are filed with the times that they should have exactly if the first is named. -/
theorem holds_entries_iff : Holds (initializeFrom rows) (entries rows) ↔ FirstNamed rows := by
  constructor
  · intro h first hfirst hname
    obtain ⟨rest, rfl⟩ : ∃ rest, rows = first :: rest := by
      cases rows with
      | nil => cases hfirst
      | cons row rest => exact ⟨rest, by rw [Option.some.inj hfirst]⟩
    have hcode := (holds_initializeFrom (first :: rest)).found_eq first.appName first.eventType
    have heq := asFound_injective (hcode.symm.trans (h.found_eq first.appName first.eventType))
    obtain ⟨_, hpresent⟩ := filed_concat presentStart first rest.reverse
    obtain ⟨_, hrun⟩ := filed_concat runStart first rest.reverse
    rw [entries, List.reverse_cons, hpresent, hrun] at heq
    have htime := congrArg TrafficEntry.mTimeSec (List.cons.inj heq).1
    simpa [presentStart, runStart, hname] using htime
  · intro hfirst
    have h := holds_initializeFrom rows
    have hsame : (fun appName eventType => filed presentStart appName eventType rows.reverse) =
        entries rows := by
      funext appName eventType
      exact filed_eq (by rwa [List.reverse_reverse])
    rwa [hsame] at h

theorem entries_eq_nil_iff : entries rows appName eventType = [] ↔
    ∀ row ∈ rows, ¬ (row.appName = appName ∧ row.eventType = eventType) := by
  have hfiled : ∀ l : List TrafficRow, filed runStart appName eventType l = [] ↔
      ∀ row ∈ l, ¬ (row.appName = appName ∧ row.eventType = eventType) := by
    intro l
    induction l with
    | nil => simp [filed]
    | cons row older ih =>
      rw [filed, List.append_eq_nil_iff, ih, List.forall_mem_cons]
      by_cases hrow : row.appName = appName ∧ row.eventType = eventType
      · simp [hrow]
      · simp [hrow]
  rw [entries, hfiled]
  simp

end File

/-! ## The lookup -/

section Lookup

open EventTypeEntry

variable {timeSec : ℚ} {l : List TrafficEntry}

def timeDiff (timeSec : ℚ) (e : TrafficEntry) : ℚ := |timeSec - e.mTimeSec|

/-- What the code compares: the whole seconds of a difference. -/
def wholeDiff (timeSec : ℚ) (e : TrafficEntry) : ℤ := ⌊timeDiff timeSec e⌋

theorem absInt_eq (x : ℚ) : absInt x = if |x| < 2 ^ 31 then .ok ⌊|x|⌋ else .error .overflow := by
  have hrange : ⌊|x|⌋ < 2 ^ 31 ↔ |x| < 2 ^ 31 := by
    rw [Int.floor_lt]
    norm_num
  rw [absInt, Truncation.abs_truncate]
  simp only [hrange]

/-- The loop of `findItem`: `closestTimeDiff` bounds the whole seconds of the closest entry so far, or
anything that an `int` can hold. -/
theorem findClosest_eq {closestEntry : Option TrafficEntry} {closestTimeDiff : ℚ}
    (h : ∀ n : ℤ, n < 2 ^ 31 →
      (closestTimeDiff > n ↔ ∀ e ∈ closestEntry, n < wholeDiff timeSec e)) :
    findClosest timeSec closestEntry closestTimeDiff l =
      if ∀ e ∈ l, timeDiff timeSec e < 2 ^ 31 then
        .ok (l.foldl (List.argAux fun b c => wholeDiff timeSec b < wholeDiff timeSec c) closestEntry)
      else .error .overflow := by
  induction l generalizing closestEntry closestTimeDiff with
  | nil => simp [findClosest]
  | cons e l ih =>
    rw [findClosest, absInt_eq]
    by_cases he : |timeSec - e.mTimeSec| < 2 ^ 31
    · have hwhole : wholeDiff timeSec e < 2 ^ 31 := Int.floor_lt.mpr (by exact_mod_cast he)
      have hall : (∀ e' ∈ e :: l, timeDiff timeSec e' < 2 ^ 31) ↔
          ∀ e' ∈ l, timeDiff timeSec e' < 2 ^ 31 := by
        rw [List.forall_mem_cons]
        exact and_iff_right he
      simp only [he, if_true, hall, List.foldl_cons]
      by_cases hcloser : closestTimeDiff > (wholeDiff timeSec e : ℚ)
      · have haux : List.argAux (fun b c => wholeDiff timeSec b < wholeDiff timeSec c)
            closestEntry e = some e := by
          cases closestEntry with
          | none => rfl
          | some c => exact if_pos ((h _ hwhole).mp hcloser c rfl)
        rw [haux]
        refine (if_pos hcloser).trans (ih fun n _ => ?_)
        simp [wholeDiff, timeDiff]
      · have haux : List.argAux (fun b c => wholeDiff timeSec b < wholeDiff timeSec c)
            closestEntry e = closestEntry := by
          cases closestEntry with
          | none => exact absurd ((h _ hwhole).mpr (by simp)) hcloser
          | some c => exact if_neg fun hlt => hcloser ((h _ hwhole).mpr (by simpa using hlt))
        rw [haux]
        exact (if_neg hcloser).trans (ih h)
    · have hall : ¬ ∀ e' ∈ e :: l, timeDiff timeSec e' < 2 ^ 31 :=
        fun hall => he (hall e List.mem_cons_self)
      rw [if_neg he, if_neg hall]
      rfl

theorem findItem_eq (e : EventTypeEntry) : e.findItem timeSec =
    if ∀ t ∈ e.mTrafficList, timeDiff timeSec t < 2 ^ 31 then
      .ok (e.mTrafficList.argmin (wholeDiff timeSec))
    else .error .overflow := by
  refine findClosest_eq fun n hn => ?_
  have hmax : (2 ^ 31 : ℚ) < EnergyPredictor.floatMax := by decide +kernel
  have hlt : (n : ℚ) < 2 ^ 31 := by exact_mod_cast hn
  simpa using hlt.trans hmax

/-- In a table that holds the listed entries, the first of those that are closest in whole seconds is
found. -/
theorem lookup_eq {listed : List Char → Int32 → List TrafficEntry} (h : Holds table listed) :
    table.lookup appName eventType timeSec =
      if ∀ e ∈ listed appName eventType, timeDiff timeSec e < 2 ^ 31 then
        .ok ((listed appName eventType).argmin (wholeDiff timeSec))
      else .error .overflow := by
  have hfound := h.found_eq appName eventType
  unfold lookup
  cases happ : table.getItem appName with
  | none => simp [(h.known appName).mp happ eventType]
  | some appEntry =>
    rw [found, happ, Option.bind_some] at hfound
    by_cases hnil : listed appName eventType = []
    · rw [asFound, if_pos hnil] at hfound
      simp [hfound, hnil]
    · rw [asFound, if_neg hnil] at hfound
      simp only [hfound]
      exact findItem_eq _

/-- The prediction is a lookup under the name of the app. -/
theorem getPredictedTraffic_eq_lookup {p : NMPolicyHistoryBased} {appEntry : AppEntry}
    (h : p.mTrafficPredictionTable.getItem appName = some appEntry) (isBackgroundApp : Bool)
    (now : Timeval) : p.getPredictedTraffic appEntry isBackgroundApp now =
      p.mTrafficPredictionTable.lookup appName
        (if isBackgroundApp then p.mPresentBGEventType else p.mPresentFGEventType)
        ((now.toUs - (if isBackgroundApp then p.mPresentBGAppStartTS
          else p.mPresentFGAppStartTS).toUs : ℤ) / 1000000) := by
  rw [lookup, h]
  rfl

/-- Every row is filed once, in order and with its time, and the lookup returns the entry with the
least difference, the first on ties. There is none where no row was filed. -/
structure LooksUp (rows : List TrafficRow) (appName : List Char) (eventType : Int32)
    (timeSec : ℚ) : Prop where
  holds : Holds (initializeFrom rows) (entries rows)
  closest : (initializeFrom rows).lookup appName eventType timeSec =
    .ok ((entries rows appName eventType).argmin (timeDiff timeSec))

theorem LooksUp.eq_none_iff {rows : List TrafficRow} (h : LooksUp rows appName eventType timeSec) :
    (initializeFrom rows).lookup appName eventType timeSec = .ok none ↔
      ∀ row ∈ rows, ¬ (row.appName = appName ∧ row.eventType = eventType) := by
  rw [h.closest, Except.ok.injEq, List.argmin_eq_none, entries_eq_nil_iff]

/-- The first row is named, all differences fit an `int`, and whatever comes before the closest entry
is farther away by its whole seconds. -/
structure TellsApart (rows : List TrafficRow) (appName : List Char) (eventType : Int32)
    (timeSec : ℚ) : Prop where
  firstNamed : FirstNamed rows
  inRange : ∀ e ∈ entries rows appName eventType, timeDiff timeSec e < 2 ^ 31
  apart : ∀ before after closest, entries rows appName eventType = before ++ closest :: after →
    (∀ e ∈ before, timeDiff timeSec closest < timeDiff timeSec e) →
    (∀ e ∈ after, timeDiff timeSec closest ≤ timeDiff timeSec e) →
    ∀ e ∈ before, wholeDiff timeSec closest < wholeDiff timeSec e

end Lookup

end TrafficHistoryTable
end Linux
end VirtualConnection
