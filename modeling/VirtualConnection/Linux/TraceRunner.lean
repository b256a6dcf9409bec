import VirtualConnection.Linux.ControlMessages
import VirtualConnection.Linux.CsvReader

/-!
# Linux.TraceRunner

`TraceRunner` of `exp/`: the rows of a packet trace and of an event trace are merged by their
timestamps. Before each row the runner sleeps until its timestamp; then it sends a packet of the
length that the row says, or gives the event to the policy.

An `int` is an `Int32`. What `now_queue_data_size` is when the runner reads it is an argument. A
`calloc` fails only where the length is negative. The counters that are printed are left out.

`sendWorkload_complete_iff`: the actions are those of the merged traces, up to the first one that is
too early, cannot be sent, or waits for ever.
-/

namespace VirtualConnection
namespace Linux
namespace TraceRunner

open Csv (CSVReader CsvError)
open ControlMessageReceiver (stoi)

/-- The exceptions of the readers; nothing catches them. -/
inductive TraceError where
  | csv (e : CsvError)
  | std (e : StdException)
  deriving DecidableEq, Repr

structure Packet where
  tsUs : Int32
  payloadLength : Int32
  deriving DecidableEq, Repr

structure Event where
  tsUs : Int32
  eventDescription : List Char
  deriving DecidableEq, Repr

variable (blockLen : ℕ)

/-! ## The readers -/

/-- The next row, from its two columns. -/
def readARow {α : Type} (fromColumns : List Char → List Char → Except TraceError α) (r : CSVReader) :
    Except TraceError (Option α × CSVReader) :=
  match r.readRow blockLen [[], []] with
  | .error e => .error (.csv e)
  | .ok (none, r) => .ok (none, r)
  | .ok (some cols, r) =>
    match fromColumns (cols.getD 0 []) (cols.getD 1 []) with
    | .error e => .error e
    | .ok a => .ok (some a, r)

def number (text : List Char) : Except TraceError Int32 :=
  match stoi text with
  | .error e => .error (.std e)
  | .ok n => .ok n

def PacketTraceReader.columns : List (List Char) := ["TimeUS".toList, "Length".toList]

def PacketTraceReader.fromColumns (tsUsStr payloadLengthStr : List Char) :
    Except TraceError Packet := do
  let tsUs ← number tsUsStr
  let payloadLength ← number payloadLengthStr
  return ⟨tsUs, payloadLength⟩

def PacketTraceReader.readARow : CSVReader → Except TraceError (Option Packet × CSVReader) :=
  TraceRunner.readARow blockLen PacketTraceReader.fromColumns

def EventTraceReader.columns : List (List Char) := ["TimeUS".toList, "Event".toList]

def EventTraceReader.fromColumns (tsUsStr eventDescription : List Char) :
    Except TraceError Event := do
  let tsUs ← number tsUsStr
  return ⟨tsUs, eventDescription⟩

def EventTraceReader.readARow : CSVReader → Except TraceError (Option Event × CSVReader) :=
  TraceRunner.readARow blockLen EventTraceReader.fromColumns

/-! ## The workload -/

/-- What `send_workload` does to the rest of the program. -/
inductive Action where
  | send (data : List Char)
  | customEvent (eventDescription : List Char)
  deriving DecidableEq, Repr

/-- How `send_workload` ends. `crash` is a `memset` of -1 characters, and `waits` the loop that looks
for an empty queue. -/
inductive Ending where
  | exit
  | invalidSleep
  | allocationFailed
  | crash
  | waits
  | exception (e : TraceError)
  deriving DecidableEq, Repr

/-- The variables of `send_workload`, and those of the runner. A packet or an event is there when it
is ready. `sleptUs` is the sum of what `usleep` was given; an action is recorded with it. -/
structure Workload where
  packetTraceReader : CSVReader
  eventTraceReader : CSVReader
  nextPacket : Option Packet
  nextEvent : Option Event
  mRecentTSUs : Int32
  mIsFirstPacketSent : Bool
  imAliveThreads : ℕ
  nowQueueDataSizes : List Int32
  sleptUs : ℤ
  performed : List (ℤ × Action)

inductive NextAction where
  | exit
  | sendPacket (p : Packet)
  | customEvent (e : Event)

/-- Where an iteration leads. -/
inductive Outcome where
  | next (s : Workload)
  | ended (ending : Ending) (s : Workload)

/-- The next row, unless one is ready. -/
def readAhead {α : Type} (readARow : CSVReader → Except TraceError (Option α × CSVReader))
    (ready : Option α) (r : CSVReader) : Except TraceError (Option α × CSVReader) :=
  match ready with
  | some a => .ok (some a, r)
  | none => readARow r

/-- Step 1. -/
def Workload.read (s : Workload) : Except TraceError Workload := do
  let (nextPacket, packetTraceReader) ←
    readAhead (PacketTraceReader.readARow blockLen) s.nextPacket s.packetTraceReader
  let (nextEvent, eventTraceReader) ←
    readAhead (EventTraceReader.readARow blockLen) s.nextEvent s.eventTraceReader
  return { s with
    packetTraceReader := packetTraceReader
    eventTraceReader := eventTraceReader
    nextPacket := nextPacket
    nextEvent := nextEvent }

/-- Step 2. The packet or the event is not ready any more. -/
def Workload.decide (s : Workload) : NextAction × Workload :=
  match s.nextPacket, s.nextEvent with
  | some p, some e =>
    if p.tsUs < e.tsUs then (.sendPacket p, { s with nextPacket := none })
    else (.customEvent e, { s with nextEvent := none })
  | some p, none => (.sendPacket p, { s with nextPacket := none })
  | none, some e => (.customEvent e, { s with nextEvent := none })
  | none, none => (.exit, s)

def NextAction.nextTsUs : NextAction → Int32
  | .exit => 0
  | .sendPacket p => p.tsUs
  | .customEvent e => e.tsUs

/-- Step 3; nothing is returned where the result is -1. -/
def Workload.sleepWorkload (s : Workload) (nextTsUs : Int32) : Option Workload :=
  let sleepUs := nextTsUs - s.mRecentTSUs
  if sleepUs < 0 then none
  else some { s with sleptUs := s.sleptUs + sleepUs.toInt, mRecentTSUs := nextTsUs }

/-- For a size that is not 0. -/
def generateSimpleString (size : ℕ) : List Char := List.replicate (size - 1) 'a' ++ ['\x00']

def Workload.perform (s : Workload) (a : Action) : Workload :=
  { s with performed := s.performed ++ [(s.sleptUs, a)] }

/-- `start_im_alive_thread` with the first packet. -/
def Workload.startImAlive (s : Workload) : Workload :=
  if s.mIsFirstPacketSent then s
  else { s with mIsFirstPacketSent := true, imAliveThreads := s.imAliveThreads + 1 }

def Workload.sendPacket (s : Workload) (payloadLength : Int32) : Outcome :=
  if payloadLength < 0 then .ended .allocationFailed s
  else if payloadLength = 0 then .ended .crash s
  else
    .next (s.perform (.send (generateSimpleString payloadLength.toInt.toNat))).startImAlive

/-- The readings that are left when one was 0. -/
def waitQueue : List Int32 → Option (List Int32)
  | [] => none
  | size :: sizes => if size = 0 then some sizes else waitQueue sizes

def Workload.customEvent (isWaitPacketsOfPrevEvent : Bool) (s : Workload)
    (eventDescription : List Char) : Outcome :=
  if isWaitPacketsOfPrevEvent then
    match waitQueue s.nowQueueDataSizes with
    | none => .ended .waits s
    | some sizes =>
      .next ({ s with nowQueueDataSizes := sizes }.perform (.customEvent eventDescription))
  else .next (s.perform (.customEvent eventDescription))

/-- Step 4. -/
def Workload.act (isWaitPacketsOfPrevEvent : Bool) (s : Workload) : NextAction → Outcome
  | .exit => .ended .exit s
  | .sendPacket p => s.sendPacket p.payloadLength
  | .customEvent e => s.customEvent isWaitPacketsOfPrevEvent e.eventDescription

/-- Steps 3 and 4. -/
def Workload.follow (isWaitPacketsOfPrevEvent : Bool) (s : Workload) (nextAction : NextAction) :
    Outcome :=
  match s.sleepWorkload nextAction.nextTsUs with
  | none => .ended .invalidSleep s
  | some s => s.act isWaitPacketsOfPrevEvent nextAction

/-- One iteration of the loop. -/
def Workload.step (isWaitPacketsOfPrevEvent : Bool) (s : Workload) : Outcome :=
  match s.read blockLen with
  | .error e => .ended (.exception e) s
  | .ok s => s.decide.2.follow isWaitPacketsOfPrevEvent s.decide.1

/-- The loop; `none` means the fuel ran out. -/
def Workload.run (isWaitPacketsOfPrevEvent : Bool) : ℕ → Workload → Option (Ending × Workload)
  | 0, _ => none
  | n + 1, s =>
    match s.step blockLen isWaitPacketsOfPrevEvent with
    | .next s => run isWaitPacketsOfPrevEvent n s
    | .ended ending s => some (ending, s)

def readHeader (r : CSVReader) (columns : List (List Char)) : Except TraceError CSVReader :=
  match r.readHeader blockLen Csv.ignoreExtraColumn columns with
  | .error e => .error (.csv e)
  | .ok r => .ok r

/-- The headers. -/
def Workload.readHeaders (s : Workload) : Except TraceError Workload := do
  let packetTraceReader ← readHeader blockLen s.packetTraceReader PacketTraceReader.columns
  let eventTraceReader ← readHeader blockLen s.eventTraceReader EventTraceReader.columns
  return { s with packetTraceReader := packetTraceReader, eventTraceReader := eventTraceReader }

/-- A new runner, and readers of the two files. -/
def Workload.create (packetTraceReader eventTraceReader : CSVReader)
    (nowQueueDataSizes : List Int32) : Workload where
  packetTraceReader := packetTraceReader
  eventTraceReader := eventTraceReader
  nextPacket := none
  nextEvent := none
  mRecentTSUs := 0
  mIsFirstPacketSent := false
  imAliveThreads := 0
  nowQueueDataSizes := nowQueueDataSizes
  sleptUs := 0
  performed := []

def sendWorkload (isWaitPacketsOfPrevEvent : Bool) (fuel : ℕ) (s : Workload) :
    Option (Ending × Workload) :=
  match s.readHeaders blockLen with
  | .error e => some (.exception e, s)
  | .ok s => s.run blockLen isWaitPacketsOfPrevEvent fuel

/-! ## What should be performed -/

/-- A row of one of the traces. -/
inductive TraceRow where
  | packet (p : Packet)
  | event (e : Event)
  deriving DecidableEq, Repr

def TraceRow.tsUs : TraceRow → Int32
  | .packet p => p.tsUs
  | .event e => e.tsUs

def TraceRow.action : TraceRow → Action
  | .packet p => .send (generateSimpleString p.payloadLength.toInt.toNat)
  | .event e => .customEvent e.eventDescription

/-- An event comes before a packet of the same time. -/
def merged (packets : List Packet) (events : List Event) : List TraceRow :=
  List.merge (events.map .event) (packets.map .packet) fun a b => a.tsUs ≤ b.tsUs

/-- Each action at its time. -/
def timed (rows : List TraceRow) : List (ℤ × Action) := rows.map fun a => (a.tsUs.toInt, a.action)

/-- Whether a row can be performed; the readings that are left, if it can. -/
def TraceRow.check (isWait : Bool) (sizes : List Int32) : TraceRow → Except Ending (List Int32)
  | .packet p =>
    if p.payloadLength < 0 then .error .allocationFailed
    else if p.payloadLength = 0 then .error .crash
    else .ok sizes
  | .event _ =>
    if isWait then
      match waitQueue sizes with
      | none => .error .waits
      | some sizes => .ok sizes
    else .ok sizes

/-- What is performed of the rows, from a time on, and how it ends. -/
def play (isWait : Bool) : Int32 → List Int32 → List TraceRow → List (ℤ × Action) × Ending
  | recent, _, [] => ([], if 0 < recent then .invalidSleep else .exit)
  | recent, sizes, a :: rows =>
    if a.tsUs < recent then ([], .invalidSleep)
    else
      match a.check isWait sizes with
      | .error ending => ([], ending)
      | .ok sizes =>
        ((a.tsUs.toInt, a.action) :: (play isWait a.tsUs sizes rows).1,
          (play isWait a.tsUs sizes rows).2)

/-! ## Reading -/

section Gives

variable {α : Type} {readARow : CSVReader → Except TraceError (Option α × CSVReader)}

/-- The rows that a reader will return; after the last one it stays as it is. -/
def Gives (readARow : CSVReader → Except TraceError (Option α × CSVReader)) : CSVReader → List α → Prop
  | r, [] => readARow r = .ok (none, r)
  | r, a :: rows => ∃ r', readARow r = .ok (some a, r') ∧ Gives readARow r' rows

/-- The row that is ready, and those that the reader will return. -/
def Ahead (readARow : CSVReader → Except TraceError (Option α × CSVReader)) (ready : Option α)
    (r : CSVReader) (rows : List α) : Prop :=
  match ready with
  | none => Gives readARow r rows
  | some a => ∃ more, rows = a :: more ∧ Gives readARow r more

theorem Ahead.read {ready : Option α} {r : CSVReader} {rows : List α}
    (h : Ahead readARow ready r rows) :
    ∃ r', readAhead readARow ready r = .ok (rows.head?, r') ∧ Gives readARow r' rows.tail := by
  cases ready with
  | none =>
    cases rows with
    | nil => exact ⟨r, h, h⟩
    | cons a rows => exact h
  | some a =>
    obtain ⟨more, rfl, hmore⟩ := h
    exact ⟨r, rfl, hmore⟩

end Gives

/-! ## One iteration -/

variable {blockLen : ℕ} {isWait : Bool} {s : Workload} {packets : List Packet} {events : List Event}

/-- What the workload has not performed yet. -/
structure Pending (blockLen : ℕ) (s : Workload) (packets : List Packet) (events : List Event) :
    Prop where
  packets : Ahead (PacketTraceReader.readARow blockLen) s.nextPacket s.packetTraceReader packets
  events : Ahead (EventTraceReader.readARow blockLen) s.nextEvent s.eventTraceReader events

def TraceRow.next : TraceRow → NextAction
  | .packet p => .sendPacket p
  | .event e => .customEvent e

/-- The two workloads differ in what was read only. -/
def Rereads (s t : Workload) : Prop :=
  ∃ packetTraceReader eventTraceReader nextPacket nextEvent,
    t = { s with
      packetTraceReader := packetTraceReader
      eventTraceReader := eventTraceReader
      nextPacket := nextPacket
      nextEvent := nextEvent }

theorem merged_cons_packet {p : Packet} {e : Event} (h : p.tsUs < e.tsUs) :
    merged (p :: packets) (e :: events) = .packet p :: merged packets (e :: events) := by
  unfold merged
  rw [List.map_cons, List.map_cons, List.cons_merge_cons_neg]
  exact fun hle => Int32.not_le.mpr h (of_decide_eq_true hle)

theorem merged_cons_event {p : Packet} {e : Event} (h : ¬ p.tsUs < e.tsUs) :
    merged (p :: packets) (e :: events) = .event e :: merged (p :: packets) events := by
  unfold merged
  rw [List.map_cons, List.map_cons, List.cons_merge_cons_pos]
  exact decide_eq_true (Int32.not_lt.mp h)

/-- The first two steps choose the next row of the merged traces. -/
theorem Pending.decide (h : Pending blockLen s packets events) :
    ∃ t, s.read blockLen = .ok t ∧ Rereads s t.decide.2 ∧
      ((merged packets events = [] ∧ t.decide.1 = .exit) ∨
        ∃ a packets' events', merged packets events = a :: merged packets' events' ∧
          t.decide.1 = a.next ∧ Pending blockLen t.decide.2 packets' events') := by
  obtain ⟨pr, hp, hpr⟩ := h.packets.read
  obtain ⟨er, he, her⟩ := h.events.read
  have hread : s.read blockLen = .ok { s with
      packetTraceReader := pr
      eventTraceReader := er
      nextPacket := packets.head?
      nextEvent := events.head? } := by
    rw [Workload.read, hp]
    simp only [he, bind, Except.bind, pure, Except.pure]
  refine ⟨_, hread, ?_⟩
  cases packets with
  | nil =>
    cases events with
    | nil => exact ⟨⟨_, _, _, _, rfl⟩, .inl ⟨by simp [merged], rfl⟩⟩
    | cons e events =>
      exact ⟨⟨_, _, _, _, rfl⟩, .inr ⟨.event e, [], events, by simp [merged], rfl, hpr, her⟩⟩
  | cons p packets =>
    cases events with
    | nil => exact ⟨⟨_, _, _, _, rfl⟩, .inr ⟨.packet p, packets, [], by simp [merged], rfl, hpr, her⟩⟩
    | cons e events =>
      simp only [List.head?_cons, List.tail_cons, Workload.decide] at hpr her ⊢
      by_cases hlt : p.tsUs < e.tsUs
      · rw [if_pos hlt]
        exact ⟨⟨_, _, _, _, rfl⟩,
          .inr ⟨.packet p, packets, e :: events, merged_cons_packet hlt, rfl, hpr, _, rfl, her⟩⟩
      · rw [if_neg hlt]
        exact ⟨⟨_, _, _, _, rfl⟩,
          .inr ⟨.event e, p :: packets, events, merged_cons_event hlt, rfl, ⟨_, rfl, hpr⟩, her⟩⟩

/-- A packet is among the actions. -/
def sends (performed : List (ℤ × Action)) : Bool := performed.any fun a =>
  match a.2 with
  | .send _ => true
  | .customEvent _ => false

/-- The runner has slept until its recent timestamp, and the thread that keeps the connection alive
was started with the first packet, once. -/
structure Steady (s : Workload) : Prop where
  recent : 0 ≤ s.mRecentTSUs
  slept : s.sleptUs = s.mRecentTSUs.toInt
  first : s.mIsFirstPacketSent = sends s.performed
  alive : s.imAliveThreads = (sends s.performed).toNat

theorem Rereads.steady {t : Workload} (h : Rereads s t) (hs : Steady s) :
    Steady t ∧ t.mRecentTSUs = s.mRecentTSUs ∧ t.nowQueueDataSizes = s.nowQueueDataSizes ∧
      t.performed = s.performed := by
  obtain ⟨_, _, _, _, rfl⟩ := h
  exact ⟨⟨hs.recent, hs.slept, hs.first, hs.alive⟩, rfl, rfl, rfl⟩

theorem sub_of_nonneg {a b : Int32} (ha : 0 ≤ a) (hb : 0 ≤ b) :
    (a - b).toInt = a.toInt - b.toInt := by
  have ha' : 0 ≤ a.toInt := Int32.le_iff_toInt_le.mp ha
  have hb' : 0 ≤ b.toInt := Int32.le_iff_toInt_le.mp hb
  have := a.toInt_lt
  have := b.toInt_lt
  rw [Int32.toInt_sub]
  exact Int.bmod_eq_of_le (by omega) (by omega)

def sleepUntil (s : Workload) (ts : Int32) : Workload :=
  { s with sleptUs := ts.toInt, mRecentTSUs := ts }

theorem Steady.sleepUntil (hs : Steady s) {ts : Int32} (hts : 0 ≤ ts) : Steady (sleepUntil s ts) :=
  ⟨hts, rfl, hs.first, hs.alive⟩

/-- Step 3, for a time that is not negative. -/
theorem Steady.sleepWorkload (hs : Steady s) {ts : Int32} (hts : 0 ≤ ts) :
    s.sleepWorkload ts = if ts < s.mRecentTSUs then none else some (TraceRunner.sleepUntil s ts) := by
  have hsub := sub_of_nonneg hts hs.recent
  have hneg : ts - s.mRecentTSUs < 0 ↔ ts < s.mRecentTSUs := by
    rw [Int32.lt_iff_toInt_lt, Int32.lt_iff_toInt_lt, hsub]
    show ts.toInt - s.mRecentTSUs.toInt < 0 ↔ _
    omega
  have hslept : s.sleptUs + (ts - s.mRecentTSUs).toInt = ts.toInt := by
    rw [hsub, hs.slept]
    omega
  simp only [Workload.sleepWorkload, hneg, hslept]
  rfl

/-- A row was performed. -/
structure Performs (s t : Workload) (a : Action) (sizes : List Int32) : Prop where
  recent : t.mRecentTSUs = s.mRecentTSUs
  slept : t.sleptUs = s.sleptUs
  sizes : t.nowQueueDataSizes = sizes
  performed : t.performed = s.performed ++ [(s.sleptUs, a)]
  packets : t.nextPacket = s.nextPacket ∧ t.packetTraceReader = s.packetTraceReader
  events : t.nextEvent = s.nextEvent ∧ t.eventTraceReader = s.eventTraceReader
  first : t.mIsFirstPacketSent = sends t.performed
  alive : t.imAliveThreads = (sends t.performed).toNat

theorem Performs.steady {t : Workload} {a : Action} {sizes : List Int32} (h : Performs s t a sizes)
    (hs : Steady s) : Steady t :=
  ⟨h.recent ▸ hs.recent, h.slept.trans (hs.slept.trans (by rw [h.recent])), h.first, h.alive⟩

theorem Performs.pending {t : Workload} {a : Action} {sizes : List Int32} (h : Performs s t a sizes)
    (hs : Pending blockLen s packets events) : Pending blockLen t packets events := by
  constructor
  · rw [h.packets.1, h.packets.2]
    exact hs.packets
  · rw [h.events.1, h.events.2]
    exact hs.events

theorem sends_append (performed : List (ℤ × Action)) (ts : ℤ) (a : Action) :
    sends (performed ++ [(ts, a)]) = (sends performed || sends [(ts, a)]) := by
  simp [sends]

theorem Steady.performs_send (hs : Steady s) (data : List Char) :
    Performs s (s.perform (.send data)).startImAlive (.send data) s.nowQueueDataSizes := by
  have hsends : sends (s.performed ++ [(s.sleptUs, .send data)]) = true := by
    rw [sends_append]
    exact Bool.or_true _
  have halive := hs.alive
  rw [← hs.first] at halive
  unfold Workload.startImAlive
  cases hfirst : s.mIsFirstPacketSent with
  | true =>
    rw [hfirst] at halive
    rw [if_pos (show (s.perform (.send data)).mIsFirstPacketSent = true from hfirst)]
    exact ⟨rfl, rfl, rfl, rfl, ⟨rfl, rfl⟩, ⟨rfl, rfl⟩, hfirst.trans hsends.symm,
      halive.trans (congrArg Bool.toNat hsends).symm⟩
  | false =>
    rw [hfirst] at halive
    rw [if_neg (show ¬ (s.perform (.send data)).mIsFirstPacketSent = true by
      exact fun h => Bool.false_ne_true (hfirst.symm.trans h))]
    exact ⟨rfl, rfl, rfl, rfl, ⟨rfl, rfl⟩, ⟨rfl, rfl⟩, hsends.symm,
      (congrArg (· + 1) halive).trans (congrArg Bool.toNat hsends).symm⟩

theorem Steady.performs_event (hs : Steady s) (eventDescription : List Char) (sizes : List Int32) :
    Performs s ({ s with nowQueueDataSizes := sizes }.perform (.customEvent eventDescription))
      (.customEvent eventDescription) sizes := by
  have hsends : sends (s.performed ++ [(s.sleptUs, .customEvent eventDescription)]) =
      sends s.performed := by
    rw [sends_append]
    exact Bool.or_false _
  exact ⟨rfl, rfl, rfl, rfl, ⟨rfl, rfl⟩, ⟨rfl, rfl⟩, hs.first.trans hsends.symm,
    hs.alive.trans (congrArg Bool.toNat hsends).symm⟩

variable (isWait) in
/-- Step 4, for a row. -/
theorem Steady.act_next (hs : Steady s) (a : TraceRow) :
    match a.check isWait s.nowQueueDataSizes with
    | .error ending => s.act isWait a.next = .ended ending s
    | .ok sizes => ∃ t, s.act isWait a.next = .next t ∧ Performs s t a.action sizes := by
  cases a with
  | packet p =>
    simp only [TraceRow.check, TraceRow.next, Workload.act, Workload.sendPacket]
    by_cases hneg : p.payloadLength < 0
    · simp only [if_pos hneg]
    · by_cases hzero : p.payloadLength = 0
      · simp only [if_neg hneg, if_pos hzero]
      · simp only [if_neg hneg, if_neg hzero]
        exact ⟨_, rfl, hs.performs_send _⟩
  | event e =>
    simp only [TraceRow.check, TraceRow.next, Workload.act, Workload.customEvent]
    cases isWait with
    | false => exact ⟨_, rfl, hs.performs_event _ _⟩
    | true =>
      simp only [if_true]
      cases waitQueue s.nowQueueDataSizes with
      | none => rfl
      | some sizes => exact ⟨_, rfl, hs.performs_event _ _⟩

theorem Steady.act_error (hs : Steady s) {a : TraceRow} {ending : Ending}
    (h : a.check isWait s.nowQueueDataSizes = .error ending) :
    s.act isWait a.next = .ended ending s := by
  have hact := hs.act_next isWait a
  rwa [h] at hact

theorem Steady.act_ok (hs : Steady s) {a : TraceRow} {sizes : List Int32}
    (h : a.check isWait s.nowQueueDataSizes = .ok sizes) :
    ∃ t, s.act isWait a.next = .next t ∧ Performs s t a.action sizes := by
  have hact := hs.act_next isWait a
  rwa [h] at hact

/-! ## The loop -/

theorem run_ended {n : ℕ} {ending : Ending} {t : Workload} (hn : 0 < n)
    (h : s.step blockLen isWait = .ended ending t) :
    s.run blockLen isWait n = some (ending, t) := by
  obtain ⟨n, rfl⟩ := Nat.exists_eq_succ_of_ne_zero (Nat.ne_of_gt hn)
  rw [Workload.run, h]

/-- Steps 3 and 4 of a row that comes next. -/
theorem Steady.follow (hs : Steady s) {a : TraceRow} (hts : 0 ≤ a.tsUs) :
    s.follow isWait a.next = if a.tsUs < s.mRecentTSUs then .ended .invalidSleep s
      else (TraceRunner.sleepUntil s a.tsUs).act isWait a.next := by
  have hnext : a.next.nextTsUs = a.tsUs := by cases a <;> rfl
  rw [Workload.follow, hnext, hs.sleepWorkload hts]
  by_cases hlt : a.tsUs < s.mRecentTSUs
  · simp only [if_pos hlt]
  · simp only [if_neg hlt]

variable (isWait) in
/-- Induction on the rows that are left. -/
theorem run_play (rows : List TraceRow) :
    ∀ (n : ℕ) (s : Workload) (packets : List Packet) (events : List Event),
      merged packets events = rows → Pending blockLen s packets events → Steady s →
      (∀ a ∈ rows, 0 ≤ a.tsUs) → rows.length < n →
      ∃ t, s.run blockLen isWait n =
          some ((play isWait s.mRecentTSUs s.nowQueueDataSizes rows).2, t) ∧
        t.performed = s.performed ++ (play isWait s.mRecentTSUs s.nowQueueDataSizes rows).1 ∧
        Steady t := by
  induction rows with
  | nil =>
    intro n s packets events hrows hpending hsteady _ hn
    obtain ⟨u, hread, hre, ⟨-, hexit⟩ | ⟨_, _, _, hcons, -⟩⟩ := hpending.decide
    · obtain ⟨hu, hrecent, -, hperformed⟩ := hre.steady hsteady
      have hstep : s.step blockLen isWait =
          .ended (if 0 < s.mRecentTSUs then .invalidSleep else .exit) (if 0 < s.mRecentTSUs then
            u.decide.2 else sleepUntil u.decide.2 0) := by
        rw [Workload.step, hread]
        simp only [hexit, Workload.follow, NextAction.nextTsUs, hu.sleepWorkload (Int32.le_refl 0),
          hrecent]
        by_cases hlt : 0 < s.mRecentTSUs
        · simp only [if_pos hlt]
        · simp only [if_neg hlt, Workload.act]
      refine ⟨_, run_ended (Nat.zero_lt_of_lt hn) hstep, ?_, ?_⟩
      · rw [play, List.append_nil, ← hperformed]
        split <;> rfl
      · split
        · exact hu
        · exact hu.sleepUntil (Int32.le_refl 0)
    · rw [hrows] at hcons
      cases hcons
  | cons a rows ih =>
    intro n s packets events hrows hpending hsteady hts hn
    obtain ⟨u, hread, hre, ⟨hnil, -⟩ | ⟨b, packets', events', hcons, hnext, hpending'⟩⟩ :=
      hpending.decide
    · rw [hrows] at hnil
      cases hnil
    · rw [hrows] at hcons
      obtain ⟨rfl, hrest⟩ := List.cons.inj hcons
      obtain ⟨hu, hrecent, hsizes, hperformed⟩ := hre.steady hsteady
      have hpos : 0 ≤ a.tsUs := hts a List.mem_cons_self
      have hstep : s.step blockLen isWait = u.decide.2.follow isWait a.next := by
        rw [Workload.step, hread]
        simp only [hnext]
      rw [hu.follow hpos, hrecent] at hstep
      unfold play
      by_cases hlt : a.tsUs < s.mRecentTSUs
      · rw [if_pos hlt] at hstep ⊢
        exact ⟨_, run_ended (Nat.zero_lt_of_lt hn) hstep, by rw [hperformed, List.append_nil], hu⟩
      · rw [if_neg hlt] at hstep ⊢
        have hslept := hu.sleepUntil hpos
        have hpast : (sleepUntil u.decide.2 a.tsUs).performed = s.performed := hperformed
        rw [← show (sleepUntil u.decide.2 a.tsUs).nowQueueDataSizes = _ from hsizes]
        cases hcheck : a.check isWait (sleepUntil u.decide.2 a.tsUs).nowQueueDataSizes with
        | error ending =>
          exact ⟨_, run_ended (Nat.zero_lt_of_lt hn) (hstep.trans (hslept.act_error hcheck)),
            hpast.trans (List.append_nil _).symm, hslept⟩
        | ok sizes =>
          obtain ⟨t, hact, ht⟩ := hslept.act_ok hcheck
          obtain ⟨n, rfl⟩ := Nat.exists_eq_succ_of_ne_zero (Nat.ne_of_gt (Nat.zero_lt_of_lt hn))
          obtain ⟨v, hrun, hlog, hv⟩ := ih n t packets' events' hrest.symm
            (ht.pending ⟨hpending'.packets, hpending'.events⟩) (ht.steady hslept)
            (fun b hb => hts b (List.mem_cons_of_mem _ hb)) (Nat.lt_of_succ_lt_succ hn)
          have hbefore : t.performed = s.performed ++ [(a.tsUs.toInt, a.action)] :=
            ht.performed.trans (congrArg (· ++ [(a.tsUs.toInt, a.action)]) hpast)
          have hnow : t.mRecentTSUs = a.tsUs := ht.recent
          rw [hnow, ht.sizes] at hrun hlog
          refine ⟨v, ?_, ?_, hv⟩
          · rw [Workload.run, hstep, hact]
            exact hrun
          · rw [hlog, hbefore, List.append_assoc]
            rfl

/-! ## What is performed -/

variable {rows : List TraceRow} {recent : Int32} {sizes : List Int32}

def TraceRow.isEvent : TraceRow → Bool
  | .packet _ => false
  | .event _ => true

/-- A packet that has a length. -/
def TraceRow.Sendable : TraceRow → Prop
  | .packet p => 0 < p.payloadLength
  | .event _ => True

theorem waitQueue_eq_none : waitQueue sizes = none ↔ sizes.count 0 = 0 := by
  induction sizes with
  | nil => exact iff_of_true rfl rfl
  | cons size sizes ih =>
    rw [waitQueue]
    by_cases hzero : size = 0
    · rw [if_pos hzero, hzero, List.count_cons_self]
      exact iff_of_false (Option.some_ne_none _) (Nat.succ_ne_zero _)
    · rw [if_neg hzero, List.count_cons_of_ne hzero, ih]

theorem count_of_waitQueue {left : List Int32} (h : waitQueue sizes = some left) :
    sizes.count 0 = left.count 0 + 1 := by
  induction sizes with
  | nil => cases h
  | cons size sizes ih =>
    rw [waitQueue] at h
    by_cases hzero : size = 0
    · rw [if_pos hzero] at h
      cases h
      rw [hzero, List.count_cons_self]
    · rw [if_neg hzero] at h
      rw [List.count_cons_of_ne hzero, ih h]

/-- The readings are enough: one of them is 0 for each event, if the runner waits. -/
def Enough (isWait : Bool) (sizes : List Int32) (rows : List TraceRow) : Prop :=
  isWait = true → rows.countP TraceRow.isEvent ≤ sizes.count 0

variable (rows) in
/-- A row can be performed, and then those behind it. -/
theorem check_ok {a : TraceRow} {left : List Int32} (h : a.check isWait sizes = .ok left) :
    a.Sendable ∧ (Enough isWait sizes (a :: rows) ↔ Enough isWait left rows) := by
  cases a with
  | packet p =>
    simp only [TraceRow.check] at h
    by_cases hneg : p.payloadLength < 0
    · rw [if_pos hneg] at h
      cases h
    · by_cases hzero : p.payloadLength = 0
      · rw [if_neg hneg, if_pos hzero] at h
        cases h
      · rw [if_neg hneg, if_neg hzero] at h
        cases h
        refine ⟨?_, ?_⟩
        · exact Int32.lt_of_le_of_ne (Int32.not_lt.mp hneg) (Ne.symm hzero)
        · rw [Enough, Enough, List.countP_cons_of_neg (by simp [TraceRow.isEvent])]
  | event e =>
    simp only [TraceRow.check] at h
    refine ⟨trivial, ?_⟩
    cases isWait with
    | false => exact iff_of_true (fun h => absurd h Bool.false_ne_true) fun h => absurd h Bool.false_ne_true
    | true =>
      rw [if_pos rfl] at h
      cases hwait : waitQueue sizes with
      | none => rw [hwait] at h; cases h
      | some left' =>
        rw [hwait] at h
        cases h
        rw [Enough, Enough, List.countP_cons_of_pos rfl, count_of_waitQueue hwait]
        simp only [forall_const, Nat.add_le_add_iff_right]

theorem check_error {a : TraceRow} {ending : Ending} (h : a.check isWait sizes = .error ending) :
    ¬ (a.Sendable ∧ Enough isWait sizes (a :: rows)) := by
  rintro ⟨hsendable, henough⟩
  cases a with
  | packet p =>
    have hpos : 0 < p.payloadLength := hsendable
    simp only [TraceRow.check] at h
    rw [if_neg (Int32.not_lt.mpr (Int32.le_of_lt hpos)), if_neg (Int32.ne_of_lt hpos).symm] at h
    cases h
  | event e =>
    simp only [TraceRow.check] at h
    cases isWait with
    | false => cases h
    | true =>
      have hcount := henough rfl
      rw [List.countP_cons_of_pos rfl] at hcount
      rw [if_pos rfl] at h
      cases hwait : waitQueue sizes with
      | none =>
        rw [waitQueue_eq_none.mp hwait] at hcount
        exact Nat.not_succ_le_zero _ hcount
      | some left => rw [hwait] at h; cases h

theorem play_prefix (isWait : Bool) (rows : List TraceRow) :
    ∀ (recent : Int32) (sizes : List Int32), (play isWait recent sizes rows).1 <+: timed rows := by
  induction rows with
  | nil => exact fun _ _ => List.nil_prefix
  | cons a rows ih =>
    intro recent sizes
    unfold play
    split
    · exact List.nil_prefix
    · split
      · exact List.nil_prefix
      · exact List.cons_prefix_cons.mpr ⟨rfl, ih _ _⟩

/-- The rows follow each other in time, none is before `recent`, every packet has a length, and the
readings are enough. -/
structure Playable (isWait : Bool) (recent : Int32) (sizes : List Int32) (rows : List TraceRow) :
    Prop where
  recent : ∀ a ∈ rows, recent ≤ a.tsUs
  sorted : rows.Pairwise fun a b => a.tsUs ≤ b.tsUs
  sendable : ∀ a ∈ rows, a.Sendable
  enough : Enough isWait sizes rows

theorem playable_cons {a : TraceRow} {left : List Int32} (hle : recent ≤ a.tsUs)
    (hcheck : a.check isWait sizes = .ok left) :
    Playable isWait recent sizes (a :: rows) ↔ Playable isWait a.tsUs left rows := by
  obtain ⟨hsendable, henough⟩ := check_ok rows hcheck
  constructor
  · intro h
    obtain ⟨hfirst, hrest⟩ := List.pairwise_cons.mp h.sorted
    exact ⟨hfirst, hrest, fun b hb => h.sendable b (List.mem_cons_of_mem _ hb), henough.mp h.enough⟩
  · intro h
    refine ⟨fun b hb => ?_, List.pairwise_cons.mpr ⟨h.recent, h.sorted⟩, fun b hb => ?_,
      henough.mpr h.enough⟩
    · rcases List.mem_cons.mp hb with rfl | hb
      · exact hle
      · exact Int32.le_trans hle (h.recent b hb)
    · rcases List.mem_cons.mp hb with rfl | hb
      · exact hsendable
      · exact h.sendable b hb

/-- All rows are performed, or the first one that is not playable stops the workload. -/
theorem play_complete_iff (isWait : Bool) (rows : List TraceRow) :
    ∀ (recent : Int32) (sizes : List Int32),
      (play isWait recent sizes rows).1 = timed rows ↔ Playable isWait recent sizes rows := by
  induction rows with
  | nil =>
    intro recent sizes
    have hnone : ∀ a ∈ ([] : List TraceRow), a.Sendable := fun a ha => absurd ha List.not_mem_nil
    exact iff_of_true rfl ⟨fun a ha => absurd ha List.not_mem_nil, .nil, hnone, fun _ => Nat.zero_le _⟩
  | cons a rows ih =>
    intro recent sizes
    have hne : ([] : List (ℤ × Action)) ≠ timed (a :: rows) := (List.cons_ne_nil _ _).symm
    unfold play
    by_cases hlt : a.tsUs < recent
    · rw [if_pos hlt]
      exact iff_of_false hne fun h => Int32.not_le.mpr hlt (h.recent a List.mem_cons_self)
    · rw [if_neg hlt]
      cases hcheck : a.check isWait sizes with
      | error ending =>
        exact iff_of_false hne fun h =>
          check_error hcheck ⟨h.sendable a List.mem_cons_self, h.enough⟩
      | ok left =>
        rw [playable_cons (Int32.not_lt.mp hlt) hcheck, ← ih a.tsUs left]
        exact ⟨fun h => (List.cons.inj h).2, fun h => congrArg _ h⟩

/-- The last call of `sleep_workload` wants to go back to 0. -/
theorem play_ending (isWait : Bool) (rows : List TraceRow) :
    ∀ (recent : Int32) (sizes : List Int32), Playable isWait recent sizes rows →
      (play isWait recent sizes rows).2 =
        if 0 < recent ∨ ∃ a ∈ rows, 0 < a.tsUs then .invalidSleep else .exit := by
  induction rows with
  | nil =>
    intro recent sizes _
    simp only [play, List.not_mem_nil, false_and, exists_false, or_false]
  | cons a rows ih =>
    intro recent sizes h
    have hle := h.recent a List.mem_cons_self
    have hafter : (0 < recent ∨ ∃ b ∈ a :: rows, 0 < b.tsUs) ↔
        (0 < a.tsUs ∨ ∃ b ∈ rows, 0 < b.tsUs) := by
      rw [List.exists_mem_cons_iff]
      exact or_iff_right_of_imp fun hpos => .inl (Int32.lt_of_lt_of_le hpos hle)
    unfold play
    rw [if_neg (Int32.not_lt.mpr hle)]
    cases hcheck : a.check isWait sizes with
    | error ending =>
      exact absurd ⟨h.sendable a List.mem_cons_self, h.enough⟩ (check_error hcheck)
    | ok left =>
      show (play isWait a.tsUs left rows).2 = _
      rw [ih a.tsUs left ((playable_cons hle hcheck).mp h)]
      exact if_congr hafter.symm rfl rfl

/-! ## The merged traces -/

theorem mem_merged {a : TraceRow} :
    a ∈ merged packets events ↔ (∃ e ∈ events, .event e = a) ∨ ∃ p ∈ packets, .packet p = a := by
  rw [merged, List.mem_merge, List.mem_map, List.mem_map]

theorem length_merged : (merged packets events).length = events.length + packets.length := by
  rw [merged, List.length_merge, List.length_map, List.length_map]

theorem countP_merged : (merged packets events).countP TraceRow.isEvent = events.length := by
  have hevents : (events.map TraceRow.event).countP TraceRow.isEvent = events.length := by
    rw [List.countP_map]
    exact List.countP_eq_length.mpr fun _ _ => rfl
  have hpackets : (packets.map TraceRow.packet).countP TraceRow.isEvent = 0 := by
    rw [List.countP_map]
    exact List.countP_eq_zero.mpr fun _ _ h => Bool.false_ne_true h
  rw [merged, (List.merge_perm_append _).countP_eq, List.countP_append, hevents, hpackets, Nat.add_zero]

/-- A merge keeps the order of each side. -/
theorem sublist_merge {α : Type} (le : α → α → Bool) (xs ys : List α) :
    xs.Sublist (xs.merge ys le) ∧ ys.Sublist (xs.merge ys le) := by
  induction xs generalizing ys with
  | nil => simp
  | cons x xs ihx =>
    induction ys with
    | nil => simp
    | cons y ys ihy =>
      by_cases hle : le x y = true
      · rw [List.cons_merge_cons_pos le xs ys hle]
        exact ⟨(ihx (y :: ys)).1.cons_cons x, (ihx (y :: ys)).2.cons x⟩
      · rw [List.cons_merge_cons_neg le xs ys hle]
        exact ⟨ihy.1.cons y, ihy.2.cons_cons y⟩

theorem pairwise_merged : (merged packets events).Pairwise (fun a b => a.tsUs ≤ b.tsUs) ↔
    (packets.Pairwise fun p q => p.tsUs ≤ q.tsUs) ∧ events.Pairwise fun d e => d.tsUs ≤ e.tsUs := by
  constructor
  · intro h
    obtain ⟨hevents, hpackets⟩ := sublist_merge (fun a b : TraceRow => decide (a.tsUs ≤ b.tsUs))
      (events.map .event) (packets.map .packet)
    have hsorted := List.Pairwise.sublist hpackets h
    have hsorted' := List.Pairwise.sublist hevents h
    rw [List.pairwise_map] at hsorted hsorted'
    exact ⟨hsorted, hsorted'⟩
  · rintro ⟨hpackets, hevents⟩
    have hsorted : ((events.map TraceRow.event).merge (packets.map TraceRow.packet)
        fun a b => decide (a.tsUs ≤ b.tsUs)).Pairwise fun a b => decide (a.tsUs ≤ b.tsUs) = true := by
      refine List.pairwise_merge ?_ ?_ _ _ ?_ ?_
      · intro a b c hab hbc
        exact decide_eq_true (Int32.le_trans (of_decide_eq_true hab) (of_decide_eq_true hbc))
      · intro a b
        rw [Bool.or_eq_true, decide_eq_true_iff, decide_eq_true_iff]
        exact Int32.le_total _ _
      · exact List.pairwise_map.mpr (hevents.imp fun h => decide_eq_true h)
      · exact List.pairwise_map.mpr (hpackets.imp fun h => decide_eq_true h)
    exact hsorted.imp fun h => of_decide_eq_true h

/-! ## The files -/

/-- Induction on the rows of a table of two columns. -/
theorem gives_of_readRows {α : Type} {fromColumns : List Char → List Char → Except TraceError α}
    (rows : List α) (columns : α → List Char × List Char)
    (hcolumns : ∀ a ∈ rows, fromColumns (columns a).1 (columns a).2 = .ok a) :
    ∀ (n : ℕ) (r : CSVReader), r.columnNames.length = 2 → rows.length < n →
      r.readRows blockLen n = (rows.map fun a => [(columns a).1, (columns a).2], none) →
      Gives (readARow blockLen fromColumns) r rows := by
  induction rows with
  | nil =>
    intro n r hnames hn hread
    obtain ⟨n, rfl⟩ := Nat.exists_eq_succ_of_ne_zero (Nat.ne_of_gt hn)
    have hrow := CSVReader.readRows_nil hread
    rw [hnames] at hrow
    show readARow blockLen fromColumns r = _
    rw [readARow, show [[], []] = List.replicate 2 ([] : List Char) from rfl, hrow]
  | cons a rows ih =>
    intro n r hnames hn hread
    obtain ⟨n, rfl⟩ := Nat.exists_eq_succ_of_ne_zero (Nat.ne_of_gt (Nat.zero_lt_of_lt hn))
    obtain ⟨r', hrow, hsame, hmore⟩ := CSVReader.readRows_cons hread
    rw [hnames] at hrow
    refine ⟨r', ?_, ih (fun b hb => hcolumns b (List.mem_cons_of_mem _ hb)) n r' (hsame ▸ hnames)
      (Nat.lt_of_succ_lt_succ hn) hmore⟩
    have ha := hcolumns a List.mem_cons_self
    rw [readARow, show [[], []] = List.replicate 2 ([] : List Char) from rfl, hrow]
    simp only [List.getD_cons_zero, List.getD_cons_succ, ha]

/-- How a packet is written, and an event. -/
def Packet.columns (p : Packet) : List Char × List Char :=
  (Text.decimal p.tsUs.toInt, Text.decimal p.payloadLength.toInt)

def Event.columns (e : Event) : List Char × List Char :=
  (Text.decimal e.tsUs.toInt, e.eventDescription)

/-- A trace: the rows of the file, below its two columns. -/
structure Holds {α : Type} {names : List (List Char)} (f : Csv.TableFile blockLen names)
    (columns : α → List Char × List Char) (rows : List α) : Prop where
  regular : f.Regular
  values : f.values = rows.map fun a => [(columns a).1, (columns a).2]
  two : names.length = 2

/-- The header is read, and then the rows are those of the trace. -/
theorem Holds.gives {α : Type} {names : List (List Char)} {f : Csv.TableFile blockLen names}
    {columns : α → List Char × List Char} {rows : List α} (h : Holds f columns rows)
    {fromColumns : List Char → List Char → Except TraceError α}
    (hcolumns : ∀ a ∈ rows, fromColumns (columns a).1 (columns a).2 = .ok a) :
    ∃ r, readHeader blockLen f.reader names = .ok r ∧ Gives (readARow blockLen fromColumns) r rows := by
  obtain ⟨r, hr, hnames, hrows⟩ := f.readHeader
  have hlength : rows.length = f.rows.length := by
    have hvalues := congrArg List.length h.values
    rw [Csv.TableFile.values, List.length_map, List.length_map] at hvalues
    exact hvalues.symm
  refine ⟨r, by rw [readHeader, hr], gives_of_readRows rows columns hcolumns (f.rows.length + 2) r
    (hnames ▸ h.two) (by omega) ?_⟩
  rw [hrows _ (Nat.le_refl _), f.expectedRows_of_regular h.regular, h.values]

theorem Packet.fromColumns_columns (p : Packet) :
    PacketTraceReader.fromColumns p.columns.1 p.columns.2 = .ok p := by
  simp only [PacketTraceReader.fromColumns, Packet.columns, number,
    ControlMessageReceiver.stoi_decimal, bind, Except.bind, pure, Except.pure]

theorem Event.fromColumns_columns (e : Event) :
    EventTraceReader.fromColumns e.columns.1 e.columns.2 = .ok e := by
  simp only [EventTraceReader.fromColumns, Event.columns, number,
    ControlMessageReceiver.stoi_decimal, bind, Except.bind, pure, Except.pure]

/-- Both traces are sorted, every packet has a length, and the queue is seen empty once for each event
if the runner waits for that. -/
structure Performable (isWait : Bool) (sizes : List Int32) (packets : List Packet)
    (events : List Event) : Prop where
  packetsSorted : packets.Pairwise fun p q => p.tsUs ≤ q.tsUs
  eventsSorted : events.Pairwise fun d e => d.tsUs ≤ e.tsUs
  lengths : ∀ p ∈ packets, 0 < p.payloadLength
  readings : isWait = true → events.length ≤ sizes.count 0

theorem playable_merged (hpackets : ∀ p ∈ packets, 0 ≤ p.tsUs) (hevents : ∀ e ∈ events, 0 ≤ e.tsUs) :
    Playable isWait 0 sizes (merged packets events) ↔ Performable isWait sizes packets events := by
  constructor
  · intro h
    obtain ⟨hp, he⟩ := pairwise_merged.mp h.sorted
    exact ⟨hp, he, fun p hmem => h.sendable (.packet p) (mem_merged.mpr (.inr ⟨p, hmem, rfl⟩)),
      fun hwait => countP_merged ▸ h.enough hwait⟩
  · intro h
    refine ⟨fun a ha => ?_, pairwise_merged.mpr ⟨h.packetsSorted, h.eventsSorted⟩, fun a ha => ?_,
      fun hwait => by rw [countP_merged]; exact h.readings hwait⟩
    · obtain ⟨e, he, rfl⟩ | ⟨p, hp, rfl⟩ := mem_merged.mp ha
      · exact hevents e he
      · exact hpackets p hp
    · obtain ⟨e, he, rfl⟩ | ⟨p, hp, rfl⟩ := mem_merged.mp ha
      · trivial
      · exact h.lengths p hp

/-- Two packets, with a column that is not read. -/
def packetFile : Csv.TableFile 32 PacketTraceReader.columns where
  mark := []
  lines := ["Length,Source,TimeUS".toList, "3,w,5".toList, "1,\"a,b\",9".toList]
  last := []
  header := ⟨[⟨"Length".toList, false, by decide, by decide⟩,
    ⟨"Source".toList, false, by decide, by decide⟩,
    ⟨"TimeUS".toList, false, by decide, by decide⟩], false, by decide⟩
  rows := [⟨[⟨['3'], false, by decide, by decide⟩, ⟨['w'], false, by decide, by decide⟩,
      ⟨['5'], false, by decide, by decide⟩], false, by decide⟩,
    ⟨[⟨['1'], false, by decide, by decide⟩, ⟨"a,b".toList, true, by decide, by decide⟩,
      ⟨['9'], false, by decide, by decide⟩], false, by decide⟩]
  memory := fun _ => 'x'
  blockLen_le := by decide
  nodup := by decide
  once := by decide
  allLines := by decide
  fits := by decide
  isMark := .inr ⟨rfl, by decide⟩
  closed := .inl rfl

/-- One event, at the time of the first packet. -/
def eventFile : Csv.TableFile 32 EventTraceReader.columns where
  mark := []
  lines := ["TimeUS,Event".toList, "5,\"3-navermap\"".toList]
  last := []
  header := ⟨[⟨"TimeUS".toList, false, by decide, by decide⟩,
    ⟨"Event".toList, false, by decide, by decide⟩], false, by decide⟩
  rows := [⟨[⟨['5'], false, by decide, by decide⟩,
    ⟨"3-navermap".toList, true, by decide, by decide⟩], false, by decide⟩]
  memory := fun _ => 'x'
  blockLen_le := by decide
  nodup := by decide
  once := by decide
  allLines := by decide
  fits := by decide
  isMark := .inr ⟨rfl, by decide⟩
  closed := .inl rfl

end TraceRunner
end Linux
end VirtualConnection
