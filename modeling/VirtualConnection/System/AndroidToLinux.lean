import VirtualConnection.Android.Sending
import VirtualConnection.Linux.ReceiverLoop

/-!
# System.AndroidToLinux

Both peers, for the direction from Android to Linux. Android is `Sender` with one `ClientAdapter` for
each adapter, which the other threads may suspend, put to sleep or disconnect at any time; Linux is
one run of `receiver_loop` for each connection. When a connection is closed, what Linux has not read
yet is gone. What a failing `sendImpl` leaves behind is less than a frame, and nothing follows it: it
is left out.

Android recycles a segment as soon as `send` has accepted it, Linux asks for no retransmission, and
neither side waits for what is in flight before it closes its socket (`waitReceiving` is commented
out, and so is the wait for the peer in `disconnect_internal`). So nothing is lost exactly as long as
no connection is closed on unread frames, and the loop throws none away.
-/

namespace VirtualConnection
namespace AndroidToLinux

open Bytes Linux Android

/-- The frames that `send` has accepted on a connection, and the loop that reads them. -/
structure Connection where
  sent : List Android.Segment
  receiver : ReceiverLoop

namespace Connection

def read (c : Connection) : ℕ := c.receiver.pos / segmentDataSize

def unread (c : Connection) : List Android.Segment := c.sent.drop c.read

end Connection

/-- `enqueued` has what the loops of closed connections have enqueued. -/
structure World where
  sender : Sender
  adapters : ℕ → ClientAdapter
  connections : ℕ → Option Connection
  enqueued : List (SegQueueType × Linux.Segment)

def init : World :=
  ⟨.init, fun _ => ⟨.kDisconnected, false, false, .kClosed⟩, fun _ => none, []⟩

namespace World

def transmit (w : World) (a : ℕ) : Option Android.Segment → Except Stop World
  | none => .ok w
  | some segment =>
    match w.connections a with
    | none => .error .waiting
    | some c =>
      .ok { w with
        connections := Function.update w.connections a
          (some { c with sent := c.sent ++ [segment] }) }

/-- A turn of the sender thread of adapter `a`. -/
def turn (w : World) (a : ℕ) (impl : Int) : Except Stop World :=
  match w.sender.turn a (w.adapters a) impl with
  | .error e => .error e
  | .ok (sender, adapter, sent) =>
    ({ w with
      sender := sender
      adapters := Function.update w.adapters a adapter } : World).transmit a sent

/-- `sendAckSegment` by the receiver thread of adapter `a`. -/
def ack (w : World) (a : ℕ) (received : Android.Segment) (impl : Int) : Except Stop World :=
  if received.getSeqNo % 50 ≠ 0 then .ok w
  else
    let r := (w.adapters a).send impl
    ({ w with adapters := Function.update w.adapters a r.2 } : World).transmit a
      (if r.1 < 0 then none else some (ackSegment received))

/-- Both sides have opened their sockets. -/
def connect (w : World) (a : ℕ) (socket : ServerSocket) (errno : ℕ) : Except Stop World :=
  match w.connections a with
  | some _ => .error .waiting
  | none =>
    .ok { w with
      adapters := Function.update w.adapters a { w.adapters a with mClientSocket := .kOpened }
      connections := Function.update w.connections a (some ⟨[], .start socket errno⟩) }

/-- A pass of the loop that reads the connection of adapter `a`. -/
def receive (w : World) (a : ℕ) (l : ReceiverLoop.Label) : Except Stop World :=
  match w.connections a with
  | none => .error .waiting
  | some c =>
    match ReceiverLoop.step c.sent c.receiver l with
    | .error e => .error e
    | .ok receiver =>
      .ok { w with
        connections := Function.update w.connections a (some { c with receiver := receiver }) }

/-- One of the sides closes the connection. -/
def close (w : World) (a : ℕ) : Except Stop World :=
  match w.connections a with
  | none => .error .waiting
  | some c =>
    .ok { w with
      adapters := Function.update w.adapters a { w.adapters a with mClientSocket := .kClosed }
      connections := Function.update w.connections a none
      enqueued := w.enqueued ++ c.receiver.enqueued }

def onSender (w : World) : Except Stop Sender → Except Stop World
  | .error e => .error e
  | .ok sender => .ok { w with sender := sender }

end World

inductive Label where
  | reserve (data : Android.Packet) (isControl : Bool)
  | push (i : ℕ) (sec usec : UInt32)
  | popFailedSegment (a : ℕ)
  | dequeue (a : ℕ)
  | turn (a : ℕ) (impl : Int)
  | ack (a : ℕ) (received : Android.Segment) (impl : Int)
  /-- Another thread works on the adapter. -/
  | adapter (a : ℕ) (state : ClientAdapterState) (isDisconnectingOnPurpose isSuspended : Bool)
  /-- Android closes its socket, and Linux may go on reading. -/
  | shut (a : ℕ)
  | connect (a : ℕ) (socket : ServerSocket) (errno : ℕ)
  | receive (a : ℕ) (reception : Reception)
  /-- `is_loop_enabled` is false at the head of the loop. -/
  | disable (a : ℕ)
  | close (a : ℕ)

def step (w : World) : Label → Except Stop World
  | .reserve data isControl => .ok { w with sender := w.sender.reserve data isControl }
  | .push i sec usec => w.onSender (w.sender.push i sec usec)
  | .popFailedSegment a => w.onSender (w.sender.popFailedSegment a)
  | .dequeue a => w.onSender (w.sender.dequeue a)
  | .turn a impl => w.turn a impl
  | .ack a received impl => w.ack a received impl
  | .adapter a state isDisconnectingOnPurpose isSuspended =>
    .ok { w with
      adapters := Function.update w.adapters a
        ⟨state, isDisconnectingOnPurpose, isSuspended, (w.adapters a).mClientSocket⟩ }
  | .shut a =>
    .ok { w with
      adapters := Function.update w.adapters a { w.adapters a with mClientSocket := .kClosed } }
  | .connect a socket errno => w.connect a socket errno
  | .receive a reception => w.receive a (.pass reception)
  | .disable a => w.receive a .disable
  | .close a => w.close a

/-! ## The property -/

/-- What `receiver_loop` has enqueued on any connection. -/
def World.Arrived (w : World) (e : SegQueueType × Linux.Segment) : Prop :=
  e ∈ w.enqueued ∨ ∃ a c, w.connections a = some c ∧ e ∈ c.receiver.enqueued

def Numbered (t : SegSeqNumType) (n : Int32) (e : SegQueueType × Linux.Segment) : Prop :=
  e.1 = (match t with | .kSNData => .kSQRecvData | .kSNControl => .kSQRecvControl) ∧
    e.2.seqNo = n.toUInt32

/-- The number is enqueued at Linux. -/
def World.Delivered (w : World) (t : SegSeqNumType) (n : Int32) : Prop :=
  ∃ e, w.Arrived e ∧ Numbered t n e

/-- A frame with the number is in flight on a connection that is open. -/
def World.InFlight (w : World) (t : SegSeqNumType) (n : Int32) : Prop :=
  ∃ a c x, w.connections a = some c ∧ x ∈ c.unread ∧ x.Carries t n

/-- Every number that was assigned and enqueued is at Linux, in flight or held by Android. -/
def NoLoss (w : World) : Prop :=
  ∀ t n, w.sender.Enqueued t n → w.Delivered t n ∨ w.InFlight t n ∨ w.sender.Holds t n

/-- No connection is closed on unread frames except acknowledgements, the loop of Linux reads no other
frame without enqueuing it, and the numbers of a stream stay below `2 ^ 31`. -/
def Kept (w : World) : Label → Prop
  | .reserve data isControl => 0 ≤ data.numOfSegments.toInt ∧
      (w.sender.mNextSendSeqNo (seqNumType isControl)).toInt + data.numOfSegments.toInt < 2 ^ 31
  | .receive a reception => ∀ c ∈ w.connections a,
      ReceiverLoop.Careful c.sent c.receiver (.pass reception)
  | .close a => ∀ c ∈ w.connections a, ∀ x ∈ c.unread, x.isAck = true
  | _ => True

instance (w : World) : ∀ l, Decidable (Kept w l)
  | .reserve data isControl => inferInstanceAs (Decidable (0 ≤ data.numOfSegments.toInt ∧
      (w.sender.mNextSendSeqNo (seqNumType isControl)).toInt + data.numOfSegments.toInt < 2 ^ 31))
  | .receive a reception => inferInstanceAs (Decidable (∀ c ∈ w.connections a,
      ReceiverLoop.Careful c.sent c.receiver (.pass reception)))
  | .close a => inferInstanceAs (Decidable (∀ c ∈ w.connections a, ∀ x ∈ c.unread, x.isAck = true))
  | .push .. | .popFailedSegment _ | .dequeue _ | .turn .. | .ack .. | .adapter .. | .shut _
  | .connect .. | .disable _ => .isTrue trivial

/-! ## What a connection has -/

theorem numbered_of_carries {x : Android.Segment} {t : SegSeqNumType} {n : Int32}
    (h : x.Carries t n) : (readHeader x).isAck = false ∧
      Numbered t n (recvQueueType (readHeader x), readHeader x) := by
  obtain ⟨hack, rfl, rfl⟩ := h
  refine ⟨hack, ?_, ?_⟩
  · have hcontrol : (readHeader x).isControl = x.isControl := rfl
    unfold recvQueueType Android.Segment.numType seqNumType
    rw [hcontrol]
    cases x.isControl <;> rfl
  · exact (UInt32.toUInt32_toInt32 _).symm

namespace Connection

/-- The number is in flight on the connection, or its loop has enqueued it. -/
def Has (c : Connection) (t : SegSeqNumType) (n : Int32) : Prop :=
  (∃ e ∈ c.receiver.enqueued, Numbered t n e) ∨ ∃ x ∈ c.unread, x.Carries t n

/-- What the loop has read is what it has enqueued. -/
def Sound (c : Connection) : Prop := ReceiverLoop.Sound c.sent c.receiver

variable {c : Connection} {t : SegSeqNumType} {n : Int32}

theorem Sound.read_le (h : c.Sound) : c.read ≤ c.sent.length := by
  have hbound := ReceiverLoop.Sound.bound h
  rw [ReceiverLoop.stream, length_flatMap_area] at hbound
  exact Nat.div_le_of_le_mul hbound

theorem has_append (h : c.Sound) {x : Android.Segment} (hn : c.Has t n ∨ x.Carries t n) :
    Has { c with sent := c.sent ++ [x] } t n := by
  have hunread : unread { c with sent := c.sent ++ [x] } = c.unread ++ [x] :=
    List.drop_append_of_le_length h.read_le
  unfold Has
  rw [hunread]
  rcases hn with (he | ⟨y, hy, hyn⟩) | hn
  · exact .inl he
  · exact .inr ⟨y, List.mem_append_left _ hy, hyn⟩
  · exact .inr ⟨x, List.mem_append_right _ (by simp), hn⟩

theorem has_receive {receiver : ReceiverLoop} (h : Sound { c with receiver := receiver })
    (hmono : ∀ e ∈ c.receiver.enqueued, e ∈ receiver.enqueued) (hn : c.Has t n) :
    Has { c with receiver := receiver } t n := by
  rcases hn with ⟨e, he, hen⟩ | ⟨x, hx, hxn⟩
  · exact .inl ⟨e, hmono e he, hen⟩
  · have hx' : x ∈ c.sent := List.mem_of_mem_drop hx
    rw [← List.take_append_drop (receiver.pos / segmentDataSize) c.sent] at hx'
    rcases List.mem_append.mp hx' with hread | hunread
    · obtain ⟨hack, hnum⟩ := numbered_of_carries hxn
      exact .inl ⟨_, ReceiverLoop.Sound.enqueued h hread hack, hnum⟩
    · exact .inr ⟨x, hunread, hxn⟩

end Connection

def World.Out (w : World) (t : SegSeqNumType) (n : Int32) : Prop :=
  (∃ e ∈ w.enqueued, Numbered t n e) ∨ ∃ a c, w.connections a = some c ∧ c.Has t n

variable {w w' : World} {t : SegSeqNumType} {n : Int32}

theorem World.Out.cases (h : w.Out t n) : w.Delivered t n ∨ w.InFlight t n := by
  rcases h with ⟨e, he, hn⟩ | ⟨a, c, hc, ⟨e, he, hn⟩ | ⟨x, hx, hn⟩⟩
  · exact .inl ⟨e, .inl he, hn⟩
  · exact .inl ⟨e, .inr ⟨a, c, hc, he⟩, hn⟩
  · exact .inr ⟨a, c, x, hc, hx, hn⟩

theorem World.Out.update {a : ℕ} {c c' : Connection} (h : w.Out t n)
    (ha : w.connections a = some c) (hc : c.Has t n → c'.Has t n) :
    ({ w with connections := Function.update w.connections a (some c') } : World).Out t n := by
  rcases h with he | ⟨b, d, hb, hn⟩
  · exact .inl he
  · by_cases hab : b = a
    · subst hab
      obtain rfl := Option.some.inj (ha.symm.trans hb)
      exact .inr ⟨b, c', by simp, hc hn⟩
    · exact .inr ⟨b, d, by simpa [hab] using hb, hn⟩

/-! ## The invariant -/

structure Safe (w : World) : Prop where
  conserves : w.sender.Conserves w.Out
  sound : ∀ a c, w.connections a = some c → c.Sound

theorem safe_init : Safe init := ⟨Sender.conserves_init, nofun⟩

theorem Safe.noLoss (h : Safe w) : NoLoss w := by
  intro t n hn
  rcases h.conserves.holds hn with hout | hheld
  · exact hout.cases.elim .inl fun hf => .inr (.inl hf)
  · exact .inr (.inr hheld)

theorem sound_update {connections : ℕ → Option Connection} {a : ℕ} {c' : Option Connection}
    (h : ∀ b d, connections b = some d → d.Sound) (hc' : ∀ d, c' = some d → d.Sound) (b : ℕ)
    (d : Connection) (hb : Function.update connections a c' b = some d) : d.Sound := by
  by_cases hab : b = a
  · subst hab
    exact hc' d (by simpa using hb)
  · exact h b d (by simpa [hab] using hb)

theorem Safe.update {a : ℕ} {c c' : Connection} (h : Safe w) (ha : w.connections a = some c)
    (hc : ∀ t n, c.Has t n → c'.Has t n) (hs : c'.Sound) :
    Safe { w with connections := Function.update w.connections a (some c') } where
  conserves := h.conserves.mono fun t n hn => hn.update ha (hc t n)
  sound := sound_update h.sound fun _ hd => Option.some.inj hd ▸ hs

theorem Safe.adapters (h : Safe w) (adapters : ℕ → ClientAdapter) :
    Safe { w with adapters := adapters } :=
  ⟨h.conserves, h.sound⟩

theorem Safe.onSender (h : Safe w) {r : Except Stop Sender}
    (hr : ∀ sender, r = .ok sender → sender.Conserves w.Out) (hs : w.onSender r = .ok w') :
    Safe w' := by
  unfold World.onSender at hs
  split at hs
  · cases hs
  · next sender =>
    cases hs
    exact ⟨hr sender rfl, h.sound⟩

theorem safe_transmit {a : ℕ} {sent : Option Android.Segment} (hs : w.transmit a sent = .ok w')
    (hc : w.sender.Conserves fun t n => w.Out t n ∨ ∃ x, sent = some x ∧ x.Carries t n)
    (hsound : ∀ a c, w.connections a = some c → c.Sound) : Safe w' := by
  unfold World.transmit at hs
  split at hs
  · cases hs
    exact ⟨hc.mono fun t n hn => hn.resolve_right (by simp), hsound⟩
  next segment =>
  split at hs
  · cases hs
  next c ha =>
  cases hs
  have hcs := hsound a c ha
  refine ⟨hc.mono fun t n hn => ?_, sound_update hsound fun d hd => ?_⟩
  · rcases hn with hout | ⟨x, hx, hn⟩
    · exact hout.update ha fun hn => Connection.has_append hcs (.inl hn)
    · obtain rfl := Option.some.inj hx
      exact .inr ⟨a, _, by simp, Connection.has_append hcs (.inr hn)⟩
  · obtain rfl := Option.some.inj hd
    exact ReceiverLoop.Sound.append hcs segment

theorem safe_turn {a : ℕ} {impl : Int} (h : Safe w) (hs : w.turn a impl = .ok w') : Safe w' := by
  unfold World.turn at hs
  split at hs
  · cases hs
  · next sender adapter sent hturn => exact safe_transmit hs (h.conserves.turn hturn) h.sound

theorem safe_ack {a : ℕ} {received : Android.Segment} {impl : Int} (h : Safe w)
    (hs : w.ack a received impl = .ok w') : Safe w' := by
  unfold World.ack at hs
  split at hs
  · cases hs
    exact h
  · exact safe_transmit hs (h.conserves.mono fun t n => .inl) h.sound

theorem enqueued_subset {frames : List (Area segmentDataSize)} {s s' : ReceiverLoop}
    {l : ReceiverLoop.Label} (h : ReceiverLoop.step frames s l = .ok s') :
    ∀ e ∈ s.enqueued, e ∈ s'.enqueued := by
  intro e he
  cases l with
  | pass reception =>
    obtain ⟨-, _, _, -, -, -, -, hend⟩ := ReceiverLoop.pass_ok h
    rcases hend with ⟨-, -, hq⟩ | ⟨-, -, hq⟩ | ⟨-, -, hq⟩
    · rwa [hq]
    · rwa [hq]
    · rw [hq]
      exact List.mem_append_left _ he
  | disable => cases h; exact he
  | close => cases h; exact he

theorem safe_receive {a : ℕ} {l : ReceiverLoop.Label} (h : Safe w)
    (hk : ∀ c ∈ w.connections a, ReceiverLoop.Careful c.sent c.receiver l)
    (hs : w.receive a l = .ok w') : Safe w' := by
  unfold World.receive at hs
  split at hs
  · cases hs
  next c ha =>
  split at hs
  · cases hs
  next receiver hstep =>
  cases hs
  have hsound : Connection.Sound { c with receiver := receiver } :=
    ReceiverLoop.step_sound l (h.sound a c ha) (hk c ha) hstep
  exact h.update ha (fun t n => Connection.has_receive hsound (enqueued_subset hstep)) hsound

theorem safe_connect {a : ℕ} {socket : ServerSocket} {errno : ℕ} (h : Safe w)
    (hs : w.connect a socket errno = .ok w') : Safe w' := by
  unfold World.connect at hs
  split at hs
  · cases hs
  next ha =>
  cases hs
  refine ⟨h.conserves.mono fun t n hn => ?_, sound_update h.sound fun d hd => ?_⟩
  · rcases hn with he | ⟨b, d, hb, hn⟩
    · exact .inl he
    · have hab : b ≠ a := by
        rintro rfl
        simp [ha] at hb
      exact .inr ⟨b, d, by simpa [hab] using hb, hn⟩
  · obtain rfl := Option.some.inj hd
    exact ReceiverLoop.sound_start socket errno

/-- A connection is closed: what has arrived stays. -/
theorem safe_close {a : ℕ} (h : Safe w) (hk : Kept w (.close a)) (hs : w.close a = .ok w') :
    Safe w' := by
  unfold World.close at hs
  split at hs
  · cases hs
  next c ha =>
  cases hs
  refine ⟨h.conserves.mono fun t n hn => ?_, sound_update h.sound nofun⟩
  · rcases hn with ⟨e, he, hn⟩ | ⟨b, d, hb, hn⟩
    · exact .inl ⟨e, List.mem_append_left _ he, hn⟩
    · by_cases hab : b = a
      · subst hab
        obtain rfl := Option.some.inj (ha.symm.trans hb)
        rcases hn with ⟨e, he, hn⟩ | ⟨x, hx, hn⟩
        · exact .inl ⟨e, List.mem_append_right _ he, hn⟩
        · have hack := hk c ha x hx
          rw [hn.1] at hack
          cases hack
      · exact .inr ⟨b, d, by simpa [hab] using hb, hn⟩

theorem step_safe (w : World) (l : Label) (w' : World) (h : Safe w) (hk : Kept w l)
    (hs : step w l = .ok w') : Safe w' := by
  cases l with
  | reserve data isControl =>
    cases hs
    exact ⟨h.conserves.reserve hk.1 hk.2, h.sound⟩
  | push i sec usec => exact h.onSender (fun _ hr => h.conserves.push hr) hs
  | popFailedSegment a => exact h.onSender (fun _ hr => h.conserves.popFailedSegment hr) hs
  | dequeue a => exact h.onSender (fun _ hr => h.conserves.dequeue hr) hs
  | turn a impl => exact safe_turn h hs
  | ack a received impl => exact safe_ack h hs
  | adapter a state isDisconnectingOnPurpose isSuspended => cases hs; exact h.adapters _
  | shut a => cases hs; exact h.adapters _
  | connect a socket errno => exact safe_connect h hs
  | receive a reception => exact safe_receive h hk hs
  | disable a => exact safe_receive (l := .disable) h (fun _ _ => trivial) hs
  | close a => exact safe_close h hk hs

/-- **Nothing is lost on the way to Linux** in the runs whose steps all meet the condition. -/
theorem no_loss_upstream {ls : List Label} (hC : Runs.AllSteps step Kept init ls)
    (hr : Runs.Reached step init ls w) : NoLoss w :=
  (Runs.throughout_of_allSteps step_safe safe_init hC hr).noLoss

def oneByte : Android.Packet := ⟨[0], by decide, by decide⟩

/-- Data 0 goes out on adapter 0. -/
def sendOne : List Label :=
  [.connect 0 ⟨.tcp, .kOpened, 5⟩ 0, .adapter 0 .kActive false false, .reserve oneByte false,
    .push 0 0 0, .dequeue 0, .turn 0 segmentDataSize]

/-- Linux reads it before the connection is closed. -/
def receivedFirst : List Label :=
  sendOne ++ [.receive 0 ⟨.zero, .kActive, .ready, [.moved segmentDataSize]⟩, .close 0]

theorem no_loss_receivedFirst : ∃ w, Runs.Reached step init receivedFirst w ∧
    w.enqueued.length = 1 ∧ NoLoss w := by
  obtain ⟨w, hr, hlen⟩ : ∃ w, Runs.run step init receivedFirst = .ok w ∧ w.enqueued.length = 1 :=
    Runs.exists_run_of_view (fun w : World => w.enqueued.length) (by decide +kernel)
  exact ⟨w, .of_run hr, hlen, no_loss_upstream (by decide +kernel) (.of_run hr)⟩

/-- The connection is closed, and data 0 is nowhere. -/
theorem loss_closedFirst : ∃ w, Runs.Reached step init (sendOne ++ [.close 0]) w ∧
    w.sender.Enqueued .kSNData 0 ∧ ¬ NoLoss w := by
  obtain ⟨w, hr, hview⟩ : ∃ w, Runs.run step init (sendOne ++ [.close 0]) = .ok w ∧
      (decide (w.sender.Enqueued .kSNData 0), w.enqueued.length,
        (w.sender.queues .kSNData).mQueue.length, (w.sender.queues .kSNData).mPendingQueue.length,
        w.sender.mFailedSendingQueue.length) = (true, 0, 0, 0, 0) :=
    Runs.exists_run_of_view (fun w : World => (decide (w.sender.Enqueued .kSNData 0),
      w.enqueued.length, (w.sender.queues .kSNData).mQueue.length,
      (w.sender.queues .kSNData).mPendingQueue.length,
      w.sender.mFailedSendingQueue.length)) (by decide +kernel)
  have hconnections : ∀ a, (w.connections a).isSome = false := fun a =>
    Runs.view_of_run (fun w : World => (w.connections a).isSome) hr (by cases a <;> rfl)
  have hhands : ∀ a, (w.sender.hands a).isSome = false := fun a =>
    Runs.view_of_run (fun w : World => (w.sender.hands a).isSome) hr (by cases a <;> rfl)
  simp only [Prod.mk.injEq, List.length_eq_zero_iff] at hview
  obtain ⟨henq, harrived, hqueue, hpending, hfailed⟩ := hview
  have henq' := of_decide_eq_true henq
  refine ⟨w, .of_run hr, henq', fun hno => ?_⟩
  have hnone : ∀ a c, w.connections a ≠ some c := by
    intro a c hc
    simpa [hc] using hconnections a
  rcases hno .kSNData 0 henq' with ⟨e, he | ⟨a, c, hc, -⟩, -⟩ | ⟨a, c, x, hc, -⟩ | hheld
  · simp [harrived] at he
  · exact hnone a c hc
  · exact hnone a c hc
  · rcases hheld with ⟨x, hx, -⟩ | ⟨x, hx, -⟩ | ⟨x, hx, -⟩ | ⟨a, x, hx, -⟩
    · simp [hqueue] at hx
    · simp [hpending] at hx
    · simp [hfailed] at hx
    · simpa [hx] using hhands a

end AndroidToLinux
end VirtualConnection
