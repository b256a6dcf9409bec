import VirtualConnection.Android.Receiving
import VirtualConnection.Linux.Holding

/-!
# System.LinuxToAndroid

Both peers, for the direction from Linux to Android. Linux is `Traffic`: callers, sender threads on
any number of adapters, and the rest of its threads. Each adapter has a connection, a queue of the
bytes that its `::send` calls got rid of; a connection may lose frames, and all of its bytes when it
is closed. Android reads frames into its receive queues, and its control messages come back in order,
at any later time.

A number that Linux has enqueued is received or still held (`NoLoss`). This rests on the ownership of
the segments: a QueueStatus must not acknowledge a segment that is about to be sent again, and no
frame may follow a truncated one. Numbers must not come round, which they do after `2 ^ 32` segments.
-/

namespace VirtualConnection
namespace LinuxToAndroid

open Bytes Linux Android

structure World where
  linux : Traffic
  connections : ℕ → List UInt8
  android : Receiver
  upstream : List ControlMessage

def init : World := ⟨.init, fun _ => [], .init, []⟩

/-- The label is a step of a Linux thread that sends no frame and receives no control message. -/
def isInternal : Traffic.Label → Bool
  | .transmit .. => false
  | .queueStatus .. => false
  | .retransmit .. => false
  | _ => true

/-- The parts of a control message that `std::stoul` and `std::stoi` read on the other side. -/
def controlLabel : ControlMessage → Traffic.Label
  | .retransmit segType seqNoStart seqNoEnd =>
    .retransmit segType seqNoStart.toUInt32 seqNoEnd.toUInt32
  | .queueStatus control data => .queueStatus control.toUInt32 data.toUInt32

/-- The result of the pass: by `filed_iff_whole` the segment counts as sent when the kernel took the
whole frame. -/
def sendResult (accepted : ℕ) : SendResult := if accepted = segmentDataSize then .sent else .notSent

namespace World

def onLinux (w : World) (l : Traffic.Label) : Except Stop World :=
  match Traffic.step w.linux l with
  | .error e => .error e
  | .ok linux => .ok { w with linux := linux }

/-- `ServerAdapter::send` in pass number `k`, of whose frame the kernel takes `accepted` bytes. -/
def transmit (w : World) (k : ℕ) (sec usec : UInt32) (accepted : ℕ) : Except Stop World :=
  match w.linux.senders[k]?, w.linux.transmit k sec usec (sendResult accepted) with
  | some pass, .ok linux =>
    let frame := (w.linux.sm.heap pass.segmentToSend).stampMedia sec usec
    .ok { w with
      linux := linux
      connections := Function.update w.connections pass.adapter
        (w.connections pass.adapter ++ frame.data.1.take accepted) }
  | _, .error e => .error e
  | none, _ => .error .waiting

def receive (w : World) (adapter : ℕ) : Except Stop World :=
  if h : segmentDataSize ≤ (w.connections adapter).length then
    .ok { w with
      connections :=
        Function.update w.connections adapter ((w.connections adapter).drop segmentDataSize)
      android := w.android.receive
        ⟨(w.connections adapter).take segmentDataSize, List.length_take_of_le h⟩ }
  else .error .waiting

/-- The oldest control message gets to Linux. -/
def deliver (w : World) : Except Stop World :=
  match w.upstream with
  | [] => .error .waiting
  | message :: rest => ({ w with upstream := rest }).onLinux (controlLabel message)

end World

inductive Label where
  | linux (l : Traffic.Label)
  | transmit (k : ℕ) (sec usec : UInt32) (accepted : ℕ)
  /-- The connection of this adapter loses its frame number `i`. -/
  | lose (adapter i : ℕ)
  /-- The connection of this adapter is closed, and its bytes are lost. -/
  | close (adapter : ℕ)
  | receive (adapter : ℕ)
  | take (t : SegSeqNumType)
  | checkAndNotify (isSwitching isSwitchingAtSend isUnchanged : Bool)
  | deliver

def step (w : World) : Label → Except Stop World
  | .linux l => if isInternal l then w.onLinux l else .error .waiting
  | .transmit k sec usec accepted => w.transmit k sec usec accepted
  | .lose adapter i =>
    if segmentDataSize * (i + 1) ≤ (w.connections adapter).length then
      .ok { w with
        connections := Function.update w.connections adapter
          ((w.connections adapter).take (segmentDataSize * i) ++
            (w.connections adapter).drop (segmentDataSize * (i + 1))) }
    else .error .waiting
  | .close adapter => .ok { w with connections := Function.update w.connections adapter [] }
  | .receive adapter => w.receive adapter
  | .take t => .ok { w with android := w.android.take t }
  | .checkAndNotify isSwitching isSwitchingAtSend isUnchanged =>
    let r := w.android.checkAndNotifyQueueStatus isSwitching isSwitchingAtSend isUnchanged
    .ok { w with android := r.2, upstream := w.upstream ++ r.1 }
  | .deliver => w.deliver

/-! ## The property -/

/-- Every enqueued number is received in order, or a segment with it is on its way. -/
def NoLoss (w : World) : Prop :=
  ∀ t n, w.linux.Wrote t n → n.toNat < w.android.expected t ∨ w.linux.Holds t n

/-- The next control message frees no sent segment that Android does not have. -/
def FreesReceived (w : World) : Prop :=
  ∀ w', w.deliver = .ok w' → ∀ t, ∀ p ∈ w.linux.sm.mSentSegmentLists t,
    p ∉ w'.linux.sm.mSentSegmentLists t → (w.linux.sm.seqNo p).toNat < w.android.expected t

def reservation? : Traffic.Label → Option (Linux.Packet × Bool × UInt32 × UInt32)
  | .reserve data isControl sec usec => some (data, isControl, sec, usec)
  | _ => none

/-- The message acknowledges no segment that is about to be sent again. -/
def Answerable (s : Traffic) : ControlMessage → Prop
  | .retransmit .. => True
  | .queueStatus control data => s.NoCopyOut control.toUInt32 data.toUInt32

/-- No frame follows a truncated one, no QueueStatus acknowledges a segment that is in the failed
list or in the hand of a sender thread, and the numbers of a stream do not come round. -/
def Kept (w : World) : Label → Prop
  | .linux l => ∀ r ∈ reservation? l, ∀ t,
      (w.linux.reserve r.1 r.2.1 r.2.2.1 r.2.2.2).numSegments t < 2 ^ 32
  | .transmit k _ _ accepted => accepted = 0 ∨
      ∀ pass ∈ w.linux.senders[k]?, segmentDataSize ∣ (w.connections pass.adapter).length
  | .deliver => ∀ message ∈ w.upstream.head?, Answerable w.linux message
  | _ => True

instance (s : Traffic) : ∀ message, Decidable (Answerable s message)
  | .retransmit .. => .isTrue trivial
  | .queueStatus control data =>
    inferInstanceAs (Decidable (s.NoCopyOut control.toUInt32 data.toUInt32))

instance (w : World) : ∀ l, Decidable (Kept w l)
  | .linux l => inferInstanceAs (Decidable (∀ r ∈ reservation? l, ∀ t,
      (w.linux.reserve r.1 r.2.1 r.2.2.1 r.2.2.2).numSegments t < 2 ^ 32))
  | .transmit k _ _ accepted => inferInstanceAs (Decidable (accepted = 0 ∨
      ∀ pass ∈ w.linux.senders[k]?, segmentDataSize ∣ (w.connections pass.adapter).length))
  | .deliver =>
    inferInstanceAs (Decidable (∀ message ∈ w.upstream.head?, Answerable w.linux message))
  | .lose .. | .close _ | .receive _ | .take _ | .checkAndNotify .. => .isTrue trivial

/-! ## What the connections carry -/

/-- The header of the frame has a number that Linux enqueued for the stream. -/
def FromLinux (s : Traffic) (f : Android.Segment) : Prop :=
  s.Wrote f.numType f.getSeqNo.toUInt32

/-- Frames of Linux, and at most one truncated one. -/
def InFlight (s : Traffic) (bytes : List UInt8) : Prop :=
  ∃ (frames : List Android.Segment) (cut : List UInt8), bytes = frames.flatMap (fun f => f.1) ++ cut ∧
    cut.length < segmentDataSize ∧ ∀ f ∈ frames, FromLinux s f

theorem inFlight_nil (s : Traffic) : InFlight s [] := ⟨[], [], rfl, by decide, by simp⟩

theorem InFlight.mono {s s' : Traffic} {bytes : List UInt8} (h : InFlight s bytes)
    (hw : ∀ t n, s.Wrote t n → s'.Wrote t n) : InFlight s' bytes := by
  obtain ⟨frames, cut, hb, hc, hf⟩ := h
  exact ⟨frames, cut, hb, hc, fun f hf' => hw _ _ (hf f hf')⟩

theorem InFlight.append {s : Traffic} {bytes : List UInt8} {f : Android.Segment} {accepted : ℕ}
    (h : InFlight s bytes) (hf : FromLinux s f)
    (hk : accepted = 0 ∨ segmentDataSize ∣ bytes.length) :
    InFlight s (bytes ++ f.1.take accepted) := by
  obtain ⟨frames, cut, rfl, hc, hfs⟩ := h
  rcases hk with rfl | hdvd
  · exact ⟨frames, cut, by simp, hc, hfs⟩
  have hnil : cut = [] := by
    rw [List.length_append, length_flatMap_area] at hdvd
    have hdvd' := (Nat.dvd_add_right (Nat.dvd_mul_right _ _)).mp hdvd
    exact List.eq_nil_of_length_eq_zero (Nat.eq_zero_of_dvd_of_lt hdvd' hc)
  subst hnil
  have hlen : f.1.length = segmentDataSize := f.2
  by_cases ha : segmentDataSize ≤ accepted
  · refine ⟨frames ++ [f], [], ?_, by decide, fun g hg => ?_⟩
    · rw [List.take_of_length_le (by omega)]
      simp
    · rcases List.mem_append.mp hg with hg | hg
      · exact hfs g hg
      · exact List.mem_singleton.mp hg ▸ hf
  · refine ⟨frames, f.1.take accepted, by simp, ?_, hfs⟩
    rw [List.length_take]
    omega

theorem InFlight.read {s : Traffic} {bytes : List UInt8} (h : InFlight s bytes)
    (hlen : segmentDataSize ≤ bytes.length) :
    FromLinux s ⟨bytes.take segmentDataSize, List.length_take_of_le hlen⟩ ∧
      InFlight s (bytes.drop segmentDataSize) := by
  obtain ⟨frames, cut, rfl, hc, hfs⟩ := h
  cases frames with
  | nil => exact absurd hlen (by simpa using hc)
  | cons f frames =>
    have hf : f.1.length = segmentDataSize := f.2
    refine ⟨?_, frames, cut, ?_, hc, fun g hg => hfs g (by simp [hg])⟩
    · have he : (⟨_, List.length_take_of_le hlen⟩ : Android.Segment) = f := by
        refine Subtype.ext ?_
        show ((f :: frames).flatMap (fun f => f.1) ++ cut).take segmentDataSize = f.1
        rw [List.flatMap_cons, List.append_assoc]
        exact List.take_left' hf
      rw [he]
      exact hfs f (by simp)
    · rw [List.flatMap_cons, List.append_assoc]
      exact List.drop_left' hf

theorem InFlight.lose {s : Traffic} {bytes : List UInt8} {i : ℕ} (h : InFlight s bytes)
    (hi : segmentDataSize * (i + 1) ≤ bytes.length) :
    InFlight s (bytes.take (segmentDataSize * i) ++ bytes.drop (segmentDataSize * (i + 1))) := by
  obtain ⟨frames, cut, rfl, hc, hfs⟩ := h
  have hlt : i < frames.length := by
    rw [List.length_append, length_flatMap_area] at hi
    by_contra hge
    have := Nat.mul_le_mul_left segmentDataSize (not_lt.mp hge)
    rw [Nat.mul_succ] at hi
    omega
  have hsplit : frames = frames.take i ++ frames[i] :: frames.drop (i + 1) := by
    rw [List.getElem_cons_drop, List.take_append_drop]
  have hpre : ((frames.take i).flatMap fun f => f.1).length = segmentDataSize * i := by
    rw [length_flatMap_area, List.length_take_of_le hlt.le]
  refine ⟨frames.take i ++ frames.drop (i + 1), cut, ?_, hc, fun f hf => hfs f ?_⟩
  · have hbytes : frames.flatMap (fun f => f.1) = (frames.take i).flatMap (fun f => f.1) ++
        (frames[i].1 ++ (frames.drop (i + 1)).flatMap fun f => f.1) := by
      conv_lhs => rw [hsplit]
      rw [List.flatMap_append, List.flatMap_cons]
    have hf : frames[i].1.length = segmentDataSize := frames[i].2
    rw [hbytes, List.append_assoc, List.take_left' hpre, Nat.mul_succ, ← List.drop_drop,
      List.drop_left' hpre, List.append_assoc, List.drop_left' hf, List.flatMap_append,
      List.append_assoc]
  · rcases List.mem_append.mp hf with hf | hf
    · exact List.mem_of_mem_take hf
    · exact List.mem_of_mem_drop hf

/-! ## The invariant -/

structure Safe (w : World) : Prop where
  flowing : w.linux.Flowing
  small : ∀ t, w.linux.numSegments t < 2 ^ 32
  framable : w.linux.Framable
  flight : ∀ adapter, InFlight w.linux (w.connections adapter)
  knows : w.android.Knows w.linux.Wrote
  acknowledged : ∀ control data, .queueStatus control data ∈ w.upstream →
    control.toUInt32.toNat < w.android.expected .kSNControl ∧
      data.toUInt32.toNat < w.android.expected .kSNData
  noLoss : NoLoss w

theorem safe_init : Safe init where
  flowing := Traffic.flowing_init
  small := by intro t; cases t <;> decide
  framable := nofun
  flight := fun _ => inFlight_nil _
  knows := Receiver.knows_init
  acknowledged := nofun
  noLoss := by
    rintro t n ⟨w, hw, -⟩
    cases hw

variable {w w' : World}

/-- The frame of a pass carries the number it was written for. -/
theorem fromLinux_pass (h : Safe w) {pass : Pass} (hp : pass ∈ w.linux.senders) (sec usec : UInt32) :
    FromLinux w.linux ((w.linux.sm.heap pass.segmentToSend).stampMedia sec usec).data := by
  obtain ⟨x, hx, hst⟩ := h.flowing.intact.content _ (Traffic.inUse_pass hp)
  obtain ⟨hseq, hflag⟩ := (h.framable x hx).1.stampMedia sec usec
  rw [hst.stampMedia]
  refine ⟨x, hx, ?_, ?_⟩
  · show seqNumType (x.flag &&& kSegFlagControl != 0) =
      seqNumType (headerField (x.stampMedia sec usec).data 8 &&& kSegFlagControl != 0)
    rw [← hflag]
    rfl
  · show x.seqNo = (headerField (x.stampMedia sec usec).data 0).toInt32.toUInt32
    rw [UInt32.toUInt32_toInt32, ← hseq]
    rfl

/-- A step of Linux. A QueueStatus has to acknowledge only what has been received. -/
theorem safe_onLinux {l : Traffic.Label} (h : Safe w) (hl : Traffic.Unlent w.linux l)
    (hn : ∀ t, w'.linux.numSegments t < 2 ^ 32)
    (hack : ∀ control data, l = .queueStatus control data → ∀ t,
      (SegmentManager.lastSeqNo control data t).toNat < w.android.expected t)
    (hs : w.onLinux l = .ok w') : Safe w' := by
  unfold World.onLinux at hs
  split at hs
  · cases hs
  next linux hstep =>
  cases hs
  have hwrote : ∀ t n, w.linux.Wrote t n → linux.Wrote t n := fun t n hw => hw.step hstep
  refine ⟨Traffic.step_flowing _ _ _ h.flowing hl hstep, hn,
    Traffic.step_framable h.framable hstep, fun a => (h.flight a).mono hwrote,
    h.knows.mono hwrote, h.acknowledged, fun t n hw => ?_⟩
  rcases Traffic.step_wrote hstep hw with hw | hheld
  · rcases h.noLoss t n hw with hlt | hheld
    · exact .inl hlt
    · rcases Traffic.step_holds h.flowing.owned h.flowing.intact hheld hstep with
        hheld | ⟨control, data, rfl, hle⟩
      · exact .inr hheld
      · have hlast := hack control data rfl t
        exact .inl ((UInt32.le_iff_toNat_le.mp hle).trans_lt hlast)
  · exact .inr hheld

theorem small_onLinux {l : Traffic.Label} (h : Safe w)
    (hl : ∀ data isControl sec usec, l ≠ .reserve data isControl sec usec)
    (hs : w.onLinux l = .ok w') (t : SegSeqNumType) : w'.linux.numSegments t < 2 ^ 32 := by
  unfold World.onLinux at hs
  split at hs
  · cases hs
  next linux hstep =>
  cases hs
  rcases Traffic.numSegments_step hstep t with ⟨data, isControl, sec, usec, he⟩ | he
  · exact absurd he (hl _ _ _ _)
  · rw [he]
    exact h.small t

theorem safe_linux {l : Traffic.Label} (h : Safe w) (hk : Kept w (.linux l))
    (hs : step w (.linux l) = .ok w') : Safe w' := by
  simp only [step] at hs
  split at hs
  · next hint =>
    have hl : Traffic.Unlent w.linux l := by
      cases l <;> trivial
    refine safe_onLinux h hl (fun t => ?_) (fun control data he => ?_) hs
    · by_cases hr : ∃ data isControl sec usec, l = .reserve data isControl sec usec
      · obtain ⟨data, isControl, sec, usec, rfl⟩ := hr
        cases hs
        exact hk _ rfl t
      · exact small_onLinux h (fun data isControl sec usec he => hr ⟨_, _, _, _, he⟩) hs t
    · subst he
      simp [isInternal] at hint
  · cases hs

theorem safe_transmit {k : ℕ} {sec usec : UInt32} {accepted : ℕ} (h : Safe w)
    (hk : Kept w (.transmit k sec usec accepted)) (hs : w.transmit k sec usec accepted = .ok w') :
    Safe w' := by
  unfold World.transmit at hs
  split at hs
  · next pass linux hpass hlinux =>
    cases hs
    have hon : w.onLinux (.transmit k sec usec (sendResult accepted)) =
        .ok { w with linux := linux } := by
      simp only [World.onLinux, Traffic.step, hlinux]
    have hunlent : Traffic.Unlent w.linux (.transmit k sec usec (sendResult accepted)) := trivial
    have hsafe := safe_onLinux h hunlent (small_onLinux h (by simp) hon) (by simp) hon
    refine { hsafe with flight := fun a => ?_ }
    have hframe := fromLinux_pass h (List.mem_of_getElem? hpass) sec usec
    have hframe' : FromLinux linux
        ((w.linux.sm.heap pass.segmentToSend).stampMedia sec usec).data := by
      have hstep : Traffic.step w.linux (.transmit k sec usec (sendResult accepted)) = .ok linux :=
        hlinux
      exact hframe.step hstep
    by_cases ha : a = pass.adapter
    · subst ha
      simpa using (hsafe.flight pass.adapter).append hframe' (hk.imp id fun hd => hd pass hpass)
    · simpa [Function.update_of_ne ha] using hsafe.flight a
  · cases hs
  · cases hs

theorem safe_receive {adapter : ℕ} (h : Safe w) (hs : w.receive adapter = .ok w') : Safe w' := by
  unfold World.receive at hs
  split at hs
  · next hlen =>
    cases hs
    obtain ⟨hframe, hrest⟩ := (h.flight adapter).read hlen
    have hmax : ∀ t n, w.linux.Wrote t n → n.toNat + 1 < 2 ^ 32 := by
      intro t n hw
      have hlt := hw.lt (h.flowing.streams h.small t)
      have hsmall := h.small t
      omega
    obtain ⟨hknows, hmono⟩ := Receiver.knows_receive hmax h.knows hframe
    refine { h with flight := fun a => ?_, knows := hknows, acknowledged := ?_, noLoss := ?_ }
    · by_cases ha : a = adapter
      · subst ha
        simpa using hrest
      · simpa [Function.update_of_ne ha] using h.flight a
    · intro control data hm
      obtain ⟨hc, hd⟩ := h.acknowledged control data hm
      exact ⟨hc.trans_le (hmono _), hd.trans_le (hmono _)⟩
    · intro t n hw
      exact (h.noLoss t n hw).imp (fun hlt => hlt.trans_le (hmono t)) id
  · cases hs

theorem safe_deliver (h : Safe w) (hk : Kept w .deliver) (hs : w.deliver = .ok w') : Safe w' := by
  unfold World.deliver at hs
  split at hs
  · cases hs
  next message rest hup =>
  have hrest : Safe { w with upstream := rest } :=
    { h with
      acknowledged := fun control data hm =>
        h.acknowledged control data (hup ▸ List.mem_cons_of_mem _ hm) }
  have hunlent : Traffic.Unlent w.linux (controlLabel message) := by
    have hans := hk message (by rw [hup]; rfl)
    cases message with
    | retransmit segType seqNoStart seqNoEnd => trivial
    | queueStatus control data => exact hans
  refine safe_onLinux hrest hunlent (small_onLinux hrest ?_ hs) (fun control data he t => ?_) hs
  · cases message <;> simp [controlLabel]
  · cases message with
    | retransmit segType seqNoStart seqNoEnd => cases he
    | queueStatus c d =>
      cases he
      obtain ⟨hc, hd⟩ := h.acknowledged c d (hup ▸ List.mem_cons_self)
      cases t with
      | kSNData => exact hd
      | kSNControl => exact hc

theorem step_safe (w : World) (l : Label) (w' : World) (h : Safe w) (hk : Kept w l)
    (hs : step w l = .ok w') : Safe w' := by
  cases l with
  | linux l => exact safe_linux h hk hs
  | transmit k sec usec accepted => exact safe_transmit h hk hs
  | lose adapter i =>
    simp only [step] at hs
    split at hs
    · next hi =>
      cases hs
      refine { h with flight := fun a => ?_ }
      by_cases ha : a = adapter
      · subst ha
        simpa using (h.flight a).lose hi
      · simpa [Function.update_of_ne ha] using h.flight a
    · cases hs
  | close adapter =>
    cases hs
    refine { h with flight := fun a => ?_ }
    by_cases ha : a = adapter
    · subst ha
      simpa using inFlight_nil _
    · simpa [Function.update_of_ne ha] using h.flight a
  | receive adapter => exact safe_receive h hs
  | take t =>
    cases hs
    obtain ⟨hknows, he⟩ := Receiver.knows_take h.knows t
    refine { h with knows := hknows, acknowledged := ?_, noLoss := ?_ }
    · intro control data hm
      rw [he, he]
      exact h.acknowledged control data hm
    · intro t' n hw
      rw [he]
      exact h.noLoss t' n hw
  | checkAndNotify isSwitching isSwitchingAtSend isUnchanged =>
    cases hs
    have hq := w.android.check_queues isSwitching isSwitchingAtSend isUnchanged
    have he : ∀ t, (w.android.checkAndNotifyQueueStatus isSwitching isSwitchingAtSend
        isUnchanged).2.expected t = w.android.expected t := by
      intro t
      rw [Receiver.expected, hq]
      rfl
    refine { h with knows := ?_, acknowledged := ?_, noLoss := ?_ }
    · intro t
      rw [hq]
      exact h.knows t
    · intro control data hm
      rw [he, he]
      rcases List.mem_append.mp hm with hm | hm
      · exact h.acknowledged control data hm
      · exact Receiver.queueStatus_lt hm
    · intro t n hw
      rw [he]
      exact h.noLoss t n hw
  | deliver => exact safe_deliver h hk hs

theorem Safe.freesReceived (h : Safe w) : FreesReceived w := by
  intro w' hs t p hp hp'
  unfold World.deliver at hs
  split at hs
  · cases hs
  next message rest hup =>
  unfold World.onLinux at hs
  split at hs
  · cases hs
  next linux hstep =>
  cases hs
  cases message with
  | retransmit segType seqNoStart seqNoEnd =>
    cases hstep
    refine absurd ?_ hp'
    show p ∈ (w.linux.retransmit segType seqNoStart.toUInt32 seqNoEnd.toUInt32).sm.mSentSegmentLists t
    rw [Traffic.retransmit, SegmentManager.retransmitMissingSegmentsByPeer]
    split <;> exact hp
  | queueStatus control data =>
    obtain ⟨sm, hd, rfl⟩ := Traffic.queueStatus_ok hstep
    obtain ⟨freeList, allocated, rfl, -⟩ := SegmentManager.deallocateSentSegmentsByPeer_ok hd
    have hle : w.linux.sm.seqNo p ≤
        SegmentManager.lastSeqNo control.toUInt32 data.toUInt32 t := by
      by_contra hgt
      exact hp' (List.mem_filter.mpr ⟨hp, by simpa using hgt⟩)
    have hle' := UInt32.le_iff_toNat_le.mp hle
    obtain ⟨hc, hdata⟩ := h.acknowledged control data (hup ▸ List.mem_cons_self)
    cases t with
    | kSNData => exact hle'.trans_lt hdata
    | kSNControl => exact hle'.trans_lt hc

/-- A message of one byte is reserved as call number `i` and enqueued. -/
def enqueueOne (i : ℕ) (isControl : Bool) (fresh : Addr) : List Label :=
  [.linux (.reserve Traffic.oneByte isControl 0 0), .linux (.pop i fresh), .linux (.push i)]

/-- The next segment goes out whole on this adapter. -/
def sendOne (adapter : ℕ) : List Label :=
  [.linux (.takeQueued adapter), .transmit 0 0 0 segmentDataSize, .linux (.file 0)]

/-- Control 0, data 0 and data 1 are received; the report about them is on its way. -/
def threeReceived : List Label :=
  enqueueOne 0 true 1 ++ sendOne 0 ++ enqueueOne 1 false 2 ++ sendOne 0 ++ enqueueOne 2 false 3 ++
    sendOne 0 ++ [.receive 0, .receive 0, .receive 0, .checkAndNotify false false false]

/-- Data 2 is late on adapter 0, data 3 overtakes it on adapter 1, and Android asks for data 2 before
it comes in. Linux gets the request and then the report that data 2 is there: its segment is freed
while it waits in the failed list. It is sent again, filed again, and freed again with the next
report. The messages after that share it. -/
def freedTwice : List Label :=
  threeReceived ++ enqueueOne 3 false 4 ++ sendOne 0 ++ enqueueOne 4 false 5 ++ sendOne 1 ++
    [.receive 1, .checkAndNotify false false true, .receive 0, .checkAndNotify false false false,
      .deliver, .deliver, .deliver, .linux (.takeFailed 0), .transmit 0 0 0 segmentDataSize,
      .linux (.file 0)] ++
    enqueueOne 5 false 6 ++ sendOne 0 ++
    [.receive 0, .receive 0, .checkAndNotify false false false, .deliver] ++
    enqueueOne 6 false 6 ++ enqueueOne 7 false 6 ++ enqueueOne 8 false 6

end LinuxToAndroid
end VirtualConnection
