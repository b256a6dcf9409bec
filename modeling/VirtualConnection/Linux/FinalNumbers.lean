import VirtualConnection.Linux.Traffic

/-!
# Linux.FinalNumbers

The numbers that `disconnect_on_command` announces. A sender thread keeps the number of the last
segment of each kind that it has sent; the failed list and the retransmissions make it send out of
order, and before the first send `mLastSeqNoControl` and `mLastSeqNoData` are whatever the memory held
(`none`): no constructor sets them.

`sent` are the numbers of the frames that an adapter has sent, in order, and `announced` the Disconnect
messages with what had been sent then; no code reads them.

`final_numbers`: the announced numbers are the greatest, in the runs whose steps all `KeepLast`.
-/

namespace VirtualConnection
namespace Linux

/-- The numbers of a Disconnect message, and what its adapter had sent. -/
structure Announcement where
  finalSeqNo : SegSeqNumType → Option UInt32
  sent : SegSeqNumType → List UInt32

/-- A number was written, and it is the greatest of the sent ones. -/
def Announcement.Final (a : Announcement) : Prop :=
  ∀ type, ∃ last, a.finalSeqNo type = some last ∧
    (a.sent type = [] ∨ last ∈ a.sent type ∧ ∀ num ∈ a.sent type, num ≤ last)

structure FinalNumbers where
  traffic : Traffic
  mLastSeqNo : ℕ → SegSeqNumType → Option UInt32
  sent : ℕ → SegSeqNumType → List UInt32
  announced : List Announcement

namespace FinalNumbers

def init : FinalNumbers where
  traffic := .init
  mLastSeqNo _ _ := none
  sent _ _ := []
  announced := []

/-- `f` with another value for one adapter and one kind. -/
def update {β : Type} (f : ℕ → SegSeqNumType → β) (adapter : ℕ) (segType : SegSeqNumType)
    (value : β) : ℕ → SegSeqNumType → β :=
  Function.update f adapter (Function.update (f adapter) segType value)

/-- `Traffic.transmit` hands over a frame that counts when its result is `sent`; at the end of such a
pass `set_last_seq_no_control` or `set_last_seq_no_data` reads the number in the segment. -/
def afterStep (s : FinalNumbers) (traffic : Traffic) : Traffic.Label → FinalNumbers
  | .transmit k _ _ .sent =>
    match s.traffic.senders[k]? with
    | some pass =>
      let type := seqNumType pass.isControl
      { s with
        traffic := traffic
        sent := update s.sent pass.adapter type
          (s.sent pass.adapter type ++ [s.traffic.sm.seqNo pass.segmentToSend]) }
    | none => { s with traffic := traffic }
  | .file k =>
    match s.traffic.senders[k]? with
    | some pass =>
      if pass.result = some .sent then
        { s with
          traffic := traffic
          mLastSeqNo := update s.mLastSeqNo pass.adapter (seqNumType pass.isControl)
            (some (s.traffic.sm.seqNo pass.segmentToSend)) }
      else { s with traffic := traffic }
    | none => { s with traffic := traffic }
  | _ => { s with traffic := traffic }

inductive Label where
  | traffic (label : Traffic.Label)
  /-- `send_request_disconnect` in `disconnect_on_command`. -/
  | disconnectOnCommand (adapter : ℕ)

def step (s : FinalNumbers) : Label → Except Stop FinalNumbers
  | .traffic label =>
    match s.traffic.step label with
    | .ok traffic => .ok (s.afterStep traffic label)
    | .error e => .error e
  | .disconnectOnCommand adapter =>
    .ok { s with announced := s.announced ++ [⟨s.mLastSeqNo adapter, s.sent adapter⟩] }

def AnnouncesFinal (s : FinalNumbers) : Prop := ∀ a ∈ s.announced, a.Final

/-- The thread is between a successful send and the update of its last number. -/
def JustSent (adapter : ℕ) (type : SegSeqNumType) (pass : Pass) : Prop :=
  pass.adapter = adapter ∧ seqNumType pass.isControl = type ∧ pass.result = some .sent

/-- The last number that was sent is the greatest. -/
def LastIsGreatest (sent : List UInt32) : Prop :=
  ∃ last ∈ sent.getLast?, ∀ num ∈ sent, num ≤ last

/-- A segment that has been sent keeps its number to the end of the pass, and when the numbers are
announced, the thread is not in between and has sent the greatest number of each kind last. -/
def KeepLast (s : FinalNumbers) : Label → Prop
  | .traffic (.file k) => ∀ pass ∈ s.traffic.senders[k]?, pass.result = some .sent →
      (s.sent pass.adapter (seqNumType pass.isControl)).getLast? =
        some (s.traffic.sm.seqNo pass.segmentToSend)
  | .disconnectOnCommand adapter => ∀ type,
      (∀ pass ∈ s.traffic.senders, ¬ JustSent adapter type pass) ∧
        LastIsGreatest (s.sent adapter type)
  | _ => True

instance (adapter : ℕ) (type : SegSeqNumType) : DecidablePred (JustSent adapter type) :=
  fun _ => inferInstanceAs (Decidable (_ ∧ _ ∧ _))

-- `Decidable (∃ last ∈ sent.getLast?, _)` would be found by trying every `UInt32`.
instance : DecidablePred LastIsGreatest := fun sent =>
  decidable_of_iff (sent.getLast?.any fun last => sent.all (· ≤ last)) (by
    simp only [LastIsGreatest, Option.any_eq_true, Option.mem_def, List.all_eq_true,
      decide_eq_true_eq])

instance (s : FinalNumbers) : DecidablePred s.KeepLast := fun l =>
  match l with
  | .disconnectOnCommand _ => inferInstanceAs (Decidable (∀ _, _ ∧ _))
  | .traffic label =>
    match label with
    | .file k => inferInstanceAs (Decidable (∀ pass ∈ s.traffic.senders[k]?, _ → _))
    | .reserve .. | .pop .. | .push .. | .takeFailed .. | .takeQueued .. | .transmit .. | .refuse ..
    | .queueStatus .. | .retransmit .. | .recvPop .. | .recvDrop .. | .recvPush .. | .consume ..
    | .consumerDrop .. | .release .. => .isTrue trivial

/-! ## What a step keeps -/

structure Inv (s : FinalNumbers) : Prop where
  last : ∀ adapter type, (∀ pass ∈ s.traffic.senders, ¬ JustSent adapter type pass) →
    s.mLastSeqNo adapter type = (s.sent adapter type).getLast?
  final : s.AnnouncesFinal

variable {s : FinalNumbers} {t : Traffic}

theorem inv_init : init.Inv := ⟨fun _ _ _ => rfl, nofun⟩

theorem update_self {β : Type} (f : ℕ → SegSeqNumType → β) (adapter : ℕ) (type : SegSeqNumType)
    (value : β) : update f adapter type value adapter type = value := by
  simp [update]

theorem update_of_ne {β : Type} (f : ℕ → SegSeqNumType → β) {adapter a : ℕ}
    {type t : SegSeqNumType} (value : β) (h : ¬ (a = adapter ∧ t = type)) :
    update f adapter type value a t = f a t := by
  unfold update
  by_cases ha : a = adapter
  · subst ha
    have ht : t ≠ type := fun ht => h ⟨rfl, ht⟩
    simp [ht]
  · simp [ha]

/-- No pass is lost that was just sent. -/
theorem Inv.keep (h : s.Inv) (hkeep : ∀ pass ∈ s.traffic.senders, pass.result = some .sent →
    pass ∈ t.senders) : Inv { s with traffic := t } :=
  ⟨fun adapter type hnone => h.last adapter type fun p hp hsent =>
    hnone p (hkeep p hp hsent.2.2) hsent, h.final⟩

theorem mem_eraseIdx_of_ne {k i : ℕ} {p : Pass} (hi : s.traffic.senders[i]? = some p) (hik : i ≠ k)
    (hsenders : t.senders = s.traffic.senders.eraseIdx k) : p ∈ t.senders := by
  rw [hsenders, List.mem_eraseIdx_iff_getElem?]
  exact ⟨i, hik, hi⟩

/-- A pass ends without a successful send. -/
theorem Inv.drop (h : s.Inv) {k : ℕ} {pass : Pass} (hk : s.traffic.senders[k]? = some pass)
    (hresult : pass.result ≠ some .sent) (hsenders : t.senders = s.traffic.senders.eraseIdx k) :
    Inv { s with traffic := t } := by
  refine h.keep fun p hp hsent => ?_
  obtain ⟨i, hi⟩ := List.mem_iff_getElem?.mp hp
  refine mem_eraseIdx_of_ne hi (fun hik => ?_) hsenders
  rw [hik, hk] at hi
  exact hresult (Option.some.inj hi ▸ hsent)

/-- A pass hands its frame over; when the kernel takes it, the number counts as sent. -/
theorem Inv.transmit (h : s.Inv) {k : ℕ} {pass : Pass} {sec usec : UInt32}
    {result : SendResult} (hk : s.traffic.senders[k]? = some pass) (hresult : pass.result = none)
    (hsenders : t.senders = s.traffic.senders.set k { pass with result := some result }) :
    (s.afterStep t (.transmit k sec usec result)).Inv := by
  have hmem : ∀ p ∈ s.traffic.senders, p ≠ pass → p ∈ t.senders := by
    intro p hp hne
    obtain ⟨i, hi⟩ := List.mem_iff_getElem?.mp hp
    have hik : k ≠ i := fun hik => hne (Option.some.inj (hi.symm.trans (hik ▸ hk)))
    rw [hsenders]
    exact List.mem_iff_getElem?.mpr ⟨i, by rw [List.getElem?_set_ne hik, hi]⟩
  have hself : { pass with result := some result } ∈ t.senders := by
    have hlt : k < s.traffic.senders.length := (List.getElem?_eq_some_iff.mp hk).choose
    rw [hsenders]
    exact List.mem_iff_getElem?.mpr ⟨k, by rw [List.getElem?_set_self hlt]⟩
  have hlast : ∀ adapter type, (∀ p ∈ t.senders, ¬ JustSent adapter type p) →
      s.mLastSeqNo adapter type = (s.sent adapter type).getLast? := by
    refine fun adapter type hnone => h.last adapter type fun p hp hsent => ?_
    by_cases hne : p = pass
    · subst hne
      simp [JustSent, hresult] at hsent
    · exact hnone p (hmem p hp hne) hsent
  cases result with
  | notSent => exact ⟨hlast, h.final⟩
  | sent =>
    simp only [afterStep, hk]
    refine ⟨fun adapter type hnone => ?_, h.final⟩
    dsimp only
    rw [update_of_ne]
    · exact hlast adapter type hnone
    · rintro ⟨rfl, rfl⟩
      exact hnone _ hself ⟨rfl, rfl, rfl⟩

/-- A pass that has sent its segment is over, and the number that is filed is the one that was sent. -/
theorem Inv.file (h : s.Inv) {k : ℕ} {pass : Pass} {num : UInt32}
    (hk : s.traffic.senders[k]? = some pass)
    (hnum : (s.sent pass.adapter (seqNumType pass.isControl)).getLast? = some num)
    (hsenders : t.senders = s.traffic.senders.eraseIdx k) :
    Inv { s with
      traffic := t
      mLastSeqNo := update s.mLastSeqNo pass.adapter (seqNumType pass.isControl) (some num) } := by
  refine ⟨fun adapter type hnone => ?_, h.final⟩
  dsimp only
  by_cases hown : adapter = pass.adapter ∧ type = seqNumType pass.isControl
  · obtain ⟨rfl, rfl⟩ := hown
    rw [update_self]
    exact hnum.symm
  · rw [update_of_ne _ _ hown]
    refine h.last adapter type fun p hp hsent => ?_
    obtain ⟨i, hi⟩ := List.mem_iff_getElem?.mp hp
    refine hnone p (mem_eraseIdx_of_ne hi (fun hik => ?_) hsenders) hsent
    rw [hik, hk] at hi
    obtain rfl := Option.some.inj hi
    exact hown ⟨hsent.1.symm, hsent.2.1.symm⟩

theorem inv_traffic {label : Traffic.Label} (h : s.Inv) (hl : s.KeepLast (.traffic label))
    (hs : s.traffic.step label = .ok t) : (s.afterStep t label).Inv := by
  have hsame : t.senders = s.traffic.senders → Inv { s with traffic := t } :=
    fun he => h.keep fun p hp _ => he ▸ hp
  cases label with
  | reserve data isControl sec usec =>
    obtain rfl := Except.ok.inj hs
    exact hsame rfl
  | pop i fresh =>
    obtain ⟨_, _, _, _, _, _, _, rfl⟩ := Traffic.pop_ok hs
    exact hsame rfl
  | push i =>
    obtain ⟨_, _, _, _, _, _, rfl⟩ := Traffic.push_ok hs
    exact hsame rfl
  | takeFailed adapter =>
    obtain ⟨seg, rest, -, rfl⟩ := Traffic.takeFailed_ok hs
    exact h.keep fun p hp _ => List.mem_append_left _ hp
  | takeQueued adapter =>
    obtain ⟨seg, sm, -, rfl⟩ := Traffic.takeQueued_ok hs
    exact h.keep fun p hp _ => List.mem_append_left _ hp
  | transmit k sec usec result =>
    obtain ⟨adapter, seg, isControl, hk, ht⟩ := Traffic.transmit_ok hs
    have hsenders : t.senders =
        s.traffic.senders.set k ⟨adapter, seg, isControl, some result⟩ := by rw [ht]
    exact h.transmit hk rfl hsenders
  | refuse k =>
    obtain ⟨pass, hk, hresult, rfl⟩ := Traffic.refuse_ok hs
    exact h.drop hk (by simp [hresult]) rfl
  | file k =>
    obtain ⟨pass, hk, ⟨hresult, rfl⟩ | ⟨hresult, rfl⟩⟩ := Traffic.file_ok hs
    · simpa only [afterStep, hk, hresult, if_true] using h.file hk (hl pass hk hresult) rfl
    · have hne : pass.result ≠ some .sent := by simp [hresult]
      simpa only [afterStep, hk, if_neg hne] using h.drop hk hne rfl
  | queueStatus control data =>
    obtain ⟨sm, -, rfl⟩ := Traffic.queueStatus_ok hs
    exact hsame rfl
  | retransmit segType first last =>
    obtain rfl := Except.ok.inj hs
    exact hsame rfl
  | recvPop fresh =>
    obtain ⟨_, _, _, rfl⟩ := Traffic.recvPop_ok hs
    exact hsame rfl
  | recvDrop k =>
    obtain rfl := Except.ok.inj hs
    exact hsame rfl
  | recvPush k frame =>
    obtain ⟨_, _, _, _, _, rfl⟩ := Traffic.recvPush_ok hs
    exact hsame rfl
  | consume isControl =>
    obtain ⟨_, _, _, rfl⟩ := Traffic.consume_ok hs
    exact hsame rfl
  | consumerDrop k =>
    obtain rfl := Except.ok.inj hs
    exact hsame rfl
  | release k =>
    obtain ⟨_, _, _, _, rfl⟩ := Traffic.release_ok hs
    exact hsame rfl

theorem inv_step {s' : FinalNumbers} {l : Label} (h : s.Inv) (hl : s.KeepLast l)
    (hs : s.step l = .ok s') : s'.Inv := by
  cases l with
  | traffic label =>
    simp only [step] at hs
    split at hs
    · rename_i t ht
      obtain rfl := Except.ok.inj hs
      exact inv_traffic h hl ht
    · cases hs
  | disconnectOnCommand adapter =>
    obtain rfl := Except.ok.inj hs
    refine ⟨h.last, fun a ha => ?_⟩
    rcases List.mem_append.mp ha with ha | ha
    · exact h.final a ha
    · obtain rfl := List.mem_singleton.mp ha
      intro type
      obtain ⟨hnone, last, hlast, hgreatest⟩ := hl type
      exact ⟨last, (h.last adapter type hnone).trans hlast,
        .inr ⟨List.mem_of_getLast? hlast, hgreatest⟩⟩

/-! ## Runs -/

theorem final_numbers {ls : List Label} {t : FinalNumbers}
    (h : Runs.AllSteps step KeepLast init ls) (ht : Runs.Reached step init ls t) :
    t.AnnouncesFinal :=
  (Runs.throughout_of_allSteps (fun _ _ _ => inv_step) inv_init h ht).final

/-- A message of two bytes, its segment at address `seg`. -/
def sendMessage (call seg : ℕ) (isControl : Bool) : List Label :=
  [.reserve ⟨[72, 105], by decide, by decide⟩ isControl 0 0, .pop call seg, .push call, .takeQueued 0,
    .transmit 0 0 0 .sent, .file 0].map .traffic

def sendBoth : List Label :=
  sendMessage 0 7 false ++ sendMessage 1 8 true ++ [.disconnectOnCommand 0]

theorem final_numbers_sendBoth : ∃ t, Runs.run step init sendBoth = .ok t ∧
    t.announced.length = 1 ∧ t.AnnouncesFinal := by
  obtain ⟨t, ht, hlength⟩ : ∃ t, Runs.run step init sendBoth = .ok t ∧ t.announced.length = 1 :=
    Runs.exists_run_of_view (fun t : FinalNumbers => t.announced.length) (by decide +kernel)
  exact ⟨t, ht, hlength, final_numbers (by decide +kernel) (.of_run ht)⟩

/-- Data 0 and data 1 are sent, and data 0 once more for the peer. No control segment is sent. -/
def resendFirst : List Label :=
  sendMessage 0 7 false ++ sendMessage 1 8 false ++
    [.traffic (.retransmit 0 0 0), .traffic (.takeFailed 0), .traffic (.transmit 0 0 0 .sent),
      .traffic (.file 0), .disconnectOnCommand 0]

theorem announces_resent : ∃ t a, Runs.Reached step init resendFirst t ∧ a ∈ t.announced ∧
    a.sent .kSNData = [0, 1, 0] ∧ a.finalSeqNo .kSNData = some 0 ∧
    a.sent .kSNControl = [] ∧ a.finalSeqNo .kSNControl = none ∧ ¬ t.AnnouncesFinal := by
  obtain ⟨t, ht, hview⟩ : ∃ t, Runs.run step init resendFirst = .ok t ∧
      t.announced.map (fun a => (a.sent .kSNData, a.finalSeqNo .kSNData, a.sent .kSNControl,
        a.finalSeqNo .kSNControl)) = [([0, 1, 0], some 0, [], none)] :=
    Runs.exists_run_of_view (fun t : FinalNumbers => t.announced.map fun a =>
      (a.sent .kSNData, a.finalSeqNo .kSNData, a.sent .kSNControl, a.finalSeqNo .kSNControl))
      (by decide +kernel)
  obtain ⟨a, ha, hview⟩ := List.map_eq_singleton_iff.mp hview
  simp only [Prod.mk.injEq] at hview
  obtain ⟨hdata, hlast, hcontrol, hnone⟩ := hview
  refine ⟨t, a, .of_run ht, by simp [ha], hdata, hlast, hcontrol, hnone, fun h => ?_⟩
  obtain ⟨last, hsome, hempty | ⟨-, hgreatest⟩⟩ := h a (by simp [ha]) .kSNData
  · simp [hdata] at hempty
  · rw [hlast] at hsome
    obtain rfl := Option.some.inj hsome
    have hle := hgreatest 1 (by simp [hdata])
    exact absurd hle (by decide)

end FinalNumbers
end Linux
end VirtualConnection
