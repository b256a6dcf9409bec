import VirtualConnection.Linux.SwitchDecisions

/-!
# Linux.QuietPeriod

After a switch the policy is quiet for half of the prediction window, or until a custom event. The
stamp that says so is taken for missing when either of its parts is zero, so a switch that falls on a
full second starts no quiet period.
-/

namespace VirtualConnection
namespace Linux
namespace SwitchDecisions

open Runs

/-- The clock does not go back. -/
def InOrder (r : Record) : Event → Prop
  | .decide _ _ _ t => r.now ≤ t.check.toUs ∧ t.check.toUs ≤ t.foreground.toUs ∧
      t.foreground.toUs ≤ t.background.toUs ∧ t.background.toUs ≤ t.stamp.toUs
  | .customEvent _ t => r.now ≤ t.toUs

instance (r : Record) : ∀ e, Decidable (InOrder r e)
  | .decide _ _ _ _ => inferInstanceAs (Decidable (_ ∧ _ ∧ _ ∧ _))
  | .customEvent _ _ => inferInstanceAs (Decidable (_ ≤ _))

/-- A call whose vote makes a switch reads neither second nor microsecond 0 for its stamp. -/
def Stamped (r : Record) : Event → Prop
  | .decide stats isIncreasable isDecreasable t => ∀ v : SwitchBehavior, v.IsSwitch →
      r.policy.vote stats isIncreasable isDecreasable t = some v → ¬ r.policy.serialCount v < 3 →
        t.stamp.tvSec ≠ 0 ∧ t.stamp.tvUsec ≠ 0
  | .customEvent _ _ => True

/-- The stamp is set by the latest of the recent switches, and no later than now. -/
structure Quiet (r : Record) : Prop where
  keepsQuiet : KeepsQuiet r.history
  stamp : ∀ t ∈ recentSwitches r.history, t.toUs ≤ r.policy.mRecentSwitchTS.toUs ∧
    r.policy.mRecentSwitchTS.tvSec ≠ 0 ∧ r.policy.mRecentSwitchTS.tvUsec ≠ 0 ∧ t.toUs ≤ r.now

variable {r s : Record}

/-- Outside the quiet period the recent switches are 15 seconds old. -/
theorem Quiet.elapsed (hr : Quiet r) {present : Timeval}
    (hquiet : ¬ r.policy.InQuietPeriod present) {t : Timeval} (ht : t ∈ recentSwitches r.history) :
    t.toUs + 15 * (1000 * 1000) ≤ present.toUs := by
  obtain ⟨hle, hsec, husec, -⟩ := hr.stamp t ht
  have helapsed : ¬ present.toUs - r.policy.mRecentSwitchTS.toUs < 30 * 1000 * 1000 / 2 :=
    fun h => hquiet ⟨hsec, husec, h⟩
  omega

theorem quiet_decide (hr : Quiet r) {stats : Stats} {isIncreasable isDecreasable : Bool}
    {t : Readings} {behavior : SwitchBehavior} {policy : NMPolicyHistoryBased}
    (h : r.policy.decide stats isIncreasable isDecreasable t = .ok (behavior, policy))
    (horder : InOrder r (.decide stats isIncreasable isDecreasable t))
    (hstamped : Stamped r (.decide stats isIncreasable isDecreasable t)) :
    Quiet { policy := policy, now := t.stamp.toUs, history := .decided ⟨t, isIncreasable,
      isDecreasable, r.policy.vote stats isIncreasable isDecreasable t, behavior⟩ :: r.history } := by
  obtain ⟨hcheck, hfg, hbg, hstamp⟩ := horder
  by_cases hswitch : behavior.IsSwitch
  · rcases NMPolicyHistoryBased.decide_cases h with
      ⟨-, -, rfl, -⟩ | ⟨v, hvote, -, -, hbehavior, -, hts⟩
    · rcases hswitch with hb | hb <;> cases hb
    · have hreached : ¬ (v.IsSwitch ∧ r.policy.serialCount v < 3) := by
        intro hlow
        rw [if_pos hlow] at hbehavior
        subst hbehavior
        rcases hswitch with hb | hb <;> cases hb
      rw [if_neg hreached] at hbehavior
      subst hbehavior
      rw [if_pos hswitch] at hts
      have hset := hstamped behavior hswitch hvote fun hlow => hreached ⟨hswitch, hlow⟩
      have hquiet := (NMPolicyHistoryBased.vote_eq_some hvote).1
      refine ⟨⟨hr.keepsQuiet, fun _ u hu => hr.elapsed hquiet hu⟩, fun u hu => ?_⟩
      simp only [recentSwitches, hswitch, if_true, List.mem_cons] at hu
      rw [hts]
      rcases hu with rfl | hu
      · exact ⟨le_refl _, hset.1, hset.2, le_refl _⟩
      · have hnow := (hr.stamp u hu).2.2.2
        have hle : u.toUs ≤ t.stamp.toUs := by omega
        exact ⟨hle, hset.1, hset.2, hle⟩
  · have hts : policy.mRecentSwitchTS = r.policy.mRecentSwitchTS := by
      rcases NMPolicyHistoryBased.decide_cases h with ⟨-, -, -, rfl⟩ | ⟨v, -, -, -, -, -, hts⟩
      · rfl
      · rw [if_neg hswitch] at hts
        exact hts
    refine ⟨⟨hr.keepsQuiet, fun hb => absurd hb hswitch⟩, fun u hu => ?_⟩
    simp only [recentSwitches, hswitch, if_false] at hu
    obtain ⟨hle, hsec, husec, hnow⟩ := hr.stamp u hu
    rw [hts]
    exact ⟨hle, hsec, husec, by dsimp only; omega⟩

/-- A clock that stands still is in order. -/
theorem inOrder_of_fullSecond {events : List Event}
    (hevents : ∀ e ∈ events, ∃ stats isIncreasable isDecreasable,
      e = .decide stats isIncreasable isDecreasable fullSecond)
    (h : r.now ≤ fullSecond.check.toUs) : AllSteps step InOrder r events := by
  induction events generalizing r with
  | nil => trivial
  | cons e events ih =>
    intro s hs
    obtain ⟨stats, isIncreasable, isDecreasable, rfl⟩ := hevents e List.mem_cons_self
    refine ⟨⟨h, le_refl _, le_refl _, le_refl _⟩,
      ih (fun e' he' => hevents e' (List.mem_cons_of_mem _ he')) ?_⟩
    rcases step_cases hs with ⟨_, _, _, _, _, _, hcall, -, rfl⟩ | ⟨_, _, _, hcall, -⟩
    · obtain ⟨rfl, rfl, rfl, rfl⟩ := Event.decide.inj hcall
      exact le_refl _
    · cases hcall

end SwitchDecisions
end Linux
end VirtualConnection
