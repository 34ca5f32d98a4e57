import Mathlib.Init
import SCatCh.Lib.TransitionSystem

/-!
This module contains what a transition system can still do from a state that it is in, and the rule
with which it is proved that a goal can still be reached.
-/

namespace TransitionSystem

variable {σ α : Type} (S : TransitionSystem σ α)

/-- `S` can go from one state to the other with steps that meet `ok`. -/
inductive Leads (ok : σ → α → Prop) : σ → σ → Prop
  | refl (s : σ) : Leads ok s s
  | step {s t u : σ} {a : α} : ok s a → S.step s a = some t → Leads ok t u → Leads ok s u

variable {S} {ok : σ → α → Prop} {s t u : σ}

theorem Leads.single {a : α} (hok : ok s a) (hstep : S.step s a = some t) : S.Leads ok s t :=
  .step hok hstep (.refl t)

theorem Leads.trans (h : S.Leads ok s t) (h' : S.Leads ok t u) : S.Leads ok s u := by
  induction h with
  | refl _ => exact h'
  | step hok hstep _ ih => exact .step hok hstep (ih h')

/-- What a system can do does not depend on where it began. -/
theorem Leads.of_init {init init' : σ → Prop} {step : σ → α → Option σ}
    (h : (TransitionSystem.mk init step).Leads ok s t)
    : (TransitionSystem.mk init' step).Leads ok s t := by
  induction h with
  | refl s => exact .refl s
  | step hok hstep _ ih => exact .step hok hstep ih

theorem Run.leads {hist : List (σ × α)} (hrun : S.Run ok hist s) (h : S.Leads ok s t)
    : ∃ later, S.Run ok (later ++ hist) t := by
  induction h generalizing hist with
  | refl _ => exact ⟨[], hrun⟩
  | @step s _ _ a hok hstep _ ih =>
    obtain ⟨later, hlater⟩ := ih (hrun.step hok hstep)
    exact ⟨later ++ [(s, a)], by simpa using hlater⟩

/-- A goal can be reached if, as long as it is not met, some steps can be taken that lower a weight. -/
theorem Run.exists_of_weight {goal : σ → Prop} (weight : σ → Nat)
    (hprogress : ∀ hist s, S.Run ok hist s → goal s ∨ ∃ t, S.Leads ok s t ∧ weight t < weight s)
    {hist : List (σ × α)} (hrun : S.Run ok hist s)
    : ∃ later t, S.Run ok (later ++ hist) t ∧ goal t := by
  generalize hw : weight s = w
  induction w using Nat.strongRecOn generalizing hist s with
  | ind w ih =>
    rcases hprogress hist s hrun with hgoal | ⟨t, hleads, hlt⟩
    . exact ⟨[], s, hrun, hgoal⟩
    . obtain ⟨later, hlater⟩ := hrun.leads hleads
      obtain ⟨later', u, hu, hgoal⟩ := ih (weight t) (by omega) hlater rfl
      exact ⟨later' ++ later, u, by simpa using hu, hgoal⟩

end TransitionSystem
