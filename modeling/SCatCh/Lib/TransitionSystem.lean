import Mathlib.Init

/-!
This module contains transition systems whose nondeterminism is in the choice of an action, their
runs, and the rules with which properties of all runs are proved.
-/

/--
`step s a` is the state after the action `a`, or `none` if `a` cannot happen in `s`.
-/
structure TransitionSystem (σ α : Type) where
  init : σ → Prop
  step : σ → α → Option σ

namespace TransitionSystem

variable {σ α : Type} (S : TransitionSystem σ α)

/--
The runs all of whose steps meet `ok`. A run is given by the states it went through, each with the
action taken there and the latest first, and by the state it is in now.
-/
inductive Run (ok : σ → α → Prop) : List (σ × α) → σ → Prop
  | init {s : σ} : S.init s → Run ok [] s
  | step {hist : List (σ × α)} {s t : σ} {a : α}
    : Run ok hist s → ok s a → S.step s a = some t → Run ok ((s, a) :: hist) t

variable {S}
variable {ok : σ → α → Prop} {hist : List (σ × α)} {s : σ}

/-- What holds initially and is kept by every step holds in every run, along with its history. -/
theorem Run.induct {I : List (σ × α) → σ → Prop}
    (hinit : ∀ s, S.init s → I [] s)
    (hstep : ∀ hist s a t, I hist s → ok s a → S.step s a = some t → I ((s, a) :: hist) t)
    (h : S.Run ok hist s)
    : I hist s := by
  induction h with
  | init h => exact hinit _ h
  | step _ hok hs ih => exact hstep _ _ _ _ ih hok hs

theorem Run.invariant {I : σ → Prop}
    (hinit : ∀ s, S.init s → I s)
    (hstep : ∀ s a t, I s → ok s a → S.step s a = some t → I t)
    (h : S.Run ok hist s)
    : I s := by
  apply Run.induct (I := fun _ s => I s) hinit _ h
  intro _ s a t hs
  exact hstep s a t hs

theorem Run.forall_mem {I : σ → Prop} {Q : σ → α → σ → Prop}
    (hinv : ∀ hist s, S.Run ok hist s → I s)
    (hstep : ∀ s a t, I s → ok s a → S.step s a = some t → Q s a t)
    (h : S.Run ok hist s)
    : ∀ x ∈ hist, ∃ t, S.step x.1 x.2 = some t ∧ Q x.1 x.2 t := by
  induction h with
  | init _ => simp
  | step hr hok hs ih =>
    intro x hx
    rw [List.mem_cons] at hx
    rcases hx with rfl | hx
    . exact ⟨_, hs, hstep _ _ _ (hinv _ _ hr) hok hs⟩
    . exact ih x hx

theorem Run.mono {ok' : σ → α → Prop} (himp : ∀ s a, ok s a → ok' s a) (h : S.Run ok hist s)
    : S.Run ok' hist s := by
  induction h with
  | init h => exact .init h
  | step _ hok hs ih => exact .step ih (himp _ _ hok) hs

/-- A system that may begin in more states has more runs. -/
theorem Run.of_init {init init' : σ → Prop} {step : σ → α → Option σ}
    (hinit : ∀ s, init s → init' s) (h : (TransitionSystem.mk init step).Run ok hist s)
    : (TransitionSystem.mk init' step).Run ok hist s := by
  induction h with
  | init h => exact .init (hinit _ h)
  | step _ hok hs ih => exact .step ih hok hs

theorem Run.stable {P : σ → Prop} (hstep : ∀ s a t, P s → S.step s a = some t → P t)
    {later : List (σ × α)} (hP : ∀ s, S.Run ok hist s → P s) (h : S.Run ok (later ++ hist) s)
    : P s := by
  induction later generalizing s with
  | nil => exact hP s h
  | cons x later ih =>
    cases h with
    | step hr _ hs => exact hstep _ _ _ (ih hr) hs

theorem Run.observe_eq {τ : Type} {f : σ → τ} {visible : α → Bool}
    (hinit : ∀ s t, S.init s → S.init t → f s = f t)
    (hhidden : ∀ s a t, visible a = false → S.step s a = some t → f t = f s)
    (hvisible : ∀ s s' a t t', f s = f s' → visible a = true →
      S.step s a = some t → S.step s' a = some t' → f t = f t')
    (h : S.Run ok hist s) {hist' : List (σ × α)} {s' : σ} (h' : S.Run ok hist' s')
    (heq : (hist.map Prod.snd).filter visible = (hist'.map Prod.snd).filter visible)
    : f s = f s' := by
  induction h generalizing hist' s' with
  | init hs =>
    induction h' with
    | init hs' => exact hinit _ _ hs hs'
    | @step _ _ _ a' _ _ hs' ih' =>
      cases hv : visible a' with
      | true => simp [hv] at heq
      | false =>
        rw [hhidden _ _ _ hv hs']
        apply ih'
        simpa [hv] using heq
  | @step _ _ _ a hr _ hs ih =>
    cases hv : visible a with
    | false =>
      rw [hhidden _ _ _ hv hs]
      apply ih h'
      simpa [hv] using heq
    | true =>
      -- The other run has taken the same action, and hidden ones after it.
      induction h' with
      | init _ => simp [hv] at heq
      | @step _ _ _ a' hr' _ hs' ih' =>
        cases hv' : visible a' with
        | false =>
          rw [hhidden _ _ _ hv' hs']
          apply ih'
          simpa [hv'] using heq
        | true =>
          simp only [List.map_cons, List.filter_cons, hv, hv', if_true, List.cons.injEq] at heq
          obtain ⟨rfl, heq⟩ := heq
          exact hvisible _ _ _ _ _ (ih hr' heq) hv hs hs'

/-- Two runs that take the same actions from related states stay related. -/
theorem Run.related {R : σ → σ → Prop}
    (hstep : ∀ s s' a t t', R s s' → S.step s a = some t → S.step s' a = some t' → R t t')
    {hist' recent recent' : List (σ × α)} {s' : σ} (heq : recent.map Prod.snd = recent'.map Prod.snd)
    (hR : ∀ s s', S.Run ok hist s → S.Run ok hist' s' → R s s')
    (h : S.Run ok (recent ++ hist) s) (h' : S.Run ok (recent' ++ hist') s')
    : R s s' := by
  induction recent generalizing recent' s s' with
  | nil =>
    rw [List.map_nil, eq_comm, List.map_eq_nil_iff] at heq
    subst heq
    exact hR s s' h h'
  | cons x recent ih =>
    cases recent' with
    | nil => simp at heq
    | cons x' recent' =>
      rw [List.map_cons, List.map_cons, List.cons.injEq] at heq
      cases h with
      | step hr _ hs =>
        cases h' with
        | step hr' _ hs' =>
          obtain ⟨rfl, heq⟩ := heq
          exact hstep _ _ _ _ _ (ih heq hr hr') hs hs'

/--
A run is simulated if the other system can follow each of its steps, with any number of its own that
have the same label.
-/
theorem Run.simulate {σ' α' β : Type} {S' : TransitionSystem σ' α'} {ok' : σ' → α' → Prop}
    {R : σ → σ' → Prop} {label : σ × α → Option β} {label' : σ' × α' → Option β}
    (hinit : ∀ s, S.init s → ∃ s', S'.init s' ∧ R s s')
    (hstep : ∀ hist s a t hist' s', S.Run ok hist s → S'.Run ok' hist' s' → R s s' → ok s a →
      S.step s a = some t → ∃ later t',
        S'.Run ok' (later ++ hist') t' ∧ R t t' ∧ later.filterMap label' = (label (s, a)).toList)
    (h : S.Run ok hist s)
    : ∃ hist' s', S'.Run ok' hist' s' ∧ R s s' ∧ hist'.filterMap label' = hist.filterMap label := by
  induction h with
  | init h =>
    obtain ⟨s', hs', hR⟩ := hinit _ h
    exact ⟨[], s', .init hs', hR, rfl⟩
  | @step hist s t a hrun hok hs ih =>
    obtain ⟨hist', s', hrun', hR, hlabels⟩ := ih
    obtain ⟨later, t', hlater, hR', hlabel⟩ := hstep _ _ _ _ _ _ hrun hrun' hR hok hs
    refine ⟨later ++ hist', t', hlater, hR', ?_⟩
    rw [List.filterMap_append, hlabels, hlabel, List.filterMap_cons]
    cases label (s, a) <;> rfl

def exec (S : TransitionSystem σ α) (ok : σ → α → Prop) [∀ s a, Decidable (ok s a)]
    : List (σ × α) → σ → List α → Option (List (σ × α) × σ)
  | hist, s, [] => some (hist, s)
  | hist, s, a :: as =>
    if ok s a then
      match S.step s a with
      | some t => S.exec ok ((s, a) :: hist) t as
      | none => none
    else
      none

theorem Run.exec [∀ s a, Decidable (ok s a)] (h : S.Run ok hist s)
    : ∀ {as : List α} {hist' : List (σ × α)} {t : σ},
        S.exec ok hist s as = some (hist', t) → S.Run ok hist' t := by
  intro as
  induction as generalizing hist s with
  | nil =>
    intro hist' t ht
    simp only [TransitionSystem.exec, Option.some.injEq, Prod.mk.injEq] at ht
    obtain ⟨rfl, rfl⟩ := ht
    exact h
  | cons a as ih =>
    intro hist' t ht
    simp only [TransitionSystem.exec] at ht
    split at ht
    . next hok =>
      split at ht
      . next hs => exact ih (h.step hok hs) ht
      . contradiction
    . contradiction

theorem exists_run_of_exec (ok : σ → α → Prop) [∀ s a, Decidable (ok s a)] {P : List (σ × α) → σ → Prop}
    [∀ hist s, Decidable (P hist s)] (hinit : S.init s) (as : List α)
    (h : (S.exec ok [] s as).any (fun x => P x.1 x.2) = true)
    : ∃ hist t, S.Run ok hist t ∧ P hist t := by
  rw [Option.any_eq_true] at h
  obtain ⟨⟨hist, t⟩, ht, hP⟩ := h
  exact ⟨hist, t, Run.exec (.init hinit) ht, of_decide_eq_true hP⟩

end TransitionSystem
