import SCatCh.System.SheetMachine

/-!
This module contains the inversion of the steps of `SheetMachine`, what follows for the sheets that are
written, and the proof that the controller of a device is such a machine.
-/

namespace SCatCh

open SubRootViewSheet

namespace SheetMachine

variable {s t : SheetMachine} {c : StateControllerSheet} {newId : UUID} {v : Int}

theorem update_controller (hview : c.shownView = s.controller.shownView)
    : s.update (c, []) = { s with controller := c } := by
  simp [update, hview]

theorem resetCountdown_eq (s : SheetMachine)
    : s.controller.resetCountdown = { s.controller with timeRemaining := s.countdown } := by
  unfold StateControllerSheet.resetCountdown countdown
  cases h : s.controller.shownView <;> simp [h]

@[simp]
theorem update_self (s : SheetMachine) : s.update (s.controller, []) = s := by
  simp [update]

theorem update_saveSheet (hview : s.controller.shownView ≠ .getReady)
    (hsaved : s.controller.isContentSaved = false)
    : s.update (s.controller.saveSheet newId) = s.handIn newId := by
  cases hshown : s.controller.shownView with
  | getReady => contradiction
  | drawing => simp [update, perform, StateControllerSheet.saveSheet, handIn, sheet, hsaved, hshown]
  | guessing => simp [update, perform, StateControllerSheet.saveSheet, handIn, sheet, hsaved, hshown]

theorem saveSheet_of_saved (hsaved : c.isContentSaved = true) : c.saveSheet newId = (c, []) := by
  simp [StateControllerSheet.saveSheet, hsaved]

theorem saveSheet_of_getReady (hview : c.shownView = .getReady) (hsaved : c.isContentSaved = false)
    : c.saveSheet newId = ({ c with isContentSaved := true }, []) := by
  simp [StateControllerSheet.saveSheet, hview, hsaved]

theorem getReferenceSheet_eq {result : StateControllerSheet × List StateControllerSheet.Effect}
    (h : s.controller.getReferenceSheet newId = some result)
    : result.1 = { s.controller with referenceSheet := s.reference newId }
        ∧
      ∀ s' : SheetMachine, result.2.foldl perform s' = s' := by
  unfold StateControllerSheet.getReferenceSheet at h
  unfold reference
  split at h
  . next hnone =>
    split at h
    . next hround =>
      simp only [Option.bind_eq_bind, Option.bind_eq_some_iff, Option.pure_def, Option.some.injEq] at h
      obtain ⟨authorNum, -, rfl⟩ := h
      rw [if_neg (by omega)]
      exact ⟨rfl, fun _ => rfl⟩
    . next hround =>
      rw [if_pos ⟨hnone, by omega⟩]
      simp only [Option.pure_def, Option.some.injEq] at h
      rw [← h]
      exact ⟨rfl, fun _ => rfl⟩
  . next hsome =>
    simp only [Option.pure_def, Option.some.injEq] at h
    rw [← h, if_neg fun h => hsome h.1]
    exact ⟨rfl, fun _ => rfl⟩

theorem update_eq (s : SheetMachine) (c : StateControllerSheet)
    (effects : List StateControllerSheet.Effect)
    : s.update (c, effects)
        =
      { effects.foldl perform s with
        controller := c
        pending := s.pending || c.shownView ≠ s.controller.shownView } := by
  unfold update
  generalize (s.pending || decide (c.shownView ≠ s.controller.shownView)) = pending
  induction effects generalizing s with
  | nil => rfl
  | cons e effects ih =>
    dsimp only [List.foldl_cons] at ih ⊢
    rw [← ih]
    cases e <;> rfl

theorem update_count (s : SheetMachine) (c : StateControllerSheet)
    (effects : List StateControllerSheet.Effect)
    : s.update ({ c with timeRemaining := c.timeRemaining - 1 }, effects)
        =
      (s.update (c, effects)).count := by
  rw [update_eq, update_eq]
  rfl

theorem next_of_checkTimer {result : StateControllerSheet × List StateControllerSheet.Effect}
    (htimer : s.timer = true) (h : s.controller.checkTimer newId = some result)
    : Next s (.tick newId) (s.update result) := by
  unfold StateControllerSheet.checkTimer StateControllerSheet.switchTimeRemaining at h
  simp only [Option.bind_eq_bind, Option.bind_eq_some_iff, Option.pure_def, Option.some.injEq,
    Prod.exists] at h
  obtain ⟨c, effects, h, rfl⟩ := h
  rw [update_count]
  split at h
  . next htime =>
    obtain ⟨hc, heffects⟩ := getReferenceSheet_eq h
    dsimp only at hc heffects
    subst hc
    rw [update_eq, heffects]
    simpa using .lookUp newId htimer htime
  . split at h
    . next htime =>
      split at h
      . next hview =>
        simp only [Option.bind_eq_some_iff, Option.some.injEq, Prod.mk.injEq, Prod.exists] at h
        obtain ⟨c', effects', h, rfl, rfl⟩ := h
        obtain ⟨hc, heffects⟩ := getReferenceSheet_eq h
        dsimp only at hc heffects
        subst hc
        rw [update_eq, heffects]
        -- Both activities have a screen of their own.
        have hpending : (s.pending
            || decide (activity s.controller.roundNum ≠ s.controller.shownView)) = true := by
          simp [hview, activity_ne]
        have hnext := Next.turn newId htimer htime hview
        rw [← hpending] at hnext
        exact hnext
      all_goals
        rename_i hview
        rw [Option.some.injEq] at h
        rw [← h]
        cases hsaved : s.controller.isContentSaved with
        | false =>
          rw [update_saveSheet (by simp [hview]) hsaved]
          exact .timeOut newId htimer htime (by simp [hview]) hsaved
        | true =>
          rw [saveSheet_of_saved hsaved, update_self]
          exact .tick newId htimer (by omega) (fun _ => ⟨by simp [hview], hsaved⟩) (by omega)
    . split at h
      . next htime =>
        split at h
        all_goals
          rename_i hview
          simp only [Option.some.injEq, Prod.mk.injEq] at h
          obtain ⟨rfl, rfl⟩ := h
        . rw [update_controller]
          . exact .enable newId htimer htime (by simp [hview])
          . rfl
        . rw [update_controller]
          . exact .enable newId htimer htime (by simp [hview])
          . rfl
        . rw [update_self]
          exact .tick newId htimer (by omega) (by omega) fun _ => hview
      . simp only [Option.some.injEq, Prod.mk.injEq] at h
        obtain ⟨rfl, rfl⟩ := h
        rw [update_self]
        exact .tick newId htimer (by omega) (by omega) (by omega)

theorem next_of_handleDBDataRoundNum
    {result : StateControllerSheet × List StateControllerSheet.Effect}
    (h : s.controller.handleDBDataRoundNum v = some result)
    : Next s (.roundNum v) ({ s with delivered := v :: s.delivered }.update result) := by
  have hstop : ∀ s' : SheetMachine, s.controller.stopOld.foldl perform s' = s' := by
    intro s'
    unfold StateControllerSheet.stopOld
    split <;> rfl
  have hobserve : ∀ s' : SheetMachine, (s.controller.observeNew v).foldl perform s' = s' := by
    intro s'
    unfold StateControllerSheet.observeNew
    split <;> rfl
  obtain ⟨c, effects⟩ := result
  rcases StateControllerSheet.handleDBDataRoundNum_cases h with
    ⟨heq, rfl, rfl⟩ | ⟨hne, hmem, rfl, rfl⟩ | ⟨hne, hmem, rfl, rfl⟩
  . rw [update_controller]
    . exact .sameRound v heq
    . rfl
  . rw [update_eq, List.foldl_append, hstop, hobserve]
    exact .begin v hne hmem
  . rw [update_eq, List.foldl_append, hstop]
    simpa [StateControllerSheet.finish, perform, handOver] using Next.handOver v hne hmem

theorem next_of_step {a : Input} (h : s.step a = some t) : Next s a t := by
  cases a with
  | tick newId =>
    simp only [step, Option.bind_eq_bind, Option.pure_def] at h
    split at h
    . next htimer =>
      rw [Option.bind_eq_some_iff] at h
      obtain ⟨result, hresult, ht⟩ := h
      rw [Option.some.injEq] at ht
      rw [← ht]
      exact next_of_checkTimer htimer hresult
    . contradiction
  | appear =>
    simp only [step] at h
    split at h
    . next hmoved =>
      rw [Option.some.injEq] at h
      rw [← h, resetCountdown_eq, update_controller]
      . exact .appear hmoved
      . rfl
    . contradiction
  | done newId =>
    simp only [step] at h
    split at h
    . next hmoved =>
      rw [Option.some.injEq] at h
      rw [← h]
      cases hsaved : s.controller.isContentSaved with
      | true =>
        rw [saveSheet_of_saved hsaved, update_self]
        exact .done newId hmoved hsaved
      | false =>
        by_cases hview : s.controller.shownView = .getReady
        . rw [saveSheet_of_getReady hview hsaved, update_controller]
          . exact .skip newId hmoved hview hsaved
          . rfl
        . rw [update_saveSheet hview hsaved]
          exact .handIn newId hmoved hview hsaved
    . contradiction
  | type guess =>
    simp only [step] at h
    split at h
    . next hshown =>
      rw [Option.some.injEq] at h
      rw [← h, update_controller]
      . exact .type guess hshown.1 hshown.2
      . rfl
    . contradiction
  | draw image =>
    simp only [step] at h
    split at h
    . next hshown =>
      rw [Option.some.injEq] at h
      rw [← h, update_controller]
      . exact .draw image hshown.1 hshown.2
      . rfl
    . contradiction
  | force =>
    simp only [step] at h
    split at h
    . next hmoved =>
      rw [Option.some.injEq] at h
      rw [← h, StateControllerSheet.forceRoundEnd, update_eq]
      simpa [perform] using Next.force hmoved
    . contradiction
  | roundNum v =>
    simp only [step, Option.bind_eq_bind, Option.pure_def] at h
    rw [Option.bind_eq_some_iff] at h
    obtain ⟨result, hresult, ht⟩ := h
    rw [Option.some.injEq] at ht
    rw [← ht]
    exact next_of_handleDBDataRoundNum hresult
  | reference sheet =>
    simp only [step, Option.some.injEq] at h
    rw [← h, update_controller]
    . exact .reference sheet
    . rfl
  | roundSheets n =>
    simp only [step, Option.some.injEq] at h
    rcases hresult : s.controller.handleDBDataRoundSheets n with ⟨c, effects⟩
    obtain ⟨rfl, heffects⟩ := StateControllerSheet.handleDBDataRoundSheets_cases hresult
    rw [← h, hresult, update_eq]
    rcases heffects with ⟨-, -, rfl⟩ | ⟨-, rfl⟩
    . simpa [perform] using Next.roundSheets n
    . simpa using Next.roundSheets n

/-! # What is written -/

theorem Next.saved_eq {a : Input} (h : Next s a t)
    : (¬s.Writes a ∧ t.saved = s.saved)
        ∨
      (s.Writes a ∧ ∃ newId, t.saved = s.sheet newId :: s.saved) := by
  cases h with
  | timeOut newId _ htime hview hsaved => exact .inr ⟨⟨htime, hview, hsaved⟩, newId, rfl⟩
  | handIn newId _ hview hsaved => exact .inr ⟨⟨hview, hsaved⟩, newId, rfl⟩
  | lookUp newId _ htime =>
    refine .inl ⟨?_, rfl⟩
    intro hwrites
    have := hwrites.1
    omega
  | turn newId _ _ hview => exact .inl ⟨fun hwrites => hwrites.2.1 hview, rfl⟩
  | enable newId _ htime =>
    refine .inl ⟨?_, rfl⟩
    intro hwrites
    have := hwrites.1
    omega
  | tick newId _ _ hsaved =>
    refine .inl ⟨?_, rfl⟩
    intro hwrites
    exact absurd hwrites.2.2 (by simp [hsaved hwrites.1])
  | skip newId _ hview => exact .inl ⟨fun hwrites => hwrites.1 hview, rfl⟩
  | done newId _ hsaved => exact .inl ⟨fun hwrites => absurd hwrites.2 (by simp [hsaved]), rfl⟩
  | _ => exact .inl ⟨id, rfl⟩

theorem Next.saved_subset {a : Input} (h : Next s a t) : s.saved ⊆ t.saved := by
  rcases h.saved_eq with ⟨-, hsaved⟩ | ⟨-, newId, hsaved⟩
  . rw [hsaved]
    exact List.Subset.refl _
  . rw [hsaved]
    exact List.subset_cons_self _ _

theorem Next.settings {a : Input} (h : Next s a t)
    : t.controller.gameSettings = s.controller.gameSettings
        ∧
      t.controller.player = s.controller.player := by
  cases h <;> exact ⟨rfl, rfl⟩

theorem Writes.view_ne {a : Input} (h : s.Writes a) : s.controller.shownView ≠ .getReady := by
  cases a with
  | tick => exact h.2.1
  | done => exact h.1
  | _ => exact absurd h id

theorem Next.timer {a : Input} (h : Next s a t) (htimer : s.timer = true → s.moved = false)
    : t.timer = true → t.moved = false := by
  cases h with
  | handOver => simp [SheetMachine.handOver]
  | _ => exact htimer

theorem Next.moved_of_writes {a : Input} (h : Next s a t) (htimer : s.timer = true → s.moved = false)
    (hwrites : s.Writes a)
    : s.moved = false := by
  cases h with
  | timeOut _ hrunning => exact htimer hrunning
  | lookUp _ hrunning => exact htimer hrunning
  | turn _ hrunning => exact htimer hrunning
  | enable _ hrunning => exact htimer hrunning
  | tick _ hrunning => exact htimer hrunning
  | handIn _ hmoved => exact hmoved
  | skip _ hmoved => exact hmoved
  | done _ hmoved => exact hmoved
  | _ => exact absurd hwrites id

/-! # The device -/

/-- The machine does what the controller of a device does. -/
structure Simulates (d : SheetClient) (s : SheetMachine) : Prop where
  controller : s.controller = d.controller
  saved : s.saved = d.saved
  timer : s.timer = d.timer
  moved : s.moved = d.summary.isSome

theorem Simulates.perform {d : SheetClient} (h : Simulates d s) (e : StateControllerSheet.Effect)
    : Simulates (d.perform e) (s.perform e) := by
  cases e with
  | saveSheet code sheet => exact ⟨h.controller, congrArg (sheet :: ·) h.saved, h.timer, h.moved⟩
  | subscribe => exact ⟨h.controller, h.saved, rfl, h.moved⟩
  | unsubscribe => exact ⟨h.controller, h.saved, rfl, h.moved⟩
  | moveToStateSummary => exact ⟨h.controller, h.saved, h.timer, rfl⟩
  | _ => exact ⟨h.controller, h.saved, h.timer, h.moved⟩

theorem Simulates.foldl_perform {d : SheetClient} (h : Simulates d s)
    (effects : List StateControllerSheet.Effect)
    : Simulates (effects.foldl SheetClient.perform d) (effects.foldl SheetMachine.perform s) := by
  induction effects generalizing d s with
  | nil => exact h
  | cons e effects ih => exact ih (h.perform e)

theorem Simulates.update {d : SheetClient} (h : Simulates d s)
    (result : StateControllerSheet × List StateControllerSheet.Effect)
    : Simulates (d.update result) (s.update result) := by
  have hcalled : Simulates { d with controller := result.1 }
      { s with
        controller := result.1
        pending := s.pending || result.1.shownView ≠ s.controller.shownView } :=
    ⟨rfl, h.saved, h.timer, h.moved⟩
  have hperformed := hcalled.foldl_perform result.2
  unfold SheetClient.update SheetClient.refresh SheetMachine.update
  dsimp only at hperformed ⊢
  split
  . exact ⟨hperformed.controller, hperformed.saved, hperformed.timer, hperformed.moved⟩
  . exact hperformed

theorem Simulates.moved_eq {d : SheetClient} (h : Simulates d s) (hsummary : d.summary = none)
    : s.moved = false := by
  rw [h.moved, hsummary]
  rfl

/-- A step of the device is one of the machine, or does not concern the controller. -/
theorem Simulates.step {d d' : SheetClient} (h : Simulates d s) {a : SheetClient.Input}
    (hstep : d.step a = some d')
    : ∃ s', Simulates d' s' ∧ (s' = s ∨ ∃ b, s.step b = some s') := by
  -- The guards of the device are at least as strong as those of the machine.
  cases a with
  | tick newId =>
    simp only [SheetClient.step, Option.bind_eq_bind, Option.pure_def] at hstep
    split at hstep
    . next htimer =>
      rw [Option.bind_eq_some_iff] at hstep
      obtain ⟨result, hresult, hd⟩ := hstep
      obtain rfl := Option.some.inj hd
      refine ⟨_, h.update result, .inr ⟨.tick newId, ?_⟩⟩
      simp [SheetMachine.step, h.timer, htimer, h.controller, hresult]
    . contradiction
  | appear =>
    simp only [SheetClient.step] at hstep
    split at hstep
    . next hsummary =>
      obtain rfl := Option.some.inj hstep
      have hupdate := h.update (d.controller.resetCountdown, [])
      refine ⟨{ s.update (s.controller.resetCountdown, []) with pending := false }, ?_, .inr ⟨.appear, ?_⟩⟩
      . rw [h.controller]
        exact ⟨hupdate.controller, hupdate.saved, hupdate.timer, hupdate.moved⟩
      . exact if_pos (h.moved_eq hsummary)
    . contradiction
  | done newId =>
    simp only [SheetClient.step] at hstep
    split at hstep
    . next hdone =>
      obtain rfl := Option.some.inj hstep
      have hpressed : Simulates { d with isDone := true } s := ⟨h.controller, h.saved, h.timer, h.moved⟩
      refine ⟨_, hpressed.update _, .inr ⟨.done newId, ?_⟩⟩
      rw [← h.controller]
      exact if_pos (h.moved_eq hdone.1)
    . contradiction
  | type guess =>
    simp only [SheetClient.step] at hstep
    split at hstep
    . next hediting =>
      obtain rfl := Option.some.inj hstep
      have hupdate := h.update ({ d.controller with guess := guess }, [])
      refine ⟨{ s.update ({ s.controller with guess := guess }, []) with unsaved := true }, ?_,
        .inr ⟨.type guess, ?_⟩⟩
      . rw [h.controller]
        exact ⟨hupdate.controller, hupdate.saved, hupdate.timer, hupdate.moved⟩
      . exact if_pos ⟨h.moved_eq hediting.1, by rw [h.controller]; exact hediting.2.1⟩
    . contradiction
  | draw image =>
    simp only [SheetClient.step] at hstep
    split at hstep
    . next hediting =>
      obtain rfl := Option.some.inj hstep
      have hupdate := h.update ({ d.controller with canvasView := image }, [])
      refine ⟨{ s.update ({ s.controller with canvasView := image }, []) with unsaved := true }, ?_,
        .inr ⟨.draw image, ?_⟩⟩
      . rw [h.controller]
        exact ⟨hupdate.controller, hupdate.saved, hupdate.timer, hupdate.moved⟩
      . exact if_pos ⟨h.moved_eq hediting.1, by rw [h.controller]; exact hediting.2.1⟩
    . contradiction
  | force =>
    simp only [SheetClient.step] at hstep
    split at hstep
    . next hforce =>
      obtain rfl := Option.some.inj hstep
      refine ⟨_, h.update _, .inr ⟨.force, ?_⟩⟩
      rw [← h.controller]
      exact if_pos (h.moved_eq hforce.1)
    . contradiction
  | deliverRoundNum =>
    simp only [SheetClient.step, Option.bind_eq_bind, Option.pure_def] at hstep
    rw [Option.bind_eq_some_iff] at hstep
    obtain ⟨⟨v, o⟩, -, hstep⟩ := hstep
    rw [Option.bind_eq_some_iff] at hstep
    obtain ⟨result, hresult, hd⟩ := hstep
    obtain rfl := Option.some.inj hd
    have htold : Simulates { d with roundNum := o } { s with delivered := v :: s.delivered } :=
      ⟨h.controller, h.saved, h.timer, h.moved⟩
    refine ⟨_, htold.update result, .inr ⟨.roundNum v, ?_⟩⟩
    simp [SheetMachine.step, h.controller, hresult]
  | deliverRoundSheets n =>
    simp only [SheetClient.step, Option.bind_eq_bind, Option.pure_def] at hstep
    rw [Option.bind_eq_some_iff] at hstep
    obtain ⟨⟨v, o⟩, -, hd⟩ := hstep
    obtain rfl := Option.some.inj hd
    have htold : Simulates { d with roundSheets := Function.update d.roundSheets n o } s :=
      ⟨h.controller, h.saved, h.timer, h.moved⟩
    refine ⟨_, htold.update _, .inr ⟨.roundSheets v, ?_⟩⟩
    simp [SheetMachine.step, h.controller]
  | reply k =>
    simp only [SheetClient.step, Option.bind_eq_bind, Option.pure_def] at hstep
    rw [Option.bind_eq_some_iff] at hstep
    obtain ⟨⟨request, sheet⟩, -, hd⟩ := hstep
    obtain rfl := Option.some.inj hd
    have htold : Simulates { d with replies := d.replies.eraseIdx k } s :=
      ⟨h.controller, h.saved, h.timer, h.moved⟩
    refine ⟨_, htold.update _, .inr ⟨.reference sheet, ?_⟩⟩
    simp [SheetMachine.step, h.controller]
  | raiseRoundNum v =>
    simp only [SheetClient.step, Option.bind_eq_bind, Option.pure_def] at hstep
    rw [Option.bind_eq_some_iff] at hstep
    obtain ⟨o, -, hd⟩ := hstep
    obtain rfl := Option.some.inj hd
    exact ⟨s, ⟨h.controller, h.saved, h.timer, h.moved⟩, .inl rfl⟩
  | raiseRoundSheets n v =>
    simp only [SheetClient.step, Option.bind_eq_bind, Option.pure_def] at hstep
    rw [Option.bind_eq_some_iff] at hstep
    obtain ⟨o, -, hd⟩ := hstep
    obtain rfl := Option.some.inj hd
    exact ⟨s, ⟨h.controller, h.saved, h.timer, h.moved⟩, .inl rfl⟩
  | answer k o db images authorId =>
    simp only [SheetClient.step, Option.bind_eq_bind, Option.pure_def] at hstep
    rw [Option.bind_eq_some_iff] at hstep
    obtain ⟨⟨roundNum, authorNum⟩, -, hstep⟩ := hstep
    rw [Option.bind_eq_some_iff] at hstep
    obtain ⟨sheets, -, hd⟩ := hstep
    obtain rfl := Option.some.inj hd
    exact ⟨s, ⟨h.controller, h.saved, h.timer, h.moved⟩, .inl rfl⟩

end SheetMachine

end SCatCh
