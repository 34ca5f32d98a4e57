import SCatCh.State.Sheet

/-!
This module contains what each method of `StateController_Sheet` can do.
-/

namespace SCatCh.StateControllerSheet

open SubRootViewSheet

variable {c c' : StateControllerSheet} {effects : List Effect} {newId : UUID}

theorem getReferenceSheet_cases (h : c.getReferenceSheet newId = some (c', effects))
    : (c' = c ∧ effects = [])
        ∨
      (c.referenceSheet = none
        ∧ 1 < c.roundNum
        ∧ c' = c
        ∧ ∃ authorNum, getAuthorNumToGetRefSheet c.numOfPlayers c.player.number = some authorNum
            ∧ effects = [.getReferenceSheet c.gameSettings.code (c.roundNum - 1) authorNum])
        ∨
      (c.roundNum ≤ 1
        ∧ effects = []
        ∧ ∃ sheet, c' = { c with referenceSheet := some sheet }) := by
  unfold getReferenceSheet at h
  split at h
  . next hnone =>
    split at h
    . next hround =>
      simp only [Option.bind_eq_bind, Option.bind_eq_some_iff, Option.pure_def, Option.some.injEq,
        Prod.mk.injEq] at h
      obtain ⟨authorNum, hauthor, rfl, rfl⟩ := h
      exact .inr (.inl ⟨hnone, hround, rfl, authorNum, hauthor, rfl⟩)
    . next hround =>
      simp only [Option.pure_def, Option.some.injEq, Prod.mk.injEq] at h
      obtain ⟨rfl, rfl⟩ := h
      exact .inr (.inr ⟨by omega, rfl, _, rfl⟩)
  . simp only [Option.pure_def, Option.some.injEq, Prod.mk.injEq] at h
    obtain ⟨rfl, rfl⟩ := h
    exact .inl ⟨rfl, rfl⟩

theorem saveSheet_cases (h : c.saveSheet newId = (c', effects))
    : (c.isContentSaved = true ∧ c' = c ∧ effects = [])
        ∨
      (c.isContentSaved = false
        ∧ c.shownView = .getReady
        ∧ c' = { c with isContentSaved := true }
        ∧ effects = [])
        ∨
      (c.isContentSaved = false
        ∧ ∃ content guess canvasView,
            c' = { c with isContentSaved := true, guess := guess, canvasView := canvasView }
              ∧
            effects = [.saveSheet c.gameSettings.code ⟨newId, c.player, c.roundNum, content⟩]) := by
  unfold saveSheet at h
  split at h
  . next hsaved =>
    rw [Bool.not_eq_true'] at hsaved
    split at h
    . next heq =>
      split at heq
      . simp only [Prod.mk.injEq] at h heq
        obtain ⟨rfl, rfl⟩ := heq
        obtain ⟨rfl, rfl⟩ := h
        exact .inr (.inr ⟨hsaved, _, c.guess, _, rfl, rfl⟩)
      . simp only [Prod.mk.injEq] at h heq
        obtain ⟨rfl, rfl⟩ := heq
        obtain ⟨rfl, rfl⟩ := h
        exact .inr (.inr ⟨hsaved, _, _, c.canvasView, rfl, rfl⟩)
      . next hview =>
        simp only [Prod.mk.injEq] at h heq
        obtain ⟨rfl, rfl⟩ := heq
        obtain ⟨rfl, rfl⟩ := h
        exact .inr (.inl ⟨hsaved, hview, rfl, rfl⟩)
  . next hsaved =>
    simp only [Prod.mk.injEq] at h
    obtain ⟨rfl, rfl⟩ := h
    exact .inl ⟨by simpa using hsaved, rfl, rfl⟩

theorem checkTimer_cases (h : c.checkTimer newId = some (c', effects))
    : ∃ c₁ timeRemaining shownView enableForceRoundEnd,
        c' = { c₁ with
          timeRemaining := timeRemaining
          shownView := shownView
          enableForceRoundEnd := enableForceRoundEnd }
          ∧
        (c.getReferenceSheet newId = some (c₁, effects)
          ∨
        (c.shownView ≠ .getReady ∧ c.saveSheet newId = (c₁, effects))
          ∨
        (c₁ = c ∧ effects = [])) := by
  unfold checkTimer switchTimeRemaining at h
  simp only [Option.bind_eq_bind, Option.bind_eq_some_iff, Option.pure_def, Option.some.injEq,
    Prod.mk.injEq, Prod.exists] at h
  obtain ⟨c₂, _, h, rfl, rfl⟩ := h
  -- The cases are those of the `switch` over the remaining time.
  split at h
  . exact ⟨c₂, _, c₂.shownView, c₂.enableForceRoundEnd, rfl, .inl h⟩
  . split at h
    . split at h
      . simp only [Option.bind_eq_some_iff, Option.some.injEq, Prod.mk.injEq, Prod.exists] at h
        obtain ⟨c₁, _, h, rfl, rfl⟩ := h
        exact ⟨c₁, _, _, c₁.enableForceRoundEnd, rfl, .inl h⟩
      . next hview =>
        rw [Option.some.injEq] at h
        exact ⟨c₂, _, c₂.shownView, c₂.enableForceRoundEnd, rfl, .inr (.inl ⟨by simp [hview], h⟩)⟩
      . next hview =>
        rw [Option.some.injEq] at h
        exact ⟨c₂, _, c₂.shownView, c₂.enableForceRoundEnd, rfl, .inr (.inl ⟨by simp [hview], h⟩)⟩
    . split at h
      . split at h
        all_goals
          simp only [Option.some.injEq, Prod.mk.injEq] at h
          obtain ⟨rfl, rfl⟩ := h
        . exact ⟨c, _, c.shownView, true, rfl, .inr (.inr ⟨rfl, rfl⟩)⟩
        . exact ⟨c, _, c.shownView, true, rfl, .inr (.inr ⟨rfl, rfl⟩)⟩
        . exact ⟨c, _, c.shownView, c.enableForceRoundEnd, rfl, .inr (.inr ⟨rfl, rfl⟩)⟩
      . simp only [Option.some.injEq, Prod.mk.injEq] at h
        obtain ⟨rfl, rfl⟩ := h
        exact ⟨c, _, c.shownView, c.enableForceRoundEnd, rfl, .inr (.inr ⟨rfl, rfl⟩)⟩

def stopOld (c : StateControllerSheet) : List Effect :=
  if c.isHost then [.stopObservingRoundSheets c.gameSettings.code c.roundNum] else []

def observeNew (c : StateControllerSheet) (roundNum : Int) : List Effect :=
  if c.isHost then [.observeRoundSheets c.gameSettings.code roundNum] else []

def finish (c : StateControllerSheet) : List Effect :=
  [.unsubscribe, .stopObservingRoundNum c.gameSettings.code,
    .moveToStateSummary c.gameSettings c.numOfRounds c.numOfPlayers]

def announcement (roundNum : Int) : String :=
  if roundNum % 2 = 0 then "Get ready for Drawing" else "Get ready for Guessing"

theorem handleDBDataRoundNum_cases {roundNum : Int}
    (h : c.handleDBDataRoundNum roundNum = some (c', effects))
    : (roundNum = c.roundNum ∧ c' = c ∧ effects = [])
        ∨
      (roundNum ≠ c.roundNum
        ∧ (1 ≤ roundNum ∧ roundNum ≤ c.numOfRounds)
        ∧ c' = { c with
            roundNum := roundNum
            referenceSheet := none
            isContentSaved := false
            enableForceRoundEnd := false
            getReadyMessage := announcement roundNum
            shownView := .getReady }
        ∧ effects = c.stopOld ++ c.observeNew roundNum)
        ∨
      (roundNum ≠ c.roundNum
        ∧ ¬(1 ≤ roundNum ∧ roundNum ≤ c.numOfRounds)
        ∧ c' = { c with roundNum := roundNum }
        ∧ effects = c.stopOld ++ c.finish) := by
  unfold handleDBDataRoundNum at h
  split at h
  . next hne =>
    simp only [Option.bind_eq_bind, Option.bind_eq_some_iff, Option.pure_def, Option.some.injEq,
      Prod.mk.injEq, Prod.exists, initializeRound, closedRange?] at h
    obtain ⟨c₁, _, ⟨rounds, hrounds, h⟩, rfl, rfl⟩ := h
    -- The range of the rounds is not empty, as the method has returned.
    split at hrounds
    . rw [Option.some.injEq] at hrounds
      subst hrounds
      simp only [mem_closedRange] at h
      split at h
      . next hmem =>
        simp only [Option.some.injEq, Prod.mk.injEq] at h
        obtain ⟨rfl, rfl⟩ := h
        exact .inr (.inl ⟨hne, hmem, rfl, rfl⟩)
      . next hmem =>
        simp only [Option.some.injEq, Prod.mk.injEq] at h
        obtain ⟨rfl, rfl⟩ := h
        exact .inr (.inr ⟨hne, hmem, rfl, rfl⟩)
    . contradiction
  . next heq =>
    simp only [Option.pure_def, Option.some.injEq, Prod.mk.injEq] at h
    obtain ⟨rfl, rfl⟩ := h
    exact .inl ⟨by simpa using heq, rfl, rfl⟩

theorem handleDBDataRoundSheets_cases {numOfSavedSheets : Int}
    (h : c.handleDBDataRoundSheets numOfSavedSheets = (c', effects))
    : c' = c
        ∧
      ((c.isHost = true
          ∧ numOfSavedSheets = c.numOfPlayers
          ∧ effects = [.updateRoundNum c.gameSettings.code (c.roundNum + 1)])
        ∨
      (¬(c.isHost = true ∧ numOfSavedSheets = c.numOfPlayers) ∧ effects = [])) := by
  unfold handleDBDataRoundSheets forceRoundEnd at h
  split at h
  . next hend =>
    simp only [Prod.mk.injEq] at h
    obtain ⟨rfl, rfl⟩ := h
    exact ⟨rfl, .inl ⟨hend.1, hend.2, rfl⟩⟩
  . next hend =>
    simp only [Prod.mk.injEq] at h
    obtain ⟨rfl, rfl⟩ := h
    exact ⟨rfl, .inr ⟨hend, rfl⟩⟩

end SCatCh.StateControllerSheet
