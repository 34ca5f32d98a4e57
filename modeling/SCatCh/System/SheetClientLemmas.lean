import SCatCh.State.SheetLemmas
import SCatCh.System.SheetClient

/-!
This module contains what a step of a device in the Sheet state can do.
-/

namespace SCatCh.SheetClient

open SubRootViewSheet

inductive Next (c : SheetClient) : Input → SheetClient → Prop
  | look (newId : UUID) (timeRemaining : Int) (shownView : ViewType) (enableForceRoundEnd : Bool)
    : c.timer = true
        → Next c (.tick newId) (c.update ({ c.controller with
            timeRemaining := timeRemaining
            shownView := shownView
            enableForceRoundEnd := enableForceRoundEnd }, []))
  | placeholder (newId : UUID) (timeRemaining : Int) (shownView : ViewType) (enableForceRoundEnd : Bool)
      (sheet : Sheet)
    : c.timer = true → c.controller.roundNum ≤ 1
        → Next c (.tick newId) (c.update ({ c.controller with
            timeRemaining := timeRemaining
            shownView := shownView
            enableForceRoundEnd := enableForceRoundEnd
            referenceSheet := some sheet }, []))
  | ask (newId : UUID) (timeRemaining : Int) (shownView : ViewType) (enableForceRoundEnd : Bool)
      (authorNum : Int)
    : c.timer = true → c.controller.referenceSheet = none → 1 < c.controller.roundNum
        → StateControllerSheet.getAuthorNumToGetRefSheet c.controller.numOfPlayers
            c.controller.player.number = some authorNum
        → Next c (.tick newId) (c.update ({ c.controller with
            timeRemaining := timeRemaining
            shownView := shownView
            enableForceRoundEnd := enableForceRoundEnd },
            [.getReferenceSheet c.controller.gameSettings.code (c.controller.roundNum - 1) authorNum]))
  | timeOut (newId : UUID) (timeRemaining : Int) (shownView : ViewType) (enableForceRoundEnd : Bool)
      (content : Content) (guess : String) (canvasView : UIImage)
    : c.timer = true → c.controller.shownView ≠ .getReady → c.controller.isContentSaved = false
        → Next c (.tick newId) (c.update ({ c.controller with
            timeRemaining := timeRemaining
            shownView := shownView
            enableForceRoundEnd := enableForceRoundEnd
            isContentSaved := true
            guess := guess
            canvasView := canvasView },
            [.saveSheet c.controller.gameSettings.code
              ⟨newId, c.controller.player, c.controller.roundNum, content⟩]))
  | appear (timeRemaining : Int)
    : c.summary = none
        → Next c .appear (c.update ({ c.controller with timeRemaining := timeRemaining }, []))
  | handIn (newId : UUID) (content : Content) (guess : String) (canvasView : UIImage)
    : c.DoneEnabled → c.controller.isContentSaved = false
        → Next c (.done newId) ({ c with isDone := true }.update ({ c.controller with
            isContentSaved := true
            guess := guess
            canvasView := canvasView },
            [.saveSheet c.controller.gameSettings.code
              ⟨newId, c.controller.player, c.controller.roundNum, content⟩]))
  | done (newId : UUID)
    : c.DoneEnabled → c.controller.isContentSaved = true
        → Next c (.done newId) ({ c with isDone := true }.update (c.controller, []))
  | type (guess : String)
    : c.Editing .guessing
        → Next c (.type guess) (c.update ({ c.controller with guess := guess }, []))
  | draw (image : UIImage)
    : c.Editing .drawing
        → Next c (.draw image) (c.update ({ c.controller with canvasView := image }, []))
  | force
    : c.ForceEnabled
        → Next c .force (c.update (c.controller,
            [.updateRoundNum c.controller.gameSettings.code (c.controller.roundNum + 1)]))
  | raiseRoundNum (v : Int) (o : Observer Int)
    : c.roundNum.raise v = some o → Next c (.raiseRoundNum v) { c with roundNum := o }
  | sameRound (o : Observer Int)
    : c.roundNum.deliver = some (c.controller.roundNum, o)
        → Next c .deliverRoundNum ({ c with roundNum := o }.update (c.controller, []))
  | begin (v : Int) (o : Observer Int)
    : c.roundNum.deliver = some (v, o) → v ≠ c.controller.roundNum
        → 1 ≤ v ∧ v ≤ c.controller.numOfRounds
        → Next c .deliverRoundNum ({ c with roundNum := o }.update ({ c.controller with
            roundNum := v
            referenceSheet := none
            isContentSaved := false
            enableForceRoundEnd := false
            getReadyMessage := StateControllerSheet.announcement v
            shownView := .getReady },
            c.controller.stopOld ++ c.controller.observeNew v))
  | handOver (v : Int) (o : Observer Int)
    : c.roundNum.deliver = some (v, o) → v ≠ c.controller.roundNum
        → ¬(1 ≤ v ∧ v ≤ c.controller.numOfRounds)
        → Next c .deliverRoundNum ({ c with roundNum := o }.update ({ c.controller with roundNum := v },
            c.controller.stopOld ++ c.controller.finish))
  | raiseRoundSheets (n v : Int) (o : Observer Int)
    : (c.roundSheets n).raise v = some o
        → Next c (.raiseRoundSheets n v) { c with roundSheets := Function.update c.roundSheets n o }
  | endRound (n : Int) (o : Observer Int)
    : (c.roundSheets n).deliver = some (c.controller.numOfPlayers, o) → c.controller.isHost = true
        → Next c (.deliverRoundSheets n)
            ({ c with roundSheets := Function.update c.roundSheets n o }.update (c.controller,
              [.updateRoundNum c.controller.gameSettings.code (c.controller.roundNum + 1)]))
  | count (n v : Int) (o : Observer Int)
    : (c.roundSheets n).deliver = some (v, o)
        → ¬(c.controller.isHost = true ∧ v = c.controller.numOfPlayers)
        → Next c (.deliverRoundSheets n)
            ({ c with roundSheets := Function.update c.roundSheets n o }.update (c.controller, []))
  | answer (k : Nat) (o : IterationOrder) (db : Database) (images : Images) (authorId : UUID)
      (roundNum authorNum : Int) (sheets : List Sheet)
    : c.requests[k]? = some (roundNum, authorNum)
        → StorageControllerSheet.getReferenceSheet o db images c.controller.gameSettings.code roundNum
            authorNum authorId = some sheets
        → Next c (.answer k o db images authorId) { c with
            requests := c.requests.eraseIdx k
            replies := c.replies ++ sheets.map fun sheet => ((roundNum, authorNum), sheet) }
  | reply (k : Nat) (request : Int × Int) (sheet : Sheet)
    : c.replies[k]? = some (request, sheet)
        → Next c (.reply k) ({ c with replies := c.replies.eraseIdx k }.update
            ({ c.controller with referenceSheet := some sheet }, []))

variable {c c' : SheetClient}

theorem next_of_tick {newId : UUID} (h : c.step (.tick newId) = some c') : Next c (.tick newId) c' := by
  simp only [step] at h
  split at h
  . next htimer =>
    simp only [Option.bind_eq_bind, Option.bind_eq_some_iff, Option.pure_def, Option.some.injEq,
      Prod.exists] at h
    obtain ⟨k, effects, hcheck, rfl⟩ := h
    obtain ⟨k₁, _, _, _, rfl, href | ⟨hview, hsave⟩ | ⟨rfl, rfl⟩⟩ :=
      StateControllerSheet.checkTimer_cases hcheck
    . rcases StateControllerSheet.getReferenceSheet_cases href with
        ⟨rfl, rfl⟩ | ⟨hnone, hround, rfl, authorNum, hauthor, rfl⟩ | ⟨hround, rfl, sheet, rfl⟩
      . exact .look newId _ _ _ htimer
      . exact .ask newId _ _ _ authorNum htimer hnone hround hauthor
      . exact .placeholder newId _ _ _ sheet htimer hround
    . rcases StateControllerSheet.saveSheet_cases hsave with
        ⟨-, rfl, rfl⟩ | ⟨-, hready, -⟩ | ⟨hunsaved, content, guess, canvasView, rfl, rfl⟩
      . exact .look newId _ _ _ htimer
      . contradiction
      . exact .timeOut newId _ _ _ content guess canvasView htimer hview hunsaved
    . exact .look newId _ _ _ htimer
  . contradiction

theorem next_of_done {newId : UUID} (h : c.step (.done newId) = some c') : Next c (.done newId) c' := by
  simp only [step, Option.ite_none_right_eq_some, Option.some.injEq] at h
  obtain ⟨hdone, rfl⟩ := h
  rcases hsave : c.controller.saveSheet newId with ⟨k, effects⟩
  rcases StateControllerSheet.saveSheet_cases hsave with
    ⟨hsaved, rfl, rfl⟩ | ⟨-, hready, -⟩ | ⟨hunsaved, content, guess, canvasView, rfl, rfl⟩
  . exact .done newId hdone hsaved
  . exact absurd hready hdone.2.1
  . exact .handIn newId content guess canvasView hdone hunsaved

theorem next_of_deliverRoundNum (h : c.step .deliverRoundNum = some c') : Next c .deliverRoundNum c' := by
  simp only [step, Option.bind_eq_bind, Option.bind_eq_some_iff, Option.pure_def, Option.some.injEq,
    Prod.exists] at h
  obtain ⟨v, o, hdeliver, k, effects, hhandle, rfl⟩ := h
  rcases StateControllerSheet.handleDBDataRoundNum_cases hhandle with
    ⟨rfl, rfl, rfl⟩ | ⟨hne, hmem, rfl, rfl⟩ | ⟨hne, hmem, rfl, rfl⟩
  . exact .sameRound o hdeliver
  . exact .begin v o hdeliver hne hmem
  . exact .handOver v o hdeliver hne hmem

theorem next_of_deliverRoundSheets {n : Int} (h : c.step (.deliverRoundSheets n) = some c')
    : Next c (.deliverRoundSheets n) c' := by
  simp only [step, Option.bind_eq_bind, Option.bind_eq_some_iff, Option.pure_def, Option.some.injEq,
    Prod.exists] at h
  obtain ⟨v, o, hdeliver, rfl⟩ := h
  rcases hhandle : c.controller.handleDBDataRoundSheets v with ⟨k, effects⟩
  obtain ⟨rfl, ⟨hhost, rfl, rfl⟩ | ⟨hnot, rfl⟩⟩ :=
    StateControllerSheet.handleDBDataRoundSheets_cases hhandle
  . exact .endRound n o hdeliver hhost
  . exact .count n v o hdeliver hnot

theorem next_of_step {a : Input} (h : c.step a = some c') : Next c a c' := by
  cases a with
  | tick newId => exact next_of_tick h
  | done newId => exact next_of_done h
  | deliverRoundNum => exact next_of_deliverRoundNum h
  | deliverRoundSheets n => exact next_of_deliverRoundSheets h
  | appear =>
    simp only [step, Option.ite_none_right_eq_some, Option.some.injEq] at h
    obtain ⟨hsummary, rfl⟩ := h
    unfold StateControllerSheet.resetCountdown
    split <;> exact .appear _ hsummary
  | type guess =>
    simp only [step, Option.ite_none_right_eq_some, Option.some.injEq] at h
    obtain ⟨hediting, rfl⟩ := h
    exact .type guess hediting
  | draw image =>
    simp only [step, Option.ite_none_right_eq_some, Option.some.injEq] at h
    obtain ⟨hediting, rfl⟩ := h
    exact .draw image hediting
  | force =>
    simp only [step, Option.ite_none_right_eq_some, Option.some.injEq] at h
    obtain ⟨hforce, rfl⟩ := h
    exact .force hforce
  | raiseRoundNum v =>
    simp only [step, Option.bind_eq_bind, Option.bind_eq_some_iff, Option.pure_def,
      Option.some.injEq] at h
    obtain ⟨o, hraise, rfl⟩ := h
    exact .raiseRoundNum v o hraise
  | raiseRoundSheets n v =>
    simp only [step, Option.bind_eq_bind, Option.bind_eq_some_iff, Option.pure_def,
      Option.some.injEq] at h
    obtain ⟨o, hraise, rfl⟩ := h
    exact .raiseRoundSheets n v o hraise
  | answer k o db images authorId =>
    simp only [step, Option.bind_eq_bind, Option.bind_eq_some_iff, Option.pure_def,
      Option.some.injEq, Prod.exists] at h
    obtain ⟨roundNum, authorNum, hk, sheets, hsheets, rfl⟩ := h
    exact .answer k o db images authorId roundNum authorNum sheets hk hsheets
  | reply k =>
    simp only [step, Option.bind_eq_bind, Option.bind_eq_some_iff, Option.pure_def,
      Option.some.injEq, Prod.exists] at h
    obtain ⟨roundNum, authorNum, sheet, hk, rfl⟩ := h
    exact .reply k (roundNum, authorNum) sheet hk

/-! # What follows from it -/

variable {a : Input}

@[simp]
theorem foldl_perform_stopOld (c : SheetClient) (k : StateControllerSheet)
    : k.stopOld.foldl perform c
        =
      { c with
        roundSheets := if k.isHost then
            Function.update c.roundSheets k.roundNum (c.roundSheets k.roundNum).stop
          else
            c.roundSheets } := by
  unfold StateControllerSheet.stopOld
  split <;> rfl

@[simp]
theorem foldl_perform_observeNew (c : SheetClient) (k : StateControllerSheet) (v : Int)
    : (k.observeNew v).foldl perform c
        =
      { c with
        roundSheets := if k.isHost then
            Function.update c.roundSheets v (c.roundSheets v).observe
          else
            c.roundSheets } := by
  unfold StateControllerSheet.observeNew
  split <;> rfl

@[simp]
theorem foldl_perform_finish (c : SheetClient) (k : StateControllerSheet)
    : k.finish.foldl perform c
        =
      { c with
        timer := false
        roundNum := c.roundNum.stop
        summary := some (.init k.gameSettings k.numOfRounds k.numOfPlayers) } :=
  rfl

theorem Next.settings (h : Next c a c')
    : c'.controller.gameSettings = c.controller.gameSettings
        ∧ c'.controller.player = c.controller.player
        ∧ c'.controller.numOfPlayers = c.controller.numOfPlayers := by
  cases h <;> simp

theorem Next.summary_eq_none (h : Next c a c') (hsummary : c'.summary = none) : c.summary = none := by
  cases h with
  | handOver => simp [update] at hsummary
  | _ => simpa [update, perform] using hsummary

/-- Only a device whose timer runs asks for a reference, and it asks for one of the round before. -/
theorem Next.mem_requests (h : Next c a c') {r : Int × Int} (hr : r ∈ c'.requests)
    : r ∈ c.requests
        ∨
      (c.timer = true
        ∧ 1 < c.controller.roundNum
        ∧ r.1 = c.controller.roundNum - 1
        ∧ StateControllerSheet.getAuthorNumToGetRefSheet c.controller.numOfPlayers
            c.controller.player.number = some r.2
        ∧ c'.controller.roundNum = c.controller.roundNum) := by
  cases h with
  | ask newId _ _ _ authorNum htimer _ hround hauthor =>
    simp only [update, List.foldl_cons, List.foldl_nil, perform, refresh_requests, List.mem_append,
      List.mem_singleton] at hr
    rcases hr with hr | rfl
    . exact .inl hr
    . exact .inr ⟨htimer, hround, rfl, hauthor, by simp⟩
  | answer => exact .inl (List.mem_of_mem_eraseIdx hr)
  | _ => exact .inl (by simpa [update, perform] using hr)

theorem Next.mem_replies (h : Next c a c') {r : (Int × Int) × Sheet} (hr : r ∈ c'.replies)
    : r ∈ c.replies
        ∨
      ∃ k o db images authorId sheets,
        a = .answer k o db images authorId
          ∧ r.1 ∈ c.requests
          ∧ StorageControllerSheet.getReferenceSheet o db images c.controller.gameSettings.code r.1.1 r.1.2
              authorId = some sheets
          ∧ r.2 ∈ sheets := by
  cases h with
  | answer k o db images authorId roundNum authorNum sheets hk hsheets =>
    simp only [List.mem_append, List.mem_map] at hr
    rcases hr with hr | ⟨sheet, hsheet, rfl⟩
    . exact .inl hr
    . exact .inr ⟨k, o, db, images, authorId, sheets, rfl, List.mem_of_getElem? hk, hsheets, hsheet⟩
  | reply =>
    rw [update_replies] at hr
    exact .inl (List.mem_of_mem_eraseIdx hr)
  | _ => exact .inl (by simpa using hr)

/-- From round 2 on a reference stays for the round, comes as a reply or is left over at the end. -/
theorem Next.referenceSheet (h : Next c a c') {sheet : Sheet} (hround : 2 ≤ c'.controller.roundNum)
    (href : c'.controller.referenceSheet = some sheet)
    : (c'.controller.roundNum = c.controller.roundNum ∧ c.controller.referenceSheet = some sheet)
        ∨
      (c'.controller.roundNum = c.controller.roundNum
        ∧ ∃ k request, a = .reply k ∧ c.replies[k]? = some (request, sheet))
        ∨
      (c'.summary ≠ none
        ∧ c.controller.referenceSheet = some sheet
        ∧ a = .deliverRoundNum
        ∧ (∃ o, c.roundNum.deliver = some (c'.controller.roundNum, o))
        ∧ c'.controller.roundNum ≠ c.controller.roundNum
        ∧ c.controller.numOfRounds < c'.controller.roundNum) := by
  cases h with
  | placeholder newId _ _ _ _ _ hfirst =>
    -- There is a placeholder in the first round only.
    rw [update_controller] at hround
    dsimp only at hround
    omega
  | reply k request sheet' hk =>
    simp only [update_controller, Option.some.injEq] at href
    subst href
    exact .inr (.inl ⟨by simp, k, request, rfl, hk⟩)
  | begin => simp at href
  | handOver v o hdeliver hne hmem =>
    simp only [update_controller] at hround href ⊢
    exact .inr (.inr ⟨by simp [update], href, trivial, ⟨o, hdeliver⟩, hne, by omega⟩)
  | _ => exact .inl ⟨by simp, by simpa using href⟩

end SCatCh.SheetClient
