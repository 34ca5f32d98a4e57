import SCatCh.Lib.Progress
import SCatCh.System.Ending

/-!
This module contains the proof that a game in which no one forces the end of a round never gets stuck:
whatever has happened so far, all the players can still get to the summary.
-/

namespace SCatCh

/-- Identifiers do not run out. -/
theorem UUID.exists_notMem (ids : Finset UUID) (h : ids.card < 16 ^ 32) : ∃ u, u ∉ ids := by
  by_contra hall
  push Not at hall
  have hle : (Finset.univ : Finset (List.Vector (Fin 16) 32)).card ≤ ids.card := by
    apply Finset.card_le_card_of_injOn fun v => ⟨v.toList, v.2⟩
    . intro v _
      exact hall _
    . intro v _ w _ heq
      exact List.Vector.toList_injective (congrArg UUID.digits heq)
  rw [Finset.card_univ, card_vector, Fintype.card_fin] at hle
  omega

theorem Board.applyAll_roundNum (b : Board) (ws : List Write)
    : (b.applyAll ws).roundNum = (roundNums ws).foldl (fun _ v => v) b.roundNum := by
  induction ws generalizing b with
  | nil => rfl
  | cons w ws ih =>
    rw [applyAll_cons, ih]
    cases w <;> rfl

theorem Board.applyAll_roundNum_congr {b b' : Board} {ws ws' : List Write}
    (h : b'.roundNum = b.roundNum) (hws : roundNums ws' = roundNums ws)
    : (b'.applyAll ws').roundNum = (b.applyAll ws).roundNum := by
  rw [applyAll_roundNum, applyAll_roundNum, h, hws]

/-! # What keeps a device going -/

namespace Core

variable {k k' : Core} {a : SheetClient.Input}

structure Live (k : Core) : Prop where
  active : k.finished = false → k.roundNumEvents.active = true
  last : ∀ w ∈ k.roundNumEvents.last, w = (k.roundNumEvents.queue.getLast?).getD k.roundNum
  saved : k.finished = false → k.isContentSaved = true → ∃ x ∈ k.saved, x.number = k.roundNum
  observing : k.isHost = true → k.finished = false → 1 ≤ k.roundNum →
    (k.sheetsEvents k.roundNum).active = true

theorem Live.congr (h : k.Live) (hfinished : k'.finished = k.finished)
    (hevents : k'.roundNumEvents = k.roundNumEvents) (hround : k'.roundNum = k.roundNum)
    (hsaved : k'.saved = k.saved) (hcontent : k'.isContentSaved = k.isContentSaved)
    (hhost : k'.isHost = k.isHost)
    (hactive : ∀ n, (k'.sheetsEvents n).active = (k.sheetsEvents n).active)
    : k'.Live := by
  refine ⟨?_, ?_, ?_, ?_⟩
  . rw [hfinished, hevents]
    exact h.active
  . rw [hevents, hround]
    exact h.last
  . rw [hfinished, hcontent, hsaved, hround]
    exact h.saved
  . rw [hhost, hfinished, hround, hactive]
    exact h.observing

theorem setSheetsEvents_active {n : Int} {o : Observer Int} (h : o.active = (k.sheetsEvents n).active)
    (m : Int)
    : ((k.setSheetsEvents n o).sheetsEvents m).active = (k.sheetsEvents m).active := by
  by_cases hm : m = n
  . subst hm
    rw [setSheetsEvents_self, h]
  . rw [setSheetsEvents_of_ne _ hm]

theorem Live.save (h : k.Live) {x : Sheet} (hx : x.number = k.roundNum) : (k.save x).Live :=
  ⟨h.active, h.last, fun _ _ => ⟨x, List.mem_cons_self, hx⟩, h.observing⟩

theorem Live.moveTo {v : Int} (hactive : k.finished = false → k.roundNumEvents.active = true)
    (hlast : ∀ w ∈ k.roundNumEvents.last, w = (k.roundNumEvents.queue.getLast?).getD v)
    : (k.moveTo v).Live := by
  by_cases hmem : 1 ≤ v ∧ v ≤ k.numOfRounds
  . rw [moveTo_of_mem hmem]
    refine ⟨hactive, hlast, by simp, ?_⟩
    intro hhost _ _
    simp only at hhost
    simp [Core.observing, hhost]
  . rw [moveTo_of_not_mem hmem]
    exact ⟨by simp, hlast, by simp, by simp⟩

theorem Live.next (h : k.Live) (hnext : k.Next k' a) : k'.Live := by
  cases a with
  | tick newId =>
    rcases hnext with rfl | ⟨-, content, rfl⟩
    . exact h
    . exact h.save rfl
  | done newId =>
    rcases hnext with rfl | ⟨-, content, rfl⟩
    . exact h
    . exact h.save rfl
  | force =>
    obtain ⟨-, rfl⟩ := hnext
    exact h.congr rfl rfl rfl rfl rfl rfl fun _ => rfl
  | raiseRoundNum v =>
    obtain ⟨o, hraise, rfl⟩ := hnext
    obtain ⟨-, -, rfl⟩ := Observer.raise_eq_some.1 hraise
    exact ⟨h.active, by simp, h.saved, h.observing⟩
  | deliverRoundNum =>
    obtain ⟨v, o, hdeliver, hk'⟩ := hnext
    obtain ⟨queue, hqueue, rfl⟩ := Observer.deliver_eq_some.1 hdeliver
    -- The last number told to the observer is still in the queue, or it is `v`.
    have hlast : ∀ w ∈ k.roundNumEvents.last, w = (queue.getLast?).getD v := by
      intro w hw
      rw [h.last w hw, hqueue, List.getLast?_cons]
      rfl
    rcases hk' with ⟨rfl, rfl⟩ | ⟨-, rfl⟩
    . exact ⟨h.active, hlast, h.saved, h.observing⟩
    . exact Live.moveTo h.active hlast
  | raiseRoundSheets n v =>
    obtain ⟨o, hraise, rfl⟩ := hnext
    obtain ⟨-, -, rfl⟩ := Observer.raise_eq_some.1 hraise
    exact h.congr rfl rfl rfl rfl rfl rfl (setSheetsEvents_active rfl)
  | deliverRoundSheets n =>
    obtain ⟨v, o, hdeliver, hk'⟩ := hnext
    obtain ⟨queue, -, rfl⟩ := Observer.deliver_eq_some.1 hdeliver
    rcases hk' with ⟨-, -, rfl⟩ | ⟨-, rfl⟩
    . exact h.congr rfl rfl rfl rfl rfl rfl (setSheetsEvents_active rfl)
    . exact h.congr rfl rfl rfl rfl rfl rfl (setSheetsEvents_active rfl)
  | appear | type _ | draw _ | answer _ _ _ _ _ | reply _ =>
    have hk : k' = k := hnext
    rw [hk]
    exact h

/-- The host has ended every round in which it was told of all the sheets, or is about to. -/
def Counted (numOfPlayers : Int) (k : Core) (b : Board) : Prop :=
  ∀ n, numOfPlayers ∈ (k.sheetsEvents n).last →
    numOfPlayers ∈ (k.sheetsEvents n).queue ∨ n < (b.applyAll k.outbox).roundNum

theorem last_of_moveTo {v n w : Int} (h : w ∈ ((k.moveTo v).sheetsEvents n).last)
    : w ∈ (k.sheetsEvents n).last := by
  have hstop : (k.stopObserving n).last = (k.sheetsEvents n).last := by
    unfold stopObserving
    split
    . by_cases hn : n = k.roundNum
      . subst hn
        rw [Function.update_self]
        rfl
      . rw [Function.update_of_ne hn]
    . rfl
  by_cases hmem : 1 ≤ v ∧ v ≤ k.numOfRounds
  . rw [moveTo_of_mem hmem] at h
    dsimp only [Core.observing] at h
    split at h
    . by_cases hn : n = v
      . subst hn
        simp at h
      . rwa [Function.update_of_ne hn, hstop] at h
    . rwa [hstop] at h
  . rw [moveTo_of_not_mem hmem] at h
    rwa [← hstop]

theorem Counted.congr {numOfPlayers : Int} {b b' : Board} (h : Counted numOfPlayers k b)
    (hevents : k'.sheetsEvents = k.sheetsEvents)
    (hround : (b'.applyAll k'.outbox).roundNum = (b.applyAll k.outbox).roundNum)
    : Counted numOfPlayers k' b' := by
  unfold Counted
  rw [hevents, hround]
  exact h

theorem Counted.next {numOfPlayers : Int} {b : Board} (h : Counted numOfPlayers k b)
    (hcounting : Counting numOfPlayers k (b.applyAll k.outbox))
    (hbound : (b.applyAll k.outbox).roundNum ≤ k.roundNum + 1) (hhost : k.isHost = true)
    (hplayers : k.numOfPlayers = numOfPlayers) (hforce : a ≠ .force) (hnext : k.Next k' a)
    : Counted numOfPlayers k' b := by
  have hsave : ∀ x, Counted numOfPlayers (k.save x) b := by
    intro x n hn
    have hview := Board.applyAll_concat b k.outbox (.sheet k.gameSettings.code x)
    dsimp only [save]
    rw [hview]
    exact h n hn
  cases a with
  | tick newId =>
    rcases hnext with rfl | ⟨-, content, rfl⟩
    . exact h
    . exact hsave _
  | done newId =>
    rcases hnext with rfl | ⟨-, content, rfl⟩
    . exact h
    . exact hsave _
  | force => contradiction
  | raiseRoundNum v =>
    obtain ⟨o, -, rfl⟩ := hnext
    exact h
  | deliverRoundNum =>
    obtain ⟨v, o, -, ⟨-, rfl⟩ | ⟨-, rfl⟩⟩ := hnext
    . exact h
    . intro n hn
      rw [moveTo_sheetsEvents_queue, moveTo_outbox]
      exact h n (last_of_moveTo (k := { k with roundNumEvents := o }) hn)
  | raiseRoundSheets m v =>
    obtain ⟨o, hraise, rfl⟩ := hnext
    obtain ⟨-, -, rfl⟩ := Observer.raise_eq_some.1 hraise
    intro n hn
    by_cases hnm : n = m
    . subst hnm
      simp only [setSheetsEvents_self, Option.mem_def, Option.some.injEq] at hn ⊢
      exact .inl (by simp [hn])
    . rw [setSheetsEvents_of_ne _ hnm] at hn ⊢
      exact h n hn
  | deliverRoundSheets m =>
    obtain ⟨v, o, hdeliver, hk'⟩ := hnext
    obtain ⟨queue, hqueue, rfl⟩ := Observer.deliver_eq_some.1 hdeliver
    -- What is told of has left the queue only if the host ends the round.
    have hset : ∀ n, numOfPlayers ∈ ((k.setSheetsEvents m { k.sheetsEvents m with queue := queue }).sheetsEvents n).last →
        numOfPlayers ∈ ((k.setSheetsEvents m { k.sheetsEvents m with queue := queue }).sheetsEvents n).queue
          ∨ n < (b.applyAll k.outbox).roundNum ∨ (n = m ∧ v = numOfPlayers) := by
      intro n hn
      by_cases hnm : n = m
      . subst hnm
        rw [setSheetsEvents_self] at hn ⊢
        rcases h n hn with hmem | hlt
        . rw [hqueue, List.mem_cons] at hmem
          rcases hmem with rfl | hmem
          . exact .inr (.inr ⟨rfl, rfl⟩)
          . exact .inl hmem
        . exact .inr (.inl hlt)
      . rw [setSheetsEvents_of_ne _ hnm] at hn ⊢
        exact (h n hn).imp_right .inl
    rcases hk' with ⟨-, hv, rfl⟩ | ⟨hnot, rfl⟩
    . intro n hn
      have hview := Board.applyAll_concat b k.outbox (.roundNum k.gameSettings.code (k.roundNum + 1))
      dsimp only [endRound, setSheetsEvents] at hn ⊢
      rw [hview]
      dsimp only [Board.apply]
      rcases hset n hn with hmem | hlt | ⟨rfl, rfl⟩
      . exact .inl hmem
      . exact .inr (by omega)
      . have := (hcounting.full n (by simp [hqueue])).1
        exact .inr (by omega)
    . intro n hn
      rcases hset n hn with hmem | hlt | ⟨-, hv⟩
      . exact .inl hmem
      . exact .inr hlt
      . exact absurd ⟨hhost, hv.trans hplayers.symm⟩ hnot
  | appear | type _ | draw _ | answer _ _ _ _ _ | reply _ =>
    have hk : k' = k := hnext
    rw [hk]
    exact h

end Core

namespace SheetClient

variable {c c' : SheetClient} {a : Input}

/-- The Done button is out of use only when the sheet is saved, and the timer runs to the end. -/
structure Ready (c : SheetClient) : Prop where
  done : c.isDone = true → c.controller.isContentSaved = true
  timer : c.summary = none → c.timer = true

namespace Ready

theorem update {k : StateControllerSheet} {effects : List StateControllerSheet.Effect}
    (hdone : k.shownView ≠ .getReady → (effects.foldl perform { c with controller := k }).isDone = true →
      k.isContentSaved = true)
    (htimer : (effects.foldl perform { c with controller := k }).summary = none →
      (effects.foldl perform { c with controller := k }).timer = true)
    : (c.update (k, effects)).Ready := by
  unfold SheetClient.update refresh
  split
  . exact ⟨by simp, htimer⟩
  . next hview =>
    refine ⟨?_, htimer⟩
    rw [foldl_perform_controller] at hview ⊢
    exact hdone hview

theorem next (h : c.Ready) (hnext : Next c a c') : c'.Ready := by
  cases hnext with
  | timeOut | handIn => exact update (fun _ _ => rfl) h.timer
  | done newId _ hsaved => exact update (fun _ _ => hsaved) h.timer
  | begin => exact update (by simp) (by simpa using h.timer)
  | handOver => exact update (by simpa using fun _ => h.done) (by simp)
  | raiseRoundNum | raiseRoundSheets | answer => exact ⟨h.done, h.timer⟩
  | _ => exact update (fun _ => h.done) h.timer

end Ready

end SheetClient

/-! # How far a device is from the summary -/

namespace SheetClient

/-- The seconds that the device is still to show `GetReadyView`, or more if it has not appeared. -/
def wait (c : SheetClient) : Nat :=
  if c.controller.shownView = .getReady then
    if 0 ≤ c.controller.timeRemaining ∧ c.controller.timeRemaining ≤ 3 then
      c.controller.timeRemaining.toNat + 1
    else
      5
  else
    0

def weight (numOfRounds : Int) (c : SheetClient) : Nat :=
  100 * (numOfRounds + 1 - c.controller.roundNum).toNat
    + (if c.controller.isContentSaved then 0 else 10)
    + c.wait
    + c.outbox.length

variable {c c' : SheetClient} {R : Int}

theorem wait_le (c : SheetClient) : c.wait ≤ 5 := by
  unfold wait
  split
  . split <;> omega
  . omega

theorem weight_lt_of_wait (hround : c'.controller.roundNum = c.controller.roundNum)
    (hsaved : c'.controller.isContentSaved = c.controller.isContentSaved)
    (houtbox : c'.outbox = c.outbox) (hwait : c'.wait < c.wait)
    : c'.weight R < c.weight R := by
  unfold weight
  rw [hround, hsaved, houtbox]
  omega

theorem exists_getReferenceSheet {k : StateControllerSheet} (newId : UUID) (hplayers : k.numOfPlayers ≠ 0)
    : ∃ effects reference,
        k.getReferenceSheet newId = some ({ k with referenceSheet := reference }, effects)
          ∧ ∀ c : SheetClient, ∀ k', (c.update (k', effects)).outbox = c.outbox := by
  have hauthor : ∃ authorNum, StateControllerSheet.getAuthorNumToGetRefSheet k.numOfPlayers k.player.number
      = some authorNum := by
    simp [StateControllerSheet.getAuthorNumToGetRefSheet, remainder, hplayers]
  obtain ⟨authorNum, hauthor⟩ := hauthor
  unfold StateControllerSheet.getReferenceSheet
  rw [hauthor]
  split
  . split
    . exact ⟨_, k.referenceSheet, rfl, fun c k' => by simp [update, perform]⟩
    . exact ⟨_, _, rfl, fun c k' => by simp [update]⟩
  . exact ⟨_, k.referenceSheet, rfl, fun c k' => by simp [update]⟩

theorem exists_tick (newId : UUID) (hready : c.controller.shownView = .getReady)
    (htime : 0 ≤ c.controller.timeRemaining ∧ c.controller.timeRemaining ≤ 3)
    (hplayers : c.controller.numOfPlayers ≠ 0) (htimer : c.timer = true)
    : ∃ c', c.step (.tick newId) = some c' ∧ c'.weight R < c.weight R := by
  obtain ⟨effects, reference, href, hout⟩ := exists_getReferenceSheet newId hplayers
  have hwait : c.wait = c.controller.timeRemaining.toNat + 1 := by
    unfold wait
    rw [if_pos hready, if_pos htime]
  by_cases hpos : 1 ≤ c.controller.timeRemaining
  . have hcheck : c.controller.checkTimer newId = some ({ c.controller with
        referenceSheet := reference
        timeRemaining := c.controller.timeRemaining - 1 }, effects) := by
      simp [StateControllerSheet.checkTimer, StateControllerSheet.switchTimeRemaining, hpos, href]
    refine ⟨_, by simp [step, htimer, hcheck]; rfl, ?_⟩
    apply weight_lt_of_wait
    . simp
    . simp
    . exact hout c _
    . rw [hwait, wait, update_controller, if_pos hready, if_pos (by dsimp only; omega)]
      dsimp only
      omega
  . have hzero : c.controller.timeRemaining = 0 := by omega
    have hcheck : c.controller.checkTimer newId = some ({ c.controller with
        referenceSheet := reference
        shownView := if c.controller.roundNum % 2 = 0 then .drawing else .guessing
        timeRemaining := c.controller.timeRemaining - 1 }, effects) := by
      simp [StateControllerSheet.checkTimer, StateControllerSheet.switchTimeRemaining, hzero, hready, href]
    refine ⟨_, by simp [step, htimer, hcheck]; rfl, ?_⟩
    apply weight_lt_of_wait
    . simp
    . simp
    . exact hout c _
    . rw [hwait, wait, update_controller, if_neg (by dsimp only; split <;> simp)]
      omega

/-- A device that has not saved its sheet can come closer to it, whatever its view is. -/
theorem exists_handIn (h : c.Ready) (hsummary : c.summary = none)
    (hunsaved : c.controller.isContentSaved = false) (hplayers : c.controller.numOfPlayers ≠ 0)
    (newId : UUID)
    : ∃ a c',
        (a = .appear ∨ a = .tick newId ∨ a = .done newId)
          ∧ c.step a = some c'
          ∧ c'.weight R < c.weight R := by
  by_cases hready : c.controller.shownView = .getReady
  . by_cases htime : 0 ≤ c.controller.timeRemaining ∧ c.controller.timeRemaining ≤ 3
    . obtain ⟨c', hc'⟩ := exists_tick newId hready htime hplayers (h.timer hsummary)
      exact ⟨_, c', by simp, hc'⟩
    . have hreset : c.controller.resetCountdown = { c.controller with timeRemaining := 3 } := by
        simp [StateControllerSheet.resetCountdown, hready]
      refine ⟨.appear, c.update ({ c.controller with timeRemaining := 3 }, []), by simp, ?_, ?_⟩
      . simp [step, hsummary, hreset]
      . apply weight_lt_of_wait
        . simp
        . simp
        . simp [update]
        . rw [wait, wait, update_controller, if_pos hready, if_pos hready, if_pos (by simp), if_neg htime]
          simp
  . have hdone : c.isDone = false := by
      rw [Bool.eq_false_iff]
      intro hdone
      rw [h.done hdone] at hunsaved
      contradiction
    rcases hsave : c.controller.saveSheet newId with ⟨k, effects⟩
    refine ⟨.done newId, { c with isDone := true }.update (k, effects), by simp, ?_, ?_⟩
    . simp [step, DoneEnabled, hsummary, hready, hdone, hsave]
    . rcases StateControllerSheet.saveSheet_cases hsave with
        ⟨hsaved, -⟩ | ⟨-, hview, -⟩ | ⟨-, content, guess, canvasView, rfl, rfl⟩
      . rw [hunsaved] at hsaved
        contradiction
      . contradiction
      . simp [weight, wait, hready, hunsaved, update, perform]
        omega

end SheetClient

namespace Play

variable {ι : Type} [Fintype ι] [DecidableEq ι] {T : Table ι} {host : ι} {numOfPlayers : Int}
  {s t : Play ι} {a : Action ι} {b b' : Board}

variable (T host numOfPlayers) in
structure LiveInv (s : Play ι) (b : Board) : Prop where
  play : PlayInv T host numOfPlayers s b
  ahead : ∀ i, (s.core i).Ahead
  live : ∀ i, (s.core i).Live
  ready : ∀ i, (s.clients i).Ready
  started : 1 ≤ b.roundNum
  counted : Core.Counted numOfPlayers (s.core host) b

theorem counted_step (h : PlayInv T host numOfPlayers s b) (h' : PlayInv T host numOfPlayers t b')
    (hroster : T.FixedRoster host numOfPlayers) (hok : NoForce s a)
    (hcounted : Core.Counted numOfPlayers (s.core host) b) (hstep : s.step T a = some t)
    : Core.Counted numOfPlayers (t.core host) b' := by
  cases a with
  | device i a =>
    obtain ⟨-, -, hdb, -, -, k, hnext, hcore⟩ := step_device hstep
    have hround := h'.represents.roundNum
    rw [hdb, h.represents.roundNum, Option.some.injEq] at hround
    have hcounted' : Core.Counted numOfPlayers (t.core host) b := by
      apply core_host hcore (P := fun k => Core.Counted numOfPlayers k b) _ hcounted
      rintro rfl
      refine hcounted.next h.counting h.bound ?_ ?_ ?_ hnext
      . rw [(h.seated i).isHost, hroster.isHost]
      . rw [(h.seated i).numOfPlayers, hroster.num_players]
      . rintro rfl
        exact hok
    exact hcounted'.congr rfl (Board.applyAll_roundNum_congr hround.symm rfl)
  | process i =>
    obtain ⟨w, ws, hw, hdb, -, -, hcore⟩ := step_process hstep
    have hmem : w ∈ (s.core i).outbox := by simp [hw]
    have hround := h'.represents.roundNum
    rw [hdb, (h.represents_apply hmem).roundNum, Option.some.injEq] at hround
    by_cases hi : i = host
    . subst hi
      apply hcounted.congr
      . rw [hcore, Function.update_self]
      . rw [hcore, Function.update_self, hw, Board.applyAll_cons]
        exact Board.applyAll_roundNum_congr hround.symm rfl
    . rw [hcore, Function.update_of_ne (Ne.symm hi)]
      apply hcounted.congr rfl
      rw [(h.le_apply hmem hi).roundNum] at hround
      exact Board.applyAll_roundNum_congr hround.symm rfl
  | startGame i =>
    have hnot := (step_startGame hstep).1
    rw [h.entered i] at hnot
    contradiction
  | startReply i o =>
    have hnot := (step_startReply hstep).1
    rw [h.starts i] at hnot
    contradiction
  | enter i =>
    have hnot := (step_enter hstep).1
    rw [h.entered i] at hnot
    contradiction

theorem LiveInv.step (h : LiveInv T host numOfPlayers s b) (hroster : T.FixedRoster host numOfPlayers)
    (hpos : 1 ≤ numOfPlayers) (hok : NoForce s a) (hstep : s.step T a = some t)
    : ∃ b', LiveInv T host numOfPlayers t b' := by
  obtain ⟨b', h', hround⟩ := h.play.step hroster hpos hok hstep
  refine ⟨b', h', ahead_step h.play h.ahead hstep, ?_, ?_, ?_, ?_⟩
  . apply forall_core_step (P := fun _ k => k.Live) _ _ h.live hstep
    . intro i k k' a hk hnext
      exact hk.next hnext
    . intro i k ws hk
      exact hk.congr rfl rfl rfl rfl rfl rfl fun _ => rfl
  . intro j
    rcases clients_of_step hstep j with ⟨ws, heq⟩ | ⟨a', ha'⟩
    . rw [heq]
      exact ⟨(h.ready j).done, (h.ready j).timer⟩
    . exact (h.ready j).next (SheetClient.next_of_step ha')
  . have := h.started
    omega
  . exact counted_step h.play h' hroster hok h.counted hstep

theorem LiveInv.run {hist : List (Play ι × Action ι)} (hroster : T.FixedRoster host numOfPlayers)
    (hmax : 1 ≤ T.gameSettings.maxNumOfRounds) (hrun : (system T (Playing T)).Run NoForce hist s)
    : ∃ b, LiveInv T host numOfPlayers s b := by
  obtain ⟨-, hpos, hrounds, -⟩ := rounds_of_roster hroster hmax host
  apply hrun.invariant (I := fun s => ∃ b, LiveInv T host numOfPlayers s b)
  . intro s hs
    refine ⟨_, PlayInv.playing hroster hrounds hs, ?_, ?_, ?_, le_refl 1, ?_⟩
    . intro i
      rw [core, hs.clients, Table.core_create]
      exact ⟨le_refl 0, by simp⟩
    . intro i
      rw [core, hs.clients, Table.core_create]
      exact ⟨by simp, by simp, by simp, by simp⟩
    . intro i
      rw [hs.clients]
      exact ⟨fun hdone => by contradiction, fun _ => rfl⟩
    . rw [core, hs.clients, Table.core_create]
      simp [Core.Counted]
  . rintro s a t ⟨b, h⟩ hok hstep
    exact h.step hroster hpos hok hstep

omit [Fintype ι] [DecidableEq ι] in
theorem PlayInv.view_roundNum_le (h : PlayInv T host numOfPlayers s b) (i : ι)
    : (b.applyAll (s.core i).outbox).roundNum ≤ T.numOfRounds host + 1 := by
  by_cases hi : i = host
  . subst hi
    exact h.bound_rounds
  . rw [h.view_roundNum hi]
    exact h.good.roundNum_le.trans h.bound_rounds

/-! # Identifiers do not run out -/

omit [Fintype ι] [DecidableEq ι] in
theorem card_ids_le {R : Int} {saved : List Sheet}
    (honce : ∀ x ∈ saved, ∀ y ∈ saved, x.number = y.number → x = y)
    (hnumber : ∀ x ∈ saved, 0 ≤ x.number ∧ x.number ≤ R)
    : (saved.toFinset.image Sheet.id).card ≤ (R + 1).toNat := by
  have hle : saved.toFinset.card ≤ (Finset.Icc 0 R).card := by
    apply Finset.card_le_card_of_injOn Sheet.number
    . intro x hx
      simpa using hnumber x (by simpa using hx)
    . intro x hx y hy heq
      exact honce x (by simpa using hx) y (by simpa using hy) heq
  rw [Int.card_Icc, sub_zero] at hle
  exact Finset.card_image_le.trans hle

theorem exists_newId {hist : List (Play ι × Action ι)} (hroster : T.FixedRoster host numOfPlayers)
    (hmax : 1 ≤ T.gameSettings.maxNumOfRounds)
    (hids : numOfPlayers * (T.numOfRounds host + 1) < 16 ^ 32)
    (hrun : (system T (Playing T)).Run NoForce hist s)
    : ∃ newId, ∀ j, newId ∉ (s.core j).saved.map Sheet.id := by
  obtain ⟨b, h⟩ := LiveInv.run hroster hmax hrun
  obtain ⟨-, hpos, hone, -⟩ := rounds_of_roster hroster hmax host
  have hcard : ∀ j ∈ Finset.univ,
      ((s.core j).saved.toFinset.image Sheet.id).card ≤ (T.numOfRounds host + 1).toNat := by
    intro j _
    apply card_ids_le (h.play.own j).once
    intro x hx
    have hnumber := number_of_mem_saved (fun s hs => hs.clients) hrun h.play.seated hx
    rw [(rounds_of_roster hroster hmax j).1] at hnumber
    omega
  have hle := Finset.card_biUnion_le_card_mul _ _ _ hcard
  have hlt : Fintype.card ι * (T.numOfRounds host + 1).toNat < 16 ^ 32 := by
    rw [← hroster.card, ← Int.toNat_of_nonneg (show 0 ≤ T.numOfRounds host + 1 by omega)] at hids
    exact_mod_cast hids
  obtain ⟨newId, hnew⟩ := UUID.exists_notMem _ (hle.trans_lt hlt)
  refine ⟨newId, ?_⟩
  intro j hj
  rw [List.mem_map] at hj
  obtain ⟨x, hx, rfl⟩ := hj
  apply hnew
  rw [Finset.mem_biUnion]
  exact ⟨j, Finset.mem_univ j, Finset.mem_image_of_mem _ (by simpa using hx)⟩

/-! # What a device can do next -/

section Enabled

variable {c : SheetClient}

omit [Fintype ι] [DecidableEq ι] in
theorem exists_deliverRoundNum (hrounds : 1 ≤ c.controller.numOfRounds) (hqueue : c.roundNum.queue ≠ [])
    : ∃ c', c.step .deliverRoundNum = some c' := by
  obtain ⟨v, queue, hqueue⟩ := List.exists_cons_of_ne_nil hqueue
  have hdeliver : c.roundNum.deliver = some (v, { c.roundNum with queue := queue }) :=
    Observer.deliver_eq_some.2 ⟨queue, hqueue, rfl⟩
  have hhandle : (c.controller.handleDBDataRoundNum v).isSome = true := by
    unfold StateControllerSheet.handleDBDataRoundNum StateControllerSheet.initializeRound
    dsimp only
    rw [closedRange?_of_le hrounds]
    split
    . simp only [Option.bind_eq_bind, Option.bind_some]
      split <;> rfl
    . rfl
  obtain ⟨result, hresult⟩ := Option.isSome_iff_exists.1 hhandle
  simp [SheetClient.step, hdeliver, hresult]

omit [Fintype ι] [DecidableEq ι] in
theorem exists_deliverRoundSheets {n v : Int} {queue : List Int}
    (hqueue : (c.roundSheets n).queue = v :: queue)
    : ∃ c',
        c.step (.deliverRoundSheets n) = some c'
          ∧ c'.controller = c.controller
          ∧ (c'.roundSheets n).queue = queue
          ∧ c'.outbox
              =
            if c.controller.isHost = true ∧ v = c.controller.numOfPlayers then
              c.outbox ++ [.roundNum c.controller.gameSettings.code (c.controller.roundNum + 1)]
            else
              c.outbox := by
  have hdeliver : (c.roundSheets n).deliver = some (v, { c.roundSheets n with queue := queue }) :=
    Observer.deliver_eq_some.2 ⟨queue, hqueue, rfl⟩
  simp only [SheetClient.step, hdeliver, Option.bind_eq_bind, Option.bind_some, Option.pure_def,
    Option.some.injEq, exists_eq_left']
  unfold StateControllerSheet.handleDBDataRoundSheets StateControllerSheet.forceRoundEnd
  split
  . simp [SheetClient.update, SheetClient.perform, StorageControllerSheet.updateRoundNum]
  . simp [SheetClient.update]

end Enabled

section Leads

variable {init : Play ι → Prop} {i : ι} {c : SheetClient}

theorem leads_device {a : SheetClient.Input} (hentered : s.entered i = true)
    (hadmissible : s.Admissible T i a) (hforce : a ≠ .force) (hstep : (s.clients i).step a = some c)
    : (system T init).Leads NoForce s { s with clients := Function.update s.clients i c } := by
  apply TransitionSystem.Leads.single (a := .device i a)
  . cases a with
    | force => contradiction
    | _ => trivial
  . simp [system, step, hentered, hadmissible, hstep]

theorem leads_process {w : Write} {ws : List Write} (hw : (s.clients i).outbox = w :: ws)
    : (system T init).Leads NoForce s { s with
        db := w.apply s.db
        clients := Function.update s.clients i { s.clients i with outbox := ws } } := by
  apply TransitionSystem.Leads.single (a := .process i) trivial
  simp [system, step, hw]

end Leads

/-! # The steps to the summary -/

section Progress

variable {hist : List (Play ι × Action ι)} {i : ι}

variable (hroster : T.FixedRoster host numOfPlayers) (hmax : 1 ≤ T.gameSettings.maxNumOfRounds)
include hroster hmax

theorem exists_deliver {v : Int} {queue : List Int} (hrun : (system T (Playing T)).Run NoForce hist s)
    (hqueue : (s.core i).roundNumEvents.queue = v :: queue)
    : ∃ c,
        (system T (Playing T)).Leads NoForce s { s with clients := Function.update s.clients i c }
          ∧
        ∃ o, o.queue = queue
          ∧
        ((v = (s.core i).roundNum ∧ c.core = { s.core i with roundNumEvents := o })
          ∨
        (v ≠ (s.core i).roundNum ∧ c.core = { s.core i with roundNumEvents := o }.moveTo v)) := by
  obtain ⟨b, h⟩ := LiveInv.run hroster hmax hrun
  have hrounds : 1 ≤ (s.core i).numOfRounds := by
    rw [(h.play.seated i).numOfRounds, (rounds_of_roster hroster hmax i).1]
    exact (rounds_of_roster hroster hmax i).2.2.1
  have hne : (s.core i).roundNumEvents.queue ≠ [] := by simp [hqueue]
  obtain ⟨c, hc⟩ := exists_deliverRoundNum (c := s.clients i) hrounds hne
  refine ⟨c, leads_device (h.play.entered i) (by simp [Admissible]) (by simp) hc, ?_⟩
  obtain ⟨v', o, hdeliver, hk'⟩ := SheetClient.core_step hc
  obtain ⟨queue', hqueue', rfl⟩ := Observer.deliver_eq_some.1 hdeliver
  have hcons : v' :: queue' = v :: queue := hqueue'.symm.trans hqueue
  rw [List.cons.injEq] at hcons
  obtain ⟨rfl, rfl⟩ := hcons
  exact ⟨_, rfl, hk'⟩

/-- A device to which a later round is on its way can go to a later round. -/
theorem exists_advance_of_mem {w : Int} (hrun : (system T (Playing T)).Run NoForce hist s)
    (hw : w ∈ (s.core i).roundNumEvents.queue) (hlt : (s.core i).roundNum < w)
    : ∃ c,
        (system T (Playing T)).Leads NoForce s { s with clients := Function.update s.clients i c }
          ∧ c.core.outbox = (s.core i).outbox
          ∧ (s.core i).roundNum < c.core.roundNum := by
  generalize hqueue : (s.core i).roundNumEvents.queue = queue at hw
  induction queue generalizing s hist with
  | nil => simp at hw
  | cons v queue ih =>
    obtain ⟨b, h⟩ := LiveInv.run hroster hmax hrun
    obtain ⟨c, hleads, o, ho, ⟨heq, hk⟩ | ⟨hne, hk⟩⟩ := exists_deliver hroster hmax hrun hqueue
    . -- The device is told of its own round, the other one comes later.
      obtain ⟨later, hrun'⟩ := hrun.leads hleads
      have hw : w ∈ queue := by
        rw [List.mem_cons] at hw
        exact hw.resolve_left (by omega)
      have hcore : core { s with clients := Function.update s.clients i c } i = c.core := by
        simp [core]
      obtain ⟨c', hleads', hout, hround⟩ := ih hrun' (by rw [hcore, hk]; exact hlt)
        (by rw [hcore, hk]; exact ho) hw
      rw [hcore, hk] at hout hround
      dsimp only at hleads'
      rw [Function.update_idem] at hleads'
      exact ⟨c', hleads.trans hleads', hout, hround⟩
    . have hlow := (List.pairwise_cons.1 (h.play.ascending i)).1 v (by simp [hqueue])
      refine ⟨c, hleads, ?_, ?_⟩
      . rw [hk, Core.moveTo_outbox]
      . rw [hk, Core.moveTo_roundNum]
        omega

/-- A device that sees a later round can go to a later round. -/
theorem exists_advance {v : Int} (hrun : (system T (Playing T)).Run NoForce hist s)
    (hseen : StorageControllerSheet.observeRoundNum (s.view i) T.code = some v)
    (hlt : (s.core i).roundNum < v)
    : ∃ c,
        (system T (Playing T)).Leads NoForce s { s with clients := Function.update s.clients i c }
          ∧ c.core.outbox = (s.core i).outbox
          ∧ (s.core i).roundNum < c.core.roundNum := by
  by_cases hmem : v ∈ (s.core i).roundNumEvents.queue
  . exact exists_advance_of_mem hroster hmax hrun hmem hlt
  . obtain ⟨b, h⟩ := LiveInv.run hroster hmax hrun
    have hv : v = (b.applyAll (s.core i).outbox).roundNum := by
      rw [(h.play.represents_view i).roundNum, Option.some.injEq] at hseen
      exact hseen.symm
    have hbound := h.play.view_roundNum_le i
    have hfinished : (s.core i).finished = false := by
      rw [Bool.eq_false_iff]
      intro hfinished
      have hpast := (h.ahead i).finished hfinished
      rw [(h.play.seated i).numOfRounds, (rounds_of_roster hroster hmax i).1] at hpast
      omega
    have hlast : (s.core i).roundNumEvents.last ≠ some v := by
      intro hlast
      have hlast := (h.live i).last v hlast
      cases hget : (s.core i).roundNumEvents.queue.getLast? with
      | none =>
        rw [hget, Option.getD_none] at hlast
        omega
      | some w =>
        rw [hget, Option.getD_some] at hlast
        exact hmem (hlast ▸ List.mem_of_getLast? hget)
    obtain ⟨o, hraise⟩ : ∃ o, (s.core i).roundNumEvents.raise v = some o :=
      ⟨_, Observer.raise_eq_some.2 ⟨(h.live i).active hfinished, hlast, rfl⟩⟩
    have hc : (s.clients i).step (.raiseRoundNum v) = some { s.clients i with roundNum := o } := by
      have hraise : (s.clients i).roundNum.raise v = some o := hraise
      simp [SheetClient.step, hraise]
    obtain ⟨-, -, rfl⟩ := Observer.raise_eq_some.1 hraise
    have hleads : (system T (Playing T)).Leads NoForce s _ :=
      leads_device (a := .raiseRoundNum v) (h.play.entered i) hseen (by simp) hc
    obtain ⟨later, hrun'⟩ := hrun.leads hleads
    obtain ⟨c, hleads', hc'⟩ := exists_advance_of_mem hroster hmax (i := i) (w := v) hrun'
      (by simp [core, SheetClient.core]) (by simpa [core, SheetClient.core] using hlt)
    dsimp only at hleads'
    rw [Function.update_idem] at hleads'
    refine ⟨c, hleads.trans hleads', ?_⟩
    simpa [core, SheetClient.core] using hc'

/-- The host ends its round once it is told of all the sheets. -/
theorem exists_endRound_of_mem {n : Int} (hrun : (system T (Playing T)).Run NoForce hist s)
    (hmem : numOfPlayers ∈ ((s.core host).sheetsEvents n).queue)
    : ∃ c,
        (system T (Playing T)).Leads NoForce s { s with clients := Function.update s.clients host c }
          ∧ c.controller = (s.clients host).controller
          ∧ c.outbox = (s.clients host).outbox ++ [.roundNum T.code ((s.core host).roundNum + 1)] := by
  generalize hqueue : ((s.core host).sheetsEvents n).queue = queue at hmem
  induction queue generalizing s hist with
  | nil => simp at hmem
  | cons v queue ih =>
    obtain ⟨b, h⟩ := LiveInv.run hroster hmax hrun
    obtain ⟨hsettings, -, hplayers, -, hhost⟩ := h.play.seated host
    rw [hroster.num_players] at hplayers
    rw [(hroster.isHost host).2 rfl] at hhost
    obtain ⟨c, hc, hcontroller, hqueue', hout⟩ := exists_deliverRoundSheets (c := s.clients host) hqueue
    have hleads : (system T (Playing T)).Leads NoForce s _ :=
      leads_device (h.play.entered host) (by simp [Admissible]) (by simp) hc
    rw [show (s.clients host).controller.isHost = true from hhost,
      show (s.clients host).controller.numOfPlayers = numOfPlayers from hplayers,
      show (s.clients host).controller.gameSettings = T.gameSettings from hsettings] at hout
    by_cases hv : v = numOfPlayers
    . rw [if_pos ⟨rfl, hv⟩] at hout
      exact ⟨c, hleads, hcontroller, hout⟩
    . rw [if_neg (by simp [hv])] at hout
      obtain ⟨later, hrun'⟩ := hrun.leads hleads
      have hcore : core { s with clients := Function.update s.clients host c } host = c.core := by
        simp [core]
      rw [List.mem_cons] at hmem
      obtain ⟨c', hleads', hcontroller', hout'⟩ := ih hrun' (by rw [hcore]; exact hqueue')
        (hmem.resolve_left (Ne.symm hv))
      dsimp only at hleads'
      rw [Function.update_idem] at hleads'
      refine ⟨c', hleads.trans hleads', ?_, ?_⟩
      . simpa [hcontroller] using hcontroller'
      . simpa [core, SheetClient.core, hcontroller, hout] using hout'

theorem exists_endRound {v : Int} (hrun : (system T (Playing T)).Run NoForce hist s)
    (hround : (s.core host).roundNum = v) (hv : 1 ≤ v) (hfinished : (s.core host).finished = false)
    (hpresent : StorageControllerSheet.observeRoundNum (s.view host) T.code = some v)
    (hcount : StorageControllerSheet.observeRoundSheets (s.view host) T.code v = some numOfPlayers)
    : ∃ c,
        (system T (Playing T)).Leads NoForce s { s with clients := Function.update s.clients host c }
          ∧ c.controller = (s.clients host).controller
          ∧ c.outbox = (s.clients host).outbox ++ [.roundNum T.code (v + 1)] := by
  obtain ⟨b, h⟩ := LiveInv.run hroster hmax hrun
  by_cases hlast : numOfPlayers ∈ ((s.core host).sheetsEvents v).last
  . rcases h.counted v hlast with hmem | hpast
    . rw [← hround]
      exact exists_endRound_of_mem hroster hmax hrun hmem
    . rw [(h.play.represents_view host).roundNum, Option.some.injEq] at hpresent
      omega
  . have hactive : ((s.core host).sheetsEvents v).active = true := by
      have hhost : (s.core host).isHost = true := by
        rw [(h.play.seated host).isHost, hroster.isHost]
      have := (h.live host).observing hhost hfinished (by omega)
      rwa [hround] at this
    obtain ⟨o, hraise⟩ : ∃ o, ((s.core host).sheetsEvents v).raise numOfPlayers = some o :=
      ⟨_, Observer.raise_eq_some.2 ⟨hactive, hlast, rfl⟩⟩
    have hc : (s.clients host).step (.raiseRoundSheets v numOfPlayers) = some { s.clients host with
        roundSheets := Function.update (s.clients host).roundSheets v o } := by
      have hraise : ((s.clients host).roundSheets v).raise numOfPlayers = some o := hraise
      simp [SheetClient.step, hraise]
    obtain ⟨-, -, rfl⟩ := Observer.raise_eq_some.1 hraise
    have hleads : (system T (Playing T)).Leads NoForce s _ :=
      leads_device (a := .raiseRoundSheets v numOfPlayers) (h.play.entered host) hcount (by simp) hc
    obtain ⟨later, hrun'⟩ := hrun.leads hleads
    obtain ⟨c, hleads', hc'⟩ := exists_endRound_of_mem hroster hmax (n := v) hrun'
      (by simp [core, SheetClient.core])
    dsimp only at hleads'
    rw [Function.update_idem] at hleads'
    refine ⟨c, hleads.trans hleads', ?_⟩
    rw [← hround]
    simpa [core, SheetClient.core] using hc'

end Progress

/-! # The weight of a game -/

variable (T host) in
/-- The rounds that are still to be ended, as the host sees it. -/
def roundsLeft (s : Play ι) : Nat :=
  (T.numOfRounds host + 1 - (StorageControllerSheet.observeRoundNum (s.view host) T.code).getD 0).toNat

variable (T host) in
def weight (s : Play ι) : Nat :=
  ∑ i, (s.clients i).weight (T.numOfRounds host) + 50 * s.roundsLeft T host

omit [Fintype ι] [DecidableEq ι] in
theorem PlayInv.roundsLeft_eq (h : PlayInv T host numOfPlayers s b)
    : s.roundsLeft T host
        =
      (T.numOfRounds host + 1 - (b.applyAll (s.core host).outbox).roundNum).toNat := by
  rw [roundsLeft, (h.represents_view host).roundNum, Option.getD_some]

omit [Fintype ι] [DecidableEq ι] in
theorem PlayInv.roundsLeft_congr (h : PlayInv T host numOfPlayers s b)
    (h' : PlayInv T host numOfPlayers t b') (hround : b'.roundNum = b.roundNum)
    (hout : roundNums (t.core host).outbox = roundNums (s.core host).outbox)
    : t.roundsLeft T host = s.roundsLeft T host := by
  rw [h.roundsLeft_eq, h'.roundsLeft_eq, Board.applyAll_roundNum_congr hround hout]

theorem weight_lt (i : ι) (hother : ∀ j, j ≠ i → t.clients j = s.clients j)
    (h : (t.clients i).weight (T.numOfRounds host) + 50 * t.roundsLeft T host
      < (s.clients i).weight (T.numOfRounds host) + 50 * s.roundsLeft T host)
    : t.weight T host < s.weight T host := by
  have hsum : ∑ j ∈ Finset.univ.erase i, (t.clients j).weight (T.numOfRounds host)
      = ∑ j ∈ Finset.univ.erase i, (s.clients j).weight (T.numOfRounds host) := by
    apply Finset.sum_congr rfl
    intro j hj
    rw [hother j (Finset.ne_of_mem_erase hj)]
  unfold weight
  rw [← Finset.add_sum_erase _ _ (Finset.mem_univ i), ← Finset.add_sum_erase _ _ (Finset.mem_univ i), hsum]
  omega

/-! # All the sheets of a round -/

omit [DecidableEq ι] in
theorem exists_number (hroster : T.FixedRoster host numOfPlayers) {n : Int} (hlow : 1 ≤ n)
    (hhigh : n ≤ numOfPlayers)
    : ∃ i, (T.player i).number = n := by
  have hsurj := Finset.surj_on_of_inj_on_of_card_le (s := Finset.univ) (t := Finset.Icc 1 numOfPlayers)
    (fun i _ => (T.player i).number) (fun i _ => Finset.mem_Icc.2 (hroster.number i))
    (fun i j _ _ => hroster.number_inj i j)
    (by
      rw [Int.card_Icc, Finset.card_univ]
      have := hroster.card
      omega)
  obtain ⟨i, -, hi⟩ := hsurj n (Finset.mem_Icc.2 ⟨hlow, hhigh⟩)
  exact ⟨i, hi.symm⟩

theorem count_of_saved {hist : List (Play ι × Action ι)} {v : Int}
    (hroster : T.FixedRoster host numOfPlayers) (hpos : 1 ≤ numOfPlayers)
    (h : PlayInv T host numOfPlayers s b) (hrun : (system T (Playing T)).Run NoForce hist s)
    (hsent : ∀ i, (s.core i).outbox = []) (hsaved : ∀ i, ∃ x ∈ (s.core i).saved, x.number = v)
    : StorageControllerSheet.observeRoundSheets s.db T.code v = some numOfPlayers := by
  obtain ⟨b', h'⟩ := SheetsInv.run (fun _ hs => hs.fresh) hrun
  have hstored : ∀ i, ∃ x ∈ b.sheets, x.author = T.player i ∧ x.number = v := by
    intro i
    obtain ⟨x, hx, hnumber⟩ := hsaved i
    have hkey : x.id.uuidString ∈ (s.db.get (roundPath T.code v)).keys := by
      rw [h'.represents.stored.mem_sheet]
      have hkept := h'.kept i x hx
      rw [hsent i] at hkept
      exact ⟨x, hkept.resolve_right (by simp), hnumber, rfl⟩
    rw [h.represents.stored.mem_sheet] at hkey
    obtain ⟨y, hy, hnumber', hid⟩ := hkey
    obtain ⟨j, hj⟩ := h.stored y hy
    have heq := h.ids j i y hj x hx (UUID.uuidString_inj.1 hid)
    subst heq
    exact ⟨y, hy, h'.author i y hx, hnumber⟩
  have hall : ∀ a, 1 ≤ a → a ≤ numOfPlayers → b.Has a v := by
    intro a hlow hhigh
    obtain ⟨i, rfl⟩ := exists_number hroster hlow hhigh
    obtain ⟨x, hx, hauthor, hnumber⟩ := hstored i
    exact ⟨x, hx, by rw [hauthor], hnumber⟩
  obtain ⟨x, hx, -, rfl⟩ := hstored host
  have hcount : StorageControllerSheet.observeRoundSheets s.db T.code x.number
      = some ((s.db.get (roundPath T.code x.number)).keys.length : Int) := by
    unfold StorageControllerSheet.observeRoundSheets
    rw [h.represents.stored.asDictionary_round hx]
    rfl
  have hlength := (h.represents.authors_perm_closedRange (h.oncePerRound hroster h.stored) hall).length_eq
  rw [length_closedRange] at hlength
  rw [hcount, eq_length_authors hcount, Option.some.injEq, hlength]
  omega

/-! # The game can be finished -/

/-- All devices are in the summary, and all they had to send has arrived. -/
def Finished (s : Play ι) : Prop :=
  ∀ i, (s.clients i).summary.isSome = true ∧ (s.clients i).outbox = []

section Finish

variable {hist : List (Play ι × Action ι)} {i : ι} {c : SheetClient}

variable (hroster : T.FixedRoster host numOfPlayers) (hmax : 1 ≤ T.gameSettings.maxNumOfRounds)
include hroster hmax

theorem progress_process (hrun : (system T (Playing T)).Run NoForce hist s)
    (hout : (s.clients i).outbox ≠ [])
    : ∃ t, (system T (Playing T)).Leads NoForce s t ∧ t.weight T host < s.weight T host := by
  obtain ⟨b, h⟩ := LiveInv.run hroster hmax hrun
  obtain ⟨w, ws, hw⟩ := List.exists_cons_of_ne_nil hout
  have hleads : (system T (Playing T)).Leads NoForce s _ := leads_process hw
  refine ⟨_, hleads, weight_lt i ?_ ?_⟩
  . intro j hj
    exact Function.update_of_ne hj ..
  . obtain ⟨later, hrun'⟩ := hrun.leads hleads
    obtain ⟨b', h'⟩ := LiveInv.run hroster hmax hrun'
    have hleft : roundsLeft T host { s with
        db := w.apply s.db
        clients := Function.update s.clients i { s.clients i with outbox := ws } }
        = s.roundsLeft T host := by
      by_cases hi : i = host
      . subst hi
        simp [roundsLeft, view, core, SheetClient.core, hw]
      . have hmem : w ∈ (s.core i).outbox := by simp [core, SheetClient.core, hw]
        have hround := h'.play.represents.roundNum
        rw [(h.play.represents_apply hmem).roundNum, Option.some.injEq,
          (h.play.le_apply hmem hi).roundNum] at hround
        apply h.play.roundsLeft_congr h'.play hround.symm
        simp [core, Ne.symm hi]
    rw [hleft]
    simp only [Function.update_self, SheetClient.weight, SheetClient.wait, hw, List.length_cons]
    omega

/-- The device's weight goes down and the host sees the same round. -/
theorem progress_device (hrun : (system T (Playing T)).Run NoForce hist s)
    (hleads : (system T (Playing T)).Leads NoForce s { s with clients := Function.update s.clients i c })
    (hout : roundNums c.outbox = roundNums (s.clients i).outbox)
    (hweight : c.weight (T.numOfRounds host) < (s.clients i).weight (T.numOfRounds host))
    : ∃ t, (system T (Playing T)).Leads NoForce s t ∧ t.weight T host < s.weight T host := by
  obtain ⟨b, h⟩ := LiveInv.run hroster hmax hrun
  obtain ⟨later, hrun'⟩ := hrun.leads hleads
  obtain ⟨b', h'⟩ := LiveInv.run hroster hmax hrun'
  refine ⟨_, hleads, weight_lt i ?_ ?_⟩
  . intro j hj
    exact Function.update_of_ne hj ..
  . have hround := h'.play.represents.roundNum
    rw [h.play.represents.roundNum, Option.some.injEq] at hround
    rw [h.play.roundsLeft_congr h'.play hround.symm]
    . dsimp only
      rw [Function.update_self]
      omega
    . by_cases hi : i = host
      . subst hi
        simpa [core, SheetClient.core] using hout
      . simp [core, Ne.symm hi]

theorem progress_advance (hrun : (system T (Playing T)).Run NoForce hist s) {v : Int}
    (hseen : StorageControllerSheet.observeRoundNum (s.view i) T.code = some v)
    (hlt : (s.core i).roundNum < v)
    : ∃ t, (system T (Playing T)).Leads NoForce s t ∧ t.weight T host < s.weight T host := by
  obtain ⟨c, hleads, hout, hround⟩ := exists_advance hroster hmax hrun hseen hlt
  have hout : c.outbox = (s.clients i).outbox := hout
  apply progress_device hroster hmax hrun hleads (by rw [hout])
  have hround : (s.clients i).controller.roundNum < c.controller.roundNum := hround
  obtain ⟨b, h⟩ := LiveInv.run hroster hmax hrun
  have hbound := h.play.view_roundNum_le i
  rw [(h.play.represents_view i).roundNum, Option.some.injEq] at hseen
  have hlt : (s.clients i).controller.roundNum < v := hlt
  have hwait := c.wait_le
  unfold SheetClient.weight
  rw [hout]
  split <;> split <;> omega

theorem progress_handIn (hrun : (system T (Playing T)).Run NoForce hist s)
    (hids : numOfPlayers * (T.numOfRounds host + 1) < 16 ^ 32)
    (hfinished : (s.core i).finished = false) (hunsaved : (s.core i).isContentSaved = false)
    : ∃ t, (system T (Playing T)).Leads NoForce s t ∧ t.weight T host < s.weight T host := by
  obtain ⟨b, h⟩ := LiveInv.run hroster hmax hrun
  obtain ⟨newId, hnew⟩ := exists_newId hroster hmax hids hrun
  have hplayers : (s.clients i).controller.numOfPlayers ≠ 0 := by
    have hplayers := (h.play.seated i).numOfPlayers
    rw [hroster.num_players] at hplayers
    have hpos := (rounds_of_roster hroster hmax i).2.1
    have : (s.clients i).controller.numOfPlayers = numOfPlayers := hplayers
    omega
  have hsummary : (s.clients i).summary = none := by
    simpa [core, SheetClient.core] using hfinished
  obtain ⟨a, c, ha, hc, hweight⟩ := SheetClient.exists_handIn (R := T.numOfRounds host) (h.ready i)
    hsummary hunsaved hplayers newId
  have hnext := SheetClient.core_step hc
  have hsave : ∀ x, roundNums ((s.core i).save x).outbox = roundNums (s.core i).outbox := by
    simp [Core.save, roundNums_append]
  have hout : roundNums c.core.outbox = roundNums (s.core i).outbox := by
    rcases ha with rfl | rfl | rfl
    . rw [show c.core = s.core i from hnext]
    . rcases hnext with hk | ⟨-, content, hk⟩
      . rw [hk, core]
      . rw [hk]
        exact hsave _
    . rcases hnext with hk | ⟨-, content, hk⟩
      . rw [hk, core]
      . rw [hk]
        exact hsave _
  refine progress_device hroster hmax hrun (leads_device (h.play.entered i) ?_ ?_ hc) hout hweight
  . rcases ha with rfl | rfl | rfl
    . simp [Admissible]
    . exact hnew
    . exact hnew
  . rcases ha with rfl | rfl | rfl <;> simp

theorem progress_endRound (hrun : (system T (Playing T)).Run NoForce hist s) {v : Int}
    (hv : 1 ≤ v) (hlast : v ≤ T.numOfRounds host)
    (hpresent : StorageControllerSheet.observeRoundNum s.db T.code = some v)
    (hround : (s.core host).roundNum = v) (hfinished : (s.core host).finished = false)
    (hsent : ∀ i, (s.core i).outbox = []) (hsaved : ∀ i, ∃ x ∈ (s.core i).saved, x.number = v)
    : ∃ t, (system T (Playing T)).Leads NoForce s t ∧ t.weight T host < s.weight T host := by
  obtain ⟨b, h⟩ := LiveInv.run hroster hmax hrun
  have hview : s.view host = s.db := by rw [view, hsent host, applyAll_nil]
  have hcount := count_of_saved hroster (rounds_of_roster hroster hmax host).2.1 h.play hrun hsent hsaved
  obtain ⟨c, hleads, hcontroller, hout⟩ := exists_endRound hroster hmax hrun hround hv hfinished
    (by rwa [hview]) (by rwa [hview])
  refine ⟨_, hleads, weight_lt host ?_ ?_⟩
  . intro j hj
    exact Function.update_of_ne hj ..
  . have hleft : s.roundsLeft T host = (T.numOfRounds host + 1 - v).toNat := by
      rw [roundsLeft, hview, hpresent, Option.getD_some]
    have hleft' : roundsLeft T host { s with clients := Function.update s.clients host c }
        = (T.numOfRounds host + 1 - (v + 1)).toNat := by
      obtain ⟨later, hrun'⟩ := hrun.leads hleads
      obtain ⟨b', h'⟩ := LiveInv.run hroster hmax hrun'
      have hcore : core { s with clients := Function.update s.clients host c } host = c.core := by
        simp [core]
      rw [h'.play.roundsLeft_eq, hcore, show c.core.outbox = _ from hout, Board.applyAll_concat]
      rfl
    rw [hleft, hleft']
    dsimp only
    rw [Function.update_self]
    unfold SheetClient.weight SheetClient.wait
    rw [hcontroller, hout, List.length_append, List.length_singleton]
    omega

theorem progress (hrun : (system T (Playing T)).Run NoForce hist s)
    (hids : numOfPlayers * (T.numOfRounds host + 1) < 16 ^ 32)
    : Finished s ∨ ∃ t, (system T (Playing T)).Leads NoForce s t ∧ t.weight T host < s.weight T host := by
  obtain ⟨b, h⟩ := LiveInv.run hroster hmax hrun
  by_cases hsent : ∀ i, (s.core i).outbox = []
  case neg =>
    push Not at hsent
    obtain ⟨i, hi⟩ := hsent
    exact .inr (progress_process hroster hmax hrun hi)
  have hview : ∀ i, s.view i = s.db := by
    intro i
    rw [view, hsent i, applyAll_nil]
  have hpresent := h.play.represents.roundNum
  by_cases hround : ∀ i, (s.core i).roundNum = b.roundNum
  case neg =>
    push Not at hround
    obtain ⟨i, hi⟩ := hround
    have hle := (h.play.ascending i).le
    rw [hsent i, Board.applyAll_nil] at hle
    rw [← hview i] at hpresent
    exact .inr (progress_advance hroster hmax hrun hpresent (by omega))
  by_cases hlast : b.roundNum ≤ T.numOfRounds host
  case neg =>
    left
    intro i
    refine ⟨?_, hsent i⟩
    by_contra hfinished
    have hin := (h.play.inRange i).roundNum (by simpa [core, SheetClient.core] using hfinished)
    rw [(h.play.seated i).numOfRounds, (rounds_of_roster hroster hmax i).1, hround i] at hin
    contradiction
  have hfinished : ∀ i, (s.core i).finished = false := by
    intro i
    rw [Bool.eq_false_iff]
    intro hfinished
    have hpast := (h.ahead i).finished hfinished
    rw [(h.play.seated i).numOfRounds, (rounds_of_roster hroster hmax i).1, hround i] at hpast
    omega
  by_cases hsaved : ∀ i, (s.core i).isContentSaved = true
  case neg =>
    push Not at hsaved
    obtain ⟨i, hi⟩ := hsaved
    exact .inr (progress_handIn hroster hmax hrun hids (hfinished i) (by simpa using hi))
  right
  apply progress_endRound hroster hmax hrun h.started hlast hpresent (hround host) (hfinished host) hsent
  intro i
  rw [← hround i]
  exact (h.live i).saved (hfinished i) (hsaved i)

end Finish

end Play

end SCatCh
