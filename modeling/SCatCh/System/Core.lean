import SCatCh.System.SheetClientLemmas

/-!
This module contains the abstraction of a device on which the progress of a game depends: its round,
whether its sheet is saved, what it has sent, and its observers. Views, timers, texts, images and
references are left out.
-/

namespace SCatCh

structure Core where
  gameSettings : GameSettings
  player : Player
  numOfPlayers : Int
  numOfRounds : Int
  isHost : Bool
  roundNum : Int
  isContentSaved : Bool
  finished : Bool
  outbox : List Write
  saved : List Sheet
  roundNumEvents : Observer Int
  sheetsEvents : Int → Observer Int

def SheetClient.core (c : SheetClient) : Core where
  gameSettings := c.controller.gameSettings
  player := c.controller.player
  numOfPlayers := c.controller.numOfPlayers
  numOfRounds := c.controller.numOfRounds
  isHost := c.controller.isHost
  roundNum := c.controller.roundNum
  isContentSaved := c.controller.isContentSaved
  finished := c.summary.isSome
  outbox := c.outbox
  saved := c.saved
  roundNumEvents := c.roundNum
  sheetsEvents := c.roundSheets

namespace Core

variable (k : Core)

def save (sheet : Sheet) : Core :=
  { k with
    isContentSaved := true
    outbox := k.outbox ++ [.sheet k.gameSettings.code sheet]
    saved := sheet :: k.saved }

def endRound : Core :=
  { k with outbox := k.outbox ++ [.roundNum k.gameSettings.code (k.roundNum + 1)] }

def setSheetsEvents (n : Int) (o : Observer Int) : Core :=
  { k with sheetsEvents := Function.update k.sheetsEvents n o }

@[simp]
theorem setSheetsEvents_self (n : Int) (o : Observer Int)
    : (k.setSheetsEvents n o).sheetsEvents n = o :=
  Function.update_self ..

@[simp]
theorem setSheetsEvents_of_ne {m n : Int} (h : m ≠ n) (o : Observer Int)
    : (k.setSheetsEvents n o).sheetsEvents m = k.sheetsEvents m :=
  Function.update_of_ne h ..

def stopObserving : Int → Observer Int :=
  if k.isHost then
    Function.update k.sheetsEvents k.roundNum (k.sheetsEvents k.roundNum).stop
  else
    k.sheetsEvents

def observing (v : Int) : Int → Observer Int :=
  if k.isHost then
    Function.update k.stopObserving v (k.stopObserving v).observe
  else
    k.stopObserving

@[simp]
theorem stopObserving_queue (n : Int) : (k.stopObserving n).queue = (k.sheetsEvents n).queue := by
  unfold stopObserving
  split
  . by_cases h : n = k.roundNum
    . subst h
      simp
    . simp [h]
  . rfl

@[simp]
theorem observing_queue (v n : Int) : (k.observing v n).queue = (k.sheetsEvents n).queue := by
  unfold observing
  split
  . by_cases h : n = v
    . subst h
      simp
    . simp [h]
  . simp

variable {k} in
theorem active_of_stopObserving {n : Int} (h : (k.stopObserving n).active = true)
    : (k.sheetsEvents n).active = true ∧ (k.isHost = true → n ≠ k.roundNum) := by
  unfold stopObserving at h
  split at h
  . by_cases hn : n = k.roundNum
    . subst hn
      simp at h
    . rw [Function.update_of_ne hn] at h
      exact ⟨h, fun _ => hn⟩
  . next hhost => exact ⟨h, fun hhost' => absurd hhost' hhost⟩

variable {k} in
theorem active_of_observing {v n : Int} (h : (k.observing v n).active = true)
    : (k.isHost = true ∧ n = v) ∨ (k.stopObserving n).active = true := by
  unfold observing at h
  split at h
  . next hhost =>
    by_cases hn : n = v
    . exact .inl ⟨hhost, hn⟩
    . rw [Function.update_of_ne hn] at h
      exact .inr h
  . exact .inr h

def moveTo (v : Int) : Core :=
  if 1 ≤ v ∧ v ≤ k.numOfRounds then
    { k with roundNum := v, isContentSaved := false, sheetsEvents := k.observing v }
  else
    { k with
      roundNum := v
      finished := true
      roundNumEvents := k.roundNumEvents.stop
      sheetsEvents := k.stopObserving }

variable {k} in
theorem moveTo_of_mem {v : Int} (h : 1 ≤ v ∧ v ≤ k.numOfRounds)
    : k.moveTo v
        =
      { k with roundNum := v, isContentSaved := false, sheetsEvents := k.observing v } := by
  rw [moveTo, if_pos h]

variable {k} in
theorem moveTo_of_not_mem {v : Int} (h : ¬(1 ≤ v ∧ v ≤ k.numOfRounds))
    : k.moveTo v
        =
      { k with
        roundNum := v
        finished := true
        roundNumEvents := k.roundNumEvents.stop
        sheetsEvents := k.stopObserving } := by
  rw [moveTo, if_neg h]

@[simp]
theorem moveTo_roundNum (v : Int) : (k.moveTo v).roundNum = v := by
  unfold moveTo
  split <;> rfl

@[simp]
theorem moveTo_saved (v : Int) : (k.moveTo v).saved = k.saved := by
  unfold moveTo
  split <;> rfl

@[simp]
theorem moveTo_outbox (v : Int) : (k.moveTo v).outbox = k.outbox := by
  unfold moveTo
  split <;> rfl

@[simp]
theorem moveTo_roundNumEvents_queue (v : Int)
    : (k.moveTo v).roundNumEvents.queue = k.roundNumEvents.queue := by
  unfold moveTo
  split <;> rfl

@[simp]
theorem moveTo_sheetsEvents_queue (v n : Int)
    : ((k.moveTo v).sheetsEvents n).queue = (k.sheetsEvents n).queue := by
  unfold moveTo
  split
  . exact observing_queue ..
  . exact stopObserving_queue ..

variable {k} in
theorem moveTo_sheetsEvents (hhost : k.isHost = false) (v : Int)
    : (k.moveTo v).sheetsEvents = k.sheetsEvents := by
  unfold moveTo observing stopObserving
  split <;> simp [hhost]

def Next (k : Core) (k' : Core) : SheetClient.Input → Prop
  | .tick newId | .done newId =>
    k' = k
      ∨
    (k.isContentSaved = false ∧ ∃ content, k' = k.save ⟨newId, k.player, k.roundNum, content⟩)
  | .force => k.finished = false ∧ k' = k.endRound
  | .raiseRoundNum v => ∃ o, k.roundNumEvents.raise v = some o ∧ k' = { k with roundNumEvents := o }
  | .deliverRoundNum => ∃ v o, k.roundNumEvents.deliver = some (v, o)
      ∧
    ((v = k.roundNum ∧ k' = { k with roundNumEvents := o })
      ∨
    (v ≠ k.roundNum ∧ k' = { k with roundNumEvents := o }.moveTo v))
  | .raiseRoundSheets n v => ∃ o, (k.sheetsEvents n).raise v = some o
      ∧
    k' = k.setSheetsEvents n o
  | .deliverRoundSheets n => ∃ v o, (k.sheetsEvents n).deliver = some (v, o)
      ∧
    ((k.isHost = true ∧ v = k.numOfPlayers
        ∧ k' = (k.setSheetsEvents n o).endRound)
      ∨
    (¬(k.isHost = true ∧ v = k.numOfPlayers)
        ∧ k' = k.setSheetsEvents n o))
  | .appear | .type _ | .draw _ | .answer .. | .reply _ => k' = k

theorem Next.constants {k k' : Core} {a : SheetClient.Input} (h : k.Next k' a)
    : k'.gameSettings = k.gameSettings
        ∧ k'.player = k.player
        ∧ k'.numOfPlayers = k.numOfPlayers
        ∧ k'.numOfRounds = k.numOfRounds
        ∧ k'.isHost = k.isHost := by
  cases a with
  | tick newId =>
    rcases h with rfl | ⟨-, content, rfl⟩
    . exact ⟨rfl, rfl, rfl, rfl, rfl⟩
    . exact ⟨rfl, rfl, rfl, rfl, rfl⟩
  | done newId =>
    rcases h with rfl | ⟨-, content, rfl⟩
    . exact ⟨rfl, rfl, rfl, rfl, rfl⟩
    . exact ⟨rfl, rfl, rfl, rfl, rfl⟩
  | force =>
    obtain ⟨-, rfl⟩ := h
    exact ⟨rfl, rfl, rfl, rfl, rfl⟩
  | raiseRoundNum v =>
    obtain ⟨o, -, rfl⟩ := h
    exact ⟨rfl, rfl, rfl, rfl, rfl⟩
  | deliverRoundNum =>
    obtain ⟨v, o, -, ⟨-, rfl⟩ | ⟨-, rfl⟩⟩ := h
    . exact ⟨rfl, rfl, rfl, rfl, rfl⟩
    . unfold moveTo
      split <;> exact ⟨rfl, rfl, rfl, rfl, rfl⟩
  | raiseRoundSheets n v =>
    obtain ⟨o, -, rfl⟩ := h
    exact ⟨rfl, rfl, rfl, rfl, rfl⟩
  | deliverRoundSheets n =>
    obtain ⟨v, o, -, ⟨-, -, rfl⟩ | ⟨-, rfl⟩⟩ := h
    . exact ⟨rfl, rfl, rfl, rfl, rfl⟩
    . exact ⟨rfl, rfl, rfl, rfl, rfl⟩
  | appear | type _ | draw _ | answer _ _ _ _ _ | reply _ =>
    rw [h]
    exact ⟨rfl, rfl, rfl, rfl, rfl⟩

structure InRange (k : Core) : Prop where
  roundNum : k.finished = false → k.roundNum ≤ k.numOfRounds
  active : ∀ n, (k.sheetsEvents n).active = true → 1 ≤ n ∧ n ≤ k.numOfRounds
  queue : ∀ n, (k.sheetsEvents n).queue ≠ [] → 1 ≤ n ∧ n ≤ k.numOfRounds

theorem InRange.moveTo {k : Core} (h : k.InRange) (v : Int) : (k.moveTo v).InRange := by
  by_cases hv : 1 ≤ v ∧ v ≤ k.numOfRounds
  . rw [moveTo_of_mem hv]
    refine ⟨fun _ => hv.2, ?_, ?_⟩
    . intro n hn
      rcases active_of_observing hn with ⟨-, rfl⟩ | hn
      . exact hv
      . exact h.active n (active_of_stopObserving hn).1
    . intro n hn
      rw [observing_queue] at hn
      exact h.queue n hn
  . rw [moveTo_of_not_mem hv]
    refine ⟨by simp, ?_, ?_⟩
    . intro n hn
      exact h.active n (active_of_stopObserving hn).1
    . intro n hn
      rw [stopObserving_queue] at hn
      exact h.queue n hn

theorem InRange.setSheetsEvents {k : Core} (h : k.InRange) {n : Int}
    (hn : 1 ≤ n ∧ n ≤ k.numOfRounds) (o : Observer Int)
    : (k.setSheetsEvents n o).InRange := by
  refine ⟨h.roundNum, ?_, ?_⟩
  . intro m hm
    by_cases hmn : m = n
    . subst hmn
      exact hn
    . rw [setSheetsEvents_of_ne _ hmn] at hm
      exact h.active m hm
  . intro m hm
    by_cases hmn : m = n
    . subst hmn
      exact hn
    . rw [setSheetsEvents_of_ne _ hmn] at hm
      exact h.queue m hm

theorem InRange.next {k k' : Core} {a : SheetClient.Input} (h : k.InRange) (hnext : k.Next k' a)
    : k'.InRange := by
  cases a with
  | tick newId =>
    rcases hnext with rfl | ⟨-, content, rfl⟩
    . exact h
    . exact ⟨h.roundNum, h.active, h.queue⟩
  | done newId =>
    rcases hnext with rfl | ⟨-, content, rfl⟩
    . exact h
    . exact ⟨h.roundNum, h.active, h.queue⟩
  | force =>
    obtain ⟨-, rfl⟩ := hnext
    exact ⟨h.roundNum, h.active, h.queue⟩
  | raiseRoundNum v =>
    obtain ⟨o, -, rfl⟩ := hnext
    exact ⟨h.roundNum, h.active, h.queue⟩
  | deliverRoundNum =>
    obtain ⟨v, o, -, ⟨-, rfl⟩ | ⟨-, rfl⟩⟩ := hnext
    . exact ⟨h.roundNum, h.active, h.queue⟩
    . apply InRange.moveTo
      exact ⟨h.roundNum, h.active, h.queue⟩
  | raiseRoundSheets n v =>
    obtain ⟨o, hraise, rfl⟩ := hnext
    exact h.setSheetsEvents (h.active n (Observer.raise_eq_some.1 hraise).1) o
  | deliverRoundSheets n =>
    obtain ⟨v, o, hdeliver, hk'⟩ := hnext
    obtain ⟨queue, hqueue, -⟩ := Observer.deliver_eq_some.1 hdeliver
    have hset := h.setSheetsEvents (h.queue n (by simp [hqueue])) o
    rcases hk' with ⟨-, -, rfl⟩ | ⟨-, rfl⟩
    . exact ⟨hset.roundNum, hset.active, hset.queue⟩
    . exact hset
  | appear | type _ | draw _ | answer _ _ _ _ _ | reply _ =>
    rw [hnext]
    exact h

theorem Next.of_roundNum_ne {k k' : Core} {a : SheetClient.Input} (h : k.Next k' a)
    (hne : k'.roundNum ≠ k.roundNum)
    : ∃ v o, k.roundNumEvents.deliver = some (v, o) ∧ v ≠ k.roundNum := by
  cases a with
  | deliverRoundNum =>
    obtain ⟨v, o, hdeliver, ⟨-, rfl⟩ | ⟨hv, rfl⟩⟩ := h
    . exact absurd rfl hne
    . exact ⟨v, o, hdeliver, hv⟩
  | tick newId => rcases h with rfl | ⟨-, content, rfl⟩ <;> exact absurd rfl hne
  | done newId => rcases h with rfl | ⟨-, content, rfl⟩ <;> exact absurd rfl hne
  | force =>
    obtain ⟨-, rfl⟩ := h
    exact absurd rfl hne
  | raiseRoundNum v =>
    obtain ⟨o, -, rfl⟩ := h
    exact absurd rfl hne
  | raiseRoundSheets n v =>
    obtain ⟨o, -, rfl⟩ := h
    exact absurd rfl hne
  | deliverRoundSheets n =>
    obtain ⟨v, o, -, ⟨-, -, rfl⟩ | ⟨-, rfl⟩⟩ := h <;> exact absurd rfl hne
  | appear | type _ | draw _ | answer _ _ _ _ _ | reply _ =>
    rw [h] at hne
    contradiction

theorem Next.mem_queue {k k' : Core} {a : SheetClient.Input} (h : k.Next k' a) {n v : Int}
    (hv : v ∈ (k'.sheetsEvents n).queue)
    : v ∈ (k.sheetsEvents n).queue ∨ a = .raiseRoundSheets n v := by
  cases a with
  | tick newId => rcases h with rfl | ⟨-, content, rfl⟩ <;> exact .inl hv
  | done newId => rcases h with rfl | ⟨-, content, rfl⟩ <;> exact .inl hv
  | force =>
    obtain ⟨-, rfl⟩ := h
    exact .inl hv
  | raiseRoundNum w =>
    obtain ⟨o, -, rfl⟩ := h
    exact .inl hv
  | deliverRoundNum =>
    obtain ⟨w, o, -, ⟨-, rfl⟩ | ⟨-, rfl⟩⟩ := h
    . exact .inl hv
    . rw [moveTo_sheetsEvents_queue] at hv
      exact .inl hv
  | raiseRoundSheets m w =>
    obtain ⟨o, hraise, rfl⟩ := h
    obtain ⟨-, -, rfl⟩ := Observer.raise_eq_some.1 hraise
    by_cases hnm : n = m
    . subst hnm
      simp only [setSheetsEvents_self, List.mem_append, List.mem_singleton] at hv
      rcases hv with hv | rfl
      . exact .inl hv
      . exact .inr rfl
    . rw [setSheetsEvents_of_ne _ hnm] at hv
      exact .inl hv
  | deliverRoundSheets m =>
    obtain ⟨w, o, hdeliver, hk'⟩ := h
    obtain ⟨queue, hqueue, rfl⟩ := Observer.deliver_eq_some.1 hdeliver
    have hmem : v ∈ ((k.setSheetsEvents m { k.sheetsEvents m with queue := queue }).sheetsEvents n).queue := by
      rcases hk' with ⟨-, -, rfl⟩ | ⟨-, rfl⟩ <;> exact hv
    by_cases hnm : n = m
    . subst hnm
      rw [setSheetsEvents_self] at hmem
      exact .inl (by rw [hqueue]; exact List.mem_cons_of_mem _ hmem)
    . rw [setSheetsEvents_of_ne _ hnm] at hmem
      exact .inl hmem
  | appear | type _ | draw _ | answer _ _ _ _ _ | reply _ =>
    rw [h] at hv
    exact .inl hv

end Core

namespace SheetClient

variable {c c' : SheetClient}

theorem core_ext {k : Core}
    (hgameSettings : c.controller.gameSettings = k.gameSettings)
    (hplayer : c.controller.player = k.player)
    (hnumOfPlayers : c.controller.numOfPlayers = k.numOfPlayers)
    (hnumOfRounds : c.controller.numOfRounds = k.numOfRounds)
    (hisHost : c.controller.isHost = k.isHost)
    (hroundNum : c.controller.roundNum = k.roundNum)
    (hisContentSaved : c.controller.isContentSaved = k.isContentSaved)
    (hfinished : c.summary.isSome = k.finished)
    (houtbox : c.outbox = k.outbox)
    (hsaved : c.saved = k.saved)
    (hroundNumEvents : c.roundNum = k.roundNumEvents)
    (hsheetsEvents : c.roundSheets = k.sheetsEvents)
    : c.core = k := by
  cases k
  simp_all [core]

theorem core_update_nil (k : StateControllerSheet)
    (hgameSettings : k.gameSettings = c.controller.gameSettings)
    (hplayer : k.player = c.controller.player)
    (hnumOfPlayers : k.numOfPlayers = c.controller.numOfPlayers)
    (hnumOfRounds : k.numOfRounds = c.controller.numOfRounds)
    (hisHost : k.isHost = c.controller.isHost)
    (hroundNum : k.roundNum = c.controller.roundNum)
    (hisContentSaved : k.isContentSaved = c.controller.isContentSaved)
    : (c.update (k, [])).core = c.core := by
  apply core_ext <;> simp [update, core, *]

/-- The abstraction takes a corresponding step. -/
theorem Next.core {a : Input} (h : Next c a c') : c.core.Next c'.core a := by
  cases h with
  | ask =>
    left
    apply core_ext <;> simp [update, perform, SheetClient.core]
  | timeOut newId _ _ _ content _ _ _ _ hunsaved | handIn newId content _ _ _ hunsaved =>
    right
    refine ⟨hunsaved, content, ?_⟩
    apply core_ext <;> simp [update, perform, SheetClient.core, Core.save, StorageControllerSheet.saveSheet_fst]
  | force hforce =>
    refine ⟨by simp [SheetClient.core, hforce.1], ?_⟩
    apply core_ext <;> simp [update, perform, SheetClient.core, Core.endRound,
      StorageControllerSheet.updateRoundNum]
  | raiseRoundNum v o hraise => exact ⟨o, hraise, rfl⟩
  | sameRound o hdeliver =>
    refine ⟨_, o, hdeliver, .inl ⟨rfl, ?_⟩⟩
    apply core_ext <;> simp [update, SheetClient.core]
  | begin v o hdeliver hne hmem =>
    refine ⟨v, o, hdeliver, .inr ⟨hne, ?_⟩⟩
    have hmem : 1 ≤ v ∧ v ≤ { c.core with roundNumEvents := o }.numOfRounds := hmem
    rw [Core.moveTo_of_mem hmem]
    unfold StateControllerSheet.stopOld StateControllerSheet.observeNew Core.observing
      Core.stopObserving
    cases hhost : c.controller.isHost
    all_goals apply core_ext <;> simp [update, perform, SheetClient.core, hhost]
  | handOver v o hdeliver hne hmem =>
    refine ⟨v, o, hdeliver, .inr ⟨hne, ?_⟩⟩
    have hmem : ¬(1 ≤ v ∧ v ≤ { c.core with roundNumEvents := o }.numOfRounds) := hmem
    rw [Core.moveTo_of_not_mem hmem]
    unfold StateControllerSheet.stopOld StateControllerSheet.finish Core.stopObserving
    cases hhost : c.controller.isHost
    all_goals apply core_ext <;> simp [update, perform, SheetClient.core, hhost]
  | raiseRoundSheets n v o hraise => exact ⟨o, hraise, rfl⟩
  | endRound n o hdeliver hhost =>
    refine ⟨_, o, hdeliver, .inl ⟨hhost, rfl, ?_⟩⟩
    apply core_ext <;> simp [update, perform, SheetClient.core, Core.endRound, Core.setSheetsEvents,
      StorageControllerSheet.updateRoundNum]
  | count n v o hdeliver hnot =>
    refine ⟨v, o, hdeliver, .inr ⟨hnot, ?_⟩⟩
    apply core_ext <;> simp [update, SheetClient.core, Core.setSheetsEvents]
  | answer => rfl
  | look | placeholder | done =>
    left
    apply core_update_nil <;> rfl
  | appear | type | draw | reply => apply core_update_nil <;> rfl

theorem core_step {a : Input} (h : c.step a = some c') : c.core.Next c'.core a := (next_of_step h).core

end SheetClient

end SCatCh
