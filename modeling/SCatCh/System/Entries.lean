import SCatCh.System.SheetMachineLemmas

/-!
This module contains the proof that a sheet holds only what was entered in its round, as long as no
round begins while something is entered that has not been saved. The statement is about two runs which
differ in what was entered in earlier rounds.
-/

namespace SCatCh.SheetMachine

open SubRootViewSheet

variable {s t : SheetMachine} {a : Input} {gameSettings : GameSettings} {player : Player}
  {numOfPlayers : Int} {isHost : Bool} {hist : List (SheetMachine × Input)}

def Input.isEntry : Input → Bool
  | .type _ | .draw _ => true
  | .tick _ | .appear | .done _ | .force | .roundNum _ | .reference _ | .roundSheets _ => false

def Begins (s : SheetMachine) : Input → Prop
  | .roundNum v =>
    s.moved = false ∧ v ≠ s.controller.roundNum ∧ 1 ≤ v ∧ v ≤ s.controller.numOfRounds
  | .tick _ | .appear | .done _ | .type _ | .draw _ | .force | .reference _ | .roundSheets _ => False

instance (s : SheetMachine) (a : Input) : Decidable (Begins s a) :=
  match a with
  | .roundNum _ => inferInstanceAs (Decidable (_ ∧ _))
  | .tick _ | .appear | .done _ | .type _ | .draw _ | .force | .reference _ | .roundSheets _ =>
    inferInstanceAs (Decidable False)

/-- When a round begins, everything that was entered has been saved. -/
def BeginsSaved (s : SheetMachine) (a : Input) : Prop := Begins s a → s.unsaved = false

instance (s : SheetMachine) (a : Input) : Decidable (BeginsSaved s a) := inferInstanceAs (Decidable (_ → _))

structure BlankInv (s : SheetMachine) : Prop where
  guess : s.moved = false → s.controller.shownView ≠ .guessing ∨ s.unsaved = false →
    s.controller.guess = ""
  canvas : s.moved = false → s.controller.shownView ≠ .drawing ∨ s.unsaved = false →
    s.controller.canvasView = .blank

theorem blankInv_create : BlankInv (create gameSettings player numOfPlayers isHost) := by
  constructor <;> simp [create, update, perform, StateControllerSheet.init]

theorem BlankInv.handIn (h : BlankInv s) (newId : UUID) : BlankInv (s.handIn newId) := by
  constructor
  . intro hmoved _
    by_cases hview : s.controller.shownView = .drawing
    . have := h.guess hmoved (.inl (by simp [hview]))
      simp [SheetMachine.handIn, hview, this]
    . simp [SheetMachine.handIn, hview]
  . intro hmoved _
    by_cases hview : s.controller.shownView = .drawing
    . simp [SheetMachine.handIn, hview]
    . have := h.canvas hmoved (.inl hview)
      simp [SheetMachine.handIn, hview, this]

theorem BlankInv.step (h : BlankInv s) (hok : BeginsSaved s a) (hnext : Next s a t) : BlankInv t := by
  cases hnext with
  | timeOut newId =>
    have := h.handIn newId
    exact ⟨this.guess, this.canvas⟩
  | handIn newId => exact h.handIn newId
  | turn _ _ _ hview =>
    have hguess := fun hmoved => h.guess hmoved (.inl (by simp [hview]))
    have hcanvas := fun hmoved => h.canvas hmoved (.inl (by simp [hview]))
    exact ⟨fun hmoved _ => hguess hmoved, fun hmoved _ => hcanvas hmoved⟩
  | type _ _ hview =>
    constructor
    . simp [hview]
    . exact fun hmoved _ => h.canvas hmoved (.inl (by simp [hview]))
  | draw _ _ hview =>
    constructor
    . exact fun hmoved _ => h.guess hmoved (.inl (by simp [hview]))
    . simp [hview]
  | begin v hne hmem =>
    constructor
    . exact fun hmoved _ => h.guess hmoved (.inr (hok ⟨hmoved, hne, hmem⟩))
    . exact fun hmoved _ => h.canvas hmoved (.inr (hok ⟨hmoved, hne, hmem⟩))
  | handOver => constructor <;> simp [SheetMachine.handOver]
  | _ => exact ⟨h.guess, h.canvas⟩

/-! # Two runs -/

/-- Leave out what was entered and what became of it. -/
def bare (s : SheetMachine) : SheetMachine :=
  { s with
    controller := { s.controller with guess := "", canvasView := .blank }
    saved := []
    unsaved := false }

theorem bare_eq_iff {s s' : SheetMachine}
    : s.bare = s'.bare
        ↔
      ∃ guess canvasView saved unsaved,
        s' = { s with
          controller := { s.controller with guess := guess, canvasView := canvasView }
          saved := saved
          unsaved := unsaved } := by
  constructor
  . intro h
    refine ⟨s'.controller.guess, s'.controller.canvasView, s'.saved, s'.unsaved, ?_⟩
    obtain ⟨c, saved, delivered, timer, moved, pending, unsaved⟩ := s
    obtain ⟨c', saved', delivered', timer', moved', pending', unsaved'⟩ := s'
    cases c
    cases c'
    simp_all [bare]
  . rintro ⟨_, _, _, _, rfl⟩
    rfl

/-- The state to which a call leads, if it can be made and does not trap. -/
def after (s : SheetMachine) : Input → SheetMachine
  | .tick newId =>
    if 1 ≤ s.controller.timeRemaining then
      (s.setReference (s.reference newId)).count
    else if s.controller.timeRemaining = 0 ∧ s.controller.shownView = .getReady then
      { s with
        controller := { s.controller with
          referenceSheet := s.reference newId
          shownView := activity s.controller.roundNum }
        pending := true }.count
    else if s.controller.timeRemaining = 0 ∧ s.controller.isContentSaved = false then
      (s.handIn newId).count
    else if s.controller.timeRemaining = -5 ∧ s.controller.shownView ≠ .getReady then
      { s with controller := { s.controller with enableForceRoundEnd := true } }.count
    else
      s.count
  | .appear => s.appear
  | .done newId =>
    if s.controller.isContentSaved = true then
      s
    else if s.controller.shownView = .getReady then
      { s with controller := { s.controller with isContentSaved := true } }
    else
      s.handIn newId
  | .type guess => { s with controller := { s.controller with guess := guess }, unsaved := true }
  | .draw image => { s with controller := { s.controller with canvasView := image }, unsaved := true }
  | .force => s
  | .roundNum v =>
    if v = s.controller.roundNum then
      { s with delivered := v :: s.delivered }
    else if 1 ≤ v ∧ v ≤ s.controller.numOfRounds then
      s.begin v
    else
      s.handOver v
  | .reference sheet => s.setReference (some sheet)
  | .roundSheets _ => s

theorem Next.eq_after (h : Next s a t) : t = s.after a := by
  cases h with
  | lookUp _ _ htime => simp [after, htime]
  | turn _ _ htime hview => simp [after, htime, hview]
  | timeOut _ _ htime hview hsaved => simp [after, htime, hview, hsaved]
  | enable _ _ htime hview => simp [after, htime, hview]
  | tick newId _ htime hzero hlate =>
    have hsaved : s.controller.timeRemaining = 0 → s.controller.isContentSaved ≠ false := by
      intro h
      simp [hzero h]
    simp only [after]
    rw [if_neg (by omega), if_neg fun h => (hzero h.1).1 h.2, if_neg fun h => hsaved h.1 h.2,
      if_neg fun h => h.2 (hlate h.1)]
  | handIn _ _ hview hsaved => simp [after, hview, hsaved]
  | skip _ _ hview hsaved => simp [after, hview, hsaved]
  | done _ _ hsaved => simp [after, hsaved]
  | sameRound v hv => simp [after, hv]
  | begin v hne hmem => simp [after, hne, hmem]
  | handOver v hne hmem => simp only [after, if_neg hne, if_neg hmem]
  | appear | type | draw | force | reference | roundSheets => rfl

theorem Next.unique {t' : SheetMachine} (h : Next s a t) (h' : Next s a t') : t = t' :=
  h.eq_after.trans h'.eq_after.symm

/-- The branches do not depend on what is left out, so that the other run can take the same one. -/
theorem Next.exists_of_bare {s' : SheetMachine} (h : s.bare = s'.bare) (hentry : a.isEntry = false)
    (hnext : Next s a t)
    : ∃ t', Next s' a t' ∧ t.bare = t'.bare := by
  obtain ⟨guess, canvasView, saved, unsaved, rfl⟩ := bare_eq_iff.1 h
  cases hnext with
  | lookUp newId htimer htime => exact ⟨_, .lookUp newId htimer htime, rfl⟩
  | turn newId htimer htime hview => exact ⟨_, .turn newId htimer htime hview, rfl⟩
  | timeOut newId htimer htime hview hsaved => exact ⟨_, .timeOut newId htimer htime hview hsaved, rfl⟩
  | enable newId htimer htime hview => exact ⟨_, .enable newId htimer htime hview, rfl⟩
  | tick newId htimer htime hzero hlate => exact ⟨_, .tick newId htimer htime hzero hlate, rfl⟩
  | appear hmoved => exact ⟨_, .appear hmoved, rfl⟩
  | handIn newId hmoved hview hsaved => exact ⟨_, .handIn newId hmoved hview hsaved, rfl⟩
  | skip newId hmoved hview hsaved => exact ⟨_, .skip newId hmoved hview hsaved, rfl⟩
  | done newId hmoved hsaved => exact ⟨_, .done newId hmoved hsaved, rfl⟩
  | type | draw => simp [Input.isEntry] at hentry
  | force hmoved => exact ⟨_, .force hmoved, rfl⟩
  | sameRound v hv => exact ⟨_, .sameRound v hv, rfl⟩
  | begin v hne hmem => exact ⟨_, .begin v hne hmem, rfl⟩
  | handOver v hne hmem => exact ⟨_, .handOver v hne hmem, rfl⟩
  | reference sheet => exact ⟨_, .reference sheet, rfl⟩
  | roundSheets n => exact ⟨_, .roundSheets n, rfl⟩

theorem Next.bare_eq {s' t' : SheetMachine} (h : s.bare = s'.bare) (hentry : a.isEntry = false)
    (hnext : Next s a t) (hnext' : Next s' a t')
    : t.bare = t'.bare := by
  obtain ⟨u, hu, heq⟩ := hnext.exists_of_bare h hentry
  rw [heq, hu.unique hnext']

theorem Next.bare_eq_of_entry (hentry : a.isEntry = true) (h : Next s a t) : t.bare = s.bare := by
  cases h with
  | type => rfl
  | draw => rfl
  | _ => simp [Input.isEntry] at hentry

/-- What was saved before does not matter for what is saved next. -/
theorem Next.exists_of_same (saved : List Sheet) (h : Next s a t)
    : ∃ new, t.saved = new ++ s.saved
        ∧
      Next { s with saved := saved } a { t with saved := new ++ saved } := by
  cases h with
  | timeOut newId htimer htime hview hsaved =>
    exact ⟨[s.sheet newId], rfl, .timeOut newId htimer htime hview hsaved⟩
  | handIn newId hmoved hview hsaved => exact ⟨[s.sheet newId], rfl, .handIn newId hmoved hview hsaved⟩
  | lookUp newId htimer htime => exact ⟨[], rfl, .lookUp newId htimer htime⟩
  | turn newId htimer htime hview => exact ⟨[], rfl, .turn newId htimer htime hview⟩
  | enable newId htimer htime hview => exact ⟨[], rfl, .enable newId htimer htime hview⟩
  | tick newId htimer htime hzero hlate => exact ⟨[], rfl, .tick newId htimer htime hzero hlate⟩
  | appear hmoved => exact ⟨[], rfl, .appear hmoved⟩
  | skip newId hmoved hview hsaved => exact ⟨[], rfl, .skip newId hmoved hview hsaved⟩
  | done newId hmoved hsaved => exact ⟨[], rfl, .done newId hmoved hsaved⟩
  | type guess hmoved hview => exact ⟨[], rfl, .type guess hmoved hview⟩
  | draw image hmoved hview => exact ⟨[], rfl, .draw image hmoved hview⟩
  | force hmoved => exact ⟨[], rfl, .force hmoved⟩
  | sameRound v hv => exact ⟨[], rfl, .sameRound v hv⟩
  | begin v hne hmem => exact ⟨[], rfl, .begin v hne hmem⟩
  | handOver v hne hmem => exact ⟨[], rfl, .handOver v hne hmem⟩
  | reference sheet => exact ⟨[], rfl, .reference sheet⟩
  | roundSheets n => exact ⟨[], rfl, .roundSheets n⟩

theorem Next.saved_eq_of_same {saved : List Sheet} {t' : SheetMachine} (hnext : Next s a t)
    (hnext' : Next { s with saved := saved } a t')
    : ∃ new, t.saved = new ++ s.saved ∧ t' = { t with saved := new ++ saved } := by
  obtain ⟨new, hnew, hu⟩ := hnext.exists_of_same saved
  exact ⟨new, hnew, hnext'.unique hu⟩

theorem exists_step_of_same (saved : List Sheet) (h : s.step a = some t)
    : ∃ t', step { s with saved := saved } a = some t' := by
  have hsome : (step { s with saved := saved } a).isSome = (s.step a).isSome := by
    cases a with
    | tick newId =>
      dsimp only [step]
      split
      . cases s.controller.checkTimer newId <;> rfl
      . rfl
    | roundNum v =>
      dsimp only [step]
      cases s.controller.handleDBDataRoundNum v <;> rfl
    | reference | roundSheets => rfl
    | _ =>
      dsimp only [step]
      split <;> rfl
  rw [h] at hsome
  exact Option.isSome_iff_exists.1 hsome

theorem blank_of_begins
    (hrun : (system gameSettings player numOfPlayers isHost).Run BeginsSaved hist s)
    (hbegins : ∀ x ∈ hist.head?, Begins x.1 x.2)
    : s.controller.guess = "" ∧ s.controller.canvasView = .blank ∧ s.unsaved = false := by
  have hinv : ∀ hist s, (system gameSettings player numOfPlayers isHost).Run BeginsSaved hist s →
      BlankInv s := by
    intro hist s hrun
    apply hrun.invariant
    . rintro s rfl
      exact blankInv_create
    . intro s a t hs hok hstep
      exact hs.step hok (next_of_step hstep)
  cases hrun with
  | init h =>
    obtain rfl := h
    exact ⟨rfl, rfl, rfl⟩
  | @step _ s _ a hr hok hs =>
    have hbegins := hbegins (s, a) (by simp)
    have hblank := hinv _ _ hr
    cases next_of_step hs with
    | sameRound v hv => exact absurd hv hbegins.2.1
    | handOver v _ hmem => exact absurd hbegins.2.2 hmem
    | begin v =>
      have hsaved := hok hbegins
      exact ⟨hblank.guess hbegins.1 (.inr hsaved), hblank.canvas hbegins.1 (.inr hsaved), hsaved⟩
    | _ => exact absurd hbegins id

theorem same_of_bare_eq {s' : SheetMachine} (h : s.bare = s'.bare)
    (hblank : s.controller.guess = "" ∧ s.controller.canvasView = .blank ∧ s.unsaved = false)
    (hblank' : s'.controller.guess = "" ∧ s'.controller.canvasView = .blank ∧ s'.unsaved = false)
    : ∃ saved, s' = { s with saved := saved } := by
  obtain ⟨guess, canvasView, saved, unsaved, rfl⟩ := bare_eq_iff.1 h
  obtain ⟨rfl, rfl, rfl⟩ := hblank'
  refine ⟨saved, ?_⟩
  rw [← hblank.1, ← hblank.2.1, ← hblank.2.2]

/--
Two runs of a controller that differ in what was entered before the present round began write the
same sheets from now on, if in both of them everything entered was saved whenever a round began.
-/
theorem entries_of_round (gameSettings : GameSettings) (player : Player) (numOfPlayers : Int)
    (isHost : Bool) (recent old recent' old' : List (SheetMachine × Input)) (s s' : SheetMachine)
    (hrun : (system gameSettings player numOfPlayers isHost).Run BeginsSaved (recent ++ old) s)
    (hrun' : (system gameSettings player numOfPlayers isHost).Run BeginsSaved (recent' ++ old') s')
    (hbegins : ∀ x ∈ old.head?, Begins x.1 x.2)
    (hbegins' : ∀ x ∈ old'.head?, Begins x.1 x.2)
    (hold : (old.map Prod.snd).filter (fun a => !a.isEntry) = (old'.map Prod.snd).filter (fun a => !a.isEntry))
    (hrecent : recent.map Prod.snd = recent'.map Prod.snd)
    (a : Input) (t : SheetMachine)
    (hstep : s.step a = some t)
    : ∃ t' new, s'.step a = some t' ∧ t.saved = new ++ s.saved ∧ t'.saved = new ++ s'.saved := by
  -- When the present round began, both controllers were the same up to the sheets written before.
  have hsame : ∃ saved, s' = { s with saved := saved } := by
    apply TransitionSystem.Run.related (R := fun s s' => ∃ saved, s' = { s with saved := saved })
      _ hrecent _ hrun hrun'
    . rintro s _ a t t' ⟨saved, rfl⟩ hs hs'
      obtain ⟨new, -, rfl⟩ := (next_of_step hs).saved_eq_of_same (next_of_step hs')
      exact ⟨_, rfl⟩
    . intro s s' hr hr'
      apply same_of_bare_eq _ (blank_of_begins hr hbegins) (blank_of_begins hr' hbegins')
      apply hr.observe_eq (f := bare) _ _ _ hr' hold
      . rintro s t rfl rfl
        rfl
      . intro s a t hentry hs
        rw [Bool.not_eq_false'] at hentry
        exact (next_of_step hs).bare_eq_of_entry hentry
      . intro s s' a t t' h hentry hs hs'
        rw [Bool.not_eq_true'] at hentry
        exact Next.bare_eq h hentry (next_of_step hs) (next_of_step hs')
  obtain ⟨saved, rfl⟩ := hsame
  obtain ⟨t', hstep'⟩ := exists_step_of_same saved hstep
  obtain ⟨new, hnew, rfl⟩ := (next_of_step hstep).saved_eq_of_same (next_of_step hstep')
  exact ⟨_, new, hstep', hnew, rfl⟩

/-- In the present round nothing was entered yet, and Done would write a sheet with the content. -/
def WouldWrite (content : Content) (hist : List (SheetMachine × Input)) (s : SheetMachine) : Prop :=
  (hist.take 6).map Prod.snd = getReady.reverse
    ∧
  (∀ x ∈ (hist.drop 6).head?, Begins x.1 x.2)
    ∧
  (s.step (.done (.ofNat 50))).map (fun t => (t.saved.map Sheet.content).take 1) = some [content]

instance (content : Content) (hist : List (SheetMachine × Input)) (s : SheetMachine)
    : Decidable (WouldWrite content hist s) :=
  inferInstanceAs (Decidable (_ ∧ _))

def savedEnd (entries : List Input) : List Input :=
  [.roundNum 1] ++ getReady ++ entries ++ [.done (.ofNat 40), .roundNum 2] ++ getReady

theorem entries_of_round_saved
    : ∃ hist s hist' s', shortGame.Run BeginsSaved hist s
        ∧
      shortGame.Run BeginsSaved hist' s'
        ∧
      hist.map Prod.snd ≠ hist'.map Prod.snd
        ∧
      ∃ t t' new, s.step (.done (.ofNat 50)) = some t
        ∧
      s'.step (.done (.ofNat 50)) = some t' ∧ t.saved = new ++ s.saved ∧ t'.saved = new ++ s'.saved := by
  obtain ⟨hist, s, hrun, hinputs, hrecent, hbegins, hwrite⟩ := TransitionSystem.exists_run_of_exec
    BeginsSaved (S := shortGame)
    (P := fun hist s => hist.map Prod.snd = (savedEnd [.type "A cat"]).reverse
      ∧ WouldWrite (.drawing .blank) hist s)
    rfl (savedEnd [.type "A cat"]) (by decide +kernel)
  obtain ⟨hist', s', hrun', hinputs', hrecent', hbegins', -⟩ := TransitionSystem.exists_run_of_exec
    BeginsSaved (S := shortGame)
    (P := fun hist s => hist.map Prod.snd = (savedEnd [.type "A", .type "A dog"]).reverse
      ∧ WouldWrite (.drawing .blank) hist s)
    rfl (savedEnd [.type "A", .type "A dog"]) (by decide +kernel)
  rw [Option.map_eq_some_iff] at hwrite
  obtain ⟨t, ht, -⟩ := hwrite
  refine ⟨hist, s, hist', s', hrun, hrun', ?_, t, ?_⟩
  . rw [hinputs, hinputs']
    decide
  . rw [← List.take_append_drop 6 hist] at hrun
    rw [← List.take_append_drop 6 hist'] at hrun'
    obtain ⟨t', new, ht', hnew⟩ := entries_of_round _ _ _ _ _ _ _ _ s s' hrun hrun' hbegins hbegins'
      (by rw [List.map_drop, List.map_drop, hinputs, hinputs']; decide) (hrecent.trans hrecent'.symm)
      _ t ht
    exact ⟨t', new, ht, ht', hnew⟩

def forcedEnd (entries : List Input) : List Input :=
  [.roundNum 1] ++ getReady ++ entries ++ [.roundNum 2, .roundNum 3] ++ getReady

/-- The guess of round 1 is on the sheet of round 3 if round 1 was ended before the guess was saved. -/
theorem not_entries_of_round_forced_end
    : ¬∀ (recent old recent' old' : List (SheetMachine × Input)) (s s' : SheetMachine),
        shortGame.Run (fun _ _ => True) (recent ++ old) s →
        shortGame.Run (fun _ _ => True) (recent' ++ old') s' →
        (∀ x ∈ old.head?, Begins x.1 x.2) →
        (∀ x ∈ old'.head?, Begins x.1 x.2) →
        (old.map Prod.snd).filter (fun a => !a.isEntry) = (old'.map Prod.snd).filter (fun a => !a.isEntry) →
        recent.map Prod.snd = recent'.map Prod.snd →
        ∀ a t, s.step a = some t →
          ∃ t' new, s'.step a = some t' ∧ t.saved = new ++ s.saved ∧ t'.saved = new ++ s'.saved := by
  intro h
  obtain ⟨hist, s, hrun, hinputs, hsaved, hrecent, hbegins, hwrite⟩ :=
    TransitionSystem.exists_run_of_exec (fun _ _ => True) (S := shortGame)
    (P := fun hist s => hist.map Prod.snd = (forcedEnd [.type "A cat"]).reverse ∧ s.saved = []
      ∧ WouldWrite (.guess "A cat") hist s)
    rfl (forcedEnd [.type "A cat"]) (by decide +kernel)
  obtain ⟨hist', s', hrun', hinputs', hsaved', hrecent', hbegins', hwrite'⟩ :=
    TransitionSystem.exists_run_of_exec (fun _ _ => True) (S := shortGame)
    (P := fun hist s => hist.map Prod.snd = (forcedEnd []).reverse ∧ s.saved = []
      ∧ WouldWrite (.guess "") hist s)
    rfl (forcedEnd []) (by decide +kernel)
  rw [Option.map_eq_some_iff] at hwrite hwrite'
  obtain ⟨t, ht, hcontent⟩ := hwrite
  obtain ⟨t', ht', hcontent'⟩ := hwrite'
  rw [← List.take_append_drop 6 hist] at hrun
  rw [← List.take_append_drop 6 hist'] at hrun'
  obtain ⟨u, new, hu, hnew, hnew'⟩ := h _ _ _ _ s s' hrun hrun' hbegins hbegins'
    (by rw [List.map_drop, List.map_drop, hinputs, hinputs']; decide) (hrecent.trans hrecent'.symm)
    _ t ht
  rw [ht', Option.some.injEq] at hu
  subst hu
  rw [hnew, hsaved] at hcontent
  rw [hnew', hsaved', hcontent] at hcontent'
  contradiction

end SCatCh.SheetMachine
