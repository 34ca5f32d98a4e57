import SCatCh.System.SheetMachineLemmas

/-!
This module contains what holds of the sheets that a controller writes, whatever the order in which
its methods are called: their kind is that of their round, and their round is one of the game unless
they were handed in before the first round began.
-/

namespace SCatCh.SheetMachine

open SubRootViewSheet

variable {s t : SheetMachine} {a : Input} {gameSettings : GameSettings} {player : Player}
  {numOfPlayers : Int} {isHost : Bool} {hist : List (SheetMachine × Input)}

/-! # Kinds -/

def kind (sheet : Sheet) : ViewType :=
  match sheet.content with
  | .drawing _ => .drawing
  | .guess _ => .guessing

theorem kind_sheet {newId : UUID} (hview : s.controller.shownView ≠ .getReady)
    : kind (s.sheet newId) = s.controller.shownView := by
  unfold kind SheetMachine.sheet
  cases h : s.controller.shownView with
  | getReady => contradiction
  | drawing => rfl
  | guessing => rfl

structure KindInv (s : SheetMachine) : Prop where
  timer : s.timer = true → s.moved = false
  view : s.moved = false → s.controller.shownView ≠ .getReady →
    s.controller.shownView = activity s.controller.roundNum
  message : s.moved = false → s.controller.getReadyMessage ≠ "" →
    s.controller.getReadyMessage = StateControllerSheet.announcement s.controller.roundNum
  kinds : ∀ sheet ∈ s.saved, kind sheet = activity sheet.number

theorem kindInv_create : KindInv (create gameSettings player numOfPlayers isHost) := by
  constructor <;> simp [create, update, perform, StateControllerSheet.init]

theorem KindInv.step (h : KindInv s) (hnext : Next s a t) : KindInv t := by
  constructor
  . exact hnext.timer h.timer
  . cases hnext with
    | turn => exact fun _ _ => rfl
    | begin => simp [SheetMachine.begin]
    | handOver => simp [SheetMachine.handOver]
    | _ => exact h.view
  . cases hnext with
    | begin => exact fun _ _ => rfl
    | handOver => simp [SheetMachine.handOver]
    | _ => exact h.message
  . rcases hnext.saved_eq with ⟨-, hsaved⟩ | ⟨hwrites, newId, hsaved⟩
    . rw [hsaved]
      exact h.kinds
    . rw [hsaved, List.forall_mem_cons]
      refine ⟨?_, h.kinds⟩
      have hmoved := hnext.moved_of_writes h.timer hwrites
      rw [kind_sheet hwrites.view_ne, h.view hmoved hwrites.view_ne]
      rfl

/--
The screen, the announcement and the sheets that are written agree on the activity of each round,
whichever round numbers come and when.
-/
theorem activities_agree (gameSettings : GameSettings) (player : Player) (numOfPlayers : Int)
    (isHost : Bool) (hist : List (SheetMachine × Input)) (s : SheetMachine)
    (hrun : (system gameSettings player numOfPlayers isHost).Run (fun _ _ => True) hist s)
    : (s.moved = false →
        (s.controller.shownView = .drawing →
          s.controller.roundNum % 2 = 0
            ∧
          (s.controller.getReadyMessage ≠ "" → s.controller.getReadyMessage = "Get ready for Drawing"))
          ∧
        (s.controller.shownView = .guessing →
          s.controller.roundNum % 2 ≠ 0
            ∧
          (s.controller.getReadyMessage ≠ "" → s.controller.getReadyMessage = "Get ready for Guessing")))
        ∧
      ∀ sheet ∈ s.saved,
        (sheet.number % 2 = 0 → ∃ image, sheet.content = .drawing image)
          ∧
        (sheet.number % 2 ≠ 0 → ∃ guess, sheet.content = .guess guess) := by
  have h : KindInv s := by
    apply hrun.invariant
    . rintro s rfl
      exact kindInv_create
    . intro s a t hs _ hstep
      exact hs.step (next_of_step hstep)
  refine ⟨?_, ?_⟩
  . intro hmoved
    have hview := h.view hmoved
    have hmessage := h.message hmoved
    unfold activity at hview
    unfold StateControllerSheet.announcement at hmessage
    constructor
    . intro hdrawing
      by_cases heven : s.controller.roundNum % 2 = 0
      . rw [if_pos heven] at hmessage
        exact ⟨heven, hmessage⟩
      . simp [hdrawing, heven] at hview
    . intro hguessing
      by_cases heven : s.controller.roundNum % 2 = 0
      . simp [hguessing, heven] at hview
      . rw [if_neg heven] at hmessage
        exact ⟨heven, hmessage⟩
  . intro sheet hsheet
    have hkind := h.kinds sheet hsheet
    unfold kind activity at hkind
    constructor
    . intro heven
      rw [if_pos heven] at hkind
      split at hkind
      . next image hcontent => exact ⟨image, hcontent⟩
      . contradiction
    . intro hodd
      rw [if_neg hodd] at hkind
      split at hkind
      . contradiction
      . next guess hcontent => exact ⟨guess, hcontent⟩

theorem activities_agree_first_round
    : ∃ hist s, shortGame.Run (fun _ _ => True) hist s
        ∧
      s.controller.shownView = .guessing
        ∧
      s.controller.roundNum % 2 ≠ 0
        ∧
      s.saved.length = 1
        ∧
      ∀ sheet ∈ s.saved,
        (sheet.number % 2 = 0 → ∃ image, sheet.content = .drawing image)
          ∧
        (sheet.number % 2 ≠ 0 → ∃ guess, sheet.content = .guess guess) := by
  obtain ⟨hist, s, hrun, hmoved, hview, hsaved⟩ := TransitionSystem.exists_run_of_exec
    (fun _ _ => True) (S := shortGame)
    (P := fun _ s => s.moved = false ∧ s.controller.shownView = .guessing ∧ s.saved.length = 1)
    rfl ([.roundNum 1] ++ getReady ++ [.type "A cat", .done (.ofNat 30)]) (by decide +kernel)
  obtain ⟨hviews, hkinds⟩ := activities_agree _ _ _ _ hist s hrun
  exact ⟨hist, s, hrun, hview, ((hviews hmoved).2 hview).1, hsaved, hkinds⟩

/-! # Rounds -/

/-- The sheets are handed in after the first round has begun. -/
def Begun (s : SheetMachine) (a : Input) : Prop := s.Writes a → s.controller.roundNum ≠ 0

instance (s : SheetMachine) (a : Input) : Decidable (Begun s a) := inferInstanceAs (Decidable (_ → _))

/-- The number is that of a round, and the database has told it. -/
def Held (s : SheetMachine) (n : Int) : Prop :=
  (1 ≤ n ∧ n ≤ s.controller.numOfRounds) ∧ n ∈ s.delivered

structure NumberInv (s : SheetMachine) : Prop where
  timer : s.timer = true → s.moved = false
  round : s.moved = false → s.controller.roundNum = 0 ∨ s.Held s.controller.roundNum
  numbers : ∀ sheet ∈ s.saved, sheet.number = 0 ∨ s.Held sheet.number

theorem numberInv_create : NumberInv (create gameSettings player numOfPlayers isHost) := by
  constructor <;> simp [create, update, perform, StateControllerSheet.init]

theorem Next.held (h : Next s a t) {n : Int} (hn : s.Held n) : t.Held n := by
  cases h with
  | sameRound | begin | handOver => exact ⟨hn.1, List.mem_cons_of_mem _ hn.2⟩
  | _ => exact hn

theorem NumberInv.step (h : NumberInv s) (hnext : Next s a t) : NumberInv t := by
  constructor
  . exact hnext.timer h.timer
  . cases hnext with
    | sameRound v hv => exact fun hmoved => (h.round hmoved).imp_right fun hheld => ⟨hheld.1, .tail v hheld.2⟩
    | begin v _ hmem => exact fun _ => .inr ⟨hmem, .head _⟩
    | handOver => simp [SheetMachine.handOver]
    | _ => exact h.round
  . intro sheet hsheet
    rcases hnext.saved_eq with ⟨-, hsaved⟩ | ⟨hwrites, newId, hsaved⟩
    . rw [hsaved] at hsheet
      exact (h.numbers sheet hsheet).imp_right hnext.held
    . rw [hsaved, List.mem_cons] at hsheet
      rcases hsheet with rfl | hsheet
      . exact (h.round (hnext.moved_of_writes h.timer hwrites)).imp_right hnext.held
      . exact (h.numbers sheet hsheet).imp_right hnext.held

theorem NumberInv.held_iff (h : NumberInv s)
    : (∀ sheet ∈ s.saved, s.Held sheet.number) ↔ ∀ sheet ∈ s.saved, sheet.number ≠ 0 := by
  constructor
  . intro hheld sheet hsheet
    have := (hheld sheet hsheet).1
    omega
  . intro hnumbers sheet hsheet
    exact (h.numbers sheet hsheet).resolve_left (hnumbers sheet hsheet)

theorem Next.numbers_iff (h : Next s a t)
    : (∀ sheet ∈ t.saved, sheet.number ≠ 0)
        ↔
      Begun s a ∧ ∀ sheet ∈ s.saved, sheet.number ≠ 0 := by
  unfold Begun
  rcases h.saved_eq with ⟨hwrites, hsaved⟩ | ⟨hwrites, newId, hsaved⟩
  . simp [hsaved, hwrites]
  . simp [hsaved, hwrites, SheetMachine.sheet]

/--
Every sheet that is written is of a round of the game which the database has told, if and only if none
is handed in before the first round has begun.
-/
theorem numbers_held_iff (gameSettings : GameSettings) (player : Player) (numOfPlayers : Int)
    (isHost : Bool) (hist : List (SheetMachine × Input)) (s : SheetMachine)
    (hrun : (system gameSettings player numOfPlayers isHost).Run (fun _ _ => True) hist s)
    : (∀ sheet ∈ s.saved,
        (1 ≤ sheet.number ∧ sheet.number ≤ s.controller.numOfRounds) ∧ sheet.number ∈ s.delivered)
        ↔
      ∀ x ∈ hist, Begun x.1 x.2 := by
  have h : NumberInv s ∧ ((∀ sheet ∈ s.saved, sheet.number ≠ 0) ↔ ∀ x ∈ hist, Begun x.1 x.2) := by
    apply hrun.induct (I := fun hist s =>
      NumberInv s ∧ ((∀ sheet ∈ s.saved, sheet.number ≠ 0) ↔ ∀ x ∈ hist, Begun x.1 x.2))
    . rintro s rfl
      exact ⟨numberInv_create, by simp [create, update, perform, StateControllerSheet.init]⟩
    . intro hist s a t hs _ hstep
      have hnext := next_of_step hstep
      refine ⟨hs.1.step hnext, ?_⟩
      rw [hnext.numbers_iff, List.forall_mem_cons, hs.2]
  exact h.1.held_iff.trans h.2

theorem numbers_held_first_round
    : ∃ hist s, shortGame.Run (fun _ _ => True) hist s
        ∧
      (∀ x ∈ hist, Begun x.1 x.2)
        ∧
      s.saved.length = 1
        ∧
      ∀ sheet ∈ s.saved,
        (1 ≤ sheet.number ∧ sheet.number ≤ s.controller.numOfRounds) ∧ sheet.number ∈ s.delivered := by
  obtain ⟨hist, s, hrun, hbegun, hsaved⟩ := TransitionSystem.exists_run_of_exec
    (fun _ _ => True) (S := shortGame)
    (P := fun hist s => (∀ x ∈ hist, Begun x.1 x.2) ∧ s.saved.length = 1)
    rfl ([.roundNum 1] ++ getReady ++ [.type "A cat", .done (.ofNat 30)]) (by decide +kernel)
  exact ⟨hist, s, hrun, hbegun, hsaved, (numbers_held_iff _ _ _ _ hist s hrun).2 hbegun⟩

/-- A sheet of round zero is written if the first round number comes too late. -/
theorem not_numbers_held_late_round
    : ¬∀ (hist : List (SheetMachine × Input)) (s : SheetMachine),
        shortGame.Run (fun _ _ => True) hist s →
          ∀ sheet ∈ s.saved,
            (1 ≤ sheet.number ∧ sheet.number ≤ s.controller.numOfRounds) ∧ sheet.number ∈ s.delivered := by
  intro h
  obtain ⟨hist, s, hrun, hzero⟩ := TransitionSystem.exists_run_of_exec
    (fun _ _ => True) (S := shortGame)
    (P := fun _ s => ∃ sheet ∈ s.saved, sheet.number = 0)
    rfl (getReady ++ [.tick (.ofNat 30), .tick (.ofNat 31), .tick (.ofNat 32), .roundNum 1])
    (by decide +kernel)
  obtain ⟨sheet, hsheet, hnumber⟩ := hzero
  have := (h hist s hrun sheet hsheet).1
  omega

end SCatCh.SheetMachine
