import SCatCh.System.SheetMachineLemmas

/-!
This module contains the proofs that a player hands in one sheet for each round, and that only one who
has done so can force the end of the round. Both rest on what `isContentSaved` says of the sheets that
were written.
-/

namespace SCatCh.SheetMachine

open SubRootViewSheet

variable {s t : SheetMachine} {a : Input} {gameSettings : GameSettings} {player : Player}
  {numOfPlayers : Int} {isHost : Bool} {hist : List (SheetMachine × Input)}

def DoneOffered (s : SheetMachine) : Input → Prop
  | .done _ => s.controller.shownView ≠ .getReady
  | .tick _ | .appear | .type _ | .draw _ | .force | .roundNum _ | .reference _ | .roundSheets _ => True

instance (s : SheetMachine) (a : Input) : Decidable (DoneOffered s a) :=
  match a with
  | .done _ => inferInstanceAs (Decidable (_ ≠ _))
  | .tick _ | .appear | .type _ | .draw _ | .force | .roundNum _ | .reference _ | .roundSheets _ =>
    inferInstanceAs (Decidable True)

/-- What `isContentSaved` says is true. -/
structure SavedInv (gameSettings : GameSettings) (player : Player) (s : SheetMachine) : Prop where
  timer : s.timer = true → s.moved = false
  settings : s.controller.gameSettings = gameSettings ∧ s.controller.player = player
  saved : s.moved = false → s.controller.isContentSaved = true →
    ∃ sheet ∈ s.saved, sheet.number = s.controller.roundNum ∧ sheet.author = player

theorem savedInv_create
    : SavedInv gameSettings player (create gameSettings player numOfPlayers isHost) := by
  constructor <;> simp [create, update, perform, StateControllerSheet.init]

theorem SavedInv.step (h : SavedInv gameSettings player s) (hok : DoneOffered s a) (hnext : Next s a t)
    : SavedInv gameSettings player t := by
  refine ⟨hnext.timer h.timer, ?_, ?_⟩
  . rw [hnext.settings.1, hnext.settings.2]
    exact h.settings
  . have hwritten : ∀ newId, ∃ sheet ∈ (s.handIn newId).saved,
        sheet.number = s.controller.roundNum ∧ sheet.author = player := by
      intro newId
      exact ⟨s.sheet newId, .head _, rfl, h.settings.2⟩
    cases hnext with
    | timeOut newId => exact fun _ _ => hwritten newId
    | handIn newId => exact fun _ _ => hwritten newId
    | skip _ _ hview => exact absurd hview hok
    | begin => simp [SheetMachine.begin]
    | handOver => simp [SheetMachine.handOver]
    | _ => exact h.saved

/-! # One sheet for each round -/

def Ascending (s : SheetMachine) : Input → Prop
  | .roundNum v => ∀ w ∈ s.delivered.head?, w ≤ v
  | .tick _ | .appear | .done _ | .type _ | .draw _ | .force | .reference _ | .roundSheets _ => True

instance (s : SheetMachine) (a : Input) : Decidable (Ascending s a) :=
  match a with
  | .roundNum v => inferInstanceAs (Decidable (∀ w ∈ s.delivered.head?, w ≤ v))
  | .tick _ | .appear | .done _ | .type _ | .draw _ | .force | .reference _ | .roundSheets _ =>
    inferInstanceAs (Decidable True)

def Ordered (s : SheetMachine) (a : Input) : Prop := DoneOffered s a ∧ Ascending s a

instance (s : SheetMachine) (a : Input) : Decidable (Ordered s a) := inferInstanceAs (Decidable (_ ∧ _))

structure CountInv (s : SheetMachine) : Prop where
  timer : s.timer = true → s.moved = false
  last : s.moved = false → s.controller.roundNum = s.delivered.head?.getD 0
  past : s.moved = false → ∀ sheet ∈ s.saved, sheet.number ≤ s.controller.roundNum
  unsaved : s.moved = false → s.controller.isContentSaved = false →
    ∀ sheet ∈ s.saved, sheet.number ≠ s.controller.roundNum
  nodup : (s.saved.map Sheet.number).Nodup

theorem countInv_create : CountInv (create gameSettings player numOfPlayers isHost) := by
  constructor <;> simp [create, update, perform, StateControllerSheet.init]

theorem CountInv.lt_of_ordered (h : CountInv s) (hmoved : s.moved = false) {v : Int}
    (hok : Ordered s (.roundNum v)) (hne : v ≠ s.controller.roundNum) (hv : 1 ≤ v)
    : s.controller.roundNum < v := by
  have hlast := h.last hmoved
  cases hdelivered : s.delivered with
  | nil =>
    rw [hdelivered] at hlast
    simp only [List.head?_nil, Option.getD_none] at hlast
    omega
  | cons w delivered =>
    have hle := hok.2 w (by simp [hdelivered])
    rw [hdelivered] at hlast
    simp only [List.head?_cons, Option.getD_some] at hlast
    omega

theorem CountInv.handIn (h : CountInv s) (hmoved : s.moved = false)
    (hsaved : s.controller.isContentSaved = false) (newId : UUID)
    : CountInv (s.handIn newId) := by
  refine ⟨h.timer, h.last, ?_, ?_, ?_⟩
  . intro _ sheet hsheet
    rcases List.mem_cons.1 hsheet with rfl | hsheet
    . exact le_refl _
    . exact h.past hmoved sheet hsheet
  . intro _ hsaved'
    simp [SheetMachine.handIn] at hsaved'
  . have hnew : s.controller.roundNum ∉ s.saved.map Sheet.number := by
      intro hmem
      obtain ⟨sheet, hsheet, hnumber⟩ := List.mem_map.1 hmem
      exact h.unsaved hmoved hsaved sheet hsheet hnumber
    exact List.nodup_cons.2 ⟨hnew, h.nodup⟩

theorem CountInv.begin (h : CountInv s) {v : Int} (hok : Ordered s (.roundNum v))
    (hne : v ≠ s.controller.roundNum) (hv : 1 ≤ v)
    : CountInv (s.begin v) := by
  have hlt : s.moved = false → ∀ sheet ∈ s.saved, sheet.number < v := by
    intro hmoved sheet hsheet
    exact (h.past hmoved sheet hsheet).trans_lt (h.lt_of_ordered hmoved hok hne hv)
  refine ⟨h.timer, fun _ => rfl, ?_, ?_, h.nodup⟩
  . intro hmoved sheet hsheet
    exact (hlt hmoved sheet hsheet).le
  . intro hmoved _ sheet hsheet
    exact (hlt hmoved sheet hsheet).ne

theorem CountInv.step (h : CountInv s) (hok : Ordered s a) (hnext : Next s a t) : CountInv t := by
  cases hnext with
  | timeOut newId hrunning _ _ hsaved =>
    have := h.handIn (h.timer hrunning) hsaved newId
    exact ⟨this.timer, this.last, this.past, this.unsaved, this.nodup⟩
  | handIn newId hmoved _ hsaved => exact h.handIn hmoved hsaved newId
  | skip _ _ hview => exact absurd hview hok.1
  | sameRound v hv => exact ⟨h.timer, fun _ => hv.symm, h.past, h.unsaved, h.nodup⟩
  | begin v hne hmem => exact h.begin hok hne hmem.1
  | handOver v =>
    -- Nothing is said of the round any more, and nothing is written.
    refine ⟨?_, ?_, ?_, ?_, h.nodup⟩ <;> simp [SheetMachine.handOver]
  | _ => exact ⟨h.timer, h.last, h.past, h.unsaved, h.nodup⟩

def ShowsSheet (n : Int) (s : SheetMachine) : Prop :=
  s.controller.roundNum = n ∧ s.controller.shownView ≠ .getReady

instance (n : Int) (s : SheetMachine) : Decidable (ShowsSheet n s) := inferInstanceAs (Decidable (_ ∧ _))

def Input.isTick : Input → Bool
  | .tick _ => true
  | .appear | .done _ | .type _ | .draw _ | .force | .roundNum _ | .reference _ | .roundSheets _ => false

def ticks (hist : List (SheetMachine × Input)) : Nat := hist.countP fun x => x.2.isTick

theorem ticks_cons (x : SheetMachine × Input) (hist : List (SheetMachine × Input))
    : ticks (x :: hist) = ticks hist + x.2.isTick.toNat := by
  unfold ticks
  rw [List.countP_cons]
  cases x.2.isTick <;> rfl

structure Counting (gameSettings : GameSettings) (n : Int) (k : Nat) (s : SheetMachine) : Prop where
  time : ShowsSheet n s → s.controller.timeRemaining = gameSettings.roundTime - k
  saved : gameSettings.roundTime + 1 ≤ k → ∃ sheet ∈ s.saved, sheet.number = n

theorem Next.time_of_tick {newId : UUID} (h : Next s (.tick newId) t)
    : t.controller.timeRemaining = s.controller.timeRemaining - 1 := by
  cases h <;> rfl

theorem Next.time_of_not_tick (h : Next s a t) (htick : a.isTick = false) (happear : a ≠ .appear)
    : t.controller.timeRemaining = s.controller.timeRemaining := by
  cases h with
  | lookUp | turn | timeOut | enable | tick => simp [Input.isTick] at htick
  | appear => contradiction
  | _ => rfl

theorem SavedInv.exists_of_timeOut (h : SavedInv gameSettings player s) {newId : UUID}
    (hnext : Next s (.tick newId) t) (htime : s.controller.timeRemaining = 0)
    (hview : s.controller.shownView ≠ .getReady)
    : ∃ sheet ∈ t.saved, sheet.number = s.controller.roundNum := by
  cases hnext with
  | timeOut => exact ⟨s.sheet newId, .head _, rfl⟩
  | tick _ hrunning _ hsaved =>
    obtain ⟨sheet, hsheet, hnumber, -⟩ := h.saved (h.timer hrunning) (hsaved htime).2
    exact ⟨sheet, hsheet, hnumber⟩
  | turn _ _ _ hready => exact absurd hready hview
  | lookUp | enable => omega

theorem Counting.step {n : Int} {k : Nat} (h : Counting gameSettings n k s)
    (hinv : SavedInv gameSettings player s) (hshows : ShowsSheet n s) (happear : a ≠ .appear)
    (hnext : Next s a t)
    : Counting gameSettings n (k + a.isTick.toNat) t := by
  have htime := h.time hshows
  have hkept : gameSettings.roundTime + 1 ≤ k → ∃ sheet ∈ t.saved, sheet.number = n := by
    intro hk
    obtain ⟨sheet, hsheet, hnumber⟩ := h.saved hk
    exact ⟨sheet, hnext.saved_subset hsheet, hnumber⟩
  cases htick : a.isTick with
  | false =>
    have hsame := hnext.time_of_not_tick htick happear
    refine ⟨?_, ?_⟩
    . intro _
      rw [hsame, htime]
      simp
    . simpa using hkept
  | true =>
    obtain ⟨newId, rfl⟩ : ∃ newId, a = .tick newId := by
      cases a <;> simp_all [Input.isTick]
    refine ⟨?_, ?_⟩
    . intro _
      rw [hnext.time_of_tick, htime]
      simp
      omega
    . intro hk
      by_cases hlate : gameSettings.roundTime + 1 ≤ k
      . exact hkept hlate
      . -- This is the tick at which the time is over.
        rw [← hshows.1]
        apply hinv.exists_of_timeOut hnext _ hshows.2
        simp only [Bool.toNat_true, Nat.cast_add, Nat.cast_one] at hk
        omega

theorem counting_of_run {S : TransitionSystem SheetMachine Input} {ok : SheetMachine → Input → Prop}
    {n : Int} {s₀ : SheetMachine} {older : List (SheetMachine × Input)} (hS : S.step = step)
    (hpos : 0 < gameSettings.roundTime)
    (hinv : ∀ hist s, S.Run ok hist s → SavedInv gameSettings player s) (hshows : ShowsSheet n s₀)
    {seg : List (SheetMachine × Input)} (hseg : ∀ x ∈ seg, ShowsSheet n x.1 ∧ x.2 ≠ .appear)
    (hrun : S.Run ok (seg ++ (s₀, .appear) :: older) s)
    : Counting gameSettings n (ticks seg) s := by
  induction seg generalizing s with
  | nil =>
    cases hrun with
    | step hr _ hs =>
      rw [hS] at hs
      have hnext := next_of_step hs
      cases hnext with
      | appear =>
        refine ⟨?_, ?_⟩
        . intro _
          have hsettings := (hinv _ _ hr).settings.1
          simp [SheetMachine.appear, countdown, hshows.2, hsettings, ticks]
        . intro hk
          simp only [ticks, List.countP_nil, Nat.cast_zero] at hk
          omega
  | cons x seg ih =>
    rw [List.forall_mem_cons] at hseg
    cases hrun with
    | step hr _ hs =>
      rw [hS] at hs
      rw [ticks_cons]
      exact (ih hseg.2 hr).step (hinv _ _ hr) hseg.1.1 hseg.1.2 (next_of_step hs)

/--
No two sheets are written for the same round. One is written for each round in which the time of its
sheet runs out after the last start of the countdown, or in which the player is done before.
-/
theorem one_sheet_per_round (gameSettings : GameSettings) (player : Player) (numOfPlayers : Int)
    (isHost : Bool) (hist : List (SheetMachine × Input)) (s : SheetMachine)
    (hpos : 0 < gameSettings.roundTime)
    (hrun : (system gameSettings player numOfPlayers isHost).Run Ordered hist s)
    : (s.saved.map Sheet.number).Nodup
        ∧
      ∀ n, 1 ≤ n → n ≤ s.controller.numOfRounds →
        ∀ later seg s₀ older,
          hist = later ++ (seg ++ (s₀, .appear) :: older) →
          ShowsSheet n s₀ →
          (∀ x ∈ seg, ShowsSheet n x.1 ∧ x.2 ≠ .appear) →
          gameSettings.roundTime + 1 ≤ ticks seg →
            (s.saved.map Sheet.number).count n = 1 := by
  have hsaved : ∀ hist s, (system gameSettings player numOfPlayers isHost).Run Ordered hist s →
      SavedInv gameSettings player s := by
    intro hist s hrun
    apply hrun.invariant
    . rintro s rfl
      exact savedInv_create
    . intro s a t hs hok hstep
      exact hs.step hok.1 (next_of_step hstep)
  have hcount : CountInv s := by
    apply hrun.invariant
    . rintro s rfl
      exact countInv_create
    . intro s a t hs hok hstep
      exact hs.step hok (next_of_step hstep)
  refine ⟨hcount.nodup, ?_⟩
  rintro n - - later seg s₀ older rfl hshows hseg hticks
  apply List.count_eq_one_of_mem hcount.nodup
  rw [List.mem_map]
  -- Once the sheet is written, it stays written.
  apply hrun.stable (P := fun s => ∃ sheet ∈ s.saved, sheet.number = n)
  . rintro s a t ⟨sheet, hsheet, hnumber⟩ hstep
    exact ⟨sheet, (next_of_step hstep).saved_subset hsheet, hnumber⟩
  . intro s hrun
    exact (counting_of_run rfl hpos hsaved hshows hseg hrun).saved hticks

/-- The player presses Done, the time runs out all the same, and then the next round begins. -/
theorem one_sheet_per_round_done
    : ∃ hist s, shortGame.Run Ordered hist s
        ∧
      s.controller.roundNum = 2
        ∧
      (s.saved.map Sheet.number).count 1 = 1 := by
  obtain ⟨hist, s, hrun, hround, hrounds, s₀, -, hsplit, hshows, hseg, hticks⟩ :=
    TransitionSystem.exists_run_of_exec Ordered (S := shortGame)
    (P := fun hist s => s.controller.roundNum = 2 ∧ 1 ≤ s.controller.numOfRounds
      ∧ ∃ s₀ ∈ hist[5]?.map Prod.fst,
        hist = hist.take 1 ++ ((hist.drop 1).take 4 ++ (s₀, .appear) :: hist.drop 6)
          ∧ ShowsSheet 1 s₀
          ∧ (∀ x ∈ (hist.drop 1).take 4, ShowsSheet 1 x.1 ∧ x.2 ≠ .appear)
          ∧ (2 : Int) + 1 ≤ ticks ((hist.drop 1).take 4))
    rfl
    ([.roundNum 1] ++ getReady ++ [.tick (.ofNat 30), .done (.ofNat 31), .tick (.ofNat 32),
      .tick (.ofNat 33), .roundNum 2])
    (by decide +kernel)
  have hone := (one_sheet_per_round _ _ _ _ hist s (by decide) hrun).2 1 (by decide) hrounds
  exact ⟨hist, s, hrun, hround, hone _ _ s₀ _ hsplit hshows hseg hticks⟩

/-! # Force Ending -/

/-- Before the timer runs again, the screen that has come up resets the countdown. -/
def Resets (s : SheetMachine) : Input → Prop
  | .tick _ => s.pending = false
  | .appear | .done _ | .type _ | .draw _ | .force | .roundNum _ | .reference _ | .roundSheets _ => True

instance (s : SheetMachine) (a : Input) : Decidable (Resets s a) :=
  match a with
  | .tick _ => inferInstanceAs (Decidable (_ = _))
  | .appear | .done _ | .type _ | .draw _ | .force | .roundNum _ | .reference _ | .roundSheets _ =>
    inferInstanceAs (Decidable True)

def Attended (s : SheetMachine) (a : Input) : Prop := DoneOffered s a ∧ Resets s a

instance (s : SheetMachine) (a : Input) : Decidable (Attended s a) := inferInstanceAs (Decidable (_ ∧ _))

structure ForceInv (gameSettings : GameSettings) (player : Player) (s : SheetMachine) : Prop
    extends SavedInv gameSettings player s where
  late : s.controller.shownView ≠ .getReady → s.pending = false → s.controller.timeRemaining < 0 →
    s.controller.isContentSaved = true
  enabled : s.controller.enableForceRoundEnd = true → s.controller.isContentSaved = true

theorem forceInv_create
    : ForceInv gameSettings player (create gameSettings player numOfPlayers isHost) := by
  refine ⟨savedInv_create, ?_, ?_⟩ <;> simp [create, update, perform, StateControllerSheet.init]

theorem ForceInv.step (h : ForceInv gameSettings player s) (hpos : 0 < gameSettings.roundTime)
    (hok : Attended s a) (hnext : Next s a t)
    : ForceInv gameSettings player t := by
  refine ⟨h.toSavedInv.step hok.1 hnext, ?_, ?_⟩
  . cases hnext with
    | lookUp _ _ htime =>
      intro _ _ hlate
      simp only [count, setReference] at hlate
      omega
    | turn => simp [count]
    | timeOut | handIn => exact fun _ _ _ => rfl
    | enable _ _ htime hview => exact fun _ hpending _ => h.late hview hpending (by omega)
    | tick _ _ htime hsaved =>
      intro hview hpending _
      by_cases hzero : s.controller.timeRemaining = 0
      . exact (hsaved hzero).2
      . exact h.late hview hpending (by omega)
    | appear =>
      intro hview _ hlate
      have hview : s.controller.shownView ≠ .getReady := hview
      simp only [SheetMachine.appear, countdown, if_neg hview, h.settings.1] at hlate
      omega
    | skip _ _ hview => exact absurd hview hok.1
    | begin => simp [SheetMachine.begin]
    | _ => exact h.late
  . cases hnext with
    | timeOut | handIn => exact fun _ => rfl
    | enable _ _ htime hview => exact fun _ => h.late hview hok.2 (by omega)
    | skip _ _ hview => exact absurd hview hok.1
    | begin => simp [SheetMachine.begin]
    | _ => exact h.enabled

/-- Only a player who has written the sheet of the round is offered to force its end. -/
theorem force_after_saved (gameSettings : GameSettings) (player : Player) (numOfPlayers : Int)
    (isHost : Bool) (hist : List (SheetMachine × Input)) (s : SheetMachine)
    (hpos : 0 < gameSettings.roundTime)
    (hrun : (system gameSettings player numOfPlayers isHost).Run Attended hist s)
    (hmoved : s.moved = false)
    (henabled : s.controller.enableForceRoundEnd = true)
    : ∃ sheet ∈ s.saved, sheet.number = s.controller.roundNum ∧ sheet.author = player := by
  have h : ForceInv gameSettings player s := by
    apply hrun.invariant
    . rintro s rfl
      exact forceInv_create
    . intro s a t hs hok hstep
      exact hs.step hpos hok (next_of_step hstep)
  exact h.saved hmoved (h.enabled henabled)

theorem force_after_saved_first_round
    : ∃ hist s, shortGame.Run Attended hist s
        ∧
      s.controller.enableForceRoundEnd = true
        ∧
      ∃ sheet ∈ s.saved, sheet.number = s.controller.roundNum ∧ sheet.author = { id := .ofNat 1, number := 1 } := by
  obtain ⟨hist, s, hrun, hmoved, henabled⟩ := TransitionSystem.exists_run_of_exec Attended
    (S := shortGame)
    (P := fun _ s => s.moved = false ∧ s.controller.enableForceRoundEnd = true)
    rfl
    ([.roundNum 1] ++ getReady ++ [.tick (.ofNat 30), .tick (.ofNat 31), .tick (.ofNat 32),
      .tick (.ofNat 33), .tick (.ofNat 34), .tick (.ofNat 35), .tick (.ofNat 36), .tick (.ofNat 37)])
    (by decide +kernel)
  exact ⟨hist, s, hrun, henabled, force_after_saved _ _ _ _ hist s (by decide) hrun hmoved henabled⟩

end SCatCh.SheetMachine
