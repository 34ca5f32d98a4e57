import SCatCh.System.PlayLemmas

/-!
This module contains who ends the rounds of a game. The host's handler is told a number of sheets but
not of which round they are, and it may be called after the host has moved on.
-/

namespace SCatCh.Play

variable {ι : Type} [Fintype ι] [DecidableEq ι] {T : Table ι} {s t : Play ι} {a : Action ι}
  {hist : List (Play ι × Action ι)}

def Raised (T : Table ι) (hist : List (Play ι × Action ι)) (i : ι) (n v : Int) : Prop :=
  ∃ x ∈ hist,
    match x.2 with
    | .device j (.raiseRoundSheets m _) =>
      j = i ∧ m = n ∧ StorageControllerSheet.observeRoundSheets (x.1.view i) T.code n = some v
    | _ => False

/--
A device in round `n` has pressed Force Ending, or is the host and has been told of all the sheets of
round `n`.
-/
def Ended (T : Table ι) (hist : List (Play ι × Action ι)) (n : Int) : Prop :=
  ∃ x ∈ hist,
    match x.2 with
    | .device i .force => (x.1.core i).roundNum = n
    | .device i (.deliverRoundSheets m) =>
      m = n ∧ (x.1.core i).roundNum = n ∧ T.isHost i = true ∧ Raised T hist i n (T.numOfPlayers i)
    | _ => False

/-- The host handles the number of all sheets in the round which they are of. -/
def CurrentCount (T : Table ι) (s : Play ι) : Action ι → Prop
  | .device i (.deliverRoundSheets n) =>
    T.isHost i = true → ((s.core i).sheetsEvents n).queue.head? = some (T.numOfPlayers i) →
      n = (s.core i).roundNum
  | _ => True

instance (s : Play ι) (a : Action ι) : Decidable (CurrentCount T s a) := by
  unfold CurrentCount
  split <;> infer_instance

omit [Fintype ι] [DecidableEq ι] in
theorem Raised.cons {i : ι} {n v : Int} (h : Raised T hist i n v) (x : Play ι × Action ι)
    : Raised T (x :: hist) i n v := by
  obtain ⟨y, hy, h⟩ := h
  exact ⟨y, List.mem_cons_of_mem _ hy, h⟩

omit [Fintype ι] [DecidableEq ι] in
theorem Ended.cons {n : Int} (h : Ended T hist n) (x : Play ι × Action ι)
    : Ended T (x :: hist) n := by
  obtain ⟨⟨y, b⟩, hy, h⟩ := h
  refine ⟨(y, b), List.mem_cons_of_mem _ hy, ?_⟩
  dsimp only at h ⊢
  split at h
  . exact h
  . obtain ⟨h₁, h₂, h₃, h₄⟩ := h
    exact ⟨h₁, h₂, h₃, h₄.cons x⟩
  . exact h.elim

def Due (T : Table ι) (numOfRounds : Int) (hist : List (Play ι × Action ι)) (v : Int) : Prop :=
  v ≤ numOfRounds + 1 ∧ (2 ≤ v → Ended T hist (v - 1))

variable (T) in
structure EndInv (numOfRounds : Int) (hist : List (Play ι × Action ι)) (s : Play ι) : Prop where
  seated : ∀ i, Seated T i (s.core i)
  inRange : ∀ i, (s.core i).InRange
  inGame : ∀ i, ∀ w ∈ (s.core i).outbox, w.InGame T.code
  roundNum : ∃ v, StorageControllerSheet.observeRoundNum s.db T.code = some v ∧ Due T numOfRounds hist v
  pending : ∀ i, ∀ v ∈ roundNums (s.core i).outbox, Due T numOfRounds hist v
  raised : ∀ i n, ∀ v ∈ ((s.core i).sheetsEvents n).queue, Raised T hist i n v

omit [Fintype ι] [DecidableEq ι] in
theorem Due.cons {numOfRounds v : Int} (h : Due T numOfRounds hist v) (x : Play ι × Action ι)
    : Due T numOfRounds (x :: hist) v :=
  ⟨h.1, fun hv => (h.2 hv).cons x⟩

theorem EndInv.due_written {numOfRounds : Int} (h : EndInv T numOfRounds hist s)
    (hrounds : ∀ i, T.numOfRounds i = numOfRounds) (hpos : 1 ≤ numOfRounds)
    (hok : CurrentCount T s a) (hstep : s.step T a = some t) {i : ι} {v : Int}
    (hwritten : written T s a = some (i, v))
    : Due T numOfRounds ((s, a) :: hist) v := by
  -- The number is written by Force Ending, by a host who has all sheets, or by a start.
  unfold written at hwritten
  split at hwritten
  . next j =>
    simp only [Option.some.injEq, Prod.mk.injEq] at hwritten
    obtain ⟨rfl, rfl⟩ := hwritten
    obtain ⟨-, -, -, -, -, k, ⟨hfinished, -⟩, -⟩ := step_device hstep
    have hle := (h.inRange j).roundNum hfinished
    rw [(h.seated j).numOfRounds, hrounds] at hle
    refine ⟨by omega, fun _ => ⟨_, List.mem_cons_self, ?_⟩⟩
    simp
  . next j n =>
    split at hwritten
    . next hend =>
      simp only [Option.some.injEq, Prod.mk.injEq] at hwritten
      obtain ⟨rfl, rfl⟩ := hwritten
      have hn := hok hend.1 hend.2
      obtain ⟨queue, hqueue⟩ := List.head?_eq_some_iff.1 hend.2
      have hle := (h.inRange j).queue n (by simp [hqueue])
      rw [(h.seated j).numOfRounds, hrounds] at hle
      have hraised := h.raised j n (T.numOfPlayers j) (by simp [hqueue])
      refine ⟨by omega, fun _ => ⟨_, List.mem_cons_self, ?_⟩⟩
      subst hn
      simp only [add_sub_cancel_right]
      exact ⟨trivial, trivial, hend.1, hraised.cons _⟩
    . contradiction
  . split at hwritten
    . contradiction
    . simp only [Option.some.injEq, Prod.mk.injEq] at hwritten
      exact ⟨by omega, by omega⟩
  . contradiction

theorem inRange_step (h : ∀ i, (s.core i).InRange) (hstep : s.step T a = some t)
    : ∀ i, (t.core i).InRange := by
  apply forall_core_step (P := fun _ k => k.InRange) _ _ h hstep
  . intro i k k' a hk hnext
    exact hk.next hnext
  . intro i k ws hk
    exact ⟨hk.1, hk.2, hk.3⟩

theorem raised_step (h : ∀ i n, ∀ v ∈ ((s.core i).sheetsEvents n).queue, Raised T hist i n v)
    (hstep : s.step T a = some t)
    : ∀ i n, ∀ v ∈ ((t.core i).sheetsEvents n).queue, Raised T ((s, a) :: hist) i n v := by
  intro i n v hv
  have hold : (t.core i).sheetsEvents = (s.core i).sheetsEvents → Raised T ((s, a) :: hist) i n v := by
    intro heq
    rw [heq] at hv
    exact (h i n v hv).cons _
  cases a with
  | device j a =>
    obtain ⟨-, hadmissible, -, -, -, k, hnext, hcore⟩ := step_device hstep
    by_cases hj : i = j
    . subst hj
      rw [hcore, Function.update_self] at hv
      rcases hnext.mem_queue hv with hv | rfl
      . exact (h i n v hv).cons _
      . exact ⟨_, List.mem_cons_self, rfl, rfl, hadmissible⟩
    . exact hold (by rw [hcore, Function.update_of_ne hj])
  | process j =>
    obtain ⟨w, ws, -, -, -, -, hcore⟩ := step_process hstep
    apply hold
    rw [hcore]
    by_cases hj : i = j
    . subst hj
      rw [Function.update_self]
    . rw [Function.update_of_ne hj]
  | startGame j =>
    obtain ⟨-, -, hcore, -⟩ := step_startGame hstep
    exact hold (by rw [hcore])
  | startReply j o =>
    obtain ⟨-, -, -, hcore⟩ := step_startReply hstep
    apply hold
    rw [hcore]
    by_cases hj : i = j
    . subst hj
      rw [Function.update_self]
    . rw [Function.update_of_ne hj]
  | enter j =>
    obtain ⟨-, -, hcore, -⟩ := step_enter hstep
    exact hold (by rw [hcore])

theorem EndInv.step {numOfRounds : Int} (h : EndInv T numOfRounds hist s)
    (hrounds : ∀ i, T.numOfRounds i = numOfRounds) (hpos : 1 ≤ numOfRounds)
    (hok : CurrentCount T s a) (hstep : s.step T a = some t)
    : EndInv T numOfRounds ((s, a) :: hist) t := by
  have hseated := seated_step h.seated hstep
  have hinRange := inRange_step h.inRange hstep
  have hraised := raised_step h.raised hstep
  obtain ⟨n, hn, hdue⟩ := h.roundNum
  rcases step_outbox h.seated hstep with
    ⟨i, w, ws, -, hw, hdb, hout⟩ | ⟨hdb, i, ws, hout, hgame, hnums, hi⟩
  . -- A write takes effect, which was due when it was sent.
    have hsub : ∀ j, ∀ w' ∈ (t.core j).outbox, w' ∈ (s.core j).outbox := by
      intro j w' hw'
      rw [hout] at hw'
      split at hw'
      . next hj =>
        subst hj
        rw [hw]
        exact List.mem_cons_of_mem _ hw'
      . exact hw'
    have hwgame := h.inGame i w (by simp [hw])
    refine ⟨hseated, hinRange, fun j w' hw' => h.inGame j w' (hsub j w' hw'), ?_, ?_, hraised⟩
    . by_cases hround : ∃ v, w = .roundNum T.code v
      . obtain ⟨v, rfl⟩ := hround
        refine ⟨v, by rw [hdb, observeRoundNum_roundNum], (h.pending i v ?_).cons _⟩
        simp [hw]
      . refine ⟨n, ?_, hdue.cons _⟩
        rw [hdb, observeRoundNum_apply hwgame fun v hv => hround ⟨v, hv⟩, hn]
    . intro j v hv
      apply Due.cons
      apply h.pending j v
      unfold roundNums at hv ⊢
      rw [List.mem_filterMap] at hv ⊢
      obtain ⟨w', hw', hv⟩ := hv
      exact ⟨w', hsub j w' hw', hv⟩
  . -- Writes are sent.
    refine ⟨hseated, hinRange, ?_, ⟨n, by rw [hdb, hn], hdue.cons _⟩, ?_, hraised⟩
    . intro j w hw
      rw [hout, List.mem_append] at hw
      rcases hw with hw | hw
      . exact h.inGame j w hw
      . split at hw
        . exact hgame w hw
        . simp at hw
    . intro j v hv
      rw [hout, roundNums_append, List.mem_append] at hv
      rcases hv with hv | hv
      . exact (h.pending j v hv).cons _
      . split at hv
        . rw [hnums, List.mem_map] at hv
          obtain ⟨⟨i', v'⟩, hwritten, rfl⟩ := hv
          rw [Option.mem_toList] at hwritten
          exact h.due_written hrounds hpos hok hstep hwritten
        . simp at hv

omit [Fintype ι] [DecidableEq ι] in
theorem EndInv.playing {numOfRounds : Int} (hrounds : ∀ i, T.numOfRounds i = numOfRounds)
    (hpos : 1 ≤ numOfRounds) (h : Playing T s)
    : EndInv T numOfRounds [] s := by
  have hcore : ∀ i, s.core i = (T.create i).core := by
    intro i
    rw [core, h.clients]
  refine ⟨?_, ?_, ?_, ⟨1, h.roundNum, by omega, by omega⟩, ?_, ?_⟩
  . intro i
    rw [hcore]
    exact Seated.create i
  . intro i
    have hi := hrounds i
    rw [hcore]
    refine ⟨fun _ => ?_, ?_, ?_⟩
    . have : (0 : Int) ≤ T.numOfRounds i := by omega
      exact this
    all_goals simp [Table.create, SheetClient.create, SheetClient.core, SheetClient.update,
      SheetClient.perform, StateControllerSheet.init]
  all_goals simp [hcore, Table.create, SheetClient.create, SheetClient.core, SheetClient.update,
    SheetClient.perform, StateControllerSheet.init]

/--
If the host never handles the number of all sheets of a round that it has left, then every round is
ended by a device that is in it, and the last one ends the game.
-/
theorem ended_of_currentCount (T : Table ι) (numOfRounds : Int)
    (hrounds : ∀ i, T.numOfRounds i = numOfRounds) (hpos : 1 ≤ numOfRounds)
    (hist : List (Play ι × Action ι)) (s : Play ι)
    (hrun : (system T (Playing T)).Run (CurrentCount T) hist s)
    : ∃ v,
        StorageControllerSheet.observeRoundNum s.db T.code = some v
          ∧ v ≤ numOfRounds + 1
          ∧ ∀ n, v = n + 1 → 2 ≤ n + 1 → Ended T hist n := by
  have hinv : EndInv T numOfRounds hist s := by
    apply hrun.induct (I := EndInv T numOfRounds)
    . intro s hplaying
      exact EndInv.playing hrounds hpos hplaying
    . intro hist s a t h hok hstep
      exact h.step hrounds hpos hok hstep
  obtain ⟨v, hv, hle, hended⟩ := hinv.roundNum
  refine ⟨v, hv, hle, ?_⟩
  rintro n rfl hn
  simpa using hended hn

def duoTable : Table Bool where
  gameSettings := { roundTime := 1, topic := "None", code := 123456, maxNumOfRounds := 3 }
  player := fun i => if i then { id := .ofNat 2, nickname := "Player", number := 2 }
    else { id := .ofNat 1, nickname := "Player 1", number := 1 }
  numOfPlayers := fun _ => 2
  isHost := fun i => !i

def duo : Play Bool where
  db := (Write.roundNum 123456 1).apply (numberedGame 123456 3 2)
  clients := duoTable.create
  entered := fun _ => true
  starts := fun _ => 0

theorem playing_duo : Playing duoTable duo where
  clients := fun _ => rfl
  entered := fun _ => rfl
  starts := fun _ => rfl
  roundNum := observeRoundNum_roundNum 1
  rounds := by decide +kernel

def ticks (i : Bool) (first count : Nat) : List (Action Bool) :=
  (List.range' first count).map fun k => .device i (.tick (.ofNat k))

def openSheet (i : Bool) (first : Nat) : List (Action Bool) :=
  [.device i (.raiseRoundNum 1), .device i .deliverRoundNum, .device i .appear] ++ ticks i first 4

def forceFirst : List (Action Bool) :=
  openSheet false 10 ++ openSheet true 20 ++ [.device true .appear] ++ ticks true 30 7
    ++ [.process true, .device true .force, .process true]

theorem ended_forceFirst
    : ∃ (hist : List (Play Bool × Action Bool)) (s : Play Bool),
        StorageControllerSheet.observeRoundNum s.db 123456 = some 2
          ∧
        ∃ v,
          StorageControllerSheet.observeRoundNum s.db 123456 = some v
            ∧ v ≤ 2 + 1
            ∧ ∀ n, v = n + 1 → 2 ≤ n + 1 → Ended duoTable hist n := by
  obtain ⟨hist, s, hrun, hround⟩ := TransitionSystem.exists_run_of_exec (CurrentCount duoTable)
    (S := system duoTable (Playing duoTable))
    (P := fun _ s => StorageControllerSheet.observeRoundNum s.db 123456 = some 2)
    playing_duo forceFirst (by decide +kernel)
  exact ⟨hist, s, hround, ended_of_currentCount duoTable 2 (by decide) (by decide) hist s hrun⟩

def mayEnd (n : Int) (x : Play ι × Action ι) : Bool :=
  match x.2 with
  | .device i .force => (x.1.core i).roundNum = n
  | .device _ (.deliverRoundSheets m) => m = n
  | _ => false

omit [Fintype ι] [DecidableEq ι] in
theorem Ended.mayEnd {n : Int} (h : Ended T hist n) : ∃ x ∈ hist, mayEnd n x = true := by
  obtain ⟨⟨y, b⟩, hy, h⟩ := h
  refine ⟨(y, b), hy, ?_⟩
  dsimp only at h
  split at h
  . exact decide_eq_true h
  . exact decide_eq_true h.1
  . exact h.elim

/--
The host presses Done after the other device has forced the end of round 1. It handles the new round
number first and the number of sheets of round 1 second, so that round 2 is over at once.
-/
theorem not_ended_second_round
    : ¬∀ (hist : List (Play Bool × Action Bool)) (s : Play Bool),
        (system duoTable (Playing duoTable)).Run (fun _ _ => True) hist s →
          ∃ v,
            StorageControllerSheet.observeRoundNum s.db 123456 = some v
              ∧ v ≤ 2 + 1
              ∧ ∀ n, v = n + 1 → 2 ≤ n + 1 → Ended duoTable hist n := by
  intro h
  obtain ⟨hist, s, hrun, hround, hnot⟩ := TransitionSystem.exists_run_of_exec (fun _ _ => True)
    (S := system duoTable (Playing duoTable))
    (P := fun hist s => StorageControllerSheet.observeRoundNum s.db 123456 = some 3
      ∧ ∀ x ∈ hist, mayEnd 2 x = false)
    playing_duo
    (forceFirst ++ [.device false (.raiseRoundNum 2), .device false (.done (.ofNat 40)),
      .device false (.raiseRoundSheets 1 2), .device false .deliverRoundNum,
      .device false (.deliverRoundSheets 1), .process false, .process false])
    (by decide +kernel)
  obtain ⟨v, hv, -, hended⟩ := h hist s hrun
  rw [hround, Option.some.injEq] at hv
  obtain ⟨x, hx, hend⟩ := (hended 2 (by omega) (by omega)).mayEnd
  rw [hnot x hx] at hend
  contradiction

end SCatCh.Play
