import SCatCh.System.PlayLemmas

/-!
This module contains when the number of the round in the database does not decrease. Every device
writes a number of its own, so that two of them that are on their way together have to be equal.
-/

namespace SCatCh.Play

variable {ι : Type} [Fintype ι] [DecidableEq ι] {T : Table ι} {s t : Play ι} {a : Action ι}

/--
A device writes the number of the round only if neither the database nor a write on its way is
ahead, and no other device has a different number on its way.
-/
def InOrder (T : Table ι) (s : Play ι) (a : Action ι) : Prop :=
  match written T s a with
  | some (i, v) =>
    (StorageControllerSheet.observeRoundNum s.db T.code).all (fun n => n ≤ v) = true
      ∧
    ∀ j, ∀ w ∈ roundNums (s.core j).outbox, w ≤ v ∧ (j ≠ i → w = v)
  | none => True

instance (s : Play ι) (a : Action ι) : Decidable (InOrder T s a) := by
  unfold InOrder
  split <;> infer_instance

variable (T) in
structure OrderInv (s : Play ι) (n : Int) : Prop where
  seated : ∀ i, Seated T i (s.core i)
  roundNum : StorageControllerSheet.observeRoundNum s.db T.code = some n
  inGame : ∀ i, ∀ w ∈ (s.core i).outbox, w.InGame T.code
  sorted : ∀ i, (n :: roundNums (s.core i).outbox).Pairwise (· ≤ ·)
  agree : ∀ i j, i ≠ j → ∀ v ∈ roundNums (s.core i).outbox, ∀ w ∈ roundNums (s.core j).outbox, v = w

omit [Fintype ι] [DecidableEq ι] in
theorem OrderInv.congr {n : Int} (h : OrderInv T s n) (hseated : ∀ i, Seated T i (t.core i))
    (hround : StorageControllerSheet.observeRoundNum t.db T.code
      = StorageControllerSheet.observeRoundNum s.db T.code)
    (hgame : ∀ i, ∀ w ∈ (t.core i).outbox, w.InGame T.code)
    (hsame : ∀ i, roundNums (t.core i).outbox = roundNums (s.core i).outbox)
    : OrderInv T t n := by
  refine ⟨hseated, hround.trans h.roundNum, hgame, ?_, ?_⟩
  . intro i
    rw [hsame]
    exact h.sorted i
  . intro i j hne
    rw [hsame, hsame]
    exact h.agree i j hne

omit [Fintype ι] in
theorem OrderInv.send {n : Int} (h : OrderInv T s n) (hok : InOrder T s a)
    (hseated : ∀ i, Seated T i (t.core i)) (hdb : t.db = s.db) {i : ι} {ws : List Write}
    (hout : ∀ j, (t.core j).outbox = (s.core j).outbox ++ if j = i then ws else [])
    (hgame : ∀ w ∈ ws, w.InGame T.code)
    (hnums : roundNums ws = (written T s a).toList.map Prod.snd)
    (hi : ∀ j v, written T s a = some (j, v) → j = i)
    : OrderInv T t n := by
  have hroundNums : ∀ j, roundNums (t.core j).outbox
      = roundNums (s.core j).outbox ++ if j = i then roundNums ws else [] := by
    intro j
    rw [hout]
    split <;> simp
  have hgame' : ∀ j, ∀ w ∈ (t.core j).outbox, w.InGame T.code := by
    intro j w hw
    rw [hout, List.mem_append] at hw
    rcases hw with hw | hw
    . exact h.inGame j w hw
    . split at hw
      . exact hgame w hw
      . simp at hw
  cases hw : written T s a with
  | none =>
    rw [hw] at hnums
    apply h.congr hseated (by rw [hdb]) hgame'
    intro j
    rw [hroundNums, hnums]
    simp
  | some x =>
    obtain ⟨i', v⟩ := x
    obtain rfl := hi i' v hw
    simp only [InOrder, hw, h.roundNum, Option.all_some, decide_eq_true_eq] at hok
    rw [hw] at hnums
    have hself : roundNums (t.core i').outbox = roundNums (s.core i').outbox ++ [v] := by
      rw [hroundNums, hnums]
      simp
    have hother : ∀ j, j ≠ i' → roundNums (t.core j).outbox = roundNums (s.core j).outbox := by
      intro j hj
      rw [hroundNums]
      simp [hj]
    refine ⟨hseated, by rw [hdb, h.roundNum], hgame', ?_, ?_⟩
    . intro j
      by_cases hj : j = i'
      . subst hj
        rw [hself, ← List.cons_append, List.pairwise_append]
        refine ⟨h.sorted j, List.pairwise_singleton _ _, ?_⟩
        intro x hx y hy
        rw [List.mem_singleton] at hy
        subst hy
        rw [List.mem_cons] at hx
        rcases hx with rfl | hx
        . exact hok.1
        . exact (hok.2 j x hx).1
      . rw [hother j hj]
        exact h.sorted j
    . -- The new number is the one that all others have on their way.
      intro j j' hne x hx y hy
      by_cases hj : j = i'
      . subst hj
        rw [hother j' hne.symm] at hy
        rw [hself, List.mem_append, List.mem_singleton] at hx
        rcases hx with hx | rfl
        . exact h.agree j j' hne x hx y hy
        . exact ((hok.2 j' y hy).2 hne.symm).symm
      . rw [hother j hj] at hx
        by_cases hj' : j' = i'
        . subst hj'
          rw [hself, List.mem_append, List.mem_singleton] at hy
          rcases hy with hy | rfl
          . exact h.agree j j' hne x hx y hy
          . exact (hok.2 j x hx).2 hne
        . rw [hother j' hj'] at hy
          exact h.agree j j' hne x hx y hy

omit [Fintype ι] in
theorem OrderInv.process {n : Int} (h : OrderInv T s n)
    (hseated : ∀ i, Seated T i (t.core i)) {i : ι} {w : Write} {ws : List Write}
    (hw : (s.core i).outbox = w :: ws) (hdb : t.db = w.apply s.db)
    (hout : ∀ j, (t.core j).outbox = if j = i then ws else (s.core j).outbox)
    : ∃ n', OrderInv T t n' ∧ n ≤ n' := by
  have hgame : ∀ j, ∀ w ∈ (t.core j).outbox, w.InGame T.code := by
    intro j w' hw'
    rw [hout] at hw'
    split at hw'
    . next hj =>
      subst hj
      exact h.inGame j w' (by rw [hw]; exact List.mem_cons_of_mem _ hw')
    . exact h.inGame j w' hw'
  have hwgame := h.inGame i w (by simp [hw])
  have hself : (t.core i).outbox = ws := by simp [hout]
  have hother : ∀ j, j ≠ i → (t.core j).outbox = (s.core j).outbox := by
    intro j hj
    simp [hout, hj]
  by_cases hround : ∃ v, w = .roundNum T.code v
  . obtain ⟨v, rfl⟩ := hround
    have hsorted := h.sorted i
    rw [hw, roundNums_roundNum] at hsorted
    refine ⟨v, ⟨hseated, by rw [hdb, observeRoundNum_roundNum], hgame, ?_, ?_⟩, ?_⟩
    . intro j
      by_cases hj : j = i
      . subst hj
        rw [hself]
        exact (List.pairwise_cons.1 hsorted).2
      . -- What other devices still have on their way is the same number.
        rw [hother j hj, List.pairwise_cons]
        refine ⟨?_, (List.pairwise_cons.1 (h.sorted j)).2⟩
        intro x hx
        exact (h.agree i j (Ne.symm hj) v (by simp [hw]) x hx).le
    . intro j j' hne x hx y hy
      have hsub : ∀ j, ∀ x ∈ roundNums (t.core j).outbox, x ∈ roundNums (s.core j).outbox := by
        intro j x hx
        by_cases hj : j = i
        . subst hj
          rw [hself] at hx
          simp [hw, hx]
        . rwa [hother j hj] at hx
      exact h.agree j j' hne x (hsub j x hx) y (hsub j' y hy)
    . exact (List.pairwise_cons.1 hsorted).1 v (by simp)
  . have hround : ∀ v, w ≠ .roundNum T.code v := fun v hv => hround ⟨v, hv⟩
    refine ⟨n, h.congr hseated (by rw [hdb, observeRoundNum_apply hwgame hround]) hgame ?_, le_refl n⟩
    intro j
    by_cases hj : j = i
    . subst hj
      rw [hself, hw]
      cases w with
      | roundNum c v =>
        have : c = T.code := hwgame
        exact absurd (by rw [this]) (hround v)
      | number | sheet | game | player | removePlayer => rfl
    . rw [hother j hj]

theorem OrderInv.step {n : Int} (h : OrderInv T s n) (hok : InOrder T s a)
    (hstep : s.step T a = some t)
    : ∃ n', OrderInv T t n' ∧ n ≤ n' := by
  have hseated := seated_step h.seated hstep
  rcases step_outbox h.seated hstep with
    ⟨i, w, ws, -, hw, hdb, hout⟩ | ⟨hdb, i, ws, hout, hgame, hnums, hi⟩
  . exact h.process hseated hw hdb hout
  . exact ⟨n, h.send hok hseated hdb hout hgame hnums hi, le_refl n⟩

omit [Fintype ι] [DecidableEq ι] in
theorem OrderInv.waiting (h : Waiting T s) : OrderInv T s 0 := by
  have hcore : ∀ i, s.core i = (T.create i).core := by
    intro i
    rw [core, h.clients]
  refine ⟨?_, h.roundNum, ?_, ?_, ?_⟩
  . intro i
    rw [hcore]
    exact Seated.create i
  all_goals simp [hcore, Table.create, SheetClient.create, SheetClient.core, SheetClient.update,
    SheetClient.perform, StateControllerSheet.init]

def NotDecreasing (T : Table ι) (s t : Play ι) : Prop :=
  ∃ m n,
    StorageControllerSheet.observeRoundNum s.db T.code = some m
      ∧ StorageControllerSheet.observeRoundNum t.db T.code = some n
      ∧ m ≤ n

/-- The round of a game that is started and played in order never goes back. -/
theorem roundNum_monotone (T : Table ι) (hist : List (Play ι × Action ι)) (s : Play ι)
    (hrun : (system T (Waiting T)).Run (InOrder T) hist s)
    : ∀ x ∈ hist, ∃ t, x.1.step T x.2 = some t ∧ NotDecreasing T x.1 t := by
  apply hrun.forall_mem (I := fun s => ∃ n, OrderInv T s n) (Q := fun s _ t => NotDecreasing T s t)
  . intro hist s hrun
    apply hrun.invariant
    . intro s hwaiting
      exact ⟨0, OrderInv.waiting hwaiting⟩
    . rintro s a t ⟨n, h⟩ hok hstep
      obtain ⟨n', h', -⟩ := h.step hok hstep
      exact ⟨n', h'⟩
  . rintro s a t ⟨n, h⟩ hok hstep
    obtain ⟨n', h', hle⟩ := h.step hok hstep
    exact ⟨n, n', h.roundNum, h'.roundNum, hle⟩

def soloTable : Table Unit where
  gameSettings := { roundTime := 60, topic := "None", code := 123456, maxNumOfRounds := 3 }
  player := fun _ => { id := .ofNat 1, nickname := "Player 1", number := 1 }
  numOfPlayers := fun _ => 1
  isHost := fun _ => true

def solo : Play Unit where
  db := (Write.game 123456 "None" 3 60 (.ofNat 1) "Player 1" "2021-05-01 12:00:00").apply .empty
  clients := soloTable.create
  entered := fun _ => false
  starts := fun _ => 0

theorem waiting_solo : Waiting soloTable solo where
  clients := fun _ => rfl
  entered := fun _ => rfl
  starts := fun _ => rfl
  roundNum := by decide +kernel

def soloActions : List (Action Unit) :=
  [.startReply () .listed, .process (), .process (), .enter (),
    .device () (.raiseRoundNum 1), .device () .deliverRoundNum, .device () .appear,
    .device () (.tick (.ofNat 10)), .device () (.tick (.ofNat 11)), .device () (.tick (.ofNat 12)),
    .device () (.tick (.ofNat 13)), .device () (.done (.ofNat 14)), .process (),
    .device () (.raiseRoundSheets 1 1), .device () (.deliverRoundSheets 1), .process ()]

theorem roundNum_monotone_solo
    : ∃ (hist : List (Play Unit × Action Unit)) (s : Play Unit),
        StorageControllerSheet.observeRoundNum s.db 123456 = some 2
          ∧
        ∀ x ∈ hist, ∃ t, x.1.step soloTable x.2 = some t ∧ NotDecreasing soloTable x.1 t := by
  obtain ⟨hist, s, hrun, hround⟩ := TransitionSystem.exists_run_of_exec (InOrder soloTable)
    (S := system soloTable (Waiting soloTable))
    (P := fun _ s => StorageControllerSheet.observeRoundNum s.db 123456 = some 2)
    waiting_solo (.startGame () :: soloActions) (by decide +kernel)
  exact ⟨hist, s, hround, roundNum_monotone soloTable hist s hrun⟩

/-- A second tap on Start whose read is answered only now puts the game back to round 1. -/
theorem not_notDecreasing_second_start
    : ¬∀ (hist : List (Play Unit × Action Unit)) (s : Play Unit),
        (system soloTable (Waiting soloTable)).Run (fun _ _ => True) hist s →
          ∀ x ∈ hist, ∃ t, x.1.step soloTable x.2 = some t ∧ NotDecreasing soloTable x.1 t := by
  intro h
  obtain ⟨hist, s, hrun, hlast⟩ := TransitionSystem.exists_run_of_exec (fun _ _ => True)
    (S := system soloTable (Waiting soloTable))
    (P := fun hist _ => ∃ x ∈ hist,
      StorageControllerSheet.observeRoundNum x.1.db 123456 = some 2
        ∧
      (x.1.step soloTable x.2).any
        (fun t => StorageControllerSheet.observeRoundNum t.db 123456 = some 1) = true)
    waiting_solo
    ([.startGame (), .startGame ()] ++ soloActions
      ++ [.startReply () .listed, .process (), .process ()])
    (by decide +kernel)
  obtain ⟨x, hx, hbefore, hafter⟩ := hlast
  obtain ⟨t, hstep, m, n, hm, hn, hle⟩ := h hist s hrun x hx
  rw [hstep, Option.any_some, decide_eq_true_eq] at hafter
  have hm : some 2 = some m := hbefore.symm.trans hm
  have hn : some 1 = some n := hafter.symm.trans hn
  simp only [Option.some.injEq] at hm hn
  omega

end SCatCh.Play
