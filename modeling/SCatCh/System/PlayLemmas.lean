import SCatCh.System.Play

/-!
This module contains what the steps of a game have in common: which writes the devices send, and
what these do to the number of the round.
-/

namespace SCatCh

/-! # Writes of a game that is being played -/

def Write.InGame (code : Int) : Write → Prop
  | .number c .. => c = code
  | .roundNum c _ => c = code
  | .sheet c _ => c = code
  | _ => False

def roundNums (ws : List Write) : List Int :=
  ws.filterMap fun
    | .roundNum _ v => some v
    | _ => none

@[simp]
theorem roundNums_nil : roundNums [] = [] := rfl

@[simp]
theorem roundNums_append (ws ws' : List Write) : roundNums (ws ++ ws') = roundNums ws ++ roundNums ws' :=
  List.filterMap_append

@[simp]
theorem roundNums_sheet (code : Int) (sheet : Sheet) (ws : List Write)
    : roundNums (.sheet code sheet :: ws) = roundNums ws := rfl

@[simp]
theorem roundNums_number (code : Int) (key : String) (n : Int) (ws : List Write)
    : roundNums (.number code key n :: ws) = roundNums ws := rfl

@[simp]
theorem roundNums_roundNum (code v : Int) (ws : List Write)
    : roundNums (.roundNum code v :: ws) = v :: roundNums ws := rfl

section Frame

variable {code : Int} {db : Database}

theorem observeRoundNum_roundNum (v : Int)
    : StorageControllerSheet.observeRoundNum ((Write.roundNum code v).apply db) code = some v := by
  unfold StorageControllerSheet.observeRoundNum Write.apply
  rw [← Write.path, PathTree.get_set_self]
  rfl

theorem observeRoundNum_apply {w : Write} (hw : w.InGame code)
    (hround : ∀ v, w ≠ .roundNum code v)
    : StorageControllerSheet.observeRoundNum (w.apply db) code
        =
      StorageControllerSheet.observeRoundNum db code := by
  have hget : (w.apply db).get [toString code, GameKeys.roundNum.rawValue]
      = db.get [toString code, GameKeys.roundNum.rawValue] := by
    apply PathTree.get_set_of_not_prefix
    all_goals
      cases w with
      | number c key n => simp [Write.path, playerPath, GameKeys.rawValue]
      | sheet c sheet => simp [Write.path, roundPath, GameKeys.rawValue]
      | roundNum c v =>
        subst hw
        exact absurd rfl (hround v)
      | game | player | removePlayer => exact hw.elim
  unfold StorageControllerSheet.observeRoundNum
  rw [hget]

end Frame

theorem startGame_eq_nil_or (o : IterationOrder) (db : Database) (code : Int)
    : StorageControllerWaitingRoom.startGame o db code = []
        ∨
      ∃ keys : List String,
        StorageControllerWaitingRoom.startGame o db code
          =
        keys.mapIdx (fun k key => .number code key (k + 1)) ++ [.roundNum code 1] := by
  unfold StorageControllerWaitingRoom.startGame
  split
  . next playersDict _ _ => exact .inr ⟨o.order playersDict, rfl⟩
  . exact .inl rfl

theorem roundNums_mapIdx_number (code : Int) (keys : List String)
    : roundNums (keys.mapIdx fun k key => .number code key (k + 1)) = [] := by
  rw [roundNums, List.filterMap_eq_nil_iff]
  intro w hw
  rw [List.mem_mapIdx] at hw
  obtain ⟨k, hk, rfl⟩ := hw
  rfl

theorem inGame_of_mem_startGame {o : IterationOrder} {db : Database} {code : Int} {w : Write}
    (hw : w ∈ StorageControllerWaitingRoom.startGame o db code)
    : w.InGame code := by
  rcases startGame_eq_nil_or o db code with hnil | ⟨keys, heq⟩
  . rw [hnil] at hw
    simp at hw
  . rw [heq, List.mem_append, List.mem_mapIdx, List.mem_singleton] at hw
    rcases hw with ⟨k, hk, rfl⟩ | rfl
    . exact rfl
    . exact rfl

namespace Play

variable {ι : Type} [Fintype ι] [DecidableEq ι] {T : Table ι} {s t : Play ι} {a : Action ι}

/-! # What a device was created with -/

variable (T) in
structure Seated (i : ι) (k : Core) : Prop where
  gameSettings : k.gameSettings = T.gameSettings
  player : k.player = T.player i
  numOfPlayers : k.numOfPlayers = T.numOfPlayers i
  numOfRounds : k.numOfRounds = T.numOfRounds i
  isHost : k.isHost = T.isHost i

omit [Fintype ι] [DecidableEq ι] in
theorem Seated.create (i : ι) : Seated T i (T.create i).core := ⟨rfl, rfl, rfl, rfl, rfl⟩

omit [Fintype ι] [DecidableEq ι] in
theorem Seated.next {i : ι} {k k' : Core} {a : SheetClient.Input} (h : Seated T i k)
    (hnext : k.Next k' a)
    : Seated T i k' := by
  obtain ⟨h₁, h₂, h₃, h₄, h₅⟩ := hnext.constants
  exact ⟨h₁.trans h.gameSettings, h₂.trans h.player, h₃.trans h.numOfPlayers, h₄.trans h.numOfRounds,
    h₅.trans h.isHost⟩

theorem forall_core_step {P : ι → Core → Prop}
    (hnext : ∀ i k k' a, P i k → k.Next k' a → P i k')
    (hout : ∀ i k ws, P i k → P i { k with outbox := ws })
    (h : ∀ i, P i (s.core i)) (hstep : s.step T a = some t)
    : ∀ i, P i (t.core i) := by
  cases a with
  | device i a =>
    obtain ⟨-, -, -, -, -, k, hk, hcore⟩ := step_device hstep
    rw [hcore, Function.forall_update_iff s.core P]
    exact ⟨hnext i _ k a (h i) hk, fun j _ => h j⟩
  | process i =>
    obtain ⟨w, ws, -, -, -, -, hcore⟩ := step_process hstep
    rw [hcore, Function.forall_update_iff s.core P]
    exact ⟨hout i _ ws (h i), fun j _ => h j⟩
  | startGame i =>
    obtain ⟨-, -, hcore, -⟩ := step_startGame hstep
    rw [hcore]
    exact h
  | startReply i o =>
    obtain ⟨-, -, -, hcore⟩ := step_startReply hstep
    rw [hcore, Function.forall_update_iff s.core P]
    exact ⟨hout i _ _ (h i), fun j _ => h j⟩
  | enter i =>
    obtain ⟨-, -, hcore, -⟩ := step_enter hstep
    rw [hcore]
    exact h

theorem seated_step (h : ∀ i, Seated T i (s.core i)) (hstep : s.step T a = some t)
    : ∀ i, Seated T i (t.core i) := by
  apply forall_core_step _ _ h hstep
  . intro i k k' a hk hnext
    exact hk.next hnext
  . intro i k ws hk
    exact ⟨hk.1, hk.2, hk.3, hk.4, hk.5⟩

/-! # Which numbers of rounds are written -/

def written (T : Table ι) (s : Play ι) : Action ι → Option (ι × Int)
  | .device i .force => some (i, (s.core i).roundNum + 1)
  | .device i (.deliverRoundSheets n) =>
    if T.isHost i = true ∧ ((s.core i).sheetsEvents n).queue.head? = some (T.numOfPlayers i) then
      some (i, (s.core i).roundNum + 1)
    else
      none
  | .startReply i o =>
    if StorageControllerWaitingRoom.startGame o s.db T.code = [] then none else some (i, 1)
  | _ => none

omit [Fintype ι] [DecidableEq ι] in
theorem sent_device {i : ι} {k : Core} {a : SheetClient.Input} (hseated : Seated T i (s.core i))
    (hnext : (s.core i).Next k a)
    : ∃ ws,
        k.outbox = (s.core i).outbox ++ ws
          ∧ (∀ w ∈ ws, w.InGame T.code)
          ∧ roundNums ws = (written T s (.device i a)).toList.map Prod.snd
          ∧ ∀ j v, written T s (.device i a) = some (j, v) → j = i := by
  have hcode : (s.core i).gameSettings.code = T.code := by
    rw [hseated.gameSettings]
    rfl
  cases a with
  | tick newId =>
    rcases hnext with rfl | ⟨-, content, rfl⟩
    . exact ⟨[], by simp, by simp, rfl, by simp [written]⟩
    . exact ⟨[_], rfl, by simp [Write.InGame, hcode], rfl, by simp [written]⟩
  | done newId =>
    rcases hnext with rfl | ⟨-, content, rfl⟩
    . exact ⟨[], by simp, by simp, rfl, by simp [written]⟩
    . exact ⟨[_], rfl, by simp [Write.InGame, hcode], rfl, by simp [written]⟩
  | force =>
    obtain ⟨-, rfl⟩ := hnext
    refine ⟨[_], rfl, by simp [Write.InGame, hcode], rfl, ?_⟩
    simp only [written, Option.some.injEq, Prod.mk.injEq]
    rintro j v ⟨rfl, -⟩
    rfl
  | raiseRoundNum v =>
    obtain ⟨o, -, rfl⟩ := hnext
    exact ⟨[], by simp, by simp, rfl, by simp [written]⟩
  | deliverRoundNum =>
    obtain ⟨v, o, -, ⟨-, rfl⟩ | ⟨-, rfl⟩⟩ := hnext
    . exact ⟨[], by simp, by simp, rfl, by simp [written]⟩
    . exact ⟨[], by simp, by simp, rfl, by simp [written]⟩
  | raiseRoundSheets n v =>
    obtain ⟨o, -, rfl⟩ := hnext
    exact ⟨[], (List.append_nil _).symm, by simp, rfl, by simp [written]⟩
  | deliverRoundSheets n =>
    obtain ⟨v, o, hdeliver, hcases⟩ := hnext
    obtain ⟨queue, hqueue, rfl⟩ := Observer.deliver_eq_some.1 hdeliver
    rw [hseated.isHost, hseated.numOfPlayers] at hcases
    simp only [written, hqueue, List.head?_cons, Option.some.injEq]
    rcases hcases with ⟨hhost, hv, rfl⟩ | ⟨hnot, rfl⟩
    . rw [if_pos ⟨hhost, hv⟩]
      refine ⟨[_], rfl, by simp [Write.InGame, Core.setSheetsEvents, hcode], rfl, ?_⟩
      simp only [Option.some.injEq, Prod.mk.injEq]
      rintro j v ⟨rfl, -⟩
      rfl
    . rw [if_neg hnot]
      exact ⟨[], (List.append_nil _).symm, by simp, rfl, by simp⟩
  | appear | type _ | draw _ | answer _ _ _ _ _ | reply _ =>
    rw [hnext]
    exact ⟨[], by simp, by simp, rfl, by simp [written]⟩

theorem step_outbox (hseated : ∀ i, Seated T i (s.core i)) (hstep : s.step T a = some t)
    : (∃ i w ws, a = .process i
        ∧ (s.core i).outbox = w :: ws
        ∧ t.db = w.apply s.db
        ∧ ∀ j, (t.core j).outbox = if j = i then ws else (s.core j).outbox)
        ∨
      (t.db = s.db
        ∧ ∃ i ws, (∀ j, (t.core j).outbox = (s.core j).outbox ++ if j = i then ws else [])
            ∧ (∀ w ∈ ws, w.InGame T.code)
            ∧ roundNums ws = (written T s a).toList.map Prod.snd
            ∧ ∀ j v, written T s a = some (j, v) → j = i) := by
  cases a with
  | device i a =>
    obtain ⟨-, -, hdb, -, -, k, hnext, hcore⟩ := step_device hstep
    obtain ⟨ws, hout, hgame, hnums, hi⟩ := sent_device (hseated i) hnext
    refine .inr ⟨hdb, i, ws, ?_, hgame, hnums, hi⟩
    intro j
    rw [hcore]
    by_cases hj : j = i
    . subst hj
      simp [hout]
    . simp [hj]
  | process i =>
    obtain ⟨w, ws, hout, hdb, -, -, hcore⟩ := step_process hstep
    refine .inl ⟨i, w, ws, rfl, hout, hdb, ?_⟩
    intro j
    rw [hcore]
    by_cases hj : j = i
    . subst hj
      simp
    . simp [hj]
  | startGame i =>
    obtain ⟨-, hdb, hcore, -⟩ := step_startGame hstep
    exact .inr ⟨hdb, i, [], by simp [hcore], by simp, rfl, by simp [written]⟩
  | startReply i o =>
    obtain ⟨-, hdb, -, hcore⟩ := step_startReply hstep
    refine .inr ⟨hdb, i, StorageControllerWaitingRoom.startGame o s.db T.code, ?_,
      fun w => inGame_of_mem_startGame, ?_, ?_⟩
    . intro j
      rw [hcore]
      by_cases hj : j = i
      . subst hj
        simp
      . simp [hj]
    . rcases startGame_eq_nil_or o s.db T.code with hnil | ⟨keys, heq⟩
      . simp [written, hnil]
      . simp [written, heq, roundNums_mapIdx_number]
    . intro j v hwritten
      simp only [written, Option.ite_none_left_eq_some, Option.some.injEq, Prod.mk.injEq] at hwritten
      exact hwritten.2.1.symm
  | enter i =>
    obtain ⟨-, hdb, hcore, -⟩ := step_enter hstep
    exact .inr ⟨hdb, i, [], by simp [hcore], by simp, rfl, by simp [written]⟩

end Play

end SCatCh
