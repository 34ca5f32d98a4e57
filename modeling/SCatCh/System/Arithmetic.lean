import SCatCh.System.Game
import SCatCh.System.Waiting

/-!
This module contains the proof that the arithmetic of the Sheet and Summary states never traps. That
both have at least one round and no more rounds than players goes back to the stepper of the host's
screen, to the dictionary in which a game is stored, and to the code 0, under which there is no game.
-/

namespace SCatCh

namespace StateControllerSheet

structure Computes (c : StateControllerSheet) : Prop where
  rounds : 1 ≤ c.numOfRounds
  players : c.numOfRounds ≤ c.numOfPlayers
  number : 0 ≤ c.player.number
  range : closedRange? 1 c.numOfRounds = some (closedRange 1 c.numOfRounds)
  author : ∀ playerNum, 0 ≤ playerNum → 0 ≤ playerNum + 1 ∧ ∃ authorNum,
    getAuthorNumToGetRefSheet c.numOfPlayers playerNum = some authorNum
      ∧ 1 ≤ authorNum
      ∧ authorNum ≤ c.numOfPlayers

theorem getAuthorNumToGetRefSheet_bounds {numOfPlayers playerNum : Int} (hpos : 1 ≤ numOfPlayers)
    (hnumber : 0 ≤ playerNum)
    : ∃ authorNum,
        getAuthorNumToGetRefSheet numOfPlayers playerNum = some authorNum
          ∧ 1 ≤ authorNum
          ∧ authorNum ≤ numOfPlayers := by
  have hnonneg := Int.emod_nonneg (playerNum + 1) (b := numOfPlayers) (by omega)
  have hlt := Int.emod_lt_of_pos (playerNum + 1) (b := numOfPlayers) (by omega)
  unfold getAuthorNumToGetRefSheet
  rw [remainder_of_nonneg (by omega) (by omega)]
  refine ⟨_, rfl, ?_⟩
  split <;> omega

variable {c c' : StateControllerSheet} {effects : List Effect} {a : SheetMachine.Input}

theorem Computes.of_le (hrounds : 1 ≤ c.numOfRounds) (hplayers : c.numOfRounds ≤ c.numOfPlayers)
    (hnumber : 0 ≤ c.player.number)
    : c.Computes where
  rounds := hrounds
  players := hplayers
  number := hnumber
  range := closedRange?_of_le hrounds
  author := fun _ h => ⟨by omega, getAuthorNumToGetRefSheet_bounds (by omega) h⟩

theorem Computes.getReferenceSheet (h : c.Computes) (newId : UUID)
    : (c.getReferenceSheet newId).isSome = true := by
  obtain ⟨authorNum, hauthor, -⟩ := (h.author _ h.number).2
  unfold StateControllerSheet.getReferenceSheet
  rw [hauthor]
  split
  . split <;> rfl
  . rfl

theorem Computes.checkTimer (h : c.Computes) (newId : UUID) : (c.checkTimer newId).isSome = true := by
  obtain ⟨⟨c₁, effects₁⟩, hreference⟩ := Option.isSome_iff_exists.1 (h.getReferenceSheet newId)
  unfold StateControllerSheet.checkTimer switchTimeRemaining
  rw [hreference]
  split
  . rfl
  . split
    . split <;> rfl
    . split
      . split <;> rfl
      . rfl

theorem Computes.handleDBDataRoundNum (h : c.Computes) (v : Int)
    : (c.handleDBDataRoundNum v).isSome = true := by
  unfold StateControllerSheet.handleDBDataRoundNum initializeRound
  split
  . simp only [h.range, Option.bind_eq_bind, Option.bind_some]
    split <;> rfl
  . rfl

theorem Computes.call (h : c.Computes) (a : SheetMachine.Input) : (c.call a).isSome = true := by
  cases a with
  | tick newId => exact h.checkTimer newId
  | roundNum v => exact h.handleDBDataRoundNum v
  | _ => rfl

structure SameGame (c c' : StateControllerSheet) : Prop where
  gameSettings : c'.gameSettings = c.gameSettings
  player : c'.player = c.player
  numOfPlayers : c'.numOfPlayers = c.numOfPlayers
  numOfRounds : c'.numOfRounds = c.numOfRounds

theorem Computes.sameGame (h : c.Computes) (hsame : c.SameGame c') : c'.Computes := by
  apply Computes.of_le
  . rw [hsame.numOfRounds]
    exact h.rounds
  . rw [hsame.numOfRounds, hsame.numOfPlayers]
    exact h.players
  . rw [hsame.player]
    exact h.number

def Effect.Of (c : StateControllerSheet) : Effect → Prop
  | .saveSheet code _ => code = c.gameSettings.code
  | .updateRoundNum code _ => code = c.gameSettings.code
  | .moveToStateSummary gameSettings numOfRounds numOfPlayers =>
    gameSettings = c.gameSettings ∧ numOfRounds = c.numOfRounds ∧ numOfPlayers = c.numOfPlayers
  | _ => True

theorem getReferenceSheet_spec {newId : UUID} (h : c.getReferenceSheet newId = some (c', effects))
    : c.SameGame c' ∧ ∀ e ∈ effects, e.Of c := by
  rcases getReferenceSheet_cases h with ⟨rfl, rfl⟩ | ⟨-, -, rfl, _, -, rfl⟩ | ⟨-, rfl, _, rfl⟩
  . exact ⟨⟨rfl, rfl, rfl, rfl⟩, by simp⟩
  . exact ⟨⟨rfl, rfl, rfl, rfl⟩, by simp [Effect.Of]⟩
  . exact ⟨⟨rfl, rfl, rfl, rfl⟩, by simp⟩

theorem saveSheet_spec {newId : UUID} (h : c.saveSheet newId = (c', effects))
    : c.SameGame c' ∧ ∀ e ∈ effects, e.Of c := by
  rcases saveSheet_cases h with ⟨-, rfl, rfl⟩ | ⟨-, -, rfl, rfl⟩ | ⟨-, _, _, _, rfl, rfl⟩
  . exact ⟨⟨rfl, rfl, rfl, rfl⟩, by simp⟩
  . exact ⟨⟨rfl, rfl, rfl, rfl⟩, by simp⟩
  . exact ⟨⟨rfl, rfl, rfl, rfl⟩, by simp [Effect.Of]⟩

theorem checkTimer_spec {newId : UUID} (h : c.checkTimer newId = some (c', effects))
    : c.SameGame c' ∧ ∀ e ∈ effects, e.Of c := by
  obtain ⟨c₁, _, _, _, rfl, h | ⟨-, h⟩ | ⟨rfl, rfl⟩⟩ := checkTimer_cases h
  . obtain ⟨hsame, heffects⟩ := getReferenceSheet_spec h
    exact ⟨⟨hsame.gameSettings, hsame.player, hsame.numOfPlayers, hsame.numOfRounds⟩, heffects⟩
  . obtain ⟨hsame, heffects⟩ := saveSheet_spec h
    exact ⟨⟨hsame.gameSettings, hsame.player, hsame.numOfPlayers, hsame.numOfRounds⟩, heffects⟩
  . exact ⟨⟨rfl, rfl, rfl, rfl⟩, by simp⟩

theorem handleDBDataRoundNum_spec {v : Int} (h : c.handleDBDataRoundNum v = some (c', effects))
    : c.SameGame c' ∧ ∀ e ∈ effects, e.Of c := by
  have hstop : ∀ e ∈ c.stopOld, e.Of c := by
    unfold stopOld
    split <;> simp [Effect.Of]
  have hobserve : ∀ e ∈ c.observeNew v, e.Of c := by
    unfold observeNew
    split <;> simp [Effect.Of]
  rcases handleDBDataRoundNum_cases h with ⟨-, rfl, rfl⟩ | ⟨-, -, rfl, rfl⟩ | ⟨-, -, rfl, rfl⟩
  . exact ⟨⟨rfl, rfl, rfl, rfl⟩, by simp⟩
  . refine ⟨⟨rfl, rfl, rfl, rfl⟩, ?_⟩
    intro e he
    rw [List.mem_append] at he
    exact he.elim (hstop e) (hobserve e)
  . refine ⟨⟨rfl, rfl, rfl, rfl⟩, ?_⟩
    intro e he
    rw [List.mem_append] at he
    rcases he with he | he
    . exact hstop e he
    . simp only [finish, List.mem_cons, List.not_mem_nil, or_false] at he
      rcases he with rfl | rfl | rfl <;> simp [Effect.Of]

theorem handleDBDataRoundSheets_spec {n : Int} (h : c.handleDBDataRoundSheets n = (c', effects))
    : c.SameGame c' ∧ ∀ e ∈ effects, e.Of c := by
  obtain ⟨rfl, ⟨-, -, rfl⟩ | ⟨-, rfl⟩⟩ := handleDBDataRoundSheets_cases h
  . exact ⟨⟨rfl, rfl, rfl, rfl⟩, by simp [Effect.Of]⟩
  . exact ⟨⟨rfl, rfl, rfl, rfl⟩, by simp⟩

theorem call_spec (h : c.call a = some (c', effects))
    : c.SameGame c' ∧ ∀ e ∈ effects, e.Of c := by
  cases a with
  | tick newId => exact checkTimer_spec h
  | done newId => exact saveSheet_spec (Option.some.inj h)
  | roundNum v => exact handleDBDataRoundNum_spec h
  | roundSheets n => exact handleDBDataRoundSheets_spec (Option.some.inj h)
  | appear =>
    cases h
    unfold resetCountdown
    split <;> exact ⟨⟨rfl, rfl, rfl, rfl⟩, by simp⟩
  | force =>
    cases h
    exact ⟨⟨rfl, rfl, rfl, rfl⟩, by simp [Effect.Of]⟩
  | type | draw | reference =>
    cases h
    exact ⟨⟨rfl, rfl, rfl, rfl⟩, by simp⟩

end StateControllerSheet

namespace StateControllerSummary

structure Computes (c : StateControllerSummary) : Prop where
  rounds : 1 ≤ c.numOfRounds
  players : c.numOfRounds ≤ c.numOfPlayers
  roundsRange : closedRange? 1 c.numOfRounds = some (closedRange 1 c.numOfRounds)
  playersRange : closedRange? 1 c.numOfPlayers = some (closedRange 1 c.numOfPlayers)
  author : ∀ playerNum ∈ closedRange 1 c.numOfPlayers, ∀ roundNum ∈ closedRange 1 c.numOfRounds,
    0 ≤ playerNum + (c.numOfPlayers - roundNum - 1) ∧ ∃ authorNum,
      getAuthorNumToBuildStacks playerNum roundNum c.numOfPlayers = some authorNum
        ∧ 1 ≤ authorNum
        ∧ authorNum ≤ c.numOfPlayers

variable {c c' : StateControllerSummary} {a : Input}

theorem Computes.of_le (hrounds : 1 ≤ c.numOfRounds) (hplayers : c.numOfRounds ≤ c.numOfPlayers)
    : c.Computes where
  rounds := hrounds
  players := hplayers
  roundsRange := closedRange?_of_le hrounds
  playersRange := closedRange?_of_le (by omega)
  author := by
    intro playerNum hplayer roundNum hround
    rw [mem_closedRange] at hplayer hround
    refine ⟨by omega, _, getAuthorNumToBuildStacks_eq (by omega) hplayer.1 (by omega), ?_⟩
    exact stackAuthor_bounds (by omega) playerNum roundNum

theorem Computes.call (h : c.Computes) (a : Input) : ∃ c', c.call a = some c' ∧ c'.Computes := by
  cases a with
  | tick =>
    refine ⟨_, rfl, ?_⟩
    unfold checkTimer
    split <;> exact .of_le h.rounds h.players
  | sheet sheet =>
    unfold StateControllerSummary.call handleDBDataSheets
    dsimp only
    rw [buildSheetStacks_eq (c := { c with sheets := c.sheets ++ [sheet] }) h.rounds h.players]
    exact ⟨_, rfl, .of_le h.rounds h.players⟩

end StateControllerSummary

/-! # What is stored -/

/-- Every game has rounds, and a player without a number counts as number 0. -/
structure Proper (db : Database) : Prop where
  rounds : ∀ code, GameExists db code →
    1 ≤ toInt (db.get [toString code, GameKeys.maxNumOfRounds.rawValue])
  numbers : ∀ code key, 0 ≤ toInt ((entry db code key).get [PlayerKeys.number.rawValue])

def Write.Allowed (db : Database) : Write → Prop
  | .game code _ maxNumOfRounds .. => 100000 ≤ code ∧ 1 ≤ maxNumOfRounds
  | .player code .. => Hosted db code
  | .removePlayer .. => True
  | .number code key n => Hosted db code ∧ (∃ id : UUID, key = id.uuidString) ∧ 0 ≤ n
  | .roundNum code _ => Hosted db code
  | .sheet code _ => Hosted db code

variable {db snapshot : Database} {code : Int} {w w' : Write}

theorem Write.Allowed.apply (h : w.Allowed db) : w.Allowed (w'.apply db) := by
  cases w with
  | game | removePlayer => exact h
  | player | roundNum | sheet => exact Hosted.apply h
  | number => exact ⟨h.1.apply, h.2⟩

theorem Write.Allowed.range (h : w.Allowed db) (hgame : w.isGame code = true) : 100000 ≤ code := by
  cases w with
  | game =>
    simp only [Write.isGame, decide_eq_true_eq] at hgame
    subst hgame
    exact h.1
  | _ => simp [Write.isGame] at hgame

theorem Write.Allowed.of_gameExists (h : w.Allowed db) (hgame : w.isGame code = false)
    (hexists : GameExists (w.apply db) code)
    : GameExists db code := by
  apply hexists.of_apply hgame
  rintro rfl hremove
  cases w with
  | game => simp [Write.isGame, Write.code] at hgame
  | player | roundNum | sheet => exact Hosted.gameExists h
  | number => exact h.1.gameExists
  | removePlayer code id => exact absurd rfl (hremove id)

theorem Proper.empty : Proper .empty where
  rounds := by
    intro code hexists
    simp [GameExists, dataExists] at hexists
  numbers := fun _ _ => Int.le_refl 0

theorem Proper.apply (h : Proper db) (hw : w.Allowed db) : Proper (w.apply db) where
  rounds := by
    intro code hexists
    cases hgame : w.isGame code with
    | true =>
      cases w with
      | game =>
        simp only [Write.isGame, decide_eq_true_eq] at hgame
        subst hgame
        rw [get_game]
        exact hw.2
      | _ => simp [Write.isGame] at hgame
    | false =>
      rw [get_field_apply .maxNumOfRounds hgame (by simp) (by simp) (by simp)]
      exact h.rounds code (hw.of_gameExists hgame hexists)
  numbers := by
    intro code key
    have hnext := entryNext w db code key
    generalize entry (w.apply db) code key = t at *
    cases hnext with
    | same => exact h.numbers code key
    | host | player | clear | remove => exact Int.le_refl 0
    | number n hw =>
      subst hw
      rw [PathTree.get_set_self]
      exact hw.2.2

theorem Proper.getGameSettings (h : Proper db) {gameSettings : GameSettings}
    (hsettings : StorageControllerWaitingRoom.getGameSettings db code = some gameSettings)
    : 1 ≤ gameSettings.maxNumOfRounds := by
  have hrounds := h.rounds code (getGameSettings_code hsettings).2
  unfold StorageControllerWaitingRoom.getGameSettings at hsettings
  dsimp only at hsettings
  split at hsettings
  . rw [Option.some.injEq] at hsettings
    subst hsettings
    dsimp only
    rw [PathTree.get_get]
    exact hrounds
  . contradiction

theorem Proper.getPlayers (h : Proper db) {o : IterationOrder} {players : List Player}
    (hplayers : StorageControllerWaitingRoom.getPlayers o db code = some (some players))
    : GameExists db code ∧ ∀ player ∈ players, 0 ≤ player.number := by
  unfold StorageControllerWaitingRoom.getPlayers at hplayers
  dsimp only at hplayers
  split at hplayers
  . next keys hkeys =>
    refine ⟨gameExists_of_asDictionary hkeys, ?_⟩
    intro player hplayer
    simp only [Option.bind_eq_bind, Option.bind_eq_some_iff, Option.pure_def, Option.some.injEq]
      at hplayers
    obtain ⟨l, hl, rfl⟩ := hplayers
    obtain ⟨key, -, -, hbuild⟩ := (mem_buildPlayersArray hl).1 hplayer
    simp only [StorageController.buildPlayer, Option.bind_eq_bind, Option.bind_eq_some_iff,
      Option.pure_def, Option.some.injEq] at hbuild
    obtain ⟨id, -, rfl⟩ := hbuild
    rw [get_players]
    exact h.numbers code key
  . simp at hplayers

/-! # Sessions -/

def Tap.HasRounds : Tap → Prop
  | .host _ _ maxNumOfRounds .. => 1 ≤ maxNumOfRounds
  | .join .. => True

namespace Session

def Input.InStepper : Input → Prop
  | .hostGame _ maxNumOfRounds .. =>
    minimumNumOfRounds ≤ maxNumOfRounds ∧ maxNumOfRounds ≤ maximumNumOfRounds
  | _ => True

instance (a : Input) : Decidable a.InStepper := by
  unfold Input.InStepper
  induction a using Input.casesOn <;> infer_instance

structure HasRounds (c : Session) : Prop where
  tap : ∀ tap, c.tap = some tap → tap.HasRounds
  settings : ∀ room, c.room = some room → ∀ gameSettings, room.gameSettings = some gameSettings →
    1 ≤ gameSettings.maxNumOfRounds
  replies : ∀ reply ∈ c.replies, Proper reply.snapshot

variable {zone : TimeZone} {view : Database} {after : Nat} {c c' : Session} {a : Input}
  {ws : List Write}

theorem hasRounds_of_step (h : c.step zone db view after a = some (c', ws)) (ha : a.InStepper)
    (htap : ∀ tap, c.tap = some tap → tap.HasRounds)
    : ∀ tap, c'.tap = some tap → tap.HasRounds := by
  cases a with
  | hostGame topic maxNumOfRounds roundTime nickname code newId date =>
    simp only [step, Option.ite_none_right_eq_some, Option.some.injEq, Prod.mk.injEq] at h
    obtain ⟨-, rfl, -⟩ := h
    unfold StateControllerHome.hostGame
    split
    . rintro tap ⟨⟩
      have hmin := ha.1
      unfold minimumNumOfRounds at hmin
      exact Int.le_trans (by decide) hmin
    . exact htap
  | joinGame nickname code newId date =>
    simp only [step, Option.ite_none_right_eq_some, Option.some.injEq, Prod.mk.injEq] at h
    obtain ⟨-, rfl, -⟩ := h
    unfold StateControllerHome.joinGame
    split
    . rintro tap ⟨⟩
      trivial
    . exact htap
  | _ =>
    intro tap htap'
    rcases (next_of_step h).of_tap htap' with htap' | ⟨-, hid, -⟩
    . exact htap tap htap'
    . simp [Input.newId] at hid

theorem HasRounds.next (h : c.HasRounds) (hdb : Proper db)
    (hnext : Next zone db view after c a c' ws)
    (htap : ∀ tap, c'.tap = some tap → tap.HasRounds)
    : c'.HasRounds where
  tap := htap
  settings := by
    intro room' hroom' gameSettings hsettings
    rcases hnext.of_room hroom' with ⟨room, hroom, -, -, heq | ⟨reply, hreply, -, gs, hgs, heq⟩⟩
      | ⟨_, _, _, _, _, _, _, _, rfl⟩
    . exact h.settings room hroom gameSettings (heq.symm.trans hsettings)
    . rw [heq, Option.some.injEq] at hsettings
      subst hsettings
      exact (h.replies reply hreply).getGameSettings hgs
    . simp at hsettings
  replies := by
    intro reply hreply
    rcases hnext.of_mem_replies hreply with hreply | ⟨_, _, _, -, -, rfl⟩
    . exact h.replies reply hreply
    . exact hdb

theorem Sound.gameSettings_ne_none (h : c.Sound db) (hrounds : c.HasRounds) (hzero : ¬Hosted db 0)
    {room : StateControllerWaitingRoom} (hroom : c.room = some room) {reply : Reply}
    (hreply : reply ∈ c.replies) (hread : reply.request.read = .players) {players : List Player}
    (hplayers : StorageControllerWaitingRoom.getPlayers reply.order reply.snapshot reply.request.code
      = some (some players))
    : room.gameSettings ≠ none := by
  obtain ⟨hasks, hcredible⟩ := h.replies reply hreply
  simp only [Asks, hread] at hasks
  rcases hasks with hcode | ⟨-, room', hroom', hsome⟩
  . have hexists := ((hrounds.replies reply hreply).getPlayers hplayers).1
    rw [hcode] at hexists
    exact absurd (hcredible.hosted 0 hexists) hzero
  . rw [hroom, Option.some.injEq] at hroom'
    subst hroom'
    exact Option.isSome_iff_ne_none.1 hsome

theorem of_constructs {controller : StateControllerSheet} (h : c.constructs a = some controller)
    : ∃ room reply players gameSettings player,
        c.room = some room
          ∧ reply ∈ c.replies
          ∧ reply.request.read = .players
          ∧ StorageControllerWaitingRoom.getPlayers reply.order reply.snapshot reply.request.code
              = some (some players)
          ∧ room.gameSettings = some gameSettings
          ∧ player ∈ players
          ∧ controller
              = (StateControllerSheet.init gameSettings player players.length room.isHost).1 := by
  unfold constructs at h
  split at h
  . next k =>
    split at h
    . next room reply hroom hreply =>
      split at h
      . next players hread hplayers =>
        simp only [StateControllerWaitingRoom.handlePlayers, Option.bind_eq_bind,
          Option.bind_eq_some_iff, Option.pure_def, Option.some.injEq] at h
        obtain ⟨_, ⟨gameSettings, hsettings, player, hplayer, rfl⟩, ⟨⟩⟩ := h
        have hmem := (List.mem_filter.1 (List.mem_of_head? hplayer)).1
        exact ⟨room, reply, players, gameSettings, player, hroom, List.mem_of_getElem? hreply, hread,
          hplayers, hsettings, hmem, rfl⟩
      . contradiction
    . contradiction
  . contradiction

theorem HasRounds.constructs (h : c.HasRounds) (hsound : c.Sound db)
    {controller : StateControllerSheet} (hconstructs : c.constructs a = some controller)
    : controller.Computes ∧ Hosted db controller.gameSettings.code := by
  obtain ⟨room, reply, players, gameSettings, player, hroom, hreply, -, hplayers, hsettings, hplayer,
    rfl⟩ := of_constructs hconstructs
  have hmax := h.settings room hroom gameSettings hsettings
  have hlength : 1 ≤ players.length := List.length_pos_of_mem hplayer
  obtain ⟨hcode, hhosted⟩ := hsound.code room hroom gameSettings hsettings
  refine ⟨.of_le ?_ ?_ (((h.replies reply hreply).getPlayers hplayers).2 player hplayer), ?_⟩
  . dsimp only [StateControllerSheet.init]
    omega
  . dsimp only [StateControllerSheet.init]
    omega
  . dsimp only [StateControllerSheet.init]
    rw [hcode]
    exact hhosted

end Session

theorem Write.Allowed.of_mem_startGame {o : IterationOrder} (hcredible : Credible db snapshot)
    (h : w ∈ StorageControllerWaitingRoom.startGame o snapshot code)
    : w.Allowed db := by
  obtain ⟨hexists, hkind⟩ := mem_startGame h
  have hhosted := hcredible.hosted _ hexists
  rcases hkind with ⟨key, n, rfl, hentry⟩ | rfl
  . refine ⟨hhosted, hcredible.keys _ _ hentry, ?_⟩
    unfold StorageControllerWaitingRoom.startGame at h
    split at h
    . simp only [List.mem_append, List.mem_mapIdx, Write.number.injEq, List.mem_singleton,
        reduceCtorEq, or_false] at h
      obtain ⟨k, -, -, -, rfl⟩ := h
      omega
    . simp at h
  . exact hhosted

theorem Session.Next.allowed {zone : TimeZone} {view : Database} {after : Nat} {c c' : Session}
    {a : Session.Input} {ws : List Write} (hnext : Session.Next zone db view after c a c' ws)
    (hsound : c.Sound db) (hrounds : c.HasRounds)
    : ∀ w ∈ ws, w.Allowed db := by
  intro w hw
  rcases hnext.of_mem_writes hw with ⟨tap, snapshot, htap, hphase, hwrite, -⟩
    | ⟨k, -, reply, hreply, -, rfl⟩ | ⟨room, hroom, rfl, -, hleft⟩
  . have hrange := hsound.range tap htap
    have hpos := hrounds.tap tap htap
    have hcredible := hsound.answered snapshot hphase
    cases tap with
    | host code topic maxNumOfRounds roundTime player =>
      simp only [Tap.write, StorageControllerHome.hostGame, Option.ite_none_left_eq_some,
        Option.some.injEq] at hwrite
      obtain ⟨-, rfl⟩ := hwrite
      exact ⟨hrange rfl, hpos⟩
    | join player code =>
      simp only [Tap.write, StorageControllerHome.joinGame, Option.ite_none_right_eq_some,
        Option.some.injEq] at hwrite
      obtain ⟨hexists, rfl⟩ := hwrite
      exact hcredible.hosted _ hexists
  . obtain ⟨-, hcredible⟩ := hsound.replies reply (List.mem_of_getElem? hreply)
    exact .of_mem_startGame hcredible hw
  . trivial

theorem StateControllerSheet.Effect.Of.allowed {c : StateControllerSheet}
    {e : StateControllerSheet.Effect} (he : e.Of c) (hhosted : Hosted db c.gameSettings.code)
    : ∀ w ∈ e.writes, w.Allowed db := by
  intro w hw
  cases e with
  | saveSheet code sheet =>
    rw [Effect.writes, List.mem_singleton, StorageControllerSheet.saveSheet_fst] at hw
    cases he
    subst hw
    exact hhosted
  | updateRoundNum code roundNum =>
    rw [Effect.writes, List.mem_singleton] at hw
    cases he
    subst hw
    exact hhosted
  | _ => simp [Effect.writes] at hw

theorem StateControllerSheet.Effect.Of.computes {c : StateControllerSheet}
    {e : StateControllerSheet.Effect} (he : e.Of c) (h : c.Computes)
    : ∀ summary ∈ e.summaries, summary.Computes := by
  intro summary hsummary
  cases e with
  | moveToStateSummary gameSettings numOfRounds numOfPlayers =>
    rw [Effect.summaries, List.mem_singleton] at hsummary
    subst hsummary
    obtain ⟨-, rfl, rfl⟩ := he
    exact .of_le h.rounds h.players
  | _ => simp [Effect.summaries] at hsummary

/-! # Runs -/

namespace Game

variable {ι δ : Type} {device : ι → δ} {zone : TimeZone} {s t : Game ι δ} {i : ι} {d : δ}

/-- Hosts choose the number of rounds with the stepper. -/
def InStepper (_ : Game ι δ) : Action ι δ → Prop
  | .lobby (.session _ a) => a.InStepper
  | _ => True

instance (s : Game ι δ) (a : Action ι δ) : Decidable (InStepper s a) :=
  match a with
  | .lobby (.session _ a) => inferInstanceAs (Decidable a.InStepper)
  | .lobby (.process _) | .sheet .. | .summary .. => inferInstanceAs (Decidable True)

structure Inv (s : Game ι δ) : Prop where
  sound : ∀ i, (s.lobby.sessions i).Sound s.lobby.db
  hasRounds : ∀ i, (s.lobby.sessions i).HasRounds
  credible : Credible s.lobby.db s.lobby.db
  proper : Proper s.lobby.db
  range : ∀ code, Hosted s.lobby.db code → 100000 ≤ code
  outbox : ∀ d, ∀ w ∈ s.lobby.outbox d, w.Allowed s.lobby.db
  sheets : ∀ i, ∀ c ∈ s.sheets i, c.Computes ∧ Hosted s.lobby.db c.gameSettings.code
  summaries : ∀ i, ∀ c ∈ s.summaries i, c.Computes
  trapped : ∀ i, s.trapped i = false

theorem Inv.empty : Inv ({} : Game ι δ) where
  sound := fun _ => .init {}
  hasRounds := fun _ => ⟨by simp, by simp, by simp⟩
  credible := ⟨fun code hexists => by simp [GameExists, dataExists] at hexists,
    fun code key hentry => by simp [entry] at hentry⟩
  proper := .empty
  range := fun code hhosted => absurd hhosted not_hosted_empty
  outbox := by simp
  sheets := by simp
  summaries := by simp
  trapped := fun _ => rfl

variable [Fintype ι] [DecidableEq ι] [DecidableEq δ]

theorem Inv.step_session {a : Session.Input} (h : s.Inv) (hok : a.InStepper)
    (hstep : s.step device zone (.lobby (.session i a)) = some t)
    : t.Inv := by
  simp only [step, Option.ite_none_right_eq_some, Option.bind_eq_bind, Option.bind_eq_some_iff,
    Option.pure_def, Option.some.injEq] at hstep
  obtain ⟨-, lobby, hlobby, rfl⟩ := hstep
  simp only [Lobby.step, Option.ite_none_right_eq_some] at hlobby
  obtain ⟨-, hlobby⟩ := hlobby
  split at hlobby
  . next c ws hc =>
    rw [Option.some.injEq] at hlobby
    subst hlobby
    have hnext := Session.next_of_step hc
    have htap := Session.hasRounds_of_step hc hok (h.hasRounds i).tap
    refine ⟨?_, ?_, h.credible, h.proper, h.range, ?_, ?_, h.summaries, h.trapped⟩
    . apply (Function.forall_update_iff s.lobby.sessions fun _ c => c.Sound s.lobby.db).2
      exact ⟨(h.sound i).next h.credible hnext, fun j _ => h.sound j⟩
    . apply (Function.forall_update_iff s.lobby.sessions fun _ c => c.HasRounds).2
      exact ⟨(h.hasRounds i).next h.proper hnext htap, fun j _ => h.hasRounds j⟩
    . intro d w hw
      rw [Lobby.mem_outbox_append] at hw
      rcases hw with hw | ⟨rfl, hw⟩
      . exact h.outbox d w hw
      . exact hnext.allowed (h.sound i) (h.hasRounds i) w hw
    . apply (Function.forall_update_iff s.sheets fun _ l =>
        ∀ c ∈ l, c.Computes ∧ Hosted s.lobby.db c.gameSettings.code).2
      refine ⟨?_, fun j _ => h.sheets j⟩
      intro c hc
      rw [List.mem_append, Option.mem_toList] at hc
      rcases hc with hc | hc
      . exact h.sheets i c hc
      . exact (h.hasRounds i).constructs (h.sound i) hc
  . contradiction

theorem Inv.step_process (h : s.Inv) (hstep : s.step device zone (.lobby (.process d)) = some t)
    : t.Inv := by
  simp only [step, Option.bind_eq_bind, Option.bind_eq_some_iff, Option.pure_def, Option.some.injEq]
    at hstep
  obtain ⟨lobby, hlobby, rfl⟩ := hstep
  obtain ⟨write, writes, hout, rfl⟩ := Lobby.step_process hlobby
  have hwrite := h.outbox d write (by simp [hout])
  refine ⟨fun i => (h.sound i).mono fun code hcode => hcode.apply, h.hasRounds, ⟨?_, ?_⟩,
    h.proper.apply hwrite, ?_, ?_, ?_, h.summaries, h.trapped⟩
  . intro code hexists
    cases hcode : write.isGame code with
    | true => exact hosted_of_isGame hcode
    | false => exact (h.credible.hosted code (hwrite.of_gameExists hcode hexists)).apply
  . intro code key hentry
    apply keys_apply h.credible.keys _ hentry
    rintro code key n rfl
    exact hwrite.2.1
  . intro code hhosted
    cases hcode : write.isGame code with
    | true => exact hwrite.range hcode
    | false =>
      exact h.range code (h.credible.hosted code (hwrite.of_gameExists hcode hhosted.gameExists))
  . intro d' w hw
    exact (h.outbox d' w (Lobby.mem_outbox_tail hout hw)).apply
  . intro i c hc
    exact ⟨(h.sheets i c hc).1, (h.sheets i c hc).2.apply⟩

theorem Inv.step_sheet {k : Nat} {a : SheetMachine.Input} (h : s.Inv)
    (hstep : s.step device zone (.sheet i k a) = some t)
    : t.Inv := by
  simp only [step, Option.ite_none_right_eq_some, Option.bind_eq_bind, Option.bind_eq_some_iff]
    at hstep
  obtain ⟨-, c, hc, hstep⟩ := hstep
  obtain ⟨hcomputes, hhosted⟩ := h.sheets i c (List.mem_of_getElem? hc)
  -- The method does not trap, so that its effects are carried out.
  obtain ⟨⟨c', effects⟩, hcall⟩ := Option.isSome_iff_exists.1 (hcomputes.call a)
  rw [hcall] at hstep
  simp only [Option.pure_def, Option.some.injEq] at hstep
  subst hstep
  obtain ⟨hsame, heffects⟩ := StateControllerSheet.call_spec hcall
  refine ⟨h.sound, h.hasRounds, h.credible, h.proper, h.range, ?_, ?_, ?_, h.trapped⟩
  . intro d w hw
    dsimp only [send] at hw
    rw [Lobby.mem_outbox_append] at hw
    rcases hw with hw | ⟨rfl, hw⟩
    . exact h.outbox d w hw
    . obtain ⟨e, he, hw⟩ := List.mem_flatMap.1 hw
      exact (heffects e he).allowed hhosted w hw
  . apply (Function.forall_update_iff s.sheets fun _ l =>
      ∀ c ∈ l, c.Computes ∧ Hosted s.lobby.db c.gameSettings.code).2
    refine ⟨?_, fun j _ => h.sheets j⟩
    intro c₁ hc₁
    rcases List.mem_or_eq_of_mem_set hc₁ with hc₁ | rfl
    . exact h.sheets i c₁ hc₁
    . refine ⟨hcomputes.sameGame hsame, ?_⟩
      rw [hsame.gameSettings]
      exact hhosted
  . apply (Function.forall_update_iff s.summaries fun _ l => ∀ c ∈ l, c.Computes).2
    refine ⟨?_, fun j _ => h.summaries j⟩
    intro c₁ hc₁
    rw [List.mem_append] at hc₁
    rcases hc₁ with hc₁ | hc₁
    . exact h.summaries i c₁ hc₁
    . obtain ⟨e, he, hc₁⟩ := List.mem_flatMap.1 hc₁
      exact (heffects e he).computes hcomputes c₁ hc₁

theorem Inv.step_summary {k : Nat} {a : StateControllerSummary.Input} (h : s.Inv)
    (hstep : s.step device zone (.summary i k a) = some t)
    : t.Inv := by
  simp only [step, Option.ite_none_right_eq_some, Option.bind_eq_bind, Option.bind_eq_some_iff]
    at hstep
  obtain ⟨-, c, hc, hstep⟩ := hstep
  obtain ⟨c', hcall, hcomputes⟩ := (h.summaries i c (List.mem_of_getElem? hc)).call a
  rw [hcall] at hstep
  simp only [Option.pure_def, Option.some.injEq] at hstep
  subst hstep
  refine ⟨h.sound, h.hasRounds, h.credible, h.proper, h.range, h.outbox, h.sheets, ?_, h.trapped⟩
  apply (Function.forall_update_iff s.summaries fun _ l => ∀ c ∈ l, c.Computes).2
  refine ⟨?_, fun j _ => h.summaries j⟩
  intro c₁ hc₁
  rcases List.mem_or_eq_of_mem_set hc₁ with hc₁ | rfl
  . exact h.summaries i c₁ hc₁
  . exact hcomputes

theorem Inv.step {a : Action ι δ} (h : s.Inv) (hok : InStepper s a)
    (hstep : s.step device zone a = some t)
    : t.Inv := by
  cases a with
  | lobby a =>
    cases a with
    | session i a => exact h.step_session hok hstep
    | process d => exact h.step_process hstep
  | sheet i k a => exact h.step_sheet hstep
  | summary i k a => exact h.step_summary hstep

/--
Whoever hosts, joins, leaves, starts and plays, in whatever order: the settings are there when a list
of players comes to the waiting room, and no controller of a sheet or a summary ever traps.
-/
theorem arithmetic_never_traps (device : ι → δ) (zone : TimeZone)
    (hist : List (Game ι δ × Action ι δ)) (s : Game ι δ)
    (hrun : (system device zone).Run InStepper hist s)
    : (∀ i room, (s.lobby.sessions i).room = some room →
        ∀ reply ∈ (s.lobby.sessions i).replies, reply.request.read = .players →
          ∀ players, StorageControllerWaitingRoom.getPlayers reply.order reply.snapshot
              reply.request.code = some (some players) →
            room.gameSettings ≠ none)
        ∧
      (∀ i, ∀ c ∈ s.sheets i, c.Computes)
        ∧
      (∀ i, ∀ c ∈ s.summaries i, c.Computes)
        ∧
      (∀ i, s.trapped i = false) := by
  have hinv : s.Inv := by
    apply hrun.invariant
    . rintro s rfl
      exact .empty
    . intro s a t hinv hok hstep
      exact hinv.step hok hstep
  refine ⟨?_, fun i c hc => (hinv.sheets i c hc).1, hinv.summaries, hinv.trapped⟩
  intro i room hroom reply hreply hread players hplayers
  apply (hinv.sound i).gameSettings_ne_none (hinv.hasRounds i) _ hroom hreply hread hplayers
  intro hhosted
  have := hinv.range 0 hhosted
  omega

def playToSummary : List (Action Bool Bool) :=
  Lobby.playTogether.map .lobby
    ++ [.sheet false 0 (.roundNum 1), .sheet true 0 (.roundNum 2), .sheet true 0 .appear,
      .sheet true 0 (.tick (.ofNat 3)), .sheet false 0 .force, .lobby (.process false),
      .sheet false 0 (.roundNum 3),
      .summary false 0 (.sheet ⟨.ofNat 4, { id := .ofNat 1, number := 1 }, 1, .guess "cat"⟩)]

theorem arithmetic_never_traps_to_summary
    : ∃ s : Game Bool Bool,
        ((∀ i, s.sheets i ≠ []) ∧ s.summaries false ≠ [])
          ∧
        ((∀ i room, (s.lobby.sessions i).room = some room →
          ∀ reply ∈ (s.lobby.sessions i).replies, reply.request.read = .players →
            ∀ players, StorageControllerWaitingRoom.getPlayers reply.order reply.snapshot
                reply.request.code = some (some players) →
              room.gameSettings ≠ none)
          ∧
        (∀ i, ∀ c ∈ s.sheets i, c.Computes)
          ∧
        (∀ i, ∀ c ∈ s.summaries i, c.Computes)
          ∧
        (∀ i, s.trapped i = false)) := by
  obtain ⟨hist, s, hrun, hplayed⟩ := TransitionSystem.exists_run_of_exec InStepper
    (S := system id .gmt)
    (P := fun _ (s : Game Bool Bool) => (∀ i, s.sheets i ≠ []) ∧ s.summaries false ≠ [])
    (s := {}) rfl playToSummary (by decide +kernel)
  exact ⟨s, hplayed, arithmetic_never_traps id .gmt hist s hrun⟩

end Game

end SCatCh
