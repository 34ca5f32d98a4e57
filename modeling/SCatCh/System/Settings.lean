import SCatCh.System.Arithmetic
import SCatCh.View.Home

/-!
This module contains the proof that the settings of a game are what one host has chosen, wherever a
device holds them, and that the code shown with them leads into that game.
-/

namespace SCatCh

def Tap.gameSettings? : Tap → Option GameSettings
  | .host code topic maxNumOfRounds roundTime _ => some ⟨roundTime, topic, code, maxNumOfRounds⟩
  | .join .. => none

/-- What the Home state lets through. -/
structure GameSettings.Playable (gameSettings : GameSettings) : Prop where
  code : 100000 ≤ gameSettings.code ∧ gameSettings.code < 1000000
  topic : gameSettings.topic ≠ ""
  maxNumOfRounds : minimumNumOfRounds ≤ gameSettings.maxNumOfRounds
    ∧ gameSettings.maxNumOfRounds ≤ maximumNumOfRounds
  roundTime : 0 < gameSettings.roundTime

theorem getGameSettings_game {db : Database} {code : Int} (topic : String)
    (maxNumOfRounds roundTime : Int) (id : UUID) (nickname joinDate : String)
    : StorageControllerWaitingRoom.getGameSettings
          ((Write.game code topic maxNumOfRounds roundTime id nickname joinDate).apply db) code
        =
      some ⟨roundTime, topic, code, maxNumOfRounds⟩ := by
  unfold StorageControllerWaitingRoom.getGameSettings
  simp only [get_game]
  rfl

/-- The game that a tap writes has the settings of the tap. -/
theorem Tap.gameSettings_of_write {zone : TimeZone} {snapshot db : Database} {tap : Tap} {w : Write}
    {code : Int} {gameSettings : GameSettings} (hwrite : tap.write zone snapshot = some w)
    (hgame : w.isGame code = true)
    (hsettings : StorageControllerWaitingRoom.getGameSettings (w.apply db) code = some gameSettings)
    : gameSettings ∈ tap.gameSettings? := by
  cases tap with
  | host code' topic maxNumOfRounds roundTime player =>
    simp only [write, StorageControllerHome.hostGame, Option.ite_none_left_eq_some,
      Option.some.injEq] at hwrite
    obtain ⟨-, rfl⟩ := hwrite
    simp only [Write.isGame, decide_eq_true_eq] at hgame
    subst hgame
    rw [getGameSettings_game] at hsettings
    exact hsettings
  | join player code' =>
    simp only [write, StorageControllerHome.joinGame, Option.ite_none_right_eq_some,
      Option.some.injEq] at hwrite
    obtain ⟨-, rfl⟩ := hwrite
    simp [Write.isGame] at hgame

namespace Session

variable {zone : TimeZone} {db view : Database} {after : Nat} {c c' : Session} {a : Input}
  {ws : List Write}

theorem playable_of_step (h : c.step zone db view after a = some (c', ws)) (ha : a.InStepper)
    (htap : ∀ tap ∈ c.tap, ∀ gameSettings ∈ tap.gameSettings?, gameSettings.Playable)
    : ∀ tap ∈ c'.tap, ∀ gameSettings ∈ tap.gameSettings?, gameSettings.Playable := by
  cases a with
  | hostGame topic maxNumOfRounds roundTime nickname code newId date =>
    simp only [step, Option.ite_none_right_eq_some, Option.some.injEq, Prod.mk.injEq] at h
    obtain ⟨⟨-, hcode⟩, rfl, -⟩ := h
    unfold StateControllerHome.hostGame
    split
    . next hcheck =>
      rintro tap ⟨⟩ gameSettings ⟨⟩
      refine ⟨hcode, ?_, ha, hcheck.1⟩
      dsimp only
      split
      . decide
      . next hempty => simpa using hempty
    . exact htap
  | joinGame nickname code newId date =>
    simp only [step, Option.ite_none_right_eq_some, Option.some.injEq, Prod.mk.injEq] at h
    obtain ⟨-, rfl, -⟩ := h
    unfold StateControllerHome.joinGame
    split
    . rintro tap ⟨⟩ gameSettings hsettings
      contradiction
    . exact htap
  | _ =>
    intro tap htap'
    rcases (next_of_step h).of_tap htap' with htap' | ⟨-, hid, -⟩
    . exact htap tap htap'
    . simp [Input.newId] at hid

end Session

namespace Lobby

variable {ι δ : Type} {device : ι → δ} {zone : TimeZone} {s t : Lobby ι δ} {i : ι} {d : δ}

/-- A host has tapped for a game with these settings. -/
def Chosen (s : Lobby ι δ) (gameSettings : GameSettings) : Prop :=
  ∃ j, ∃ tap ∈ (s.sessions j).tap, gameSettings ∈ tap.gameSettings?

def Offers (s : Lobby ι δ) (db : Database) : Prop :=
  ∀ code gameSettings, StorageControllerWaitingRoom.getGameSettings db code = some gameSettings →
    s.Chosen gameSettings

variable (device) in
structure SettingsInv (s : Lobby ι δ) : Prop where
  sound : s.Sound device
  playable : ∀ i, ∀ tap ∈ (s.sessions i).tap, ∀ gameSettings ∈ tap.gameSettings?, gameSettings.Playable
  stored : s.Offers s.db
  writes : ∀ d, ∀ w ∈ s.outbox d, ∀ db code gameSettings, w.isGame code = true →
    StorageControllerWaitingRoom.getGameSettings (w.apply db) code = some gameSettings →
      s.Chosen gameSettings
  replies : ∀ i, ∀ reply ∈ (s.sessions i).replies, s.Offers reply.snapshot
  room : ∀ i, ∀ room ∈ (s.sessions i).room, ∀ gameSettings ∈ room.gameSettings, s.Chosen gameSettings
  sheet : ∀ i, ∀ controller ∈ (s.sessions i).sheet,
    controller.gameSettings.code = (s.sessions i).code ∧ s.Chosen controller.gameSettings

theorem Chosen.mono {gameSettings : GameSettings} (h : s.Chosen gameSettings)
    (hsessions : ∀ j, ∀ tap ∈ (s.sessions j).tap, tap ∈ (t.sessions j).tap)
    : t.Chosen gameSettings := by
  obtain ⟨j, tap, htap, hsettings⟩ := h
  exact ⟨j, tap, hsessions j tap htap, hsettings⟩

theorem SettingsInv.empty : SettingsInv device ({} : Lobby ι δ) where
  sound := .empty
  playable := by simp
  stored := by
    intro code gameSettings h
    exact absurd (getGameSettings_code h).2 (by simp [GameExists, dataExists])
  writes := by simp
  replies := by simp
  room := by simp
  sheet := by simp

variable [DecidableEq ι]

theorem tap_update {db view : Database} {after : Nat} {a : Session.Input} {c : Session}
    {ws : List Write} (hnext : Session.Next zone db view after (s.sessions i) a c ws) (j : ι)
    : ∀ tap ∈ (s.sessions j).tap, tap ∈ (Function.update s.sessions i c j).tap := by
  intro tap htap
  by_cases hj : j = i
  . subst hj
    rw [Function.update_self]
    exact hnext.tap_eq htap
  . rwa [Function.update_of_ne hj]

variable [Fintype ι] [DecidableEq δ]

theorem SettingsInv.step_process (h : s.SettingsInv device)
    (hstep : s.step device zone (.process d) = some t)
    : t.SettingsInv device := by
  have hsound := h.sound.step_process hstep
  obtain ⟨write, writes, hout, rfl⟩ := Lobby.step_process hstep
  have hwrite := h.sound.outbox d write (by simp [hout])
  refine ⟨hsound, h.playable, ?_, ?_, h.replies, h.room, h.sheet⟩
  . intro code gameSettings hsettings
    cases hgame : write.isGame code with
    | true => exact h.writes d write (by simp [hout]) _ code gameSettings hgame hsettings
    | false =>
      rcases h.sound.of_gameExists hwrite (getGameSettings_code hsettings).2 with hisGame | hhosted
      . rw [hgame] at hisGame
        contradiction
      . rw [getGameSettings_apply hhosted hgame] at hsettings
        exact h.stored code gameSettings hsettings
  . intro d' w hw
    exact h.writes d' w (mem_outbox_tail hout hw)

theorem SettingsInv.step_session {a : Session.Input} (h : s.SettingsInv device) (ha : a.InStepper)
    (hstep : s.step device zone (.session i a) = some t)
    : t.SettingsInv device := by
  have hsound := h.sound.step_session hstep
  simp only [Lobby.step, Option.ite_none_right_eq_some] at hstep
  obtain ⟨-, hstep⟩ := hstep
  split at hstep
  . next c ws hc =>
    rw [Option.some.injEq] at hstep
    subst hstep
    have hnext := Session.next_of_step hc
    have hchosen : ∀ gameSettings, s.Chosen gameSettings → Chosen { s with
        sessions := Function.update s.sessions i c
        outbox := Function.update s.outbox (device i) (s.outbox (device i) ++ ws)
        numbering := s.note (s.numbers i a) } gameSettings :=
      fun gameSettings hsettings => hsettings.mono (tap_update hnext)
    refine ⟨hsound, ?_, ?_, ?_, ?_, ?_, ?_⟩
    . apply (Function.forall_update_iff s.sessions fun _ c => ∀ tap ∈ c.tap,
        ∀ gameSettings ∈ tap.gameSettings?, gameSettings.Playable).2
      exact ⟨Session.playable_of_step hc ha (h.playable i), fun j _ => h.playable j⟩
    . intro code gameSettings hsettings
      exact hchosen _ (h.stored code gameSettings hsettings)
    . intro d w hw db code gameSettings hgame hsettings
      rw [mem_outbox_append] at hw
      rcases hw with hw | ⟨rfl, hw⟩
      . exact hchosen _ (h.writes d w hw db code gameSettings hgame hsettings)
      . rcases hnext.of_mem_writes hw with ⟨tap, snapshot, htap, -, hwrite, -⟩ | ⟨k, -, reply, -, -, rfl⟩
          | ⟨room, -, rfl, -⟩
        . exact hchosen _ ⟨i, tap, htap, Tap.gameSettings_of_write hwrite hgame hsettings⟩
        . rcases mem_startGame hw with ⟨-, ⟨key, n, rfl, -⟩ | rfl⟩ <;> simp [Write.isGame] at hgame
        . simp [Write.isGame] at hgame
    . intro j reply hreply code gameSettings hsettings
      apply hchosen
      apply forall_mem_replies hnext (P := fun reply => s.Offers reply.snapshot) h.replies _ j reply
        hreply code gameSettings hsettings
      intro _ _
      exact h.stored
    . apply (Function.forall_update_iff s.sessions fun _ c => ∀ room ∈ c.room,
        ∀ gameSettings ∈ room.gameSettings, Chosen _ gameSettings).2
      refine ⟨?_, fun j _ room hroom gameSettings hsettings =>
        hchosen _ (h.room j room hroom gameSettings hsettings)⟩
      intro room' hroom' gameSettings hsettings
      apply hchosen
      rcases hnext.of_room hroom' with ⟨room, hroom, -, -, heq | ⟨reply, hreply, -, gs, hgs, heq⟩⟩
        | ⟨_, _, _, _, _, _, _, _, rfl⟩
      . exact h.room i room hroom gameSettings (heq.symm.trans hsettings)
      . obtain rfl : gs = gameSettings := Option.some.inj (heq.symm.trans hsettings)
        exact h.replies i reply hreply _ gs hgs
      . simp at hsettings
    . apply (Function.forall_update_iff s.sessions fun _ c => ∀ controller ∈ c.sheet,
        controller.gameSettings.code = c.code ∧ Chosen _ controller.gameSettings).2
      refine ⟨?_, fun j _ controller hcontroller =>
        ⟨(h.sheet j controller hcontroller).1, hchosen _ (h.sheet j controller hcontroller).2⟩⟩
      intro controller hcontroller
      have htap : ∃ tap, (s.sessions i).tap = some tap := by
        rw [← Option.ne_none_iff_exists']
        intro hnone
        obtain ⟨home, hfresh⟩ := (h.sound.sessions i).fresh hnone
        rw [hfresh] at hnext
        obtain ⟨_, _, _, rfl⟩ := hnext.unstarted
        simp at hcontroller
      obtain ⟨tap, htap⟩ := htap
      rw [hnext.code_eq htap]
      rcases hnext.of_sheet hcontroller with hcontroller | ⟨room, hroom, -, -, -, -, gameSettings, -, -,
        hsettings, -, -, rfl⟩
      . exact ⟨(h.sheet i controller hcontroller).1, hchosen _ (h.sheet i controller hcontroller).2⟩
      . exact ⟨((h.sound.sessions i).code room hroom gameSettings hsettings).1,
          hchosen _ (h.room i room hroom gameSettings hsettings)⟩
  . contradiction

/-- The number of rounds is chosen with the stepper of the host screen. -/
def InStepper (_ : Lobby ι δ) : Action ι δ → Prop
  | .session _ a => a.InStepper
  | .process _ => True

instance (s : Lobby ι δ) (a : Action ι δ) : Decidable (InStepper s a) :=
  match a with
  | .session _ a => inferInstanceAs (Decidable a.InStepper)
  | .process _ => inferInstanceAs (Decidable True)

theorem SettingsInv.step {a : Action ι δ} (h : s.SettingsInv device) (hok : InStepper s a)
    (hstep : s.step device zone a = some t)
    : t.SettingsInv device := by
  cases a with
  | session i a => exact h.step_session hok hstep
  | process d => exact h.step_process hstep

theorem SettingsInv.run {hist : List (Lobby ι δ × Action ι δ)}
    (hrun : (system device zone).Run InStepper hist s)
    : s.SettingsInv device := by
  apply hrun.invariant
  . rintro s rfl
    exact .empty
  . intro s a t h hok hstep
    exact h.step hok hstep

def Holds (c : Session) (gameSettings : GameSettings) : Prop :=
  (∃ room ∈ c.room, gameSettings ∈ room.gameSettings)
    ∨
  ∃ controller ∈ c.sheet, controller.gameSettings = gameSettings

/--
The settings that a device holds in the waiting room or in the Sheet state are those of one tap on
Host for its game, whatever else is hosted, joined, started and left at the same time. They are never
mixed up, incomplete or out of range.
-/
theorem settings_of_one_host (device : ι → δ) (zone : TimeZone)
    (hist : List (Lobby ι δ × Action ι δ)) (s : Lobby ι δ)
    (hrun : (system device zone).Run InStepper hist s)
    (i : ι) (gameSettings : GameSettings)
    (hholds : Holds (s.sessions i) gameSettings)
    : gameSettings.code = (s.sessions i).code
        ∧ gameSettings.Playable
        ∧ ∃ j player, (s.sessions j).tap = some (.host (s.sessions i).code gameSettings.topic
            gameSettings.maxNumOfRounds gameSettings.roundTime player) := by
  have h := SettingsInv.run hrun
  have hboth : gameSettings.code = (s.sessions i).code ∧ s.Chosen gameSettings := by
    rcases hholds with ⟨room, hroom, hsettings⟩ | ⟨controller, hcontroller, rfl⟩
    . exact ⟨((h.sound.sessions i).code room hroom gameSettings hsettings).1,
        h.room i room hroom gameSettings hsettings⟩
    . exact h.sheet i controller hcontroller
  obtain ⟨hcode, j, tap, htap, hsettings⟩ := hboth
  refine ⟨hcode, h.playable j tap htap gameSettings hsettings, j, ?_⟩
  rw [← hcode]
  cases tap with
  | host code topic maxNumOfRounds roundTime player =>
    cases hsettings
    exact ⟨player, htap⟩
  | join => contradiction

theorem settings_of_one_host_joined
    : ∃ (s : Duo) (gameSettings : GameSettings),
        (s.sessions true).tap.map Tap.isHost = some false
          ∧ gameSettings.Playable
          ∧ ∃ j player, (s.sessions j).tap = some (.host (s.sessions true).code gameSettings.topic
              gameSettings.maxNumOfRounds gameSettings.roundTime player) := by
  obtain ⟨hist, s, hrun, hjoined, hsheet⟩ := TransitionSystem.exists_run_of_exec InStepper
    (S := system id .gmt)
    (P := fun _ (s : Duo) => (s.sessions true).tap.map Tap.isHost = some false
      ∧ (s.sessions true).sheet.map (·.gameSettings) = some ⟨1, "None", 123456, 3⟩)
    (s := {}) rfl playTogether (by decide +kernel)
  rw [Option.map_eq_some_iff] at hsheet
  obtain ⟨controller, hcontroller, hsettings⟩ := hsheet
  exact ⟨s, _, hjoined, (settings_of_one_host id .gmt hist s hrun true ⟨1, "None", 123456, 3⟩
    (.inr ⟨controller, hcontroller, hsettings⟩)).2⟩

/--
Tapping Join asks for the game of a waiting room exactly if a nickname has been typed and the text in
the field is a numeral of the code that this waiting room shows, such as the shown text itself.
-/
theorem joins_game_iff (device : ι → δ) (zone : TimeZone)
    (hist : List (Lobby ι δ × Action ι δ)) (s : Lobby ι δ)
    (hrun : (system device zone).Run InStepper hist s)
    (i : ι) (room : StateControllerWaitingRoom) (hroom : (s.sessions i).room = some room)
    (hsettings : room.gameSettings.isSome = true)
    (home : StateControllerHome) (view : JoinView) (newId : UUID) (date : Date)
    : ((∃ player, .joinGame player (s.sessions i).code
            ∈ (home.joinGame view.nickname (textToInt view.code) newId date).2)
          ↔
        view.nickname ≠ "" ∧ IsNumeral view.code room.getGameCode)
        ∧
      textToInt (toString room.getGameCode) = (s.sessions i).code := by
  have h := SettingsInv.run hrun
  obtain ⟨gameSettings, hsome⟩ := Option.isSome_iff_exists.1 hsettings
  obtain ⟨hcode, -⟩ := (h.sound.sessions i).code room hroom gameSettings hsome
  obtain ⟨j, tap, htap, hchosen⟩ := h.room i room hroom gameSettings hsome
  have hrange := (h.playable j tap htap gameSettings hchosen).code
  have hgame : room.getGameCode = (s.sessions i).code := by
    simp only [StateControllerWaitingRoom.getGameCode, hsome, hcode]
  rw [hcode] at hrange
  have hin : InInt (s.sessions i).code := ⟨by omega, by omega⟩
  have htext : textToInt view.code = (s.sessions i).code ↔ _ := textToInt_eq_iff (by omega)
  rw [and_iff_left hin] at htext
  refine ⟨?_, by rw [hgame, textToInt_toString hin]⟩
  rw [hgame, ← htext]
  unfold StateControllerHome.joinGame
  split
  . next hnickname =>
    simp [show view.nickname ≠ "" by simpa using hnickname, eq_comm]
  . next hnickname =>
    simp [show view.nickname = "" by simpa using hnickname]

theorem joins_game_iff_typed
    : ∃ (s : Duo) (player : WaitingPlayer), (s.sessions false).code = 123456
        ∧
      .joinGame player 123456 ∈ (StateControllerHome.joinGame {} "Ann" (textToInt "+0123456") (.ofNat 9)
        ⟨0⟩).2 := by
  obtain ⟨hist, s, hrun, hcode, hroom⟩ := TransitionSystem.exists_run_of_exec InStepper
    (S := system id .gmt)
    (P := fun _ (s : Duo) => (s.sessions false).code = 123456
      ∧ (s.sessions false).room.any (fun room => room.gameSettings.isSome
        ∧ room.getGameCode = 123456) = true)
    (s := {}) rfl gather (by decide +kernel)
  rw [Option.any_eq_true] at hroom
  obtain ⟨room, hroom, hsettings⟩ := hroom
  obtain ⟨hsome, hgame⟩ := of_decide_eq_true hsettings
  have hnumeral : IsNumeral "+0123456" room.getGameCode := by
    rw [hgame]
    exact (parseInt_eq_some_iff.1 (by decide +kernel : parseInt "+0123456" = some 123456)).1
  obtain ⟨player, hplayer⟩ := (joins_game_iff id .gmt hist s hrun false room hroom hsome {}
    ⟨"Ann", "+0123456"⟩ (.ofNat 9) ⟨0⟩).1.2 ⟨by decide, hnumeral⟩
  rw [hcode] at hplayer
  exact ⟨s, player, hcode, hplayer⟩

end Lobby

end SCatCh
