import Mathlib.Data.List.Sort
import SCatCh.Model

/-!
This module contains `StateController_WaitingRoom`. The game's code is known to the controller only
through the game settings, which arrive later than the controller is created.
-/

namespace SCatCh

structure StateControllerWaitingRoom where
  gameSettings : Option GameSettings := none
  players : List WaitingPlayer := []
  player : WaitingPlayer
  isHost : Bool := false
  deriving DecidableEq

namespace StateControllerWaitingRoom

inductive Effect where
  | getGameSettings (code : Int)
  | getPlayers (code : Int)
  | observePlayers (code : Int)
  | stopObservingPlayers (code : Int)
  | observeRoundNum (code : Int)
  | stopObservingRoundNum (code : Int)
  | removePlayer (code : Int) (playerId : UUID)
  | startGame (code : Int)
  | moveToStateHome
  | moveToStateSheet (gameSettings : GameSettings) (player : Player) (numOfPlayers : Int)
    (isHost : Bool)
  deriving DecidableEq

def init (code : Int) (player : WaitingPlayer) (isHost : Bool)
    : StateControllerWaitingRoom × List Effect :=
  ({ player := player, isHost := isHost },
    [.getGameSettings code, .observePlayers code, .observeRoundNum code])

variable (c : StateControllerWaitingRoom)

def getGameCode : Int :=
  match c.gameSettings with
  | some gameSettings => gameSettings.code
  | none => 0

def startGame : StateControllerWaitingRoom × List Effect :=
  (c, [.startGame c.getGameCode])

def leaveGame : StateControllerWaitingRoom × List Effect :=
  (c, [.stopObservingPlayers c.getGameCode, .removePlayer c.getGameCode c.player.id,
    .stopObservingRoundNum c.getGameCode, .moveToStateHome])

def updatePlayers (players : List WaitingPlayer) : StateControllerWaitingRoom :=
  { c with players := players.insertionSort fun p q => p.joinDate.nanoseconds ≤ q.joinDate.nanoseconds }

def updateGameSettings (gameSettings : GameSettings) : StateControllerWaitingRoom :=
  { c with gameSettings := some gameSettings }

/-- It traps without game settings, and if the player is not in the list. -/
def handlePlayers (players : List Player) : Option (StateControllerWaitingRoom × List Effect) := do
  let gameSettings ← c.gameSettings
  let player ← (players.filter fun p => p.id = c.player.id).head?
  return (c, [.moveToStateSheet gameSettings player players.length c.isHost])

def checkRoundNum (roundNum : Int) : StateControllerWaitingRoom × List Effect :=
  if roundNum > 0 then
    (c, [.stopObservingPlayers c.getGameCode, .stopObservingRoundNum c.getGameCode,
      .getPlayers c.getGameCode])
  else
    (c, [])

end StateControllerWaitingRoom

end SCatCh
