import SCatCh.Storage.Basic

/-!
This module contains `StorageController_WaitingRoom`. Registering and removing its observers is part
of the clients' state. Of the two layers of `Option` in the result of a read, the outer one is for
traps, and the inner one is `none` if the data handler is not called.
-/

namespace SCatCh.StorageControllerWaitingRoom

def getGameSettings (db : Database) (code : Int) : Option GameSettings :=
  let game := db.get [toString code]
  match asDictionary game with
  | some _ => some {
      roundTime := toInt (game.get [GameKeys.roundTime.rawValue])
      topic := toText (game.get [GameKeys.topic.rawValue])
      code := code
      maxNumOfRounds := toInt (game.get [GameKeys.maxNumOfRounds.rawValue])
    }
  | none => none

def getPlayers (o : IterationOrder) (db : Database) (code : Int) : Option (Option (List Player)) :=
  let players := db.get (playersPath code)
  match asDictionary players with
  | some _ => do
    let players ← StorageController.buildPlayersArray StorageController.buildPlayer o players
    return some players
  | none => some none

def observePlayers (o : IterationOrder) (zone : TimeZone) (players : Database)
    : Option (Option (List WaitingPlayer)) :=
  match asDictionary players with
  | some _ => do
    let players ←
      StorageController.buildPlayersArray (StorageController.buildWaitingPlayer zone) o players
    return some players
  | none => some none

def observeRoundNum (db : Database) (code : Int) : Option Int :=
  asInt (db.get [toString code, GameKeys.roundNum.rawValue])

def removePlayer (code : Int) (playerId : UUID) : Write := .removePlayer code playerId

/-- The writes in the callback, which number the players in the order of the dictionary. -/
def startGame (o : IterationOrder) (db : Database) (code : Int) : List Write :=
  match asDictionary (db.get [toString code]), asDictionary (db.get (playersPath code)) with
  | some _, some playersDict =>
    (o.order playersDict).mapIdx (fun k key => .number code key (k + 1)) ++ [.roundNum code 1]
  | _, _ => []

end SCatCh.StorageControllerWaitingRoom
