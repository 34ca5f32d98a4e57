import SCatCh.Storage.Basic

/-!
This module contains `StorageController_Summary`. The three nested loops of `getAllSheets` are cut
into one definition each.
-/

namespace SCatCh.StorageControllerSummary

/-- The innermost loop's body: a sheet is handed on if a player has its author's number. -/
def readSheet (images : Images) (players : List Player) (roundNum : Int) (key : String)
    (sheetValues : Database)
    : Option (List Sheet) :=
  if (asDictionary sheetValues).isSome then
    let authorNum := toInt (sheetValues.get [SheetKeys.authorNum.rawValue])
    match (players.filter fun player => player.number = authorNum).head? with
    | some author => StorageController.getSheet images key author roundNum sheetValues
    | none => some []
  else
    some []

/-- The sheets of one round; the round's number is read off the last character of its key. -/
def readRound (o : IterationOrder) (images : Images) (players : List Player) (key : String)
    (round : Database)
    : Option (List Sheet) := do
  let roundNum ← key.toList.getLast?.bind wholeNumberValue
  match asDictionary round with
  | some sheetsDict =>
    let sheets ← (o.order sheetsDict).mapM fun key =>
      readSheet images players roundNum key (round.get [key])
    return sheets.flatten
  | none => return []

def getAllSheets (o : IterationOrder) (db : Database) (images : Images) (code : Int)
    : Option (List Sheet) :=
  let game := db.get [toString code]
  match asDictionary (game.get [GameKeys.players.rawValue]) with
  | some _ => do
    let players ← StorageController.buildPlayersArray StorageController.buildPlayer o
      (game.get [GameKeys.players.rawValue])
    let rounds := game.get [GameKeys.rounds.rawValue]
    match asDictionary rounds with
    | some roundsDict =>
      let sheets ← (o.order roundsDict).mapM fun key =>
        readRound o images players key (rounds.get [key])
      return sheets.flatten
    | none => return []
  | none => some []

end SCatCh.StorageControllerSummary
