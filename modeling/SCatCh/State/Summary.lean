import SCatCh.Model

/-!
This module contains `StateController_Summary`.
-/

namespace SCatCh

namespace SubRootViewSummary

inductive ViewType where
  | getReady
  | summary
  deriving DecidableEq

end SubRootViewSummary

open SubRootViewSummary

structure StateControllerSummary where
  shownView : ViewType := .getReady
  timeRemaining : Int := 3
  sheetStacks : List (List Sheet) := []
  gameSettings : GameSettings
  numOfRounds : Int := 0
  numOfPlayers : Int := 0
  sheets : List Sheet := []
  deriving DecidableEq

namespace StateControllerSummary

inductive Effect where
  | getAllSheets (code : Int)
  | unsubscribe
  deriving DecidableEq

def init (gameSettings : GameSettings) (numOfRounds numOfPlayers : Int) : StateControllerSummary where
  gameSettings := gameSettings
  numOfRounds := numOfRounds
  numOfPlayers := numOfPlayers

variable (c : StateControllerSummary)

def checkTimer : StateControllerSummary × List Effect :=
  if c.timeRemaining = 0 then
    ({ c with shownView := .summary }, [.getAllSheets c.gameSettings.code, .unsubscribe])
  else
    ({ c with timeRemaining := c.timeRemaining - 1 }, [])

def getAuthorNumToBuildStacks (playerNum roundNum numOfPlayers : Int) : Option Int := do
  let authorNum ← remainder (playerNum + (numOfPlayers - roundNum - 1)) numOfPlayers
  return if authorNum = 0 then numOfPlayers else authorNum

/-- The inner loop: one stack goes through the rounds, and a missing sheet leaves no gap. -/
def buildSheetStack (playerNum : Int) : Option (List Sheet) := do
  let rounds ← closedRange? 1 c.numOfRounds
  let sheets ← rounds.mapM fun roundNum => do
    let authorNum ← getAuthorNumToBuildStacks playerNum roundNum c.numOfPlayers
    return (c.sheets.filter fun s => s.number = roundNum ∧ s.author.number = authorNum).head?
  return sheets.reduceOption

def buildSheetStacks : Option (List (List Sheet)) := do
  let players ← closedRange? 1 c.numOfPlayers
  players.mapM c.buildSheetStack

def handleDBDataSheets (sheet : Sheet) : Option StateControllerSummary := do
  let c := { c with sheets := c.sheets ++ [sheet] }
  let sheetStacks ← c.buildSheetStacks
  return { c with sheetStacks := sheetStacks }

end StateControllerSummary

end SCatCh
