import SCatCh.Storage.Sheet

/-!
This module contains `StateController_Sheet`. A method returns the controller's new state together
with what it asks of its storage controller, of its timer and of the root controller, in the order of
the calls, or `none` if it traps.
-/

namespace SCatCh

namespace SubRootViewSheet

inductive ViewType where
  | getReady
  | guessing
  | drawing
  deriving DecidableEq

end SubRootViewSheet

open SubRootViewSheet

structure StateControllerSheet where
  shownView : ViewType := .getReady
  timeRemaining : Int := -10
  guess : String := ""
  canvasView : UIImage := .blank
  gameSettings : GameSettings
  player : Player
  numOfPlayers : Int := 0
  numOfRounds : Int := 0
  isHost : Bool := false
  roundNum : Int := 0
  referenceSheet : Option Sheet := none
  getReadyMessage : String := ""
  isContentSaved : Bool := false
  enableForceRoundEnd : Bool := false
  deriving DecidableEq

namespace StateControllerSheet

/-- The calls that leave the controller. -/
inductive Effect where
  | observeRoundNum (code : Int)
  | stopObservingRoundNum (code : Int)
  | observeRoundSheets (code roundNum : Int)
  | stopObservingRoundSheets (code roundNum : Int)
  | saveSheet (code : Int) (sheet : Sheet)
  | getReferenceSheet (code roundNum authorNum : Int)
  | updateRoundNum (code roundNum : Int)
  | subscribe
  | unsubscribe
  | moveToStateSummary (gameSettings : GameSettings) (numOfRounds numOfPlayers : Int)
  deriving DecidableEq

def init (gameSettings : GameSettings) (player : Player) (numOfPlayers : Int) (isHost : Bool)
    : StateControllerSheet × List Effect :=
  ({
      gameSettings := gameSettings
      player := player
      numOfPlayers := numOfPlayers
      numOfRounds := min numOfPlayers gameSettings.maxNumOfRounds
      isHost := isHost
    }, [.observeRoundNum gameSettings.code, .subscribe])

def getAuthorNumToGetRefSheet (numOfPlayers playerNum : Int) : Option Int := do
  let authorNum ← remainder (playerNum + 1) numOfPlayers
  return if authorNum = 0 then numOfPlayers else authorNum

variable (c : StateControllerSheet)

def resetCountdown : StateControllerSheet :=
  match c.shownView with
  | .getReady => { c with timeRemaining := 3 }
  | .guessing | .drawing => { c with timeRemaining := c.gameSettings.roundTime }

/-- The placeholder of the first round has a new identifier, like every sheet. -/
def getReferenceSheet (newId : UUID) : Option (StateControllerSheet × List Effect) :=
  if c.referenceSheet = none then
    if c.roundNum > 1 then do
      let authorNum ← getAuthorNumToGetRefSheet c.numOfPlayers c.player.number
      return (c, [.getReferenceSheet c.gameSettings.code (c.roundNum - 1) authorNum])
    else
      let sheet : Sheet := ⟨newId, { id := newId }, 0, .drawing (.named "writeguess_image")⟩
      return ({ c with referenceSheet := some sheet }, [])
  else
    return (c, [])

def saveSheet (newId : UUID) : StateControllerSheet × List Effect :=
  if !c.isContentSaved then
    let (c, effects) : StateControllerSheet × List Effect :=
      match c.shownView with
      | .drawing =>
        let sheet : Sheet := ⟨newId, c.player, c.roundNum, .drawing c.canvasView⟩
        ({ c with canvasView := .blank }, [.saveSheet c.gameSettings.code sheet])
      | .guessing =>
        let sheet : Sheet := ⟨newId, c.player, c.roundNum, .guess c.guess⟩
        ({ c with guess := "" }, [.saveSheet c.gameSettings.code sheet])
      | .getReady => (c, [])
    ({ c with isContentSaved := true }, effects)
  else
    (c, [])

/-- The `switch` in `checkTimer`. -/
def switchTimeRemaining (newId : UUID) : Option (StateControllerSheet × List Effect) :=
  if 1 ≤ c.timeRemaining then
    c.getReferenceSheet newId
  else if c.timeRemaining = 0 then
    match c.shownView with
    | .getReady => do
      let (c, effects) ← c.getReferenceSheet newId
      return ({ c with shownView := if c.roundNum % 2 = 0 then .drawing else .guessing }, effects)
    | .drawing | .guessing => return c.saveSheet newId
  else if c.timeRemaining = -5 then
    match c.shownView with
    | .drawing | .guessing => return ({ c with enableForceRoundEnd := true }, [])
    | .getReady => return (c, [])
  else
    return (c, [])

def checkTimer (newId : UUID) : Option (StateControllerSheet × List Effect) := do
  let (c, effects) ← c.switchTimeRemaining newId
  return ({ c with timeRemaining := c.timeRemaining - 1 }, effects)

def forceRoundEnd : StateControllerSheet × List Effect :=
  (c, [.updateRoundNum c.gameSettings.code (c.roundNum + 1)])

def setGetReadyMessage : StateControllerSheet :=
  { c with
    getReadyMessage :=
      if c.roundNum % 2 = 0 then "Get ready for Drawing" else "Get ready for Guessing" }

/-- The range `1...numOfRounds` of the first case traps if it is empty. -/
def initializeRound : Option (StateControllerSheet × List Effect) := do
  let rounds ← closedRange? 1 c.numOfRounds
  if c.roundNum ∈ rounds then
    let effects : List Effect :=
      if c.isHost then [.observeRoundSheets c.gameSettings.code c.roundNum] else []
    let c := { c with referenceSheet := none, isContentSaved := false, enableForceRoundEnd := false }
    return ({ c.setGetReadyMessage with shownView := .getReady }, effects)
  else
    return (c, [.unsubscribe, .stopObservingRoundNum c.gameSettings.code,
      .moveToStateSummary c.gameSettings c.numOfRounds c.numOfPlayers])

def handleDBDataRoundNum (roundNum : Int) : Option (StateControllerSheet × List Effect) :=
  if roundNum ≠ c.roundNum then do
    let stop : List Effect :=
      if c.isHost then [.stopObservingRoundSheets c.gameSettings.code c.roundNum] else []
    let (c, effects) ← { c with roundNum := roundNum }.initializeRound
    return (c, stop ++ effects)
  else
    return (c, [])

def handleDBDataReferenceSheet (sheet : Sheet) : StateControllerSheet :=
  { c with referenceSheet := some sheet }

def handleDBDataRoundSheets (numOfSavedSheets : Int) : StateControllerSheet × List Effect :=
  if c.isHost ∧ numOfSavedSheets = c.numOfPlayers then
    c.forceRoundEnd
  else
    (c, [])

/-- `getReferenceSheetContent() -> String`, for a drawing -/
def getReferenceSheetContentString : String :=
  match c.referenceSheet with
  | some ⟨_, _, _, .guess content⟩ => content
  | some ⟨_, _, _, .drawing _⟩ | none => "None. Draw what you want!"

/-- `getReferenceSheetContent() -> UIImage`, for a guess -/
def getReferenceSheetContentImage : UIImage :=
  match c.referenceSheet with
  | some ⟨_, _, _, .drawing content⟩ => content
  | some ⟨_, _, _, .guess _⟩ | none => .named "drawingnotfound_image"

end StateControllerSheet

namespace SubRootViewSheet

inductive InteractView where
  | drawingView (canvasView : UIImage) (guess : String)
  | guessingView (guess : String) (drawing : UIImage)
  | emptyView
  deriving DecidableEq

def getInteractView (stateController : StateControllerSheet) : InteractView :=
  match stateController.shownView with
  | .drawing =>
    .drawingView stateController.canvasView stateController.getReferenceSheetContentString
  | .guessing =>
    .guessingView stateController.guess stateController.getReferenceSheetContentImage
  | .getReady => .emptyView

end SubRootViewSheet

end SCatCh
