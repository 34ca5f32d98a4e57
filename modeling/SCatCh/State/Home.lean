import SCatCh.Model

/-!
This module contains `StateController_Home`. As elsewhere a method returns the controller's new state
and the calls that leave it. What is drawn anew in each call (the code of a hosted game, the player's
identifier, the date) is an argument.
-/

namespace SCatCh

namespace SubRootViewHome

inductive ViewType where
  | home
  | host
  | join
  deriving DecidableEq

end SubRootViewHome

structure StateControllerHome where
  shownView : SubRootViewHome.ViewType := .home
  isOperationSuccessful : Bool := true
  deriving DecidableEq

namespace StateControllerHome

inductive Effect where
  | hostGame (code : Int) (topic : String) (maxNumOfRounds roundTime : Int) (player : WaitingPlayer)
  | joinGame (player : WaitingPlayer) (code : Int)
  | moveToStateWaitingRoom (code : Int) (player : WaitingPlayer) (isHost : Bool)
  deriving DecidableEq

variable (c : StateControllerHome)

def hostGame (topic : String) (maxNumOfRounds roundTime : Int) (nickname : String) (code : Int)
    (newId : UUID) (date : Date)
    : StateControllerHome × List Effect :=
  if roundTime > 0 ∧ ¬nickname.isEmpty then
    let topic := if topic.isEmpty then "None" else topic
    (c, [.hostGame code topic maxNumOfRounds roundTime ⟨newId, nickname, date⟩])
  else
    ({ c with isOperationSuccessful := false }, [])

def joinGame (nickname : String) (code : Int) (newId : UUID) (date : Date)
    : StateControllerHome × List Effect :=
  if ¬nickname.isEmpty then
    (c, [.joinGame ⟨newId, nickname, date⟩ code])
  else
    ({ c with isOperationSuccessful := false }, [])

/-- `handleDBData_Host` and `handleDBData_Join`, which differ in `isHost`. -/
def handleDBData (code : Int) (player : WaitingPlayer) (isHost isSuccessful : Bool)
    : StateControllerHome × List Effect :=
  ({ c with isOperationSuccessful := isSuccessful },
    if isSuccessful then [.moveToStateWaitingRoom code player isHost] else [])

def handleDBDataHost (code : Int) (player : WaitingPlayer) (isHostSuccessful : Bool)
    : StateControllerHome × List Effect :=
  c.handleDBData code player true isHostSuccessful

def handleDBDataJoin (code : Int) (player : WaitingPlayer) (isJoinSuccessful : Bool)
    : StateControllerHome × List Effect :=
  c.handleDBData code player false isJoinSuccessful

def resetIsOperationSuccessful : StateControllerHome := { c with isOperationSuccessful := true }

def setShownView (viewType : SubRootViewHome.ViewType) : StateControllerHome :=
  { c with shownView := viewType }

end StateControllerHome

end SCatCh
