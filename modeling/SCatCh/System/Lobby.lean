import Mathlib.Data.Fintype.Basic
import SCatCh.Lib.Observer
import SCatCh.Lib.TransitionSystem
import SCatCh.State.Home
import SCatCh.State.Sheet
import SCatCh.State.WaitingRoom
import SCatCh.Storage.Home
import SCatCh.Storage.WaitingRoom

/-!
This module contains the way of the players from the Home state over the waiting room into the Sheet
state. A session is one tap on Host or Join and all that follows from it. Several sessions may belong
to one device, whose writes take effect in the order in which it sends them. A read is answered with
the database at any time after the call, and the answer is handled at any time after that.
-/

namespace SCatCh

/-- The two calls with which a session begins. -/
inductive Tap where
  | host (code : Int) (topic : String) (maxNumOfRounds roundTime : Int) (player : WaitingPlayer)
  | join (player : WaitingPlayer) (code : Int)
  deriving DecidableEq

namespace Tap

def code : Tap → Int
  | host code .. => code
  | join _ code => code

def player : Tap → WaitingPlayer
  | host _ _ _ _ player => player
  | join player _ => player

def isHost : Tap → Bool
  | host .. => true
  | join .. => false

def write (zone : TimeZone) (db : Database) : Tap → Option Write
  | host code topic maxNumOfRounds roundTime player =>
    StorageControllerHome.hostGame db zone code topic maxNumOfRounds roundTime player
  | join player code => StorageControllerHome.joinGame db zone player code

def handleDBData (tap : Tap) (home : StateControllerHome) (isSuccessful : Bool)
    : StateControllerHome × List StateControllerHome.Effect :=
  match tap with
  | host code _ _ _ player => home.handleDBDataHost code player isSuccessful
  | join player code => home.handleDBDataJoin code player isSuccessful

end Tap

inductive Phase where
  | idle
  | waiting
  | answered (snapshot : Database)
  | closed
  deriving DecidableEq

inductive Read where
  | gameSettings
  | players
  | start
  deriving DecidableEq

structure Request where
  read : Read
  code : Int
  -- How many writes the device had sent before.
  after : Nat
  deriving DecidableEq

structure Reply where
  request : Request
  snapshot : Database
  -- The order in which the dictionaries of the snapshot are gone through.
  order : IterationOrder

structure Session where
  home : StateControllerHome := {}
  tap : Option Tap := none
  phase : Phase := .idle
  room : Option StateControllerWaitingRoom := none
  requests : List Request := []
  replies : List Reply := []
  players : Observer Database := {}
  roundNum : Observer Int := {}
  -- Has the player left the waiting room?
  left : Bool := false
  sheet : Option StateControllerSheet := none
  -- Has a callback trapped?
  crashed : Bool := false

namespace Session

def code (c : Session) : Int :=
  match c.tap with
  | some tap => tap.code
  | none => 0

def Waits (c : Session) : Prop := c.left = false ∧ c.sheet.isNone = true

instance (c : Session) : Decidable c.Waits := inferInstanceAs (Decidable (_ ∧ _))

/-- `after` writes have been sent by the device. -/
def perform (after : Nat) (c : Session) : StateControllerWaitingRoom.Effect → Session
  | .getGameSettings code => { c with requests := c.requests ++ [⟨.gameSettings, code, after⟩] }
  | .getPlayers code => { c with requests := c.requests ++ [⟨.players, code, after⟩] }
  | .startGame code => { c with requests := c.requests ++ [⟨.start, code, after⟩] }
  | .observePlayers _ => { c with players := c.players.observe }
  | .observeRoundNum _ => { c with roundNum := c.roundNum.observe }
  | .stopObservingPlayers code =>
    if code = c.code then { c with players := c.players.stop } else c
  | .stopObservingRoundNum code =>
    if code = c.code then { c with roundNum := c.roundNum.stop } else c
  | .removePlayer .. => c
  | .moveToStateHome => { c with left := true }
  | .moveToStateSheet gameSettings player numOfPlayers isHost =>
    { c with sheet := some (StateControllerSheet.init gameSettings player numOfPlayers isHost).1 }

def sends : StateControllerWaitingRoom.Effect → List Write
  | .removePlayer code playerId => [StorageControllerWaitingRoom.removePlayer code playerId]
  | _ => []

def update (after : Nat) (c : Session)
    (result : StateControllerWaitingRoom × List StateControllerWaitingRoom.Effect)
    : Session :=
  result.2.foldl (perform after) { c with room := some result.1 }

def performHome (after : Nat) (c : Session) : StateControllerHome.Effect → Session
  | .hostGame code topic maxNumOfRounds roundTime player =>
    { c with tap := some (.host code topic maxNumOfRounds roundTime player), phase := .waiting }
  | .joinGame player code => { c with tap := some (.join player code), phase := .waiting }
  | .moveToStateWaitingRoom code player isHost =>
    c.update after (StateControllerWaitingRoom.init code player isHost)

def updateHome (after : Nat) (c : Session)
    (result : StateControllerHome × List StateControllerHome.Effect)
    : Session :=
  result.2.foldl (performHome after) { c with home := result.1 }

/-- What is drawn anew and the orders of dictionaries come from outside. -/
inductive Input where
  | hostGame (topic : String) (maxNumOfRounds roundTime : Int) (nickname : String) (code : Int)
    (newId : UUID) (date : Date)
  | joinGame (nickname : String) (code : Int) (newId : UUID) (date : Date)
  | answerCall
  | failCall
  | handleCall
  | answer (k : Nat) (order : IterationOrder)
  | fail (k : Nat)
  | handle (k : Nat)
  | raisePlayers
  | deliverPlayers (order : IterationOrder)
  | raiseRoundNum
  | deliverRoundNum
  | leaveGame
  | startGame

def handleReply (after : Nat) (c : Session) (room : StateControllerWaitingRoom) (reply : Reply)
    : Session × List Write :=
  match reply.request.read with
  | .gameSettings =>
    match StorageControllerWaitingRoom.getGameSettings reply.snapshot reply.request.code with
    | some gameSettings => (c.update after (room.updateGameSettings gameSettings, []), [])
    | none => (c, [])
  | .players =>
    match StorageControllerWaitingRoom.getPlayers reply.order reply.snapshot reply.request.code with
    | some (some players) =>
      match room.handlePlayers players with
      | some result => (c.update after result, [])
      | none => ({ c with crashed := true }, [])
    | some none => (c, [])
    | none => ({ c with crashed := true }, [])
  | .start =>
    (c, StorageControllerWaitingRoom.startGame reply.order reply.snapshot reply.request.code)

/--
The new state and the writes to be sent. The session reads `db` and observes `view`, which is what
its device takes the database to be, and its device has sent `after` writes.
-/
def step (zone : TimeZone) (db view : Database) (after : Nat) (c : Session)
    : Input → Option (Session × List Write)
  | .hostGame topic maxNumOfRounds roundTime nickname code newId date =>
    if c.tap = none ∧ 100000 ≤ code ∧ code < 1000000 then
      some (c.updateHome after
        (c.home.hostGame topic maxNumOfRounds roundTime nickname code newId date), [])
    else
      none
  | .joinGame nickname code newId date =>
    if c.tap = none then
      some (c.updateHome after (c.home.joinGame nickname code newId date), [])
    else
      none
  | .answerCall => if c.phase = .waiting then some ({ c with phase := .answered db }, []) else none
  | .failCall =>
    match c.tap, c.phase with
    | some tap, .waiting =>
      some ({ c with phase := .closed }.updateHome after (tap.handleDBData c.home false), [])
    | _, _ => none
  | .handleCall =>
    match c.tap, c.phase with
    | some tap, .answered snapshot =>
      let write := tap.write zone snapshot
      some ({ c with phase := .closed }.updateHome (after + write.toList.length)
        (tap.handleDBData c.home write.isSome), write.toList)
    | _, _ => none
  | .answer k order =>
    match c.requests[k]? with
    | some request => some ({ c with
        requests := c.requests.eraseIdx k
        replies := c.replies ++ [⟨request, db, order⟩] }, [])
    | none => none
  | .fail k =>
    if k < c.requests.length then
      some ({ c with requests := c.requests.eraseIdx k }, [])
    else
      none
  | .handle k =>
    match c.room, c.replies[k]? with
    | some room, some reply =>
      some ({ c with replies := c.replies.eraseIdx k }.handleReply after room reply)
    | _, _ => none
  | .raisePlayers =>
    match c.players.raise (view.get (playersPath c.code)) with
    | some players => some ({ c with players := players }, [])
    | none => none
  | .deliverPlayers order =>
    match c.room, c.players.deliver with
    | some room, some (node, players) =>
      let c := { c with players := players }
      match StorageControllerWaitingRoom.observePlayers order zone node with
      | some (some players) => some (c.update after (room.updatePlayers players, []), [])
      | some none => some (c, [])
      | none => some ({ c with crashed := true }, [])
    | _, _ => none
  | .raiseRoundNum =>
    match StorageControllerWaitingRoom.observeRoundNum view c.code with
    | some v =>
      match c.roundNum.raise v with
      | some roundNum => some ({ c with roundNum := roundNum }, [])
      | none => none
    | none => none
  | .deliverRoundNum =>
    match c.room, c.roundNum.deliver with
    | some room, some (v, roundNum) =>
      some ({ c with roundNum := roundNum }.update after (room.checkRoundNum v), [])
    | _, _ => none
  | .leaveGame =>
    match c.room with
    | some room =>
      if c.Waits then
        some (c.update after room.leaveGame, room.leaveGame.2.flatMap sends)
      else
        none
    | none => none
  | .startGame =>
    match c.room with
    | some room =>
      if c.Waits ∧ room.isHost = true then some (c.update after room.startGame, []) else none
    | none => none

end Session

structure Lobby (ι δ : Type) where
  db : Database := .empty
  sessions : ι → Session := fun _ => {}
  -- The writes of each device that have not taken effect.
  outbox : δ → List Write := fun _ => []
  -- How many writes of each device have taken effect.
  processed : δ → Nat := fun _ => 0
  -- The players of a game in the order in which its first start numbers them.
  numbering : Int → Option (List String) := fun _ => none

namespace Lobby

variable {ι δ : Type} [Fintype ι] [DecidableEq ι] [DecidableEq δ] (device : ι → δ) (zone : TimeZone)

/-- The database as the device of a session sees it. -/
def view (s : Lobby ι δ) (i : ι) : Database := applyAll (s.outbox (device i)) s.db

def sent (s : Lobby ι δ) (i : ι) : Nat := s.processed (device i) + (s.outbox (device i)).length

inductive Action (ι δ : Type) where
  | session (i : ι) (a : Session.Input)
  | process (d : δ)

def NewId (s : Lobby ι δ) (newId : UUID) : Prop :=
  ∀ j, ∀ tap ∈ (s.sessions j).tap, tap.player.id ≠ newId

instance (s : Lobby ι δ) (newId : UUID) : Decidable (s.NewId newId) :=
  inferInstanceAs (Decidable (∀ j, ∀ tap ∈ (s.sessions j).tap, tap.player.id ≠ newId))

/-- Identifiers are new, and a device that has trapped does nothing. -/
def Admissible (s : Lobby ι δ) (i : ι) : Session.Input → Prop
  | .hostGame _ _ _ _ _ newId _ => (s.sessions i).crashed = false ∧ s.NewId newId
  | .joinGame _ _ newId _ => (s.sessions i).crashed = false ∧ s.NewId newId
  | _ => (s.sessions i).crashed = false

instance (s : Lobby ι δ) (i : ι) (a : Session.Input) : Decidable (s.Admissible i a) := by
  unfold Admissible
  split <;> infer_instance

/-- The order in which a start goes through the players that it has read, if it numbers them. -/
def numbers (s : Lobby ι δ) (i : ι) : Session.Input → Option (Int × List String)
  | .answer k o =>
    match (s.sessions i).requests[k]? with
    | some ⟨.start, code, _⟩ =>
      match asDictionary (s.db.get (playersPath code)) with
      | some playersDict => some (code, o.order playersDict)
      | none => none
    | _ => none
  | _ => none

/-- The numbering of a game is that of its first start. -/
def note (s : Lobby ι δ) : Option (Int × List String) → Int → Option (List String)
  | some (code, keys) => if s.numbering code = none then
      Function.update s.numbering code (some keys)
    else
      s.numbering
  | none => s.numbering

def step (s : Lobby ι δ) : Action ι δ → Option (Lobby ι δ)
  | .session i a =>
    if s.Admissible i a then
      match (s.sessions i).step zone s.db (s.view device i) (s.sent device i) a with
      | some (c, writes) => some { s with
          sessions := Function.update s.sessions i c
          outbox := Function.update s.outbox (device i) (s.outbox (device i) ++ writes)
          numbering := s.note (s.numbers i a) }
      | none => none
    else
      none
  | .process d =>
    match s.outbox d with
    | write :: writes => some { s with
        db := write.apply s.db
        outbox := Function.update s.outbox d writes
        processed := Function.update s.processed d (s.processed d + 1) }
    | [] => none

def system : TransitionSystem (Lobby ι δ) (Action ι δ) where
  init := fun s => s = {}
  step := step device zone

end Lobby

end SCatCh
