import SCatCh.State.Chain
import SCatCh.System.LobbyInvariant
import SCatCh.System.SheetMachine

/-!
This module contains the whole way of the players from the Home state to the summary. To the lobby it
adds the controllers of the Sheet and Summary states. All that were ever constructed are kept, since
timers and observers may still call one that the root has replaced. Their methods are called in any
order and with any values, so that nothing depends on what is stored of the rounds.
-/

namespace SCatCh

namespace StateControllerSheet

def call (c : StateControllerSheet)
    : SheetMachine.Input → Option (StateControllerSheet × List Effect)
  | .tick newId => c.checkTimer newId
  | .appear => some (c.resetCountdown, [])
  | .done newId => some (c.saveSheet newId)
  | .type guess => some ({ c with guess := guess }, [])
  | .draw image => some ({ c with canvasView := image }, [])
  | .force => some c.forceRoundEnd
  | .roundNum v => c.handleDBDataRoundNum v
  | .reference sheet => some (c.handleDBDataReferenceSheet sheet, [])
  | .roundSheets n => some (c.handleDBDataRoundSheets n)

def Effect.writes : Effect → List Write
  | .saveSheet code sheet => [(StorageControllerSheet.saveSheet code sheet).1]
  | .updateRoundNum code roundNum => [StorageControllerSheet.updateRoundNum code roundNum]
  | _ => []

def Effect.summaries : Effect → List StateControllerSummary
  | .moveToStateSummary gameSettings numOfRounds numOfPlayers =>
    [.init gameSettings numOfRounds numOfPlayers]
  | _ => []

end StateControllerSheet

namespace StateControllerSummary

inductive Input where
  | tick
  | sheet (sheet : Sheet)
  deriving DecidableEq

def call (c : StateControllerSummary) : Input → Option StateControllerSummary
  | .tick => some c.checkTimer.1
  | .sheet sheet => c.handleDBDataSheets sheet

end StateControllerSummary

def StateControllerWaitingRoom.Effect.sheet? : Effect → Option StateControllerSheet
  | .moveToStateSheet gameSettings player numOfPlayers isHost =>
    some (StateControllerSheet.init gameSettings player numOfPlayers isHost).1
  | _ => none

/-- The controller that is constructed while an input is handled. -/
def Session.constructs (c : Session) : Input → Option StateControllerSheet
  | .handle k =>
    match c.room, c.replies[k]? with
    | some room, some reply =>
      match reply.request.read, StorageControllerWaitingRoom.getPlayers reply.order reply.snapshot
          reply.request.code with
      | .players, some (some players) => do
        let (_, effects) ← room.handlePlayers players
        effects.findSome? StateControllerWaitingRoom.Effect.sheet?
      | _, _ => none
    | _, _ => none
  | _ => none

theorem Session.sheet_eq_of_step {zone : TimeZone} {db view : Database} {after : Nat}
    {c c' : Session} {a : Input} {ws : List Write} (h : c.step zone db view after a = some (c', ws))
    : c'.sheet = (c.constructs a).or c.sheet := by
  have hnext := next_of_step h
  -- Only the reply with the players constructs a controller.
  cases a with
  | handle k =>
    simp only [step] at h
    split at h
    . next room reply hroom hreply =>
      simp only [Option.some.injEq, Prod.ext_iff] at h
      rw [← h.1]
      simp only [constructs, hroom, hreply]
      unfold handleReply
      split
      . next hread =>
        rw [hread]
        split <;> rfl
      . next hread =>
        rw [hread]
        split
        . next players hplayers =>
          rw [hplayers]
          dsimp only
          unfold StateControllerWaitingRoom.handlePlayers
          cases room.gameSettings with
          | none => rfl
          | some gameSettings =>
            cases (players.filter fun p => p.id = room.player.id).head? <;> rfl
        . next hplayers =>
          rw [hplayers]
          rfl
        . next hplayers =>
          rw [hplayers]
          rfl
      . next hread =>
        rw [hread]
        rfl
    . contradiction
  | _ => cases hnext <;> rfl

structure Game (ι δ : Type) where
  lobby : Lobby ι δ := {}
  -- The controllers of each session's player that were ever constructed.
  sheets : ι → List StateControllerSheet := fun _ => []
  summaries : ι → List StateControllerSummary := fun _ => []
  -- Has a method of one of them trapped?
  trapped : ι → Bool := fun _ => false

namespace Game

inductive Action (ι δ : Type) where
  | lobby (a : Lobby.Action ι δ)
  | sheet (i : ι) (k : Nat) (a : SheetMachine.Input)
  | summary (i : ι) (k : Nat) (a : StateControllerSummary.Input)

variable {ι δ : Type} [Fintype ι] [DecidableEq ι] [DecidableEq δ] (device : ι → δ) (zone : TimeZone)

/-- The writes of all states of a device go the same way. -/
def send (s : Lobby ι δ) (i : ι) (writes : List Write) : Lobby ι δ :=
  { s with outbox := Function.update s.outbox (device i) (s.outbox (device i) ++ writes) }

def step (s : Game ι δ) : Action ι δ → Option (Game ι δ)
  | .lobby (.session i a) =>
    if s.trapped i = false then do
      let lobby ← s.lobby.step device zone (.session i a)
      let sheets := s.sheets i ++ ((s.lobby.sessions i).constructs a).toList
      return { s with lobby := lobby, sheets := Function.update s.sheets i sheets }
    else
      none
  | .lobby (.process d) => do
    let lobby ← s.lobby.step device zone (.process d)
    return { s with lobby := lobby }
  | .sheet i k a =>
    if s.trapped i = false then do
      let c ← (s.sheets i)[k]?
      match c.call a with
      | some (c, effects) =>
        let summaries := s.summaries i ++ effects.flatMap StateControllerSheet.Effect.summaries
        return { s with
          lobby := send device s.lobby i (effects.flatMap StateControllerSheet.Effect.writes)
          sheets := Function.update s.sheets i ((s.sheets i).set k c)
          summaries := Function.update s.summaries i summaries }
      | none => return { s with trapped := Function.update s.trapped i true }
    else
      none
  | .summary i k a =>
    if s.trapped i = false then do
      let c ← (s.summaries i)[k]?
      match c.call a with
      | some c => return { s with
          summaries := Function.update s.summaries i ((s.summaries i).set k c) }
      | none => return { s with trapped := Function.update s.trapped i true }
    else
      none

def system : TransitionSystem (Game ι δ) (Action ι δ) where
  init := fun s => s = {}
  step := step device zone

end Game

end SCatCh
