import SCatCh.Lib.TransitionSystem
import SCatCh.Storage.RoundTrip
import SCatCh.Storage.WaitingRoom
import SCatCh.System.Core

/-!
This module contains the devices of one game in the Sheet state, together with the database. Each
device sends its writes in order. A device sees the database with its own writes, and observers are
told of what it sees. The host may still start the game from the waiting room, and a device enters
the Sheet state once it has seen that the game is started.
-/

namespace SCatCh

/-- The arguments with which the devices of a game enter the Sheet state. -/
structure Table (ι : Type) where
  gameSettings : GameSettings
  player : ι → Player
  numOfPlayers : ι → Int
  isHost : ι → Bool

namespace Table

variable {ι : Type} (T : Table ι)

def code : Int := T.gameSettings.code

def numOfRounds (i : ι) : Int := min (T.numOfPlayers i) T.gameSettings.maxNumOfRounds

def create (i : ι) : SheetClient :=
  .create T.gameSettings (T.player i) (T.numOfPlayers i) (T.isHost i)

end Table

structure Play (ι : Type) where
  db : Database
  clients : ι → SheetClient
  -- Has the device moved from the waiting room to the Sheet state?
  entered : ι → Bool
  -- The calls of `startGame` whose read has not been answered.
  starts : ι → Nat

namespace Play

variable {ι : Type} [Fintype ι] [DecidableEq ι] (T : Table ι)

def core (s : Play ι) (i : ι) : Core := (s.clients i).core

def view (s : Play ι) (i : ι) : Database := applyAll (s.core i).outbox s.db

inductive Action (ι : Type) where
  | device (i : ι) (a : SheetClient.Input)
  | process (i : ι)
  | startGame (i : ι)
  | startReply (i : ι) (o : IterationOrder)
  | enter (i : ι)

/-- Identifiers are new, events are raised for what the device sees, and reads are of the database. -/
def Admissible (s : Play ι) (i : ι) : SheetClient.Input → Prop
  | .tick newId => ∀ j, newId ∉ (s.core j).saved.map Sheet.id
  | .done newId => ∀ j, newId ∉ (s.core j).saved.map Sheet.id
  | .raiseRoundNum v => StorageControllerSheet.observeRoundNum (s.view i) T.code = some v
  | .raiseRoundSheets n v => StorageControllerSheet.observeRoundSheets (s.view i) T.code n = some v
  | .answer _ _ db _ _ => db = s.db
  | _ => True

instance (s : Play ι) (i : ι) (a : SheetClient.Input) : Decidable (s.Admissible T i a) := by
  unfold Admissible
  split <;> infer_instance

def Started (s : Play ι) (i : ι) : Prop :=
  (StorageControllerWaitingRoom.observeRoundNum (s.view i) T.code).any (fun v => 0 < v) = true

instance (s : Play ι) (i : ι) : Decidable (s.Started T i) := inferInstanceAs (Decidable (_ = _))

def send (s : Play ι) (i : ι) (writes : List Write) : ι → SheetClient :=
  Function.update s.clients i { s.clients i with outbox := (s.clients i).outbox ++ writes }

def step (s : Play ι) : Action ι → Option (Play ι)
  | .device i a =>
    if s.entered i = true ∧ s.Admissible T i a then
      match (s.clients i).step a with
      | some c => some { s with clients := Function.update s.clients i c }
      | none => none
    else
      none
  | .process i =>
    match (s.clients i).outbox with
    | write :: writes => some { s with
        db := write.apply s.db
        clients := Function.update s.clients i { s.clients i with outbox := writes } }
    | [] => none
  | .startGame i =>
    if s.entered i = false ∧ T.isHost i = true then
      some { s with starts := Function.update s.starts i (s.starts i + 1) }
    else
      none
  | .startReply i o =>
    if 0 < s.starts i then
      some { s with
        clients := s.send i (StorageControllerWaitingRoom.startGame o s.db T.code)
        starts := Function.update s.starts i (s.starts i - 1) }
    else
      none
  | .enter i =>
    if s.entered i = false ∧ s.Started T i then
      some { s with entered := Function.update s.entered i true }
    else
      none

/-- The game is started, and all devices have just entered the Sheet state. -/
structure Playing (s : Play ι) : Prop where
  clients : ∀ i, s.clients i = T.create i
  entered : ∀ i, s.entered i = true
  starts : ∀ i, s.starts i = 0
  roundNum : StorageControllerSheet.observeRoundNum s.db T.code = some 1
  rounds : s.db.get (roundsPath T.code) = .empty

/-- The game is not started, and all devices are in the waiting room. -/
structure Waiting (s : Play ι) : Prop where
  clients : ∀ i, s.clients i = T.create i
  entered : ∀ i, s.entered i = false
  starts : ∀ i, s.starts i = 0
  roundNum : StorageControllerSheet.observeRoundNum s.db T.code = some 0

def system (init : Play ι → Prop) : TransitionSystem (Play ι) (Action ι) where
  init := init
  step := step T

/-! # What a step can do -/

variable {T} {s t : Play ι} {i : ι}

omit [Fintype ι] in
theorem core_clients_update (c : SheetClient)
    : (fun j => (Function.update s.clients i c j).core) = Function.update s.core i c.core := by
  funext j
  by_cases h : j = i
  . subst h
    simp
  . simp [h, core]

theorem step_device {a : SheetClient.Input} (h : s.step T (.device i a) = some t)
    : s.entered i = true
        ∧ s.Admissible T i a
        ∧ t.db = s.db
        ∧ t.entered = s.entered
        ∧ t.starts = s.starts
        ∧ ∃ k, (s.core i).Next k a ∧ t.core = Function.update s.core i k := by
  simp only [step] at h
  split at h
  . next hguard =>
    split at h
    . next c hc =>
      rw [Option.some.injEq] at h
      subst h
      exact ⟨hguard.1, hguard.2, rfl, rfl, rfl, c.core, SheetClient.core_step hc,
        core_clients_update c⟩
    . contradiction
  . contradiction

theorem step_process (h : s.step T (.process i) = some t)
    : ∃ write writes,
        (s.core i).outbox = write :: writes
          ∧ t.db = write.apply s.db
          ∧ t.entered = s.entered
          ∧ t.starts = s.starts
          ∧ t.core = Function.update s.core i { s.core i with outbox := writes } := by
  simp only [step] at h
  split at h
  . next write writes hout =>
    rw [Option.some.injEq] at h
    subst h
    exact ⟨write, writes, hout, rfl, rfl, rfl, core_clients_update _⟩
  . contradiction

theorem step_startGame (h : s.step T (.startGame i) = some t)
    : s.entered i = false ∧ t.db = s.db ∧ t.core = s.core ∧ t.entered = s.entered := by
  simp only [step, Option.ite_none_right_eq_some, Option.some.injEq] at h
  obtain ⟨hguard, rfl⟩ := h
  exact ⟨hguard.1, rfl, rfl, rfl⟩

theorem step_startReply {o : IterationOrder} (h : s.step T (.startReply i o) = some t)
    : 0 < s.starts i
        ∧ t.db = s.db
        ∧ t.entered = s.entered
        ∧ t.core = Function.update s.core i { s.core i with
            outbox := (s.core i).outbox ++ StorageControllerWaitingRoom.startGame o s.db T.code } := by
  simp only [step, Option.ite_none_right_eq_some, Option.some.injEq] at h
  obtain ⟨hguard, rfl⟩ := h
  exact ⟨hguard, rfl, rfl, core_clients_update _⟩

theorem step_enter (h : s.step T (.enter i) = some t)
    : s.entered i = false ∧ t.db = s.db ∧ t.core = s.core ∧ t.starts = s.starts := by
  simp only [step, Option.ite_none_right_eq_some, Option.some.injEq] at h
  obtain ⟨hguard, rfl⟩ := h
  exact ⟨hguard.1, rfl, rfl, rfl⟩

end Play

end SCatCh
