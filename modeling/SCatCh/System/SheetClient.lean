import SCatCh.Lib.Observer
import SCatCh.State.Sheet
import SCatCh.State.Summary

/-!
This module contains one device in the Sheet state: its controller, its observers and requests, and
what it has sent to the database. The methods of the controller are driven by the inputs of the user,
of the timer and of Firebase.
-/

namespace SCatCh

open SubRootViewSheet

structure SheetClient where
  controller : StateControllerSheet
  summary : Option StateControllerSummary := none
  -- The state of the Done button, which belongs to the view.
  isDone : Bool := false
  timer : Bool := false
  -- The writes that have not taken effect.
  outbox : List Write := []
  uploads : List (String × List UInt8) := []
  saved : List Sheet := []
  roundNum : Observer Int := {}
  roundSheets : Int → Observer Int := fun _ => {}
  -- The reads of reference sheets that have not been answered, by round and author.
  requests : List (Int × Int) := []
  -- The sheets read for a request that have not been handed to the controller.
  replies : List ((Int × Int) × Sheet) := []

namespace SheetClient

def perform (c : SheetClient) : StateControllerSheet.Effect → SheetClient
  | .observeRoundNum _ => { c with roundNum := c.roundNum.observe }
  | .stopObservingRoundNum _ => { c with roundNum := c.roundNum.stop }
  | .observeRoundSheets _ n =>
    { c with roundSheets := Function.update c.roundSheets n (c.roundSheets n).observe }
  | .stopObservingRoundSheets _ n =>
    { c with roundSheets := Function.update c.roundSheets n (c.roundSheets n).stop }
  | .saveSheet code sheet =>
    let (write, upload) := StorageControllerSheet.saveSheet code sheet
    { c with
      outbox := c.outbox ++ [write]
      uploads := c.uploads ++ upload.toList
      saved := sheet :: c.saved }
  | .getReferenceSheet _ roundNum authorNum =>
    { c with requests := c.requests ++ [(roundNum, authorNum)] }
  | .updateRoundNum code roundNum =>
    { c with outbox := c.outbox ++ [StorageControllerSheet.updateRoundNum code roundNum] }
  | .subscribe => { c with timer := true }
  | .unsubscribe => { c with timer := false }
  | .moveToStateSummary gameSettings numOfRounds numOfPlayers =>
    { c with summary := some (.init gameSettings numOfRounds numOfPlayers) }

/-- The button is created anew for every sheet. -/
def refresh (c : SheetClient) : SheetClient :=
  if c.controller.shownView = .getReady then { c with isDone := false } else c

def update (c : SheetClient) (result : StateControllerSheet × List StateControllerSheet.Effect)
    : SheetClient :=
  (result.2.foldl perform { c with controller := result.1 }).refresh

section Lemmas

variable (c : SheetClient)

@[simp]
theorem refresh_controller : c.refresh.controller = c.controller := by
  unfold refresh
  split <;> rfl

@[simp]
theorem refresh_summary : c.refresh.summary = c.summary := by
  unfold refresh
  split <;> rfl

@[simp]
theorem refresh_outbox : c.refresh.outbox = c.outbox := by
  unfold refresh
  split <;> rfl

@[simp]
theorem refresh_timer : c.refresh.timer = c.timer := by
  unfold refresh
  split <;> rfl

@[simp]
theorem refresh_uploads : c.refresh.uploads = c.uploads := by
  unfold refresh
  split <;> rfl

@[simp]
theorem refresh_saved : c.refresh.saved = c.saved := by
  unfold refresh
  split <;> rfl

@[simp]
theorem refresh_roundNum : c.refresh.roundNum = c.roundNum := by
  unfold refresh
  split <;> rfl

@[simp]
theorem refresh_roundSheets : c.refresh.roundSheets = c.roundSheets := by
  unfold refresh
  split <;> rfl

@[simp]
theorem refresh_requests : c.refresh.requests = c.requests := by
  unfold refresh
  split <;> rfl

@[simp]
theorem refresh_replies : c.refresh.replies = c.replies := by
  unfold refresh
  split <;> rfl

theorem foldl_perform_controller (effects : List StateControllerSheet.Effect)
    : (effects.foldl perform c).controller = c.controller := by
  induction effects generalizing c with
  | nil => rfl
  | cons e effects ih =>
    rw [List.foldl_cons, ih]
    cases e <;> rfl

@[simp]
theorem update_controller (result : StateControllerSheet × List StateControllerSheet.Effect)
    : (c.update result).controller = result.1 := by
  unfold update
  rw [refresh_controller, foldl_perform_controller]

theorem foldl_perform_replies (effects : List StateControllerSheet.Effect)
    : (effects.foldl perform c).replies = c.replies := by
  induction effects generalizing c with
  | nil => rfl
  | cons e effects ih =>
    rw [List.foldl_cons, ih]
    cases e <;> rfl

@[simp]
theorem update_replies (result : StateControllerSheet × List StateControllerSheet.Effect)
    : (c.update result).replies = c.replies := by
  unfold update
  rw [refresh_replies, foldl_perform_replies]

end Lemmas

/-- `moveToState_Sheet` -/
def create (gameSettings : GameSettings) (player : Player) (numOfPlayers : Int) (isHost : Bool)
    : SheetClient :=
  let result := StateControllerSheet.init gameSettings player numOfPlayers isHost
  update { controller := result.1 } result

/-- New identifiers, new values of observed nodes and the stores that are read come from outside. -/
inductive Input where
  | tick (newId : UUID)
  | appear
  | done (newId : UUID)
  | type (guess : String)
  | draw (image : UIImage)
  | force
  | raiseRoundNum (roundNum : Int)
  | deliverRoundNum
  | raiseRoundSheets (roundNum numOfSheets : Int)
  | deliverRoundSheets (roundNum : Int)
  | answer (k : Nat) (o : IterationOrder) (db : Database) (images : Images) (authorId : UUID)
  | reply (k : Nat)

def Editing (c : SheetClient) (view : ViewType) : Prop :=
  c.summary = none ∧ c.controller.shownView = view ∧ c.isDone = false ∧ 0 < c.controller.timeRemaining

def DoneEnabled (c : SheetClient) : Prop :=
  c.summary = none ∧ c.controller.shownView ≠ .getReady ∧ c.isDone = false

def ForceEnabled (c : SheetClient) : Prop :=
  c.summary = none ∧ c.controller.shownView ≠ .getReady
    ∧ (c.isDone = true ∨ c.controller.timeRemaining ≤ 0) ∧ c.controller.enableForceRoundEnd = true

instance (c : SheetClient) (view : ViewType) : Decidable (c.Editing view) :=
  inferInstanceAs (Decidable (_ ∧ _))

instance (c : SheetClient) : Decidable c.DoneEnabled := inferInstanceAs (Decidable (_ ∧ _))

instance (c : SheetClient) : Decidable c.ForceEnabled := inferInstanceAs (Decidable (_ ∧ _))

def step (c : SheetClient) : Input → Option SheetClient
  | .tick newId =>
    if c.timer = true then do
      let result ← c.controller.checkTimer newId
      return c.update result
    else
      none
  | .appear =>
    if c.summary = none then some (c.update (c.controller.resetCountdown, [])) else none
  | .done newId =>
    if c.DoneEnabled then
      some ({ c with isDone := true }.update (c.controller.saveSheet newId))
    else
      none
  | .type guess =>
    if c.Editing .guessing then
      some (c.update ({ c.controller with guess := guess }, []))
    else
      none
  | .draw image =>
    if c.Editing .drawing then
      some (c.update ({ c.controller with canvasView := image }, []))
    else
      none
  | .force => if c.ForceEnabled then some (c.update c.controller.forceRoundEnd) else none
  | .raiseRoundNum v => do
    let roundNum ← c.roundNum.raise v
    return { c with roundNum := roundNum }
  | .deliverRoundNum => do
    let (v, roundNum) ← c.roundNum.deliver
    let result ← c.controller.handleDBDataRoundNum v
    return { c with roundNum := roundNum }.update result
  | .raiseRoundSheets n v => do
    let roundSheets ← (c.roundSheets n).raise v
    return { c with roundSheets := Function.update c.roundSheets n roundSheets }
  | .deliverRoundSheets n => do
    let (v, roundSheets) ← (c.roundSheets n).deliver
    let c := { c with roundSheets := Function.update c.roundSheets n roundSheets }
    return c.update (c.controller.handleDBDataRoundSheets v)
  | .answer k o db images authorId => do
    let (roundNum, authorNum) ← c.requests[k]?
    let sheets ← StorageControllerSheet.getReferenceSheet o db images c.controller.gameSettings.code
      roundNum authorNum authorId
    return { c with
      requests := c.requests.eraseIdx k
      replies := c.replies ++ sheets.map fun sheet => ((roundNum, authorNum), sheet) }
  | .reply k => do
    let (_, sheet) ← c.replies[k]?
    return { c with replies := c.replies.eraseIdx k }.update
      (c.controller.handleDBDataReferenceSheet sheet, [])

end SheetClient

end SCatCh
