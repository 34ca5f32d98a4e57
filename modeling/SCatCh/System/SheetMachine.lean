import SCatCh.Lib.TransitionSystem
import SCatCh.State.SheetLemmas
import SCatCh.System.SheetClient

/-!
This module contains `StateController_Sheet` as a machine of its own. Its methods are called by the
timer, by the screens it shows and by the database in any order and with any values.
-/

namespace SCatCh

open SubRootViewSheet

structure SheetMachine where
  controller : StateControllerSheet
  -- The sheets for which the storage controller was called, the latest first.
  saved : List Sheet := []
  -- The round numbers that the database has told, the latest first.
  delivered : List Int := []
  timer : Bool := false
  moved : Bool := false
  -- A screen has come up, but its `onAppear` has not run.
  pending : Bool := false
  -- Something was entered after the latest sheet was saved.
  unsaved : Bool := false
  deriving DecidableEq

namespace SheetMachine

def perform (s : SheetMachine) : StateControllerSheet.Effect → SheetMachine
  | .saveSheet _ sheet => { s with saved := sheet :: s.saved, unsaved := false }
  | .subscribe => { s with timer := true }
  | .unsubscribe => { s with timer := false }
  | .moveToStateSummary .. => { s with moved := true }
  | .observeRoundNum _ | .stopObservingRoundNum _ | .observeRoundSheets .. => s
  | .stopObservingRoundSheets .. | .getReferenceSheet .. | .updateRoundNum .. => s

def update (s : SheetMachine) (result : StateControllerSheet × List StateControllerSheet.Effect)
    : SheetMachine :=
  let pending := s.pending || result.1.shownView ≠ s.controller.shownView
  result.2.foldl perform { s with controller := result.1, pending := pending }

def create (gameSettings : GameSettings) (player : Player) (numOfPlayers : Int) (isHost : Bool)
    : SheetMachine :=
  let result := StateControllerSheet.init gameSettings player numOfPlayers isHost
  update { controller := result.1 } result

inductive Input where
  | tick (newId : UUID)
  | appear
  | done (newId : UUID)
  | type (guess : String)
  | draw (image : UIImage)
  | force
  | roundNum (roundNum : Int)
  | reference (sheet : Sheet)
  | roundSheets (numOfSavedSheets : Int)
  deriving DecidableEq

/-- The screens act on the controller until it hands over, the database also later. -/
def step (s : SheetMachine) : Input → Option SheetMachine
  | .tick newId =>
    if s.timer = true then do
      let result ← s.controller.checkTimer newId
      return s.update result
    else
      none
  | .appear =>
    if s.moved = false then
      some { s.update (s.controller.resetCountdown, []) with pending := false }
    else
      none
  | .done newId => if s.moved = false then some (s.update (s.controller.saveSheet newId)) else none
  | .type guess =>
    if s.moved = false ∧ s.controller.shownView = .guessing then
      some { s.update ({ s.controller with guess := guess }, []) with unsaved := true }
    else
      none
  | .draw image =>
    if s.moved = false ∧ s.controller.shownView = .drawing then
      some { s.update ({ s.controller with canvasView := image }, []) with unsaved := true }
    else
      none
  | .force => if s.moved = false then some (s.update s.controller.forceRoundEnd) else none
  | .roundNum v => do
    let result ← s.controller.handleDBDataRoundNum v
    return { s with delivered := v :: s.delivered }.update result
  | .reference sheet => some (s.update (s.controller.handleDBDataReferenceSheet sheet, []))
  | .roundSheets n => some (s.update (s.controller.handleDBDataRoundSheets n))

def system (gameSettings : GameSettings) (player : Player) (numOfPlayers : Int) (isHost : Bool)
    : TransitionSystem SheetMachine Input where
  init s := s = create gameSettings player numOfPlayers isHost
  step := step

/-! # What a step can do -/

def sheet (s : SheetMachine) (newId : UUID) : Sheet :=
  ⟨newId, s.controller.player, s.controller.roundNum,
    match s.controller.shownView with
    | .drawing => .drawing s.controller.canvasView
    | .guessing | .getReady => .guess s.controller.guess⟩

/-- What was entered on the sheet is cleared when it is handed in. -/
def handIn (s : SheetMachine) (newId : UUID) : SheetMachine :=
  { s with
    controller := { s.controller with
      guess := if s.controller.shownView = .drawing then s.controller.guess else ""
      canvasView := if s.controller.shownView = .drawing then .blank else s.controller.canvasView
      isContentSaved := true }
    saved := s.sheet newId :: s.saved
    unsaved := false }

def countdown (s : SheetMachine) : Int :=
  if s.controller.shownView = .getReady then 3 else s.controller.gameSettings.roundTime

def appear (s : SheetMachine) : SheetMachine :=
  { s with controller := { s.controller with timeRemaining := s.countdown }, pending := false }

def count (s : SheetMachine) : SheetMachine :=
  { s with controller := { s.controller with timeRemaining := s.controller.timeRemaining - 1 } }

def activity (roundNum : Int) : ViewType := if roundNum % 2 = 0 then .drawing else .guessing

theorem activity_ne (roundNum : Int) : activity roundNum ≠ .getReady := by
  unfold activity
  split <;> simp

def begin (s : SheetMachine) (v : Int) : SheetMachine :=
  { s with
    controller := { s.controller with
      roundNum := v
      referenceSheet := none
      isContentSaved := false
      enableForceRoundEnd := false
      getReadyMessage := StateControllerSheet.announcement v
      shownView := .getReady }
    delivered := v :: s.delivered
    pending := s.pending || ViewType.getReady ≠ s.controller.shownView }

def handOver (s : SheetMachine) (v : Int) : SheetMachine :=
  { s with
    controller := { s.controller with roundNum := v }
    delivered := v :: s.delivered
    timer := false
    moved := true }

def setReference (s : SheetMachine) (referenceSheet : Option Sheet) : SheetMachine :=
  { s with controller := { s.controller with referenceSheet := referenceSheet } }

def reference (s : SheetMachine) (newId : UUID) : Option Sheet :=
  if s.controller.referenceSheet = none ∧ s.controller.roundNum ≤ 1 then
    some ⟨newId, { id := newId }, 0, .drawing (.named "writeguess_image")⟩
  else
    s.controller.referenceSheet

def Writes (s : SheetMachine) : Input → Prop
  | .tick _ =>
    s.controller.timeRemaining = 0 ∧ s.controller.shownView ≠ .getReady
      ∧ s.controller.isContentSaved = false
  | .done _ => s.controller.shownView ≠ .getReady ∧ s.controller.isContentSaved = false
  | .appear | .type _ | .draw _ | .force | .roundNum _ | .reference _ | .roundSheets _ => False

instance (s : SheetMachine) (a : Input) : Decidable (s.Writes a) :=
  match a with
  | .tick _ => inferInstanceAs (Decidable (_ ∧ _))
  | .done _ => inferInstanceAs (Decidable (_ ∧ _))
  | .appear | .type _ | .draw _ | .force | .roundNum _ | .reference _ | .roundSheets _ =>
    inferInstanceAs (Decidable False)

inductive Next (s : SheetMachine) : Input → SheetMachine → Prop
  | lookUp (newId : UUID)
    : s.timer = true → 1 ≤ s.controller.timeRemaining
        → Next s (.tick newId) (s.setReference (s.reference newId)).count
  | turn (newId : UUID)
    : s.timer = true → s.controller.timeRemaining = 0 → s.controller.shownView = .getReady
        → Next s (.tick newId)
            { s with
              controller := { s.controller with
                referenceSheet := s.reference newId
                shownView := activity s.controller.roundNum }
              pending := true }.count
  | timeOut (newId : UUID)
    : s.timer = true → s.controller.timeRemaining = 0 → s.controller.shownView ≠ .getReady
        → s.controller.isContentSaved = false → Next s (.tick newId) (s.handIn newId).count
  | enable (newId : UUID)
    : s.timer = true → s.controller.timeRemaining = -5 → s.controller.shownView ≠ .getReady
        → Next s (.tick newId)
            { s with controller := { s.controller with enableForceRoundEnd := true } }.count
  | tick (newId : UUID)
    : s.timer = true → s.controller.timeRemaining ≤ 0
        → (s.controller.timeRemaining = 0
            → s.controller.shownView ≠ .getReady ∧ s.controller.isContentSaved = true)
        → (s.controller.timeRemaining = -5 → s.controller.shownView = .getReady)
        → Next s (.tick newId) s.count
  | appear : s.moved = false → Next s .appear s.appear
  | handIn (newId : UUID)
    : s.moved = false → s.controller.shownView ≠ .getReady → s.controller.isContentSaved = false
        → Next s (.done newId) (s.handIn newId)
  | skip (newId : UUID)
    : s.moved = false → s.controller.shownView = .getReady → s.controller.isContentSaved = false
        → Next s (.done newId) { s with controller := { s.controller with isContentSaved := true } }
  | done (newId : UUID)
    : s.moved = false → s.controller.isContentSaved = true → Next s (.done newId) s
  | type (guess : String)
    : s.moved = false → s.controller.shownView = .guessing
        → Next s (.type guess) { s with controller := { s.controller with guess := guess }, unsaved := true }
  | draw (image : UIImage)
    : s.moved = false → s.controller.shownView = .drawing
        → Next s (.draw image)
            { s with controller := { s.controller with canvasView := image }, unsaved := true }
  | force : s.moved = false → Next s .force s
  | sameRound (v : Int)
    : v = s.controller.roundNum → Next s (.roundNum v) { s with delivered := v :: s.delivered }
  | begin (v : Int)
    : v ≠ s.controller.roundNum → 1 ≤ v ∧ v ≤ s.controller.numOfRounds
        → Next s (.roundNum v) (s.begin v)
  | handOver (v : Int)
    : v ≠ s.controller.roundNum → ¬(1 ≤ v ∧ v ≤ s.controller.numOfRounds)
        → Next s (.roundNum v) (s.handOver v)
  | reference (sheet : Sheet) : Next s (.reference sheet) (s.setReference (some sheet))
  | roundSheets (n : Int) : Next s (.roundSheets n) s

/-! # A short game -/

def shortGame : TransitionSystem SheetMachine Input :=
  system { roundTime := 2, code := 123456, maxNumOfRounds := 3 } { id := .ofNat 1, number := 1 } 3 false

def getReady : List Input :=
  [.appear, .tick (.ofNat 20), .tick (.ofNat 21), .tick (.ofNat 22), .tick (.ofNat 23), .appear]

end SheetMachine

end SCatCh
