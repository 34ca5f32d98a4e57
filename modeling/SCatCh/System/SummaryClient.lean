import SCatCh.Lib.TransitionSystem
import SCatCh.State.Stacks
import SCatCh.Storage.Summary
import SCatCh.System.Ending

/-!
This module contains one device in the Summary state: its controller, the sheets on their way to it,
and `SummaryView`, in which the player swipes through the stacks while sheets may still come in.
-/

namespace SCatCh

open SubRootViewSummary

namespace SummaryView

inductive Body where
  | list (stack : List Sheet)
  | progressView
  deriving DecidableEq

/-- What is shown under the topic, or `none` if the subscript `sheetStacks[stackIndex]` traps. -/
def body (sheetStacks : List (List Sheet)) (stackIndex : Int) : Option Body :=
  if 0 < sheetStacks.length then
    if 0 ≤ stackIndex then sheetStacks[stackIndex.toNat]?.map .list else none
  else
    some .progressView

/-- `width` is that of the drag's translation, which is negative to the left. -/
def updateStackIndex (sheetStacks : List (List Sheet)) (stackIndex width : Int) : Option Int :=
  let stackIndex :=
    if width > 0 then
      stackIndex + (sheetStacks.length - 1)
    else if width < 0 then
      stackIndex + 1
    else
      stackIndex
  remainder stackIndex sheetStacks.length

end SummaryView

structure SummaryClient where
  controller : StateControllerSummary
  timer : Bool := true
  -- The games of which all sheets are to be read.
  requests : List Int := []
  -- The sheets read that have not been handed to the controller. Drawings are loaded one by one.
  arriving : List Sheet := []
  -- The state of the view.
  stackIndex : Int := 0
  -- Has the player gone back to the home screen?
  left : Bool := false

namespace SummaryClient

def perform (c : SummaryClient) : StateControllerSummary.Effect → SummaryClient
  | .getAllSheets code => { c with requests := c.requests ++ [code] }
  | .unsubscribe => { c with timer := false }

inductive Input where
  | tick
  | answer (k : Nat) (o : IterationOrder) (db : Database) (images : Images)
  | deliver (k : Nat)
  | drag (width : Int)
  | backToHome

def Shown (c : SummaryClient) : Prop := c.left = false ∧ c.controller.shownView = .summary

instance (c : SummaryClient) : Decidable c.Shown := inferInstanceAs (Decidable (_ ∧ _))

/-- The list, and with it the gesture, is there only if there are stacks. -/
def step (c : SummaryClient) : Input → Option SummaryClient
  | .tick =>
    if c.timer = true then
      let (controller, effects) := c.controller.checkTimer
      some (effects.foldl perform { c with controller := controller })
    else
      none
  | .answer k o db images => do
    let code ← c.requests[k]?
    let sheets ← StorageControllerSummary.getAllSheets o db images code
    return { c with requests := c.requests.eraseIdx k, arriving := c.arriving ++ sheets }
  | .deliver k => do
    let sheet ← c.arriving[k]?
    let controller ← c.controller.handleDBDataSheets sheet
    return { c with controller := controller, arriving := c.arriving.eraseIdx k }
  | .drag width =>
    if c.Shown ∧ 0 < c.controller.sheetStacks.length then do
      let stackIndex ← SummaryView.updateStackIndex c.controller.sheetStacks c.stackIndex width
      return { c with stackIndex := stackIndex }
    else
      none
  | .backToHome => if c.Shown then some { c with left := true } else none

def system (controller : StateControllerSummary) : TransitionSystem SummaryClient Input where
  init := fun c => c = { controller := controller }
  step := step

/-! # What has happened in a run -/

/-- The swipes to the left, less those to the right. -/
def turned : List (SummaryClient × Input) → Int
  | [] => 0
  | (_, .drag width) :: hist => turned hist + (if width > 0 then -1 else if width < 0 then 1 else 0)
  | _ :: hist => turned hist

def readBy (c : SummaryClient) : Input → List Sheet
  | .answer k o db images =>
    ((c.requests[k]?).bind fun code => StorageControllerSummary.getAllSheets o db images code).getD []
  | _ => []

def answered : List (SummaryClient × Input) → Nat
  | [] => 0
  | (_, .answer ..) :: hist => answered hist + 1
  | _ :: hist => answered hist

/-- All the sheets that were read. -/
def sheetsRead (hist : List (SummaryClient × Input)) : List Sheet :=
  hist.flatMap fun x => readBy x.1 x.2

/-! # The invariant -/

variable {gameSettings : GameSettings} {numOfRounds numOfPlayers : Int} {c c' : SummaryClient}
  {hist : List (SummaryClient × Input)} {a : Input}

structure Inv (gameSettings : GameSettings) (numOfRounds numOfPlayers : Int)
    (hist : List (SummaryClient × Input)) (c : SummaryClient)
    : Prop where
  gameSettings_eq : c.controller.gameSettings = gameSettings
  rounds : c.controller.numOfRounds = numOfRounds
  players : c.controller.numOfPlayers = numOfPlayers
  display : c.controller.sheetStacks
    = if c.controller.sheets = [] then [] else (closedRange 1 numOfPlayers).map c.controller.stackOf
  index : c.stackIndex = turned hist % numOfPlayers
  sheets : (c.controller.sheets ++ c.arriving).Perm (sheetsRead hist)
  requests : ∀ code ∈ c.requests, code = gameSettings.code
  once : c.requests.length + answered hist + (if c.timer then 1 else 0) = 1

namespace Inv

theorem create
    : Inv gameSettings numOfRounds numOfPlayers []
        { controller := .init gameSettings numOfRounds numOfPlayers } where
  gameSettings_eq := rfl
  rounds := rfl
  players := rfl
  display := rfl
  index := rfl
  sheets := .refl []
  requests := by simp
  once := rfl

theorem tick (h : Inv gameSettings numOfRounds numOfPlayers hist c) (hstep : c.step .tick = some c')
    : Inv gameSettings numOfRounds numOfPlayers ((c, .tick) :: hist) c' := by
  simp only [step, Option.ite_none_right_eq_some] at hstep
  obtain ⟨htimer, hstep⟩ := hstep
  have honce := h.once
  rw [if_pos htimer] at honce
  unfold StateControllerSummary.checkTimer at hstep
  split at hstep
  . simp only [List.foldl_cons, List.foldl_nil, perform, Option.some.injEq] at hstep
    subst hstep
    refine ⟨h.gameSettings_eq, h.rounds, h.players, h.display, h.index, h.sheets, ?_, ?_⟩
    . intro code hcode
      rw [List.mem_append, List.mem_singleton] at hcode
      rcases hcode with hcode | rfl
      . exact h.requests code hcode
      . rw [h.gameSettings_eq]
    . simp only [List.length_append, List.length_singleton, answered, Bool.false_eq_true, if_false]
      omega
  . simp only [List.foldl_nil, Option.some.injEq] at hstep
    subst hstep
    exact ⟨h.gameSettings_eq, h.rounds, h.players, h.display, h.index, h.sheets, h.requests, h.once⟩

theorem answer (h : Inv gameSettings numOfRounds numOfPlayers hist c) {k : Nat} {o : IterationOrder}
    {db : Database} {images : Images} (hstep : c.step (.answer k o db images) = some c')
    : Inv gameSettings numOfRounds numOfPlayers ((c, .answer k o db images) :: hist) c' := by
  simp only [step, Option.bind_eq_bind, Option.bind_eq_some_iff, Option.pure_def,
    Option.some.injEq] at hstep
  obtain ⟨code, hcode, sheets, hsheets, rfl⟩ := hstep
  have hlt := (List.getElem?_eq_some_iff.1 hcode).1
  refine ⟨h.gameSettings_eq, h.rounds, h.players, h.display, h.index, ?_, ?_, ?_⟩
  . have hread : readBy c (.answer k o db images) = sheets := by simp [readBy, hcode, hsheets]
    rw [sheetsRead, List.flatMap_cons, hread, ← List.append_assoc]
    exact (h.sheets.append_right sheets).trans List.perm_append_comm
  . intro code' hmem
    exact h.requests code' (List.mem_of_mem_eraseIdx hmem)
  . have honce := h.once
    simp only [List.length_eraseIdx_of_lt hlt, answered]
    omega

theorem deliver (h : Inv gameSettings numOfRounds numOfPlayers hist c) (hrounds : 1 ≤ numOfRounds)
    (hle : numOfRounds ≤ numOfPlayers) {k : Nat} (hstep : c.step (.deliver k) = some c')
    : Inv gameSettings numOfRounds numOfPlayers ((c, .deliver k) :: hist) c' := by
  simp only [step, Option.bind_eq_bind, Option.bind_eq_some_iff, Option.pure_def,
    Option.some.injEq] at hstep
  obtain ⟨sheet, hsheet, controller, hhandle, rfl⟩ := hstep
  rw [StateControllerSummary.handleDBDataSheets_eq (by rw [h.rounds]; exact hrounds)
    (by rw [h.rounds, h.players]; exact hle), Option.some.injEq] at hhandle
  subst hhandle
  obtain ⟨hlt, rfl⟩ := List.getElem?_eq_some_iff.1 hsheet
  refine ⟨h.gameSettings_eq, h.rounds, h.players, ?_, h.index, ?_, h.requests, h.once⟩
  . rw [if_neg (by simp), h.players]
    rfl
  . apply List.Perm.trans _ h.sheets
    rw [List.append_assoc]
    exact (List.getElem_cons_eraseIdx_perm hlt).append_left _

theorem length_sheetStacks (h : Inv gameSettings numOfRounds numOfPlayers hist c) (hpos : 1 ≤ numOfPlayers)
    (hstacks : 0 < c.controller.sheetStacks.length)
    : (c.controller.sheetStacks.length : Int) = numOfPlayers := by
  have hdisplay := h.display
  split at hdisplay
  . rw [hdisplay] at hstacks
    simp at hstacks
  . rw [hdisplay, List.length_map, length_closedRange]
    omega

theorem drag (h : Inv gameSettings numOfRounds numOfPlayers hist c) (hpos : 1 ≤ numOfPlayers)
    {width : Int} (hstep : c.step (.drag width) = some c')
    : Inv gameSettings numOfRounds numOfPlayers ((c, .drag width) :: hist) c' := by
  simp only [step, Option.ite_none_right_eq_some, Option.bind_eq_bind, Option.bind_eq_some_iff,
    Option.pure_def, Option.some.injEq] at hstep
  obtain ⟨⟨-, hstacks⟩, stackIndex, hindex, rfl⟩ := hstep
  refine ⟨h.gameSettings_eq, h.rounds, h.players, h.display, ?_, h.sheets, h.requests, h.once⟩
  have hnonneg := Int.emod_nonneg (turned hist) (b := numOfPlayers) (by omega)
  rw [← h.index] at hnonneg
  simp only [SummaryView.updateStackIndex, h.length_sheetStacks hpos hstacks] at hindex
  rw [remainder_of_nonneg (by split <;> (try split) <;> omega) (by omega), Option.some.injEq] at hindex
  rw [← hindex, turned, h.index]
  split
  . rw [Int.emod_add_emod, ← Int.add_sub_assoc, Int.sub_eq_add_neg, Int.add_right_comm, Int.add_emod_right]
  . split
    . exact Int.emod_add_emod ..
    . rw [add_zero, Int.emod_emod]

theorem step (h : Inv gameSettings numOfRounds numOfPlayers hist c) (hrounds : 1 ≤ numOfRounds)
    (hle : numOfRounds ≤ numOfPlayers) (hstep : c.step a = some c')
    : Inv gameSettings numOfRounds numOfPlayers ((c, a) :: hist) c' := by
  cases a with
  | tick => exact h.tick hstep
  | answer k o db images => exact h.answer hstep
  | deliver k => exact h.deliver hrounds hle hstep
  | drag width => exact h.drag (by omega) hstep
  | backToHome =>
    simp only [SummaryClient.step, Option.ite_none_right_eq_some, Option.some.injEq] at hstep
    obtain ⟨-, rfl⟩ := hstep
    exact ⟨h.gameSettings_eq, h.rounds, h.players, h.display, h.index, h.sheets, h.requests, h.once⟩

theorem run {ok : SummaryClient → Input → Prop} (hrounds : 1 ≤ numOfRounds)
    (hle : numOfRounds ≤ numOfPlayers)
    (hrun : (system (.init gameSettings numOfRounds numOfPlayers)).Run ok hist c)
    : Inv gameSettings numOfRounds numOfPlayers hist c := by
  apply hrun.induct
  . rintro c rfl
    exact create
  . intro hist c a c' h _ hstep
    exact h.step hrounds hle hstep

/-- The subscript is in bounds, and it is that of the stack the player has turned to. -/
theorem body_eq (h : Inv gameSettings numOfRounds numOfPlayers hist c) (hpos : 1 ≤ numOfPlayers)
    : SummaryView.body c.controller.sheetStacks c.stackIndex
        =
      some (if c.controller.sheets = [] then
        .progressView
      else
        .list (c.controller.stackOf (turned hist % numOfPlayers + 1))) := by
  have hnonneg := Int.emod_nonneg (turned hist) (b := numOfPlayers) (by omega)
  have hlt := Int.emod_lt_of_pos (turned hist) (b := numOfPlayers) (by omega)
  unfold SummaryView.body
  rw [h.display, h.index]
  split
  . rfl
  . have hlength : 0 < ((closedRange 1 numOfPlayers).map c.controller.stackOf).length := by
      rw [List.length_map, length_closedRange]
      omega
    have hplayer : (closedRange 1 numOfPlayers)[(turned hist % numOfPlayers).toNat]?
        = some (turned hist % numOfPlayers + 1) := by
      unfold closedRange
      rw [List.getElem?_map, List.getElem?_range (by omega), Option.map_some, Option.some.injEq]
      omega
    rw [if_pos hlength, List.getElem?_map, hplayer]
    rfl

end Inv

/--
However the ticks, the sheets that come in, in any order, and the swipes of the player interleave:
all sheets are read once, none is lost or handed over twice, handing one over never traps, and the
view shows the stack the player has turned to, with all the sheets of it that have come in.
-/
theorem shows_stack (gameSettings : GameSettings) (numOfRounds numOfPlayers : Int)
    (hrounds : 1 ≤ numOfRounds) (hle : numOfRounds ≤ numOfPlayers)
    (hist : List (SummaryClient × Input)) (c : SummaryClient)
    (hrun : (system (.init gameSettings numOfRounds numOfPlayers)).Run (fun _ _ => True) hist c)
    : SummaryView.body c.controller.sheetStacks c.stackIndex
        =
      some (if c.controller.sheets = [] then
        .progressView
      else
        .list (c.controller.stackOf (turned hist % numOfPlayers + 1)))
        ∧
      (c.controller.sheets ++ c.arriving).Perm (sheetsRead hist)
        ∧
      c.requests.length + answered hist ≤ 1
        ∧
      ∀ k, k < c.arriving.length → (c.step (.deliver k)).isSome = true := by
  have h := Inv.run hrounds hle hrun
  refine ⟨h.body_eq (by omega), h.sheets, ?_, ?_⟩
  . have := h.once
    omega
  . intro k hk
    simp only [step, List.getElem?_eq_getElem hk, Option.bind_eq_bind, Option.bind_some]
    rw [StateControllerSummary.handleDBDataSheets_eq (by rw [h.rounds]; exact hrounds)
      (by rw [h.rounds, h.players]; exact hle)]
    rfl

/-- The last sheet comes in first, and the player swipes to the right before the others come. -/
theorem shows_stack_swiped
    : ∃ (hist : List (SummaryClient × Input)) (c : SummaryClient),
        (turned hist = -1 ∧ c.arriving.length = 1)
          ∧
        SummaryView.body c.controller.sheetStacks c.stackIndex
          =
        some (if c.controller.sheets = [] then
          .progressView
        else
          .list (c.controller.stackOf (turned hist % 2 + 1))) := by
  obtain ⟨hist, c, hrun, hc⟩ := TransitionSystem.exists_run_of_exec (fun _ _ => True)
    (S := system (.init Play.duoTable.gameSettings 2 2))
    (P := fun hist c => turned hist = -1 ∧ c.arriving.length = 1)
    rfl
    [.tick, .tick, .tick, .tick,
      .answer 0 .listed (SCatCh.saved 123456 twoRoundsStored (numberedGame 123456 2 2))
        (uploaded 123456 twoRoundsStored fun _ => none),
      .deliver 2, .drag 60, .deliver 0]
    (by decide +kernel)
  exact ⟨hist, c, hc, (shows_stack Play.duoTable.gameSettings 2 2 (by decide) (by decide) hist c hrun).1⟩

/-! # The summary of an ordinary game -/

theorem stackOf_of_perm {controller : StateControllerSummary} {sheets : List Sheet}
    (hrounds : controller.numOfRounds = numOfRounds) (hplayers : controller.numOfPlayers = numOfPlayers)
    (hperm : controller.sheets.Perm sheets)
    (hslots : (sheets.map StateControllerSummary.slot).Nodup) (playerNum : Int)
    : controller.stackOf playerNum
        =
      (StateControllerSummary.holding gameSettings numOfRounds numOfPlayers sheets).stackOf playerNum := by
  subst hrounds hplayers
  apply List.filterMap_congr
  intro roundNum _
  exact StateControllerSummary.sheetOf_perm (c := controller) hperm
    ((hperm.map StateControllerSummary.slot).nodup_iff.2 hslots)

theorem sheetsRead_cons (x : SummaryClient × Input) (hist : List (SummaryClient × Input))
    : sheetsRead (x :: hist) = readBy x.1 x.2 ++ sheetsRead hist :=
  List.flatMap_cons

/-- All that was read comes from the one answer, if there was one. -/
theorem sheetsRead_of_answered {ok : SummaryClient → Input → Prop} (hrounds : 1 ≤ numOfRounds)
    (hle : numOfRounds ≤ numOfPlayers)
    (hrun : (system (.init gameSettings numOfRounds numOfPlayers)).Run ok hist c)
    : (answered hist = 0 → sheetsRead hist = [])
        ∧
      (answered hist = 1 → ∃ c k o db images,
        ok c (.answer k o db images)
          ∧
        StorageControllerSummary.getAllSheets o db images gameSettings.code = some (sheetsRead hist)) := by
  induction hrun with
  | init _ => simp [answered, sheetsRead]
  | @step hist c c' a hr hok hstep ih =>
    have hinv := Inv.run hrounds hle hr
    rw [sheetsRead_cons]
    cases a with
    | answer k o db images =>
      simp only [SummaryClient.system, SummaryClient.step, Option.bind_eq_bind,
        Option.bind_eq_some_iff] at hstep
      obtain ⟨code, hcode, sheets, hsheets, -⟩ := hstep
      simp only [answered, readBy, hcode, hsheets, Option.bind_some, Option.getD_some]
      refine ⟨by omega, ?_⟩
      intro hone
      rw [ih.1 (by omega), List.append_nil, ← hinv.requests code (List.mem_of_getElem? hcode)]
      exact ⟨c, k, o, db, images, hok, hsheets⟩
    | _ => simpa [answered, readBy] using ih

end SummaryClient

namespace Play

open SummaryClient

variable {ι : Type} [Fintype ι] [DecidableEq ι]

/-- The sheets are read from the database as it is now, when all images have been uploaded. -/
def Reads (s : Play ι) : SummaryClient → Input → Prop
  | _, .answer _ _ db images =>
    db = s.db ∧ ∀ j, ∀ u ∈ (s.clients j).uploads, images.getData u.1 imageMaxSize = some u.2
  | _, _ => True

instance (s : Play ι) (c : SummaryClient) (a : Input) : Decidable (s.Reads c a) :=
  match a with
  | .answer _ _ db images => inferInstanceAs (Decidable (db = s.db ∧ ∀ j, ∀ u ∈ (s.clients j).uploads,
      images.getData u.1 imageMaxSize = some u.2))
  | .tick | .deliver _ | .drag _ | .backToHome => inferInstanceAs (Decidable True)

/--
The view shows a stack with one sheet for each round, and each is the one that the author whose turn it
was has handed in.
-/
def ShowsChain (s : Play ι) (T : Table ι) (numOfPlayers numOfRounds playerNum : Int)
    (body : Option SummaryView.Body)
    : Prop :=
  ∃ shown : Int → Sheet,
    body = some (.list ((closedRange 1 numOfRounds).map shown))
      ∧
    ∀ n, 1 ≤ n → n ≤ numOfRounds →
      SheetMachine.kind (shown n) = SheetMachine.activity n
        ∧
      ∃ j, (T.player j).number = stackAuthor numOfPlayers playerNum n
        ∧ ∃ x ∈ (s.clients j).saved, x.number = n ∧ (shown n).record = x.record

/--
At the end of an ordinary game, whatever the order in which the sheets come in and however the player
swipes: once all have come in, the stack in view is complete.
-/
theorem showsChain_of_finished (T : Table ι) (host : ι) (numOfPlayers : Int)
    (hroster : T.FixedRoster host numOfPlayers) (hmax : 1 ≤ T.gameSettings.maxNumOfRounds)
    (hnine : T.numOfRounds host ≤ 9)
    (hist : List (Play ι × Action ι)) (s : Play ι)
    (hrun : (system T (Numbered T numOfPlayers)).Run NoForce hist s)
    (i : ι) (c : StateControllerSummary) (hsummary : (s.clients i).summary = some c)
    (hsent : i = host → (s.clients i).outbox = [])
    (hist' : List (SummaryClient × Input)) (d : SummaryClient)
    (hread : (SummaryClient.system c).Run s.Reads hist' d)
    (hanswered : answered hist' = 1) (harrived : d.arriving = [])
    : s.ShowsChain T numOfPlayers (T.numOfRounds host) (turned hist' % numOfPlayers + 1)
        (SummaryView.body d.controller.sheetStacks d.stackIndex) := by
  obtain ⟨b, h, hahead⟩ := PlayInv.run (fun _ hs => hs.playing) hroster hmax hrun
  obtain ⟨hrounds, hpos, hone, hle⟩ := rounds_of_roster hroster hmax i
  have hb := h.oncePerRound hroster h.stored
  have hall := h.complete_of_finished hahead hrounds (by simp [core, SheetClient.core, hsummary]) hsent
  -- The controller begins with the values of the table.
  obtain rfl := (OutcomeInv.run hrun).summary_eq h.seated hroster hsummary
  rw [hrounds] at hread hsummary
  have hinv := Inv.run hone hle hread
  obtain ⟨-, k, o, db, images, ⟨rfl, himages⟩, hout⟩ :=
    (sheetsRead_of_answered hone hle hread).2 hanswered
  obtain ⟨out, -, hout', -, -, hperm⟩ :=
    OutcomeInv.read hroster hmax hnine hrun h.seated h.represents h.stored hb hsummary o himages
  obtain rfl : out = sheetsRead hist' := Option.some.inj (hout'.symm.trans hout)
  obtain ⟨hne, shown, hstacks, hshown⟩ := h.shown_of_records hroster hmax hall
    (fun _ _ hx => kind_of_mem_saved (fun _ hs => hs.playing.clients) hrun hx) hperm
  have hsheets := hinv.sheets
  rw [harrived, List.append_nil] at hsheets
  have hcame : d.controller.sheets ≠ [] := by
    intro hnil
    rw [hnil, List.nil_perm] at hsheets
    exact hne hsheets
  refine ⟨shown (turned hist' % numOfPlayers + 1), ?_, ?_⟩
  . rw [hinv.body_eq hpos, if_neg hcame, ← hstacks,
      stackOf_of_perm hinv.rounds hinv.players hsheets (hb.nodup_slots hperm)]
  . intro n hn hlast
    exact hshown _ n hn hlast

/-- The player swipes to the right before anything has come in, and again between two sheets. -/
def swipes (db : Database) : List Input :=
  [.tick, .tick, .tick, .tick, .answer 0 .listed db (fun _ => some []), .deliver 3, .drag 60,
    .deliver 0, .drag 70, .deliver 1, .drag 80, .deliver 0]

end Play

end SCatCh
