import SCatCh.State.Stacks
import SCatCh.System.Arithmetic
import SCatCh.System.OrdinaryPlay
import SCatCh.System.Pace

/-!
This module contains what the players get to see at the end of a game. The devices, the database, the
summary's reader and the stacks it builds are taken together.
-/

namespace SCatCh

/-! # What a device hands on -/

namespace SheetClient

variable {c c' : SheetClient} {a : Input}

/-- The image of every drawing was sent, and the summary was created for the same game. -/
structure HandsOn (c : SheetClient) : Prop where
  uploads : ∀ x ∈ c.saved, ∀ image, x.content = .drawing image →
    (drawingPath x.id.uuidString, image.jpegData) ∈ c.uploads
  summary : ∀ m, c.summary = some m →
    m = .init c.controller.gameSettings c.controller.numOfRounds c.controller.numOfPlayers

namespace HandsOn

theorem save (h : c.HandsOn) {k : StateControllerSheet} {code : Int} {sheet : Sheet}
    (hgameSettings : k.gameSettings = c.controller.gameSettings)
    (hnumOfRounds : k.numOfRounds = c.controller.numOfRounds)
    (hnumOfPlayers : k.numOfPlayers = c.controller.numOfPlayers)
    : (c.update (k, [.saveSheet code sheet])).HandsOn := by
  refine ⟨?_, ?_⟩
  . intro x hx image himage
    simp only [update, List.foldl_cons, List.foldl_nil, perform, refresh_saved, refresh_uploads,
      List.mem_cons, List.mem_append, Option.mem_toList] at hx ⊢
    rcases hx with rfl | hx
    . exact .inr (StorageControllerSheet.saveSheet_snd_eq_some.2 ⟨image, himage, rfl⟩)
    . exact .inl (h.uploads x hx image himage)
  . simpa [update, perform, hgameSettings, hnumOfRounds, hnumOfPlayers] using h.summary

theorem next (h : c.HandsOn) (hnext : Next c a c') : c'.HandsOn := by
  cases hnext with
  | timeOut => exact h.save rfl rfl rfl
  | handIn =>
    have hdone : HandsOn { c with isDone := true } := ⟨h.uploads, h.summary⟩
    exact hdone.save rfl rfl rfl
  | handOver =>
    refine ⟨by simpa [update] using h.uploads, ?_⟩
    simp [update]
  | _ => exact ⟨by simpa [update, perform] using h.uploads, by simpa [update, perform] using h.summary⟩

end HandsOn

end SheetClient

/-! # What the summary reads -/

theorem record_readBack {players : List Player} {x : Sheet}
    (hauthor : (authorOf players x).number = x.author.number) (hlow : 0 ≤ x.number)
    (hhigh : x.number ≤ 9)
    : (readBack players x).record = x.record := by
  have hdigit : x.number % 10 = x.number := by omega
  simp [readBack, Sheet.record, hauthor, hdigit]

/-- The reader gets the sheets of the board, each of them once. -/
theorem getAllSheets_board {db : Database} {images : Images} {code numOfPlayers : Int} {b : Board}
    (o : IterationOrder) (hpos : 1 ≤ numOfPlayers) (hroster : Roster db code numOfPlayers)
    (hrep : Board.Represents db code b) (hb : b.OncePerRound numOfPlayers)
    (himages : Downloadable images b.sheets)
    (hnumbers : ∀ x ∈ b.sheets, 0 ≤ x.number ∧ x.number ≤ 9)
    : ∃ out,
        StorageControllerSummary.getAllSheets o db images code = some out
          ∧ (out.map Sheet.record).Perm (b.sheets.dedup.map Sheet.record) := by
  have hmem : ∀ x, x ∈ b.sheets.dedup ↔ x ∈ b.sheets := fun _ => List.mem_dedup
  have hids : (b.sheets.dedup.map Sheet.id).Nodup := by
    apply List.Nodup.map_on _ (List.nodup_dedup _)
    intro x hx y hy hid
    exact hb.ids x ((hmem x).1 hx) y ((hmem y).1 hy) hid
  obtain ⟨out, players, hout, hperm, hauthor⟩ := getAllSheets_stored o hpos hroster
    (hrep.stored.of_mem_iff hmem) hids (fun x hx => himages x ((hmem x).1 hx))
    (fun x hx => hb.author x ((hmem x).1 hx)) (fun x hx => (hnumbers x ((hmem x).1 hx)).1)
  refine ⟨out, hout, (hperm.map Sheet.record).trans ?_⟩
  rw [List.map_map]
  apply List.Perm.of_eq
  apply List.map_congr_left
  intro x hx
  obtain ⟨hlow, hhigh⟩ := hnumbers x ((hmem x).1 hx)
  exact record_readBack (hauthor x hx) hlow hhigh

section Records

variable {numOfPlayers : Int} {b : Board} {out : List Sheet}

theorem Board.OncePerRound.nodup_ids (hb : b.OncePerRound numOfPlayers)
    (hperm : (out.map Sheet.record).Perm (b.sheets.dedup.map Sheet.record))
    : (out.map Sheet.id).Nodup := by
  have hids := hperm.map Prod.fst
  rw [List.map_map, List.map_map] at hids
  refine hids.nodup_iff.2 (List.Nodup.map_on ?_ (List.nodup_dedup _))
  intro x hx y hy hid
  exact hb.ids x (List.mem_dedup.1 hx) y (List.mem_dedup.1 hy) hid

theorem Board.OncePerRound.nodup_slots (hb : b.OncePerRound numOfPlayers)
    (hperm : (out.map Sheet.record).Perm (b.sheets.dedup.map Sheet.record))
    : (out.map StateControllerSummary.slot).Nodup := by
  have hslots := hperm.map fun r => (r.2.2.1, r.2.1)
  rw [List.map_map, List.map_map] at hslots
  refine hslots.nodup_iff.2 (List.Nodup.map_on ?_ (List.nodup_dedup _))
  intro x hx y hy hslot
  simp only [Function.comp_apply, Sheet.record, Prod.mk.injEq] at hslot
  exact hb.once x (List.mem_dedup.1 hx) y (List.mem_dedup.1 hy) hslot.1 hslot.2

theorem mem_records (hperm : (out.map Sheet.record).Perm (b.sheets.dedup.map Sheet.record))
    (r : UUID × Int × Int × Content)
    : r ∈ out.map Sheet.record ↔ ∃ x ∈ b.sheets, x.record = r := by
  rw [hperm.mem_iff, List.mem_map]
  simp only [List.mem_dedup]

theorem Board.OncePerRound.authors_of_records (hb : b.OncePerRound numOfPlayers)
    (hperm : (out.map Sheet.record).Perm (b.sheets.dedup.map Sheet.record))
    : ∀ x ∈ out, 1 ≤ x.author.number ∧ x.author.number ≤ numOfPlayers := by
  intro x hx
  obtain ⟨y, hy, hrecord⟩ := (mem_records hperm x.record).1 (List.mem_map_of_mem hx)
  rw [← (Sheet.record_inj.1 hrecord).2.1]
  exact hb.author y hy

end Records

namespace StateControllerSummary

theorem mem_stacks_iff {c : StateControllerSummary}
    (hauthors : ∀ x ∈ c.sheets, 1 ≤ x.author.number ∧ x.author.number ≤ c.numOfPlayers)
    (hslots : (c.sheets.map slot).Nodup) (x : Sheet)
    : x ∈ (closedRange 1 c.numOfPlayers).flatMap c.stackOf
        ↔
      x ∈ c.sheets ∧ 1 ≤ x.number ∧ x.number ≤ c.numOfRounds := by
  rw [List.mem_flatMap]
  constructor
  . rintro ⟨playerNum, -, hx⟩
    rw [mem_stackOf] at hx
    exact ⟨(sheetOf_eq_some hx.2).1, hx.1⟩
  . rintro ⟨hx, hround⟩
    obtain ⟨playerNum, hplayer, hstack⟩ := exists_stackAuthor (hauthors x hx) x.number
    refine ⟨playerNum, mem_closedRange.2 hplayer, ?_⟩
    rw [mem_stackOf]
    exact ⟨hround, sheetOf_of_slot hslots hx hstack.symm⟩

def holding (gameSettings : GameSettings) (numOfRounds numOfPlayers : Int) (sheets : List Sheet)
    : StateControllerSummary :=
  { init gameSettings numOfRounds numOfPlayers with sheets := sheets }

/-- Before the first sheet there are no stacks. -/
def Displays (gameSettings : GameSettings) (numOfRounds numOfPlayers : Int) (sheets : List Sheet)
    (c : StateControllerSummary)
    : Prop :=
  c.sheetStacks
    =
  if sheets = [] then
    []
  else
    (closedRange 1 numOfPlayers).map (holding gameSettings numOfRounds numOfPlayers sheets).stackOf

theorem receive_init (gameSettings : GameSettings) {numOfRounds numOfPlayers : Int}
    (hrounds : 1 ≤ numOfRounds) (hle : numOfRounds ≤ numOfPlayers) (sheets : List Sheet)
    : ∃ c,
        (init gameSettings numOfRounds numOfPlayers).receive sheets = some c
          ∧
        c.Displays gameSettings numOfRounds numOfPlayers sheets := by
  by_cases hnil : sheets = []
  . subst hnil
    exact ⟨_, rfl, rfl⟩
  . have hreceive := receive_eq (c := init gameSettings numOfRounds numOfPlayers) hrounds hle hnil
    exact ⟨_, hreceive, (if_neg hnil).symm⟩

section Shown

variable {gameSettings : GameSettings} {numOfRounds numOfPlayers : Int} {sheets : List Sheet}
  {c : StateControllerSummary}

theorem mem_flatten_sheetStacks
    (hstacks : c.Displays gameSettings numOfRounds numOfPlayers sheets)
    (hauthors : ∀ x ∈ sheets, 1 ≤ x.author.number ∧ x.author.number ≤ numOfPlayers)
    (hslots : (sheets.map slot).Nodup) (x : Sheet)
    : x ∈ c.sheetStacks.flatten ↔ x ∈ sheets ∧ 1 ≤ x.number ∧ x.number ≤ numOfRounds := by
  unfold Displays at hstacks
  rw [hstacks]
  split
  . next hnil => simp [hnil]
  . rw [← List.flatMap_def]
    exact mem_stacks_iff (c := holding gameSettings numOfRounds numOfPlayers sheets) hauthors hslots x

theorem nodup_flatten_sheetStacks
    (hstacks : c.Displays gameSettings numOfRounds numOfPlayers sheets)
    : c.sheetStacks.flatten.Nodup := by
  unfold Displays at hstacks
  rw [hstacks]
  split
  . simp
  . rw [← List.flatMap_def]
    exact nodup_flatMap_stackOf (holding gameSettings numOfRounds numOfPlayers sheets)

theorem stack_of_getElem?
    (hstacks : c.Displays gameSettings numOfRounds numOfPlayers sheets)
    {k : Nat} {stack : List Sheet} (hk : c.sheetStacks[k]? = some stack)
    : stack.Pairwise (fun x y => x.number < y.number)
        ∧
      ∀ x ∈ stack, x.author.number = stackAuthor numOfPlayers (k + 1) x.number := by
  unfold Displays at hstacks
  rw [hstacks] at hk
  split at hk
  . simp at hk
  . rw [List.getElem?_map, Option.map_eq_some_iff] at hk
    obtain ⟨playerNum, hplayer, rfl⟩ := hk
    have hnum : playerNum = k + 1 := by
      unfold closedRange at hplayer
      rw [List.getElem?_map, Option.map_eq_some_iff] at hplayer
      obtain ⟨j, hj, rfl⟩ := hplayer
      rw [List.getElem?_eq_some_iff] at hj
      obtain ⟨-, rfl⟩ := hj
      rw [List.getElem_range]
      omega
    subst hnum
    refine ⟨pairwise_stackOf _ _, ?_⟩
    intro x hx
    exact (sheetOf_eq_some (mem_stackOf.1 hx).2).2.2

end Shown

end StateControllerSummary

/-! # The end of a game -/

namespace Play

variable {ι : Type} [Fintype ι] [DecidableEq ι] {T : Table ι} {host : ι} {numOfPlayers : Int}
  {s t : Play ι} {a : Action ι} {b : Board}

/-- The players have their numbers, and all devices have just entered the Sheet state. -/
structure Numbered (T : Table ι) (numOfPlayers : Int) (s : Play ι) : Prop where
  playing : Playing T s
  roster : Roster s.db T.code numOfPlayers

variable (T numOfPlayers) in
structure OutcomeInv (s : Play ι) : Prop where
  handsOn : ∀ i, (s.clients i).HandsOn
  entered : ∀ i, s.entered i = true
  starts : ∀ i, s.starts i = 0
  outbox : ∀ i, ∀ w ∈ (s.core i).outbox,
    (∃ x, w = .sheet T.code x) ∨ (∃ v, w = .roundNum T.code v)
  roster : Roster s.db T.code numOfPlayers

namespace OutcomeInv

omit [Fintype ι] [DecidableEq ι] in
theorem numbered (h : Numbered T numOfPlayers s) : OutcomeInv T numOfPlayers s where
  handsOn := by
    intro i
    rw [h.playing.clients]
    refine ⟨?_, ?_⟩ <;> simp [Table.create, SheetClient.create, SheetClient.update,
      SheetClient.perform, StateControllerSheet.init, SheetClient.refresh]
  entered := h.playing.entered
  starts := h.playing.starts
  outbox := by
    intro i
    have houtbox : (s.core i).outbox = [] := by
      rw [core, h.playing.clients]
      rfl
    simp [houtbox]
  roster := h.roster

theorem step (h : OutcomeInv T numOfPlayers s) (hseated : ∀ i, Seated T i (s.core i))
    (hstep : s.step T a = some t)
    : OutcomeInv T numOfPlayers t := by
  have hhands : ∀ i, (t.clients i).HandsOn := by
    intro i
    rcases clients_of_step hstep i with ⟨ws, heq⟩ | ⟨b, hb⟩
    . rw [heq]
      exact ⟨(h.handsOn i).uploads, (h.handsOn i).summary⟩
    . exact (h.handsOn i).next (SheetClient.next_of_step hb)
  cases a with
  | device i b =>
    obtain ⟨-, -, hdb, hentered, hstarts, k, hnext, hcore⟩ := step_device hstep
    refine ⟨hhands, by rw [hentered]; exact h.entered, by rw [hstarts]; exact h.starts, ?_,
      by rw [hdb]; exact h.roster⟩
    apply forall_core hcore (P := fun _ k => ∀ w ∈ k.outbox,
      (∃ x, w = .sheet T.code x) ∨ (∃ v, w = .roundNum T.code v)) _ h.outbox
    have hcode : (s.core i).gameSettings.code = T.code := by
      rw [(hseated i).gameSettings]
      rfl
    intro w hw
    rcases hnext.saves with ⟨newId, content, -, rfl⟩ | ⟨-, ws, hout, hws⟩
    . simp only [Core.save, List.mem_append, List.mem_singleton, hcode] at hw
      rcases hw with hw | rfl
      . exact h.outbox i w hw
      . exact .inl ⟨_, rfl⟩
    . rw [hout, List.mem_append] at hw
      rcases hw with hw | hw
      . exact h.outbox i w hw
      . rw [← hcode]
        exact .inr (hws w hw)
  | process i =>
    obtain ⟨w, ws, hw, hdb, hentered, hstarts, hcore⟩ := step_process hstep
    refine ⟨hhands, by rw [hentered]; exact h.entered, by rw [hstarts]; exact h.starts, ?_, ?_⟩
    . apply forall_core hcore (P := fun _ k => ∀ w ∈ k.outbox,
        (∃ x, w = .sheet T.code x) ∨ (∃ v, w = .roundNum T.code v)) _ h.outbox
      intro w' hw'
      exact h.outbox i w' (by rw [hw]; exact List.mem_cons_of_mem _ hw')
    . rw [hdb]
      apply h.roster.congr
      apply PathTree.get_set_of_not_prefix
      all_goals
        rcases h.outbox i w (by simp [hw]) with ⟨x, rfl⟩ | ⟨v, rfl⟩
        . simp [Write.path, roundPath, playersPath, GameKeys.rawValue]
        . simp [Write.path, playersPath, GameKeys.rawValue]
  | startGame i =>
    have hnot := (step_startGame hstep).1
    rw [h.entered i] at hnot
    contradiction
  | startReply i o =>
    have hnot := (step_startReply hstep).1
    rw [h.starts i] at hnot
    contradiction
  | enter i =>
    have hnot := (step_enter hstep).1
    rw [h.entered i] at hnot
    contradiction

theorem run {ok : Play ι → Action ι → Prop} {hist : List (Play ι × Action ι)}
    (hrun : (system T (Numbered T numOfPlayers)).Run ok hist s)
    : OutcomeInv T numOfPlayers s := by
  have hboth : (∀ i, Seated T i (s.core i)) ∧ OutcomeInv T numOfPlayers s := by
    apply hrun.invariant (I := fun s => (∀ i, Seated T i (s.core i)) ∧ OutcomeInv T numOfPlayers s)
    . intro s hs
      refine ⟨?_, numbered hs⟩
      intro i
      rw [core, hs.playing.clients]
      exact Seated.create i
    . rintro s a t ⟨hseated, h⟩ - hstep
      exact ⟨seated_step hseated hstep, h.step hseated hstep⟩
  exact hboth.2

omit [DecidableEq ι] [Fintype ι] in
theorem downloadable (h : OutcomeInv T numOfPlayers s)
    (hstored : ∀ x ∈ b.sheets, ∃ i, x ∈ (s.core i).saved) {images : Images}
    (himages : ∀ i, ∀ u ∈ (s.clients i).uploads, images.getData u.1 imageMaxSize = some u.2)
    : Downloadable images b.sheets := by
  intro x hx image himage
  obtain ⟨i, hx⟩ := hstored x hx
  exact himages i _ ((h.handsOn i).uploads x hx image himage)

end OutcomeInv

omit [DecidableEq ι] in
theorem rounds_of_roster (hroster : T.FixedRoster host numOfPlayers)
    (hmax : 1 ≤ T.gameSettings.maxNumOfRounds) (i : ι)
    : T.numOfRounds i = T.numOfRounds host
        ∧ 1 ≤ numOfPlayers
        ∧ 1 ≤ T.numOfRounds host
        ∧ T.numOfRounds host ≤ numOfPlayers := by
  have hpos : 1 ≤ numOfPlayers := by
    have hcard : 0 < Fintype.card ι := Fintype.card_pos_iff.2 ⟨host⟩
    have := hroster.card
    omega
  unfold Table.numOfRounds
  rw [hroster.num_players, hroster.num_players]
  refine ⟨rfl, hpos, ?_, ?_⟩ <;> omega

omit [DecidableEq ι] in
theorem OutcomeInv.summary_eq (h : OutcomeInv T numOfPlayers s)
    (hseated : ∀ i, Seated T i (s.core i)) (hroster : T.FixedRoster host numOfPlayers) {i : ι}
    {c : StateControllerSummary} (hsummary : (s.clients i).summary = some c)
    : c = .init T.gameSettings (T.numOfRounds i) numOfPlayers := by
  have hinit := (h.handsOn i).summary c hsummary
  rw [hinit, show (s.clients i).controller.gameSettings = T.gameSettings from (hseated i).gameSettings,
    show (s.clients i).controller.numOfRounds = T.numOfRounds i from (hseated i).numOfRounds,
    show (s.clients i).controller.numOfPlayers = T.numOfPlayers i from (hseated i).numOfPlayers,
    hroster.num_players]

/-- What a summary makes of the sheets that are stored, when all images are there. -/
theorem OutcomeInv.read {ok : Play ι → Action ι → Prop} {hist : List (Play ι × Action ι)}
    (hroster : T.FixedRoster host numOfPlayers) (hmax : 1 ≤ T.gameSettings.maxNumOfRounds)
    (hnine : T.numOfRounds host ≤ 9) (hrun : (system T (Numbered T numOfPlayers)).Run ok hist s)
    (hseated : ∀ i, Seated T i (s.core i)) (hrep : Board.Represents s.db T.code b)
    (hstored : ∀ x ∈ b.sheets, ∃ i, x ∈ (s.core i).saved) (hb : b.OncePerRound numOfPlayers) {i : ι}
    {c : StateControllerSummary} (hsummary : (s.clients i).summary = some c) (o : IterationOrder)
    {images : Images}
    (himages : ∀ j, ∀ u ∈ (s.clients j).uploads, images.getData u.1 imageMaxSize = some u.2)
    : ∃ out c',
        StorageControllerSummary.getAllSheets o s.db images T.code = some out
          ∧ c.receive out = some c'
          ∧ c'.Displays T.gameSettings (T.numOfRounds host) numOfPlayers out
          ∧ (out.map Sheet.record).Perm (b.sheets.dedup.map Sheet.record) := by
  have h := OutcomeInv.run hrun
  obtain ⟨hsame, hpos, hone, hle⟩ := rounds_of_roster hroster hmax i
  have hnumbers : ∀ x ∈ b.sheets, 0 ≤ x.number ∧ x.number ≤ 9 := by
    intro x hx
    obtain ⟨j, hx⟩ := hstored x hx
    have hnumber := number_of_mem_saved (fun _ hs => hs.playing.clients) hrun hseated hx
    rw [(rounds_of_roster hroster hmax j).1] at hnumber
    omega
  obtain ⟨out, hout, hperm⟩ := getAllSheets_board o hpos h.roster hrep hb
    (h.downloadable hstored himages) hnumbers
  obtain ⟨c', hreceive, hdisplays⟩ :=
    StateControllerSummary.receive_init T.gameSettings hone hle out
  rw [h.summary_eq hseated hroster hsummary, hsame]
  exact ⟨out, c', hout, hreceive, hdisplays, hperm⟩

/--
The summary of a game whose round never goes back in the database shows exactly the sheets of its
rounds that are stored, each of them once, also if rounds were ended by force. Each stack goes through
the rounds upwards and follows one chain of authors.
-/
theorem summary_of_forward (T : Table ι) (host : ι) (numOfPlayers : Int)
    (hroster : T.FixedRoster host numOfPlayers) (hmax : 1 ≤ T.gameSettings.maxNumOfRounds)
    (hnine : T.numOfRounds host ≤ 9)
    (hist : List (Play ι × Action ι)) (s : Play ι)
    (hrun : (system T (Numbered T numOfPlayers)).Run (Forward T) hist s)
    (i : ι) (c : StateControllerSummary) (hsummary : (s.clients i).summary = some c)
    (o : IterationOrder) (images : Images)
    (himages : ∀ j, ∀ u ∈ (s.clients j).uploads, images.getData u.1 imageMaxSize = some u.2)
    : ∃ out c',
        StorageControllerSummary.getAllSheets o s.db images T.code = some out
          ∧ c.receive out = some c'
          ∧ (c'.sheetStacks.flatten.map Sheet.id).Nodup
          ∧ (∀ r, r ∈ c'.sheetStacks.flatten.map Sheet.record
              ↔
            ∃ j, ∃ x ∈ (s.clients j).saved,
              x.record = r
                ∧ 1 ≤ x.number
                ∧ x.id.uuidString ∈ (s.db.get (roundPath T.code x.number)).keys)
          ∧ ∀ (k : Nat) (stack : List Sheet), c'.sheetStacks[k]? = some stack →
              stack.Pairwise (fun x y => x.number < y.number)
                ∧
              ∀ x ∈ stack, x.author.number = stackAuthor numOfPlayers (k + 1) x.number := by
  obtain ⟨b, h⟩ := PaceInv.run hroster.number_inj (fun _ hs => hs.playing.fresh) hrun
  have hb := h.oncePerRound hroster.number hroster.number_inj
  obtain ⟨out, c', hout, hreceive, hdisplays, hperm⟩ :=
    OutcomeInv.read hroster hmax hnine hrun h.sheets.seated h.sheets.represents h.sheets.stored hb
      hsummary o himages
  have hmem := StateControllerSummary.mem_flatten_sheetStacks hdisplays
    (hb.authors_of_records hperm) (hb.nodup_slots hperm)
  refine ⟨out, c', hout, hreceive, ?_, ?_, fun k stack => StateControllerSummary.stack_of_getElem? hdisplays⟩
  . apply List.Nodup.map_on _ (StateControllerSummary.nodup_flatten_sheetStacks hdisplays)
    intro x hx y hy hid
    exact List.inj_on_of_nodup_map (hb.nodup_ids hperm) ((hmem x).1 hx).1 ((hmem y).1 hy).1 hid
  . intro r
    rw [List.mem_map]
    constructor
    . rintro ⟨x, hx, rfl⟩
      obtain ⟨hx, hlow, -⟩ := (hmem x).1 hx
      obtain ⟨y, hy, hrecord⟩ := (mem_records hperm x.record).1 (List.mem_map_of_mem hx)
      obtain ⟨j, hsaved⟩ := h.sheets.stored y hy
      refine ⟨j, y, hsaved, hrecord, ?_, ?_⟩
      . rw [(Sheet.record_inj.1 hrecord).2.2.1]
        exact hlow
      . rw [h.sheets.represents.stored.mem_sheet]
        exact ⟨y, hy, rfl, rfl⟩
    . rintro ⟨j, x, hsaved, rfl, hlow, hkey⟩
      rw [h.sheets.represents.stored.mem_sheet] at hkey
      obtain ⟨y, hy, -, hid⟩ := hkey
      rw [UUID.uuidString_inj] at hid
      obtain ⟨j', hsaved'⟩ := h.sheets.stored y hy
      obtain rfl := h.sheets.ids j' j y hsaved' x hsaved hid
      obtain ⟨x, hx, hrecord⟩ := List.mem_map.1 ((mem_records hperm y.record).2 ⟨y, hy, rfl⟩)
      have hnumber := number_of_mem_saved (fun _ hs => hs.playing.clients) hrun h.sheets.seated hsaved
      rw [(rounds_of_roster hroster hmax j).1] at hnumber
      refine ⟨x, (hmem x).2 ⟨hx, ?_⟩, hrecord⟩
      rw [(Sheet.record_inj.1 hrecord).2.2.1]
      omega

theorem numbered_duo : Numbered duoTable 2 duo where
  playing := playing_duo
  roster := by decide +kernel

def forceSecond : List (Action Bool) :=
  [.device true (.raiseRoundNum 2), .device true .deliverRoundNum, .device true .appear]
    ++ ticks true 40 4 ++ [.device true .appear] ++ ticks true 50 7
    ++ [.process true, .device true .force, .process true, .device true (.raiseRoundNum 3),
      .device true .deliverRoundNum]

/-- One of two players ends both rounds by force. -/
theorem summary_of_forward_forced
    : ∃ (s : Play Bool) (out : List Sheet) (c' : StateControllerSummary),
        ((s.clients true).saved.length = 2 ∧ (s.clients false).saved = [])
          ∧
        (StorageControllerSummary.getAllSheets .listed s.db (fun _ => some []) 123456 = some out
          ∧ (StateControllerSummary.init duoTable.gameSettings 2 2).receive out = some c'
          ∧ (c'.sheetStacks.flatten.map Sheet.id).Nodup) := by
  obtain ⟨hist, s, hrun, hsaved, hsummary, himages⟩ := TransitionSystem.exists_run_of_exec
    (Forward duoTable) (S := system duoTable (Numbered duoTable 2))
    (P := fun _ s => ((s.clients true).saved.length = 2 ∧ (s.clients false).saved = [])
      ∧ (s.clients true).summary = some (.init duoTable.gameSettings 2 2)
      ∧ ∀ j, ∀ u ∈ (s.clients j).uploads, Images.getData (fun _ => some []) u.1 imageMaxSize = some u.2)
    numbered_duo (forceFirst ++ forceSecond) (by decide +kernel)
  obtain ⟨out, c', hout, hreceive, hids, -⟩ := summary_of_forward duoTable false 2 fixedRoster_duoTable
    (by decide) (by decide) hist s hrun true _ hsummary .listed _ himages
  exact ⟨s, out, c', hsaved, hout, hreceive, hids⟩

end Play

end SCatCh
