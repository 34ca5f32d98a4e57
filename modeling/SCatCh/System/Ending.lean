import SCatCh.System.Outcome

/-!
This module contains the end of a game in which no one forces the end of a round: every player is
shown a full table of sheets, with one stack for each player and one sheet for each round.
-/

namespace SCatCh

theorem Table.core_create {ι : Type} (T : Table ι) (i : ι)
    : (T.create i).core = {
        gameSettings := T.gameSettings
        player := T.player i
        numOfPlayers := T.numOfPlayers i
        numOfRounds := T.numOfRounds i
        isHost := T.isHost i
        roundNum := 0
        isContentSaved := false
        finished := false
        outbox := []
        saved := []
        roundNumEvents := { active := true }
        sheetsEvents := fun _ => {} } := rfl

namespace Core

/-- A device that is in the summary has passed the last round. -/
structure Ahead (k : Core) : Prop where
  nonneg : 0 ≤ k.roundNum
  finished : k.finished = true → k.numOfRounds < k.roundNum

theorem Ahead.moveTo {k : Core} (h : k.Ahead) {v : Int} (hv : k.roundNum ≤ v) (hne : v ≠ k.roundNum)
    : (k.moveTo v).Ahead := by
  have := h.nonneg
  by_cases hmem : 1 ≤ v ∧ v ≤ k.numOfRounds
  . rw [moveTo_of_mem hmem]
    refine ⟨by dsimp only; omega, ?_⟩
    intro hfinished
    have := h.finished hfinished
    dsimp only
    omega
  . rw [moveTo_of_not_mem hmem]
    refine ⟨by dsimp only; omega, ?_⟩
    intro _
    dsimp only
    omega

theorem Ahead.next {k k' : Core} {a : SheetClient.Input} {seen : Int} (h : k.Ahead)
    (hascending : k.Ascending seen) (hnext : k.Next k' a)
    : k'.Ahead := by
  cases a with
  | tick newId => rcases hnext with rfl | ⟨-, content, rfl⟩ <;> exact ⟨h.nonneg, h.finished⟩
  | done newId => rcases hnext with rfl | ⟨-, content, rfl⟩ <;> exact ⟨h.nonneg, h.finished⟩
  | force =>
    obtain ⟨-, rfl⟩ := hnext
    exact ⟨h.nonneg, h.finished⟩
  | raiseRoundNum v =>
    obtain ⟨o, -, rfl⟩ := hnext
    exact ⟨h.nonneg, h.finished⟩
  | deliverRoundNum =>
    obtain ⟨v, o, hdeliver, ⟨-, rfl⟩ | ⟨hne, rfl⟩⟩ := hnext
    . exact ⟨h.nonneg, h.finished⟩
    . have hahead : Ahead { k with roundNumEvents := o } := ⟨h.nonneg, h.finished⟩
      exact hahead.moveTo (hascending.deliver hdeliver).1 hne
  | raiseRoundSheets n v =>
    obtain ⟨o, -, rfl⟩ := hnext
    exact ⟨h.nonneg, h.finished⟩
  | deliverRoundSheets n =>
    obtain ⟨v, o, -, ⟨-, -, rfl⟩ | ⟨-, rfl⟩⟩ := hnext <;> exact ⟨h.nonneg, h.finished⟩
  | appear | type _ | draw _ | answer _ _ _ _ _ | reply _ =>
    have hk : k' = k := hnext
    rw [hk]
    exact h

end Core

namespace Play

variable {ι : Type} [Fintype ι] [DecidableEq ι] {T : Table ι} {host : ι} {numOfPlayers : Int}
  {s t : Play ι} {a : Action ι} {b : Board}

theorem ahead_step (h : PlayInv T host numOfPlayers s b) (hahead : ∀ i, (s.core i).Ahead)
    (hstep : s.step T a = some t)
    : ∀ i, (t.core i).Ahead := by
  cases a with
  | device i a =>
    obtain ⟨-, -, -, -, -, k, hnext, hcore⟩ := step_device hstep
    exact forall_core hcore (P := fun _ k => k.Ahead) ((hahead i).next (h.ascending i) hnext) hahead
  | process i =>
    obtain ⟨w, ws, -, -, -, -, hcore⟩ := step_process hstep
    exact forall_core hcore (P := fun _ k => k.Ahead)
      ⟨(hahead i).nonneg, (hahead i).finished⟩ hahead
  | startGame i =>
    rw [(step_startGame hstep).2.2.1]
    exact hahead
  | startReply i o =>
    obtain ⟨-, -, -, hcore⟩ := step_startReply hstep
    exact forall_core hcore (P := fun _ k => k.Ahead)
      ⟨(hahead i).nonneg, (hahead i).finished⟩ hahead
  | enter i =>
    rw [(step_enter hstep).2.2.1]
    exact hahead

theorem PlayInv.run {hist : List (Play ι × Action ι)} {init : Play ι → Prop}
    (hinit : ∀ s, init s → Playing T s) (hroster : T.FixedRoster host numOfPlayers)
    (hmax : 1 ≤ T.gameSettings.maxNumOfRounds) (hrun : (system T init).Run NoForce hist s)
    : ∃ b, PlayInv T host numOfPlayers s b ∧ ∀ i, (s.core i).Ahead := by
  obtain ⟨-, hpos, hrounds, -⟩ := rounds_of_roster hroster hmax host
  apply hrun.invariant (I := fun s => ∃ b, PlayInv T host numOfPlayers s b ∧ ∀ i, (s.core i).Ahead)
  . intro s hs
    refine ⟨_, PlayInv.playing hroster hrounds (hinit s hs), ?_⟩
    intro i
    rw [core, (hinit s hs).clients, Table.core_create]
    exact ⟨le_refl 0, by simp⟩
  . rintro s a t ⟨b, h, hahead⟩ hok hstep
    obtain ⟨b', h', -⟩ := h.step hroster hpos hok hstep
    exact ⟨b', h', ahead_step h hahead hstep⟩

omit [Fintype ι] [DecidableEq ι] in
/-- What the database holds once a device is in the summary and has sent all it had to send. -/
theorem PlayInv.complete_of_finished (h : PlayInv T host numOfPlayers s b)
    (hahead : ∀ i, (s.core i).Ahead) {i : ι} (hrounds : T.numOfRounds i = T.numOfRounds host)
    (hfinished : (s.core i).finished = true) (hsent : i = host → (s.core i).outbox = [])
    : ∀ n, 1 ≤ n → n ≤ T.numOfRounds host → ∀ a, 1 ≤ a → a ≤ numOfPlayers → b.Has a n := by
  have hseen : (b.applyAll (s.core i).outbox).roundNum = b.roundNum := by
    by_cases hi : i = host
    . rw [hsent hi, Board.applyAll_nil]
    . exact h.view_roundNum hi
  have hpassed := (hahead i).finished hfinished
  rw [(h.seated i).numOfRounds, hrounds] at hpassed
  have hle := (h.ascending i).le
  rw [hseen] at hle
  intro n hn hlast
  exact h.good.complete n hn (by omega)

omit [DecidableEq ι] in
/-- Every place in the stacks is taken by what the author whose turn it was has handed in. -/
theorem PlayInv.shown_of_records (h : PlayInv T host numOfPlayers s b)
    (hroster : T.FixedRoster host numOfPlayers) (hmax : 1 ≤ T.gameSettings.maxNumOfRounds)
    (hall : ∀ n, 1 ≤ n → n ≤ T.numOfRounds host → ∀ a, 1 ≤ a → a ≤ numOfPlayers → b.Has a n)
    (hkind : ∀ j, ∀ x ∈ (s.core j).saved, SheetMachine.kind x = SheetMachine.activity x.number)
    {out : List Sheet} (hperm : (out.map Sheet.record).Perm (b.sheets.dedup.map Sheet.record))
    : out ≠ []
        ∧
      ∃ shown : Int → Int → Sheet,
        (∀ p, (StateControllerSummary.holding T.gameSettings (T.numOfRounds host) numOfPlayers
            out).stackOf p = (closedRange 1 (T.numOfRounds host)).map (shown p))
          ∧
        ∀ p n, 1 ≤ n → n ≤ T.numOfRounds host →
          SheetMachine.kind (shown p n) = SheetMachine.activity n
            ∧
          ∃ j, (T.player j).number = stackAuthor numOfPlayers p n
            ∧ ∃ x ∈ (s.clients j).saved, x.number = n ∧ (shown p n).record = x.record := by
  obtain ⟨-, hpos, hone, -⟩ := rounds_of_roster hroster hmax host
  have hplace : ∀ p n, 1 ≤ n → n ≤ T.numOfRounds host → ∃ x ∈ out,
      (StateControllerSummary.holding T.gameSettings (T.numOfRounds host) numOfPlayers out).sheetOf p n
        = some x := by
    intro p n hn hlast
    obtain ⟨hlow, hhigh⟩ := stackAuthor_bounds hpos p n
    obtain ⟨y, hy, hauthor, hnumber⟩ := hall n hn hlast _ hlow hhigh
    obtain ⟨x, hx, hrecord⟩ := List.mem_map.1 ((mem_records hperm y.record).2 ⟨y, hy, rfl⟩)
    obtain ⟨-, hauthor', hnumber', -⟩ := Sheet.record_inj.1 hrecord
    cases hsheet : (StateControllerSummary.holding T.gameSettings (T.numOfRounds host) numOfPlayers
        out).sheetOf p n with
    | none =>
      exact absurd (hauthor'.trans hauthor)
        (StateControllerSummary.sheetOf_eq_none hsheet x hx (hnumber'.trans hnumber))
    | some z => exact ⟨z, (StateControllerSummary.sheetOf_eq_some hsheet).1, rfl⟩
  obtain ⟨x, hx, -⟩ := hplace 1 1 (le_refl 1) hone
  refine ⟨List.ne_nil_of_mem hx, ?_⟩
  have : Nonempty Sheet := ⟨x⟩
  choose! shown hmem hshown using hplace
  refine ⟨shown, ?_, ?_⟩
  . intro p
    unfold StateControllerSummary.stackOf
    rw [← List.filterMap_eq_map]
    apply List.filterMap_congr
    intro n hn
    rw [StateControllerSummary.holding, StateControllerSummary.init, mem_closedRange] at hn
    exact hshown p n hn.1 hn.2
  . intro p n hn hlast
    obtain ⟨-, hnumber, hauthor⟩ := StateControllerSummary.sheetOf_eq_some (hshown p n hn hlast)
    obtain ⟨x, hx, hrecord⟩ := (mem_records hperm _).1 (List.mem_map_of_mem (hmem p n hn hlast))
    obtain ⟨j, hsaved⟩ := h.stored x hx
    obtain ⟨-, hauthor', hnumber', hcontent⟩ := Sheet.record_inj.1 hrecord
    have hplayer : x.author = T.player j := by
      rw [(h.own j).author x hsaved, (h.seated j).player]
    have hsame : x.number = n := hnumber'.trans hnumber
    refine ⟨?_, j, by rw [← hplayer, hauthor']; exact hauthor, x, hsaved, hsame, hrecord.symm⟩
    rw [← hsame, ← hkind j x hsaved]
    unfold SheetMachine.kind
    rw [hsame, hcontent]

/--
The summary of an ordinary game is complete: it has a stack for each player with a sheet for each
round, each sheet is the one that the author whose turn it was has handed in, and it is of the kind of
its round.
-/
theorem ordinary_play_summary (T : Table ι) (host : ι) (numOfPlayers : Int)
    (hroster : T.FixedRoster host numOfPlayers) (hmax : 1 ≤ T.gameSettings.maxNumOfRounds)
    (hnine : T.numOfRounds host ≤ 9)
    (hist : List (Play ι × Action ι)) (s : Play ι)
    (hrun : (system T (Numbered T numOfPlayers)).Run NoForce hist s)
    (i : ι) (c : StateControllerSummary) (hsummary : (s.clients i).summary = some c)
    (hsent : i = host → (s.clients i).outbox = [])
    (o : IterationOrder) (images : Images)
    (himages : ∀ j, ∀ u ∈ (s.clients j).uploads, images.getData u.1 imageMaxSize = some u.2)
    : ∃ out c', ∃ shown : Int → Int → Sheet,
        StorageControllerSummary.getAllSheets o s.db images T.code = some out
          ∧ c.receive out = some c'
          ∧ c'.sheetStacks
              = ((closedRange 1 numOfPlayers).map fun p => (closedRange 1 (T.numOfRounds host)).map (shown p))
          ∧ ∀ p n, 1 ≤ p → p ≤ numOfPlayers → 1 ≤ n → n ≤ T.numOfRounds host →
              SheetMachine.kind (shown p n) = SheetMachine.activity n
                ∧
              ∃ j, (T.player j).number = stackAuthor numOfPlayers p n
                ∧ ∃ x ∈ (s.clients j).saved, x.number = n ∧ (shown p n).record = x.record := by
  obtain ⟨b, h, hahead⟩ := PlayInv.run (fun _ hs => hs.playing) hroster hmax hrun
  have hb := h.oncePerRound hroster h.stored
  obtain ⟨out, c', hout, hreceive, hdisplays, hperm⟩ :=
    OutcomeInv.read hroster hmax hnine hrun h.seated h.represents h.stored hb hsummary o himages
  have hall := h.complete_of_finished hahead (rounds_of_roster hroster hmax i).1
    (by simp [core, SheetClient.core, hsummary]) hsent
  obtain ⟨hne, shown, hstacks, hshown⟩ := h.shown_of_records hroster hmax hall
    (fun _ _ hx => kind_of_mem_saved (fun _ hs => hs.playing.clients) hrun hx) hperm
  refine ⟨out, c', shown, hout, hreceive, ?_, ?_⟩
  . unfold StateControllerSummary.Displays at hdisplays
    rw [hdisplays, if_neg hne]
    exact List.map_congr_left fun p _ => hstacks p
  . intro p n _ _ hn hlast
    exact hshown p n hn hlast

def finishSecond : List (Action Bool) :=
  [false, true].flatMap (fun i =>
    [.device i (.raiseRoundNum 2), .device i .deliverRoundNum, .device i .appear]
      ++ ticks i (if i then 60 else 50) 4
      ++ [.device i (.done (.ofNat (if i then 71 else 70))), .process i])
    ++ [.device false (.raiseRoundSheets 2 2), .device false (.deliverRoundSheets 2), .process false,
      .device true (.raiseRoundNum 3), .device true .deliverRoundNum]

theorem ordinary_play_summary_two_rounds
    : ∃ out c', ∃ (s : Play Bool) (shown : Int → Int → Sheet),
        StorageControllerSummary.getAllSheets .listed s.db (fun _ => some []) 123456 = some out
          ∧ (StateControllerSummary.init duoTable.gameSettings 2 2).receive out = some c'
          ∧ c'.sheetStacks = [[shown 1 1, shown 1 2], [shown 2 1, shown 2 2]] := by
  obtain ⟨hist, s, hrun, hsummary, himages⟩ := TransitionSystem.exists_run_of_exec NoForce
    (S := system duoTable (Numbered duoTable 2))
    (P := fun _ s => (s.clients true).summary = some (.init duoTable.gameSettings 2 2)
      ∧ ∀ j, ∀ u ∈ (s.clients j).uploads, Images.getData (fun _ => some []) u.1 imageMaxSize = some u.2)
    numbered_duo (finishFirst ++ finishSecond) (by decide +kernel)
  obtain ⟨out, c', shown, hout, hreceive, hstacks, -⟩ := ordinary_play_summary duoTable false 2
    fixedRoster_duoTable (by decide) (by decide) hist s hrun true _ hsummary (by simp) .listed _ himages
  exact ⟨out, c', s, shown, hout, hreceive, hstacks⟩

end Play

end SCatCh
