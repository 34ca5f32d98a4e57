import SCatCh.State.Sheet
import SCatCh.State.Summary
import SCatCh.Storage.RoundTrip

/-!
This module contains the proof that a stack of the summary is the chain of sheets its authors were
shown while they played. The two controllers find a sheet's predecessor with formulas of their own.
-/

namespace SCatCh

/-- The author of the sheet of round `roundNum` in the stack number `playerNum`. -/
def stackAuthor (numOfPlayers playerNum roundNum : Int) : Int :=
  let authorNum := (playerNum + (numOfPlayers - roundNum - 1)) % numOfPlayers
  if authorNum = 0 then numOfPlayers else authorNum

theorem getAuthorNumToBuildStacks_eq {numOfPlayers playerNum roundNum : Int}
    (hpos : 1 ≤ numOfPlayers) (hplayer : 1 ≤ playerNum) (hround : roundNum ≤ numOfPlayers)
    : StateControllerSummary.getAuthorNumToBuildStacks playerNum roundNum numOfPlayers
        =
      some (stackAuthor numOfPlayers playerNum roundNum) := by
  unfold StateControllerSummary.getAuthorNumToBuildStacks
  rw [remainder_of_nonneg (by omega) (by omega)]
  rfl

theorem stackAuthor_bounds {numOfPlayers : Int} (hpos : 1 ≤ numOfPlayers) (playerNum roundNum : Int)
    : 1 ≤ stackAuthor numOfPlayers playerNum roundNum
        ∧
      stackAuthor numOfPlayers playerNum roundNum ≤ numOfPlayers := by
  have hnonneg := Int.emod_nonneg (playerNum + (numOfPlayers - roundNum - 1)) (b := numOfPlayers) (by omega)
  have hlt := Int.emod_lt_of_pos (playerNum + (numOfPlayers - roundNum - 1)) (b := numOfPlayers) (by omega)
  simp only [stackAuthor]
  split <;> omega

theorem getAuthorNumToGetRefSheet_stackAuthor {numOfPlayers playerNum roundNum : Int}
    (hpos : 1 ≤ numOfPlayers)
    : StateControllerSheet.getAuthorNumToGetRefSheet numOfPlayers
        (stackAuthor numOfPlayers playerNum roundNum)
        =
      some (stackAuthor numOfPlayers playerNum (roundNum - 1)) := by
  have hbounds := stackAuthor_bounds hpos playerNum roundNum
  unfold StateControllerSheet.getAuthorNumToGetRefSheet
  rw [remainder_of_nonneg (by omega) (by omega)]
  -- Adding one to the wrapped or to the plain remainder gives the same remainder.
  have hstep : (stackAuthor numOfPlayers playerNum roundNum + 1) % numOfPlayers
      = (playerNum + (numOfPlayers - (roundNum - 1) - 1)) % numOfPlayers := by
    have hwrap : stackAuthor numOfPlayers playerNum roundNum % numOfPlayers
        = (playerNum + (numOfPlayers - roundNum - 1)) % numOfPlayers := by
      simp only [stackAuthor]
      split
      . next h => rw [h, Int.emod_self]
      . exact Int.emod_emod _ _
    rw [Int.add_emod, hwrap, ← Int.add_emod]
    congr 1
    omega
  rw [hstep]
  rfl

namespace StateControllerSummary

def sheetOf (c : StateControllerSummary) (playerNum roundNum : Int) : Option Sheet :=
  (c.sheets.filter fun s =>
    s.number = roundNum ∧ s.author.number = stackAuthor c.numOfPlayers playerNum roundNum).head?

theorem sheetOf_eq_some {c : StateControllerSummary} {playerNum roundNum : Int} {s : Sheet}
    (h : c.sheetOf playerNum roundNum = some s)
    : s ∈ c.sheets
        ∧
      s.number = roundNum
        ∧
      s.author.number = stackAuthor c.numOfPlayers playerNum roundNum := by
  have hmem := List.mem_of_mem_head? h
  rw [List.mem_filter, decide_eq_true_eq] at hmem
  exact hmem

theorem sheetOf_eq_none {c : StateControllerSummary} {playerNum roundNum : Int}
    (h : c.sheetOf playerNum roundNum = none)
    : ∀ s ∈ c.sheets,
        s.number = roundNum → s.author.number ≠ stackAuthor c.numOfPlayers playerNum roundNum := by
  intro s hmem hnumber hauthor
  unfold sheetOf at h
  rw [List.head?_eq_none_iff, List.filter_eq_nil_iff] at h
  exact h s hmem (decide_eq_true ⟨hnumber, hauthor⟩)

variable {c : StateControllerSummary}

theorem buildSheetStack_eq (hrounds : 1 ≤ c.numOfRounds) (hle : c.numOfRounds ≤ c.numOfPlayers)
    {playerNum : Int} (hplayer : 1 ≤ playerNum)
    : c.buildSheetStack playerNum
        =
      some ((closedRange 1 c.numOfRounds).filterMap (c.sheetOf playerNum)) := by
  have hloop : (closedRange 1 c.numOfRounds).mapM (fun roundNum => do
        let authorNum ← getAuthorNumToBuildStacks playerNum roundNum c.numOfPlayers
        return (c.sheets.filter fun s => s.number = roundNum ∧ s.author.number = authorNum).head?)
      = some ((closedRange 1 c.numOfRounds).map (c.sheetOf playerNum)) := by
    apply List.mapM_eq_some_map
    intro roundNum hmem
    rw [mem_closedRange] at hmem
    rw [getAuthorNumToBuildStacks_eq (by omega) hplayer (by omega)]
    rfl
  unfold buildSheetStack
  rw [closedRange?_of_le hrounds, Option.bind_eq_bind, Option.bind_some, hloop]
  simp [List.reduceOption]

theorem buildSheetStacks_eq (hrounds : 1 ≤ c.numOfRounds) (hle : c.numOfRounds ≤ c.numOfPlayers)
    : c.buildSheetStacks
        =
      some ((closedRange 1 c.numOfPlayers).map fun playerNum =>
        (closedRange 1 c.numOfRounds).filterMap (c.sheetOf playerNum)) := by
  unfold buildSheetStacks
  rw [closedRange?_of_le (by omega), Option.bind_eq_bind, Option.bind_some]
  apply List.mapM_eq_some_map
  intro playerNum hmem
  rw [mem_closedRange] at hmem
  exact buildSheetStack_eq hrounds hle hmem.1

theorem stack_eq_append {playerNum roundNum : Int} {a b : Sheet}
    (hround : 1 ≤ roundNum) (hle : roundNum + 1 ≤ c.numOfRounds)
    (ha : c.sheetOf playerNum roundNum = some a) (hb : c.sheetOf playerNum (roundNum + 1) = some b)
    : ∃ before after,
        (closedRange 1 c.numOfRounds).filterMap (c.sheetOf playerNum) = before ++ a :: b :: after := by
  obtain ⟨m, rfl⟩ : ∃ m, roundNum = m + 1 := ⟨roundNum - 1, by omega⟩
  rw [closedRange_append (m := m) (by omega) (by omega), closedRange_cons (a := m + 1) (by omega),
    closedRange_cons (a := m + 1 + 1) (by omega)]
  exact ⟨(closedRange 1 m).filterMap (c.sheetOf playerNum),
    (closedRange (m + 1 + 1 + 1) c.numOfRounds).filterMap (c.sheetOf playerNum), by simp [ha, hb]⟩

end StateControllerSummary

section Chain

variable {db : Database} {images : Images} {code : Int} {stored : List Sheet}
  {c : StateControllerSummary}

theorem sheetOf_of_mem {playerNum : Int} {s : Sheet}
    (hunique : ∀ s ∈ stored, ∀ t ∈ stored,
      s.number = t.number → s.author.number = t.author.number → s = t)
    (hsummary : (c.sheets.map Sheet.record).Perm (stored.map Sheet.record)) (hs : s ∈ stored)
    (hauthor : s.author.number = stackAuthor c.numOfPlayers playerNum s.number)
    : ∃ s', c.sheetOf playerNum s.number = some s' ∧ s'.record = s.record := by
  have hmem : s.record ∈ c.sheets.map Sheet.record := by
    rw [hsummary.mem_iff]
    exact List.mem_map_of_mem hs
  rw [List.mem_map] at hmem
  obtain ⟨t, ht, hrecord⟩ := hmem
  rw [Sheet.record_inj] at hrecord
  cases hsheet : c.sheetOf playerNum s.number with
  | none =>
    exact absurd (hrecord.2.1.trans hauthor)
      (StateControllerSummary.sheetOf_eq_none hsheet t ht hrecord.2.2.1)
  | some s' =>
    refine ⟨s', rfl, ?_⟩
    obtain ⟨hs', hnumber, hauthor'⟩ := StateControllerSummary.sheetOf_eq_some hsheet
    have hmem' : s'.record ∈ stored.map Sheet.record := by
      rw [← hsummary.mem_iff]
      exact List.mem_map_of_mem hs'
    rw [List.mem_map] at hmem'
    obtain ⟨t', ht', hrecord'⟩ := hmem'
    have hfields := Sheet.record_inj.1 hrecord'
    have : t' = s := by
      apply hunique t' ht' s hs
      . rw [hfields.2.2.1, hnumber]
      . rw [hfields.2.1, hauthor', hauthor]
    rw [← hrecord', this]

end Chain

/--
A sheet's predecessor in its stack is the sheet its author was shown. If no sheet was shown, the
stack has none of the round before.
-/
theorem buildSheetStacks_references (o : IterationOrder) (db : Database) (images : Images)
    (code : Int) (c : StateControllerSummary) (stored : List Sheet) (authorId : UUID)
    (hrounds : 1 ≤ c.numOfRounds)
    (hle : c.numOfRounds ≤ c.numOfPlayers)
    (hstored : Stored db code stored)
    (hids : (stored.map Sheet.id).Nodup)
    (himages : Downloadable images stored)
    (hnumbers : ∀ s ∈ stored, 1 ≤ s.number ∧ s.number ≤ c.numOfRounds)
    (hunique : ∀ s ∈ stored, ∀ t ∈ stored,
      s.number = t.number → s.author.number = t.author.number → s = t)
    (hsummary : (c.sheets.map Sheet.record).Perm (stored.map Sheet.record))
    : ∃ sheetStacks, c.buildSheetStacks = some sheetStacks
        ∧
      ∀ stack ∈ sheetStacks, ∀ b ∈ stack, 2 ≤ b.number →
        ∃ authorNum,
          StateControllerSheet.getAuthorNumToGetRefSheet c.numOfPlayers b.author.number = some authorNum
            ∧
          ∃ shown,
            StorageControllerSheet.getReferenceSheet o db images code (b.number - 1) authorNum authorId
              =
            some shown
              ∧
            shown.length ≤ 1
              ∧
            (∀ a ∈ shown, ∃ before a' after,
              stack = before ++ a' :: b :: after ∧ a'.record = a.record)
              ∧
            (shown = [] → ∀ a ∈ stack, a.number ≠ b.number - 1) := by
  refine ⟨_, StateControllerSummary.buildSheetStacks_eq hrounds hle, ?_⟩
  intro stack hstack b hb hround
  rw [List.mem_map] at hstack
  obtain ⟨playerNum, -, rfl⟩ := hstack
  rw [List.mem_filterMap] at hb
  obtain ⟨roundNum, hroundNum, hb⟩ := hb
  obtain ⟨-, rfl, hauthor⟩ := StateControllerSummary.sheetOf_eq_some hb
  rw [mem_closedRange] at hroundNum
  refine ⟨stackAuthor c.numOfPlayers playerNum (b.number - 1), ?_, ?_⟩
  . rw [hauthor]
    exact getAuthorNumToGetRefSheet_stackAuthor (by omega)
  obtain ⟨shown, hshown, hperm⟩ := getReferenceSheet_stored o hstored hids himages (b.number - 1)
    (stackAuthor c.numOfPlayers playerNum (b.number - 1)) authorId
  refine ⟨shown, hshown, ?_, ?_, ?_⟩
  . -- No author has two sheets in one round.
    rw [hperm.length_eq, List.length_map]
    apply List.length_le_one_of_nodup
    . exact ((List.Nodup.of_map _ hids).filter _).filter _
    . intro s hs t ht
      simp only [List.mem_filter, decide_eq_true_eq] at hs ht
      exact hunique s hs.1.1 t ht.1.1 (hs.1.2.trans ht.1.2.symm) (hs.2.trans ht.2.symm)
  . intro a ha
    rw [hperm.mem_iff, List.mem_map] at ha
    obtain ⟨s, hs, rfl⟩ := ha
    simp only [List.mem_filter, decide_eq_true_eq] at hs
    obtain ⟨⟨hs, hnumber⟩, hsauthor⟩ := hs
    rw [← hnumber] at hsauthor
    obtain ⟨a', ha', hrecord⟩ := sheetOf_of_mem hunique hsummary hs hsauthor
    have hsucc : b.number = s.number + 1 := by omega
    rw [hsucc] at hb
    obtain ⟨before, after, happend⟩ :=
      StateControllerSummary.stack_eq_append (hnumbers s hs).1 (by omega) ha' hb
    refine ⟨before, a', after, happend, hrecord.trans ?_⟩
    simp [Sheet.record, ← hnumber, hsauthor]
  . -- A sheet of the round before would have been found when the reference was looked up.
    rintro rfl a ha hnumber
    rw [List.mem_filterMap] at ha
    obtain ⟨r, -, ha⟩ := ha
    obtain ⟨hmem, rfl, haauthor⟩ := StateControllerSummary.sheetOf_eq_some ha
    have hrecord : a.record ∈ stored.map Sheet.record := by
      rw [← hsummary.mem_iff]
      exact List.mem_map_of_mem hmem
    rw [List.mem_map] at hrecord
    obtain ⟨s, hs, hrecord⟩ := hrecord
    rw [Sheet.record_inj] at hrecord
    have hnil := hperm.symm.eq_nil
    rw [List.map_eq_nil_iff, List.filter_filter, List.filter_eq_nil_iff] at hnil
    apply hnil s hs
    simp only [Bool.and_eq_true, decide_eq_true_eq]
    rw [hrecord.2.1, hrecord.2.2.1, haauthor, hnumber]
    exact ⟨rfl, rfl⟩

def twoRounds : StateControllerSummary where
  gameSettings := {}
  numOfRounds := 2
  numOfPlayers := 2
  sheets := [drawingSheet 12 1 2, guessSheet 11 2 1, guessSheet 10 1 1]

def twoRoundsStored : List Sheet := [guessSheet 10 1 1, guessSheet 11 2 1, drawingSheet 12 1 2]

theorem buildSheetStacks_references_two_rounds
    : ∃ sheetStacks, twoRounds.buildSheetStacks = some sheetStacks
        ∧
      ∀ stack ∈ sheetStacks, ∀ b ∈ stack, 2 ≤ b.number →
        ∃ authorNum,
          StateControllerSheet.getAuthorNumToGetRefSheet 2 b.author.number = some authorNum
            ∧
          ∃ shown,
            StorageControllerSheet.getReferenceSheet .listed (saved 123456 twoRoundsStored .empty)
              (uploaded 123456 twoRoundsStored fun _ => none) 123456 (b.number - 1) authorNum (.ofNat 3)
              =
            some shown
              ∧
            shown.length ≤ 1
              ∧
            (∀ a ∈ shown, ∃ before a' after,
              stack = before ++ a' :: b :: after ∧ a'.record = a.record)
              ∧
            (shown = [] → ∀ a ∈ stack, a.number ≠ b.number - 1) :=
  buildSheetStacks_references .listed (saved 123456 twoRoundsStored .empty)
    (uploaded 123456 twoRoundsStored fun _ => none) 123456 twoRounds twoRoundsStored (.ofNat 3)
    (by decide) (by decide) (stored_saved rfl (by decide)) (by decide)
    (downloadable_uploaded 123456 (fun _ => none) (by decide)
      (by simp [twoRoundsStored, guessSheet, drawingSheet, imageMaxSize]))
    (by decide) (by decide) (by decide)

end SCatCh
