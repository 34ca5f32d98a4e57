import SCatCh.State.Chain

/-!
This module contains the proofs that the stacks of the summary are the given sheets dealt out round
by round, and that they do not depend on the order in which the sheets arrive.
-/

namespace SCatCh

/-! # The author of a stack's sheet -/

theorem eq_of_modEq {n a b : Int} (h : a ≡ b [ZMOD n]) (ha : 1 ≤ a ∧ a ≤ n) (hb : 1 ≤ b ∧ b ≤ n)
    : a = b := by
  have hdvd : n ∣ a - b := h.symm.dvd
  have hzero : a - b = 0 := by
    apply Int.eq_zero_of_abs_lt_dvd hdvd
    rw [abs_lt]
    omega
  omega

section StackAuthor

variable {numOfPlayers playerNum playerNum' roundNum roundNum' : Int}

theorem stackAuthor_modEq (numOfPlayers playerNum roundNum : Int)
    : stackAuthor numOfPlayers playerNum roundNum ≡ playerNum - roundNum - 1 [ZMOD numOfPlayers] := by
  have hsum : playerNum + (numOfPlayers - roundNum - 1) ≡ playerNum - roundNum - 1 [ZMOD numOfPlayers] := by
    apply Int.modEq_of_dvd
    exact ⟨-1, by ring⟩
  apply Int.ModEq.trans _ hsum
  simp only [stackAuthor]
  split
  . next h => rw [Int.ModEq, h, Int.emod_self]
  . exact Int.mod_modEq _ _

theorem stackAuthor_inj_player (hplayer : 1 ≤ playerNum ∧ playerNum ≤ numOfPlayers)
    (hplayer' : 1 ≤ playerNum' ∧ playerNum' ≤ numOfPlayers)
    (h : stackAuthor numOfPlayers playerNum roundNum = stackAuthor numOfPlayers playerNum' roundNum)
    : playerNum = playerNum' := by
  have hmod := (stackAuthor_modEq numOfPlayers playerNum roundNum).symm
  rw [h] at hmod
  have hsub := hmod.trans (stackAuthor_modEq numOfPlayers playerNum' roundNum)
  apply eq_of_modEq _ hplayer hplayer'
  simpa using hsub.add_right (roundNum + 1)

theorem stackAuthor_inj_round (hround : 1 ≤ roundNum ∧ roundNum ≤ numOfPlayers)
    (hround' : 1 ≤ roundNum' ∧ roundNum' ≤ numOfPlayers)
    (h : stackAuthor numOfPlayers playerNum roundNum = stackAuthor numOfPlayers playerNum roundNum')
    : roundNum = roundNum' := by
  have hmod := (stackAuthor_modEq numOfPlayers playerNum roundNum).symm
  rw [h] at hmod
  have hsub := hmod.trans (stackAuthor_modEq numOfPlayers playerNum roundNum')
  apply eq_of_modEq _ hround hround'
  have hneg := hsub.sub_left (playerNum - 1)
  ring_nf at hneg
  exact hneg

theorem exists_stackAuthor {authorNum : Int} (hauthor : 1 ≤ authorNum ∧ authorNum ≤ numOfPlayers)
    (roundNum : Int)
    : ∃ playerNum, (1 ≤ playerNum ∧ playerNum ≤ numOfPlayers)
        ∧
      stackAuthor numOfPlayers playerNum roundNum = authorNum := by
  -- The formula inverts itself if the rounds are counted backwards.
  refine ⟨stackAuthor numOfPlayers authorNum (-roundNum - 2), stackAuthor_bounds (by omega) _ _, ?_⟩
  apply eq_of_modEq _ (stackAuthor_bounds (by omega) _ _) hauthor
  apply (stackAuthor_modEq _ _ _).trans
  have hplayer := stackAuthor_modEq numOfPlayers authorNum (-roundNum - 2)
  have hsub := (hplayer.sub_right roundNum).sub_right 1
  ring_nf at hsub ⊢
  exact hsub

end StackAuthor

namespace StateControllerSummary

variable {c : StateControllerSummary} {playerNum roundNum : Int}

def slot (s : Sheet) : Int × Int := (s.number, s.author.number)

def stackOf (c : StateControllerSummary) (playerNum : Int) : List Sheet :=
  (closedRange 1 c.numOfRounds).filterMap (c.sheetOf playerNum)

/-! # Nothing is lost or duplicated -/

theorem mem_stackOf {s : Sheet}
    : s ∈ c.stackOf playerNum
        ↔
      (1 ≤ s.number ∧ s.number ≤ c.numOfRounds) ∧ c.sheetOf playerNum s.number = some s := by
  unfold stackOf
  rw [List.mem_filterMap]
  constructor
  . rintro ⟨roundNum, hround, hs⟩
    obtain rfl := (sheetOf_eq_some hs).2.1
    exact ⟨mem_closedRange.1 hround, hs⟩
  . intro h
    exact ⟨s.number, mem_closedRange.2 h.1, h.2⟩

theorem eq_of_slot {sheets : List Sheet} (hslots : (sheets.map slot).Nodup) {s t : Sheet}
    (hs : s ∈ sheets) (ht : t ∈ sheets) (hnumber : s.number = t.number)
    (hauthor : s.author.number = t.author.number)
    : s = t := by
  apply List.inj_on_of_nodup_map hslots hs ht
  unfold slot
  rw [hnumber, hauthor]

theorem sheetOf_of_slot (hslots : (c.sheets.map slot).Nodup) {s : Sheet} (hs : s ∈ c.sheets)
    (hauthor : s.author.number = stackAuthor c.numOfPlayers playerNum s.number)
    : c.sheetOf playerNum s.number = some s := by
  cases hsheet : c.sheetOf playerNum s.number with
  | none => exact absurd hauthor (sheetOf_eq_none hsheet s hs rfl)
  | some t =>
    obtain ⟨ht, hnumber, htauthor⟩ := sheetOf_eq_some hsheet
    rw [eq_of_slot hslots ht hs hnumber (htauthor.trans hauthor.symm)]

theorem pairwise_stackOf (c : StateControllerSummary) (playerNum : Int)
    : (c.stackOf playerNum).Pairwise fun s t => s.number < t.number := by
  unfold stackOf
  rw [List.pairwise_filterMap]
  apply (pairwise_closedRange 1 c.numOfRounds).imp
  intro r r' hlt s hs t ht
  rw [(sheetOf_eq_some hs).2.1, (sheetOf_eq_some ht).2.1]
  exact hlt

theorem nodup_authors_stackOf (hle : c.numOfRounds ≤ c.numOfPlayers) (playerNum : Int)
    : ((c.stackOf playerNum).map fun s => s.author.number).Nodup := by
  unfold List.Nodup
  rw [List.pairwise_map]
  apply (pairwise_stackOf c playerNum).imp_of_mem
  intro s t hs ht hlt heq
  rw [mem_stackOf] at hs ht
  rw [(sheetOf_eq_some hs.2).2.2, (sheetOf_eq_some ht.2).2.2] at heq
  have := stackAuthor_inj_round (by omega) (by omega) heq
  omega

theorem nodup_flatMap_stackOf (c : StateControllerSummary)
    : ((closedRange 1 c.numOfPlayers).flatMap c.stackOf).Nodup := by
  rw [List.nodup_flatMap]
  constructor
  . intro playerNum _
    apply (pairwise_stackOf c playerNum).imp
    rintro s t hlt rfl
    omega
  . apply (pairwise_closedRange 1 c.numOfPlayers).imp_of_mem
    intro p p' hp hp' hlt s hs hs'
    rw [mem_stackOf] at hs hs'
    rw [mem_closedRange] at hp hp'
    have hauthor := (sheetOf_eq_some hs.2).2.2.symm.trans (sheetOf_eq_some hs'.2).2.2
    have := stackAuthor_inj_player hp hp' hauthor
    omega

theorem mem_flatMap_stackOf
    (hsheets : ∀ s ∈ c.sheets, (1 ≤ s.number ∧ s.number ≤ c.numOfRounds)
      ∧ 1 ≤ s.author.number ∧ s.author.number ≤ c.numOfPlayers)
    (hslots : (c.sheets.map slot).Nodup) (s : Sheet)
    : s ∈ (closedRange 1 c.numOfPlayers).flatMap c.stackOf ↔ s ∈ c.sheets := by
  rw [List.mem_flatMap]
  constructor
  . rintro ⟨playerNum, -, hs⟩
    rw [mem_stackOf] at hs
    exact (sheetOf_eq_some hs.2).1
  . intro hs
    obtain ⟨hround, hauthor⟩ := hsheets s hs
    obtain ⟨playerNum, hplayer, hstack⟩ := exists_stackAuthor hauthor s.number
    refine ⟨playerNum, mem_closedRange.2 hplayer, ?_⟩
    rw [mem_stackOf]
    exact ⟨hround, sheetOf_of_slot hslots hs hstack.symm⟩

theorem buildSheetStacks_eq_map (hrounds : 1 ≤ c.numOfRounds) (hle : c.numOfRounds ≤ c.numOfPlayers)
    : c.buildSheetStacks = some ((closedRange 1 c.numOfPlayers).map c.stackOf) :=
  buildSheetStacks_eq hrounds hle

/--
The stacks are as many as the players, hold each of the given sheets once and nothing else, and each
of them goes through the rounds without coming back to an author.
-/
theorem buildSheetStacks_perm (c : StateControllerSummary)
    (hrounds : 1 ≤ c.numOfRounds)
    (hle : c.numOfRounds ≤ c.numOfPlayers)
    (hsheets : ∀ s ∈ c.sheets, (1 ≤ s.number ∧ s.number ≤ c.numOfRounds)
      ∧ 1 ≤ s.author.number ∧ s.author.number ≤ c.numOfPlayers)
    (hslots : (c.sheets.map slot).Nodup)
    : ∃ sheetStacks, c.buildSheetStacks = some sheetStacks
        ∧
      (sheetStacks.length : Int) = c.numOfPlayers
        ∧
      sheetStacks.flatten.Perm c.sheets
        ∧
      sheetStacks.flatten.Nodup
        ∧
      ∀ stack ∈ sheetStacks,
        stack.Pairwise (fun s t => s.number < t.number)
          ∧
        (stack.map fun s => s.author.number).Nodup := by
  refine ⟨_, buildSheetStacks_eq_map hrounds hle, ?_, ?_, ?_, ?_⟩
  . rw [List.length_map, length_closedRange]
    omega
  . rw [← List.flatMap_def, List.perm_ext_iff_of_nodup (nodup_flatMap_stackOf c) hslots.of_map]
    exact mem_flatMap_stackOf hsheets hslots
  . rw [← List.flatMap_def]
    exact nodup_flatMap_stackOf c
  . intro stack hstack
    rw [List.mem_map] at hstack
    obtain ⟨playerNum, -, rfl⟩ := hstack
    exact ⟨pairwise_stackOf c playerNum, nodup_authors_stackOf hle playerNum⟩

theorem buildSheetStacks_perm_two_rounds
    : ∃ sheetStacks, twoRounds.buildSheetStacks = some sheetStacks
        ∧
      (sheetStacks.length : Int) = twoRounds.numOfPlayers
        ∧
      sheetStacks.flatten.Perm twoRounds.sheets
        ∧
      sheetStacks.flatten.Nodup
        ∧
      ∀ stack ∈ sheetStacks,
        stack.Pairwise (fun s t => s.number < t.number)
          ∧
        (stack.map fun s => s.author.number).Nodup :=
  buildSheetStacks_perm twoRounds (by decide) (by decide) (by decide) (by decide)

/-! # The order of arrival -/

/-- The sheets are handed to the controller one after the other. -/
def receive (c : StateControllerSummary) (sheets : List Sheet) : Option StateControllerSummary :=
  sheets.foldlM handleDBDataSheets c

theorem handleDBDataSheets_eq (hrounds : 1 ≤ c.numOfRounds) (hle : c.numOfRounds ≤ c.numOfPlayers)
    (sheet : Sheet)
    : c.handleDBDataSheets sheet
        =
      some { c with
        sheets := c.sheets ++ [sheet]
        sheetStacks :=
          (closedRange 1 c.numOfPlayers).map { c with sheets := c.sheets ++ [sheet] }.stackOf } := by
  have hbuild : { c with sheets := c.sheets ++ [sheet] }.buildSheetStacks = _ :=
    buildSheetStacks_eq_map hrounds hle
  unfold handleDBDataSheets
  dsimp only [Option.bind_eq_bind]
  rw [hbuild]
  rfl

theorem receive_eq (hrounds : 1 ≤ c.numOfRounds) (hle : c.numOfRounds ≤ c.numOfPlayers)
    {sheets : List Sheet} (hne : sheets ≠ [])
    : c.receive sheets
        =
      some { c with
        sheets := c.sheets ++ sheets
        sheetStacks :=
          (closedRange 1 c.numOfPlayers).map { c with sheets := c.sheets ++ sheets }.stackOf } := by
  induction sheets generalizing c with
  | nil => contradiction
  | cons sheet sheets ih =>
    unfold receive
    rw [List.foldlM_cons, handleDBDataSheets_eq hrounds hle, Option.bind_eq_bind, Option.bind_some]
    cases sheets with
    | nil => rfl
    | cons sheet' sheets =>
      have := ih (c := { c with
        sheets := c.sheets ++ [sheet]
        sheetStacks :=
          (closedRange 1 c.numOfPlayers).map { c with sheets := c.sheets ++ [sheet] }.stackOf })
        hrounds hle (by simp)
      unfold receive at this
      rw [this]
      simp only [List.append_assoc, List.singleton_append]
      rfl

theorem sheetOf_perm {sheets sheets' : List Sheet} (h : sheets.Perm sheets')
    (hslots : (sheets.map slot).Nodup)
    : { c with sheets := sheets }.sheetOf playerNum roundNum
        =
      { c with sheets := sheets' }.sheetOf playerNum roundNum := by
  have hslots' : (sheets'.map slot).Nodup := (h.map slot).nodup_iff.1 hslots
  cases hsheet : { c with sheets := sheets' }.sheetOf playerNum roundNum with
  | none =>
    cases hsheet' : { c with sheets := sheets }.sheetOf playerNum roundNum with
    | none => rfl
    | some s =>
      obtain ⟨hmem, hnumber, hauthor⟩ := sheetOf_eq_some hsheet'
      exact absurd hauthor (sheetOf_eq_none hsheet s (h.mem_iff.1 hmem) hnumber)
  | some s =>
    obtain ⟨hmem, rfl, hauthor⟩ := sheetOf_eq_some hsheet
    exact sheetOf_of_slot hslots (h.mem_iff.2 hmem) hauthor

theorem sheetOf_append {sheets more : List Sheet} {s : Sheet}
    (h : { c with sheets := sheets }.sheetOf playerNum roundNum = some s)
    : { c with sheets := sheets ++ more }.sheetOf playerNum roundNum = some s := by
  unfold sheetOf at h ⊢
  dsimp only at h ⊢
  rw [List.filter_append, List.head?_append, h, Option.some_or]

/-- After the given sheets, every stack on display is part of the one at the same place in the end. -/
def Shows (c : StateControllerSummary) (sheets : List Sheet) (final : List (List Sheet)) : Prop :=
  ∃ c', c.receive sheets = some c'
    ∧
  ∀ (k : Nat) (stack : List Sheet), c'.sheetStacks[k]? = some stack →
    ∃ stack', final[k]? = some stack' ∧ stack.Sublist stack'

theorem shows_of_prefix (hrounds : 1 ≤ c.numOfRounds) (hle : c.numOfRounds ≤ c.numOfPlayers)
    (hsheets : c.sheets = []) (hstacks : c.sheetStacks = []) {first sheets : List Sheet}
    (hfirst : first <+: sheets)
    : c.Shows first ((closedRange 1 c.numOfPlayers).map { c with sheets := sheets }.stackOf) := by
  obtain ⟨more, rfl⟩ := hfirst
  by_cases hfirst : first = []
  . subst hfirst
    refine ⟨c, rfl, ?_⟩
    simp [hstacks]
  . refine ⟨_, receive_eq hrounds hle hfirst, ?_⟩
    intro k stack hstack
    dsimp only at hstack
    rw [hsheets, List.nil_append, List.getElem?_map, Option.map_eq_some_iff] at hstack
    obtain ⟨playerNum, hplayer, rfl⟩ := hstack
    refine ⟨{ c with sheets := first ++ more }.stackOf playerNum, ?_, ?_⟩
    . rw [List.getElem?_map, hplayer]
      rfl
    . apply List.filterMap_sublist_filterMap
      intro roundNum _ s hs
      exact sheetOf_append hs

/--
Whatever the order in which the sheets arrive, the stacks are the same in the end, and on the way
they only lack sheets.
-/
theorem receive_perm (c : StateControllerSummary) (sheets sheets' : List Sheet)
    (hrounds : 1 ≤ c.numOfRounds)
    (hle : c.numOfRounds ≤ c.numOfPlayers)
    (hempty : c.sheets = [] ∧ c.sheetStacks = [])
    (hslots : (sheets.map slot).Nodup)
    (hperm : sheets.Perm sheets')
    : ∃ d d', c.receive sheets = some d
        ∧
      c.receive sheets' = some d'
        ∧
      d.sheetStacks = d'.sheetStacks
        ∧
      (∀ first, first <+: sheets → c.Shows first d.sheetStacks)
        ∧
      ∀ first, first <+: sheets' → c.Shows first d'.sheetStacks := by
  obtain ⟨hsheets, hstacks⟩ := hempty
  -- Before the first sheet the controller has not built any stack.
  by_cases hne : sheets = []
  . subst hne
    obtain rfl := hperm.nil_eq
    refine ⟨c, c, rfl, rfl, rfl, ?_⟩
    simp [Shows, receive, hstacks]
  . have hne' : sheets' ≠ [] := by
      rintro rfl
      exact hne hperm.eq_nil
    refine ⟨_, _, receive_eq hrounds hle hne, receive_eq hrounds hle hne', ?_, ?_, ?_⟩
    . dsimp only
      rw [hsheets, List.nil_append, List.nil_append]
      apply List.map_congr_left
      intro playerNum _
      apply List.filterMap_congr
      intro roundNum _
      exact sheetOf_perm hperm hslots
    . intro first hfirst
      have := shows_of_prefix hrounds hle hsheets hstacks hfirst
      rwa [← List.nil_append sheets, ← hsheets] at this
    . intro first hfirst
      have := shows_of_prefix hrounds hle hsheets hstacks hfirst
      rwa [← List.nil_append sheets', ← hsheets] at this

theorem receive_perm_two_rounds
    : ∃ d d', (init {} 2 2).receive twoRounds.sheets = some d
        ∧
      (init {} 2 2).receive twoRoundsStored = some d'
        ∧
      d.sheetStacks = d'.sheetStacks
        ∧
      (∀ first, first <+: twoRounds.sheets → (init {} 2 2).Shows first d.sheetStacks)
        ∧
      ∀ first, first <+: twoRoundsStored → (init {} 2 2).Shows first d'.sheetStacks :=
  receive_perm (init {} 2 2) twoRounds.sheets twoRoundsStored (by decide) (by decide) ⟨rfl, rfl⟩
    (by decide) (by decide)

end StateControllerSummary

end SCatCh
