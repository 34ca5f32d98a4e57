import SCatCh.Storage.Stored
import SCatCh.Storage.Summary

/-!
This module contains the round trip from `StorageController_Sheet.saveSheet` to
`StorageController_Summary.getAllSheets`.
-/

namespace SCatCh

/-- The players of a game are numbered from 1 to `numOfPlayers`. -/
structure Roster (db : Database) (code numOfPlayers : Int) : Prop where
  uuid : ∀ k ∈ (db.get (playersPath code)).keys, (UUID.ofString? k).isSome = true
  entry : ∀ k ∈ (db.get (playersPath code)).keys, (asDictionary (db.get (playerPath code k))).isSome = true
  numbers : ((db.get (playersPath code)).keys.map fun k =>
              toInt (db.get (playerPath code k ++ [PlayerKeys.number.rawValue]))).Perm
            (closedRange 1 numOfPlayers)

namespace Roster

variable {db db' : Database} {code numOfPlayers : Int}

theorem congr (h : db'.get (playersPath code) = db.get (playersPath code))
    (hr : Roster db code numOfPlayers)
    : Roster db' code numOfPlayers := by
  have hget : ∀ p, db'.get (playersPath code ++ p) = db.get (playersPath code ++ p) := by
    intro p
    rw [← PathTree.get_get, h, PathTree.get_get]
  have hpath : ∀ k, playerPath code k = playersPath code ++ [k] := fun _ => rfl
  refine ⟨?_, ?_, ?_⟩
  . rw [h]
    exact hr.uuid
  . rw [h]
    intro k hk
    rw [hpath, hget]
    exact hr.entry k hk
  . simp only [h, hpath, List.append_assoc, hget]
    exact hr.numbers

theorem asDictionary_players (hr : Roster db code numOfPlayers) (hpos : 1 ≤ numOfPlayers)
    : (asDictionary (db.get (playersPath code))).isSome = true := by
  have hlen := hr.numbers.length_eq
  simp only [List.length_map, length_closedRange] at hlen
  have hne : (db.get (playersPath code)).keys ≠ [] := by
    intro h
    rw [h, List.length_nil] at hlen
    omega
  obtain ⟨k, hk⟩ := List.exists_mem_of_ne_nil _ hne
  rw [asDictionary_of_mem_keys hk]
  rfl

theorem buildPlayersArray (hr : Roster db code numOfPlayers) (o : IterationOrder)
    : ∃ players,
        StorageController.buildPlayersArray StorageController.buildPlayer o (db.get (playersPath code))
          =
        some players
          ∧
        (players.map Player.number).Perm (closedRange 1 numOfPlayers) := by
  have hentry : ∀ k ∈ (db.get (playersPath code)).keys, ∃ player : Player,
      StorageController.buildPlayer k ((db.get (playersPath code)).get [k]) = some player
        ∧
      player.number = toInt (db.get (playerPath code k ++ [PlayerKeys.number.rawValue])) := by
    intro k hk
    obtain ⟨u, hu⟩ := Option.isSome_iff_exists.1 (hr.uuid k hk)
    simp only [StorageController.buildPlayer, hu, PathTree.get_get]
    exact ⟨_, rfl, rfl⟩
  choose! player hplayer hnumber using hentry
  refine ⟨(o.order (db.get (playersPath code)).keys).map player, ?_, ?_⟩
  . apply StorageController.buildPlayersArray_eq
    . intro k hk
      rw [PathTree.get_get]
      exact hr.entry k hk
    . exact hplayer
  . refine List.Perm.trans ?_ hr.numbers
    rw [List.map_map]
    refine ((o.perm _).map _).trans ?_
    apply List.Perm.of_eq
    apply List.map_congr_left
    intro k hk
    exact hnumber k hk

end Roster

instance (db : Database) (code numOfPlayers : Int) : Decidable (Roster db code numOfPlayers) :=
  decidable_of_iff
    ((∀ k ∈ (db.get (playersPath code)).keys, (UUID.ofString? k).isSome = true)
      ∧
    (∀ k ∈ (db.get (playersPath code)).keys, (asDictionary (db.get (playerPath code k))).isSome = true)
      ∧
    ((db.get (playersPath code)).keys.map fun k =>
      toInt (db.get (playerPath code k ++ [PlayerKeys.number.rawValue]))).Perm
        (closedRange 1 numOfPlayers))
    ⟨fun h => ⟨h.1, h.2.1, h.2.2⟩, fun h => ⟨h.uuid, h.entry, h.numbers⟩⟩

def saved (code : Int) (sheets : List Sheet) (db : Database) : Database :=
  applyAll (sheets.map fun s => (StorageControllerSheet.saveSheet code s).1) db

def uploaded (code : Int) (sheets : List Sheet) (images : Images) : Images :=
  (sheets.filterMap fun s => (StorageControllerSheet.saveSheet code s).2).foldl Images.putData images

theorem saved_eq (code : Int) (sheets : List Sheet) (db : Database)
    : saved code sheets db = applyAll (sheets.map (Write.sheet code)) db := by
  simp [saved, StorageControllerSheet.saveSheet_fst]

theorem get_players_applyAll_sheet (code : Int) (sheets : List Sheet) (db : Database)
    : (applyAll (sheets.map (Write.sheet code)) db).get (playersPath code) = db.get (playersPath code) := by
  induction sheets generalizing db with
  | nil => rfl
  | cons s sheets ih =>
    rw [List.map_cons, applyAll_cons, ih]
    apply PathTree.get_set_of_not_prefix
    . simp [Write.path, roundPath, playersPath, GameKeys.rawValue]
    . simp [Write.path, roundPath, playersPath, GameKeys.rawValue]

theorem foldl_putData_of_not_mem {uploads : List (String × List UInt8)} {images : Images}
    {path : String} (h : ∀ u ∈ uploads, u.1 ≠ path)
    : uploads.foldl Images.putData images path = images path := by
  induction uploads generalizing images with
  | nil => rfl
  | cons u uploads ih =>
    rw [List.foldl_cons, ih fun u hu => h u (by simp [hu])]
    exact Function.update_of_ne (h u (by simp)).symm _ _

theorem uploaded_drawing {code : Int} {sheets : List Sheet} {images : Images} {s : Sheet}
    {image : UIImage} (hids : (sheets.map Sheet.id).Nodup) (hs : s ∈ sheets)
    (himage : s.content = .drawing image)
    : uploaded code sheets images (drawingPath s.id.uuidString) = some image.jpegData := by
  unfold uploaded
  induction sheets generalizing images with
  | nil => simp at hs
  | cons s' sheets ih =>
    rw [List.map_cons, List.nodup_cons] at hids
    rw [List.mem_cons] at hs
    rcases hs with rfl | hs
    . have hup : (StorageControllerSheet.saveSheet code s).2
          = some (drawingPath s.id.uuidString, image.jpegData) :=
        StorageControllerSheet.saveSheet_snd_eq_some.2 ⟨image, himage, rfl⟩
      simp only [List.filterMap_cons, hup]
      rw [List.foldl_cons, foldl_putData_of_not_mem]
      . exact Function.update_self ..
      . intro u hu heq
        rw [List.mem_filterMap] at hu
        obtain ⟨t, ht, hu⟩ := hu
        obtain ⟨_, _, rfl⟩ := StorageControllerSheet.saveSheet_snd_eq_some.1 hu
        rw [drawingPath_inj, UUID.uuidString_inj] at heq
        apply hids.1
        rw [← heq]
        exact List.mem_map_of_mem ht
    . cases hup : (StorageControllerSheet.saveSheet code s').2 with
      | none =>
        simp only [List.filterMap_cons, hup]
        exact ih hids.2 hs
      | some u =>
        simp only [List.filterMap_cons, hup]
        exact ih hids.2 hs

def Downloadable (images : Images) (sheets : List Sheet) : Prop :=
  ∀ s ∈ sheets, ∀ image, s.content = .drawing image →
    images.getData (drawingPath s.id.uuidString) imageMaxSize = some image.jpegData

theorem downloadable_uploaded (code : Int) {sheets : List Sheet} (images : Images)
    (hids : (sheets.map Sheet.id).Nodup)
    (hsize : ∀ s ∈ sheets, ∀ image, s.content = .drawing image → image.jpegData.length ≤ imageMaxSize)
    : Downloadable (uploaded code sheets images) sheets := by
  intro s hs image himage
  unfold Images.getData
  rw [uploaded_drawing hids hs himage]
  simp [hsize s hs image himage]

theorem getSheet_stored {images : Images} {sheets : List Sheet} {s : Sheet}
    (himages : Downloadable images sheets) (hs : s ∈ sheets) (author : Player) (roundNum : Int)
    : StorageController.getSheet images s.id.uuidString author roundNum
        (sheetDict s.author.number s.content)
        =
      some [⟨s.id, author, roundNum, s.content⟩] := by
  unfold StorageController.getSheet
  cases hc : s.content with
  | guess content =>
    have : asString ((sheetDict s.author.number (.guess content)).get [SheetKeys.content.rawValue])
        = some content := rfl
    simp [this]
  | drawing image =>
    have : asString ((sheetDict s.author.number (.drawing image)).get [SheetKeys.content.rawValue])
        = none := rfl
    simp [this, StorageController.getDrawingSheet, himages s hs image hc]

section RoundTrip

variable {db : Database} {images : Images} {code : Int} {sheets : List Sheet} {players : List Player}

def authorOf (players : List Player) (s : Sheet) : Player :=
  ((players.filter fun player => player.number = s.author.number).head?).getD default

theorem head?_filter_number {s : Sheet} (h : s.author.number ∈ players.map Player.number)
    : (players.filter fun player => player.number = s.author.number).head?
        =
      some (authorOf players s)
        ∧
      (authorOf players s).number = s.author.number := by
  rw [List.mem_map] at h
  obtain ⟨player, hmem, hnum⟩ := h
  have hne : (players.filter fun player => player.number = s.author.number) ≠ [] := by
    apply List.ne_nil_of_mem (a := player)
    simp [hmem, hnum]
  unfold authorOf
  cases hf : players.filter fun player => player.number = s.author.number with
  | nil => exact absurd hf hne
  | cons p ps =>
    refine ⟨rfl, ?_⟩
    have : p ∈ players.filter fun player => player.number = s.author.number := by simp [hf]
    simpa using (List.mem_filter.1 this).2

/-- What the reader makes of a sheet: its round is the last digit of the round it was saved in. -/
def readBack (players : List Player) (s : Sheet) : Sheet :=
  ⟨s.id, authorOf players s, s.number % 10, s.content⟩

theorem roundNum_of_roundKey {n : Int} (h : 0 ≤ n)
    : ((roundKey n).toList.getLast?).bind wholeNumberValue = some (n % 10) := by
  obtain ⟨m, rfl⟩ := Int.eq_ofNat_of_zero_le h
  rw [getLast?_roundKey, Option.bind_some, wholeNumberValue_digitChar (Nat.mod_lt _ (by decide))]
  rfl

theorem readSheet_stored (hs : Stored db code sheets) (himages : Downloadable images sheets)
    (hauthors : ∀ s ∈ sheets, s.author.number ∈ players.map Player.number)
    {s : Sheet} (hmem : s ∈ sheets)
    : StorageControllerSummary.readSheet images players (s.number % 10) s.id.uuidString
        ((db.get (roundPath code s.number)).get [s.id.uuidString])
        =
      some [readBack players s] := by
  have hauthor := head?_filter_number (hauthors s hmem)
  rw [PathTree.get_get, ← sheetPath, hs.get_sheet s hmem]
  unfold StorageControllerSummary.readSheet
  simp only [asDictionary_sheetDict, ↓reduceIte, get_authorNum_sheetDict, toInt, asInt_leaf,
    Option.getD_some, hauthor.1]
  exact getSheet_stored himages hmem _ _

theorem readRound_stored (o : IterationOrder) (hs : Stored db code sheets)
    (hids : (sheets.map Sheet.id).Nodup) (himages : Downloadable images sheets)
    (hauthors : ∀ s ∈ sheets, s.author.number ∈ players.map Player.number)
    {n : Int} (hn : 0 ≤ n) (hround : ∃ s ∈ sheets, s.number = n)
    : ∃ out,
        StorageControllerSummary.readRound o images players (roundKey n) (db.get (roundPath code n))
          =
        some out
          ∧
        out.Perm ((sheets.filter fun s => s.number = n).map (readBack players)) := by
  obtain ⟨s₀, hs₀, rfl⟩ := hround
  have hkeys := (o.perm _).trans (hs.keys_perm hids s₀.number)
  have hloop : ((sheets.filter fun s => s.number = s₀.number).map fun s => s.id.uuidString).mapM
      (fun key => StorageControllerSummary.readSheet images players (s₀.number % 10) key
        ((db.get (roundPath code s₀.number)).get [key]))
      = some ((sheets.filter fun s => s.number = s₀.number).map fun s => [readBack players s]) := by
    rw [List.mapM_map]
    apply List.mapM_eq_some_map
    intro s hmem
    rw [List.mem_filter, decide_eq_true_eq] at hmem
    rw [Function.comp_apply, ← hmem.2]
    exact readSheet_stored hs himages hauthors hmem.1
  obtain ⟨out, hout, hperm⟩ := List.exists_mapM_of_perm hkeys hloop
  refine ⟨out.flatten, ?_, ?_⟩
  . unfold StorageControllerSummary.readRound
    rw [roundNum_of_roundKey hn, hs.asDictionary_round hs₀]
    simp only [Option.bind_eq_bind, Option.bind_some, hout]
    rfl
  . refine hperm.flatten.trans ?_
    rw [← List.flatMap_def, ← List.map_eq_flatMap]

theorem getAllSheets_stored (o : IterationOrder) {numOfPlayers : Int} (hpos : 1 ≤ numOfPlayers)
    (hroster : Roster db code numOfPlayers) (hs : Stored db code sheets)
    (hids : (sheets.map Sheet.id).Nodup) (himages : Downloadable images sheets)
    (hauthors : ∀ s ∈ sheets, 1 ≤ s.author.number ∧ s.author.number ≤ numOfPlayers)
    (hnumbers : ∀ s ∈ sheets, 0 ≤ s.number)
    : ∃ out players,
        StorageControllerSummary.getAllSheets o db images code = some out
          ∧
        out.Perm (sheets.map (readBack players))
          ∧
        ∀ s ∈ sheets, (authorOf players s).number = s.author.number := by
  obtain ⟨players, hplayers, hperm⟩ := hroster.buildPlayersArray o
  have hauthors : ∀ s ∈ sheets, s.author.number ∈ players.map Player.number := by
    intro s hmem
    rw [hperm.mem_iff, mem_closedRange]
    exact hauthors s hmem
  have hrounds : ∀ key ∈ (db.get (roundsPath code)).keys, ∃ out,
      StorageControllerSummary.readRound o images players key ((db.get (roundsPath code)).get [key])
        =
      some out
        ∧
      out.Perm ((sheets.filter fun s => roundKey s.number = key).map (readBack players)) := by
    intro key hkey
    rw [hs.mem_round] at hkey
    obtain ⟨s, hmem, rfl⟩ := hkey
    rw [PathTree.get_get, ← roundPath_eq]
    simp only [roundKey_inj]
    exact readRound_stored o hs hids himages hauthors (hnumbers s hmem) ⟨s, hmem, rfl⟩
  choose! read hread hreadPerm using hrounds
  obtain ⟨dict, hdict⟩ := Option.isSome_iff_exists.1 (hroster.asDictionary_players hpos)
  refine ⟨(o.order (db.get (roundsPath code)).keys).flatMap read, players, ?_, ?_, ?_⟩
  . have hloop : (o.order (db.get (roundsPath code)).keys).mapM
        (fun key => StorageControllerSummary.readRound o images players key
          ((db.get (roundsPath code)).get [key]))
        = some ((o.order (db.get (roundsPath code)).keys).map read) := by
      apply List.mapM_eq_some_map
      intro key hkey
      exact hread key ((o.perm _).mem_iff.1 hkey)
    unfold StorageControllerSummary.getAllSheets
    simp only [PathTree.get_get, List.singleton_append]
    rw [← playersPath, ← roundsPath, hdict]
    simp only [hplayers, Option.bind_eq_bind, Option.bind_some]
    -- The node of the rounds is read as a dictionary only if there is a sheet.
    by_cases hnil : sheets = []
    . subst hnil
      have hkeys : (db.get (roundsPath code)).keys = [] := by
        rw [List.eq_nil_iff_forall_not_mem]
        intro k
        simp [hs.mem_round]
      rw [asDictionary_of_keys_eq_nil hkeys, hkeys, (o.perm []).eq_nil]
      rfl
    . obtain ⟨s, hmem⟩ := List.exists_mem_of_ne_nil _ hnil
      have : roundKey s.number ∈ (db.get (roundsPath code)).keys :=
        (hs.mem_round _).2 ⟨s, hmem, rfl⟩
      rw [asDictionary_of_mem_keys this]
      simp only [PathTree.get_get] at hloop
      simp only [hloop, Option.bind_some, List.flatMap_def]
      rfl
  . -- Whatever the order of the rounds, going through them visits each sheet once.
    refine ((o.perm _).flatMap_right read).trans ?_
    refine (List.Perm.flatMap_left _ hreadPerm).trans ?_
    simp only [← List.map_flatMap]
    apply List.Perm.map
    apply List.flatMap_filter_perm _ _ (PathTree.nodup_keys _)
    intro s hmem
    exact (hs.mem_round _).2 ⟨s, hmem, rfl⟩
  . intro s hmem
    exact (head?_filter_number (hauthors s hmem)).2

theorem readReferenceSheet_stored (hs : Stored db code sheets) (himages : Downloadable images sheets)
    (authorNum : Int) (authorId : UUID) {s : Sheet} (hmem : s ∈ sheets)
    : StorageControllerSheet.readReferenceSheet images s.number authorNum authorId s.id.uuidString
        ((db.get (roundPath code s.number)).get [s.id.uuidString])
        =
      some (if s.author.number = authorNum then
          [⟨s.id, { id := authorId, number := authorNum }, s.number, s.content⟩]
        else
          []) := by
  rw [PathTree.get_get, ← sheetPath, hs.get_sheet s hmem]
  unfold StorageControllerSheet.readReferenceSheet
  simp only [asDictionary_sheetDict, get_authorNum_sheetDict, toInt, asInt_leaf, Option.getD_some,
    true_and]
  split
  . exact getSheet_stored himages hmem _ _
  . rfl

theorem getReferenceSheet_stored (o : IterationOrder) (hs : Stored db code sheets)
    (hids : (sheets.map Sheet.id).Nodup) (himages : Downloadable images sheets)
    (roundNum authorNum : Int) (authorId : UUID)
    : ∃ out,
        StorageControllerSheet.getReferenceSheet o db images code roundNum authorNum authorId
          =
        some out
          ∧
        out.Perm
          (((sheets.filter fun s => s.number = roundNum).filter fun s => s.author.number = authorNum).map
            fun s => ⟨s.id, { id := authorId, number := authorNum }, s.number, s.content⟩) := by
  unfold StorageControllerSheet.getReferenceSheet
  by_cases hround : ∀ s ∈ sheets, s.number ≠ roundNum
  . refine ⟨[], ?_, ?_⟩
    . simp only [hs.asDictionary_round_eq_none hround]
    . have : (sheets.filter fun s => s.number = roundNum) = [] := by
        rw [List.filter_eq_nil_iff]
        intro s hmem h
        exact hround s hmem (of_decide_eq_true h)
      simp [this]
  . simp only [not_forall, not_not] at hround
    obtain ⟨s₀, hs₀, rfl⟩ := hround
    have hkeys := (o.perm _).trans (hs.keys_perm hids s₀.number)
    have hloop : ((sheets.filter fun s => s.number = s₀.number).map fun s => s.id.uuidString).mapM
        (fun key => StorageControllerSheet.readReferenceSheet images s₀.number authorNum authorId key
          ((db.get (roundPath code s₀.number)).get [key]))
        = some ((sheets.filter fun s => s.number = s₀.number).map fun s =>
            if s.author.number = authorNum then
              [⟨s.id, { id := authorId, number := authorNum }, s.number, s.content⟩]
            else
              []) := by
      rw [List.mapM_map]
      apply List.mapM_eq_some_map
      intro s hmem
      rw [List.mem_filter, decide_eq_true_eq] at hmem
      rw [Function.comp_apply, ← hmem.2]
      exact readReferenceSheet_stored hs himages authorNum authorId hmem.1
    obtain ⟨out, hout, hperm⟩ := List.exists_mapM_of_perm hkeys hloop
    refine ⟨out.flatten, ?_, hperm.flatten.trans ?_⟩
    . simp only [hs.asDictionary_round hs₀, hout, Option.bind_eq_bind, Option.bind_some]
      rfl
    . rw [← List.flatMap_def]
      apply List.Perm.of_eq
      induction sheets.filter fun s => s.number = s₀.number with
      | nil => rfl
      | cons s rest ih =>
        rw [List.flatMap_cons, ih, List.filter_cons]
        split <;> simp_all

end RoundTrip

theorem stored_saved {db : Database} {code : Int} {sheets : List Sheet}
    (hempty : db.get (roundsPath code) = .empty) (hids : (sheets.map Sheet.id).Nodup)
    : Stored (saved code sheets db) code sheets := by
  rw [saved_eq]
  simpa using (Stored.of_empty hempty).saveAll sheets (by simpa using hids)

theorem getAllSheets_saved (o : IterationOrder) {db : Database} (images : Images)
    {code numOfPlayers : Int} {sheets : List Sheet}
    (hpos : 1 ≤ numOfPlayers)
    (hroster : Roster db code numOfPlayers)
    (hempty : db.get (roundsPath code) = .empty)
    (hids : (sheets.map Sheet.id).Nodup)
    (hauthors : ∀ s ∈ sheets, 1 ≤ s.author.number ∧ s.author.number ≤ numOfPlayers)
    (hnumbers : ∀ s ∈ sheets, 0 ≤ s.number)
    (hsize : ∀ s ∈ sheets, ∀ image, s.content = .drawing image → image.jpegData.length ≤ imageMaxSize)
    : ∃ out,
        StorageControllerSummary.getAllSheets o (saved code sheets db) (uploaded code sheets images) code
          =
        some out
          ∧
        (out.map Sheet.record).Perm
          (sheets.map fun s => (s.id, s.author.number, s.number % 10, s.content)) := by
  have hstored := stored_saved hempty hids
  have hroster' : Roster (saved code sheets db) code numOfPlayers := by
    apply hroster.congr
    rw [saved_eq, get_players_applyAll_sheet]
  obtain ⟨out, players, hout, hperm, hauthor⟩ :=
    getAllSheets_stored o hpos hroster' hstored hids (downloadable_uploaded code images
      hids hsize) hauthors hnumbers
  refine ⟨out, hout, (hperm.map Sheet.record).trans ?_⟩
  rw [List.map_map]
  apply List.Perm.of_eq
  apply List.map_congr_left
  intro s hs
  simp [readBack, Sheet.record, hauthor s hs]

/--
The summary gets exactly the sheets that were saved if and only if no sheet is of a round with more
than one digit. The host screen admits up to eleven rounds.
-/
theorem getAllSheets_saved_iff (o : IterationOrder) (db : Database) (images : Images)
    (code numOfPlayers maxNumOfRounds : Int) (sheets : List Sheet)
    (hpos : 1 ≤ numOfPlayers)
    (hroster : Roster db code numOfPlayers)
    (hempty : db.get (roundsPath code) = .empty)
    (hids : (sheets.map Sheet.id).Nodup)
    (hauthors : ∀ s ∈ sheets, 1 ≤ s.author.number ∧ s.author.number ≤ numOfPlayers)
    (hnumbers : ∀ s ∈ sheets, 1 ≤ s.number ∧ s.number ≤ min numOfPlayers maxNumOfRounds)
    (hsize : ∀ s ∈ sheets, ∀ image, s.content = .drawing image → image.jpegData.length ≤ imageMaxSize)
    : (∃ out,
        StorageControllerSummary.getAllSheets o (saved code sheets db) (uploaded code sheets images) code
          =
        some out
          ∧
        (out.map Sheet.record).Perm (sheets.map Sheet.record))
        ↔
      ∀ s ∈ sheets, s.number ≤ 9 := by
  have hnonneg : ∀ s ∈ sheets, 0 ≤ s.number := by
    intro s hs
    have := hnumbers s hs
    omega
  obtain ⟨out, hout, hrecords⟩ :=
    getAllSheets_saved o images hpos hroster hempty hids hauthors hnonneg hsize
  constructor
  . rintro ⟨out', hout', hperm'⟩ s hs
    rw [hout, Option.some.injEq] at hout'
    subst hout'
    -- The sheet found under the identifier of `s` is `s` itself, with the last digit as its round.
    have hmem : s.record ∈ sheets.map fun s => (s.id, s.author.number, s.number % 10, s.content) := by
      rw [← hrecords.mem_iff, hperm'.mem_iff]
      exact List.mem_map_of_mem hs
    rw [List.mem_map] at hmem
    obtain ⟨s', hs', heq⟩ := hmem
    simp only [Sheet.record, Prod.mk.injEq] at heq
    have hsame : s' = s := List.inj_on_of_nodup_map hids hs' hs heq.1
    subst hsame
    omega
  . intro h
    refine ⟨out, hout, hrecords.trans ?_⟩
    apply List.Perm.of_eq
    apply List.map_congr_left
    intro s hs
    have h₁ := hnumbers s hs
    have h₂ := h s hs
    have : s.number % 10 = s.number := by omega
    simp [Sheet.record, this]

def numberedGame (code maxNumOfRounds : Int) (numOfPlayers : Nat) : Database :=
  applyAll
    (.game code "None" maxNumOfRounds 60 (.ofNat 1) "Player 1" "2021-05-01 12:00:00"
      :: (List.range' 2 (numOfPlayers - 1)).map
          (fun k => .player code (.ofNat k) "Player" "2021-05-01 12:00:30")
      ++ (List.range' 1 numOfPlayers).map fun k => .number code (UUID.ofNat k).uuidString k)
    .empty

theorem get_rounds_numberedGame (code maxNumOfRounds : Int) (numOfPlayers : Nat)
    : (numberedGame code maxNumOfRounds numOfPlayers).get (roundsPath code) = .empty := by
  have hframe : ∀ (ws : List Write) (db : Database),
      (∀ w ∈ ws, ∃ k p, w.path = playerPath code k ++ p) →
        (applyAll ws db).get (roundsPath code) = db.get (roundsPath code) := by
    intro ws
    induction ws with
    | nil => simp
    | cons w ws ih =>
      intro db h
      obtain ⟨k, p, hpath⟩ := h w (by simp)
      rw [applyAll_cons, ih _ fun w hw => h w (by simp [hw])]
      apply PathTree.get_set_of_not_prefix
      . simp [hpath, playerPath, roundsPath, GameKeys.rawValue]
      . simp [hpath, playerPath, roundsPath, GameKeys.rawValue]
  unfold numberedGame
  rw [List.cons_append, applyAll_cons, hframe]
  . exact PathTree.get_set_append _ _ [toString code] [GameKeys.rounds.rawValue]
  . intro w hw
    rw [List.mem_append, List.mem_map, List.mem_map] at hw
    rcases hw with ⟨k, _, rfl⟩ | ⟨k, _, rfl⟩
    . exact ⟨_, [], rfl⟩
    . exact ⟨_, _, rfl⟩

def guessSheet (id : Nat) (authorNum roundNum : Int) : Sheet :=
  ⟨.ofNat id, { id := .ofNat authorNum.toNat, number := authorNum }, roundNum, .guess "a cat"⟩

def drawingSheet (id : Nat) (authorNum roundNum : Int) : Sheet :=
  ⟨.ofNat id, { id := .ofNat authorNum.toNat, number := authorNum }, roundNum, .drawing ⟨[1, 2]⟩⟩

theorem getAllSheets_saved_two_rounds
    : ∃ out,
        StorageControllerSummary.getAllSheets .listed
          (saved 123456 [guessSheet 10 1 1, drawingSheet 11 2 2] (numberedGame 123456 3 2))
          (uploaded 123456 [guessSheet 10 1 1, drawingSheet 11 2 2] fun _ => none) 123456
          =
        some out
          ∧
        (out.map Sheet.record).Perm
          ([guessSheet 10 1 1, drawingSheet 11 2 2].map Sheet.record) :=
  (getAllSheets_saved_iff .listed (numberedGame 123456 3 2) (fun _ => none) 123456 2 3
    [guessSheet 10 1 1, drawingSheet 11 2 2] (by decide) (by decide +kernel)
    (get_rounds_numberedGame _ _ _) (by decide) (by decide) (by decide)
    (by simp [guessSheet, drawingSheet, imageMaxSize])).2 (by decide)

/-- Ten players who play ten rounds: the sheet of round 10 is handed to the summary as one of round 0. -/
theorem getAllSheets_saved_round_ten
    : Roster (numberedGame 123456 10 10) 123456 10
        ∧
      (minimumNumOfRounds ≤ 10 ∧ 10 ≤ maximumNumOfRounds)
        ∧
      (guessSheet 11 1 10).number ≤ min 10 10
        ∧
      (numberedGame 123456 10 10).get (roundsPath 123456) = .empty
        ∧
      ¬∃ out,
        StorageControllerSummary.getAllSheets .listed
          (saved 123456 [guessSheet 11 1 10] (numberedGame 123456 10 10))
          (uploaded 123456 [guessSheet 11 1 10] fun _ => none) 123456
          =
        some out
          ∧
        (out.map Sheet.record).Perm ([guessSheet 11 1 10].map Sheet.record) := by
  have hroster : Roster (numberedGame 123456 10 10) 123456 10 := by decide +kernel
  have hempty := get_rounds_numberedGame 123456 10 10
  refine ⟨hroster, by decide, by decide, hempty, ?_⟩
  rintro ⟨out, hout, hperm⟩
  obtain ⟨out', hout', hperm'⟩ :=
    getAllSheets_saved .listed (fun _ => none) (by decide) hroster hempty
      (show ([guessSheet 11 1 10].map Sheet.id).Nodup by simp) (by simp [guessSheet]) (by simp [guessSheet])
      (by simp [guessSheet])
  rw [hout, Option.some.injEq] at hout'
  subst hout'
  have := (hperm.symm.trans hperm').mem_iff (a := (guessSheet 11 1 10).record)
  simp [Sheet.record, guessSheet] at this

end SCatCh
