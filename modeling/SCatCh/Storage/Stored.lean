import SCatCh.Lib.List
import SCatCh.Storage.Sheet

/-!
This module relates the nested dictionaries below a game's `rounds` node to the list of sheets they
stand for, and shows that `saveSheet` adds a sheet to that list.
-/

namespace SCatCh

def roundsPath (code : Int) : List String := [toString code, GameKeys.rounds.rawValue]

theorem roundPath_eq (code roundNum : Int)
    : roundPath code roundNum = roundsPath code ++ [roundKey roundNum] := rfl

def sheetPath (code : Int) (s : Sheet) : List String := roundPath code s.number ++ [s.id.uuidString]

theorem sheetDict_leaves_ne_nil (authorNum : Int) (content : Content)
    : (sheetDict authorNum content).leaves ≠ [] := by
  cases content <;> simp [sheetDict]

@[simp]
theorem get_authorNum_sheetDict (authorNum : Int) (content : Content)
    : (sheetDict authorNum content).get [SheetKeys.authorNum.rawValue] = .leaf (.int authorNum) := by
  cases content <;> rfl

@[simp]
theorem asDictionary_sheetDict (authorNum : Int) (content : Content)
    : (asDictionary (sheetDict authorNum content)).isSome = true := by
  cases content <;> rfl

/-- The rounds of a game hold exactly the given sheets. -/
structure Stored (db : Database) (code : Int) (sheets : List Sheet) : Prop where
  get_sheet : ∀ s ∈ sheets, db.get (sheetPath code s) = sheetDict s.author.number s.content
  mem_round : ∀ k, k ∈ (db.get (roundsPath code)).keys ↔ ∃ s ∈ sheets, roundKey s.number = k
  mem_sheet : ∀ n k, k ∈ (db.get (roundPath code n)).keys
                        ↔
                      ∃ s ∈ sheets, s.number = n ∧ s.id.uuidString = k

namespace Stored

variable {db db' : Database} {code : Int} {sheets : List Sheet}

theorem of_empty (h : db.get (roundsPath code) = .empty) : Stored db code [] where
  get_sheet := by simp
  mem_round := by simp [h]
  mem_sheet := by
    intro n k
    rw [roundPath_eq, ← PathTree.get_get, h]
    simp

theorem congr (h : db'.get (roundsPath code) = db.get (roundsPath code)) (hs : Stored db code sheets)
    : Stored db' code sheets := by
  have hget : ∀ p, db'.get (roundsPath code ++ p) = db.get (roundsPath code ++ p) := by
    intro p
    rw [← PathTree.get_get, h, PathTree.get_get]
  refine ⟨?_, ?_, ?_⟩
  . intro s hmem
    rw [← hs.get_sheet s hmem]
    exact hget [roundKey s.number, s.id.uuidString]
  . rw [h]
    exact hs.mem_round
  . intro n k
    rw [← hs.mem_sheet, roundPath_eq, hget]

theorem of_mem_iff {sheets' : List Sheet} (h : ∀ s, s ∈ sheets' ↔ s ∈ sheets)
    (hs : Stored db code sheets)
    : Stored db code sheets' where
  get_sheet := by
    intro s hmem
    exact hs.get_sheet s ((h s).1 hmem)
  mem_round := by
    intro k
    simp only [hs.mem_round, h]
  mem_sheet := by
    intro n k
    simp only [hs.mem_sheet, h]

theorem save {s : Sheet} (hs : Stored db code sheets) (hid : ∀ s' ∈ sheets, s'.id = s.id → s' = s)
    : Stored ((Write.sheet code s).apply db) code (s :: sheets) where
  get_sheet := by
    intro s' hmem
    by_cases heq : s' = s
    . subst heq
      exact PathTree.get_set_self _ _ _
    . -- The paths of two sheets differ in the identifier.
      have hmem : s' ∈ sheets := by simpa [heq] using hmem
      have hne : s.id.uuidString ≠ s'.id.uuidString := by
        rw [Ne, UUID.uuidString_inj]
        exact fun h => heq (hid s' hmem h.symm)
      rw [← hs.get_sheet s' hmem]
      apply PathTree.get_set_of_not_prefix
      . simp [Write.path, sheetPath, roundPath, hne]
      . simp [Write.path, sheetPath, roundPath, hne.symm]
  mem_round := by
    intro k
    have hset : ((Write.sheet code s).apply db).get (roundsPath code)
        = (db.get (roundsPath code)).set [roundKey s.number, s.id.uuidString]
            (sheetDict s.author.number s.content) :=
      PathTree.get_set_above db _ (roundsPath code) [roundKey s.number, s.id.uuidString]
    rw [hset]
    by_cases h : roundKey s.number = k
    . subst h
      simp only [List.mem_cons, exists_eq_or_imp, true_or, iff_true]
      exact PathTree.mem_keys_set_cons _ (sheetDict_leaves_ne_nil _ _)
    . rw [PathTree.mem_keys_set_of_ne h, hs.mem_round]
      simp [h]
  mem_sheet := by
    intro n k
    simp only [List.mem_cons, exists_eq_or_imp]
    rw [← hs.mem_sheet]
    by_cases hn : s.number = n
    . subst hn
      have hset : ((Write.sheet code s).apply db).get (roundPath code s.number)
          = (db.get (roundPath code s.number)).set [s.id.uuidString]
              (sheetDict s.author.number s.content) :=
        PathTree.get_set_above db _ (roundPath code s.number) [s.id.uuidString]
      rw [hset]
      by_cases hk : s.id.uuidString = k
      . subst hk
        rw [PathTree.mem_keys_set_self]
        simp [sheetDict_leaves_ne_nil]
      . rw [PathTree.mem_keys_set_of_ne hk]
        simp [hk]
    . have hkey : roundKey s.number ≠ roundKey n := by
        rw [Ne, roundKey_inj]
        exact hn
      have hget : ((Write.sheet code s).apply db).get (roundPath code n) = db.get (roundPath code n) := by
        apply PathTree.get_set_of_not_prefix
        . simp [Write.path, roundPath, hkey]
        . simp [Write.path, roundPath, hkey.symm]
      rw [hget]
      simp [hn]

theorem saveAll (hs : Stored db code sheets) (new : List Sheet)
    (hnew : ((new ++ sheets).map Sheet.id).Nodup)
    : Stored (applyAll (new.map (Write.sheet code)) db) code (new ++ sheets) := by
  induction new generalizing db sheets with
  | nil => exact hs
  | cons s new ih =>
    have hperm : (new ++ s :: sheets).Perm (s :: new ++ sheets) := List.perm_middle
    have hnodup : ((new ++ s :: sheets).map Sheet.id).Nodup := (hperm.map _).nodup_iff.2 hnew
    have hid : ∀ s' ∈ sheets, s'.id = s.id → s' = s := by
      intro s' hmem heq
      exact List.inj_on_of_nodup_map hnew (by simp [hmem]) (by simp) heq
    exact (ih (hs.save hid) hnodup).of_mem_iff fun s => hperm.symm.mem_iff

/-! # What the readers see -/

theorem keys_perm (hs : Stored db code sheets) (hid : (sheets.map Sheet.id).Nodup) (n : Int)
    : (db.get (roundPath code n)).keys.Perm
        ((sheets.filter fun s => s.number = n).map fun s => s.id.uuidString) := by
  have hnodup : ((sheets.filter fun s => s.number = n).map fun s => s.id.uuidString).Nodup := by
    have : ((sheets.filter fun s => s.number = n).map Sheet.id).Nodup :=
      hid.sublist ((List.filter_sublist).map _)
    have hmap := this.map (f := UUID.uuidString) fun u v h => UUID.uuidString_inj.1 h
    simpa [Function.comp_def] using hmap
  rw [List.perm_ext_iff_of_nodup (PathTree.nodup_keys _) hnodup]
  intro k
  rw [hs.mem_sheet]
  simp [and_assoc]

theorem asDictionary_round (hs : Stored db code sheets) {s : Sheet} (h : s ∈ sheets)
    : asDictionary (db.get (roundPath code s.number))
        =
      some (db.get (roundPath code s.number)).keys := by
  apply asDictionary_of_mem_keys
  rw [hs.mem_sheet]
  exact ⟨s, h, rfl, rfl⟩

theorem asDictionary_round_eq_none (hs : Stored db code sheets) {n : Int}
    (h : ∀ s ∈ sheets, s.number ≠ n)
    : asDictionary (db.get (roundPath code n)) = none := by
  apply asDictionary_of_keys_eq_nil
  rw [List.eq_nil_iff_forall_not_mem]
  intro k hk
  rw [hs.mem_sheet] at hk
  obtain ⟨s, hmem, hn, _⟩ := hk
  exact h s hmem hn

end Stored

end SCatCh
