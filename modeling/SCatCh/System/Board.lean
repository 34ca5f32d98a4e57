import SCatCh.System.PlayLemmas

/-!
This module contains the abstract view of a game in the database: the number of the round and the
sheets, without paths and keys.
-/

namespace SCatCh

structure Board where
  roundNum : Int
  sheets : List Sheet

namespace Board

def apply (b : Board) : Write → Board
  | .sheet _ sheet => { b with sheets := sheet :: b.sheets }
  | .roundNum _ v => { b with roundNum := v }
  | _ => b

def applyAll (b : Board) (ws : List Write) : Board := ws.foldl apply b

@[simp]
theorem applyAll_nil (b : Board) : b.applyAll [] = b := rfl

@[simp]
theorem applyAll_cons (b : Board) (w : Write) (ws : List Write)
    : b.applyAll (w :: ws) = (b.apply w).applyAll ws := rfl

theorem applyAll_concat (b : Board) (ws : List Write) (w : Write)
    : b.applyAll (ws ++ [w]) = (b.applyAll ws).apply w := by
  simp [applyAll]

theorem mem_apply_sheets {b : Board} {w : Write} {sheet : Sheet}
    : sheet ∈ (b.apply w).sheets ↔ sheet ∈ b.sheets ∨ ∃ code, w = .sheet code sheet := by
  cases w with
  | sheet code sheet' =>
    simp only [apply, List.mem_cons, Write.sheet.injEq]
    constructor
    . rintro (rfl | h)
      . exact .inr ⟨code, rfl, rfl⟩
      . exact .inl h
    . rintro (h | ⟨_, -, rfl⟩)
      . exact .inr h
      . exact .inl rfl
  | game | player | removePlayer | number | roundNum => simp [apply]

theorem mem_applyAll_sheets {b : Board} {ws : List Write} {sheet : Sheet}
    : sheet ∈ (b.applyAll ws).sheets ↔ sheet ∈ b.sheets ∨ ∃ code, .sheet code sheet ∈ ws := by
  induction ws generalizing b with
  | nil => simp
  | cons w ws ih =>
    rw [applyAll_cons, ih, mem_apply_sheets]
    simp only [List.mem_cons, exists_or, or_assoc, @eq_comm _ w]

theorem applyAll_roundNum_of_eq_nil {b : Board} {ws : List Write} (h : roundNums ws = [])
    : (b.applyAll ws).roundNum = b.roundNum := by
  induction ws generalizing b with
  | nil => rfl
  | cons w ws ih =>
    rw [applyAll_cons]
    cases w with
    | roundNum code v => simp at h
    | game | player | removePlayer | number | sheet => exact ih h

def Has (b : Board) (authorNum n : Int) : Prop :=
  ∃ sheet ∈ b.sheets, sheet.author.number = authorNum ∧ sheet.number = n

structure Le (b b' : Board) : Prop where
  roundNum : b'.roundNum = b.roundNum
  sheets : ∀ sheet ∈ b.sheets, sheet ∈ b'.sheets

theorem Le.has {b b' : Board} (h : Le b b') {authorNum n : Int} (hb : b.Has authorNum n)
    : b'.Has authorNum n := by
  obtain ⟨sheet, hmem, hsheet⟩ := hb
  exact ⟨sheet, h.sheets sheet hmem, hsheet⟩

theorem Le.sheet (b : Board) (code : Int) (sheet : Sheet) : Le b (b.apply (.sheet code sheet)) :=
  ⟨rfl, fun _ => List.mem_cons_of_mem _⟩

theorem Le.apply {b b' : Board} (h : Le b b') (w : Write) : Le (b.apply w) (b'.apply w) := by
  cases w with
  | sheet code sheet =>
    refine ⟨h.roundNum, ?_⟩
    intro sheet' hmem
    simp only [Board.apply, List.mem_cons] at hmem ⊢
    exact hmem.imp_right (h.sheets sheet')
  | roundNum code v => exact ⟨rfl, h.sheets⟩
  | game | player | removePlayer | number => exact h

theorem Le.applyAll {b b' : Board} (h : Le b b') (ws : List Write)
    : Le (b.applyAll ws) (b'.applyAll ws) := by
  induction ws generalizing b b' with
  | nil => exact h
  | cons w ws ih => exact ih (h.apply w)

/-! # The database as a board -/

/-- The game in the database is described by the board. -/
structure Represents (db : Database) (code : Int) (b : Board) : Prop where
  stored : Stored db code b.sheets
  roundNum : StorageControllerSheet.observeRoundNum db code = some b.roundNum

variable {db : Database} {code : Int} {b : Board}

theorem Represents.apply (h : Represents db code b) {w : Write} (hw : w.InGame code)
    (hid : ∀ sheet, w = .sheet code sheet → ∀ sheet' ∈ b.sheets, sheet'.id = sheet.id → sheet' = sheet)
    : Represents (w.apply db) code (b.apply w) := by
  cases w with
  | sheet c sheet =>
    subst hw
    refine ⟨h.stored.save (hid sheet rfl), ?_⟩
    rw [observeRoundNum_apply (by exact rfl) (by simp)]
    exact h.roundNum
  | roundNum c v =>
    subst hw
    refine ⟨h.stored.congr ?_, observeRoundNum_roundNum v⟩
    apply PathTree.get_set_of_not_prefix
    . simp [Write.path, roundsPath, GameKeys.rawValue]
    . simp [Write.path, roundsPath, GameKeys.rawValue]
  | number c key n =>
    subst hw
    refine ⟨h.stored.congr ?_, ?_⟩
    . apply PathTree.get_set_of_not_prefix
      . simp [Write.path, playerPath, roundsPath, GameKeys.rawValue]
      . simp [Write.path, playerPath, roundsPath, GameKeys.rawValue]
    . rw [observeRoundNum_apply (by exact rfl) (by simp)]
      exact h.roundNum
  | game | player | removePlayer => exact hw.elim

theorem Represents.applyAll {S : Sheet → Prop} (hids : ∀ x y, S x → S y → x.id = y.id → x = y)
    (h : Represents db code b) (hb : ∀ x ∈ b.sheets, S x) {ws : List Write}
    (hws : ∀ w ∈ ws, w.InGame code ∧ ∀ x, w = .sheet code x → S x)
    : Represents (SCatCh.applyAll ws db) code (b.applyAll ws) := by
  induction ws generalizing db b with
  | nil => exact h
  | cons w ws ih =>
    have hw := hws w (by simp)
    apply ih
    . apply h.apply hw.1
      intro sheet heq sheet' hmem hid
      exact hids _ _ (hb sheet' hmem) (hw.2 sheet heq) hid
    . intro x hx
      cases w with
      | sheet c sheet =>
        rw [Board.apply, List.mem_cons] at hx
        rcases hx with rfl | hx
        . have : c = code := hw.1
          exact hw.2 x (by rw [this])
        . exact hb x hx
      | game | player | removePlayer | number | roundNum => exact hb x hx
    . intro w' hw'
      exact hws w' (by simp [hw'])

end Board

/-! # The authors of a round -/

def authors (db : Database) (code n : Int) : List Int :=
  (db.get (roundPath code n)).keys.map fun key =>
    toInt (db.get (roundPath code n ++ [key, SheetKeys.authorNum.rawValue]))

theorem eq_length_authors {db : Database} {code n v : Int}
    (h : StorageControllerSheet.observeRoundSheets db code n = some v)
    : v = (authors db code n).length := by
  unfold StorageControllerSheet.observeRoundSheets at h
  rw [Option.map_eq_some_iff] at h
  obtain ⟨keys, hkeys, rfl⟩ := h
  rw [asDictionary_eq_some hkeys, authors, List.length_map]

namespace Board

structure OncePerRound (b : Board) (numOfPlayers : Int) : Prop where
  ids : ∀ x ∈ b.sheets, ∀ y ∈ b.sheets, x.id = y.id → x = y
  once : ∀ x ∈ b.sheets, ∀ y ∈ b.sheets,
    x.number = y.number → x.author.number = y.author.number → x = y
  author : ∀ x ∈ b.sheets, 1 ≤ x.author.number ∧ x.author.number ≤ numOfPlayers

variable {db : Database} {code numOfPlayers : Int} {b : Board}

theorem Represents.authors_perm (h : Represents db code b) (hb : b.OncePerRound numOfPlayers) (n : Int)
    : (authors db code n).Perm
        ((b.sheets.dedup.filter fun x => x.number = n).map fun x => x.author.number) := by
  have hmem : ∀ x, x ∈ b.sheets.dedup ↔ x ∈ b.sheets := fun _ => List.mem_dedup
  have hids : (b.sheets.dedup.map Sheet.id).Nodup := by
    apply List.Nodup.map_on _ (List.nodup_dedup _)
    intro x hx y hy hid
    exact hb.ids x ((hmem x).1 hx) y ((hmem y).1 hy) hid
  refine (((h.stored.of_mem_iff hmem).keys_perm hids n).map _).trans ?_
  rw [List.map_map]
  apply List.Perm.of_eq
  apply List.map_congr_left
  intro x hx
  rw [List.mem_filter, hmem, decide_eq_true_eq] at hx
  have hget : db.get (roundPath code n ++ [x.id.uuidString, SheetKeys.authorNum.rawValue])
      = (sheetDict x.author.number x.content).get [SheetKeys.authorNum.rawValue] := by
    rw [← h.stored.get_sheet x hx.1, sheetPath, PathTree.get_get, hx.2]
    simp
  rw [Function.comp_apply, hget, get_authorNum_sheetDict]
  rfl

theorem OncePerRound.nodup_authors (hb : b.OncePerRound numOfPlayers) (n : Int)
    : ((b.sheets.dedup.filter fun x => x.number = n).map fun x => x.author.number).Nodup := by
  apply List.Nodup.map_on _ ((List.nodup_dedup _).filter _)
  intro x hx y hy hauthor
  rw [List.mem_filter, List.mem_dedup, decide_eq_true_eq] at hx hy
  exact hb.once x hx.1 y hy.1 (hx.2.trans hy.2.symm) hauthor

theorem mem_authors_iff {authorNum n : Int}
    : authorNum ∈ ((b.sheets.dedup.filter fun x => x.number = n).map fun x => x.author.number)
        ↔
      b.Has authorNum n := by
  simp only [List.mem_map, List.mem_filter, List.mem_dedup, decide_eq_true_eq, Has]
  constructor
  . rintro ⟨x, ⟨hx, hn⟩, hauthor⟩
    exact ⟨x, hx, hauthor, hn⟩
  . rintro ⟨x, hx, hauthor, hn⟩
    exact ⟨x, ⟨hx, hn⟩, hauthor⟩

theorem Represents.authors_perm_closedRange (h : Represents db code b)
    (hb : b.OncePerRound numOfPlayers) {n : Int}
    (hall : ∀ a, 1 ≤ a → a ≤ numOfPlayers → b.Has a n)
    : (authors db code n).Perm (closedRange 1 numOfPlayers) := by
  refine (h.authors_perm hb n).trans ?_
  rw [List.perm_ext_iff_of_nodup (hb.nodup_authors n) (nodup_closedRange _ _)]
  intro a
  rw [mem_authors_iff, mem_closedRange]
  constructor
  . rintro ⟨x, hx, rfl, -⟩
    exact hb.author x hx
  . rintro ⟨hlow, hhigh⟩
    exact hall a hlow hhigh

theorem Represents.has_of_length_eq (h : Represents db code b) (hb : b.OncePerRound numOfPlayers)
    {n : Int} (hlen : numOfPlayers = (authors db code n).length)
    : ∀ a, 1 ≤ a → a ≤ numOfPlayers → b.Has a n := by
  have hperm := h.authors_perm hb n
  have hsub : ((b.sheets.dedup.filter fun x => x.number = n).map fun x => x.author.number)
      ⊆ closedRange 1 numOfPlayers := by
    intro a ha
    obtain ⟨x, hx, rfl, -⟩ := mem_authors_iff.1 ha
    rw [mem_closedRange]
    exact hb.author x hx
  have hall := (List.subperm_of_subset (hb.nodup_authors n) hsub).perm_of_length_le (by
    rw [length_closedRange, ← hperm.length_eq]
    omega)
  intro a hlow hhigh
  rw [← mem_authors_iff, hall.mem_iff, mem_closedRange]
  exact ⟨hlow, hhigh⟩

end Board

end SCatCh
