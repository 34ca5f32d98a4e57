import SCatCh.Storage.Basic

/-!
This module contains `StorageController_Sheet`. Registering and removing its observers is part of the
clients' state.
-/

namespace SCatCh.StorageControllerSheet

/-- The write to the database and, for a drawing, the upload that is started before it. -/
def saveSheet (code : Int) (sheet : Sheet) : Write × Option (String × List UInt8) :=
  match sheet.content with
  | .guess _ => (.sheet code sheet, none)
  | .drawing image => (.sheet code sheet, some (drawingPath sheet.id.uuidString, image.jpegData))

theorem saveSheet_fst (code : Int) (s : Sheet)
    : (saveSheet code s).1 = .sheet code s := by
  unfold saveSheet
  split <;> rfl

theorem saveSheet_snd_eq_some {code : Int} {s : Sheet} {upload : String × List UInt8}
    : (saveSheet code s).2 = some upload
        ↔
      ∃ image, s.content = .drawing image
                ∧
               upload = (drawingPath s.id.uuidString, image.jpegData) := by
  unfold saveSheet
  split
  . next h => simp [h]
  . next image h => simp [h, eq_comm]

/-- What the observer of a round's sheets hands to its handler: the number of sheets. -/
def observeRoundSheets (db : Database) (code roundNum : Int) : Option Int :=
  (asDictionary (db.get (roundPath code roundNum))).map fun sheetsDict => sheetsDict.length

def observeRoundNum (db : Database) (code : Int) : Option Int :=
  asInt (db.get [toString code, GameKeys.roundNum.rawValue])

def updateRoundNum (code roundNum : Int) : Write := .roundNum code roundNum

/-- The body of the loop in `getReferenceSheet`. The author is known by number only. -/
def readReferenceSheet (images : Images) (roundNum authorNum : Int) (authorId : UUID) (key : String)
    (sheetValues : Database)
    : Option (List Sheet) :=
  if (asDictionary sheetValues).isSome
      ∧ toInt (sheetValues.get [SheetKeys.authorNum.rawValue]) = authorNum then
    StorageController.getSheet images key { id := authorId, number := authorNum } roundNum sheetValues
  else
    some []

def getReferenceSheet (o : IterationOrder) (db : Database) (images : Images)
    (code roundNum authorNum : Int) (authorId : UUID)
    : Option (List Sheet) :=
  let round := db.get (roundPath code roundNum)
  match asDictionary round with
  | some sheetsDict => do
    let sheets ← (o.order sheetsDict).mapM fun key =>
      readReferenceSheet images roundNum authorNum authorId key (round.get [key])
    return sheets.flatten
  | none => some []

theorem mem_getReferenceSheet {o : IterationOrder} {db : Database} {images : Images}
    {code roundNum authorNum : Int} {authorId : UUID} {sheets : List Sheet}
    (h : getReferenceSheet o db images code roundNum authorNum authorId = some sheets)
    : ∀ s ∈ sheets, s.number = roundNum ∧ s.author.number = authorNum := by
  unfold getReferenceSheet at h
  intro s hs
  dsimp only at h
  split at h
  . simp only [Option.bind_eq_bind, Option.bind_eq_some_iff, Option.pure_def, Option.some.injEq] at h
    obtain ⟨out, hout, rfl⟩ := h
    rw [List.mem_flatten] at hs
    obtain ⟨read, hread, hs⟩ := hs
    obtain ⟨key, -, hread⟩ := List.mem_of_mapM hout read hread
    unfold readReferenceSheet at hread
    split at hread
    . obtain ⟨hauthor, hnumber⟩ := StorageController.mem_getSheet hread s hs
      exact ⟨hnumber, by rw [hauthor]⟩
    . rw [Option.some.injEq] at hread
      subst hread
      simp at hs
  . rw [Option.some.injEq] at h
    subst h
    simp at hs

end SCatCh.StorageControllerSheet
