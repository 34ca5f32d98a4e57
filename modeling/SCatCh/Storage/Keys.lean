import SCatCh.Model

/-!
This module contains the names of the database's fields (`DatabaseKeys.swift`).
-/

namespace SCatCh

/-- 1KB = 1024 bytes -/
def imageMaxSize : Nat := 1 * 1024 * 1024 / 2

inductive PlayerKeys where
  | id
  | nickname
  | joinDate
  | number

def PlayerKeys.rawValue : PlayerKeys → String
  | id => "id"
  | nickname => "nickname"
  | joinDate => "joinDate"
  | number => "number"

inductive SheetKeys where
  | content
  | authorNum

def SheetKeys.rawValue : SheetKeys → String
  | content => "content"
  | authorNum => "authorNum"

inductive GameKeys where
  | topic
  | maxNumOfRounds
  | roundTime
  | code
  | roundNum
  | players
  | rounds
  | round

def GameKeys.rawValue : GameKeys → String
  | topic => "topic"
  | maxNumOfRounds => "maxNumOfRounds"
  | roundTime => "roundTime"
  | code => "code"
  | roundNum => "roundNum"
  | players => "players"
  | rounds => "rounds"
  | round => "round_"

def roundKey (roundNum : Int) : String := GameKeys.round.rawValue ++ toString roundNum

theorem roundKey_inj {m n : Int} : roundKey m = roundKey n ↔ m = n := by
  unfold roundKey
  rw [String.append_right_inj, toString_inj]

theorem getLast?_roundKey (n : Nat)
    : (roundKey n).toList.getLast? = some (n % 10).digitChar := by
  unfold roundKey
  rw [toString_ofNat, String.toList_append, String.toList_ofList, List.getLast?_append,
    getLast?_toDigits]
  rfl

def drawingPath (id : String) : String := "/drawings/" ++ id ++ ".jpg"

theorem drawingPath_inj {s t : String} : drawingPath s = drawingPath t ↔ s = t := by
  unfold drawingPath
  rw [String.append_left_inj, String.append_right_inj]

end SCatCh
