import SCatCh.Foundation.Text
import SCatCh.Foundation.UUID
import SCatCh.Foundation.Date

/-!
This module contains the app's data model: players, sheets and game settings.
-/

namespace SCatCh

structure WaitingPlayer where
  id : UUID
  nickname : String
  joinDate : Date
  deriving DecidableEq

structure Player where
  id : UUID
  nickname : String := "One Player"
  number : Int := 0
  deriving DecidableEq, Inhabited

/--
An image is given by its JPEG data. Coding and decoding are not modelled, so that an image is its
own data.
-/
structure UIImage where
  jpegData : List UInt8
  deriving DecidableEq

namespace UIImage

/-- The images of the app bundle stand for themselves by their names. -/
def named (name : String) : UIImage := ⟨name.toUTF8.toList⟩

def blank : UIImage := ⟨[]⟩

end UIImage

/-- The two kinds of sheets, `GuessSheet` and `DrawingSheet`, with their contents. -/
inductive Content where
  | guess (content : String)
  | drawing (content : UIImage)
  deriving DecidableEq

structure Sheet where
  id : UUID
  author : Player
  number : Int
  content : Content
  deriving DecidableEq

/-- What identifies a sheet to the players: everything but the author's name and identifier. -/
def Sheet.record (s : Sheet) : UUID × Int × Int × Content := (s.id, s.author.number, s.number, s.content)

theorem Sheet.record_inj {s t : Sheet}
    : s.record = t.record
        ↔
      s.id = t.id ∧ s.author.number = t.author.number ∧ s.number = t.number ∧ s.content = t.content := by
  simp [Sheet.record]

structure GameSettings where
  roundTime : Int := 0
  topic : String := ""
  code : Int := 0
  maxNumOfRounds : Int := 0
  deriving DecidableEq

/-- The smallest and the largest value that the stepper of the host screen lets a host choose. -/
def minimumNumOfRounds : Int := 3

def maximumNumOfRounds : Int := 11

def closedRange (a b : Int) : List Int := (List.range (b + 1 - a).toNat).map fun k : Nat => a + (k : Int)

@[simp]
theorem mem_closedRange {a b n : Int} : n ∈ closedRange a b ↔ a ≤ n ∧ n ≤ b := by
  simp only [closedRange, List.mem_map, List.mem_range]
  constructor
  . rintro ⟨k, hk, rfl⟩
    omega
  . intro h
    exact ⟨(n - a).toNat, by omega, by omega⟩

theorem nodup_closedRange (a b : Int) : (closedRange a b).Nodup := by
  unfold closedRange
  apply List.Nodup.map _ List.nodup_range
  intro k k' h
  simpa using h

theorem pairwise_closedRange (a b : Int) : (closedRange a b).Pairwise (· < ·) := by
  unfold closedRange
  rw [List.pairwise_map]
  apply List.pairwise_lt_range.imp
  intro k k' h
  omega

@[simp]
theorem length_closedRange (a b : Int) : (closedRange a b).length = (b + 1 - a).toNat := by
  simp [closedRange]

theorem closedRange_append {a m b : Int} (ha : a ≤ m + 1) (hb : m ≤ b)
    : closedRange a b = closedRange a m ++ closedRange (m + 1) b := by
  have hlen : (b + 1 - a).toNat = (m + 1 - a).toNat + (b + 1 - (m + 1)).toNat := by omega
  unfold closedRange
  rw [hlen, List.range_add, List.map_append, List.map_map]
  congr 1
  apply List.map_congr_left
  intro k _
  simp only [Function.comp_apply]
  omega

theorem closedRange_cons {a b : Int} (h : a ≤ b) : closedRange a b = a :: closedRange (a + 1) b := by
  rw [closedRange_append (m := a) (by omega) h]
  simp [closedRange]

/-- `a...b` traps if it would be empty. -/
def closedRange? (a b : Int) : Option (List Int) := if a ≤ b then some (closedRange a b) else none

theorem closedRange?_of_le {a b : Int} (h : a ≤ b) : closedRange? a b = some (closedRange a b) := by
  simp [closedRange?, h]

/-- `a % b` has the sign of `a`, and traps if `b` is zero. -/
def remainder (a b : Int) : Option Int := if b = 0 then none else some (a.tmod b)

theorem remainder_of_nonneg {a b : Int} (ha : 0 ≤ a) (hb : 0 < b) : remainder a b = some (a % b) := by
  have : b ≠ 0 := by omega
  simp [remainder, this, Int.tmod_eq_emod_of_nonneg ha]

end SCatCh
