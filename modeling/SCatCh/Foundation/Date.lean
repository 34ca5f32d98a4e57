import Mathlib.Init
import Mathlib.Data.List.Basic
import Mathlib.Algebra.Order.Group.Nat

/-!
This module contains points in time and the texts that a `DateFormatter` with the pattern
`yyyy-MM-dd HH:mm:ss` writes and reads in a given time zone (`Extensions_Model.swift`). The calendar
is the proleptic Gregorian one, computed over days counted from March 1st of the year 0, so that the
leap day is the last day of a year.
-/

namespace SCatCh

/-- Instants, counted from the beginning of the year 1. -/
structure Date where
  nanoseconds : Nat
  deriving DecidableEq, Repr

def Date.seconds (d : Date) : Nat := d.nanoseconds / 1000000000

/--
How far the clocks of a zone are from those of Greenwich may depend on the instant. A local time that
they show twice is read as one of the two instants, and one that they skip is refused.
-/
structure TimeZone where
  secondsFromGMT : Nat → Int
  lower (t : Nat) : -86400 < secondsFromGMT t
  upper (t : Nat) : secondsFromGMT t < 86400
  instant? : Int → Option Nat
  shows_instant? (s : Int) (t : Nat) : instant? s = some t → t + secondsFromGMT t = s
  isSome_instant? (t : Nat) : (instant? (t + secondsFromGMT t)).isSome = true

namespace TimeZone

def fixed (offset : Int) (lower : -86400 < offset) (upper : offset < 86400) : TimeZone where
  secondsFromGMT := fun _ => offset
  lower := fun _ => lower
  upper := fun _ => upper
  instant? := fun s => if offset ≤ s then some (s - offset).toNat else none
  shows_instant? := by
    intro s t h
    rw [Option.ite_none_right_eq_some, Option.some.injEq] at h
    omega
  isSome_instant? := by
    intro t
    rw [if_pos (by omega)]
    rfl

def gmt : TimeZone := fixed 0 (by decide) (by decide)

/-- What the clocks of a zone show, in seconds from the beginning of the year 1. -/
def localTime (zone : TimeZone) (d : Date) : Int := d.seconds + zone.secondsFromGMT d.seconds

theorem isSome_instant?_iff {zone : TimeZone} {s : Int}
    : (zone.instant? s).isSome = true ↔ ∃ t : Nat, t + zone.secondsFromGMT t = s := by
  constructor
  . intro h
    obtain ⟨t, ht⟩ := Option.isSome_iff_exists.1 h
    exact ⟨t, zone.shows_instant? s t ht⟩
  . rintro ⟨t, rfl⟩
    exact zone.isSome_instant? t

end TimeZone

namespace Calendar

structure Day where
  year : Nat
  month : Nat
  day : Nat
  deriving DecidableEq, Repr

def epoch : Nat := 306

def century (doe : Nat) : Nat := min (doe / 36524) 3

def yearOfSpan (dos : Nat) : Nat := min (dos / 365) 3

/-- The year, starting in March, within an era of 400 years. -/
def yearOfEra (doe : Nat) : Nat :=
  let doc := doe - 36524 * century doe
  100 * century doe + 4 * (doc / 1461) + yearOfSpan (doc % 1461)

def daysBeforeYear (yoe : Nat) : Nat := 365 * yoe + yoe / 4 - yoe / 100

def daysBeforeMonth (mp : Nat) : Nat := (153 * mp + 2) / 5

def ofDays (n : Nat) : Day :=
  let doe := n % 146097
  let yoe := yearOfEra doe
  let doy := doe - daysBeforeYear yoe
  let mp := (5 * doy + 2) / 153
  let month := if mp < 10 then mp + 3 else mp - 9
  { year := if month ≤ 2 then yoe + 400 * (n / 146097) + 1 else yoe + 400 * (n / 146097)
    month := month
    day := doy - daysBeforeMonth mp + 1 }

def toDays (d : Day) : Nat :=
  let year := if d.month ≤ 2 then d.year - 1 else d.year
  let mp := if d.month ≤ 2 then d.month + 9 else d.month - 3
  146097 * (year / 400) + daysBeforeYear (year % 400) + daysBeforeMonth mp + d.day - 1

theorem yearOfEra_le {doe : Nat} (h : doe < 146097) : yearOfEra doe ≤ 399 := by
  unfold yearOfEra century yearOfSpan
  dsimp only
  omega

theorem daysBeforeYear_le {doe : Nat} (h : doe < 146097)
    : daysBeforeYear (yearOfEra doe) ≤ doe ∧ doe ≤ daysBeforeYear (yearOfEra doe) + 365 := by
  have hc : century doe ≤ 3 := by
    unfold century
    omega
  have hdoc : 36524 * century doe ≤ doe ∧ doe ≤ 36524 * century doe + 36524 := by
    unfold century
    omega
  unfold yearOfEra
  dsimp only
  generalize century doe = c at *
  generalize hd : doe - 36524 * c = doc at *
  have hs : yearOfSpan (doc % 1461) ≤ 3 := by
    unfold yearOfSpan
    omega
  have hdos
      : 365 * yearOfSpan (doc % 1461) ≤ doc % 1461
          ∧
        doc % 1461 ≤ 365 * yearOfSpan (doc % 1461) + 365 := by
    unfold yearOfSpan
    omega
  generalize yearOfSpan (doc % 1461) = y at *
  have h₄ : (100 * c + 4 * (doc / 1461) + y) / 4 = 25 * c + doc / 1461 := by omega
  have h₁₀₀ : (100 * c + 4 * (doc / 1461) + y) / 100 = c := by omega
  unfold daysBeforeYear
  rw [h₄, h₁₀₀]
  omega

theorem daysBeforeMonth_le {doy : Nat} (h : doy ≤ 365)
    : daysBeforeMonth ((5 * doy + 2) / 153) ≤ doy
        ∧
      doy ≤ daysBeforeMonth ((5 * doy + 2) / 153) + 30
        ∧
      (5 * doy + 2) / 153 ≤ 11 := by
  unfold daysBeforeMonth
  omega

theorem toDays_ofParts {era yoe mp day : Nat} (hyoe : yoe ≤ 399) (hmp : mp ≤ 11)
    : let month := if mp < 10 then mp + 3 else mp - 9
      toDays ⟨if month ≤ 2 then yoe + 400 * era + 1 else yoe + 400 * era, month, day + 1⟩
        =
      146097 * era + daysBeforeYear yoe + daysBeforeMonth mp + day := by
  have hmod : (yoe + 400 * era) % 400 = yoe := by omega
  have hdiv : (yoe + 400 * era) / 400 = era := by omega
  unfold toDays
  dsimp only
  by_cases h : mp < 10
  . have h₁ : ¬mp + 3 ≤ 2 := by omega
    simp only [h, ↓reduceIte, h₁, hmod, hdiv, Nat.add_sub_cancel]
    omega
  . have h₁ : mp - 9 ≤ 2 := by omega
    have h₂ : mp - 9 + 9 = mp := by omega
    simp only [h, ↓reduceIte, h₁, h₂, hmod, hdiv, Nat.add_sub_cancel]
    omega

theorem toDays_ofDays (n : Nat) : toDays (ofDays n) = n := by
  have hdoe : n % 146097 < 146097 := Nat.mod_lt _ (by decide)
  have hyear := daysBeforeYear_le hdoe
  have hdoy : n % 146097 - daysBeforeYear (yearOfEra (n % 146097)) ≤ 365 := by omega
  have hmonth := daysBeforeMonth_le hdoy
  unfold ofDays
  dsimp only
  rw [toDays_ofParts (yearOfEra_le hdoe) hmonth.2.2]
  omega

end Calendar

/-! # Texts -/

def padded (width n : Nat) : List Char := (Nat.toDigits 10 n).leftpad width '0'

def number (cs : List Char) : Option Nat :=
  if cs ≠ [] ∧ cs.all Char.isDigit then some (Nat.ofDigitChars 10 cs 0) else none

theorem isDigit_of_mem_padded {width n : Nat} {c : Char} (h : c ∈ padded width n)
    : c.isDigit = true := by
  unfold padded List.leftpad at h
  rw [List.mem_append] at h
  rcases h with h | h
  . rw [List.eq_of_mem_replicate h]
    rfl
  . exact Nat.isDigit_of_mem_toDigits (by decide) (by decide) h

theorem padded_ne_nil (width n : Nat) : padded width n ≠ [] := by
  simp [padded, List.leftpad, Nat.toDigits_ne_nil]

theorem number_padded (width n : Nat) : number (padded width n) = some n := by
  have hall : (padded width n).all Char.isDigit = true := by
    rw [List.all_eq_true]
    intro c hc
    exact isDigit_of_mem_padded hc
  unfold number
  rw [if_pos ⟨padded_ne_nil _ _, hall⟩]
  unfold padded List.leftpad
  rw [Nat.ofDigitChars_append, Nat.ofDigitChars_replicate_zero, Nat.mul_zero,
    Nat.ofDigitChars_ten_toDigits]

def fields : List Char → List Char → Option (List Nat)
  | [], cs => do
    let n ← number cs
    return [n]
  | sep :: seps, cs =>
    match cs.dropWhile Char.isDigit with
    | c :: rest =>
      if c = sep then do
        let n ← number (cs.takeWhile Char.isDigit)
        let ns ← fields seps rest
        return n :: ns
      else
        none
    | [] => none

theorem fields_cons {seps : List Char} {sep : Char} (hsep : sep.isDigit = false) (width n : Nat)
    (cs : List Char)
    : fields (sep :: seps) (padded width n ++ sep :: cs)
        =
      (fields seps cs).map (n :: ·) := by
  have hdrop : (padded width n ++ sep :: cs).dropWhile Char.isDigit = sep :: cs := by
    rw [List.dropWhile_append_of_pos (fun _ h => isDigit_of_mem_padded h)]
    simp [hsep]
  have htake : (padded width n ++ sep :: cs).takeWhile Char.isDigit = padded width n := by
    rw [List.takeWhile_append_of_pos (fun _ h => isDigit_of_mem_padded h)]
    simp [hsep]
  simp only [fields, hdrop, htake, number_padded, ↓reduceIte]
  cases fields seps cs <;> rfl

def separators : List Char := ['-', '-', ' ', ':', ':']

def Date.localSeconds (d : Date) (zone : TimeZone) : Nat :=
  (Calendar.epoch * 86400 + zone.localTime d).toNat

def Date.toString (d : Date) (zone : TimeZone) : String :=
  let seconds := d.localSeconds zone
  let day := Calendar.ofDays (seconds / 86400)
  String.ofList
    (padded 4 day.year ++ '-' :: (padded 2 day.month ++ '-' :: (padded 2 day.day ++ ' ' ::
      (padded 2 (seconds % 86400 / 3600) ++ ':' :: (padded 2 (seconds % 3600 / 60) ++ ':' ::
        padded 2 (seconds % 60))))))

/-- `String.toDate`. A day that its month does not have is refused. -/
def toDate (s : String) (zone : TimeZone) : Option Date :=
  match fields separators s.toList with
  | some [year, month, day, hour, minute, second] =>
    let days := Calendar.toDays ⟨year, month, day⟩
    if Calendar.ofDays days = ⟨year, month, day⟩ ∧ hour < 24 ∧ minute < 60 ∧ second < 60 then
      let seconds := days * 86400 + hour * 3600 + minute * 60 + second
      (zone.instant? ((seconds : Int) - Calendar.epoch * 86400)).map fun t => ⟨t * 1000000000⟩
    else
      none
  | _ => none

theorem toDate_empty (zone : TimeZone) : toDate "" zone = none := by
  rfl

theorem fields_toString (d : Date) (zone : TimeZone)
    : let seconds := d.localSeconds zone
      let day := Calendar.ofDays (seconds / 86400)
      fields separators (d.toString zone).toList
        =
      some [day.year, day.month, day.day, seconds % 86400 / 3600, seconds % 3600 / 60, seconds % 60] := by
  intro seconds day
  simp only [Date.toString, separators, String.toList_ofList]
  rw [fields_cons (by decide), fields_cons (by decide), fields_cons (by decide),
    fields_cons (by decide), fields_cons (by decide)]
  simp [fields, number_padded, seconds, day]

theorem toDate_toString (d : Date) (writer reader : TimeZone)
    : toDate (d.toString writer) reader
        =
      (reader.instant? (writer.localTime d)).map fun t => ⟨t * 1000000000⟩ := by
  unfold toDate
  rw [fields_toString]
  have hlower := writer.lower d.seconds
  have hseconds
      : ((d.localSeconds writer : Nat) : Int) - Calendar.epoch * 86400 = writer.localTime d := by
    unfold Date.localSeconds TimeZone.localTime Calendar.epoch
    omega
  rw [← hseconds]
  generalize d.localSeconds writer = seconds at *
  dsimp only
  rw [Calendar.toDays_ofDays, if_pos ⟨rfl, by omega, by omega, by omega⟩]
  congr 3
  omega

theorem isSome_toDate_toString (d : Date) (zone : TimeZone)
    : (toDate (d.toString zone) zone).isSome = true := by
  rw [toDate_toString, Option.isSome_map]
  exact zone.isSome_instant? d.seconds

end SCatCh
