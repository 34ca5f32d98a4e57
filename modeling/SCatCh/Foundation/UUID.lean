import Mathlib

/-!
This module contains the part of Foundation's `UUID` that the app uses: the 128 bits, here as 32
hexadecimal digits, the text `uuidString` under which players and sheets are stored, and the
initializer `UUID(uuidString:)` that reads such a text back.
-/

namespace SCatCh

structure UUID where
  digits : List (Fin 16)
  length_digits : digits.length = 32
  deriving DecidableEq

namespace UUID

/-- The identifier with the given number; the app only ever uses randomly drawn ones. -/
def ofNat (n : Nat) : UUID where
  digits := (List.range 32).reverse.map fun i => ⟨n / 16 ^ i % 16, by omega⟩
  length_digits := by simp

instance : Inhabited UUID := ⟨ofNat 0⟩

def hexDigit (d : Fin 16) : Char :=
  if d.val < 10 then Char.ofNat (48 + d.val) else Char.ofNat (55 + d.val)

def hexValue (c : Char) : Option (Fin 16) :=
  if '0' ≤ c ∧ c ≤ '9' then
    some (Fin.ofNat 16 (c.toNat - 48))
  else if 'A' ≤ c ∧ c ≤ 'F' then
    some (Fin.ofNat 16 (c.toNat - 55))
  else if 'a' ≤ c ∧ c ≤ 'f' then
    some (Fin.ofNat 16 (c.toNat - 87))
  else
    none

theorem hexValue_hexDigit : ∀ d : Fin 16, hexValue (hexDigit d) = some d := by
  decide

def render : List Nat → List (Fin 16) → List Char
  | [], ds => ds.map hexDigit
  | g :: gs, ds => (ds.take g).map hexDigit ++ '-' :: render gs (ds.drop g)

def parse : List Nat → List Char → Option (List (Fin 16))
  | [], cs => cs.mapM hexValue
  | g :: gs, cs =>
    match cs.drop g with
    | '-' :: rest => do
      let first ← (cs.take g).mapM hexValue
      let others ← parse gs rest
      return first ++ others
    | _ => none

def groups : List Nat := [8, 4, 4, 4]

def uuidString (u : UUID) : String := String.ofList (render groups u.digits)

/-- `UUID(uuidString:)` -/
def ofString? (s : String) : Option UUID :=
  match parse groups s.toList with
  | some ds => if h : ds.length = 32 then some ⟨ds, h⟩ else none
  | none => none

theorem mapM_hexValue_map (ds : List (Fin 16)) : (ds.map hexDigit).mapM hexValue = some ds := by
  induction ds with
  | nil => rfl
  | cons d ds ih => simp [hexValue_hexDigit, ih]

theorem parse_render (gs : List Nat) (ds : List (Fin 16)) (h : gs.sum ≤ ds.length)
    : parse gs (render gs ds) = some ds := by
  induction gs generalizing ds with
  | nil =>
    simp only [render, parse]
    apply mapM_hexValue_map
  | cons g gs ih =>
    rw [List.sum_cons] at h
    have hlen : ((ds.take g).map hexDigit).length = g := by
      rw [List.length_map, List.length_take]
      omega
    have hrest : parse gs (render gs (ds.drop g)) = some (ds.drop g) := by
      apply ih
      rw [List.length_drop]
      omega
    simp only [render, parse]
    rw [List.drop_left' hlen, List.take_left' hlen]
    simp only [mapM_hexValue_map, hrest, Option.bind_eq_bind, Option.bind_some, Option.pure_def,
      List.take_append_drop]

@[simp]
theorem ofString?_uuidString (u : UUID) : ofString? u.uuidString = some u := by
  have h : parse groups (render groups u.digits) = some u.digits := by
    apply parse_render
    rw [u.length_digits]
    decide
  unfold ofString? uuidString
  rw [String.toList_ofList, h]
  simp [u.length_digits]

theorem uuidString_inj {u v : UUID} : u.uuidString = v.uuidString ↔ u = v := by
  constructor
  . intro h
    have := congrArg ofString? h
    simpa using this
  . rintro rfl
    rfl

end UUID

end SCatCh
