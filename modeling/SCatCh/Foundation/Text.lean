import Mathlib

/-!
This module contains the decimal texts of the Swift standard library as far as the app reads them
back: `String(_: Int)`, which is Lean's own `toString`, and `Character.wholeNumberValue`.
-/

namespace SCatCh

/--
`Character.wholeNumberValue` on the ASCII characters. The characters it is asked about are the last
ones of database keys that end in a decimal number.
-/
def wholeNumberValue (c : Char) : Option Int :=
  if c.isDigit then some ((c.toNat - '0'.toNat : Nat) : Int) else none

theorem wholeNumberValue_digitChar {d : Nat} (h : d < 10)
    : wholeNumberValue d.digitChar = some (d : Int) := by
  have : ∀ d : Fin 10, wholeNumberValue (Nat.digitChar d.val) = some (d.val : Int) := by decide
  exact this ⟨d, h⟩

theorem toString_ofNat (n : Nat) : toString (n : Int) = String.ofList (Nat.toDigits 10 n) := by
  rw [← Nat.toString_eq_ofList_toDigits]
  rfl

theorem getLast?_toDigits (n : Nat) : (Nat.toDigits 10 n).getLast? = some (n % 10).digitChar := by
  rw [Nat.toDigits_eq_if (by decide)]
  split
  . next h => simp [Nat.mod_eq_of_lt h]
  . simp

theorem toString_inj {m n : Int} : toString m = toString n ↔ m = n := Int.repr_inj

end SCatCh
