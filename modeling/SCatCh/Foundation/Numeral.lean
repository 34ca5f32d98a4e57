import SCatCh.Foundation.Text

/-!
This module contains `Int(_: String)`, with which the app reads the numbers that a player has typed.
-/

namespace SCatCh

/-- The values of Swift's `Int`. -/
def InInt (n : Int) : Prop := -2 ^ 63 ≤ n ∧ n < 2 ^ 63

instance (n : Int) : Decidable (InInt n) := inferInstanceAs (Decidable (_ ∧ _))

def signed (negative : Bool) (n : Nat) : Int := if negative then -n else n

def parseDigits (negative : Bool) : List Char → Int → Option Int
  | [], value => some value
  | c :: cs, value => do
    let digit ← wholeNumberValue c
    let value := if negative then 10 * value - digit else 10 * value + digit
    -- Each step is checked for overflow.
    if InInt value then parseDigits negative cs value else none

/-- `Int(_: String)` -/
def parseInt (text : String) : Option Int :=
  match text.toList with
  | '-' :: c :: cs => parseDigits true (c :: cs) 0
  | '+' :: c :: cs => parseDigits false (c :: cs) 0
  | c :: cs => parseDigits false (c :: cs) 0
  | [] => none

/-- `toInt` of a string -/
def textToInt (text : String) : Int := (parseInt text).getD 0

/-- What `Int(_: String)` accepts: an optional sign and at least one digit. -/
def IsNumeral (text : String) (n : Int) : Prop :=
  ∃ sign negative digits,
    text.toList = sign ++ digits
      ∧ (sign, negative) ∈ [([], false), (['+'], false), (['-'], true)]
      ∧ digits ≠ []
      ∧ (∀ c ∈ digits, c.isDigit = true)
      ∧ n = signed negative (Nat.ofDigitChars 10 digits 0)

theorem wholeNumberValue_eq_some {c : Char} {n : Int}
    : wholeNumberValue c = some n ↔ c.isDigit = true ∧ n = (c.toNat - '0'.toNat : Nat) := by
  unfold wholeNumberValue
  split
  . next h => simp [h, eq_comm]
  . next h => simp [h]

theorem le_ofDigitChars (cs : List Char) (n : Nat) : n ≤ Nat.ofDigitChars 10 cs n := by
  rw [Nat.ofDigitChars_eq_ofDigitChars_zero]
  have := Nat.le_mul_of_pos_left n (Nat.pow_pos (n := cs.length) (show 0 < 10 by decide))
  omega

theorem signed_append (negative : Bool) (n d : Nat)
    : (if negative then 10 * signed negative n - d else 10 * signed negative n + d)
        =
      signed negative (10 * n + d) := by
  cases negative with
  | false => simp [signed]
  | true =>
    simp only [signed, if_true]
    omega

theorem InInt.of_le {negative : Bool} {m n : Nat} (hn : InInt (signed negative n)) (hle : m ≤ n)
    : InInt (signed negative m) := by
  unfold InInt at *
  cases negative <;> simp only [signed, Bool.false_eq_true, if_false, if_true] at * <;> omega

theorem parseDigits_eq_some_iff {negative : Bool} {cs : List Char} {m : Nat} {n : Int}
    (hm : InInt (signed negative m))
    : parseDigits negative cs (signed negative m) = some n
        ↔
      (∀ c ∈ cs, c.isDigit = true) ∧ n = signed negative (Nat.ofDigitChars 10 cs m) ∧ InInt n := by
  induction cs generalizing m with
  | nil =>
    simp only [parseDigits, Option.some.injEq, List.not_mem_nil, false_imp_iff, implies_true,
      true_and, Nat.ofDigitChars_nil]
    constructor
    . rintro rfl
      exact ⟨rfl, hm⟩
    . rintro ⟨rfl, -⟩
      rfl
  | cons c cs ih =>
    simp only [parseDigits, Option.bind_eq_bind, Option.bind_eq_some_iff, List.forall_mem_cons,
      wholeNumberValue_eq_some, Nat.ofDigitChars_cons]
    constructor
    . rintro ⟨digit, ⟨hdigit, rfl⟩, h⟩
      rw [signed_append] at h
      split at h
      . next hvalue =>
        obtain ⟨hcs, hrest⟩ := (ih hvalue).1 h
        exact ⟨⟨hdigit, hcs⟩, hrest⟩
      . contradiction
    . rintro ⟨⟨hdigit, hcs⟩, rfl, hn⟩
      refine ⟨_, ⟨hdigit, rfl⟩, ?_⟩
      -- A number that is too large on the way is too large in the end.
      have hvalue := hn.of_le (le_ofDigitChars cs _)
      rw [signed_append, if_pos hvalue]
      exact (ih hvalue).2 ⟨hcs, rfl, hn⟩

theorem parseInt_eq_some_iff {text : String} {n : Int}
    : parseInt text = some n ↔ IsNumeral text n ∧ InInt n := by
  have hzero : ∀ negative cs, parseDigits negative cs 0 = some n
      ↔
    (∀ c ∈ cs, c.isDigit = true) ∧ n = signed negative (Nat.ofDigitChars 10 cs 0) ∧ InInt n := by
    intro negative cs
    have hin : InInt (signed negative 0) := by cases negative <;> decide
    have : parseDigits negative cs (signed negative 0) = some n ↔ _ := parseDigits_eq_some_iff hin
    cases negative <;> exact this
  unfold parseInt IsNumeral
  constructor
  . intro h
    split at h
    . next c cs htext =>
      obtain ⟨hdigits, hn, hrange⟩ := (hzero _ _).1 h
      exact ⟨⟨['-'], true, c :: cs, htext, by simp, by simp, hdigits, hn⟩, hrange⟩
    . next c cs htext =>
      obtain ⟨hdigits, hn, hrange⟩ := (hzero _ _).1 h
      exact ⟨⟨['+'], false, c :: cs, htext, by simp, by simp, hdigits, hn⟩, hrange⟩
    . next c cs _ _ htext =>
      obtain ⟨hdigits, hn, hrange⟩ := (hzero _ _).1 h
      exact ⟨⟨[], false, c :: cs, htext, by simp, by simp, hdigits, hn⟩, hrange⟩
    . contradiction
  . rintro ⟨⟨sign, negative, digits, htext, hsign, hne, hdigits, hn⟩, hrange⟩
    rw [htext]
    obtain ⟨c, cs, rfl⟩ := List.exists_cons_of_ne_nil hne
    simp only [List.mem_cons, Prod.mk.injEq, List.not_mem_nil, or_false] at hsign
    rcases hsign with ⟨rfl, rfl⟩ | ⟨rfl, rfl⟩ | ⟨rfl, rfl⟩
    . have hminus : c ≠ '-' := by
        rintro rfl
        exact absurd (hdigits '-' (by simp)) (by decide)
      have hplus : c ≠ '+' := by
        rintro rfl
        exact absurd (hdigits '+' (by simp)) (by decide)
      rw [List.nil_append]
      split
      . next h => exact absurd (List.cons.inj h).1 hminus
      . next h => exact absurd (List.cons.inj h).1 hplus
      . next h =>
        rw [← h]
        exact (hzero _ _).2 ⟨hdigits, hn, hrange⟩
      . next h => contradiction
    . exact (hzero _ _).2 ⟨hdigits, hn, hrange⟩
    . exact (hzero _ _).2 ⟨hdigits, hn, hrange⟩

theorem isNumeral_toString (n : Int) : IsNumeral (toString n) n := by
  cases n with
  | ofNat n =>
    refine ⟨[], false, Nat.toDigits 10 n, ?_, by simp, Nat.toDigits_ne_nil, ?_, ?_⟩
    . rw [Int.ofNat_eq_natCast, toString_ofNat, String.toList_ofList]
      rfl
    . intro c hc
      exact Nat.isDigit_of_mem_toDigits (by decide) (by decide) hc
    . rw [Nat.ofDigitChars_ten_toDigits]
      rfl
  | negSucc n =>
    refine ⟨['-'], true, Nat.toDigits 10 (n + 1), ?_, by simp, Nat.toDigits_ne_nil, ?_, ?_⟩
    . rw [Int.toString_eq_repr, Int.repr_eq_if, if_neg (Int.not_le.2 (Int.negSucc_lt_zero n)),
        String.toList_append, Int.neg_negSucc, Nat.toList_repr]
      rfl
    . intro c hc
      exact Nat.isDigit_of_mem_toDigits (by decide) (by decide) hc
    . rw [Nat.ofDigitChars_ten_toDigits]
      rfl

theorem textToInt_eq_iff {text : String} {n : Int} (hn : n ≠ 0)
    : textToInt text = n ↔ IsNumeral text n ∧ InInt n := by
  rw [← parseInt_eq_some_iff]
  unfold textToInt
  cases parseInt text with
  | none => simp [hn.symm]
  | some m => simp

theorem inInt_textToInt (text : String) : InInt (textToInt text) := by
  unfold textToInt
  cases h : parseInt text with
  | none => decide
  | some n => exact (parseInt_eq_some_iff.1 h).2

theorem textToInt_toString {n : Int} (hn : InInt n) : textToInt (toString n) = n := by
  unfold textToInt
  rw [parseInt_eq_some_iff.2 ⟨isNumeral_toString n, hn⟩]
  rfl

end SCatCh
