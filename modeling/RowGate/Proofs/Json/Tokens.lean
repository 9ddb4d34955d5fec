import Mathlib.Tactic.SplitIfs
import RowGate.Json.Token
import RowGate.Json.Writer

namespace RowGate

/-!
# Reading back tokens

A written string is read back up to its closing quote, whatever stands behind
it.  A written number is read back if what stands behind it cannot belong to a
number; in a document this is a comma, a closing bracket or brace, or nothing.
-/

namespace Json

theorem skipBlanks_of_solid {c : Char} (solid : c ≠ ' ' ∧ c ≠ '\n' ∧ c ≠ '\t' ∧ c ≠ '\r')
    (rest : List Char) : skipBlanks (c :: rest) = c :: rest := by
  simp [skipBlanks, solid]

/-! ## Strings -/

/-- A character is written as an escape of one letter, as the number of its
unit, or as it is. -/
theorem escapeChar_cases (c : Char) :
    (∃ letter, letter ≠ 'u' ∧ escaped? letter = some c ∧ escapeChar c = ['\\', letter]) ∨
      (c.toNat < 32 ∧ escapeChar c =
        ['\\', 'u', '0', '0', Text.Hex.digit (c.toNat / 16), Text.Hex.digit (c.toNat % 16)]) ∨
      (c ≠ '"' ∧ c ≠ '\\' ∧ 32 ≤ c.toNat ∧ escapeChar c = [c]) := by
  have ofCode : ∀ {code : Nat}, c.toNat = code → Char.ofNat code = c := by
    rintro _ rfl
    exact Char.ofNat_toNat c
  unfold escapeChar
  split_ifs with quote backslash control newline carriage tab backspace feed
  · exact .inl ⟨'"', by decide, by simp [escaped?, quote], rfl⟩
  · exact .inl ⟨'\\', by decide, by simp [escaped?, backslash], rfl⟩
  · exact .inl ⟨'n', by decide, by simp [escaped?, newline], rfl⟩
  · exact .inl ⟨'r', by decide, by simp [escaped?, carriage], rfl⟩
  · exact .inl ⟨'t', by decide, by simp [escaped?, tab], rfl⟩
  · exact .inl ⟨'b', by decide, congrArg some (ofCode backspace), rfl⟩
  · exact .inl ⟨'f', by decide, congrArg some (ofCode feed), rfl⟩
  · exact .inr (.inl ⟨control, rfl⟩)
  · exact .inr (.inr ⟨quote, backslash, Nat.le_of_not_lt control, rfl⟩)

/-- The four digits of the unit of a control character. -/
theorem read_controlDigits {code : Nat} (control : code < 32) :
    Text.Hex.read ['0', '0', Text.Hex.digit (code / 16), Text.Hex.digit (code % 16)] =
      some code := by
  have all : ∀ n : Fin 32,
      Text.Hex.read ['0', '0', Text.Hex.digit (n.val / 16), Text.Hex.digit (n.val % 16)] =
        some n.val := by
    decide
  exact all ⟨code, control⟩

theorem scanChars_escapeChar (c : Char) (rest : List Char) :
    scanChars none (escapeChar c ++ rest) =
      (scanChars none rest).map fun scanned => (c :: scanned.1, scanned.2) := by
  rcases escapeChar_cases c with ⟨letter, notUnit, stands, written⟩ | ⟨control, written⟩ |
    ⟨notQuote, notBackslash, plain, written⟩
  · simp [written, scanChars, notUnit, stands]
  · have unit := read_controlDigits control
    have lone : isHighUnit c.toNat = false ∧ isLowUnit c.toNat = false := by
      simp only [isHighUnit, isLowUnit, Bool.and_eq_false_iff, decide_eq_false_iff_not]
      omega
    simp [written, scanChars, unit, lone, Char.ofNat_toNat]
  · have above : ¬ c.toNat < 32 := Nat.not_lt_of_le plain
    simp [written, scanChars, notQuote, notBackslash, above]

theorem scanChars_escape (cs rest : List Char) :
    scanChars none (escape cs ++ '"' :: rest) = .ok (cs, rest) := by
  induction cs with
  | nil => simp [escape, scanChars]
  | cons c more inductionHypothesis =>
      have split : escape (c :: more) ++ '"' :: rest =
          escapeChar c ++ (escape more ++ '"' :: rest) := by
        simp [escape]
      rw [split, scanChars_escapeChar, inductionHypothesis]
      rfl

/-- A written string is read back behind its opening quote. -/
theorem scanString_escape (s : String) (rest : List Char) :
    scanString (escape s.toList ++ '"' :: rest) = .ok (s, rest) := by
  simp [scanString, scanChars_escape, Except.map]

/-! ## Numbers -/

/-- What stands behind a value in a document: nothing, or a character that ends
it. -/
def Delimited (rest : List Char) : Prop :=
  ∀ c ∈ rest.head?, c = ',' ∨ c = ']' ∨ c = '\x7d'

theorem delimited_cons {c : Char} (delimiter : c = ',' ∨ c = ']' ∨ c = '\x7d')
    (rest : List Char) : Delimited (c :: rest) := by
  simpa [Delimited] using delimiter

namespace Number

/-- No number goes on behind a value. -/
theorem not_goesOn {rest : List Char} (delimited : Delimited rest) :
    ∀ c tail, rest = c :: tail → Digit.ofChar? c = none ∧ c ≠ '.' ∧ c ≠ 'e' ∧ c ≠ 'E' := by
  rintro c tail rfl
  rcases delimited c rfl with rfl | rfl | rfl <;> decide

/-- The part of a number text behind its whole part. -/
def tailChars (n : Number) : List Char :=
  (if n.fraction = [] then [] else '.' :: Digits.chars n.fraction) ++
    (n.exponent.map Exponent.chars).getD []

theorem chars_eq (n : Number) :
    n.chars = (if n.negative then ['-'] else []) ++ (Digits.chars n.whole ++ n.tailChars) := by
  simp [chars, tailChars, List.append_assoc]

theorem scanExponent_chars (exponent : Option Exponent) {rest : List Char}
    (delimited : Delimited rest) :
    scanExponent ((exponent.map Exponent.chars).getD [] ++ rest) = some (exponent, rest) := by
  have stops : ∀ c tail, rest = c :: tail → Digit.ofChar? c = none :=
    fun c tail same => (not_goesOn delimited c tail same).1
  cases exponent with
  | none =>
      cases rest with
      | nil => rfl
      | cons c tail =>
          rcases not_goesOn delimited c tail rfl with ⟨_, _, small, large⟩
          simp only [Option.map_none, Option.getD_none, List.nil_append]
          unfold scanExponent
          split <;> simp_all
  | some exponent =>
      rcases exponent with ⟨negative, digits, filled⟩
      cases digits with
      | nil => exact absurd rfl filled
      | cons d more =>
          have run := Digits.span_append (d :: more) stops
          cases negative <;>
            simp [Exponent.chars, scanExponent, scanExponentTail, scanSign, run]

/-- Neither an exponent nor what stands behind a value goes on with digits or a
point. -/
theorem exponent_stops (exponent : Option Exponent) {rest : List Char}
    (delimited : Delimited rest) :
    ∀ c tail, (exponent.map Exponent.chars).getD [] ++ rest = c :: tail →
      Digit.ofChar? c = none ∧ c ≠ '.' := by
  intro c tail same
  cases exponent with
  | none =>
      rcases not_goesOn delimited c tail same with ⟨noDigit, noPoint, _⟩
      exact ⟨noDigit, noPoint⟩
  | some written =>
      have letter : 'e' = c := by simpa [Exponent.chars] using congrArg List.head? same
      subst letter
      decide

theorem scanFraction_chars (n : Number) {rest : List Char} (delimited : Delimited rest) :
    scanFraction (n.tailChars ++ rest) =
      some (n.fraction, (n.exponent.map Exponent.chars).getD [] ++ rest) := by
  have stops := exponent_stops n.exponent delimited
  unfold tailChars
  split
  · next whole =>
    rw [List.nil_append, whole]
    cases behind : (n.exponent.map Exponent.chars).getD [] ++ rest with
    | nil => rfl
    | cons c tail =>
        have noPoint := (stops c tail behind).2
        simp [scanFraction, noPoint]
  · next pointed =>
    have run := Digits.span_append n.fraction fun c tail same => (stops c tail same).1
    rw [List.append_assoc, List.cons_append, scanFraction, run]
    cases digits : n.fraction with
    | nil => exact absurd digits pointed
    | cons d more => rfl

theorem scanUnsigned_chars (n : Number) {rest : List Char} (delimited : Delimited rest) :
    scanUnsigned n.negative (Digits.chars n.whole ++ (n.tailChars ++ rest)) = some (n, rest) := by
  have stops : ∀ c tail, n.tailChars ++ rest = c :: tail → Digit.ofChar? c = none := by
    intro c tail same
    unfold tailChars at same
    split at same
    · exact (exponent_stops n.exponent delimited c tail same).1
    · have point : '.' = c := by simpa using congrArg List.head? same
      subst point
      decide
  have run := Digits.span_append n.whole stops
  simp [scanUnsigned, run, n.whole_plain, scanFraction_chars n delimited,
    scanExponent_chars n.exponent delimited]

theorem toChar_ne_minus (d : Digit) : d.toChar ≠ '-' := by
  revert d
  decide

/-- A written number is read back in front of what delimits it. -/
theorem scan_chars (n : Number) {rest : List Char} (delimited : Delimited rest) :
    scan (n.chars ++ rest) = some (n, rest) := by
  have unsigned := scanUnsigned_chars n delimited
  rw [chars_eq, List.append_assoc, List.append_assoc]
  cases sign : n.negative with
  | true =>
      rw [sign] at unsigned
      exact unsigned
  | false =>
      rw [sign] at unsigned
      cases whole : n.whole with
      | nil => exact absurd whole n.whole_plain.1
      | cons d more =>
          rw [whole] at unsigned
          have noSign := toChar_ne_minus d
          simpa [Digits.chars, scan, noSign] using unsigned

/-- A character that a written number begins with. -/
def Opens (c : Char) : Prop :=
  c = '-' ∨ ∃ d : Digit, c = d.toChar

theorem exists_chars_eq (n : Number) : ∃ c more, n.chars = c :: more ∧ Opens c := by
  rw [chars_eq]
  cases n.negative with
  | true => exact ⟨'-', _, rfl, .inl rfl⟩
  | false =>
      cases whole : n.whole with
      | nil => exact absurd whole n.whole_plain.1
      | cons d more => exact ⟨d.toChar, _, rfl, .inr ⟨d, rfl⟩⟩

end Number

theorem scanSimple_of_opens {c : Char} (opens : Number.Opens c) (rest : List Char) :
    scanSimple (c :: rest) =
      (scanNumber (c :: rest)).map fun scanned => (.number scanned.1, scanned.2) := by
  have digits : ∀ d : Digit, d.toChar ≠ 'n' ∧ d.toChar ≠ 't' ∧ d.toChar ≠ 'f' ∧
      d.toChar.isDigit = true := by
    decide
  rcases opens with rfl | ⟨d, rfl⟩
  · simp [scanSimple]
  · rcases digits d with ⟨notNull, notTrue, notFalse, digit⟩
    simp [scanSimple, digit]

theorem scanSimple_number (n : Number) {rest : List Char} (delimited : Delimited rest) :
    scanSimple (n.chars ++ rest) = .ok (.number n, rest) := by
  rcases n.exists_chars_eq with ⟨c, more, begins, opens⟩
  have scanned : scanNumber (n.chars ++ rest) = .ok (n, rest) := by
    simp [scanNumber, n.scan_chars delimited]
  rw [begins] at scanned ⊢
  rw [List.cons_append, scanSimple_of_opens opens, ← List.cons_append, scanned]
  rfl

end Json
end RowGate
