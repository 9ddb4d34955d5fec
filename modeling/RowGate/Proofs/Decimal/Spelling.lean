import RowGate.Decimal.Bounded
import RowGate.Json.Number

namespace RowGate

/-!
# The spelling of numbers

What a text denotes as an integer or as a decimal is said here by the parts it is
made of: a sign or none, digits, a point with digits behind it, and an exponent.
The readers find these parts whenever they are there.
-/

/-! ## Runs of digits -/

namespace Digits

/-- No digit stands in front. -/
def Stops (rest : List Char) : Prop :=
  ∀ c tail, rest = c :: tail → Digit.ofChar? c = none

theorem stops_nil : Stops [] :=
  nofun

theorem stops_cons {c : Char} (other : Digit.ofChar? c = none) (rest : List Char) :
    Stops (c :: rest) := by
  rintro _ _ ⟨⟩
  exact other

theorem stops_span (cs : List Char) : Stops (span cs).2 := by
  induction cs with
  | nil => exact stops_nil
  | cons c rest inductionHypothesis =>
      unfold span
      split
      · next other => exact stops_cons other rest
      · exact inductionHypothesis

theorem span_eq_iff {cs rest : List Char} {ds : List Digit} :
    span cs = (ds, rest) ↔ cs = chars ds ++ rest ∧ Stops rest := by
  constructor
  · intro run
    have parts := chars_span cs
    have stops := stops_span cs
    rw [run] at parts stops
    exact ⟨parts.symm, stops⟩
  · rintro ⟨rfl, stops⟩
    exact span_append ds stops

end Digits

namespace Spelling

/-! ## Signs -/

/-- A text that is the rest behind a sign, or has none. -/
inductive Signed : Bool → List Char → List Char → Prop where
  | plain (rest : List Char) : Signed false rest rest
  | plus (rest : List Char) : Signed false rest ('+' :: rest)
  | minus (rest : List Char) : Signed true rest ('-' :: rest)

theorem signed_scanSign (cs : List Char) :
    Signed (Json.Number.scanSign cs).1 (Json.Number.scanSign cs).2 cs := by
  unfold Json.Number.scanSign
  split
  · exact .plus _
  · exact .minus _
  · exact .plain _

/-- Unless another sign follows, the sign is found. -/
theorem scanSign_of_signed {negative : Bool} {rest cs : List Char}
    (signed : Signed negative rest cs)
    (single : ∀ c tail, rest = c :: tail → c ≠ '+' ∧ c ≠ '-') :
    Json.Number.scanSign cs = (negative, rest) := by
  cases signed with
  | plus | minus => rfl
  | plain =>
      cases rest with
      | nil => rfl
      | cons c tail =>
          rcases single c tail rfl with ⟨noPlus, noMinus⟩
          simp [Json.Number.scanSign, noPlus, noMinus]

theorem toChar_unsigned (d : Digit) : d.toChar ≠ '+' ∧ d.toChar ≠ '-' := by
  revert d
  decide

theorem chars_unsigned {ds : List Digit} (filled : ds ≠ []) (rest : List Char) :
    ∀ c tail, Digits.chars ds ++ rest = c :: tail → c ≠ '+' ∧ c ≠ '-' := by
  intro c tail same
  cases ds with
  | nil => exact absurd rfl filled
  | cons d more =>
      cases same
      exact toChar_unsigned d

/-! ## Integers -/

/-- The integer of a sign, or none, and digits. -/
def OfInt (cs : List Char) (i : Int) : Prop :=
  ∃ (negative : Bool) (ds : List Digit), ds ≠ [] ∧ Signed negative (Digits.chars ds) cs ∧
    i = if negative then -(Digits.value ds : Int) else Digits.value ds

/-- The integer between two bounds is read from all its spellings and from no
other text. -/
theorem signed?_eq_some_iff {low high i : Int} {cs : List Char} :
    Bounded.signed? low high cs = some i ↔ OfInt cs i ∧ low ≤ i ∧ i ≤ high := by
  unfold Bounded.signed?
  extract_lets parts
  have sign : parts = Json.Number.scanSign cs := by
    unfold parts Json.Number.scanSign
    split
    · rfl
    · rfl
    · split <;> first | rfl | simp_all
  clear_value parts
  subst sign
  dsimp only
  constructor
  · intro read
    have signed := signed_scanSign cs
    generalize Json.Number.scanSign cs = parts at read signed
    split at read
    · next d ds run =>
      rcases Digits.span_eq_iff.mp run with ⟨digits, _⟩
      rw [digits, List.append_nil] at signed
      rcases Option.ite_none_right_eq_some.mp read with ⟨bounds, ⟨⟩⟩
      exact ⟨⟨parts.1, d :: ds, List.cons_ne_nil _ _, signed, rfl⟩, bounds⟩
    · cases read
  · rintro ⟨⟨negative, ds, filled, signed, rfl⟩, bounds⟩
    have unsigned := chars_unsigned filled []
    rw [List.append_nil] at unsigned
    have run : Digits.span (Digits.chars ds) = (ds, []) :=
      Digits.span_eq_iff.mpr ⟨(List.append_nil _).symm, Digits.stops_nil⟩
    rw [scanSign_of_signed signed unsigned, run]
    cases ds with
    | nil => exact absurd rfl filled
    | cons d more => exact if_pos bounds

/-- The natural number of digits, with a plus sign before them or none. -/
def OfNat (cs : List Char) (n : Nat) : Prop :=
  ∃ ds : List Digit, ds ≠ [] ∧ Signed false (Digits.chars ds) cs ∧ n = Digits.value ds

theorem signed_afterPlus (cs : List Char) : Signed false (Bounded.afterPlus cs) cs := by
  unfold Bounded.afterPlus
  split
  · exact .plus _
  · exact .plain _

theorem afterPlus_of_signed {ds : List Digit} {cs : List Char} (filled : ds ≠ [])
    (signed : Signed false (Digits.chars ds) cs) : Bounded.afterPlus cs = Digits.chars ds := by
  cases signed with
  | plus => rfl
  | plain =>
      cases ds with
      | nil => exact absurd rfl filled
      | cons d more =>
          unfold Bounded.afterPlus
          split
          · next same => exact absurd (List.cons.inj same).1 (toChar_unsigned d).1
          · rfl

/-- The number up to a bound is read from all its spellings and from no other text. -/
theorem natural_eq_ok_iff {high n : Nat} {cs : List Char} :
    Bounded.natural high cs = .ok n ↔ OfNat cs n ∧ n ≤ high := by
  unfold Bounded.natural
  dsimp only
  constructor
  · intro read
    have signed := signed_afterPlus cs
    rcases run : Digits.span (Bounded.afterPlus cs) with ⟨ds, rest⟩
    rw [run] at read
    split at read
    · cases read
    · split at read
      · cases read
      · next fits =>
        split at read
        · cases read
        · next whole =>
          rcases not_or.mp whole with ⟨filled, ended⟩
          have tailless : rest = [] := Decidable.not_not.mp ended
          rw [(Digits.span_eq_iff.mp run).1, tailless, List.append_nil] at signed
          cases read
          exact ⟨⟨ds, filled, signed, rfl⟩, Nat.not_lt.mp fits⟩
  · rintro ⟨⟨ds, filled, signed, rfl⟩, fits⟩
    have run : Digits.span (Digits.chars ds) = (ds, []) :=
      Digits.span_eq_iff.mpr ⟨(List.append_nil _).symm, Digits.stops_nil⟩
    have behind := afterPlus_of_signed filled signed
    have visible : cs ≠ [] := by
      rintro rfl
      exact filled (List.map_eq_nil_iff.mp behind.symm)
    rw [behind, run, if_neg visible, if_neg (Nat.not_lt.mpr fits),
      if_neg (not_or.mpr ⟨filled, Decidable.not_not.mpr rfl⟩)]

/-! ## Decimals -/

/-- The power of ten of an exponent, or of none. -/
def OfExponent (cs : List Char) (e : Int) : Prop :=
  (cs = [] ∧ e = 0) ∨
    ∃ letter rest, (letter = 'e' ∨ letter = 'E') ∧ cs = letter :: rest ∧ OfInt rest e

/-- A text that is the rest behind a point and digits, or has no point. -/
inductive Pointed : List Digit → List Char → List Char → Prop where
  | plain (rest : List Char) : Pointed [] rest rest
  | point (fraction : List Digit) (rest : List Char) :
      Pointed fraction rest ('.' :: (Digits.chars fraction ++ rest))

/-- The decimal of a sign, or none, digits, a point and digits behind it, and an
exponent, or none.  The point and the digits on either side of it may be missing,
but not all digits. -/
def OfDecimal (cs : List Char) (d : Decimal) : Prop :=
  ∃ (whole fraction : List Digit) (behind rest : List Char) (e : Int),
    Signed d.negative (Digits.chars whole ++ behind) cs ∧ Pointed fraction rest behind ∧
    OfExponent rest e ∧ whole ++ fraction ≠ [] ∧
    d.coefficient = Digits.value (whole ++ fraction) ∧ d.exponent = e - fraction.length

/-! ## Readers of decimals -/

theorem stops_exponent {cs : List Char} {e : Int} (exponent : OfExponent cs e) :
    Digits.Stops cs := by
  rcases exponent with ⟨rfl, rfl⟩ | ⟨letter, rest, rfl | rfl, rfl, _⟩
  · exact Digits.stops_nil
  · exact Digits.stops_cons rfl rest
  · exact Digits.stops_cons rfl rest

theorem ofExponent_of_scanExponent {cs : List Char} {exponent : Option Json.Exponent}
    (read : Json.Number.scanExponent cs = some (exponent, [])) :
    OfExponent cs ((exponent.map Json.Exponent.value).getD 0) := by
  have behind : ∀ rest, Json.Number.scanExponentTail rest = some (exponent, []) →
      OfInt rest ((exponent.map Json.Exponent.value).getD 0) := by
    intro rest found
    have signed := signed_scanSign rest
    unfold Json.Number.scanExponentTail at found
    dsimp only at found
    split at found
    · cases found
    · next d ds tail run =>
      cases found
      rcases Digits.span_eq_iff.mp run with ⟨digits, _⟩
      rw [digits, List.append_nil] at signed
      exact ⟨_, d :: ds, List.cons_ne_nil _ _, signed, rfl⟩
  unfold Json.Number.scanExponent at read
  split at read
  · exact .inr ⟨_, _, .inl rfl, rfl, behind _ read⟩
  · exact .inr ⟨_, _, .inr rfl, rfl, behind _ read⟩
  · cases read
    exact .inl ⟨rfl, rfl⟩

theorem scanExponent_of_ofExponent {cs : List Char} {e : Int} (exponent : OfExponent cs e) :
    ∃ found, Json.Number.scanExponent cs = some (found, []) ∧
      (found.map Json.Exponent.value).getD 0 = e := by
  rcases exponent with ⟨rfl, rfl⟩ | ⟨letter, rest, letters, rfl, negative, ds, filled, signed, rfl⟩
  · exact ⟨none, rfl, rfl⟩
  have unsigned := chars_unsigned filled []
  rw [List.append_nil] at unsigned
  have run : Digits.span (Digits.chars ds) = (ds, []) :=
    Digits.span_eq_iff.mpr ⟨(List.append_nil _).symm, Digits.stops_nil⟩
  have behind : Json.Number.scanExponentTail rest = some (some ⟨negative, ds, filled⟩, []) := by
    rw [Json.Number.scanExponentTail, scanSign_of_signed signed unsigned, run]
    cases ds with
    | nil => exact absurd rfl filled
    | cons d more => rfl
  refine ⟨some ⟨negative, ds, filled⟩, ?_, rfl⟩
  rcases letters with rfl | rfl <;> exact behind

theorem stops_pointed {fraction : List Digit} {rest cs : List Char}
    (pointed : Pointed fraction rest cs) (stops : Digits.Stops rest) : Digits.Stops cs := by
  cases pointed with
  | plain => exact stops
  | point => exact Digits.stops_cons rfl _

/-- A decimal without its sign starts with a digit or a point. -/
theorem body_unsigned {whole fraction : List Digit} {rest behind : List Char}
    (pointed : Pointed fraction rest behind) (filled : whole ++ fraction ≠ []) :
    ∀ c tail, Digits.chars whole ++ behind = c :: tail → c ≠ '+' ∧ c ≠ '-' := by
  cases whole with
  | cons d more => exact chars_unsigned (List.cons_ne_nil d more) _
  | nil =>
      cases pointed with
      | plain => exact absurd rfl filled
      | point =>
          rintro _ _ ⟨⟩
          decide

/-- A text is read as a decimal if and only if it spells it. -/
theorem scanDecimal_eq_some_iff {cs : List Char} {d : Decimal} :
    Json.Number.scanDecimal cs = some (d, []) ↔ OfDecimal cs d := by
  unfold Json.Number.scanDecimal
  extract_lets signed run behind further
  constructor
  · intro read
    have sign : Signed signed.1 signed.2 cs := signed_scanSign cs
    have digits : signed.2 = Digits.chars run.1 ++ run.2 := (Digits.chars_span signed.2).symm
    have pointed : Pointed behind.1 behind.2 run.2 := by
      unfold behind
      split
      · next rest same =>
        rw [same]
        have point := Pointed.point (Digits.span rest).1 (Digits.span rest).2
        rwa [Digits.chars_span] at point
      · exact .plain _
    clear_value behind run signed
    split at read
    · cases read
    · next filled =>
      rcases Option.bind_eq_some_iff.mp read with ⟨⟨exponent, rest⟩, found, same⟩
      cases same
      refine ⟨run.1, behind.1, run.2, behind.2, _, digits ▸ sign, pointed,
        ofExponent_of_scanExponent found, ?_, rfl, rfl⟩
      simpa using filled
  · rintro ⟨whole, fraction, tail, rest, e, sign, pointed, exponent, filled, coefficient, shift⟩
    have signs : signed = (d.negative, Digits.chars whole ++ tail) :=
      scanSign_of_signed sign (body_unsigned pointed filled)
    have stops := stops_exponent exponent
    have digits : run = (whole, tail) := by
      unfold run
      rw [signs]
      exact Digits.span_eq_iff.mpr ⟨rfl, stops_pointed pointed stops⟩
    have fractions : behind = (fraction, rest) := by
      unfold behind
      rw [digits]
      cases pointed with
      | point => exact Digits.span_eq_iff.mpr ⟨rfl, stops⟩
      | plain => rcases exponent with ⟨rfl, _⟩ | ⟨_, _, rfl | rfl, rfl, _⟩ <;> rfl
    rcases scanExponent_of_ofExponent exponent with ⟨found, read, power⟩
    rw [if_neg (by simpa [digits, fractions] using filled)]
    unfold further
    rw [fractions, digits, signs]
    refine Option.bind_eq_some_iff.mpr ⟨(found, []), read, ?_⟩
    rw [power, ← coefficient, ← shift]

theorem decimal?_eq_some_iff {s : String} {d : Decimal} :
    Json.Number.decimal? s = some d ↔ OfDecimal s.toList d := by
  rw [← scanDecimal_eq_some_iff]
  unfold Json.Number.decimal?
  split
  · next found => simp [found]
  · next other => exact iff_of_false nofun fun found => other _ found

theorem pointed_of_scanFraction {cs rest : List Char} {fraction : List Digit}
    (read : Json.Number.scanFraction cs = some (fraction, rest)) : Pointed fraction rest cs := by
  unfold Json.Number.scanFraction at read
  split at read
  · next behind =>
    split at read
    · cases read
    · next run =>
      cases read
      rw [(Digits.span_eq_iff.mp run).1]
      exact .point _ _
  · cases read
    exact .plain _

/-- A number text spells the decimal that it denotes. -/
theorem ofDecimal_of_read? {s : String} {n : Json.Number} (read : Json.Number.read? s = some n) :
    OfDecimal s.toList n.decimal := by
  have unsigned : ∀ {negative : Bool} {body cs : List Char},
      Json.Number.scanUnsigned negative body = some (n, []) → Signed negative body cs →
      OfDecimal cs n.decimal := by
    intro negative body cs found sign
    unfold Json.Number.scanUnsigned at found
    extract_lets run at found
    have digits : body = Digits.chars run.1 ++ run.2 := (Digits.chars_span body).symm
    split at found
    · next plain =>
      rcases Option.bind_eq_some_iff.mp found with ⟨⟨fraction, behind⟩, pointed, found⟩
      rcases Option.bind_eq_some_iff.mp found with ⟨⟨exponent, rest⟩, tail, same⟩
      cases same
      exact ⟨run.1, fraction, run.2, behind, _, digits ▸ sign, pointed_of_scanFraction pointed,
        ofExponent_of_scanExponent tail, List.append_ne_nil_of_left_ne_nil plain.1 _, rfl, rfl⟩
    · cases found
  unfold Json.Number.read? at read
  split at read
  · next scanned =>
    cases read
    generalize s.toList = cs at scanned ⊢
    unfold Json.Number.scan at scanned
    split at scanned
    · exact unsigned scanned (.minus _)
    · exact unsigned scanned (.plain _)
  · cases read

end Spelling
end RowGate
