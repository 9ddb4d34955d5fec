namespace RowGate

/-!
# Decimal digits

A run of digits is a list, most significant first.  Reading a run as a number
and writing a number as a run are inverse to each other on runs without a
leading zero.
-/

/-- A decimal digit. -/
abbrev Digit := Fin 10

namespace Digit

/-- The ASCII character of a digit. -/
def toChar (d : Digit) : Char :=
  Char.ofNat (48 + d.val)

/-- The digit that an ASCII character stands for. -/
def ofChar? (c : Char) : Option Digit :=
  if h : 48 ≤ c.toNat ∧ c.toNat < 58 then some ⟨c.toNat - 48, by omega⟩ else none

theorem ofChar?_toChar (d : Digit) : ofChar? d.toChar = some d := by
  revert d
  decide

theorem ofChar?_eq_some {c : Char} {d : Digit} (read : ofChar? c = some d) : c = d.toChar := by
  unfold ofChar? at read
  split at read
  · next bounds =>
    cases read
    unfold toChar
    rw [show 48 + (c.toNat - 48) = c.toNat from by omega]
    exact (Char.ofNat_toNat c).symm
  · cases read

end Digit

namespace Digits

/-- The number that a run of digits denotes, with `high` already read. -/
def valueFrom (high : Nat) (ds : List Digit) : Nat :=
  ds.foldl (fun value d => value * 10 + d.val) high

/-- The number that a run of digits denotes. -/
def value (ds : List Digit) : Nat :=
  valueFrom 0 ds

/-- The digits of `n`, by at most `steps` divisions. -/
def ofNatWithin : Nat → Nat → List Digit
  | 0, n => [Fin.ofNat 10 n]
  | steps + 1, n =>
      if n < 10 then [Fin.ofNat 10 n] else ofNatWithin steps (n / 10) ++ [Fin.ofNat 10 n]

/-- The shortest run that denotes `n`; zero is the single digit 0. -/
def ofNat (n : Nat) : List Digit :=
  ofNatWithin n n

/-- A run of zeros. -/
def zeros (count : Nat) : List Digit :=
  List.replicate count 0

/-- The characters of a run. -/
def chars (ds : List Digit) : List Char :=
  ds.map Digit.toChar

/-- The longest run in front, and what follows it. -/
def span : List Char → List Digit × List Char
  | [] => ([], [])
  | c :: rest =>
      match Digit.ofChar? c with
      | none => ([], c :: rest)
      | some d =>
          let tail := span rest
          (d :: tail.1, tail.2)

theorem valueFrom_append (high : Nat) (first second : List Digit) :
    valueFrom high (first ++ second) = valueFrom (valueFrom high first) second := by
  simp [valueFrom]

theorem valueFrom_eq (high : Nat) (ds : List Digit) :
    valueFrom high ds = high * Nat.pow 10 ds.length + value ds := by
  induction ds generalizing high with
  | nil => simp [valueFrom, value]
  | cons d rest inductionHypothesis =>
      have unfolded : value (d :: rest) = valueFrom d.val rest := by simp [value, valueFrom]
      have step : valueFrom high (d :: rest) = valueFrom (high * 10 + d.val) rest := by
        simp [valueFrom]
      have power : Nat.pow 10 (rest.length + 1) = Nat.pow 10 rest.length * 10 := rfl
      rw [step, unfolded, inductionHypothesis, inductionHypothesis d.val, List.length_cons, power,
        Nat.add_mul, Nat.mul_assoc, Nat.mul_comm 10 (Nat.pow 10 rest.length), Nat.add_assoc]

theorem value_append (first second : List Digit) :
    value (first ++ second) = value first * Nat.pow 10 second.length + value second := by
  rw [value, valueFrom_append, valueFrom_eq]
  rfl

theorem ofNatWithin_eq {steps n : Nat} (other : Nat) (enough : n ≤ steps) (enough' : n ≤ other) :
    ofNatWithin steps n = ofNatWithin other n := by
  induction steps generalizing other n with
  | zero =>
      cases other with
      | zero => rfl
      | succ other => simp [ofNatWithin, show n < 10 from by omega]
  | succ steps inductionHypothesis =>
      cases other with
      | zero => simp [ofNatWithin, show n < 10 from by omega]
      | succ other =>
          simp only [ofNatWithin]
          split
          · rfl
          · rw [inductionHypothesis other (by omega) (by omega)]

theorem ofNat_eq (n : Nat) :
    ofNat n = if n < 10 then [Fin.ofNat 10 n] else ofNat (n / 10) ++ [Fin.ofNat 10 n] := by
  cases n with
  | zero => rfl
  | succ n =>
      simp only [ofNat, ofNatWithin]
      split
      · rfl
      · rw [ofNatWithin_eq ((n + 1) / 10) (by omega) (by omega)]

theorem value_ofNat (n : Nat) : value (ofNat n) = n := by
  induction n using Nat.strongRecOn with
  | ind n inductionHypothesis =>
      rw [ofNat_eq]
      split
      · next small => simp [value, valueFrom, Fin.ofNat, Nat.mod_eq_of_lt small]
      · next large =>
        rw [value_append, inductionHypothesis (n / 10) (by omega)]
        simp [value, valueFrom, Fin.ofNat]
        omega

theorem ofNat_ne_nil (n : Nat) : ofNat n ≠ [] := by
  rw [ofNat_eq]
  split <;> simp

/-- No leading zero: the first digit is zero only when it is the only one. -/
def Plain (ds : List Digit) : Prop :=
  ds ≠ [] ∧ (ds.head? = some 0 → ds = [0])

instance (ds : List Digit) : Decidable (Plain ds) :=
  inferInstanceAs (Decidable (_ ∧ _))

theorem ofNat_head_ne_zero {n : Nat} (positive : 0 < n) : (ofNat n).head? ≠ some 0 := by
  induction n using Nat.strongRecOn with
  | ind n inductionHypothesis =>
      rw [ofNat_eq]
      split
      · next small =>
        intro zero
        simp [Fin.ofNat, Fin.ext_iff, Nat.mod_eq_of_lt small] at zero
        omega
      · next large =>
        have shorter := inductionHypothesis (n / 10) (by omega) (by omega)
        cases run : ofNat (n / 10) with
        | nil => exact absurd run (ofNat_ne_nil _)
        | cons d rest =>
            rw [run] at shorter
            simpa using shorter

theorem plain_ofNat (n : Nat) : Plain (ofNat n) := by
  refine ⟨ofNat_ne_nil n, fun zero => ?_⟩
  cases n with
  | zero => rfl
  | succ n => exact absurd zero (ofNat_head_ne_zero (Nat.succ_pos n))

theorem lt_pow_length_ofNat (n : Nat) : n < Nat.pow 10 (ofNat n).length := by
  induction n using Nat.strongRecOn with
  | ind n inductionHypothesis =>
      rw [ofNat_eq]
      split
      · next small => simpa using small
      · next large =>
        have shorter := inductionHypothesis (n / 10) (by omega)
        rw [List.length_append, List.length_singleton]
        have power : Nat.pow 10 ((ofNat (n / 10)).length + 1) =
            Nat.pow 10 (ofNat (n / 10)).length * 10 := rfl
        omega

theorem pow_length_ofNat_le {n : Nat} (positive : 0 < n) :
    Nat.pow 10 (ofNat n).length ≤ 10 * n := by
  induction n using Nat.strongRecOn with
  | ind n inductionHypothesis =>
      rw [ofNat_eq]
      split
      · simp only [List.length_singleton, Nat.pow_eq, Nat.pow_one]
        omega
      · next large =>
        have shorter := inductionHypothesis (n / 10) (by omega) (by omega)
        rw [List.length_append, List.length_singleton]
        have power : Nat.pow 10 ((ofNat (n / 10)).length + 1) =
            Nat.pow 10 (ofNat (n / 10)).length * 10 := rfl
        omega

theorem length_ofNat_le {n width : Nat} (wide : 0 < width) (small : n < Nat.pow 10 width) :
    (ofNat n).length ≤ width := by
  by_cases zero : n = 0
  · subst zero
    exact wide
  · have lower := pow_length_ofNat_le (Nat.pos_of_ne_zero zero)
    have power : Nat.pow 10 (width + 1) = Nat.pow 10 width * 10 := rfl
    have below : Nat.pow 10 (ofNat n).length < Nat.pow 10 (width + 1) := by omega
    exact Nat.lt_succ_iff.mp ((Nat.pow_lt_pow_iff_right (by decide)).mp below)

theorem span_append (ds : List Digit) {rest : List Char}
    (ends : ∀ c tail, rest = c :: tail → Digit.ofChar? c = none) :
    span (chars ds ++ rest) = (ds, rest) := by
  induction ds with
  | nil =>
      cases rest with
      | nil => rfl
      | cons c tail => simp [chars, span, ends c tail rfl]
  | cons d more inductionHypothesis =>
      have tail : span (List.map Digit.toChar more ++ rest) = (more, rest) := inductionHypothesis
      simp [chars, span, Digit.ofChar?_toChar, tail]

theorem chars_span (cs : List Char) : chars (span cs).1 ++ (span cs).2 = cs := by
  induction cs with
  | nil => rfl
  | cons c rest inductionHypothesis =>
      unfold span
      split
      · rfl
      · next d read =>
        rw [Digit.ofChar?_eq_some read]
        simpa [chars] using inductionHypothesis

end Digits
end RowGate
