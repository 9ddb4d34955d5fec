import Mathlib.Tactic.SplitIfs
import RowGate.Json.Writer

namespace RowGate
namespace Json

/-!
# Written values hold no control characters

A string may hold any character, but every control character of it is written as an
escape; and nothing else in a value has one, since it is written without blanks.  So
a written value is always one line, whatever the texts in it are.
-/

/-- No control character stands in a text. -/
def Visible (cs : List Char) : Prop :=
  ∀ c ∈ cs, 32 ≤ c.toNat

instance (cs : List Char) : Decidable (Visible cs) :=
  List.decidableBAll _ cs

@[simp]
theorem visible_nil : Visible [] :=
  nofun

@[simp]
theorem visible_cons {c : Char} {cs : List Char} : Visible (c :: cs) ↔ 32 ≤ c.toNat ∧ Visible cs :=
  List.forall_mem_cons

@[simp]
theorem visible_append {first second : List Char} :
    Visible (first ++ second) ↔ Visible first ∧ Visible second :=
  List.forall_mem_append

theorem visible_digits (ds : List Digit) : Visible (Digits.chars ds) := by
  have all : ∀ d : Digit, 32 ≤ d.toChar.toNat := by decide
  intro c member
  rcases List.mem_map.mp member with ⟨d, _, rfl⟩
  exact all d

theorem visible_number (n : Number) : Visible n.chars := by
  have exponent : Visible ((n.exponent.map Exponent.chars).getD []) := by
    cases n.exponent with
    | none => exact visible_nil
    | some e =>
        cases sign : e.negative <;> simp [Exponent.chars, sign, visible_digits]
  cases sign : n.negative <;> by_cases whole : n.fraction = [] <;>
    simp [Number.chars, sign, whole, visible_digits, exponent]

theorem visible_escapeChar (c : Char) : Visible (escapeChar c) := by
  have digits : ∀ n : Fin 32, Visible
      ['\\', 'u', '0', '0', Text.Hex.digit (n.val / 16), Text.Hex.digit (n.val % 16)] := by
    decide
  unfold escapeChar
  split_ifs with quote backslash control
  -- All escapes but that by number are closed texts.
  any_goals decide
  · exact digits ⟨c.toNat, control⟩
  · simpa using control

theorem visible_quoted (s : String) : Visible (quoted s) := by
  have body : Visible (escape s.toList) := by
    intro c member
    rcases List.mem_flatMap.mp member with ⟨d, _, inside⟩
    exact visible_escapeChar d c inside
  simp [quoted, body]

mutual

/-- A written value holds no line break and no other control character, whatever
texts stand in it. -/
theorem visible_chars : ∀ value : Json, Visible (chars value)
  | .null => by decide
  | .bool true => by decide
  | .bool false => by decide
  | .number n => visible_number n
  | .string s => visible_quoted s
  | .array [] => by decide
  | .array (item :: rest) => by
      simp [chars, visible_chars item, visible_moreItems rest]
  | .object [] => by decide
  | .object ((key, value) :: rest) => by
      simp [chars, visible_quoted, visible_chars value, visible_moreMembers rest]

theorem visible_moreItems : ∀ items : List Json, Visible (moreItems items)
  | [] => by decide
  | item :: rest => by
      simp [moreItems, visible_chars item, visible_moreItems rest]

theorem visible_moreMembers : ∀ members : List (String × Json), Visible (moreMembers members)
  | [] => by decide
  | (key, value) :: rest => by
      simp [moreMembers, visible_quoted, visible_chars value, visible_moreMembers rest]

end

end Json
end RowGate
