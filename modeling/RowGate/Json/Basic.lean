import RowGate.Json.Number
import RowGate.Keyed

namespace RowGate

/-!
# JSON values

Cells, request bodies and answers are JSON values.  The members of an object
are a list, so that a reader can keep them as they were written; `canonical`
brings them into key order, the last of several members with one key winning.
Values in canonical form are equal exactly when they are the same value.
-/

/-- A JSON value. -/
inductive Json where
  | null
  | bool (value : Bool)
  | number (value : Json.Number)
  | string (value : String)
  | array (items : List Json)
  | object (members : List (String × Json))

namespace Json

instance : Inhabited Json := ⟨.null⟩

/-! ## Equality -/

mutual

/-- Compare two values member by member. -/
def decEq : (first second : Json) → Decidable (first = second)
  | .null, .null => .isTrue rfl
  | .bool a, .bool b =>
      if same : a = b then .isTrue (same ▸ rfl) else .isFalse fun equal => same (by injection equal)
  | .number a, .number b =>
      if same : a = b then .isTrue (same ▸ rfl) else .isFalse fun equal => same (by injection equal)
  | .string a, .string b =>
      if same : a = b then .isTrue (same ▸ rfl) else .isFalse fun equal => same (by injection equal)
  | .array a, .array b =>
      match decEqItems a b with
      | .isTrue same => .isTrue (same ▸ rfl)
      | .isFalse different => .isFalse fun equal => different (by injection equal)
  | .object a, .object b =>
      match decEqMembers a b with
      | .isTrue same => .isTrue (same ▸ rfl)
      | .isFalse different => .isFalse fun equal => different (by injection equal)
  | .null, .bool _ | .null, .number _ | .null, .string _ | .null, .array _ | .null, .object _
  | .bool _, .null | .bool _, .number _ | .bool _, .string _ | .bool _, .array _
  | .bool _, .object _
  | .number _, .null | .number _, .bool _ | .number _, .string _ | .number _, .array _
  | .number _, .object _
  | .string _, .null | .string _, .bool _ | .string _, .number _ | .string _, .array _
  | .string _, .object _
  | .array _, .null | .array _, .bool _ | .array _, .number _ | .array _, .string _
  | .array _, .object _
  | .object _, .null | .object _, .bool _ | .object _, .number _ | .object _, .string _
  | .object _, .array _ => .isFalse nofun

/-- Compare two lists of items. -/
def decEqItems : (first second : List Json) → Decidable (first = second)
  | [], [] => .isTrue rfl
  | [], _ :: _ => .isFalse nofun
  | _ :: _, [] => .isFalse nofun
  | a :: first, b :: second =>
      match decEq a b, decEqItems first second with
      | .isTrue head, .isTrue tail => .isTrue (head ▸ tail ▸ rfl)
      | .isFalse different, _ => .isFalse fun equal => different (by injection equal)
      | _, .isFalse different => .isFalse fun equal => different (by injection equal)

/-- Compare two lists of members. -/
def decEqMembers : (first second : List (String × Json)) → Decidable (first = second)
  | [], [] => .isTrue rfl
  | [], _ :: _ => .isFalse nofun
  | _ :: _, [] => .isFalse nofun
  | (j, a) :: first, (k, b) :: second =>
      if key : j = k then
        match decEq a b, decEqMembers first second with
        | .isTrue head, .isTrue tail => .isTrue (key ▸ head ▸ tail ▸ rfl)
        | .isFalse different, _ =>
            .isFalse fun equal => different (by injection equal with here; injection here)
        | _, .isFalse different => .isFalse fun equal => different (by injection equal)
      else .isFalse fun equal => key (by injection equal with here; injection here)

end

instance : DecidableEq Json := decEq

/-! ## Canonical form -/

mutual

/-- Every object in key order, the last member with a key winning. -/
def canonical : Json → Json
  | .array items => .array (canonicalItems items)
  | .object members => .object (Entries.arrange (canonicalMembers members))
  | .null => .null
  | .bool b => .bool b
  | .number n => .number n
  | .string s => .string s

/-- The canonical forms of items. -/
def canonicalItems : List Json → List Json
  | [] => []
  | item :: rest => canonical item :: canonicalItems rest

/-- The canonical forms of the values of members. -/
def canonicalMembers : List (String × Json) → List (String × Json)
  | [] => []
  | (key, value) :: rest => (key, canonical value) :: canonicalMembers rest

end

/-! ## Views -/

/-- Whether a value is null. -/
def isNull : Json → Bool
  | .null => true
  | _ => false

/-- The text of a string value. -/
def asString? : Json → Option String
  | .string s => some s
  | _ => none

/-- The truth value of a boolean. -/
def asBool? : Json → Option Bool
  | .bool b => some b
  | _ => none

/-- The plain integer of a number. -/
def asInt? : Json → Option Int
  | .number n => n.plainInt?
  | _ => none

/-- The natural number of 64 bits of a number. -/
def asNat? (value : Json) : Option Nat :=
  (value.asInt?.filter fun i => 0 ≤ i && i < 18446744073709551616).map Int.toNat

/-- The member of an object under a key. -/
def member? (key : String) : Json → Option Json
  | .object members => Entries.find? key members
  | _ => none

/-- The number that writes a natural number. -/
def ofNat (n : Nat) : Json :=
  .number (Number.ofNat n)

/-- The number that writes an integer. -/
def ofInt (i : Int) : Json :=
  .number (Number.ofInt i)

end Json

/-- A row: the cells of a record by column name. -/
abbrev Row := Keyed Json

namespace Row

/-- The object value of a row. -/
def toJson (row : Row) : Json :=
  .object row.entries

/-- The row of an object value; its members are brought into key order. -/
def ofJson? : Json → Option Row
  | .object members => some (Keyed.ofList members)
  | _ => none

/-- The cell under a column is missing or null. -/
def isAbsent (row : Row) (column : String) : Bool :=
  ((row.get? column).map Json.isNull).getD true

end Row
end RowGate
