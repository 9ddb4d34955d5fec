import RowGate.Proofs.Identifier
import RowGate.Schema.ColumnType
import RowGate.Schema.Stamps

namespace RowGate

/-!
# Stored forms

What a column stores is null or a value of one form for each column type, and
a value that already has this form is stored as it is.  Times are the one
exception: all years of the calendar are accepted, but a year outside 0 to 9999
is written with a sign, and no text with a sign and a zone is read again.
-/

/-! ## Texts of instants -/

namespace Time
namespace Instant

/-- The year is written with four digits and no sign. -/
def IsPlain (t : Instant) : Prop :=
  0 ≤ t.year ∧ t.year ≤ 9999

instance (t : Instant) : Decidable t.IsPlain :=
  inferInstanceAs (Decidable (_ ∧ _))

theorem chars_truncated (t : Instant) : t.truncated.chars = t.chars := by
  have seconds : t.nanos / 1000000 * 1000000 / 1000000000 = t.nanos / 1000000000 := by omega
  have millis : t.nanos / 1000000 * 1000000 % 1000000000 / 1000000 =
      t.nanos % 1000000000 / 1000000 := by omega
  simp only [chars, truncated, seconds, millis]

theorem text_truncated (t : Instant) : t.truncated.text = t.text :=
  congrArg String.ofList t.chars_truncated

end Instant

theorem read?_text_of_isPlain {t : Instant} (plain : t.IsPlain) :
    read? t.text = some t.truncated :=
  (read?_text t).trans (if_pos plain)

theorem read?_text_of_not_isPlain {t : Instant} (signed : ¬ t.IsPlain) : read? t.text = none :=
  (read?_text t).trans (if_neg signed)

theorem isPlain_of_read? {t read : Instant} (reads : read? t.text = some read) : t.IsPlain := by
  by_contra signed
  cases reads.symm.trans (read?_text_of_not_isPlain signed)

end Time

/-! ## Numbers -/

namespace Json
namespace Number

theorem plainInt?_ofInt (i : Int) : (ofInt i).plainInt? = some i := by
  simp only [plainInt?, ofInt, and_self, if_true, Digits.value_ofNat, decide_eq_true_eq,
    Option.some.injEq]
  split <;> omega

end Number
end Json

/-! ## Forms -/

namespace ColumnType

/-- The forms in which the columns of a type store values. -/
inductive Form : ColumnType → Json → Prop where
  | null (type : ColumnType) : Form type .null
  | text (s : String) : Form .text (.string s)
  | integer (i : Int) (fits : inRange i = true) : Form .integer (.ofInt i)
  | numeric (n : Json.Number) : Form .numeric (.number n)
  | boolean (b : Bool) : Form .boolean (.bool b)
  | uuid (id : Uuid) : Form .uuid (.string id.text)
  | timestamp (t : Time.Instant) : Form .timestamp (.string t.text)
  | json (value : Json) : Form .json value

theorem inRange_of_integerOfNumber? {n : Json.Number} {i : Int}
    (read : integerOfNumber? n = some i) : inRange i = true := by
  unfold integerOfNumber? at read
  split at read
  · next written =>
    cases read
    exact (Option.filter_eq_some_iff.mp written).2
  · have small := (Option.filter_eq_some_iff.mp read).2
    rw [decide_eq_true_eq] at small
    have bounds : Bounded.minInt64 ≤ i ∧ i ≤ Bounded.maxInt64 := by
      unfold Bounded.minInt64 Bounded.maxInt64
      omega
    simpa [inRange] using bounds

theorem inRange_of_integerOfText? {s : String} {i : Int} (read : integerOfText? s = some i) :
    inRange i = true := by
  unfold integerOfText? Bounded.signed? at read
  extract_lets signed at read
  split at read
  · extract_lets size number at read
    clear_value number
    split at read
    · next bounds =>
      cases read
      simpa [inRange] using bounds
    · cases read
  · cases read

section

variable {type : ColumnType} {stored : Json}

/-- What is read of a value and then written has the form if all that is written so
has. -/
theorem form_of_map {α : Type} {read : Option α} {write : α → Json}
    (written : ∀ found, read = some found → type.Form (write found))
    (coerced : read.map write = some stored) : type.Form stored := by
  rcases Option.map_eq_some_iff.mp coerced with ⟨found, reads, rfl⟩
  exact written found reads

theorem form_of_coerce?_string {s : String} (coerced : type.coerce? (.string s) = some stored) :
    type.Form stored := by
  cases type with
  | text =>
      cases coerced
      exact .text s
  | integer => exact form_of_map (fun i read => .integer i (inRange_of_integerOfText? read)) coerced
  | numeric => exact form_of_map (fun n _ => .numeric n) coerced
  | boolean => exact form_of_map (fun b _ => .boolean b) coerced
  | uuid => exact form_of_map (fun id _ => .uuid id) coerced
  | timestamp => exact form_of_map (fun t _ => .timestamp t) coerced
  | json =>
      cases coerced
      exact .json _

theorem form_of_coerce?_number {n : Json.Number} (coerced : type.coerce? (.number n) = some stored) :
    type.Form stored := by
  cases type with
  | text =>
      cases coerced
      exact .text _
  | integer =>
      exact form_of_map (fun i read => .integer i (inRange_of_integerOfNumber? read)) coerced
  | numeric =>
      cases coerced
      exact .numeric n
  | json =>
      cases coerced
      exact .json _
  | boolean | uuid | timestamp => cases coerced

theorem form_of_coerce?_bool {b : Bool} (coerced : type.coerce? (.bool b) = some stored) :
    type.Form stored := by
  cases type with
  | text =>
      cases coerced
      exact .text _
  | boolean =>
      cases coerced
      exact .boolean b
  | json =>
      cases coerced
      exact .json _
  | integer | numeric | uuid | timestamp => cases coerced

theorem form_of_coerce? {value : Json} (coerced : type.coerce? value = some stored) :
    type.Form stored := by
  cases value with
  | null =>
      cases type <;> cases coerced <;> exact .null _
  | bool b => exact form_of_coerce?_bool coerced
  | number n => exact form_of_coerce?_number coerced
  | string s => exact form_of_coerce?_string coerced
  | array _ | object _ =>
      cases type with
      | json =>
          cases coerced
          exact .json _
      | text | integer | numeric | boolean | uuid | timestamp => cases coerced

end

/-- The value is the text of a time whose year is written with a sign. -/
def IsSigned (type : ColumnType) (value : Json) : Prop :=
  type = .timestamp ∧ ∃ t : Time.Instant, value = .string t.text ∧ ¬ t.IsPlain

theorem not_isSigned_of_ne {type : ColumnType} (other : type ≠ .timestamp) (value : Json) :
    ¬ type.IsSigned value :=
  fun signed => other signed.1

theorem not_isSigned_null (type : ColumnType) : ¬ type.IsSigned .null := by
  rintro ⟨_, t, same, _⟩
  exact Json.noConfusion same

theorem isSigned_timestamp_iff (t : Time.Instant) :
    timestamp.IsSigned (.string t.text) ↔ ¬ t.IsPlain := by
  constructor
  · rintro ⟨_, other, same, signed⟩ plain
    have unread := Time.read?_text_of_not_isPlain signed
    rw [← Json.string.inj same, Time.read?_text_of_isPlain plain] at unread
    cases unread
  · intro signed
    exact ⟨rfl, t, rfl, signed⟩

theorem coerce?_json (value : Json) : json.coerce? value = some value := by
  cases value <;> rfl

theorem coerce?_ofInt {i : Int} (fits : inRange i = true) :
    integer.coerce? (.ofInt i) = some (.ofInt i) := by
  have written : (Json.Number.ofInt i).plainInt?.filter inRange = some i := by
    rw [Json.Number.plainInt?_ofInt, Option.filter_some, if_pos fits]
  change (integerOfNumber? (.ofInt i)).map Json.ofInt = _
  rw [integerOfNumber?, written]
  rfl

theorem coerce?_uuid (id : Uuid) : uuid.coerce? (.string id.text) = some (.string id.text) := by
  simp only [coerce?, id.trim_text, id.read?_text, Option.map_some]

/-- A column of times stores the text of an instant as it is or not at all. -/
theorem coerce?_timestamp (t : Time.Instant) :
    timestamp.coerce? (.string t.text) = if t.IsPlain then some (.string t.text) else none := by
  rw [coerce?]
  split
  · next plain => rw [Time.read?_text_of_isPlain plain, Option.map_some, t.text_truncated]
  · next signed => rw [Time.read?_text_of_not_isPlain signed, Option.map_none]

theorem coerce?_eq_self_iff_of_ne {type : ColumnType} {value : Json} (other : type ≠ .timestamp)
    (kept : type.coerce? value = some value) :
    type.coerce? value = some value ↔ ¬ type.IsSigned value :=
  iff_of_true kept (not_isSigned_of_ne other value)

/-- What has the form of a column is stored as it is, unless it is a time in a
signed year, which is not stored again. -/
theorem Form.coerce?_eq_self_iff {type : ColumnType} {value : Json} (form : type.Form value) :
    type.coerce? value = some value ↔ ¬ type.IsSigned value := by
  cases form with
  | null => exact iff_of_true (by cases type <;> rfl) (not_isSigned_null type)
  | text s => exact coerce?_eq_self_iff_of_ne (by decide) rfl
  | integer i fits => exact coerce?_eq_self_iff_of_ne (by decide) (coerce?_ofInt fits)
  | numeric n => exact coerce?_eq_self_iff_of_ne (by decide) rfl
  | boolean b => exact coerce?_eq_self_iff_of_ne (by decide) rfl
  | uuid id => exact coerce?_eq_self_iff_of_ne (by decide) (coerce?_uuid id)
  | json value => exact coerce?_eq_self_iff_of_ne (by decide) (coerce?_json value)
  | timestamp t =>
      rw [isSigned_timestamp_iff, not_not, coerce?_timestamp, Option.ite_none_right_eq_some]
      exact and_iff_left rfl

end ColumnType
end RowGate
