import RowGate.Journal
import RowGate.Proofs.Json.Legible
import RowGate.Proofs.Json.Visible

namespace RowGate

/-!
# Lines of the journal

The names and texts of an event come from callers in part: from filters, tables and
the messages of a store.  Whatever they are, an event is one line and no more, and it
is read back as it was noted.  The line is put together piece by piece, but it is the
text of an object, and such a text has no line break of its own.  Its first member has
a fixed name, so no field can make a reader take the object for something else.

The fields stand in the order of their names, so a line does not tell in which order
they were noted.
-/

namespace Event

open Json (quoted membersChars moreMembers membersLegible)

/-! ## The object of a line -/

/-- A field as a member of an object. -/
def member (field : String × String) : String × Json :=
  (field.1, .string field.2)

/-- The members of the line of an event. -/
def members (event : Event) : List (String × Json) :=
  ("event", .string event.name) :: ("severity", .string event.severity.name) ::
    (Entries.arrange event.fields).map member

theorem moreMembers_member (fields : List (String × String)) :
    moreMembers (fields.map member) = fields.flatMap fieldChars ++ ['\x7d'] := by
  induction fields with
  | nil => rfl
  | cons field rest inductionHypothesis =>
      rw [List.map_cons, Json.moreMembers_cons, member, membersChars, inductionHypothesis]
      simp [Json.chars, fieldChars]

/-- The line of an event is the text of an object. -/
theorem chars_eq (event : Event) : event.chars = Json.chars (.object event.members) := by
  simp [chars, members, Json.chars, moreMembers, moreMembers_member]

theorem toList_written (event : Event) :
    event.written.toList = Json.chars (.object event.members) ++ ['\n'] := by
  rw [written, line, String.toList_append, String.toList_ofList, chars_eq]
  rfl

/-! ## Reading a line -/

theorem membersLegible_member (depth : Nat) (fields : List (String × String)) :
    membersLegible depth (fields.map member) = true := by
  induction fields with
  | nil => rfl
  | cons field rest inductionHypothesis =>
      simp [member, membersLegible, inductionHypothesis]

/-- The members of an event are read back in the order in which they were written. -/
theorem readShape_written (event : Event) :
    Json.readShape .value event.written = .ok (.object event.members) := by
  have plain : ∀ first ∈ event.members.head?, Json.Shape.value = .value →
      Json.isReserved first.1 = false := by
    have fixed : Json.isReserved "event" = false := by decide
    rintro first ⟨⟩ _
    exact fixed
  have legible : membersLegible 126 event.members = true := by
    simp [members, membersLegible, membersLegible_member]
  have length : 3 * (Json.chars (.object event.members)).length ≤
      3 * (Json.chars (.object event.members) ++ ['\n']).length + 2 + 3 := by
    rw [List.length_append]
    omega
  rw [Json.readShape, Json.scanDocument, toList_written, Json.depthLimit,
    Json.scanValue_members Json.asksValues_value plain legible length]
  rfl

theorem canonicalMembers_member (fields : List (String × String)) :
    Json.canonicalMembers (fields.map member) = fields.map member := by
  induction fields with
  | nil => rfl
  | cons field rest inductionHypothesis =>
      simp [member, Json.canonicalMembers, Json.canonical, inductionHypothesis]

theorem read_written (event : Event) :
    Json.read event.written = .ok (Row.toJson (.ofList event.members)) := by
  have same : Json.canonicalMembers event.members = event.members := by
    simp [members, Json.canonicalMembers, Json.canonical, canonicalMembers_member]
  rw [Json.read, readShape_written, Except.map, Json.canonical, same]
  rfl

/-! ## What a line says -/

/-- The text that an event has under a name: of several fields of one name, that of the
last. -/
def text? (event : Event) (name : String) : Option String :=
  if name = "event" then some event.name
  else if name = "severity" then some event.severity.name
  else Entries.find? name event.fields.reverse

theorem find?_members (event : Event) (name : String) :
    Entries.find? name event.members = (event.text? name).map .string := by
  have fields : Entries.find? name ((Entries.arrange event.fields).map member) =
      (Entries.find? name event.fields.reverse).map .string := by
    rw [← Keyed.get?_ofList]
    exact Entries.find?_mapValues _ _ _
  simp only [members, Entries.find?, fields, text?, eq_comm (b := name)]
  split
  · rfl
  · split <;> rfl

/-- Where no field is called as the fixed members are, a line has each name once. -/
theorem nodup_members {event : Event}
    (free : ∀ field ∈ event.fields, field.1 ≠ "event" ∧ field.1 ≠ "severity") :
    (event.members.map Prod.fst).Nodup := by
  have names : ((Entries.arrange event.fields).map member).map Prod.fst =
      (Keyed.ofList event.fields).keys := by
    rw [List.map_map]
    rfl
  have absent : ∀ name, (∀ field ∈ event.fields, field.1 ≠ name) →
      name ∉ (Keyed.ofList event.fields).keys := by
    intro name other
    rw [Keyed.mem_keys_iff, Keyed.contains_ofList, List.any_eq_true]
    rintro ⟨field, inside, same⟩
    exact other field inside (beq_iff_eq.mp same)
  have apart : "event" ≠ "severity" := by decide
  rw [members, List.map_cons, List.map_cons, names, List.nodup_cons, List.nodup_cons]
  refine ⟨?_, absent _ fun field inside => (free field inside).2, Keyed.nodup_keys _⟩
  rw [List.mem_cons, not_or]
  exact ⟨apart, absent _ fun field inside => (free field inside).1⟩

end Event

/-! ## The main statement -/

/-- What is written of an event ends in its only line break and has no other control
character.  It is read back as an object with each name once, in which the event, the
severity and the last field of each name have their texts and nothing else stands.
The order of fields with distinct names does not show. -/
theorem written_line_says_event (event : Event)
    (free : ∀ field ∈ event.fields, field.1 ≠ "event" ∧ field.1 ≠ "severity") :
    (∃ body, event.written.toList = body ++ ['\n'] ∧ ∀ c ∈ body, 32 ≤ c.toNat) ∧
      (∃ members, Json.readShape .value event.written = .ok (.object members) ∧
        (members.map Prod.fst).Nodup) ∧
      (∃ row : Row, Json.read event.written = .ok row.toJson ∧
        ∀ name, row.get? name = (event.text? name).map .string) ∧
      ∀ fields, (event.fields.map Prod.fst).Nodup → event.fields.Perm fields →
        Event.written { event with fields } = event.written := by
  have distinct := Event.nodup_members free
  refine ⟨⟨_, event.toList_written, Json.visible_chars _⟩,
    ⟨_, event.readShape_written, distinct⟩, ⟨_, event.read_written, ?_⟩, ?_⟩
  · intro name
    rw [Keyed.get?_ofList_of_nodup distinct, event.find?_members]
  · intro fields apart perm
    have arranged : Entries.arrange fields = Entries.arrange event.fields :=
      congrArg Keyed.entries (Keyed.ofList_perm perm apart).symm
    simp only [Event.written, Event.line, Event.chars, arranged]

/-- A table whose name holds the end of a line and another event stays a text in the
one line of its event. -/
theorem forged_line_stays_text :
    let forged : String := "items\"\x7d\n\x7b\"event\":\"SIGNED_IN\",\"severity\":\"INFO"
    let event : Event :=
      ⟨.warn, "PREDICATE_DROPPED", [("table", forged), ("operator", "like\u0000")]⟩
    ((∀ field ∈ event.fields, field.1 ≠ "event" ∧ field.1 ≠ "severity") ∧
        (event.fields.map Prod.fst).Nodup ∧ event.fields.Perm event.fields.reverse) ∧
      (∃ body, event.written.toList = body ++ ['\n'] ∧ '\n' ∉ body) ∧
      (∃ row : Row, Json.read event.written = .ok row.toJson ∧
        row.get? "event" = some (.string "PREDICATE_DROPPED") ∧
        row.get? "severity" = some (.string "WARN") ∧ row.get? "table" = some (.string forged)) ∧
      Event.written { event with fields := event.fields.reverse } = event.written := by
  intro forged event
  have free : ∀ field ∈ event.fields, field.1 ≠ "event" ∧ field.1 ≠ "severity" := by
    decide +kernel
  have distinct : (event.fields.map Prod.fst).Nodup := by decide +kernel
  have turned : event.fields.Perm event.fields.reverse := (List.reverse_perm _).symm
  rcases written_line_says_event event free with
    ⟨⟨body, text, visible⟩, _, ⟨row, read, texts⟩, ordered⟩
  refine ⟨⟨free, distinct, turned⟩, ⟨body, text, fun inside => ?_⟩,
    ⟨row, read, texts "event", texts "severity", texts "table"⟩, ordered _ distinct turned⟩
  exact absurd (visible _ inside) (by decide)

end RowGate
