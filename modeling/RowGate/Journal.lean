import RowGate.Json.Writer

namespace RowGate

/-!
# The journal

What happens is noted as events.  The journal keeps those at or above its
threshold, and each is written as one line of JSON: the event and its severity
first, then the fields in the order of their names, the last value of a name
being the one that counts.
-/

/-- How much an event matters. -/
inductive Severity where
  | trace
  | info
  | warn
  | error
deriving DecidableEq, Repr

namespace Severity

/-- The name of a severity in a line. -/
def name : Severity → String
  | trace => "TRACE"
  | info => "INFO"
  | warn => "WARN"
  | error => "ERROR"

/-- The place of a severity among the others. -/
def rank : Severity → Nat
  | trace => 0
  | info => 1
  | warn => 2
  | error => 3

/-- Read a severity, in letters of either case. -/
def read (text : String) : Except String Severity :=
  let word := text.toLower
  if word = "trace" then .ok trace
  else if word = "info" then .ok info
  else if word = "warn" then .ok warn
  else if word = "error" then .ok error
  else .error ("unknown log level: " ++ word)

end Severity

/-- Something that happened, with named details. -/
structure Event where
  severity : Severity
  name : String
  fields : List (String × String)
deriving DecidableEq, Repr

namespace Event

/-- A field of a line, behind its comma. -/
def fieldChars (field : String × String) : List Char :=
  ',' :: Json.quoted field.1 ++ ':' :: Json.quoted field.2

/-- The characters of the line of an event, without its line break. -/
def chars (event : Event) : List Char :=
  '\x7b' :: Json.quoted "event" ++ ':' :: Json.quoted event.name ++
    ',' :: Json.quoted "severity" ++ ':' :: Json.quoted event.severity.name ++
    (Entries.arrange event.fields).flatMap fieldChars ++ ['\x7d']

/-- The line of an event. -/
def line (event : Event) : String :=
  String.ofList event.chars

/-- What is written of an event: its line and a line break. -/
def written (event : Event) : String :=
  event.line ++ "\n"

end Event

/-- The events so far, and the least severity that is kept. -/
structure Journal where
  threshold : Severity
  events : List Event
deriving DecidableEq, Repr

namespace Journal

/-- A journal without events that keeps everything but traces. -/
def empty : Journal :=
  ⟨.info, []⟩

/-- Whether events of a severity are kept. -/
def keeps (journal : Journal) (severity : Severity) : Bool :=
  journal.threshold.rank ≤ severity.rank

/-- Note an event. -/
def record (journal : Journal) (event : Event) : Journal :=
  if journal.keeps event.severity then { journal with events := journal.events ++ [event] }
  else journal

/-- Note events in order. -/
def recordAll (journal : Journal) (events : List Event) : Journal :=
  events.foldl record journal

/-- Take the events out of the journal. -/
def drain (journal : Journal) : List Event × Journal :=
  (journal.events, { journal with events := [] })

end Journal
end RowGate
