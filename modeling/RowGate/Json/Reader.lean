import RowGate.Decimal.Bounded
import RowGate.Json.Skip

namespace RowGate
namespace Json

/-!
# Reading JSON

The reader follows the grammar strictly: nothing behind the value, and at most
127 containers inside one another.  A reader asks for a shape: of a record it
takes the fields that the shape names and passes over the other members.
Members of objects are kept in the order of the text; `read` returns the
canonical form.

A value may be written as a text: in an object with one member under a certain
key the text is a number or a whole document.
-/

/-! ## Shapes -/

/-- What a reader takes from a place in a document: a value, in which texts may
stand for values or not, the fields of a record, the items of a list, or all
members of an object. -/
inductive Shape where
  | value
  | plain
  | record (fields : List (String × Shape))
  | list (item : Shape)
  | map (member : Shape)

namespace Shape

/-- What is taken from an item of an array.  The items of a record are its
fields, in order. -/
def item (shape : Shape) (place : Nat) : Shape :=
  match shape with
  | value => value
  | record fields => ((fields[place]?).map Prod.snd).getD plain
  | list item => item
  | plain | map _ => plain

/-- What is taken from a member of an object, if it is not passed over. -/
def member? (shape : Shape) (key : String) : Option Shape :=
  match shape with
  | value => some value
  | record fields => fields.lookup key
  | map member => some member
  | plain | list _ => some plain

/-- The names of the fields of a record. -/
def names : Shape → List String
  | record fields => fields.map Prod.fst
  | _ => []

end Shape

/-! ## Texts for values -/

/-- The key whose value is the text of a number. -/
def numberKey : String := "$serde_json::private::Number"

/-- The key whose value is the text of a document. -/
def documentKey : String := "$serde_json::private::RawValue"

/-- The end of an object that was to have one member. -/
def scanClosing (cs : List Char) : Except Stop (List Char) :=
  match skipBlanks cs with
  | [] => .error (.before .endOfObject [])
  | '\x7d' :: rest => .ok rest
  | ',' :: rest => .error (.before .trailingComma (',' :: rest))
  | other => .error (.before .trailingText other)

/-- How a number is called where a text was asked for: an integer only if it has
no minus sign in front of zero and at most 64 bits. -/
def foundNumber (number : Number) : Found :=
  match number.plainInt? with
  | some value =>
      if Bounded.minInt64 ≤ value ∧ value ≤ Bounded.maxNat64 ∧ ¬ (number.negative ∧ value = 0) then
        .integer value
      else .number
  | none => .number

/-- Where a reader stops that finds no text. -/
def contentStop (content : Content) : List Char → Stop
  | '[' :: rest => .behind (.noText .list content) ('[' :: rest)
  | '\x7b' :: rest => .behind (.noText .object content) ('\x7b' :: rest)
  | cs =>
      match scanSimple cs with
      | .error stop => stop
      | .ok (value, rest) =>
          let found : Found :=
            match value with
            | .bool truth => .bool truth
            | .number written => foundNumber written
            | _ => .null
          .behind (.noText found content) rest

/-- Read the text that stands for a value, and the end of its object. -/
def scanContent (content : Content) (make : String → Except Fault Json) (cs : List Char) :
    Scan Json :=
  match skipBlanks cs with
  | '"' :: rest =>
      (scanString rest).bind fun text =>
        match make text.1 with
        | .error fault => .error (.inside fault)
        | .ok value => (scanClosing text.2).map fun rest => (value, rest)
  | other => .error (contentStop content other)

/-! ## Values -/

/-- Nothing but blanks is left. -/
def ended (value : Json) (rest : List Char) : Except Stop Json :=
  match skipBlanks rest with
  | [] => .ok value
  | other => .error (.before .trailingText other)

/-- Read the key of a member and its colon. -/
def scanKey (cs : List Char) : Scan String :=
  match cs with
  | '"' :: opened =>
      (scanString opened).bind fun key =>
        match skipBlanks key.2 with
        | [] => .error (.before .endOfObject [])
        | ':' :: inner => .ok (key.1, inner)
        | other => .error (.before .missingColon other)
  | other => .error (.before .badKey other)

/-- How many containers may stand inside one another. -/
def depthLimit : Nat := 127

mutual

/-- Read a value.  `fuel` bounds the number of calls and `depth` the number of
containers that may still be opened. -/
def scanValue : (fuel depth : Nat) → Shape → List Char → Scan Json
  | 0, _, _, cs => .error (.before .tooDeep cs)
  | fuel + 1, depth, shape, cs =>
      match skipBlanks cs with
      | '"' :: rest => (scanString rest).map fun scanned => (.string scanned.1, scanned.2)
      | '[' :: rest =>
          match depth, skipBlanks rest with
          | 0, _ => .error (.before .tooDeep ('[' :: rest))
          | _ + 1, [] => .error (.before .endOfList [])
          | _ + 1, ']' :: tail => .ok (.array [], tail)
          | depth + 1, inner =>
              (scanItems fuel depth shape 0 inner).map fun scanned => (.array scanned.1, scanned.2)
      | '\x7b' :: rest =>
          match depth, skipBlanks rest with
          | 0, _ => .error (.before .tooDeep ('\x7b' :: rest))
          | _ + 1, [] => .error (.before .endOfObject [])
          | _ + 1, '\x7d' :: tail => .ok (.object [], tail)
          | depth + 1, inner => scanObject fuel depth shape inner
      | simple => scanSimple simple

/-- Read the items of an array from a place on, and its closing bracket. -/
def scanItems : (fuel depth : Nat) → Shape → (place : Nat) → List Char → Scan (List Json)
  | 0, _, _, _, cs => .error (.before .tooDeep cs)
  | fuel + 1, depth, shape, place, cs =>
      (scanValue fuel depth (shape.item place) cs).bind fun item =>
        match skipBlanks item.2 with
        | [] => .error (.before .endOfList [])
        | ']' :: tail => .ok ([item.1], tail)
        | ',' :: tail =>
            match skipBlanks tail with
            | ']' :: after => .error (.before .trailingComma (']' :: after))
            | inner =>
                (scanItems fuel depth shape (place + 1) inner).map fun others =>
                  (item.1 :: others.1, others.2)
        | other => .error (.before .badListSeparator other)

/-- Read the inside of an object that is not empty. -/
def scanObject : (fuel depth : Nat) → Shape → List Char → Scan Json
  | 0, _, _, cs => .error (.before .tooDeep cs)
  | fuel + 1, depth, shape, cs =>
      (scanKey cs).bind fun key =>
        match shape, key.1 == numberKey, key.1 == documentKey with
        | .value, true, _ =>
            scanContent .number (fun text => (readNumber text.toList).map .number) key.2
        | .value, _, true =>
            scanContent .document
              (fun text =>
                match (scanValue fuel depthLimit .value text.toList).bind fun scanned =>
                  ended scanned.1 scanned.2 with
                | .error stop => .error (stop.fault text.toList)
                | .ok value => .ok value)
              key.2
        | _, _, _ =>
            (scanMembers fuel depth shape key.1 key.2).map fun scanned =>
              (.object scanned.1, scanned.2)

/-- Read a member behind its key, the members behind it, and the closing
brace. -/
def scanMembers : (fuel depth : Nat) → Shape → (key : String) → List Char →
    Scan (List (String × Json))
  | 0, _, _, _, cs => .error (.before .tooDeep cs)
  | fuel + 1, depth, shape, key, cs =>
      let member : Scan (List (String × Json)) :=
        match shape.member? key with
        | none => (skipValue cs).map fun rest => ([], rest)
        | some inner =>
            (scanValue fuel depth inner cs).map fun value => ([(key, value.1)], value.2)
      member.bind fun member =>
        match skipBlanks member.2 with
        | [] => .error (.before .endOfObject [])
        | '\x7d' :: tail => .ok (member.1, tail)
        | ',' :: tail =>
            match skipBlanks tail with
            | [] => .error (.before .endOfValue [])
            | '\x7d' :: after => .error (.before .trailingComma ('\x7d' :: after))
            | inner =>
                (scanKey inner).bind fun key =>
                  (scanMembers fuel depth shape key.1 key.2).map fun others =>
                    (member.1 ++ others.1, others.2)
        | other => .error (.before .badObjectSeparator other)

end

/-! ## Documents -/

/-- Read a whole document of a shape, members in the order of the text. -/
def scanDocument (shape : Shape) (cs : List Char) : Except Fault Json :=
  match (scanValue (3 * cs.length + 3) depthLimit shape cs).bind fun scanned =>
    ended scanned.1 scanned.2 with
  | .error stop => .error (stop.fault cs)
  | .ok value => .ok value

/-- Read a text of a shape, members in the order of the text. -/
def readShape (shape : Shape) (text : String) : Except Fault Json :=
  scanDocument shape text.toList

/-- Read a text as a value in canonical form. -/
def read (text : String) : Except Fault Json :=
  (readShape .value text).map canonical

end Json
end RowGate
