import RowGate.Text.Utf8

namespace RowGate
namespace Json

/-!
# Faults in JSON texts

A fault is a reason and a place.  Lines are counted from one and columns in
bytes.  A reader either has gone past what is wrong or only looks at it; in both
cases the fault is placed at the byte that is wrong.  That byte may be one in the
middle of a character.
-/

/-- What stands in a document where a text was asked for. -/
inductive Found where
  | null
  | bool (value : Bool)
  | integer (value : Int)
  | number
  | list
  | object
deriving DecidableEq, Repr

namespace Found

/-- The wording of what was found. -/
def message : Found → String
  | null => "null"
  | bool true => "boolean `true`"
  | bool false => "boolean `false`"
  | integer value => "integer `" ++ Int.repr value ++ "`"
  | number => "number"
  | list => "sequence"
  | object => "map"

end Found

/-- What a text in a document may stand for. -/
inductive Content where
  | number
  | document
deriving DecidableEq, Repr

namespace Content

/-- The wording of what was asked for. -/
def message : Content → String
  | number => "string containing a number"
  | document => "raw value"

end Content

/-- Why a text is not the document that was asked for. -/
inductive Reason where
  | endOfValue
  | endOfString
  | endOfList
  | endOfObject
  | badValue
  | badWord
  | badNumber
  | badEscape
  | loneSurrogate
  | missingSurrogate
  | controlCharacter
  | badListSeparator
  | badObjectSeparator
  | missingColon
  | badKey
  | trailingComma
  | trailingText
  | tooDeep
  | badText
  | noText (found : Found) (content : Content)
  | badShape
deriving DecidableEq, Repr

namespace Reason

/-- The wording of a reason. -/
def message : Reason → String
  | endOfValue => "EOF while parsing a value"
  | endOfString => "EOF while parsing a string"
  | endOfList => "EOF while parsing a list"
  | endOfObject => "EOF while parsing an object"
  | badValue => "expected value"
  | badWord => "expected ident"
  | badNumber => "invalid number"
  | badEscape => "invalid escape"
  | loneSurrogate => "lone leading surrogate in hex escape"
  | missingSurrogate => "unexpected end of hex escape"
  | controlCharacter =>
      "control character (\\u0000-\\u001F) found while parsing a string"
  | badListSeparator => "expected `,` or `]`"
  | badObjectSeparator => "expected `,` or `\x7d`"
  | missingColon => "expected `:`"
  | badKey => "key must be a string"
  | trailingComma => "trailing comma"
  | trailingText => "trailing characters"
  | tooDeep => "recursion limit exceeded"
  | badText => "invalid unicode code point"
  | noText found content =>
      "invalid type: " ++ found.message ++ ", expected " ++ content.message
  | badShape => "unexpected value"

end Reason

/-- A reason and the place of a fault. -/
structure Fault where
  reason : Reason
  line : Nat
  column : Nat
deriving DecidableEq, Repr

namespace Fault

/-- The wording of a fault. -/
def message (fault : Fault) : String :=
  fault.reason.message ++ " at line " ++ Nat.repr fault.line ++ " column " ++ Nat.repr fault.column

/-- The fault found after the characters of `passed`. -/
def after (reason : Reason) (passed : List Char) : Fault where
  reason := reason
  line := passed.count '\n' + 1
  column := (Text.Utf8.encode (passed.reverse.takeWhile (· ≠ '\n'))).length

/-- The fault at the first byte behind the characters of `passed`. -/
def before (reason : Reason) (passed ahead : List Char) : Fault :=
  match ahead with
  | [] => after reason passed
  | '\n' :: _ => after reason (passed ++ ['\n'])
  | _ :: _ => after reason (passed ++ [' '])

end Fault

/-- Where a reader stopped: behind what is wrong, behind the first bytes of what
is left, or in front of it, with the text that is left, or inside a text that
stands for a value. -/
inductive Stop where
  | behind (reason : Reason) (rest : List Char)
  | within (reason : Reason) (bytes : Nat) (rest : List Char)
  | before (reason : Reason) (rest : List Char)
  | inside (fault : Fault)
deriving DecidableEq, Repr

namespace Stop

/-- The fault of a reader that stopped in a text. -/
def fault (stop : Stop) (text : List Char) : Fault :=
  match stop with
  | behind reason rest => .after reason (text.take (text.length - rest.length))
  | within reason bytes rest =>
      let passed := Fault.after reason (text.take (text.length - rest.length))
      { passed with column := passed.column + bytes }
  | before reason rest => .before reason (text.take (text.length - rest.length)) rest
  | inside fault => fault

end Stop

/-- Either a result and the text behind it, or where the reader stopped. -/
abbrev Scan (α : Type) :=
  Except Stop (α × List Char)

end Json
end RowGate
