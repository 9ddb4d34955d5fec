import RowGate.Json.Token

namespace RowGate
namespace Json

/-!
# Passing over values

A value that nobody asks for has to follow the grammar, but is not built: its
containers may stand inside one another to any depth, and the units of its
strings need not be in pairs.
-/

/-- An open container. -/
inductive Frame where
  | list
  | object
deriving DecidableEq, Repr

/-- Pass over the key of a member and its colon. -/
def skipKey (cs : List Char) : Except Stop (List Char) :=
  match skipBlanks cs with
  | [] => .error (.before .endOfObject [])
  | '"' :: rest =>
      (skipString rest).bind fun behind =>
        match skipBlanks behind with
        | [] => .error (.before .endOfObject [])
        | ':' :: rest => .ok rest
        | other => .error (.before .missingColon other)
  | other => .error (.before .badKey other)

/-- What stands behind a value: the value goes on with another member or item
of the innermost container, or it closes this one. -/
inductive Turn where
  | next (rest : List Char)
  | closed (rest : List Char)
deriving DecidableEq, Repr

/-- Pass over what stands behind a value in a container. -/
def skipSeparator (frame : Frame) (cs : List Char) : Except Stop Turn :=
  match frame, skipBlanks cs with
  | .list, [] => .error (.before .endOfList [])
  | .object, [] => .error (.before .endOfObject [])
  | .list, ',' :: rest => .ok (.next rest)
  | .object, ',' :: rest => (skipKey rest).map .next
  | .list, ']' :: rest => .ok (.closed rest)
  | .object, '\x7d' :: rest => .ok (.closed rest)
  | .list, other => .error (.before .badListSeparator other)
  | .object, other => .error (.before .badObjectSeparator other)

/-- Pass over the beginning of a value.  Of a container that is not empty this
is all up to its first value. -/
def skipStart (cs : List Char) : Except Stop (Option Frame × List Char) :=
  match skipBlanks cs with
  | '"' :: rest => (skipString rest).map fun behind => (none, behind)
  | '[' :: rest =>
      match skipBlanks rest with
      | [] => .error (.before .endOfList [])
      | ']' :: tail => .ok (none, tail)
      | inner => .ok (some .list, inner)
  | '\x7b' :: rest =>
      match skipBlanks rest with
      | '\x7d' :: tail => .ok (none, tail)
      | inner => (skipKey inner).map fun behind => (some .object, behind)
  | simple => (scanSimple simple).map fun scanned => (none, scanned.2)

/-- Pass over the rest of containers that stand inside one another, up to the
end of the last one.  `due` says that a value comes next.  Each step takes at
least one character, so the length of the text bounds the number of steps. -/
def skipFrames : (fuel : Nat) → (due : Bool) → List Frame → List Char → Except Stop (List Char)
  | 0, _, _, cs => .error (.before .endOfValue cs)
  | fuel + 1, true, frames, cs =>
      match skipStart cs with
      | .error stop => .error stop
      | .ok (none, rest) => skipFrames fuel false frames rest
      | .ok (some frame, rest) => skipFrames fuel true (frame :: frames) rest
  | _ + 1, false, [], cs => .ok cs
  | fuel + 1, false, frame :: outer, cs =>
      match skipSeparator frame cs with
      | .error stop => .error stop
      | .ok (.next rest) => skipFrames fuel true (frame :: outer) rest
      | .ok (.closed rest) => skipFrames fuel false outer rest

/-- Pass over a value. -/
def skipValue (cs : List Char) : Except Stop (List Char) :=
  skipFrames (cs.length + 2) true [] cs

end Json
end RowGate
