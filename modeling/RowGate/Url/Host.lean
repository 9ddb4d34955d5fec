import RowGate.Ip
import RowGate.Text.Percent
import RowGate.Url.Domain

namespace RowGate
namespace Url

/-!
# Hosts of URLs

A host is a numeric address in brackets or a name.  In most schemes the name is
any text without the characters that have a meaning in a URL.  In the schemes of
the web it is a domain: percent signs are resolved, letters may be of any
script, and a name whose last label is a number has to be an address of four
bytes.
-/

/-- Why a text is no URL. -/
inductive Fault where
  | noScheme
  | emptyHost
  | badPort
  | badFourBytes
  | badEightGroups
  | badHostCharacter
  | badDomain
deriving DecidableEq, Repr

namespace Fault

/-- The wording of a fault. -/
def message : Fault → String
  | noScheme => "relative URL without a base"
  | emptyHost => "empty host"
  | badPort => "invalid port number"
  | badFourBytes => "invalid IPv4 address"
  | badEightGroups => "invalid IPv6 address"
  | badHostCharacter => "invalid domain character"
  | badDomain => "invalid international domain name"

end Fault

namespace Host

/-- The numeric address behind an opening bracket. -/
def bracketed (cs : List Char) : Except Fault (List Char) :=
  if cs.getLast? = some ']' ∧ (Ip.eightGroups? cs.dropLast).isSome then .ok ('[' :: cs)
  else .error .badEightGroups

/-! ## Names -/

/-- Whether a character is in no name. -/
def isForbidden (c : Char) : Bool :=
  c == Char.ofNat 0 || c == ' ' || c == '\t' || c == '\n' || c == '\r' ||
    Domain.reserved.contains c

/-- A host of a scheme that takes any name. -/
def ofName : List Char → Except Fault (List Char)
  | '[' :: rest => bracketed rest
  | cs => if cs.any isForbidden then .error .badHostCharacter else .ok cs

/-! ## Domains -/

/-- The domain that a text names. -/
def domain (cs : List Char) : Except Fault (List Char) :=
  match Text.Utf8.decode? (Text.Percent.decode cs) >>= Domain.read? with
  | none => .error .badDomain
  | some [] => .error .emptyHost
  | some name => .ok name

/-! ## Numbers in domains -/

/-- The number that a label is, if it is one: hexadecimal behind `0x`, octal
behind another zero, else decimal. -/
def number? : List Char → Option Nat
  | [] => none
  | '0' :: 'x' :: digits => Text.Hex.read digits
  | ['0'] => some 0
  | '0' :: digits =>
      if digits.all fun c => '0' ≤ c ∧ c ≤ '7' then
        some (digits.foldl (fun value c => value * 8 + (c.toNat - 48)) 0)
      else none
  | digits =>
      match Digits.span digits with
      | (run, []) => some (Digits.value run)
      | _ => none

/-- The labels of a domain, without the empty one behind a dot at the end. -/
def labels (name : List Char) : List (List Char) :=
  let all := Text.pieces '.' name
  if all.getLast? = some [] then all.dropLast else all

/-- Whether the last label is a number. -/
def endsInNumber (name : List Char) : Bool :=
  (labels name).getLast?.any fun last =>
    last != [] && (last.all Char.isDigit || (number? last).isSome)

/-- Whether a domain is an address of at most four numbers, the last of which
takes the place of those that are left out. -/
def isFourBytes (name : List Char) : Bool :=
  match (labels name).mapM number? with
  | none => false
  | some numbers =>
      let front := numbers.dropLast
      front.length < 4 && front.all (· < 256) &&
        (numbers.getLast?.getD 0) < Nat.pow 256 (4 - front.length)

/-- A host of a scheme of the web. -/
def ofDomain : List Char → Except Fault (List Char)
  | '[' :: rest => bracketed rest
  | cs =>
      (domain cs).bind fun name =>
        if endsInNumber name ∧ ¬ isFourBytes name then .error .badFourBytes else .ok name

end Host
end Url
end RowGate
