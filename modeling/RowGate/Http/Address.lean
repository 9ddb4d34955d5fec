import RowGate.Ip

namespace RowGate
namespace Http

/-!
# Socket addresses

A socket address is a numeric address with a port behind a colon.  Eight groups
stand in brackets, and may have the number of a zone.  Names of hosts are no
addresses.
-/

/-- An address of a network interface. -/
inductive Interface where
  | four (bytes : List Nat)
  | six (groups : List Nat) (zone : Nat)
deriving DecidableEq, Repr

/-- An interface and a port. -/
structure Address where
  interface : Interface
  port : Nat
deriving DecidableEq, Repr

namespace Address

/-! ## Reading -/

/-- What stands in brackets: groups and a zone behind a percent sign. -/
def bracketed? (cs : List Char) : Option Interface :=
  match Text.cutFirst '%' cs with
  | none => (Ip.eightGroups? cs).map fun groups => .six groups 0
  | some (groups, zone) => do
      let groups ← Ip.eightGroups? groups
      let zone ← Ip.number? 4294967295 zone
      some (.six groups zone)

/-- An interface, in brackets if it is made of groups. -/
def interface? : List Char → Option Interface
  | '[' :: rest =>
      if rest.getLast? = some ']' then bracketed? rest.dropLast else none
  | cs => (Ip.fourBytes? cs).map .four

/-- Read an address. -/
def read? (text : String) : Option Address := do
  let (place, port) ← Text.cutLast ':' text.toList
  let interface ← interface? place
  let port ← Ip.number? Bounded.maxNat16 port
  some ⟨interface, port⟩

/-! ## Writing -/

/-- The characters of an interface. -/
def interfaceChars : Interface → List Char
  | .four bytes => Ip.fourChars bytes
  | .six groups zone =>
      '[' :: Ip.sixChars groups ++
        (if zone = 0 then [] else '%' :: Digits.chars (Digits.ofNat zone)) ++ [']']

/-- The text of an address. -/
def text (address : Address) : String :=
  String.ofList
    (interfaceChars address.interface ++ ':' :: Digits.chars (Digits.ofNat address.port))

end Address
end Http
end RowGate
