import RowGate.Json.Reader
import RowGate.Proofs.Fallible
import RowGate.Proofs.Json.Canonical
import RowGate.Proofs.Json.Tokens

namespace RowGate
namespace Json

/-!
# Which values are read back

A written value is read back unless its containers stand too deep inside one
another, or an object in it begins with a key that marks a text as standing for
a value.  Such a value is written, but its text is refused or says something
else.

The induction is on the value.  It goes through the steps of the reader on a
text in which something stands behind the value, and what is behind always
begins with a comma, a closing bracket or brace.
-/

/-- The keys that mark a text as standing for a value. -/
def isReserved (key : String) : Bool :=
  key == numberKey || key == documentKey

mutual

/-- Whether a value is what its text says, where `depth` containers may be
opened. -/
def isLegible : (depth : Nat) → Json → Bool
  | 0, .array _ => false
  | 0, .object _ => false
  | depth + 1, .array items => areLegible depth items
  | depth + 1, .object members =>
      (members.head?.all fun first => !isReserved first.1) && membersLegible depth members
  | _, _ => true

/-- Whether all items are legible. -/
def areLegible (depth : Nat) : List Json → Bool
  | [] => true
  | item :: rest => isLegible depth item && areLegible depth rest

/-- Whether the values of all members are legible. -/
def membersLegible (depth : Nat) : List (String × Json) → Bool
  | [] => true
  | (_, value) :: rest => isLegible depth value && membersLegible depth rest

end

section

variable (depth : Nat)

@[simp]
theorem isLegible_null : isLegible depth .null = true := by
  cases depth <;> rfl

@[simp]
theorem isLegible_bool (truth : Bool) : isLegible depth (.bool truth) = true := by
  cases depth <;> rfl

@[simp]
theorem isLegible_number (n : Number) : isLegible depth (.number n) = true := by
  cases depth <;> rfl

@[simp]
theorem isLegible_string (s : String) : isLegible depth (.string s) = true := by
  cases depth <;> rfl

end

/-! ## Texts behind an opening bracket or brace -/

/-- The items of an array and its closing bracket. -/
def itemsChars : List Json → List Char
  | [] => [']']
  | item :: rest => chars item ++ moreItems rest

/-- The members of an object and its closing brace. -/
def membersChars : List (String × Json) → List Char
  | [] => ['\x7d']
  | (key, value) :: rest => quoted key ++ ':' :: (chars value ++ moreMembers rest)

theorem chars_array (items : List Json) : chars (.array items) = '[' :: itemsChars items := by
  cases items with
  | nil => rfl
  | cons item rest => simp [chars, itemsChars]

theorem chars_object (members : List (String × Json)) :
    chars (.object members) = '\x7b' :: membersChars members := by
  cases members with
  | nil => rfl
  | cons member rest =>
      rcases member with ⟨key, value⟩
      simp [chars, membersChars]

theorem moreItems_cons (item : Json) (rest : List Json) :
    moreItems (item :: rest) = ',' :: itemsChars (item :: rest) := by
  simp [moreItems, itemsChars]

theorem moreMembers_cons (member : String × Json) (rest : List (String × Json)) :
    moreMembers (member :: rest) = ',' :: membersChars (member :: rest) := by
  rcases member with ⟨key, value⟩
  simp [moreMembers, membersChars]

theorem itemsChars_append (item : Json) (more : List Json) (rest : List Char) :
    itemsChars (item :: more) ++ rest = chars item ++ (moreItems more ++ rest) :=
  List.append_assoc _ _ _

theorem membersChars_append (key : String) (value : Json) (more : List (String × Json))
    (rest : List Char) :
    membersChars ((key, value) :: more) ++ rest =
      quoted key ++ ':' :: (chars value ++ (moreMembers more ++ rest)) := by
  simp [membersChars]

theorem delimited_moreItems (items : List Json) (rest : List Char) :
    Delimited (moreItems items ++ rest) := by
  cases items with
  | nil => exact delimited_cons (.inr (.inl rfl)) _
  | cons item others =>
      rw [moreItems_cons]
      exact delimited_cons (.inl rfl) _

theorem delimited_moreMembers (members : List (String × Json)) (rest : List Char) :
    Delimited (moreMembers members ++ rest) := by
  cases members with
  | nil => exact delimited_cons (.inr (.inr rfl)) _
  | cons member others =>
      rw [moreMembers_cons]
      exact delimited_cons (.inl rfl) _

/-- A character that begins a written value: no blank, and no closing bracket. -/
abbrev Begins (c : Char) : Prop :=
  (c ≠ ' ' ∧ c ≠ '\n' ∧ c ≠ '\t' ∧ c ≠ '\r') ∧ c ≠ ']'

theorem Number.Opens.begins {c : Char} (opens : Number.Opens c) : Begins c := by
  have digits : ∀ d : Digit, Begins d.toChar := by decide
  rcases opens with rfl | ⟨d, rfl⟩
  · decide
  · exact digits d

theorem exists_chars_eq (value : Json) : ∃ c more, chars value = c :: more ∧ Begins c := by
  cases value with
  | null => exact ⟨'n', _, rfl, by decide⟩
  | bool truth =>
      cases truth with
      | true => exact ⟨'t', _, rfl, by decide⟩
      | false => exact ⟨'f', _, rfl, by decide⟩
  | number n =>
      rcases n.exists_chars_eq with ⟨c, more, begins, opens⟩
      exact ⟨c, more, begins, opens.begins⟩
  | string s => exact ⟨'"', _, rfl, by decide⟩
  | array items => exact ⟨'[', _, chars_array items, by decide⟩
  | object members => exact ⟨'\x7b', _, chars_object members, by decide⟩

theorem skipBlanks_chars (value : Json) (rest : List Char) :
    skipBlanks (chars value ++ rest) = chars value ++ rest := by
  rcases exists_chars_eq value with ⟨c, more, begins, solid, _⟩
  rw [begins, List.cons_append, skipBlanks_of_solid solid]

/-! ## Steps of the reader -/

variable {fuel depth : Nat} {shape inner : Shape}

theorem scanKey_quoted (key : String) (rest : List Char) :
    scanKey (quoted key ++ ':' :: rest) = .ok (key, rest) := by
  have body := scanString_escape key (':' :: rest)
  have text : quoted key ++ ':' :: rest = '"' :: (escape key.toList ++ '"' :: ':' :: rest) := by
    simp [quoted]
  rw [text]
  simp only [scanKey, body, Except.bind]
  rfl

theorem scanKey_membersChars (key : String) (value : Json) (more : List (String × Json))
    (rest : List Char) :
    scanKey (membersChars ((key, value) :: more) ++ rest) =
      .ok (key, chars value ++ (moreMembers more ++ rest)) := by
  rw [membersChars_append, scanKey_quoted]

theorem scanValue_of_simple {c : Char} (begins : Begins c)
    (simple : c ≠ '"' ∧ c ≠ '[' ∧ c ≠ '\x7b') (rest : List Char) :
    scanValue (fuel + 1) depth shape (c :: rest) = scanSimple (c :: rest) := by
  simp [scanValue, skipBlanks_of_solid begins.1, simple]

theorem scanValue_null (rest : List Char) :
    scanValue (fuel + 1) depth shape (chars .null ++ rest) = .ok (.null, rest) :=
  scanValue_of_simple (by decide) (by decide) _

theorem scanValue_bool (truth : Bool) (rest : List Char) :
    scanValue (fuel + 1) depth shape (chars (.bool truth) ++ rest) = .ok (.bool truth, rest) := by
  cases truth with
  | true => exact scanValue_of_simple (by decide) (by decide) _
  | false => exact scanValue_of_simple (by decide) (by decide) _

theorem scanValue_string (s : String) (rest : List Char) :
    scanValue (fuel + 1) depth shape (chars (.string s) ++ rest) = .ok (.string s, rest) := by
  have text : chars (.string s) ++ rest = '"' :: (escape s.toList ++ '"' :: rest) := by
    simp [chars, quoted]
  rw [text, scanValue, skipBlanks_of_solid (by decide)]
  simp only [scanString_escape]
  rfl

theorem scanValue_number (n : Number) {rest : List Char} (delimited : Delimited rest) :
    scanValue (fuel + 1) depth shape (chars (.number n) ++ rest) = .ok (.number n, rest) := by
  have apart : ∀ d : Digit, d.toChar ≠ '"' ∧ d.toChar ≠ '[' ∧ d.toChar ≠ '\x7b' := by decide
  have scanned := scanSimple_number n delimited
  rcases n.exists_chars_eq with ⟨c, more, begins, opens⟩
  rw [chars]
  rw [begins] at scanned ⊢
  have others : c ≠ '"' ∧ c ≠ '[' ∧ c ≠ '\x7b' := by
    rcases opens with rfl | ⟨d, rfl⟩
    · decide
    · exact apart d
  rw [List.cons_append, scanValue_of_simple opens.begins others, ← List.cons_append, scanned]

theorem scanValue_list (item : Json) (more : List Json) (rest : List Char) :
    scanValue (fuel + 1) (depth + 1) shape (chars (.array (item :: more)) ++ rest) =
      (scanItems fuel depth shape 0 (itemsChars (item :: more) ++ rest)).map fun scanned =>
        (.array scanned.1, scanned.2) := by
  rcases exists_chars_eq item with ⟨c, tail, begins, solid, noEnd⟩
  rw [chars_array, List.cons_append, itemsChars, begins]
  simp [scanValue, skipBlanks_of_solid solid, skipBlanks_of_solid (c := '[') (by decide), noEnd]

theorem scanValue_object (member : String × Json) (more : List (String × Json))
    (rest : List Char) :
    scanValue (fuel + 1) (depth + 1) shape (chars (.object (member :: more)) ++ rest) =
      scanObject fuel depth shape (membersChars (member :: more) ++ rest) := by
  rcases member with ⟨key, value⟩
  rw [chars_object, List.cons_append, membersChars]
  simp [scanValue, quoted, skipBlanks_of_solid (c := '"') (by decide),
    skipBlanks_of_solid (c := '\x7b') (by decide)]

theorem scanValue_emptyList (rest : List Char) :
    scanValue (fuel + 1) (depth + 1) shape (chars (.array []) ++ rest) =
      .ok (.array [], rest) := by
  simp [chars, scanValue, skipBlanks_of_solid (c := '[') (by decide),
    skipBlanks_of_solid (c := ']') (by decide)]

theorem scanValue_emptyObject (rest : List Char) :
    scanValue (fuel + 1) (depth + 1) shape (chars (.object []) ++ rest) =
      .ok (.object [], rest) := by
  simp [chars, scanValue, skipBlanks_of_solid (c := '\x7b') (by decide),
    skipBlanks_of_solid (c := '\x7d') (by decide)]

theorem scanItems_last {place : Nat} {cs rest : List Char} {item : Json}
    (scanned : scanValue fuel depth (shape.item place) cs = .ok (item, ']' :: rest)) :
    scanItems (fuel + 1) depth shape place cs = .ok ([item], rest) := by
  simp [scanItems, scanned, Except.bind, skipBlanks_of_solid (c := ']') (by decide)]

theorem scanItems_further {place : Nat} {cs rest : List Char} {item next : Json}
    (scanned : scanValue fuel depth (shape.item place) cs =
      .ok (item, ',' :: (chars next ++ rest))) :
    scanItems (fuel + 1) depth shape place cs =
      (scanItems fuel depth shape (place + 1) (chars next ++ rest)).map fun others =>
        (item :: others.1, others.2) := by
  rcases exists_chars_eq next with ⟨c, tail, begins, solid, noEnd⟩
  rw [begins] at scanned ⊢
  simp [scanItems, scanned, Except.bind, skipBlanks_of_solid (c := ',') (by decide),
    skipBlanks_of_solid solid, noEnd]

theorem scanMembers_last {key : String} {cs rest : List Char} {value : Json}
    (asked : shape.member? key = some inner)
    (scanned : scanValue fuel depth inner cs = .ok (value, '\x7d' :: rest)) :
    scanMembers (fuel + 1) depth shape key cs = .ok ([(key, value)], rest) := by
  simp [scanMembers, asked, scanned, Except.bind, Except.map,
    skipBlanks_of_solid (c := '\x7d') (by decide)]

theorem scanMembers_further {key next : String} {cs rest : List Char} {value : Json}
    (asked : shape.member? key = some inner)
    (scanned : scanValue fuel depth inner cs =
      .ok (value, ',' :: (quoted next ++ ':' :: rest))) :
    scanMembers (fuel + 1) depth shape key cs =
      (scanMembers fuel depth shape next rest).map fun others =>
        ((key, value) :: others.1, others.2) := by
  have named := scanKey_quoted next rest
  have opens : quoted next ++ ':' :: rest = '"' :: (escape next.toList ++ '"' :: ':' :: rest) := by
    simp [quoted]
  rw [opens] at scanned named
  simp [scanMembers, asked, scanned, named, Except.bind, Except.map,
    skipBlanks_of_solid (c := ',') (by decide), skipBlanks_of_solid (c := '"') (by decide)]

/-! ## Legible values are read back -/

theorem length_chars_pos (value : Json) : 0 < (chars value).length := by
  rcases exists_chars_eq value with ⟨c, more, begins, _⟩
  simp [begins]

theorem length_itemsChars (item : Json) (more : List Json) :
    (itemsChars (item :: more)).length = (chars item).length + (moreItems more).length :=
  List.length_append

theorem length_membersChars (key : String) (value : Json) (more : List (String × Json)) :
    (chars value).length + (moreMembers more).length + 3 ≤
      (membersChars ((key, value) :: more)).length := by
  simp only [membersChars, quoted, List.length_append, List.length_cons]
  omega

theorem length_moreItems_pos (items : List Json) : 0 < (moreItems items).length := by
  cases items <;> simp [moreItems]

/-- Every member is asked for as a value. -/
def Shape.AsksValues (shape : Shape) : Prop :=
  ∀ key, shape.member? key = some .value

theorem asksValues_value : Shape.value.AsksValues :=
  fun _ => rfl

theorem asksValues_map : (Shape.map .value).AsksValues :=
  fun _ => rfl

/-- The keys of a map mark no texts. -/
theorem plainKey_of_map {key : String} : Shape.map .value = .value → isReserved key = false :=
  nofun

/-- A key marks a text only where a value is asked for. -/
theorem scanObject_of_plainKey {key : String} {value : Json} {more : List (String × Json)}
    (plain : shape = .value → isReserved key = false) (rest : List Char) :
    scanObject (fuel + 1) depth shape (membersChars ((key, value) :: more) ++ rest) =
      (scanMembers fuel depth shape key (chars value ++ (moreMembers more ++ rest))).map
        fun scanned => (.object scanned.1, scanned.2) := by
  rw [scanObject, scanKey_membersChars]
  cases shape with
  | value =>
      have unreserved := plain rfl
      rw [isReserved, Bool.or_eq_false_iff] at unreserved
      simp only [Except.bind, unreserved]
  | plain => rfl
  | record fields => rfl
  | list item => rfl
  | map member => rfl

mutual

/-- A legible value is read back from its text, whatever stands behind it. -/
theorem scanValue_chars : ∀ (value : Json) (fuel depth : Nat) (rest : List Char),
    isLegible depth value = true → 3 * (chars value).length ≤ fuel + 3 → Delimited rest →
      scanValue (fuel + 1) depth .value (chars value ++ rest) = .ok (value, rest)
  | .null, _, _, _, _, _, _ => scanValue_null _
  | .bool truth, _, _, _, _, _, _ => scanValue_bool truth _
  | .string s, _, _, _, _, _, _ => scanValue_string s _
  | .number n, _, _, _, _, _, delimited => scanValue_number n delimited
  | .array [], _, 0, _, legible, _, _ => by simp [isLegible] at legible
  | .array [], _, _ + 1, _, _, _, _ => scanValue_emptyList _
  | .array (_ :: _), _, 0, _, legible, _, _ => by simp [isLegible] at legible
  | .array (item :: more), fuel, depth + 1, rest, legible, enough, _ => by
      have positive := length_chars_pos item
      have length := length_itemsChars item more
      rw [chars_array, List.length_cons] at enough
      obtain ⟨less, rfl⟩ : ∃ less, fuel = less + 1 := ⟨fuel - 1, by omega⟩
      have scanned := scanItems_chars (item :: more) less depth 0 rest (List.cons_ne_nil _ _)
        (by simpa only [isLegible] using legible) (by omega)
      rw [scanValue_list, scanned]
      rfl
  | .object [], _, 0, _, legible, _, _ => by simp [isLegible] at legible
  | .object [], _, _ + 1, _, _, _, _ => scanValue_emptyObject _
  | .object (_ :: _), _, 0, _, legible, _, _ => by simp [isLegible] at legible
  | .object ((key, value) :: more), fuel, depth + 1, rest, legible, enough, _ => by
      have length := length_membersChars key value more
      rw [chars_object, List.length_cons] at enough
      obtain ⟨less, rfl⟩ : ∃ less, fuel = less + 2 := ⟨fuel - 2, by omega⟩
      simp only [isLegible, List.head?_cons, Option.all_some, Bool.and_eq_true,
        Bool.not_eq_true'] at legible
      have scanned := scanMembers_chars ((key, value) :: more) less depth .value rest
        asksValues_value legible.2 (by omega)
      rw [scanValue_object, scanObject_of_plainKey fun _ => legible.1, scanned key value more rfl]
      rfl

theorem scanItems_chars : ∀ (items : List Json) (fuel depth place : Nat) (rest : List Char),
    items ≠ [] → areLegible depth items = true → 3 * (itemsChars items).length ≤ fuel + 3 →
      scanItems (fuel + 1) depth .value place (itemsChars items ++ rest) = .ok (items, rest)
  | [], _, _, _, _, filled, _, _ => absurd rfl filled
  | item :: more, fuel, depth, place, rest, _, legible, enough => by
      have positive := length_chars_pos item
      have closed := length_moreItems_pos more
      simp only [areLegible, Bool.and_eq_true] at legible
      rw [length_itemsChars] at enough
      obtain ⟨less, rfl⟩ : ∃ less, fuel = less + 1 := ⟨fuel - 1, by omega⟩
      have scanned := scanValue_chars item less depth (moreItems more ++ rest) legible.1
        (by omega) (delimited_moreItems more rest)
      rw [itemsChars_append]
      cases more with
      | nil => exact scanItems_last scanned
      | cons next others =>
          have later := scanItems_chars (next :: others) less depth (place + 1) rest
            (List.cons_ne_nil _ _) legible.2 (by
              rw [moreItems_cons, List.length_cons] at enough
              omega)
          rw [moreItems_cons, List.cons_append, itemsChars_append] at scanned ⊢
          rw [itemsChars_append] at later
          rw [scanItems_further scanned, later]
          rfl

theorem scanMembers_chars : ∀ (members : List (String × Json)) (fuel depth : Nat) (shape : Shape)
    (rest : List Char), shape.AsksValues → membersLegible depth members = true →
      3 * (membersChars members).length ≤ fuel + 4 → ∀ key value more,
      members = (key, value) :: more →
        scanMembers (fuel + 1) depth shape key (chars value ++ (moreMembers more ++ rest)) =
          .ok (members, rest)
  | [], _, _, _, _, _, _, _, _, _, _, equal => by cases equal
  | (key, value) :: more, fuel, depth, shape, rest, asks, legible, enough, _, _, _, rfl => by
      have length := length_membersChars key value more
      simp only [membersLegible, Bool.and_eq_true] at legible
      obtain ⟨less, rfl⟩ : ∃ less, fuel = less + 1 := ⟨fuel - 1, by omega⟩
      have scanned := scanValue_chars value less depth (moreMembers more ++ rest) legible.1
        (by omega) (delimited_moreMembers more rest)
      cases more with
      | nil => exact scanMembers_last (asks key) scanned
      | cons second others =>
          rcases second with ⟨next, nextValue⟩
          have later := scanMembers_chars ((next, nextValue) :: others) less depth shape rest
            asks legible.2 (by
              rw [moreMembers_cons, List.length_cons] at length
              omega) next nextValue others rfl
          rw [moreMembers_cons, List.cons_append, membersChars_append] at scanned ⊢
          rw [scanMembers_further (asks key) scanned, later]
          rfl

end

/-! ## Only legible values are read back -/

theorem scanWord_eq_ok {word cs rest : List Char} {value read : Json}
    (scanned : scanWord word value cs = .ok (read, rest)) : read = value := by
  induction word generalizing cs with
  | nil =>
      cases scanned
      rfl
  | cons expected word inductionHypothesis =>
      cases cs with
      | nil => cases scanned
      | cons c more =>
          simp only [scanWord] at scanned
          split at scanned
          · exact inductionHypothesis scanned
          · cases scanned

theorem scanSimple_ne_object {cs rest : List Char} {members : List (String × Json)} :
    scanSimple cs ≠ .ok (.object members, rest) := by
  intro scanned
  unfold scanSimple at scanned
  split at scanned
  · cases scanned
  · cases scanWord_eq_ok scanned
  · cases scanWord_eq_ok scanned
  · cases scanWord_eq_ok scanned
  · split at scanned
    · rcases Fallible.map_eq_ok.mp scanned with ⟨_, _, same⟩
      cases same
    · cases scanned

theorem scanContent_eq_ok {content : Content} {make : String → Except Fault Json}
    {cs rest : List Char} {read : Json}
    (scanned : scanContent content make cs = .ok (read, rest)) :
    ∃ tail text, skipBlanks cs = '"' :: tail ∧ scanString tail = .ok text ∧
      make text.1 = .ok read ∧ scanClosing text.2 = .ok rest := by
  unfold scanContent at scanned
  split at scanned
  · next tail opened =>
    rcases Fallible.bind_eq_ok.mp scanned with ⟨text, taken, scanned⟩
    split at scanned
    · cases scanned
    · next value made =>
      rcases Fallible.map_eq_ok.mp scanned with ⟨_, closed, same⟩
      cases same
      exact ⟨tail, text, opened, taken, made, closed⟩
  · cases scanned

/-- What is read where a text stands for a value: a number, or a value of the
text. -/
def ComesFrom (fuel : Nat) (text : String) (value : Json) : Prop :=
  (∃ n, value = .number n) ∨
    ∃ rest, scanValue fuel depthLimit .value text.toList = .ok (value, rest)

theorem eq_of_ended {value read : Json} {rest : List Char} (whole : ended value rest = .ok read) :
    value = read := by
  unfold ended at whole
  split at whole
  · exact Except.ok.inj whole
  · cases whole

theorem scanObject_eq_ok {cs rest : List Char} {read : Json}
    (scanned : scanObject fuel depth .value cs = .ok (read, rest)) :
    ∃ less key, fuel = less + 1 ∧ scanKey cs = .ok key ∧
      ((isReserved key.1 = false ∧ ∃ members, read = .object members ∧
          scanMembers less depth .value key.1 key.2 = .ok (members, rest)) ∨
        isReserved key.1 = true ∧ ∃ content make,
          scanContent content make key.2 = .ok (read, rest) ∧
            ∀ text value, make text = .ok value → ComesFrom less text value) := by
  cases fuel with
  | zero => simp [scanObject] at scanned
  | succ less =>
      rw [scanObject] at scanned
      rcases Fallible.bind_eq_ok.mp scanned with ⟨key, named, scanned⟩
      refine ⟨less, key, rfl, named, ?_⟩
      cases isNumber : key.1 == numberKey with
      | true =>
          simp only [isNumber] at scanned
          refine .inr ⟨by simp [isReserved, isNumber], _, _, scanned, ?_⟩
          intro text value made
          rcases Fallible.map_eq_ok.mp made with ⟨n, _, same⟩
          exact .inl ⟨n, same.symm⟩
      | false =>
          cases isDocument : key.1 == documentKey with
          | true =>
              simp only [isNumber, isDocument] at scanned
              refine .inr ⟨by simp [isReserved, isDocument], _, _, scanned, ?_⟩
              intro text value made
              split at made
              · cases made
              · next whole =>
                cases made
                rcases Fallible.bind_eq_ok.mp whole with ⟨found, taken, whole⟩
                obtain rfl := eq_of_ended whole
                exact .inr ⟨found.2, taken⟩
          | false =>
              simp only [isNumber, isDocument] at scanned
              rcases Fallible.map_eq_ok.mp scanned with ⟨members, taken, same⟩
              cases same
              exact .inl ⟨by simp [isReserved, isNumber, isDocument], members.1, rfl, taken⟩

theorem scanItems_eq_ok {place : Nat} {cs rest : List Char} {items : List Json}
    (scanned : scanItems fuel depth shape place cs = .ok (items, rest)) :
    ∃ less item more, fuel = less + 1 ∧ scanValue less depth (shape.item place) cs = .ok item ∧
      items = item.1 :: more := by
  cases fuel with
  | zero => simp [scanItems] at scanned
  | succ less =>
      rw [scanItems] at scanned
      rcases Fallible.bind_eq_ok.mp scanned with ⟨item, taken, scanned⟩
      split at scanned
      · cases scanned
      · cases scanned
        exact ⟨less, item, [], rfl, taken, rfl⟩
      · split at scanned
        · cases scanned
        · rcases Fallible.map_eq_ok.mp scanned with ⟨others, _, same⟩
          cases same
          exact ⟨less, item, others.1, rfl, taken, rfl⟩
      · cases scanned

theorem scanMembers_eq_ok {key : String} {cs rest : List Char} {members : List (String × Json)}
    (asked : shape.member? key = some inner)
    (scanned : scanMembers fuel depth shape key cs = .ok (members, rest)) :
    ∃ less value more, fuel = less + 1 ∧ scanValue less depth inner cs = .ok value ∧
      members = (key, value.1) :: more := by
  cases fuel with
  | zero => simp [scanMembers] at scanned
  | succ less =>
      rw [scanMembers, asked] at scanned
      rcases Fallible.bind_eq_ok.mp scanned with ⟨member, here, scanned⟩
      rcases Fallible.map_eq_ok.mp here with ⟨value, taken, rfl⟩
      split at scanned
      · cases scanned
      · cases scanned
        exact ⟨less, value, [], rfl, taken, rfl⟩
      · split at scanned
        · cases scanned
        · cases scanned
        · rcases Fallible.bind_eq_ok.mp scanned with ⟨next, _, scanned⟩
          rcases Fallible.map_eq_ok.mp scanned with ⟨others, _, same⟩
          cases same
          exact ⟨less, value, others.1, rfl, taken, rfl⟩
      · cases scanned

/-- An object that is read as a value does not begin with a reserved key, since
then its text would stand for another value. -/
theorem plainKey_of_scanValue {cs rest : List Char} {key : String} {value : Json}
    {more : List (String × Json)}
    (scanned : scanValue fuel depth .value cs = .ok (.object ((key, value) :: more), rest)) :
    isReserved key = false := by
  induction fuel using Nat.strongRecOn generalizing depth cs rest with
  | ind fuel inductionHypothesis =>
      cases fuel with
      | zero => simp [scanValue] at scanned
      | succ fuel =>
          rw [scanValue] at scanned
          split at scanned
          · rcases Fallible.map_eq_ok.mp scanned with ⟨_, _, same⟩
            cases same
          · split at scanned
            · cases scanned
            · cases scanned
            · cases scanned
            · rcases Fallible.map_eq_ok.mp scanned with ⟨_, _, same⟩
              cases same
          · split at scanned
            · cases scanned
            · cases scanned
            · cases scanned
            · rcases scanObject_eq_ok scanned with ⟨less, first, rfl, _,
                ⟨plain, members, same, taken⟩ | ⟨_, content, make, taken, comes⟩⟩
              · rcases scanMembers_eq_ok (asksValues_value _) taken with ⟨_, _, _, _, _, rfl⟩
                cases same
                exact plain
              · rcases scanContent_eq_ok taken with ⟨_, text, _, _, made, _⟩
                rcases comes _ _ made with ⟨n, same⟩ | ⟨behind, inside⟩
                · cases same
                · exact inductionHypothesis less (by omega) inside
          · exact absurd scanned scanSimple_ne_object

/-- Only a text can stand for a value, and only as the one member of its object. -/
theorem eq_string_of_scanContent {content : Content} {make : String → Except Fault Json}
    {value read : Json} {more : List (String × Json)} {rest behind : List Char}
    (scanned : scanContent content make (chars value ++ (moreMembers more ++ rest)) =
      .ok (read, behind)) :
    ∃ s, value = .string s ∧ more = [] ∧ behind = rest ∧ make s = .ok read := by
  rcases scanContent_eq_ok scanned with ⟨tail, text, opened, taken, made, closed⟩
  rw [skipBlanks_chars] at opened
  have string : ∃ s, value = .string s := by
    cases value with
    | string s => exact ⟨s, rfl⟩
    | null => cases opened
    | bool truth => cases truth <;> cases opened
    | number n =>
        have apart : ∀ d : Digit, d.toChar ≠ '"' := by decide
        rcases n.exists_chars_eq with ⟨c, _, begins, opens⟩
        rw [chars, begins] at opened
        cases opened
        rcases opens with wrong | ⟨d, wrong⟩
        · exact absurd wrong (by decide)
        · exact absurd wrong.symm (apart d)
    | array items => rw [chars_array] at opened; cases opened
    | object members => rw [chars_object] at opened; cases opened
  rcases string with ⟨s, rfl⟩
  have body : tail = escape s.toList ++ '"' :: (moreMembers more ++ rest) := by
    simpa [chars, quoted] using opened.symm
  rw [body, scanString_escape] at taken
  cases taken
  cases more with
  | nil =>
      cases closed
      exact ⟨s, rfl, rfl, rfl, made⟩
  | cons member others =>
      rw [moreMembers_cons] at closed
      cases closed

/-- An object that begins with a reserved key is not read back. -/
theorem canonical_ne_of_reserved {key : String} {value read : Json}
    {more : List (String × Json)} {rest behind : List Char} (reserved : isReserved key = true)
    (scanned : scanObject fuel depth .value (membersChars ((key, value) :: more) ++ rest) =
      .ok (read, behind)) :
    behind = rest ∧ canonical read ≠ .object ((key, value) :: more) := by
  rcases scanObject_eq_ok scanned with ⟨less, found, rfl, named, cases⟩
  rw [scanKey_membersChars] at named
  cases named
  rcases cases with ⟨plain, _⟩ | ⟨_, content, make, taken, comes⟩
  · exact absurd reserved (by simp [plain])
  · rcases eq_string_of_scanContent taken with ⟨s, rfl, rfl, rfl, made⟩
    refine ⟨rfl, fun same => ?_⟩
    rcases comes s read made with ⟨n, rfl⟩ | ⟨tail, inside⟩
    · cases same
    · cases read with
      | object members =>
          cases members with
          | nil => cases same
          | cons member others =>
              have member := key_mem_of_canonical same
              have plain := plainKey_of_scanValue inside
              simp only [List.map_cons, List.map_nil, List.mem_singleton] at member
              rw [member, reserved] at plain
              cases plain
      | null => cases same
      | bool truth => cases same
      | number n => cases same
      | string s => cases same
      | array items => cases same

theorem scanValue_list_zero (items : List Json) (rest : List Char) :
    scanValue (fuel + 1) 0 shape (chars (.array items) ++ rest) =
      .error (.before .tooDeep (chars (.array items) ++ rest)) := by
  rw [chars_array, List.cons_append]
  simp [scanValue, skipBlanks_of_solid (c := '[') (by decide)]

theorem scanValue_object_zero (members : List (String × Json)) (rest : List Char) :
    scanValue (fuel + 1) 0 shape (chars (.object members) ++ rest) =
      .error (.before .tooDeep (chars (.object members) ++ rest)) := by
  rw [chars_object, List.cons_append]
  simp [scanValue, skipBlanks_of_solid (c := '\x7b') (by decide)]

mutual

/-- What is read from the text of a value ends where the text ends, and is the
value only if the value is legible. -/
theorem legible_of_scanValue : ∀ (value : Json) {fuel depth : Nat} {rest : List Char}
    {read : Json} {behind : List Char},
    scanValue fuel depth .value (chars value ++ rest) = .ok (read, behind) →
      canonical value = value → Delimited rest →
        behind = rest ∧ (canonical read = value → isLegible depth value = true)
  | _, 0, _, _, _, _, scanned, _, _ => by simp [scanValue] at scanned
  | .null, _ + 1, _, _, _, _, scanned, _, _ => by
      rw [scanValue_null] at scanned
      cases scanned
      exact ⟨rfl, fun _ => isLegible_null _⟩
  | .bool truth, _ + 1, _, _, _, _, scanned, _, _ => by
      rw [scanValue_bool] at scanned
      cases scanned
      exact ⟨rfl, fun _ => isLegible_bool _ _⟩
  | .string s, _ + 1, _, _, _, _, scanned, _, _ => by
      rw [scanValue_string] at scanned
      cases scanned
      exact ⟨rfl, fun _ => isLegible_string _ _⟩
  | .number n, _ + 1, _, _, _, _, scanned, _, delimited => by
      rw [scanValue_number n delimited] at scanned
      cases scanned
      exact ⟨rfl, fun _ => isLegible_number _ _⟩
  | .array _, _ + 1, 0, _, _, _, scanned, _, _ => by
      rw [scanValue_list_zero] at scanned
      cases scanned
  | .object _, _ + 1, 0, _, _, _, scanned, _, _ => by
      rw [scanValue_object_zero] at scanned
      cases scanned
  | .array [], _ + 1, _ + 1, _, _, _, scanned, _, _ => by
      rw [scanValue_emptyList] at scanned
      cases scanned
      exact ⟨rfl, fun _ => by simp [isLegible, areLegible]⟩
  | .object [], _ + 1, _ + 1, _, _, _, scanned, _, _ => by
      rw [scanValue_emptyObject] at scanned
      cases scanned
      exact ⟨rfl, fun _ => by simp [isLegible, membersLegible]⟩
  | .array (item :: more), fuel + 1, depth + 1, rest, read, behind, scanned, ordered, _ => by
      rw [scanValue_list] at scanned
      rcases Fallible.map_eq_ok.mp scanned with ⟨items, taken, same⟩
      cases same
      rw [canonical, Json.array.injEq] at ordered
      rcases legible_of_scanItems (item :: more) (List.cons_ne_nil _ _) taken ordered with
        ⟨here, legible⟩
      refine ⟨here, fun same => ?_⟩
      rw [canonical, Json.array.injEq] at same
      simpa only [isLegible] using legible same
  | .object ((key, value) :: more), fuel + 1, depth + 1, rest, read, behind, scanned, ordered,
      _ => by
      rw [scanValue_object] at scanned
      rw [canonical_object_eq_self_iff] at ordered
      cases reserved : isReserved key with
      | true =>
          rcases canonical_ne_of_reserved reserved scanned with ⟨here, different⟩
          exact ⟨here, fun same => absurd same different⟩
      | false =>
          cases fuel with
          | zero => simp [scanObject] at scanned
          | succ fuel =>
              rw [scanObject_of_plainKey fun _ => reserved] at scanned
              rcases Fallible.map_eq_ok.mp scanned with ⟨members, taken, same⟩
              cases same
              rcases legible_of_scanMembers ((key, value) :: more) asksValues_value rfl taken
                ordered.2 with ⟨here, keys, legible⟩
              refine ⟨here, fun same => ?_⟩
              simp [isLegible, reserved, legible (canonicalMembers_eq ordered.1 keys same)]

theorem legible_of_scanItems : ∀ (items : List Json) {fuel depth place : Nat}
    {rest : List Char} {read : List Json} {behind : List Char}, items ≠ [] →
    scanItems fuel depth .value place (itemsChars items ++ rest) = .ok (read, behind) →
      canonicalItems items = items →
        behind = rest ∧ (canonicalItems read = items → areLegible depth items = true)
  | [], _, _, _, _, _, _, filled, _, _ => absurd rfl filled
  | item :: more, fuel, depth, place, rest, read, behind, _, scanned, ordered => by
      rw [canonicalItems, List.cons.injEq] at ordered
      rw [itemsChars_append] at scanned
      rcases scanItems_eq_ok scanned with ⟨less, ⟨value, after⟩, _, rfl, first, _⟩
      rcases legible_of_scanValue item first ordered.1 (delimited_moreItems more rest) with
        ⟨rfl, legible⟩
      cases more with
      | nil =>
          rw [scanItems_last first] at scanned
          cases scanned
          refine ⟨rfl, fun same => ?_⟩
          rw [canonicalItems, List.cons.injEq] at same
          rw [areLegible, legible same.1]
          rfl
      | cons next others =>
          rw [moreItems_cons, List.cons_append, itemsChars_append] at first scanned
          rw [scanItems_further first, ← itemsChars_append] at scanned
          rcases Fallible.map_eq_ok.mp scanned with ⟨later, taken, same⟩
          cases same
          rcases legible_of_scanItems (next :: others) (List.cons_ne_nil _ _) taken ordered.2 with
            ⟨here, following⟩
          refine ⟨here, fun same => ?_⟩
          rw [canonicalItems, List.cons.injEq] at same
          rw [areLegible, legible same.1, following same.2]
          rfl

theorem legible_of_scanMembers : ∀ (members : List (String × Json)) {fuel depth : Nat}
    {shape : Shape} {rest : List Char} {read : List (String × Json)} {behind : List Char}
    {key : String} {value : Json} {more : List (String × Json)}, shape.AsksValues →
    members = (key, value) :: more →
      scanMembers fuel depth shape key (chars value ++ (moreMembers more ++ rest)) =
          .ok (read, behind) →
        canonicalMembers members = members →
          behind = rest ∧ read.map Prod.fst = members.map Prod.fst ∧
            (canonicalMembers read = members → membersLegible depth members = true)
  | [], _, _, _, _, _, _, _, _, _, _, equal, _, _ => by cases equal
  | (key, value) :: more, fuel, depth, shape, rest, read, behind, _, _, _, asks, rfl, scanned,
      ordered => by
      rw [canonicalMembers, List.cons.injEq, Prod.mk.injEq] at ordered
      rcases scanMembers_eq_ok (asks key) scanned with ⟨less, ⟨found, after⟩, _, rfl, first, _⟩
      rcases legible_of_scanValue value first ordered.1.2 (delimited_moreMembers more rest) with
        ⟨rfl, legible⟩
      cases more with
      | nil =>
          rw [scanMembers_last (asks key) first] at scanned
          cases scanned
          refine ⟨rfl, rfl, fun same => ?_⟩
          rw [canonicalMembers, List.cons.injEq, Prod.mk.injEq] at same
          rw [membersLegible, legible same.1.2]
          rfl
      | cons member others =>
          rcases member with ⟨next, nextValue⟩
          rw [moreMembers_cons, List.cons_append, membersChars_append] at first scanned
          rw [scanMembers_further (asks key) first] at scanned
          rcases Fallible.map_eq_ok.mp scanned with ⟨later, taken, same⟩
          cases same
          rcases legible_of_scanMembers ((next, nextValue) :: others) asks rfl taken ordered.2 with
            ⟨here, keys, following⟩
          refine ⟨here, by simpa using keys, fun same => ?_⟩
          rw [canonicalMembers, List.cons.injEq, Prod.mk.injEq] at same
          rw [membersLegible, legible same.1.2, following same.2]
          rfl

end

/-! ## Objects of which all members are taken -/

/-- An object of which all members are taken is read back, whatever stands behind
it, unless its first key marks a text. -/
theorem scanValue_members {members : List (String × Json)} (asks : shape.AsksValues)
    (plain : ∀ first ∈ members.head?, shape = .value → isReserved first.1 = false)
    (legible : membersLegible depth members = true)
    (enough : 3 * (chars (.object members)).length ≤ fuel + 3) (rest : List Char) :
    scanValue (fuel + 1) (depth + 1) shape (chars (.object members) ++ rest) =
      .ok (.object members, rest) := by
  cases members with
  | nil => exact scanValue_emptyObject rest
  | cons member more =>
      rcases member with ⟨key, value⟩
      have length := length_membersChars key value more
      rw [chars_object, List.length_cons] at enough
      obtain ⟨less, rfl⟩ : ∃ less, fuel = less + 2 := ⟨fuel - 2, by omega⟩
      have scanned := scanMembers_chars ((key, value) :: more) less depth shape rest
        asks legible (by omega) key value more rfl
      rw [scanValue_object, scanObject_of_plainKey (plain _ rfl), scanned]
      rfl

/-- Of a map the first key may be any. -/
theorem scanValue_map {members : List (String × Json)}
    (legible : membersLegible depth members = true)
    (enough : 3 * (chars (.object members)).length ≤ fuel + 3) (rest : List Char) :
    scanValue (fuel + 1) (depth + 1) (.map .value) (chars (.object members) ++ rest) =
      .ok (.object members, rest) :=
  scanValue_members asksValues_map (fun _ _ => plainKey_of_map) legible enough rest

theorem legible_of_scanMap {members : List (String × Json)} {read : Json} {rest behind : List Char}
    (ordered : canonical (.object members) = .object members)
    (scanned : scanValue fuel (depth + 1) (.map .value) (chars (.object members) ++ rest) =
      .ok (read, behind)) :
    behind = rest ∧ (canonical read = .object members → membersLegible depth members = true) := by
  cases fuel with
  | zero => simp [scanValue] at scanned
  | succ fuel =>
      cases members with
      | nil =>
          rw [scanValue_emptyObject] at scanned
          cases scanned
          exact ⟨rfl, fun _ => rfl⟩
      | cons member more =>
          rcases member with ⟨key, value⟩
          rw [canonical_object_eq_self_iff] at ordered
          rw [scanValue_object] at scanned
          cases fuel with
          | zero => simp [scanObject] at scanned
          | succ fuel =>
              rw [scanObject_of_plainKey plainKey_of_map] at scanned
              rcases Fallible.map_eq_ok.mp scanned with ⟨found, taken, same⟩
              cases same
              rcases legible_of_scanMembers ((key, value) :: more) asksValues_map rfl taken
                ordered.2 with ⟨here, keys, legible⟩
              refine ⟨here, fun same => ?_⟩
              exact legible (canonicalMembers_eq ordered.1 keys same)

end Json
end RowGate
