import RowGate.Auth.Session
import RowGate.Proofs.Json.Legible
import RowGate.Proofs.Schema.Forms

namespace RowGate

/-!
# Sessions and their texts

A local store keeps texts.  A user comes back from its text exactly if its cells
are legible, and so does a session; but inside a session the record of the user
stands one container further in.  So there are users that come back although no
session of theirs does.  Whatever the cells are, a session that comes back has
the token and the end that were written.
-/

namespace Row

/-- Whether the cells of a row are what their texts say, where `depth`
containers may be opened in each. -/
def isLegible (row : Row) (depth : Nat) : Bool :=
  Json.membersLegible depth row.entries

theorem toJson_canonical {row : Row} (ordered : row.canonical = row) :
    row.toJson.canonical = row.toJson := by
  rw [row.canonical_toJson, ordered]

end Row

namespace Json

/-- A record comes back from a written value if the reader takes the whole text
and the record can be made of what it takes. -/
theorem decode_render_eq_some {α : Type} {shape : Shape} {make : Json → Option α} {value : Json}
    {result : α} :
    (decode shape make value.render).toOption = some result ↔
      ∃ read behind, scanValue (3 * (chars value).length + 3) depthLimit shape (chars value ++ []) =
        .ok (read, behind) ∧ skipBlanks behind = [] ∧ make read = some result := by
  rw [decode, readShape, scanDocument, render, String.toList_ofList, List.append_nil]
  cases scanned : scanValue (3 * (chars value).length + 3) depthLimit shape (chars value) with
  | error stop => simp [Except.bind, Except.toOption]
  | ok found =>
      rcases found with ⟨read, behind⟩
      cases left : skipBlanks behind with
      | cons c rest => simp [Except.bind, Except.toOption, ended, left]
      | nil =>
          cases made : make read with
          | none => simp [Except.bind, Except.toOption, ended, left, made]
          | some result => simp [Except.bind, Except.toOption, ended, left, made]

theorem intBetween_ofInt (low high i : Int) :
    Decode.intBetween low high (ofInt i) = if low ≤ i ∧ i ≤ high then some i else none := by
  have unsigned : ¬ ((Number.ofInt i).negative = true ∧ i = 0) := by
    rintro ⟨negative, rfl⟩
    cases negative
  simp [Decode.intBetween, ofInt, Number.plainInt?_ofInt, unsigned]

end Json

namespace Auth
namespace Session

open Json

/-! ## Users -/

theorem userOfJson?_eq_some_iff {read : Json} {user : Row} :
    userOfJson? read = some user ↔ read.canonical = user.toJson := by
  cases read with
  | object members =>
      have inOrder := Keyed.ofList_entries (Keyed.ofList (canonicalMembers members))
      simp only [userOfJson?, canonical, Row.ofJson?, Row.toJson, Option.some.injEq,
        Json.object.injEq]
      constructor
      · rintro rfl
        exact congrArg Keyed.entries inOrder.symm
      · intro same
        rw [← Keyed.ofList_entries user, ← same]
  | null => simp [userOfJson?, canonical, Row.ofJson?, Row.toJson]
  | bool truth => simp [userOfJson?, canonical, Row.ofJson?, Row.toJson]
  | number n => simp [userOfJson?, canonical, Row.ofJson?, Row.toJson]
  | string s => simp [userOfJson?, canonical, Row.ofJson?, Row.toJson]
  | array items => simp [userOfJson?, canonical, Row.ofJson?, Row.toJson]

/-- A user comes back from its text exactly if its cells are legible. -/
theorem user_restored_iff {user : Row} (ordered : user.canonical = user) :
    (decode (.map .value) userOfJson? user.toJson.render).toOption = some user ↔
      user.isLegible 126 = true := by
  have form := Row.toJson_canonical ordered
  rw [decode_render_eq_some]
  constructor
  · rintro ⟨read, behind, scanned, _, made⟩
    exact (legible_of_scanMap form scanned).2 (userOfJson?_eq_some_iff.mp made)
  · intro legible
    exact ⟨user.toJson, [], scanValue_map legible (by rw [Row.toJson]; omega) [], rfl,
      userOfJson?_eq_some_iff.mpr form⟩

/-! ## Sessions -/

/-- The members of a session behind the user. -/
def tail (session : Session) : List (String × Json) :=
  [("access_token", .string session.token), ("expires_at", Json.ofInt session.expiresAt)]

theorem toJson_eq (session : Session) :
    session.toJson = .object (("user", session.user.toJson) :: session.tail) :=
  rfl

theorem scanValue_session {fuel depth : Nat} (session : Session) (rest : List Char) :
    scanValue (fuel + 2) (depth + 1) shape (chars session.toJson ++ rest) =
      (scanMembers fuel depth shape "user"
        (chars session.user.toJson ++ (moreMembers session.tail ++ rest))).map
          fun scanned => (.object scanned.1, scanned.2) := by
  rw [toJson_eq, scanValue_object, scanObject_of_plainKey]
  nofun

/-- Behind the user, token and end are read as they were written. -/
theorem scanMembers_session {fuel depth : Nat} (session : Session) {read : Json}
    {rest : List Char}
    (scanned : scanValue (fuel + 3) depth (.map .value)
      (chars session.user.toJson ++ (moreMembers session.tail ++ rest)) =
        .ok (read, moreMembers session.tail ++ rest)) :
    scanMembers (fuel + 4) depth shape "user"
        (chars session.user.toJson ++ (moreMembers session.tail ++ rest)) =
      .ok (("user", read) :: session.tail, rest) := by
  have token : scanValue (fuel + 2) depth .plain
      (chars (.string session.token) ++
        (moreMembers [("expires_at", Json.ofInt session.expiresAt)] ++ rest)) =
      .ok (.string session.token,
        moreMembers [("expires_at", Json.ofInt session.expiresAt)] ++ rest) :=
    scanValue_string _ _
  have ending : scanValue (fuel + 1) depth .plain
      (chars (Json.ofInt session.expiresAt) ++ (moreMembers [] ++ rest)) =
      .ok (Json.ofInt session.expiresAt, moreMembers [] ++ rest) :=
    scanValue_number _ (delimited_moreMembers [] rest)
  rw [tail, moreMembers_cons, List.cons_append, membersChars_append] at scanned ⊢
  rw [moreMembers_cons, List.cons_append, membersChars_append] at token
  rw [scanMembers_further rfl scanned, moreMembers_cons, List.cons_append, membersChars_append,
    scanMembers_further rfl token, scanMembers_last rfl ending]
  rfl

/-- The session of a user that has been read, if its end is a number of 64
bits. -/
theorem ofJson?_eq_some_iff {session found : Session} {read : Json} :
    ofJson? (.object (("user", read) :: session.tail)) = some found ↔
      read.canonical = found.user.toJson ∧ found.token = session.token ∧
        found.expiresAt = session.expiresAt ∧
        Bounded.minInt64 ≤ session.expiresAt ∧ session.expiresAt ≤ Bounded.maxInt64 := by
  have fields : Decode.fields? shape (.object (("user", read) :: session.tail)) =
      some (("user", read) :: session.tail) := rfl
  have user : Entries.find? "user" (("user", read) :: session.tail) = some read := rfl
  have token : Entries.find? "access_token" (("user", read) :: session.tail) =
      some (.string session.token) := rfl
  have ending : Entries.find? "expires_at" (("user", read) :: session.tail) =
      some (Json.ofInt session.expiresAt) := rfl
  simp only [ofJson?, fields, Decode.required, user, token, ending, Option.bind_eq_bind,
    Option.bind_some, Json.asString?, intBetween_ofInt, Option.bind_eq_some_iff]
  constructor
  · rintro ⟨row, made, i, inRange, same⟩
    rw [Option.ite_none_right_eq_some, Option.some.injEq] at inRange
    rcases inRange with ⟨fits, rfl⟩
    cases same
    exact ⟨userOfJson?_eq_some_iff.mp made, rfl, rfl, fits⟩
  · rintro ⟨form, sameToken, sameEnd, fits⟩
    refine ⟨found.user, userOfJson?_eq_some_iff.mpr form, session.expiresAt, if_pos fits, ?_⟩
    rw [← sameToken, ← sameEnd]

theorem length_user (session : Session) :
    (chars session.user.toJson).length < (chars session.toJson).length := by
  have length := length_membersChars "user" session.user.toJson session.tail
  rw [toJson_eq, chars_object, List.length_cons]
  omega

/-- What comes back from the text of a session has its token and its end, and is
the session only if the cells of the user are legible. -/
theorem read?_eq_some {session found : Session} (ordered : session.user.canonical = session.user)
    (restored : read? session.toJson.render = some found) :
    found.token = session.token ∧ found.expiresAt = session.expiresAt ∧
      Bounded.minInt64 ≤ session.expiresAt ∧ session.expiresAt ≤ Bounded.maxInt64 ∧
        (found.user = session.user → session.user.isLegible 125 = true) := by
  have form := Row.toJson_canonical ordered
  have filled := length_user session
  rcases decode_render_eq_some.mp restored with ⟨read, behind, scanned, _, made⟩
  have whole : scanValue (3 * (chars session.toJson).length + 1 + 2) (126 + 1) shape
      (chars session.toJson ++ []) = .ok (read, behind) := scanned
  rw [scanValue_session] at whole
  rcases Fallible.map_eq_ok.mp whole with ⟨members, taken, same⟩
  cases same
  rcases scanMembers_eq_ok rfl taken with ⟨less, ⟨user, after⟩, _, fuel, first, _⟩
  rcases legible_of_scanMap form first with ⟨rfl, legible⟩
  obtain ⟨few, rfl⟩ : ∃ few, less = few + 3 := ⟨less - 3, by omega⟩
  rw [fuel, scanMembers_session session first] at taken
  cases taken
  rcases ofJson?_eq_some_iff.mp made with ⟨same, token, ending, low, high⟩
  refine ⟨token, ending, low, high, fun equal => ?_⟩
  rw [equal] at same
  exact legible same

/-- A session comes back from its text exactly if the cells of the user are
legible and the end is a number of 64 bits. -/
theorem session_restored_iff {session : Session}
    (ordered : session.user.canonical = session.user) :
    read? session.toJson.render = some session ↔
      session.user.isLegible 125 = true ∧
        Bounded.minInt64 ≤ session.expiresAt ∧ session.expiresAt ≤ Bounded.maxInt64 := by
  have form := Row.toJson_canonical ordered
  constructor
  · intro restored
    rcases read?_eq_some ordered restored with ⟨_, _, low, high, legible⟩
    exact ⟨legible rfl, low, high⟩
  · rintro ⟨legible, fits⟩
    have shorter := length_user session
    obtain ⟨fuel, enough⟩ : ∃ fuel, 3 * (chars session.toJson).length + 3 = fuel + 6 :=
      ⟨3 * (chars session.toJson).length - 3, by omega⟩
    have user : scanValue (fuel + 3) 126 (.map .value)
        (chars session.user.toJson ++ (moreMembers session.tail ++ [])) =
      .ok (session.user.toJson, moreMembers session.tail ++ []) :=
      scanValue_map legible (by rw [← Row.toJson]; omega) _
    have whole : scanValue (fuel + 4 + 2) (126 + 1) shape (chars session.toJson ++ []) =
        .ok (.object (("user", session.user.toJson) :: session.tail), []) := by
      rw [scanValue_session, scanMembers_session session user]
      rfl
    apply decode_render_eq_some.mpr
    refine ⟨_, [], ?_, rfl, ofJson?_eq_some_iff.mpr ⟨form, rfl, rfl, fits⟩⟩
    rw [enough]
    exact whole

end Session
end Auth
end RowGate
