import Mathlib.Logic.Function.Basic
import RowGate.Auth.Session

namespace RowGate
namespace Auth

/-!
# What a local store holds

A local store is known by its calls only, and each of them may fail.  What is
relied on is that there is a text under each key, that a call which succeeds
does to the texts what it says, and that a look-up, or a call which fails,
leaves them alone.

Session and user are two entries, and keeping them takes two calls.  If the
second one fails, the first entry has been replaced already.
-/

variable {τ : Type}

/-- The texts under the keys of a local store. -/
structure Contents (τ : Type) [KeyStore τ] where
  text? : τ → String → Option String
  get_done : ∀ {keys key found}, (KeyStore.get keys key).1 = .ok found → found = text? keys key
  get_keeps : ∀ keys key, text? (KeyStore.get keys key).2 = text? keys
  set_done : ∀ {keys key value}, (KeyStore.set keys key value).1 = .ok () →
    text? (KeyStore.set keys key value).2 = Function.update (text? keys) key (some value)
  set_failed : ∀ {keys key value message}, (KeyStore.set keys key value).1 = .error message →
    text? (KeyStore.set keys key value).2 = text? keys
  remove_done : ∀ {keys key}, (KeyStore.remove keys key).1 = .ok () →
    text? (KeyStore.remove keys key).2 = Function.update (text? keys) key none
  remove_failed : ∀ {keys key message}, (KeyStore.remove keys key).1 = .error message →
    text? (KeyStore.remove keys key).2 = text? keys

/-- The second of the two calls that keep a session fails. -/
def StopsHalfway [KeyStore τ] (keys : τ) (session : Session) : Prop :=
  let first := KeyStore.set keys sessionKey session.toJson.render
  first.1 = .ok () ∧
    ∃ message, (KeyStore.set first.2 userKey session.user.toJson.render).1 = .error message

namespace Contents

variable [KeyStore τ] (contents : Contents τ)

/-- The texts under the keys, none where there is no local store. -/
def at? (keys : Option τ) (key : String) : Option String :=
  keys.bind fun keys => contents.text? keys key

/-- The texts with a session and its user among them. -/
def withSession (texts : String → Option String) (session : Session) : String → Option String :=
  Function.update (Function.update texts sessionKey (some session.toJson.render)) userKey
    (some session.user.toJson.render)

/-- Keeping a session changes nothing, or the session only, or succeeds. -/
theorem persist_cases (keys : τ) (session : Session) :
    ∃ kept, (persist (some keys) session).2 = some kept ∧
      ((¬ StopsHalfway keys session ∧ contents.text? kept = contents.text? keys ∧
          ∃ message, (persist (some keys) session).1 = .error (.session message)) ∨
        (StopsHalfway keys session ∧
          contents.text? kept =
            Function.update (contents.text? keys) sessionKey (some session.toJson.render) ∧
          ∃ message, (persist (some keys) session).1 = .error (.session message)) ∨
        ¬ StopsHalfway keys session ∧
          contents.text? kept = withSession (contents.text? keys) session ∧
          (persist (some keys) session).1 = .ok ()) := by
  unfold StopsHalfway persist
  dsimp only
  cases first : (KeyStore.set keys sessionKey session.toJson.render).1 with
  | error message =>
      refine ⟨_, rfl, .inl ⟨?_, contents.set_failed first, message, rfl⟩⟩
      rintro ⟨wrong, _⟩
      cases wrong
  | ok done =>
      have replaced := contents.set_done first
      dsimp only
      cases second : (KeyStore.set (KeyStore.set keys sessionKey session.toJson.render).2 userKey
          session.user.toJson.render).1 with
      | error message =>
          refine ⟨_, rfl, .inr (.inl ⟨⟨rfl, message, rfl⟩, ?_, message, rfl⟩)⟩
          rw [contents.set_failed second, replaced]
      | ok done =>
          refine ⟨_, rfl, .inr (.inr ⟨?_, ?_, rfl⟩)⟩
          · rintro ⟨_, message, wrong⟩
            cases wrong
          · rw [contents.set_done second, replaced]
            rfl

/-- Whatever fails, an entry stays, or it is the text of the session or of its
user. -/
theorem at?_persist (keys : Option τ) (session : Session) (key : String) :
    contents.at? (persist keys session).2 key = contents.at? keys key ∨
      key = sessionKey ∧
          contents.at? (persist keys session).2 key = some session.toJson.render ∨
        key = userKey ∧
          contents.at? (persist keys session).2 key = some session.user.toJson.render := by
  have apart : sessionKey ≠ userKey := by decide
  cases keys with
  | none => exact .inl rfl
  | some store =>
      rcases contents.persist_cases store session with
        ⟨kept, found, ⟨_, texts, _⟩ | ⟨_, texts, _⟩ | ⟨_, texts, _⟩⟩
      · rw [found]
        exact .inl (congrFun texts key)
      · rw [found]
        by_cases here : key = sessionKey
        · subst here
          exact .inr (.inl ⟨rfl, by simp [at?, texts]⟩)
        · exact .inl (by simp [at?, texts, here])
      · rw [found]
        by_cases here : key = userKey
        · subst here
          exact .inr (.inr ⟨rfl, by simp [at?, texts, withSession]⟩)
        · by_cases there : key = sessionKey
          · subst there
            exact .inr (.inl ⟨rfl, by simp [at?, texts, withSession, apart]⟩)
          · exact .inl (by simp [at?, texts, withSession, here, there])

end Contents

/-- No call of the local store fails. -/
structure NeverFails (τ : Type) [KeyStore τ] : Prop where
  get : ∀ (keys : τ) key, ∃ found, (KeyStore.get keys key).1 = .ok found
  set : ∀ (keys : τ) key value, (KeyStore.set keys key value).1 = .ok ()
  remove : ∀ (keys : τ) key, (KeyStore.remove keys key).1 = .ok ()

namespace NeverFails

variable [KeyStore τ] (reliable : NeverFails τ) (contents : Contents τ)

include reliable

theorem persist (keys : τ) (session : Session) :
    ∃ kept, Auth.persist (some keys) session = (.ok (), some kept) ∧
      contents.text? kept = Contents.withSession (contents.text? keys) session := by
  have first := reliable.set keys sessionKey session.toJson.render
  have second := reliable.set (KeyStore.set keys sessionKey session.toJson.render).2 userKey
    session.user.toJson.render
  simp only [Auth.persist, first, second]
  refine ⟨_, rfl, ?_⟩
  rw [contents.set_done second, contents.set_done first]
  rfl

theorem forget (keys : τ) :
    ∃ kept, Auth.forget (some keys) = (.ok (), some kept) ∧
      contents.text? kept =
        Function.update (Function.update (contents.text? keys) sessionKey none) userKey none := by
  have first := reliable.remove keys sessionKey
  have second := reliable.remove (KeyStore.remove keys sessionKey).2 userKey
  simp only [Auth.forget, first, second]
  refine ⟨_, rfl, ?_⟩
  rw [contents.remove_done second, contents.remove_done first]

theorem stored (keys : τ) (key : String) :
    ∃ kept, Auth.stored (some keys) key = (contents.text? keys key, some kept) ∧
      contents.text? kept = contents.text? keys := by
  rcases reliable.get keys key with ⟨found, done⟩
  refine ⟨_, ?_, contents.get_keeps keys key⟩
  simp only [Auth.stored, done, contents.get_done done]

end NeverFails

/-! ## Stores in memory -/

/-- The texts of a local store in memory. -/
def MemoryKeys.contents : Contents MemoryKeys where
  text? keys := keys.values.get?
  get_done done := (Except.ok.inj done).symm
  get_keeps _ _ := rfl
  set_done {keys key value} _ := by
    funext other
    rw [Function.update_apply]
    exact keys.values.get?_insert key other value
  set_failed failed := by cases failed
  remove_done {keys key} _ := by
    funext other
    rw [Function.update_apply]
    exact keys.values.get?_erase key other
  remove_failed failed := by cases failed

theorem MemoryKeys.neverFails : NeverFails MemoryKeys where
  get keys key := ⟨keys.values.get? key, rfl⟩
  set _ _ _ := rfl
  remove _ _ := rfl

/-- A local store in memory whose calls fail by a plan. -/
structure FlakyKeys where
  values : Keyed String
  plan : List Bool

namespace FlakyKeys

/-- A call, which fails if the plan says so. -/
def attempt {α : Type} (keys : FlakyKeys) (answer : α) (values : Keyed String) :
    Except String α × FlakyKeys :=
  if keys.plan.headD false then (.error "unavailable", ⟨keys.values, keys.plan.tail⟩)
  else (.ok answer, ⟨values, keys.plan.tail⟩)

instance : KeyStore FlakyKeys where
  get keys key := keys.attempt (keys.values.get? key) keys.values
  set keys key value := keys.attempt () (keys.values.insert key value)
  remove keys key := keys.attempt () (keys.values.erase key)

variable {α : Type} {keys : FlakyKeys} {answer : α} {values : Keyed String}

theorem attempt_done {found : α} (done : (keys.attempt answer values).1 = .ok found) :
    found = answer ∧ (keys.attempt answer values).2.values = values := by
  unfold attempt at done ⊢
  split at done
  · cases done
  · next planned =>
    cases done
    rw [if_neg planned]
    exact ⟨rfl, rfl⟩

theorem attempt_failed {message : String}
    (failed : (keys.attempt answer values).1 = .error message) :
    (keys.attempt answer values).2.values = keys.values := by
  unfold attempt at failed ⊢
  split at failed
  · next planned => rw [if_pos planned]
  · cases failed

/-- Whatever the plan is, the texts are changed by the calls that succeed
only. -/
def contents : Contents FlakyKeys where
  text? keys := keys.values.get?
  get_done done := (attempt_done done).1
  get_keeps keys key := by
    change (keys.attempt (keys.values.get? key) keys.values).2.values.get? = keys.values.get?
    unfold attempt
    split <;> rfl
  set_done {keys key value} done := by
    funext other
    rw [Function.update_apply, ← keys.values.get?_insert key other value]
    exact congrArg (fun values => values.get? other) (attempt_done done).2
  set_failed failed := congrArg Keyed.get? (attempt_failed failed)
  remove_done {keys key} done := by
    funext other
    rw [Function.update_apply, ← keys.values.get?_erase key other]
    exact congrArg (fun values => values.get? other) (attempt_done done).2
  remove_failed failed := congrArg Keyed.get? (attempt_failed failed)

end FlakyKeys
end Auth
end RowGate
