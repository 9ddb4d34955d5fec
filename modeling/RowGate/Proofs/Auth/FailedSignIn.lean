import RowGate.Proofs.Auth.Admission
import RowGate.Proofs.Auth.Contents

namespace RowGate

/-!
# Failed sign-ins

A sign-in that fails before the session is kept does not touch the local store.
Keeping the session puts the session first and the user second, and nothing is
taken back.  So there is one failure that leaves a trace: the second call fails
behind a first one that has succeeded.  Then the session of the caller who was
not signed in has replaced the one that was there, while the user is still that
of the earlier session.
-/

namespace Auth

variable {σ τ : Type} [Store σ] [KeyStore τ]

/-- A failed sign-in leaves the user alone, and it leaves the session alone
exactly if keeping the session of an admitted caller does not stop halfway, or
the session that it puts there is the one that was there. -/
theorem failed_sign_in_keeps_iff (contents : Contents τ) (service : Service σ) (keys : Option τ)
    (options : SessionOptions) (verify : String → String → Bool) (now : Time.Instant)
    (credentials : Credentials)
    (failed : (signIn service keys options verify now credentials).1.succeeded = false) :
    let after := (signIn service keys options verify now credentials).2.2
    contents.at? after userKey = contents.at? keys userKey ∧
      (contents.at? after sessionKey = contents.at? keys sessionKey ↔
        ∀ store session, keys = some store →
          admission service options verify now credentials = .ok session →
            StopsHalfway store session →
              contents.text? store sessionKey = some session.toJson.render) := by
  dsimp only
  cases admitted : admission service options verify now credentials with
  | error failure =>
      rw [(signIn_of_refused admitted keys).2]
      refine ⟨rfl, fun _ store session _ wrong => ?_, fun _ => rfl⟩
      cases wrong
  | ok session =>
      rcases signIn_of_admitted admitted keys with ⟨answer, left⟩
      rw [answer] at failed
      rw [left]
      cases keys with
      | none => cases failed
      | some store =>
          rcases contents.persist_cases store session with
            ⟨kept, found, ⟨whole, texts, _⟩ | ⟨halfway, texts, _⟩ | ⟨_, _, done⟩⟩
          · simp only [found, Contents.at?, Option.bind_some, texts, true_and, true_iff]
            rintro _ _ ⟨⟩ ⟨⟩ halfway
            exact absurd halfway whole
          · have apart : userKey ≠ sessionKey := by decide
            simp only [found, Contents.at?, Option.bind_some, texts, Function.update_self,
              Function.update_of_ne apart, true_and]
            constructor
            · rintro same _ _ ⟨⟩ ⟨⟩ _
              exact same.symm
            · intro same
              exact (same store session rfl rfl halfway).symm
          · rw [deliver_of_kept done] at failed
            cases failed

/-- A directory in the place of the user's file makes the second call fail, and
the session that was there is gone. -/
theorem halfway_session_replaced :
    let keys : FileKeys :=
      ⟨.ofFiles [("state/session.json", "before"), ("state/user.json/note", "x")], "state"⟩
    let outcome := signIn (Service.ofProfiles [.ofList [("email", .string "ana")]]) (some keys)
      ⟨"profiles", none, 86400000⟩ (fun _ _ => false) (.ofMillis 0) ⟨some "ana", none, none⟩
    outcome.1 = .failed (.session FileError.isDirectory.message) ∧
      keys.read sessionKey = .ok (some "before") ∧
      outcome.2.2.map (fun kept => kept.read sessionKey) ≠ some (.ok (some "before")) := by
  decide +kernel

/-- If the first call fails already, session and user stay. -/
theorem first_call_fails_nothing_replaced :
    let keys : FlakyKeys := ⟨.ofList [(sessionKey, "before"), (userKey, "ana")], [true]⟩
    let outcome := signIn (Service.ofProfiles [.ofList [("email", .string "ana")]]) (some keys)
      ⟨"profiles", none, 86400000⟩ (fun _ _ => false) (.ofMillis 0) ⟨some "ana", none, none⟩
    outcome.1.succeeded = false ∧
      FlakyKeys.contents.at? outcome.2.2 userKey = some "ana" ∧
      FlakyKeys.contents.at? outcome.2.2 sessionKey = some "before" := by
  intro keys outcome
  have failed : outcome.1.succeeded = false := by decide +kernel
  rcases failed_sign_in_keeps_iff FlakyKeys.contents _ _ _ _ _ _ failed with ⟨user, session⟩
  refine ⟨failed, user.trans (by decide +kernel), (session.mpr ?_).trans (by decide +kernel)⟩
  rintro _ _ ⟨⟩ _ ⟨done, _⟩
  cases done

end Auth
end RowGate
