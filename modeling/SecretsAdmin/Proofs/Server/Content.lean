import SecretsAdmin.Proofs.Base64.Standard
import SecretsAdmin.Proofs.Server.Change

namespace SecretsAdmin.Server.Store

/-!
# Contents of secrets

A secret is created only with the base64 text of at least one byte. What the bytes are makes no
difference to the store, which keeps no content.
-/

/-- A content is a text that stands for some bytes, and they are told by it. -/
theorem isContent_iff {text : String} :
    isContent text = true ↔ ∃ octets, octets ≠ [] ∧ Base64.StandsFor text.toList octets := by
  simp only [isContent, Option.any_eq_true, Bool.not_eq_eq_eq_not, Bool.not_true,
    List.isEmpty_eq_false_iff, Base64.decode?_eq_some_iff, Base64.standsFor_iff]
  exact exists_congr fun _ => and_comm

theorem isContent_encode
    {content : Octets}
    (notEmpty : content ≠ []) :
    isContent (Base64.encode content) = true :=
  isContent_iff.mpr ⟨content, notEmpty, Base64.standsFor_encode content⟩

/-- What comes of the wish for a secret: it is looked at before the store is. -/
theorem execute_createSecret
    (store : Store)
    (user : String)
    (input : SecretInput) :
    store.execute user (.createSecret input) =
      if input.name = "" ∨ isContent input.content = false then
        (.denied .unprocessable, store)
      else if store.hasSecretNamed input.name = true ∧ input.withVersion = false then
        (.denied .conflict, store)
      else
        let secret := store.newSecret user input
        let after := store.withSecret secret
        (.created (SecretDetail.codec.write (after.detailOfSecret secret)), after) := by
  show store.answerCreated SecretDetail.codec (store.createSecret user input) = _
  by_cases bad : input.name = "" ∨ isContent input.content = false
  · rw [if_pos bad, createSecret, if_pos (by simpa using bad)]
    rfl
  · rw [if_neg bad]
    obtain ⟨named, hasContent⟩ := not_or.mp bad
    have content : isContent input.content = true := by simpa using hasContent
    by_cases taken : store.hasSecretNamed input.name = true ∧ input.withVersion = false
    · rw [if_pos taken, createSecret_of_used named content taken.1 taken.2]
      rfl
    · rw [if_neg taken]
      have free : store.hasSecretNamed input.name = true → input.withVersion = true := by
        simpa using taken
      rw [createSecret_eq_ok_iff.mpr ⟨named, content, free, rfl, rfl⟩]
      rfl

theorem status_ite
    {first second : Prop}
    [Decidable first]
    [Decidable second]
    (one two three : Answer × Store) :
    (if first then one else if second then two else three).1.response.status =
      if first then one.1.response.status
      else if second then two.1.response.status else three.1.response.status := by
  rw [apply_ite fun outcome : Answer × Store => outcome.1.response.status,
    apply_ite fun outcome : Answer × Store => outcome.1.response.status]

/-- The status with which the wish for a secret is answered. -/
def statusOfWish
    (store : Store)
    (user : String)
    (input : SecretInput) :
    Nat :=
  (store.execute user (.createSecret input)).1.response.status

/-- How the wish for a secret with a name is judged by its content. -/
structure JudgesContent
    (store : Store)
    (user : String)
    (input : SecretInput) :
    Prop where
  accepted_iff :
    store.statusOfWish user input = 201 ∨ store.statusOfWish user input = 409 ↔
      ∃ octets, octets ≠ [] ∧ Base64.StandsFor input.content.toList octets
  otherwise :
    store.statusOfWish user input = 201 ∨ store.statusOfWish user input = 409 ∨
      store.statusOfWish user input = 422
  unique :
    ∀ octets other,
      Base64.StandsFor input.content.toList octets →
        Base64.StandsFor input.content.toList other → octets = other
  defective :
    Base64.IsDefective input.content.toList → store.statusOfWish user input = 422

theorem statusOfWish_eq
    (store : Store)
    (user : String)
    (input : SecretInput) :
    store.statusOfWish user input =
      if input.name = "" ∨ isContent input.content = false then 422
      else if store.hasSecretNamed input.name = true ∧ input.withVersion = false then 409
      else 201 := by
  unfold statusOfWish
  rw [execute_createSecret, status_ite]
  rfl

theorem judgesContent
    (store : Store)
    (user : String)
    {input : SecretInput}
    (named : input.name ≠ "") :
    store.JudgesContent user input := by
  have status := store.statusOfWish_eq user input
  simp only [named, false_or] at status
  refine ⟨?accepted, ?otherwise, fun octets other => Base64.StandsFor.octets_eq, ?defective⟩
  case accepted =>
    rw [← isContent_iff, status]
    split
    next noContent => simp [noContent]
    next hasContent =>
      rw [Bool.not_eq_false] at hasContent
      split <;> simp [hasContent]
  case otherwise =>
    rw [status]
    split
    next => simp
    next => split <;> simp
  case defective =>
    intro defective
    have noContent : isContent input.content = false := by
      rw [← Bool.not_eq_true, isContent_iff]
      rintro ⟨octets, notEmpty, stands⟩
      exact defective.not_standsFor notEmpty stands
    rw [status, if_pos noContent]

end SecretsAdmin.Server.Store
