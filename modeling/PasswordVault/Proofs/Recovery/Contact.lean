import PasswordVault.Proofs.Attempt
import PasswordVault.Proofs.Json.Field
import PasswordVault.Proofs.Text.Lower
import PasswordVault.Recovery.Contact
import Mathlib.Tactic.SplitIfs

/-!
# Contacts and their keys

The normal form of an address is its own normal form, so an address leads to one key in whatever way
it is written. A contact has a key for every recovery id, unless a surrogate stands alone in the id
or in the address: then there is nothing to derive the key from.

* `contactKey_of_answers`: ways to write an address that lead to one key;
* `contactKey_eq_ok_iff`, `contactKey_eq_error_iff`: **when there is a key**, and which one.
-/

namespace PasswordVault

/-! ### Addresses -/

theorem Text.isWhole_trimmed (text : Text) : text.trimmed.isWhole = text.isWhole := by
  cases text <;> rfl

theorem isWhole_normalizeEmail (email : Text) : (normalizeEmail email).isWhole = email.isWhole := by
  rw [normalizeEmail, Text.isWhole_mapRuns, Text.isWhole_trimmed]

theorem normalizeEmail_idem (email : Text) :
    normalizeEmail (normalizeEmail email) = normalizeEmail email :=
  Text.trimmed_lower_idem email

/-- The address is the stored one or has it as its normal form. -/
def Answers (stored email : Text) : Prop :=
  email = stored ∨ normalizeEmail email = stored

theorem contactKey_of_answers {stored email : Text} (h : Answers stored email)
    (recoveryId : Text) : contactKey recoveryId email = contactKey recoveryId stored := by
  rcases h with rfl | rfl
  · rfl
  · rw [contactKey, contactKey, normalizeEmail_idem]

/-! ### Keys -/

theorem recoveryIdBytes_encode (bytes : Bytes) :
    recoveryIdBytes (Hex.encode bytes) = .ok bytes := by
  rw [recoveryIdBytes, Hex.decode?_encode]

theorem recoveryIdBytes_eq_error_iff {recoveryId : Text} {e : Error} :
    recoveryIdBytes recoveryId = .error e ↔ recoveryId.isWhole = false ∧ e = .unencodable := by
  rw [← Utf8.encodeText_eq_error_iff, recoveryIdBytes]
  cases recoveryId with
  | whole s => split <;> exact iff_of_false nofun nofun
  | broken before lone after => rfl

theorem contactKey_eq_ok_iff {recoveryId email : Text} {key : Bytes} :
    contactKey recoveryId email = .ok key ↔
      ∃ salt material, recoveryIdBytes recoveryId = .ok salt ∧
        Utf8.encodeText (normalizeEmail email) = .ok material ∧
        hkdf salt material (Utf8.encode "sealed-vault-contact-shard-v1") = key := by
  simp only [contactKey, Except.bind_eq_ok_iff]
  constructor
  · rintro ⟨salt, hs, material, hm, hk⟩
    exact ⟨salt, material, hs, hm, Except.ok.inj hk⟩
  · rintro ⟨salt, material, hs, hm, rfl⟩
    exact ⟨salt, hs, material, hm, rfl⟩

/-- **A contact has no key** if and only if a surrogate stands alone in the recovery id or in the
address. -/
theorem contactKey_eq_error_iff {recoveryId email : Text} {e : Error} :
    contactKey recoveryId email = .error e ↔
      (recoveryId.isWhole = false ∨ email.isWhole = false) ∧ e = .unencodable := by
  simp only [contactKey, Except.bind_eq_error_iff, recoveryIdBytes_eq_error_iff,
    Utf8.encodeText_eq_error_iff, isWhole_normalizeEmail]
  constructor
  · rintro (⟨hid, he⟩ | ⟨salt, -, ⟨hemail, he⟩ | ⟨material, -, ⟨⟩⟩⟩)
    · exact ⟨Or.inl hid, he⟩
    · exact ⟨Or.inr hemail, he⟩
  · rintro ⟨h, he⟩
    cases hid : recoveryIdBytes recoveryId with
    | error e' =>
      obtain ⟨hbroken, -⟩ := recoveryIdBytes_eq_error_iff.mp hid
      exact Or.inl ⟨hbroken, he⟩
    | ok salt =>
      refine Or.inr ⟨salt, rfl, Or.inl ⟨h.resolve_left fun hbroken => ?_, he⟩⟩
      rw [recoveryIdBytes_eq_error_iff.mpr ⟨hbroken, rfl⟩] at hid
      cases hid

theorem exists_contactKey_iff {recoveryId email : Text} :
    (∃ key, contactKey recoveryId email = .ok key) ↔
      recoveryId.isWhole = true ∧ email.isWhole = true := by
  rw [← Bool.not_eq_false, ← Bool.not_eq_false, ← not_or]
  cases h : contactKey recoveryId email with
  | ok key =>
    refine iff_of_true ⟨key, rfl⟩ fun hbroken => ?_
    rw [contactKey_eq_error_iff.mpr ⟨hbroken, rfl⟩] at h
    cases h
  | error e => exact iff_of_false nofun (not_not_intro (contactKey_eq_error_iff.mp h).1)

theorem length_of_contactKey {recoveryId email : Text} {key : Bytes}
    (h : contactKey recoveryId email = .ok key) : key.length = 32 := by
  obtain ⟨_, _, -, -, rfl⟩ := contactKey_eq_ok_iff.mp h
  exact length_hkdf _ _ _

namespace Contact

/-- The address that a contact was handed over with. -/
def typedEmail? : Given Contact → Option Text
  | .value contact => some contact.email
  | .json (.obj members) =>
    match Json.Members.find? members "email" with
    | some (_, .str text) => some text
    | _ => none
  | .json _ => none

theorem typed_of_read {given : Given Contact} {contact : Contact}
    (h : given.read ofJson = .accepted contact) :
    ∃ email, typedEmail? given = some email ∧ Answers contact.email email := by
  cases given with
  | value c => exact ⟨c.email, rfl, Or.inl (by cases h; rfl)⟩
  | json v =>
    obtain ⟨members, rfl, hm⟩ := Json.asRecord_eq_accepted.mp h
    obtain ⟨_, name, hf, -, rfl⟩ := Checked.seq_eq_accepted.mp hm
    obtain ⟨email, hr, rfl⟩ := Checked.map_eq_accepted.mp hf
    obtain ⟨label, v, hv, ha⟩ := Json.Members.required_eq_accepted.mp hr
    obtain ⟨text, ht, he⟩ := Checked.andThen_eq_accepted.mp ha
    obtain rfl := Json.asText_eq_accepted.mp ht
    refine ⟨text, by simp only [typedEmail?, hv], Or.inr ?_⟩
    unfold checkEmail at he
    split_ifs at he with h0
    · cases he
    · exact Checked.accepted.inj he

end Contact

end PasswordVault
