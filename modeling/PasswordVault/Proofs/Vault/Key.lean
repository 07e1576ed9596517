import PasswordVault.Proofs.Attempt
import PasswordVault.Proofs.Hash.Length
import PasswordVault.Vault.Box
import PasswordVault.Vault.Key
import Mathlib.Tactic.SplitIfs

/-!
# The keys of a vault have the right length

What a password or a seed is stretched to is as long as the ciphers want their keys. The key under
which a vault was sealed is the one that the stored settings give for the same password.

* `length_of_passwordKey`, `length_recoveryKey`: the keys;
* `stretchPassword_eq_ok_iff`: when a password is stretched;
* `passwordKey_of_stretchPassword`: the stored settings give the key again;
* `Phrase.seed_generate`: a new phrase comes with its seed.
-/

namespace PasswordVault

theorem length_of_stretchSecret {costs : Argon2.Costs} {secret salt key : Bytes}
    (h : stretchSecret costs secret salt = .ok key) : key.length = keyLength := by
  unfold stretchSecret at h
  split_ifs at h
  unfold Argon2.derive at h
  cases hc : costs.check with
  | error e => rw [hc] at h; cases h
  | ok u =>
    rw [hc] at h
    obtain rfl := Except.ok.inj h
    exact Argon2.length_stretch costs secret salt

/-- **A password is stretched** if it has a UTF-8 form and that is stretched. -/
theorem stretchPassword_eq_ok_iff {costs : Argon2.Costs} {password : Text} {salt key : Bytes} :
    stretchPassword costs password salt = .ok key ↔
      ∃ s, password = .whole s ∧ stretchSecret costs (Utf8.encode s) salt = .ok key := by
  cases password with
  | whole s =>
    simp only [Text.whole.injEq, exists_eq_left']
    rfl
  | broken before lone after =>
    refine iff_of_false ?_ nofun
    unfold stretchPassword
    split_ifs <;> exact nofun

theorem length_of_stretchPassword {costs : Argon2.Costs} {password : Text} {salt key : Bytes}
    (h : stretchPassword costs password salt = .ok key) : key.length = keyLength := by
  obtain ⟨s, -, h⟩ := stretchPassword_eq_ok_iff.mp h
  exact length_of_stretchSecret h

/-- **The stored settings give the key again** that the vault was sealed under. -/
theorem passwordKey_of_stretchPassword {costs : Argon2.Costs} {password : Text} {salt key : Bytes}
    (h : stretchPassword costs password salt = .ok key) :
    Kdf.passwordKey ⟨Base64.encode salt, costs⟩ password = .ok key := by
  simp only [Kdf.passwordKey, Base64.decode?_encode, h]

theorem length_of_passwordKey {kdf : Kdf} {password : Text} {key : Bytes}
    (h : kdf.passwordKey password = .ok key) : key.length = keyLength := by
  unfold Kdf.passwordKey at h
  split at h
  · cases h
  · split at h
    · rename_i hs
      rw [← Except.ok.inj h]
      exact length_of_stretchPassword hs
    · cases h
    · cases h
    · cases h

theorem length_recoveryKey (seed : Bytes) : (recoveryKey seed).length = keyLength :=
  length_hkdf _ _ _

theorem checkSeed_eq_ok_iff {seed : Bytes} :
    checkSeed seed = .ok () ↔ seed.length = seedLength :=
  Except.ite_eq_ok_iff

theorem seedKey_eq_ok_iff {seed key : Bytes} :
    seedKey seed = .ok key ↔ seed.length = seedLength ∧ recoveryKey seed = key := by
  rw [seedKey, Except.bind_eq_ok_iff]
  constructor
  · rintro ⟨_, hs, hk⟩
    exact ⟨checkSeed_eq_ok_iff.mp hs, Except.ok.inj hk⟩
  · rintro ⟨hs, rfl⟩
    exact ⟨(), checkSeed_eq_ok_iff.mpr hs, rfl⟩

/-- A new phrase comes with the seed that is stretched from it. -/
theorem Phrase.seed_generate (tape : Tape) :
    (generate tape).1.2 = stretch (generate tape).1.1 := by
  obtain ⟨phrase, h⟩ : ∃ phrase, (generate tape).1 = (phrase, stretch phrase) :=
    ⟨join (ofEntropy (draw entropyLength tape).1), by unfold generate; rfl⟩
  rw [h]

end PasswordVault
