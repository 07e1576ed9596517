import PasswordVault.Proofs.Text.Base64
import PasswordVault.Proofs.Vault.Key
import PasswordVault.Proofs.Vault.Stored
import PasswordVault.Settings

/-!
# Costs within bounds

The settings for new vaults and the settings that are stored with a vault keep their costs within
the same bounds. Argon2 accepts all such costs, so a salt that is not malformed gives a key for
every password that has a UTF-8 form, and with a malformed one every password is as good as a wrong
one. Under a salt that is not malformed a password without a UTF-8 form is no wrong password but an
error of its own.

* `InBounds`: the bounds, `Kdf.inBounds_of_ofJson`, `Vault.inBounds_of_ofJson` and
  `Settings.valid_of_ofJson`: **what was read keeps them**;
* `check_of_inBounds`: Argon2 accepts them;
* `Kdf.Salted`, `Kdf.StumblesOver`: when the salt is not malformed, and when the password is then;
* `Kdf.passwordKey_eq_unencodable_iff`, `Kdf.eq_authentication_of_passwordKey`: how a password
  fails.
-/

namespace PasswordVault

/-- The costs are between the bounds that every reader of costs checks. -/
structure Argon2.Costs.InBounds (costs : Argon2.Costs) : Prop where
  memory : 8 ≤ costs.memory ∧ costs.memory ≤ 4194304
  passes : 1 ≤ costs.passes ∧ costs.passes ≤ 100
  lanes : 1 ≤ costs.lanes ∧ costs.lanes ≤ 255
  enough : 8 * costs.lanes ≤ costs.memory

/-- The settings make vaults: their costs are within bounds and their salts long enough. -/
structure Settings.Valid (settings : Settings) : Prop where
  costs : settings.costs.InBounds
  saltLength : 16 ≤ settings.saltLength ∧ settings.saltLength ≤ 64

theorem Settings.Valid.leastSaltLength_le {settings : Settings} (h : settings.Valid) :
    leastSaltLength ≤ settings.saltLength :=
  Nat.le_trans (by decide) h.saltLength.1

/-! ### What was read -/

theorem le_of_enoughMemory {name : String} {costs : Argon2.Costs}
    (h : enoughMemory name costs = .accepted ()) : 8 * costs.lanes ≤ costs.memory := by
  unfold enoughMemory at h
  split_ifs at h
  · cases h
  · omega

/-- **Stored settings that were read** have costs within bounds. -/
theorem Kdf.inBounds_of_ofJson {v : Json} {kdf : Kdf} (h : ofJson v = .accepted kdf) :
    kdf.costs.InBounds := by
  obtain ⟨members, rfl, -⟩ := Json.asRecord_eq_accepted.mp h
  obtain ⟨-, hmemory, hpasses, hlanes, henough⟩ := fields_of_ofJson h
  obtain ⟨_, _, -, hmemory⟩ := Json.Members.required_eq_accepted.mp hmemory
  obtain ⟨_, _, -, hpasses⟩ := Json.Members.required_eq_accepted.mp hpasses
  obtain ⟨_, _, -, hlanes⟩ := Json.Members.required_eq_accepted.mp hlanes
  exact ⟨Json.bounds_of_asBounded hmemory, Json.bounds_of_asBounded hpasses,
    Json.bounds_of_asBounded hlanes, le_of_enoughMemory henough⟩

/-- **A vault that was read** has costs within bounds. -/
theorem Vault.inBounds_of_ofJson {v : Json} {vault : Vault} (h : ofJson v = .accepted vault) :
    vault.kdf.costs.InBounds := by
  obtain ⟨members, rfl, -⟩ := Json.asRecord_eq_accepted.mp h
  obtain ⟨-, -, -, hkdf, -⟩ := fields_of_ofJson h
  obtain ⟨_, _, -, hkdf⟩ := Json.Members.required_eq_accepted.mp hkdf
  exact Kdf.inBounds_of_ofJson hkdf

/-- The fields of settings that were read, each read on its own. -/
theorem Settings.fields_of_ofJson {v : Json} {settings : Settings}
    (h : ofJson v = .accepted settings) : ∃ members : Json.Members, v = .obj members ∧
      members.optional "memory_cost" readMemory defaults.costs.memory =
        .accepted settings.costs.memory ∧
      members.optional "time_cost" readPasses defaults.costs.passes =
        .accepted settings.costs.passes ∧
      members.optional "parallelism" readLanes defaults.costs.lanes =
        .accepted settings.costs.lanes ∧
      members.optional "salt_length" (Json.asNatural 16 64) defaults.saltLength =
        .accepted settings.saltLength ∧
      members.optional "biometric_max_age_days" Json.asPositive defaults.unlockDays =
        .accepted settings.unlockDays ∧
      enoughMemory "memory_cost" settings.costs = .accepted () := by
  obtain ⟨members, rfl, h⟩ := Json.asRecord_eq_accepted.mp h
  obtain ⟨s, hs, h⟩ := Checked.andThen_eq_accepted.mp h
  obtain ⟨_, henough, rfl⟩ := Checked.map_eq_accepted.mp h
  obtain ⟨_, workers, h6, -, rfl⟩ := Checked.seq_eq_accepted.mp hs
  obtain ⟨_, days, h5, hdays, rfl⟩ := Checked.seq_eq_accepted.mp h6
  obtain ⟨_, cipher, h4, -, rfl⟩ := Checked.seq_eq_accepted.mp h5
  obtain ⟨_, salt, h3, hsalt, rfl⟩ := Checked.seq_eq_accepted.mp h4
  obtain ⟨_, lanes, h2, hlanes, rfl⟩ := Checked.seq_eq_accepted.mp h3
  obtain ⟨_, passes, h1, hpasses, rfl⟩ := Checked.seq_eq_accepted.mp h2
  obtain ⟨memory, hmemory, rfl⟩ := Checked.map_eq_accepted.mp h1
  exact ⟨members, rfl, hmemory, hpasses, hlanes, hsalt, hdays, henough⟩

/-- **Settings that were read** make vaults. -/
theorem Settings.valid_of_ofJson {v : Json} {settings : Settings}
    (h : ofJson v = .accepted settings) : settings.Valid := by
  obtain ⟨members, -, hmemory, hpasses, hlanes, hsalt, -, henough⟩ := fields_of_ofJson h
  have hm := Json.Members.forall_of_optional (fun n => 8 ≤ n ∧ n ≤ 4194304) (by decide)
    Json.bounds_of_asBounded hmemory
  have hp := Json.Members.forall_of_optional (fun n => 1 ≤ n ∧ n ≤ 100) (by decide)
    Json.bounds_of_asBounded hpasses
  have hl := Json.Members.forall_of_optional (fun n => 1 ≤ n ∧ n ≤ 255) (by decide)
    Json.bounds_of_asBounded hlanes
  have hs := Json.Members.forall_of_optional (fun n => 16 ≤ n ∧ n ≤ 64) (by decide)
    Json.bounds_of_asNatural hsalt
  exact ⟨⟨hm, hp, hl, le_of_enoughMemory henough⟩, hs⟩

/-! ### What Argon2 accepts -/

namespace Argon2

theorem Costs.InBounds.areWords {costs : Costs} (h : costs.InBounds) : costs.AreWords := by
  obtain ⟨hm, hp, hl, -⟩ := h
  simp only [AreWords, List.mem_cons, List.not_mem_nil, or_false, forall_eq_or_imp, forall_eq,
    wordCount]
  omega

/-- Argon2 accepts costs within bounds. -/
theorem Costs.InBounds.check {costs : Costs} (h : costs.InBounds) : costs.check = .ok () := by
  obtain ⟨hm, hp, hl, he⟩ := id h
  have hmemory : ¬ (costs.memory < 8 ∨ costs.memory < 8 * costs.lanes % wordCount) := by
    unfold wordCount
    omega
  have hlanes : ¬ costs.lanes > greatestLanes := by
    unfold greatestLanes
    omega
  have hallocation : ¬ costs.memory > greatestMemory := by
    unfold greatestMemory
    omega
  rw [Costs.check, if_neg (not_not.mpr h.areWords), if_neg hmemory, if_neg (by omega),
    if_neg (by omega), if_neg hlanes, if_neg hallocation]

end Argon2

/-- Under costs within bounds, a salt that is long enough gives a key. -/
theorem stretchSecret_of_inBounds {costs : Argon2.Costs} (h : costs.InBounds) (secret : Bytes)
    {salt : Bytes} (hs : leastSaltLength ≤ salt.length) :
    stretchSecret costs secret salt = .ok (Argon2.stretch costs secret salt) := by
  rw [stretchSecret, if_neg (by omega), Argon2.derive, h.check]
  rfl

theorem Argon2.Costs.check_ne_unencodable (costs : Argon2.Costs) :
    costs.check ≠ .error .unencodable := by
  unfold check
  split_ifs <;> simp

theorem Argon2.Costs.AreWords.check_ne_costRange {costs : Argon2.Costs} (h : costs.AreWords) :
    costs.check ≠ .error .costRange := by
  unfold Costs.check
  rw [if_neg (not_not.mpr h)]
  split_ifs <;> simp

/-- Under costs within bounds, a salt that is long enough gives a key for every string. -/
theorem stretchPassword_of_inBounds {costs : Argon2.Costs} (h : costs.InBounds) (password : String)
    {salt : Bytes} (hs : leastSaltLength ≤ salt.length) :
    stretchPassword costs password salt =
      .ok (Argon2.stretch costs (Utf8.encode password) salt) :=
  stretchSecret_of_inBounds h _ hs

/-- **A password without a UTF-8 form** is reported once the salt is long enough, before the costs
are looked at. -/
theorem stretchPassword_eq_unencodable_iff {costs : Argon2.Costs} {password : Text} {salt : Bytes} :
    stretchPassword costs password salt = .error .unencodable ↔
      leastSaltLength ≤ salt.length ∧ password.isWhole = false := by
  unfold stretchPassword
  split_ifs with hs
  · exact iff_of_false nofun fun h => absurd h.1 (Nat.not_le.mpr hs)
  · rw [Except.bind_eq_error_iff, Utf8.encodeText_eq_error_iff]
    constructor
    · rintro (h | ⟨secret, -, h⟩)
      · exact ⟨Nat.not_lt.mp hs, h.1⟩
      · rcases Except.bind_eq_error_iff.mp h with h | ⟨_, -, h⟩
        · exact absurd h costs.check_ne_unencodable
        · cases h
    · rintro ⟨-, h⟩
      exact Or.inl ⟨h, rfl⟩

/-- Nothing but costs that are no words is refused as such. -/
theorem stretchPassword_ne_costRange {costs : Argon2.Costs} (h : costs.AreWords)
    (password : Text) (salt : Bytes) : stretchPassword costs password salt ≠ .error .costRange := by
  unfold stretchPassword
  split_ifs
  · exact nofun
  · intro he
    rcases Except.bind_eq_error_iff.mp he with he | ⟨secret, -, he⟩
    · cases (Utf8.encodeText_eq_error_iff.mp he).2
    · rcases Except.bind_eq_error_iff.mp he with he | ⟨_, -, he⟩
      · exact h.check_ne_costRange he
      · cases he

/-! ### How a password fails -/

namespace Kdf

/-- The salt is base64 of at least eight bytes. -/
def Salted (kdf : Kdf) : Prop :=
  ∃ salt, Base64.Writes kdf.salt salt ∧ 8 ≤ salt.length

/-- The derivation comes to the password and does not get past it: the salt is in order and the
password has no UTF-8 form. -/
def StumblesOver (kdf : Kdf) (password : Text) : Prop :=
  kdf.Salted ∧ password.isWhole = false

theorem salted_iff {kdf : Kdf} :
    kdf.Salted ↔ ∃ salt, Base64.decode? kdf.salt = some salt ∧ leastSaltLength ≤ salt.length := by
  simp only [Salted, ← Base64.decode?_eq_some_iff]
  rfl

theorem not_stumblesOver_whole (kdf : Kdf) (password : String) :
    ¬ kdf.StumblesOver password :=
  nofun

/-- **A password without a UTF-8 form** is reported as such if and only if the salt is in order,
whatever the costs are. -/
theorem passwordKey_eq_unencodable_iff {kdf : Kdf} {password : Text} :
    kdf.passwordKey password = .error .unencodable ↔ kdf.StumblesOver password := by
  rw [StumblesOver, salted_iff]
  unfold passwordKey
  cases Base64.decode? kdf.salt with
  | none => exact iff_of_false nofun nofun
  | some salt =>
    have h := @stretchPassword_eq_unencodable_iff kdf.costs password salt
    simp only [Option.some.injEq, exists_eq_left', ← h]
    split <;> simp_all

/-- **Under costs that are words** a password can fail only as a wrong one, unless the derivation
stumbles over it, whether or not Argon2 accepts the costs. -/
theorem eq_authentication_of_areWords {kdf : Kdf} (h : kdf.costs.AreWords) {password : Text}
    (hp : ¬ kdf.StumblesOver password) {e : Error} (he : kdf.passwordKey password = .error e) :
    e = .authentication .password := by
  have hu := he
  unfold passwordKey at he
  split at he
  · exact (Except.error.inj he).symm
  · split at he
    · cases he
    · rename_i hs
      exact absurd hs (stretchPassword_ne_costRange h _ _)
    · exact absurd (passwordKey_eq_unencodable_iff.mp (hu.trans he.symm)) hp
    · exact (Except.error.inj he).symm

/-- **Under costs within bounds** a password can fail only as a wrong one, unless the derivation
stumbles over it. -/
theorem eq_authentication_of_passwordKey {kdf : Kdf} (h : kdf.costs.InBounds) {password : Text}
    (hp : ¬ kdf.StumblesOver password) {e : Error} (he : kdf.passwordKey password = .error e) :
    e = .authentication .password :=
  eq_authentication_of_areWords h.areWords hp he

end Kdf

end PasswordVault
