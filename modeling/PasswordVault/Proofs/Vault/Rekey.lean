import PasswordVault.Proofs.Vault.Costs
import PasswordVault.Proofs.Vault.Sealing

/-!
# Another password for any vault

Another password opens payload and seed with what is stored in the vault, and seals the very same
bytes by the settings. The copy for the recovery phrase is not looked at but made anew, and what was
opened need not be a payload. A password without a UTF-8 form is no wrong password: an old one is
reported when its key is derived, a new one when the salt is drawn already.

* `SameContents`: two vaults that are the same for a change of the password;
* `OpensContents`: what the old password has to open, `contents_eq_ok_iff`;
* `eq_authentication_of_contents`, `contents_of_stumblesOver`: the failures of the old password;
* `fields_of_gives_sealNew`: what the settings decide;
* `rekey_of_any_vault`: **when a password is changed, what that leaves and what it depends on**;
* `rekey_not_always_answered`: it is **not always changed or refused as a wrong password**.
-/

namespace PasswordVault.Vault

/-- The vaults differ at most in the copy for the recovery phrase and in when they were last
sealed. -/
structure SameContents (vault other : Vault) : Prop where
  cipher : vault.cipher = other.cipher
  kdf : vault.kdf = other.kdf
  created : vault.created = other.created
  primary : vault.primary = other.primary
  wrappedSeed : vault.wrappedSeed = other.wrappedSeed

/-! ### What is opened -/

theorem contents_eq_ok_iff {vault : Vault} {password : Text} {plaintext seed : Bytes} :
    vault.contents password = .ok ⟨plaintext, seed⟩ ↔
      ∃ key, vault.kdf.passwordKey password = .ok key ∧
        vault.openSlot? .primary key = some plaintext ∧
        vault.openSlot? .seed key = some seed ∧ seed.length = seedLength := by
  simp only [contents, Except.bind_eq_ok_iff, demand_eq_ok_iff, openSeed?_eq_some_iff]
  constructor
  · rintro ⟨key, hk, _, hp, _, hs, h⟩
    obtain ⟨rfl, rfl⟩ := Contents.mk.inj (Except.ok.inj h)
    exact ⟨key, hk, hp, hs⟩
  · rintro ⟨key, hk, hp, hs⟩
    exact ⟨key, hk, plaintext, hp, seed, hs, rfl⟩

/-- The password opens the payload and a seed. -/
def OpensContents (vault : Vault) (password : Text) : Prop :=
  ∃ key plaintext seed, vault.kdf.passwordKey password = .ok key ∧
    vault.openSlot? .primary key = some plaintext ∧ vault.openSlot? .seed key = some seed ∧
    seed.length = seedLength

theorem opensContents_iff {vault : Vault} {password : Text} :
    vault.OpensContents password ↔ ∃ contents, vault.contents password = .ok contents := by
  constructor
  · rintro ⟨key, plaintext, seed, h⟩
    exact ⟨⟨plaintext, seed⟩, contents_eq_ok_iff.mpr ⟨key, h⟩⟩
  · rintro ⟨⟨plaintext, seed⟩, h⟩
    obtain ⟨key, h⟩ := contents_eq_ok_iff.mp h
    exact ⟨key, plaintext, seed, h⟩

theorem eq_of_demand_eq_error {α : Type} {credential : Credential} {x : Option α} {e : Error}
    (h : demand credential x = .error e) : e = .authentication credential := by
  cases x with
  | none => exact (Except.error.inj h).symm
  | some a => cases h

/-- **Whatever is wrong** with the password or the boxes is reported as a wrong password, unless the
derivation stumbles over the password. -/
theorem eq_authentication_of_contents {vault : Vault} (hv : vault.kdf.costs.InBounds)
    {password : Text} (hp : ¬ vault.kdf.StumblesOver password) {e : Error}
    (h : vault.contents password = .error e) : e = .authentication .password := by
  simp only [contents, Except.bind_eq_error_iff] at h
  rcases h with hk | ⟨key, hk, ho | ⟨plaintext, ho, hs | ⟨seed, hs, hr⟩⟩⟩
  · exact Kdf.eq_authentication_of_passwordKey hv hp hk
  · exact eq_of_demand_eq_error ho
  · exact eq_of_demand_eq_error hs
  · cases hr

theorem contents_of_stumblesOver {vault : Vault} {password : Text}
    (h : vault.kdf.StumblesOver password) : vault.contents password = .error .unencodable := by
  rw [contents, Kdf.passwordKey_eq_unencodable_iff.mpr h]
  rfl

theorem SameContents.contents {vault other : Vault} (h : vault.SameContents other)
    (password : Text) : vault.contents password = other.contents password := by
  have hp (key : Bytes) : vault.openSlot? .primary key = other.openSlot? .primary key :=
    openSlot?_congr h.cipher .primary h.primary key
  have hs (key : Bytes) : vault.openSlot? .seed key = other.openSlot? .seed key :=
    openSlot?_congr h.cipher .seed h.wrappedSeed key
  simp only [Vault.contents, openSeed?, h.kdf, hp, hs]

/-! ### What is sealed -/

theorem fields_of_gives_sealNew {settings : Settings} {now : Instant} {password : Text}
    {contents : Contents} {created : Timestamp} {tape rest : Tape} {vault : Vault}
    (h : Gives (sealNew settings now password contents created) tape vault rest) :
    vault.cipher = settings.cipher ∧ vault.created = created ∧
      vault.updated = Timestamp.ofInstant now ∧
      vault.kdf = ⟨Base64.encode (draw settings.saltLength tape).1, settings.costs⟩ := by
  simp only [sealNew, gives_bind, gives_draw, gives_ofExcept] at h
  obtain ⟨salt, _, ⟨rfl, rfl⟩, key, _, -, rfl, -⟩ := h
  exact ⟨rfl, rfl, rfl, rfl⟩

theorem exists_gives_sealNew_of_valid {settings : Settings} (hs : settings.Valid) (now : Instant)
    (password : String) (contents : Contents) (created : Timestamp) (tape : Tape) :
    ∃ vault rest, Gives (sealNew settings now password contents created) tape vault rest := by
  obtain ⟨vault, rest, h, -⟩ := exists_gives_sealNew settings hs.leastSaltLength_le hs.costs.check
    now password contents created tape
  exact ⟨vault, rest, h⟩

/-! ### Another password -/

section Accepted
variable {vault : Vault} {given : Given Vault} (ha : accept given = .ok vault)
include ha

theorem outcome_changePassword (settings : Settings) (now : Instant) (password next : Text)
    (tape : Tape) : (changePassword settings given now password next).outcome tape =
      Attempt.outcome (Attempt.ofExcept (vault.contents password) >>= fun contents =>
        sealNew settings now next contents vault.created) tape :=
  outcome_ofExcept_bind_ok ha _ tape

theorem gives_changePassword_iff {settings : Settings} {now : Instant} {password next : Text}
    {tape rest : Tape} {vault' : Vault} :
    Gives (changePassword settings given now password next) tape vault' rest ↔
      ∃ contents, vault.contents password = .ok contents ∧
        Gives (sealNew settings now next contents vault.created) tape vault' rest := by
  rw [Gives, outcome_changePassword ha]
  exact gives_ofExcept_bind

end Accepted

/-- **A password is changed** if and only if the old one opens the payload and a seed and the new
one has a UTF-8 form. Otherwise the old one is refused as a wrong password, unless it is the missing
UTF-8 form of one of them that is reported, for the old one before anything is drawn and for the new
one after the salt. The result is sealed by the settings, keeps the creation time, and opens to the
same bytes and the same seed for the new password and for the recovery phrase. The old copy for the
recovery phrase does not matter, whatever the outcome. -/
theorem rekey_of_any_vault {settings : Settings} (hs : settings.Valid) {vault : Vault}
    (hv : vault.kdf.costs.InBounds) {given : Given Vault} (ha : accept given = .ok vault)
    (now : Instant) (password next : Text) :
    (∀ tape, (∃ vault' rest,
        Gives (changePassword settings given now password next) tape vault' rest) ↔
      vault.OpensContents password ∧ next.isWhole = true) ∧
    (∀ tape, ¬ vault.OpensContents password → ¬ vault.kdf.StumblesOver password →
      (changePassword settings given now password next).outcome tape =
        (.error (.authentication .password), tape)) ∧
    (∀ tape, vault.kdf.StumblesOver password →
      (changePassword settings given now password next).outcome tape =
        (.error .unencodable, tape)) ∧
    (∀ tape, vault.OpensContents password → next.isWhole = false →
      (changePassword settings given now password next).outcome tape =
        (.error .unencodable, tape.advance settings.saltLength)) ∧
    (Error.authentication .password).message = "Invalid password" ∧
    (∀ tape vault' rest, Gives (changePassword settings given now password next) tape vault' rest →
      vault'.created = vault.created ∧ vault'.updated = Timestamp.ofInstant now ∧
      vault'.cipher = settings.cipher ∧
      (∃ salt, salt = (draw settings.saltLength tape).1 ∧ salt.length = settings.saltLength ∧
        vault'.kdf = ⟨Base64.encode salt, settings.costs⟩) ∧
      ∃ key plaintext seed newKey, vault.kdf.passwordKey password = .ok key ∧
        vault.openSlot? .primary key = some plaintext ∧ vault.openSlot? .seed key = some seed ∧
        vault'.kdf.passwordKey next = .ok newKey ∧ vault'.OpensTo newKey plaintext seed) ∧
    (∀ other given', accept given' = .ok other → vault.SameContents other → ∀ tape,
      (changePassword settings given now password next).outcome tape =
        (changePassword settings given' now password next).outcome tape) := by
  have hbroken (tape : Tape) (hp : vault.OpensContents password) (hn : next.isWhole = false) :
      (changePassword settings given now password next).outcome tape =
        (.error .unencodable, tape.advance settings.saltLength) := by
    obtain ⟨contents, hc⟩ := opensContents_iff.mp hp
    rw [outcome_changePassword ha, outcome_ofExcept_bind_ok hc]
    exact outcome_sealNew_broken hs.leastSaltLength_le hn now contents vault.created tape
  refine ⟨fun tape => ?_, fun tape hp hn => ?_, fun tape hp => ?_, hbroken, by decide,
    fun tape vault' rest h => ?_, fun other given' ha' h tape => ?_⟩
  · constructor
    · rintro ⟨vault', rest, h⟩
      obtain ⟨contents, hc, -⟩ := (gives_changePassword_iff ha).mp h
      have hp := opensContents_iff.mpr ⟨contents, hc⟩
      refine ⟨hp, ?_⟩
      by_contra hn
      cases (hbroken tape hp (Bool.eq_false_iff.mpr hn)).symm.trans h
    · rintro ⟨hp, hn⟩
      obtain ⟨contents, hc⟩ := opensContents_iff.mp hp
      obtain ⟨s, rfl⟩ := Text.isWhole_iff.mp hn
      obtain ⟨vault', rest, h⟩ := exists_gives_sealNew_of_valid hs now s contents vault.created tape
      exact ⟨vault', rest, (gives_changePassword_iff ha).mpr ⟨contents, hc, h⟩⟩
  · cases hc : vault.contents password with
    | error e =>
      obtain rfl := eq_authentication_of_contents hv hn hc
      rw [outcome_changePassword ha, outcome_ofExcept_bind_error hc]
    | ok contents => exact absurd (opensContents_iff.mpr ⟨contents, hc⟩) hp
  · rw [outcome_changePassword ha, outcome_ofExcept_bind_error (contents_of_stumblesOver hp)]
  · obtain ⟨⟨plaintext, seed⟩, hc, hn⟩ := (gives_changePassword_iff ha).mp h
    obtain ⟨key, hk, hp, hw, hl⟩ := contents_eq_ok_iff.mp hc
    obtain ⟨hcipher, hcreated, hupdated, hkdf⟩ := fields_of_gives_sealNew hn
    obtain ⟨newKey, hk', ho⟩ := holds_iff.mp (holds_of_gives_sealNew hl hn)
    exact ⟨hcreated, hupdated, hcipher, ⟨_, rfl, length_draw _ _, hkdf⟩, key, plaintext, seed,
      newKey, hk, hp, hw, hk', ho⟩
  · rw [outcome_changePassword ha, outcome_changePassword ha', h.contents, h.created]

/-- A vault with a damaged copy for the recovery phrase, whose text is no payload. -/
theorem exists_damaged : ∃ (vault : Vault) (key : Bytes), vault.recovery = ⟨"", "", ""⟩ ∧
    vault.cipher = .chaCha ∧ vault.kdf.costs.InBounds ∧ vault.kdf.Salted ∧
    vault.kdf.passwordKey "old" = .ok key ∧ vault.openSlot? .primary key = some [255] ∧
    vault.openSlot? .seed key = some (List.replicate 32 7) := by
  have hs : Settings.defaults.Valid := Settings.valid_of_ofJson (v := .obj []) rfl
  have hold : ({ Settings.defaults with cipher := .chaCha } : Settings).Valid :=
    ⟨hs.costs, hs.saltLength⟩
  obtain ⟨vault, _, hn⟩ := exists_gives_sealNew_of_valid hold 0 "old"
    ⟨[255], List.replicate 32 7⟩ (Timestamp.ofInstant 0) ⟨fun _ => 1, 0⟩
  obtain ⟨hcipher, -, -, hkdf⟩ := fields_of_gives_sealNew hn
  obtain ⟨key, hk, ho⟩ := holds_iff.mp (holds_of_gives_sealNew (by decide) hn)
  refine ⟨{ vault with recovery := ⟨"", "", ""⟩ }, key, rfl, hcipher, ?_, ?_, hk, ho.primary,
    ho.seed⟩
  · exact hkdf ▸ hs.costs
  · rw [hkdf]
    exact ⟨_, Base64.writes_encode _, by decide⟩

/-- The vault gets another password and another cipher. -/
theorem rekey_of_damaged_vault :
    ∃ vault vault' rest newKey, vault.recovery = ⟨"", "", ""⟩ ∧ vault.cipher = .chaCha ∧
      Gives (changePassword Settings.defaults (.value vault) 1 "old" "new") ⟨fun _ => 2, 0⟩ vault'
        rest ∧ vault'.cipher = .aesGcm ∧
      vault'.kdf.passwordKey "new" = .ok newKey ∧
      vault'.OpensTo newKey [255] (List.replicate 32 7) := by
  have hs : Settings.defaults.Valid := Settings.valid_of_ofJson (v := .obj []) rfl
  obtain ⟨vault, key, hrecovery, hcipher, hv, -, hk, hprimary, hseed⟩ := exists_damaged
  have ha : accept (.value vault) = .ok vault := rfl
  obtain ⟨hsucceeds, -, -, -, -, hleaves, -⟩ := rekey_of_any_vault hs hv ha 1 "old" "new"
  obtain ⟨vault', rest, h⟩ := (hsucceeds ⟨fun _ => 2, 0⟩).mpr
    ⟨⟨key, _, _, hk, hprimary, hseed, by decide⟩, rfl⟩
  obtain ⟨-, -, hcipher', -, key', plaintext, seed, newKey, hk', hp, hw, hnew, ho'⟩ :=
    hleaves _ _ _ h
  obtain rfl : key = key' := Except.ok.inj (hk.symm.trans hk')
  obtain rfl : [255] = plaintext := Option.some.inj (hprimary.symm.trans hp)
  obtain rfl : List.replicate 32 7 = seed := Option.some.inj (hseed.symm.trans hw)
  exact ⟨vault, vault', rest, newKey, hrecovery, hcipher, h, hcipher', hnew, ho'⟩

/-- A password is **not always changed or refused as a wrong one**: a new password without a UTF-8
form does not replace the right one, and an old one without it is not refused as a wrong one. -/
theorem rekey_not_always_answered :
    (¬ ∀ settings vault now password next tape, settings.Valid → vault.kdf.costs.InBounds →
      vault.OpensContents password → ∃ vault' rest,
        Gives (changePassword settings (.value vault) now password next) tape vault' rest) ∧
    ¬ ∀ settings vault now password next tape, settings.Valid → vault.kdf.costs.InBounds →
      ¬ vault.OpensContents password →
        ((changePassword settings (.value vault) now password next).outcome tape).1 =
          .error (.authentication .password) := by
  have hs : Settings.defaults.Valid := Settings.valid_of_ofJson (v := .obj []) rfl
  obtain ⟨vault, key, -, -, hv, hsalted, hk, hprimary, hseed⟩ := exists_damaged
  have ha : accept (.value vault) = .ok vault := rfl
  constructor
  · intro h
    have ho : vault.OpensContents "old" := ⟨key, _, _, hk, hprimary, hseed, by decide⟩
    obtain ⟨contents, hc⟩ := opensContents_iff.mp ho
    obtain ⟨vault', rest, hg⟩ :=
      h Settings.defaults vault 0 "old" Text.lone ⟨fun _ => 1, 0⟩ hs hv ho
    obtain ⟨contents', -, hn⟩ := (gives_changePassword_iff ha).mp hg
    have hlone : Text.lone.isWhole = false := rfl
    have hbroken := outcome_sealNew_broken hs.leastSaltLength_le hlone 0 contents' vault.created
    cases (hbroken _).symm.trans hn
  · intro h
    have hstumbles : vault.kdf.StumblesOver Text.lone := ⟨hsalted, rfl⟩
    have hc := contents_of_stumblesOver hstumbles
    have hno : ¬ vault.OpensContents Text.lone := by
      rw [opensContents_iff, hc]
      rintro ⟨_, ⟨⟩⟩
    have ho := h Settings.defaults vault 0 Text.lone "new" ⟨fun _ => 1, 0⟩ hs hv hno
    rw [outcome_changePassword ha, outcome_ofExcept_bind_error hc] at ho
    cases ho

end PasswordVault.Vault
