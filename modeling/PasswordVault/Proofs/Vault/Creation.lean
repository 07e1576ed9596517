import PasswordVault.Proofs.Phrase.Recover
import PasswordVault.Proofs.Text.Base64
import PasswordVault.Proofs.Time.Instant
import PasswordVault.Proofs.Vault.Export
import PasswordVault.Proofs.Vault.Slots

/-!
# Settings that are accepted work

Settings are looked at when they are read, the settings of a derivation when a vault is read, and
the costs once more by Argon2. The three agree: settings that are accepted make vaults, these vaults
are accepted, and whoever is handed one opens it, whatever settings there are at that time. With a
vault that was accepted a password can fail before a box is looked at for two reasons only: a salt
that is no base64 of eight bytes or more, and a password without a UTF-8 form, which makes no vault
either.

* `Settings.Accepted`: settings that were read, `Settings.valid_of_accepted`;
* `exists_gives_create`: **a vault is created**, `ofJson_toJson_of_sealed`: and accepted;
* `Kdf.exists_passwordKey_iff`: **when a password gives a key**;
* `ComesToOpening`: operations that come to a box;
* `accepted_settings_work`: **what may be relied on**;
* `accepted_settings_not_always_work`: a vault is **not always created**, and a salt in order is
  **not always enough**.
-/

namespace PasswordVault

/-- **The settings were accepted**, from named values or from an environment. -/
def Settings.Accepted (settings : Settings) : Prop :=
  (∃ v, ofJson v = .accepted settings) ∨ ∃ textOf, ofEnvironment textOf = .accepted settings

theorem Settings.valid_of_accepted {settings : Settings} (h : settings.Accepted) :
    settings.Valid := by
  rcases h with ⟨v, h⟩ | ⟨textOf, h⟩
  · exact valid_of_ofJson h
  · exact valid_of_ofJson h

/-! ### The key of a password -/

/-- **When a password gives a key**: under costs within bounds the salt is in order, and the
password has a UTF-8 form. -/
theorem Kdf.exists_passwordKey_iff {kdf : Kdf} (h : kdf.costs.InBounds) (password : Text) :
    (∃ key, kdf.passwordKey password = .ok key) ↔ kdf.Salted ∧ password.isWhole = true := by
  simp only [passwordKey_eq_ok_iff, Stretches, salted_iff, Text.isWhole_iff]
  constructor
  · rintro ⟨key, salt, s, hs, rfl, hl, -, -⟩
    exact ⟨⟨salt, hs, hl⟩, s, rfl⟩
  · rintro ⟨⟨salt, hs, hl⟩, s, rfl⟩
    exact ⟨_, salt, s, hs, rfl, hl, h.check, rfl⟩

/-- Under costs within bounds every password is a wrong one if the salt is not in order. -/
theorem Kdf.passwordKey_of_not_salted {kdf : Kdf} (h : kdf.costs.InBounds) (hs : ¬ kdf.Salted)
    (password : Text) : kdf.passwordKey password = .error (.authentication .password) := by
  cases hk : kdf.passwordKey password with
  | ok key => exact absurd ((exists_passwordKey_iff h password).mp ⟨key, hk⟩).1 hs
  | error e => rw [eq_authentication_of_passwordKey h (fun hp => hs hp.1) hk]

namespace Vault

/-! ### Creating -/

/-- **A vault is created** by settings that make vaults, for every string. -/
theorem exists_gives_create {settings : Settings} (h : settings.Valid) (now : Instant)
    (password : String) (tape : Tape) :
    ∃ vault phrase seed rest, Gives (create settings now password) tape (vault, phrase) rest ∧
      Phrase.recover phrase = .ok seed ∧ vault.Holds password Payload.empty.toBytes seed ∧
      vault.created = .ofInstant now ∧ vault.updated = .ofInstant now ∧
      vault.kdf.costs = settings.costs := by
  obtain ⟨⟨phrase, seed⟩, rest, hgen⟩ : ∃ p rest, Phrase.generate tape = (p, rest) := ⟨_, _, rfl⟩
  obtain ⟨vault, rest', hseal⟩ := exists_gives_sealNew_of_valid h now password
    ⟨Payload.empty.toBytes, seed⟩ (.ofInstant now) rest
  have hcreate : Gives (create settings now password) tape (vault, phrase) rest' := by
    simp only [create, gives_bind, gives_draw, gives_pure]
    exact ⟨_, _, ⟨congrArg Prod.fst hgen, congrArg Prod.snd hgen⟩, vault, rest', hseal, rfl, rfl⟩
  have hrecover : Phrase.recover phrase = .ok seed := by
    have hr := Phrase.recover_generate tape
    rwa [hgen] at hr
  have hstretch : seed = Phrase.stretch phrase := by
    have hs := Phrase.seed_generate tape
    rwa [hgen] at hs
  obtain ⟨-, hcreated, hupdated, hkdf⟩ := fields_of_gives_sealNew hseal
  refine ⟨vault, phrase, seed, rest', hcreate, hrecover, ?_, hcreated, hupdated, ?_⟩
  · rw [hstretch]
    exact holds_of_gives_create hcreate
  · rw [hkdf]

/-- A vault that was sealed within the calendar and with costs within bounds is read back. -/
theorem ofJson_toJson_of_sealed {vault : Vault} {now : Instant} (hn : OnCalendar now)
    (hc : vault.created = .ofInstant now) (hu : vault.updated = .ofInstant now)
    (hk : vault.kdf.costs.InBounds) : ofJson vault.toJson = .accepted vault := by
  have ht := Timestamp.asTimestamp_toText (Timestamp.storable_ofInstant hn)
  refine ofJson_toJson ?_ ?_ (Kdf.ofJson_of_inBounds hk).1
  · rw [hc, ht]
  · rw [hu, ht]

theorem accept_of_stands {given : Given Vault} {vault : Vault} (hg : given.Stands toJson vault)
    (h : ofJson vault.toJson = .accepted vault) : accept given = .ok vault := by
  rcases hg with rfl | rfl
  · rfl
  · exact accept_json_eq_ok_iff.mpr h

/-! ### Operations that take a password -/

/-- What a password key opens in a vault: the payload and the seed. -/
def contentsUnder (vault : Vault) (key : Bytes) : Except Error Contents := do
  let plaintext ← demand .password (vault.openSlot? .primary key)
  let seed ← demand .password (vault.openSeed? key)
  return ⟨plaintext, seed⟩

/-- The password has given a key, and what follows is what is done to the boxes with it. -/
structure ComesToOpening (vault : Vault) (given : Given Vault) (password : Text) (key : Bytes) :
    Prop where
  length : key.length = 32
  unlock : unlock given password = (·, key) <$> vault.openPayload .password key
  update (now : Instant) (payload : Given Payload) (tape : Tape) :
    (update given now password payload).outcome tape =
      (vault.updateUnder now .password key payload).outcome tape
  changePassword (settings : Settings) (now : Instant) (next : Text) (tape : Tape) :
    (changePassword settings given now password next).outcome tape =
      Attempt.outcome (Attempt.ofExcept (vault.contentsUnder key) >>= fun contents =>
        sealNew settings now next contents vault.created) tape

theorem comesToOpening_of_passwordKey {vault : Vault} {given : Given Vault}
    (ha : accept given = .ok vault) {password : Text} {key : Bytes}
    (hk : vault.kdf.passwordKey password = .ok key) :
    ComesToOpening vault given password key where
  length := length_of_passwordKey hk
  unlock := unlock_eq hk ha
  update now payload tape := by
    rw [outcome_update ha, outcome_ofExcept_bind_ok hk]
  changePassword settings now next tape := by
    have hc : vault.contents password = vault.contentsUnder key := by
      rw [contents, hk]
      rfl
    rw [outcome_changePassword ha, hc]

/-! ### The result -/

/-- A vault that was created opens for the password and for the phrase, and takes another password
by any settings that make vaults. -/
theorem opens_of_created {vault : Vault} {given : Given Vault} {password : Text} {phrase : String}
    {seed : Bytes} (ha : accept given = .ok vault) (hp : Phrase.recover phrase = .ok seed)
    (hh : vault.Holds password Payload.empty.toBytes seed) :
    (∃ key, unlock given password = .ok (Payload.empty, key)) ∧
    unlockWithPhrase given phrase = .ok (Payload.empty, seed) ∧
    ∀ other : Settings, other.Valid → ∀ later (next : String) tape, ∃ vault' rest,
      Gives (changePassword other given later password next) tape vault' rest ∧
        vault'.Holds next Payload.empty.toBytes seed := by
  obtain ⟨key, hk, ho⟩ := holds_iff.mp hh
  obtain ⟨phraseKey, hs, hr⟩ := ho.recovery
  obtain ⟨hl, rfl⟩ := seedKey_eq_ok_iff.mp hs
  refine ⟨⟨key, ?_⟩, ?_, fun other hother later next tape => ?_⟩
  · rw [(unlocks_of_openSlot? ha ho.primary).withPassword password hk, Payload.ofBytes_empty]
    rfl
  · rw [recovers_of_openSlot? ha hr phrase hp, Payload.ofBytes_empty]
    rfl
  · obtain ⟨vault', rest, hn⟩ := exists_gives_sealNew_of_valid hother later next
      ⟨Payload.empty.toBytes, seed⟩ vault.created tape
    exact ⟨vault', rest, gives_changePassword_of_sealNew ha hh hn, holds_of_gives_sealNew hl hn⟩

/-- **What may be relied on.** Settings that were accepted create a vault at every instant of the
calendar, for every password that has a UTF-8 form and whatever is drawn; for the others that is
reported, when the entropy of the phrase and the salt are drawn. The settings of its derivation are
accepted under both their names and the vault in its stored form; in every form it opens for its
password and for its phrase, and takes another password by any other settings that were accepted.
Costs that were accepted with a derivation are accepted by Argon2. With a vault that was accepted, a
password gives no key if and only if the salt is not base64 of at least eight bytes or the password
has no UTF-8 form; it is then turned away, in the first case as a wrong one, and otherwise
everything that follows is done with the key. -/
theorem accepted_settings_work (settings : Settings) (v : Json) :
    (settings.Accepted → ∀ now (password : Text) tape,
      password.isWhole = false → (create settings now password).outcome tape =
        (.error .unencodable, tape.advance (Phrase.entropyLength + settings.saltLength))) ∧
    (settings.Accepted → ∀ now, OnCalendar now → ∀ (password : String) tape,
      ∃ vault phrase seed rest, Gives (create settings now password) tape (vault, phrase) rest ∧
        Kdf.ofJson vault.kdf.named = .accepted vault.kdf ∧
        Kdf.ofJson vault.kdf.toJson = .accepted vault.kdf ∧
        isVault (.json vault.toJson) = true ∧
        ∀ given : Given Vault, given.Stands toJson vault →
          (∃ key, unlock given password = .ok (Payload.empty, key)) ∧
          unlockWithPhrase given phrase = .ok (Payload.empty, seed) ∧
          ∀ other : Settings, other.Accepted → ∀ later (next : String) tape', ∃ vault' rest',
            Gives (changePassword other given later password next) tape' vault' rest' ∧
              vault'.Holds next Payload.empty.toBytes seed) ∧
    (∀ kdf, Kdf.ofJson v = .accepted kdf →
      (8 ≤ kdf.costs.memory ∧ 8 * kdf.costs.lanes ≤ kdf.costs.memory ∧ 1 ≤ kdf.costs.passes ∧
        1 ≤ kdf.costs.lanes) ∧ kdf.costs.check = .ok ()) ∧
    (∀ vault, ofJson v = .accepted vault → ∀ given, accept given = .ok vault → ∀ password,
      ((∃ e, vault.kdf.passwordKey password = .error e) ↔
        ¬vault.kdf.Salted ∨ password.isWhole = false) ∧
      (¬vault.kdf.Salted → TurnsAway given password (.authentication .password)) ∧
      (vault.kdf.Salted → password.isWhole = false → TurnsAway given password .unencodable) ∧
      (∀ key, vault.kdf.passwordKey password = .ok key →
        ComesToOpening vault given password key)) := by
  refine ⟨fun hs now password tape hp => ?_, fun hs now hn password tape => ?_, fun kdf h => ?_,
    fun vault h given ha password => ?_⟩
  · have hvalid := Settings.valid_of_accepted hs
    exact outcome_create_broken hvalid.leastSaltLength_le hp now tape
  · have hvalid := Settings.valid_of_accepted hs
    obtain ⟨vault, phrase, seed, rest, hcreate, hp, hh, hc, hu, hk⟩ :=
      exists_gives_create hvalid now password tape
    have hb : vault.kdf.costs.InBounds := hk ▸ hvalid.costs
    have hread := ofJson_toJson_of_sealed hn hc hu hb
    obtain ⟨hstored, hnamed⟩ := Kdf.ofJson_of_inBounds hb
    refine ⟨vault, phrase, seed, rest, hcreate, hnamed, hstored, isVault_json_iff.mpr ⟨_, hread⟩,
      fun given hg => ?_⟩
    obtain ⟨hunlock, hphrase, hchange⟩ := opens_of_created (accept_of_stands hg hread) hp hh
    exact ⟨hunlock, hphrase, fun other ho => hchange other (Settings.valid_of_accepted ho)⟩
  · have hb := Kdf.inBounds_of_ofJson h
    exact ⟨⟨hb.memory.1, hb.enough, hb.passes.1, hb.lanes.1⟩, hb.check⟩
  · have hb := inBounds_of_ofJson h
    have hkey := Kdf.exists_passwordKey_iff hb password
    refine ⟨?_, fun hs => ?_, fun hs hp => ?_, fun key hk => comesToOpening_of_passwordKey ha hk⟩
    · rw [← Bool.not_eq_true, ← not_and_or, ← hkey]
      cases vault.kdf.passwordKey password with
      | error e => exact iff_of_true ⟨e, rfl⟩ nofun
      | ok key => exact iff_of_false nofun (not_not_intro ⟨key, rfl⟩)
    · exact turnsAway_of_passwordKey ha (Kdf.passwordKey_of_not_salted hb hs password)
    · exact turnsAway_of_passwordKey ha (Kdf.passwordKey_eq_unencodable_iff.mpr ⟨hs, hp⟩)

/-- The variables of an environment, with the name of a cipher in capitals. -/
def smallEnvironment (name : String) : Text :=
  if name = "VAULT_CIPHER_BACKEND" then "ChaCha20"
  else if name = "VAULT_KDF_MEMORY_COST" then "16"
  else if name = "VAULT_KDF_PARALLELISM" then "2"
  else ""

/-- Settings from an environment make a vault that opens in its stored form, and a vault without a
salt turns every password away. -/
theorem accepted_settings_work_small :
    (∃ settings vault phrase rest, settings.cipher = .chaCha ∧
      Gives (create settings 0 "password") ⟨fun i => UInt8.ofNat i, 0⟩ (vault, phrase) rest ∧
      ∃ key, unlock (.json vault.toJson) "password" = .ok (Payload.empty, key)) ∧
    unlock (.json laxVault) "password" = .error (.authentication .password) := by
  constructor
  · have hread : (Settings.ofEnvironment smallEnvironment).toOption.map Settings.cipher =
        some .chaCha := by
      decide +kernel
    have hn : OnCalendar 0 := Timestamp.onCalendar_iff.mpr (by decide)
    cases hs : Settings.ofEnvironment smallEnvironment with
    | refused faults =>
      rw [hs] at hread
      cases hread
    | accepted settings =>
      rw [hs] at hread
      obtain ⟨-, hcreate, -⟩ := accepted_settings_work settings laxVault
      obtain ⟨vault, phrase, seed, rest, hg, -, -, -, hopen⟩ :=
        hcreate (Or.inr ⟨_, hs⟩) 0 hn "password" ⟨fun i => UInt8.ofNat i, 0⟩
      exact ⟨settings, vault, phrase, rest, Option.some.inj hread, hg, (hopen _ (Or.inr rfl)).1⟩
  · obtain ⟨vault, hv⟩ := isVault_json_iff.mp (by decide +kernel : isVault (.json laxVault) = true)
    have hsalt : (ofJson laxVault).toOption.map (fun vault => vault.kdf.salt) = some "" := by
      decide +kernel
    rw [hv] at hsalt
    have hempty : vault.kdf.salt = "" := Option.some.inj hsalt
    obtain ⟨-, -, -, hpassword⟩ := accepted_settings_work Settings.defaults laxVault
    obtain ⟨-, haway, -⟩ := hpassword vault hv _ (accept_json_eq_ok_iff.mpr hv) "password"
    refine (haway ?_).unlock
    rintro ⟨salt, hw, hl⟩
    have hread : Base64.decode? "" = some [] := rfl
    rw [hempty, ← Base64.decode?_eq_some_iff, hread] at hw
    obtain rfl := Option.some.inj hw
    exact absurd hl (by decide)

/-- A vault is **not always created**, and with a vault that was accepted it is **not the salt
alone** that a password can fail on before a box is looked at: not for a password without a UTF-8
form. -/
theorem accepted_settings_not_always_work :
    (¬ ∀ settings : Settings, settings.Accepted → ∀ now, OnCalendar now →
      ∀ (password : Text) tape, ∃ vault phrase rest,
        Gives (create settings now password) tape (vault, phrase) rest) ∧
    ¬ ∀ v vault, ofJson v = .accepted vault → ∀ password : Text,
      (∃ e, vault.kdf.passwordKey password = .error e) ↔ ¬vault.kdf.Salted := by
  have hs : Settings.defaults.Accepted := Or.inl ⟨.obj [], rfl⟩
  have hn : OnCalendar 0 := Timestamp.onCalendar_iff.mpr (by decide)
  have hvalid := Settings.valid_of_accepted hs
  constructor
  · intro h
    obtain ⟨vault, phrase, rest, hg⟩ := h _ hs 0 hn Text.lone ⟨fun i => UInt8.ofNat i, 0⟩
    cases (outcome_create_broken hvalid.leastSaltLength_le rfl 0 _).symm.trans hg
  · intro h
    obtain ⟨vault, _, seed, _, hg, -, hh, hc, hu, hk⟩ :=
      exists_gives_create hvalid 0 "password" ⟨fun i => UInt8.ofNat i, 0⟩
    obtain ⟨key, hkey, -⟩ := holds_iff.mp hh
    have hb : vault.kdf.costs.InBounds := hk ▸ hvalid.costs
    obtain ⟨hsalted, -⟩ := (Kdf.exists_passwordKey_iff hb "password").mp ⟨key, hkey⟩
    have hfails :=
      Kdf.passwordKey_eq_unencodable_iff.mpr ⟨hsalted, (rfl : Text.lone.isWhole = false)⟩
    exact (h _ vault (ofJson_toJson_of_sealed hn hc hu hb) Text.lone).mp ⟨_, hfails⟩ hsalted

end Vault

end PasswordVault
