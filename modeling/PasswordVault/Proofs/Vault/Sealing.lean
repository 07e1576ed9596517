import PasswordVault.Proofs.Vault.Key
import PasswordVault.Proofs.Vault.Payload
import PasswordVault.Proofs.Vault.Stored
import PasswordVault.Vault.Opening
import PasswordVault.Vault.Sealing

/-!
# What a sealed vault holds

Every operation that changes a vault seals its three boxes anew. Afterwards the password opens the
text of the payload and the seed, and the seed opens the same text.

* `Holds`: what a vault has to give for its password and for its seed, `OpensTo` for its key;
* `opensTo_sealContents`, `holds_sealContents`: three boxes that were sealed together;
* `holds_of_gives_create`, `holds_of_gives_createWith`, `holds_of_gives_update`,
  `holds_of_gives_updateWithKey`, `holds_of_gives_changePassword`: **what each operation leaves**;
* `recovered_of_unlockWithPhrase`: what a recovery phrase opens.
-/

namespace PasswordVault.Vault

/-- The password key opens the text of a payload and a seed, and the key of the seed opens the same
text. -/
def Holds (vault : Vault) (password : Text) (plaintext seed : Bytes) : Prop :=
  ∃ key phraseKey, vault.kdf.passwordKey password = .ok key ∧ seedKey seed = .ok phraseKey ∧
    vault.openSlot? .primary key = some plaintext ∧
    vault.openSlot? .recovery phraseKey = some plaintext ∧
    vault.openSlot? .seed key = some seed

/-- The key opens a text and a seed, and the key of the seed opens the same text. -/
structure OpensTo (vault : Vault) (key plaintext seed : Bytes) : Prop where
  primary : vault.openSlot? .primary key = some plaintext
  recovery : ∃ phraseKey, seedKey seed = .ok phraseKey ∧
    vault.openSlot? .recovery phraseKey = some plaintext
  seed : vault.openSlot? .seed key = some seed

/-! ### Opening -/

theorem holds_iff {vault : Vault} {password : Text} {plaintext seed : Bytes} :
    vault.Holds password plaintext seed ↔
      ∃ key, vault.kdf.passwordKey password = .ok key ∧ vault.OpensTo key plaintext seed := by
  constructor
  · rintro ⟨key, phraseKey, hk, hs, hp, hr, hw⟩
    exact ⟨key, hk, hp, ⟨phraseKey, hs, hr⟩, hw⟩
  · rintro ⟨key, hk, hp, ⟨phraseKey, hs, hr⟩, hw⟩
    exact ⟨key, phraseKey, hk, hs, hp, hr, hw⟩

theorem openSeed?_eq_some_iff {vault : Vault} {key seed : Bytes} :
    vault.openSeed? key = some seed ↔
      vault.openSlot? .seed key = some seed ∧ seed.length = seedLength := by
  unfold openSeed?
  cases h : vault.openSlot? .seed key with
  | none => exact ⟨nofun, nofun⟩
  | some s =>
    change (if s.length = seedLength then some s else none) = _ ↔ _
    rw [Option.ite_none_right_eq_some, Option.some_inj, and_comm]
    exact and_congr_right fun e => e ▸ Iff.rfl

theorem OpensTo.openSeed? {vault : Vault} {key plaintext seed : Bytes}
    (h : vault.OpensTo key plaintext seed) : vault.openSeed? key = some seed := by
  obtain ⟨_, hs, -⟩ := h.recovery
  exact openSeed?_eq_some_iff.mpr ⟨h.seed, (seedKey_eq_ok_iff.mp hs).1⟩

/-- What the key of the password opens. -/
theorem Holds.opensTo {vault : Vault} {password : Text} {plaintext seed key : Bytes}
    (h : vault.Holds password plaintext seed) (hk : vault.kdf.passwordKey password = .ok key) :
    vault.OpensTo key plaintext seed := by
  obtain ⟨key', hk', ho⟩ := holds_iff.mp h
  obtain rfl := Except.ok.inj (hk'.symm.trans hk)
  exact ho

theorem Holds.of_passwordKey {vault : Vault} {password : Text} {plaintext seed key : Bytes}
    (h : vault.Holds password plaintext seed) (hk : vault.kdf.passwordKey password = .ok key) :
    vault.openSlot? .primary key = some plaintext ∧ vault.openSeed? key = some seed :=
  ⟨(h.opensTo hk).primary, (h.opensTo hk).openSeed?⟩

theorem demand_eq_ok_iff {α : Type} {credential : Credential} {x : Option α} {a : α} :
    demand credential x = .ok a ↔ x = some a := by
  cases x with
  | none => exact ⟨nofun, nofun⟩
  | some b =>
    constructor
    · intro h
      exact congrArg some (Except.ok.inj h)
    · intro h
      obtain rfl := Option.some.inj h
      rfl

/-! ### Sealing -/

/-- The vault that is sealed from contents, box by box, and the tape after it. -/
theorem sealContents_eq (cipher : Cipher) (kdf : Kdf) (key : Bytes) (contents : Contents)
    (created updated : Timestamp) (tape : Tape) :
    sealContents cipher kdf key contents created updated tape =
      (⟨cipher, created, updated, kdf,
        (Box.sealWith cipher key Slot.primary.associatedData contents.plaintext tape).1,
        (Box.sealWith cipher (recoveryKey contents.seed) Slot.recovery.associatedData
          contents.plaintext (tape.advance nonceLength)).1,
        (Box.sealWith cipher key Slot.seed.associatedData contents.seed
          ((tape.advance nonceLength).advance nonceLength)).1⟩,
        ((tape.advance nonceLength).advance nonceLength).advance nonceLength) :=
  rfl

/-- **Three boxes that were sealed together** open to what was sealed. -/
theorem opensTo_sealContents {key seed : Bytes} (hk : key.length = keyLength)
    (hs : seed.length = seedLength) (cipher : Cipher) (kdf : Kdf) (plaintext : Bytes)
    (created updated : Timestamp) (tape : Tape) :
    (sealContents cipher kdf key ⟨plaintext, seed⟩ created updated tape).1.OpensTo key plaintext
      seed := by
  rw [sealContents_eq]
  refine ⟨?_, ⟨recoveryKey seed, seedKey_eq_ok_iff.mpr ⟨hs, rfl⟩, ?_⟩, ?_⟩
  · exact Box.openWith?_sealWith cipher hk _ _ _
  · exact Box.openWith?_sealWith cipher (length_recoveryKey seed) _ _ _
  · exact Box.openWith?_sealWith cipher hk _ _ _

theorem holds_sealContents {kdf : Kdf} {password : Text} {key plaintext seed : Bytes}
    (hk : kdf.passwordKey password = .ok key) (hs : seed.length = seedLength) (cipher : Cipher)
    (created updated : Timestamp) (tape : Tape) :
    (sealContents cipher kdf key ⟨plaintext, seed⟩ created updated tape).1.Holds password plaintext
      seed :=
  holds_iff.mpr ⟨key, hk, opensTo_sealContents (length_of_passwordKey hk) hs _ _ _ _ _ _⟩

theorem holds_of_gives_sealNew {settings : Settings} {now : Instant} {password : Text}
    {plaintext seed : Bytes} {created : Timestamp} {tape rest : Tape} {vault : Vault}
    (hs : seed.length = seedLength)
    (h : Gives (sealNew settings now password ⟨plaintext, seed⟩ created) tape vault rest) :
    vault.Holds password plaintext seed := by
  simp only [sealNew, gives_bind, gives_draw, gives_ofExcept] at h
  obtain ⟨salt, _, ⟨rfl, rfl⟩, key, _, ⟨hk, rfl⟩, rfl, -⟩ := h
  exact holds_sealContents (passwordKey_of_stretchPassword hk) hs _ _ _ _

/-- A payload that was handed over has a text if it is one that can be written. -/
theorem plaintextOf_eq_ok_iff {payload : Given Payload} {plaintext : Bytes} :
    plaintextOf payload = .ok plaintext ↔
      ∃ p, Payload.accept payload = .ok p ∧ p.Writable ∧ p.toBytes = plaintext := by
  simp only [plaintextOf, Except.bind_eq_ok_iff, Payload.write_eq_ok_iff]
  constructor
  · rintro ⟨p, hp, text, ⟨hw, rfl⟩, h⟩
    exact ⟨p, hp, hw, Except.ok.inj h⟩
  · rintro ⟨p, hp, hw, rfl⟩
    exact ⟨p, hp, p.toText, ⟨hw, rfl⟩, rfl⟩

/-! ### Operations -/

theorem holds_of_gives_create {settings : Settings} {now : Instant} {password : Text}
    {phrase : String} {tape rest : Tape} {vault : Vault}
    (h : Gives (create settings now password) tape (vault, phrase) rest) :
    vault.Holds password Payload.empty.toBytes (Phrase.stretch phrase) := by
  simp only [create, gives_bind, gives_draw, gives_pure] at h
  obtain ⟨⟨phrase', seed⟩, _, ⟨hgen, -⟩, v, _, hv, hp, -⟩ := h
  obtain ⟨rfl, rfl⟩ := Prod.mk.inj hp
  have hseed : seed = Phrase.stretch phrase' := by
    have := Phrase.seed_generate tape
    rwa [hgen] at this
  have hl : seed.length = seedLength := by rw [hseed, Phrase.length_stretch]
  rw [← hseed]
  exact holds_of_gives_sealNew hl hv

theorem holds_of_gives_createWith {settings : Settings} {now : Instant} {password : Text}
    {payload : Given Payload} {seed : Bytes} {tape rest : Tape} {vault : Vault}
    (h : Gives (createWith settings now password payload seed) tape vault rest) :
    ∃ p, Payload.accept payload = .ok p ∧ vault.Holds password p.toBytes seed := by
  simp only [createWith, gives_bind, gives_ofExcept] at h
  obtain ⟨_, _, ⟨hs, rfl⟩, plaintext, _, ⟨ht, rfl⟩, hv⟩ := h
  obtain ⟨p, hp, -, rfl⟩ := plaintextOf_eq_ok_iff.mp ht
  exact ⟨p, hp, holds_of_gives_sealNew (checkSeed_eq_ok_iff.mp hs) hv⟩

/-- An update under the password key seals the text of the payload and the old seed. -/
theorem gives_updateUnder_iff {vault vault' : Vault} {now : Instant} {credential : Credential}
    {key : Bytes} {payload : Given Payload} {tape rest : Tape} :
    Gives (vault.updateUnder now credential key payload) tape vault' rest ↔
      ∃ seed p, vault.openSeed? key = some seed ∧ Payload.accept payload = .ok p ∧ p.Writable ∧
        sealContents vault.cipher vault.kdf key ⟨p.toBytes, seed⟩ vault.created
          (Timestamp.ofInstant now) tape = (vault', rest) := by
  simp only [updateUnder, gives_bind, gives_ofExcept, gives_draw, demand_eq_ok_iff]
  constructor
  · rintro ⟨seed, _, ⟨hs, rfl⟩, plaintext, _, ⟨ht, rfl⟩, rfl, rfl⟩
    obtain ⟨p, hp, hw, rfl⟩ := plaintextOf_eq_ok_iff.mp ht
    exact ⟨seed, p, hs, hp, hw, rfl⟩
  · rintro ⟨seed, p, hs, hp, hw, h⟩
    have ht := plaintextOf_eq_ok_iff.mpr ⟨p, hp, hw, rfl⟩
    exact ⟨seed, tape, ⟨hs, rfl⟩, p.toBytes, tape, ⟨ht, rfl⟩, congrArg Prod.fst h,
      congrArg Prod.snd h⟩

/-- What an update under the password key leaves. -/
theorem holds_of_gives_updateUnder {vault vault' : Vault} {now : Instant} {credential : Credential}
    {password : Text} {key : Bytes} {payload : Given Payload} {tape rest : Tape}
    (hk : vault.kdf.passwordKey password = .ok key)
    (h : Gives (vault.updateUnder now credential key payload) tape vault' rest) :
    ∃ seed p, vault.openSeed? key = some seed ∧ Payload.accept payload = .ok p ∧
      vault'.Holds password p.toBytes seed := by
  obtain ⟨seed, p, hs, hp, -, h⟩ := gives_updateUnder_iff.mp h
  obtain rfl : _ = vault' := congrArg Prod.fst h
  exact ⟨seed, p, hs, hp, holds_sealContents hk (openSeed?_eq_some_iff.mp hs).2 _ _ _ _⟩

section Operation
variable {vault vault' : Vault} {given : Given Vault} (hg : given.Stands toJson vault)
include hg

theorem holds_of_gives_update {now : Instant} {password : Text} {payload : Given Payload}
    {tape rest : Tape} (h : Gives (update given now password payload) tape vault' rest) :
    ∃ key seed p, vault.kdf.passwordKey password = .ok key ∧ vault.openSeed? key = some seed ∧
      Payload.accept payload = .ok p ∧ vault'.Holds password p.toBytes seed := by
  simp only [update, gives_bind, gives_ofExcept] at h
  obtain ⟨v, _, ⟨hv, rfl⟩, key, _, ⟨hk, rfl⟩, hu⟩ := h
  have ha := agrees_of_accept hg hv
  obtain ⟨seed, p, hs, hp, hh⟩ := holds_of_gives_updateUnder hk hu
  exact ⟨key, seed, p, ha.kdf ▸ hk, ha.openSeed? key ▸ hs, hp, hh⟩

theorem passwordKey_of_unlock {password : Text} {payload : Payload} {key : Bytes}
    (h : unlock given password = .ok (payload, key)) :
    vault.kdf.passwordKey password = .ok key := by
  simp only [unlock, Except.bind_eq_ok_iff] at h
  obtain ⟨v, hv, key', hk, _, -, hr⟩ := h
  obtain ⟨-, rfl⟩ := Prod.mk.inj (Except.ok.inj hr)
  exact (agrees_of_accept hg hv).kdf ▸ hk

theorem holds_of_gives_updateWithKey {now : Instant} {password : Text} {key : Bytes}
    {payload : Given Payload} {tape rest : Tape} (hk : vault.kdf.passwordKey password = .ok key)
    (h : Gives (updateWithKey given now key payload) tape vault' rest) :
    ∃ seed p, vault.openSeed? key = some seed ∧ Payload.accept payload = .ok p ∧
      vault'.Holds password p.toBytes seed := by
  simp only [updateWithKey, gives_bind, gives_ofExcept] at h
  obtain ⟨v, _, ⟨hv, rfl⟩, hu⟩ := h
  have ha := agrees_of_accept hg hv
  obtain ⟨seed, p, hs, hp, hh⟩ := holds_of_gives_updateUnder (ha.kdf ▸ hk) hu
  exact ⟨seed, p, ha.openSeed? key ▸ hs, hp, hh⟩

theorem holds_of_gives_changePassword {settings : Settings} {now : Instant}
    {password next : Text} {tape rest : Tape}
    (h : Gives (changePassword settings given now password next) tape vault' rest) :
    ∃ key plaintext seed, vault.kdf.passwordKey password = .ok key ∧
      vault.openSlot? .primary key = some plaintext ∧ vault.openSeed? key = some seed ∧
      vault'.Holds next plaintext seed := by
  simp only [changePassword, gives_bind, gives_ofExcept] at h
  obtain ⟨v, _, ⟨hv, rfl⟩, contents, _, ⟨hc, rfl⟩, hn⟩ := h
  have ha := agrees_of_accept hg hv
  simp only [Vault.contents, Except.bind_eq_ok_iff, demand_eq_ok_iff] at hc
  obtain ⟨key, hk, plaintext, hp, seed, hs, hc⟩ := hc
  obtain rfl := Except.ok.inj hc
  exact ⟨key, plaintext, seed, ha.kdf ▸ hk, ha.openSlot? .primary key ▸ hp,
    ha.openSeed? key ▸ hs, holds_of_gives_sealNew (openSeed?_eq_some_iff.mp hs).2 hn⟩

/-- What a recovery phrase opens. -/
theorem recovered_of_unlockWithPhrase {phrase : Text} {payload : Payload} {seed : Bytes}
    (h : unlockWithPhrase given phrase = .ok (payload, seed)) :
    Phrase.recover phrase = .ok seed ∧
      ∃ plaintext, vault.openSlot? .recovery (recoveryKey seed) = some plaintext ∧
        Payload.ofBytes plaintext = .ok payload := by
  simp only [unlockWithPhrase, Except.bind_eq_ok_iff] at h
  obtain ⟨v, hv, seed', hs, hm⟩ := h
  have ha := agrees_of_accept hg hv
  cases ho : v.openSlot? .recovery (recoveryKey seed') with
  | none => rw [ho] at hm; cases hm
  | some plaintext =>
    rw [ho] at hm
    obtain ⟨p, hp, hr⟩ := Except.bind_eq_ok_iff.mp hm
    obtain ⟨rfl, rfl⟩ := Prod.mk.inj (Except.ok.inj hr)
    exact ⟨hs, plaintext, ha.openSlot? .recovery _ ▸ ho, hp⟩

end Operation

/-! ### Operations that succeed -/

theorem plaintextOf_of_writable {payload : Given Payload} {p : Payload}
    (hp : Payload.accept payload = .ok p) (hw : p.Writable) :
    plaintextOf payload = .ok p.toBytes :=
  plaintextOf_eq_ok_iff.mpr ⟨p, hp, hw, rfl⟩

/-- A vault is sealed under every string, by settings that Argon2 accepts. -/
theorem exists_gives_sealNew (settings : Settings) (hl : leastSaltLength ≤ settings.saltLength)
    (hc : settings.costs.check = .ok ()) (now : Instant) (password : String) (contents : Contents)
    (created : Timestamp) (tape : Tape) :
    ∃ vault rest, Gives (sealNew settings now password contents created) tape vault rest ∧
      vault.created = created ∧ vault.updated = Timestamp.ofInstant now ∧
      ∃ salt, vault.kdf = ⟨Base64.encode salt, settings.costs⟩ := by
  have hk (salt : Bytes) (hs : salt.length = settings.saltLength) :
      stretchPassword settings.costs password salt =
        .ok (Argon2.stretch settings.costs (Utf8.encode password) salt) := by
    rw [stretchPassword, if_neg (by omega)]
    change Argon2.derive settings.costs _ salt = _
    rw [Argon2.derive, hc]
    rfl
  have hkey := hk (draw settings.saltLength tape).1 (length_draw _ _)
  simp only [sealNew, gives_bind, gives_draw, gives_ofExcept]
  refine ⟨_, _, ⟨_, _, ⟨rfl, rfl⟩, _, _, ⟨hkey, rfl⟩, rfl, rfl⟩, rfl, rfl, ?_⟩
  exact ⟨(draw settings.saltLength tape).1, rfl⟩

/-- Under a password without a UTF-8 form nothing is sealed, and the salt is drawn all the same. -/
theorem outcome_sealNew_broken {settings : Settings} (hl : leastSaltLength ≤ settings.saltLength)
    {password : Text} (hp : password.isWhole = false) (now : Instant) (contents : Contents)
    (created : Timestamp) (tape : Tape) :
    (sealNew settings now password contents created).outcome tape =
      (.error .unencodable, tape.advance settings.saltLength) := by
  have hdraw : Gives (liftM (draw settings.saltLength)) tape
      (tape.slice tape.position settings.saltLength) (tape.advance settings.saltLength) :=
    gives_draw.mpr ⟨rfl, rfl⟩
  have hk : stretchPassword settings.costs password
      (tape.slice tape.position settings.saltLength) = .error .unencodable := by
    rw [stretchPassword, if_neg (by rw [Tape.length_slice]; omega),
      Utf8.encodeText_eq_error_iff.mpr ⟨hp, rfl⟩]
    rfl
  rw [sealNew, hdraw.outcome_bind]
  exact outcome_ofExcept_bind_error hk _ _

theorem outcome_create_broken {settings : Settings} (hl : leastSaltLength ≤ settings.saltLength)
    {password : Text} (hp : password.isWhole = false) (now : Instant) (tape : Tape) :
    (create settings now password).outcome tape =
      (.error .unencodable, tape.advance (Phrase.entropyLength + settings.saltLength)) := by
  have hgen : Gives (liftM Phrase.generate) tape (Phrase.generate tape).1
      (tape.advance Phrase.entropyLength) :=
    gives_draw.mpr ⟨rfl, rfl⟩
  rw [create, hgen.outcome_bind, ← Tape.advance_advance]
  exact outcome_bind_error (outcome_sealNew_broken hl hp now _ _ _) _

theorem gives_createWith_of_sealNew {settings : Settings} {now : Instant} {password : Text}
    {payload : Given Payload} {seed plaintext : Bytes} {tape rest : Tape} {vault : Vault}
    (hs : checkSeed seed = .ok ()) (hp : plaintextOf payload = .ok plaintext)
    (h : Gives (sealNew settings now password ⟨plaintext, seed⟩ (.ofInstant now)) tape vault rest) :
    Gives (createWith settings now password payload seed) tape vault rest := by
  simp only [createWith, gives_bind, gives_ofExcept]
  exact ⟨(), tape, ⟨hs, rfl⟩, plaintext, tape, ⟨hp, rfl⟩, h⟩

section Succeeds
variable {vault : Vault} {given : Given Vault} {password : Text} {plaintext seed : Bytes}
  (ha : accept given = .ok vault) (hh : vault.Holds password plaintext seed)
include ha hh

theorem exists_gives_update {payload : Given Payload} {written : Bytes}
    (hp : plaintextOf payload = .ok written) (now : Instant) (tape : Tape) :
    ∃ vault' rest, Gives (update given now password payload) tape vault' rest := by
  obtain ⟨key, _, hk, _⟩ := id hh
  obtain ⟨-, hs⟩ := hh.of_passwordKey hk
  simp only [update, updateUnder, gives_bind, gives_ofExcept, gives_draw, demand_eq_ok_iff]
  exact ⟨_, _, vault, tape, ⟨ha, rfl⟩, key, tape, ⟨hk, rfl⟩, seed, tape, ⟨hs, rfl⟩, written, tape,
    ⟨hp, rfl⟩, rfl, rfl⟩

theorem gives_changePassword_of_sealNew {settings : Settings} {now : Instant} {next : Text}
    {tape rest : Tape} {vault' : Vault}
    (h : Gives (sealNew settings now next ⟨plaintext, seed⟩ vault.created) tape vault' rest) :
    Gives (changePassword settings given now password next) tape vault' rest := by
  obtain ⟨key, _, hk, _⟩ := id hh
  obtain ⟨hp, hs⟩ := hh.of_passwordKey hk
  have hc : vault.contents password = .ok ⟨plaintext, seed⟩ := by
    simp only [Vault.contents, Except.bind_eq_ok_iff, demand_eq_ok_iff]
    exact ⟨key, hk, plaintext, hp, seed, hs, rfl⟩
  simp only [changePassword, gives_bind, gives_ofExcept]
  exact ⟨vault, tape, ⟨ha, rfl⟩, _, tape, ⟨hc, rfl⟩, h⟩

end Succeeds

end PasswordVault.Vault
