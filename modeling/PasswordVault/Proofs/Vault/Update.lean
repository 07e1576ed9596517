import PasswordVault.Proofs.Vault.Sealing

/-!
# An update of any vault

An update reads four things of a vault: cipher, derivation, creation time and the sealed seed. If
the seed opens under the key, everything else is made anew, so an update repairs boxes that were
damaged or sealed for something else. An update has no settings: cipher and costs stay those of the
vault.

* `Updates`: the updates under a key, for who has the key or a password that gives it;
* `SameSeed`: two vaults that are the same for an update;
* `gives_iff_of_updates`, `update_congr`, `updateWithKey_congr`: what an update does and what it
  depends on;
* `update_of_any_vault`: **when an update succeeds, what it leaves and what it depends on**.
-/

namespace PasswordVault.Vault

/-- An update under the password key, for who has the key or a password that gives it. -/
inductive Updates (vault : Vault) (key : Bytes) (given : Given Vault) (now : Instant)
    (payload : Given Payload) : Attempt Vault → Prop where
  | withKey : Updates vault key given now payload (updateWithKey given now key payload)
  | withPassword {password : Text} (h : vault.kdf.passwordKey password = .ok key) :
    Updates vault key given now payload (update given now password payload)

/-- The vaults have the same seed, sealed in the same way, and the same creation time. -/
structure SameSeed (vault other : Vault) : Prop where
  cipher : vault.cipher = other.cipher
  kdf : vault.kdf = other.kdf
  created : vault.created = other.created
  wrappedSeed : vault.wrappedSeed = other.wrappedSeed

/-! ### What an update does -/

/-- Where no seed opens, an update draws nothing. -/
theorem outcome_updateUnder_of_none {vault : Vault} {key : Bytes} (h : vault.openSeed? key = none)
    (now : Instant) (credential : Credential) (payload : Given Payload) (tape : Tape) :
    (vault.updateUnder now credential key payload).outcome tape =
      (.error (.authentication credential), tape) :=
  outcome_ofExcept_bind_error (by rw [h]; rfl) _ tape

section Accepted
variable {vault : Vault} {given : Given Vault} (ha : accept given = .ok vault)
include ha

theorem outcome_updateWithKey (now : Instant) (key : Bytes) (payload : Given Payload)
    (tape : Tape) : (updateWithKey given now key payload).outcome tape =
      (vault.updateUnder now .key key payload).outcome tape :=
  outcome_ofExcept_bind_ok ha _ tape

theorem outcome_update (now : Instant) (password : Text) (payload : Given Payload)
    (tape : Tape) : (update given now password payload).outcome tape =
      Attempt.outcome (Attempt.ofExcept (vault.kdf.passwordKey password) >>= fun key =>
        vault.updateUnder now .password key payload) tape :=
  outcome_ofExcept_bind_ok ha _ tape

/-- An update seals the text of the payload and the old seed under the old keys. -/
theorem gives_iff_of_updates {vault' : Vault} {key : Bytes} {now : Instant}
    {payload : Given Payload} {tape rest : Tape} {x : Attempt Vault}
    (hx : Updates vault key given now payload x) :
    Gives x tape vault' rest ↔
      ∃ seed p, vault.openSeed? key = some seed ∧ Payload.accept payload = .ok p ∧ p.Writable ∧
        sealContents vault.cipher vault.kdf key ⟨p.toBytes, seed⟩ vault.created
          (Timestamp.ofInstant now) tape = (vault', rest) := by
  cases hx with
  | withKey =>
    rw [Gives, outcome_updateWithKey ha]
    exact gives_updateUnder_iff
  | withPassword hk =>
    rw [Gives, outcome_update ha, outcome_ofExcept_bind_ok hk]
    exact gives_updateUnder_iff

section Gives
variable {key : Bytes} {now : Instant} {payload : Given Payload} {x : Attempt Vault}
  (hx : Updates vault key given now payload x)
include hx

/-- What an update keeps. -/
theorem fields_of_updates {vault' : Vault} {tape rest : Tape} (h : Gives x tape vault' rest) :
    vault'.cipher = vault.cipher ∧ vault'.kdf = vault.kdf ∧ vault'.created = vault.created ∧
      vault'.updated = Timestamp.ofInstant now := by
  obtain ⟨_, _, -, -, -, h⟩ := (gives_iff_of_updates ha hx).mp h
  obtain rfl : _ = vault' := congrArg Prod.fst h
  exact ⟨rfl, rfl, rfl, rfl⟩

theorem opensTo_of_updates {vault' : Vault} {tape rest : Tape} (h : Gives x tape vault' rest) :
    ∃ seed p, vault.openSeed? key = some seed ∧ Payload.accept payload = .ok p ∧
      vault'.OpensTo key p.toBytes seed := by
  obtain ⟨seed, p, hs, hp, -, h⟩ := (gives_iff_of_updates ha hx).mp h
  obtain rfl : _ = vault' := congrArg Prod.fst h
  obtain ⟨hseed, hl⟩ := openSeed?_eq_some_iff.mp hs
  have hk : key.length = keyLength := Box.length_of_openWith? hseed
  exact ⟨seed, p, hs, hp, opensTo_sealContents hk hl _ _ _ _ _ _⟩

/-- An update succeeds where a seed opens and the payload can be written. -/
theorem exists_gives_of_updates {seed : Bytes} {p : Payload} (hs : vault.openSeed? key = some seed)
    (hp : Payload.accept payload = .ok p) (hw : p.Writable) (tape : Tape) :
    ∃ vault' rest, Gives x tape vault' rest ∧ vault'.OpensTo key p.toBytes seed := by
  obtain ⟨vault', rest, h⟩ : ∃ vault' rest, Gives x tape vault' rest :=
    ⟨_, _, (gives_iff_of_updates ha hx).mpr ⟨seed, p, hs, hp, hw, rfl⟩⟩
  obtain ⟨seed', p', hs', hp', ho⟩ := opensTo_of_updates ha hx h
  obtain rfl := Option.some.inj (hs.symm.trans hs')
  obtain rfl := Except.ok.inj (hp.symm.trans hp')
  exact ⟨vault', rest, h, ho⟩

end Gives

end Accepted

/-! ### What an update depends on -/

theorem SameSeed.openSeed? {vault other : Vault} (h : vault.SameSeed other) (key : Bytes) :
    vault.openSeed? key = other.openSeed? key := by
  have hs : vault.openSlot? .seed key = other.openSlot? .seed key :=
    openSlot?_congr h.cipher .seed h.wrappedSeed key
  rw [Vault.openSeed?, Vault.openSeed?, hs]

theorem SameSeed.updateUnder {vault other : Vault} (h : vault.SameSeed other) (now : Instant)
    (credential : Credential) (key : Bytes) (payload : Given Payload) :
    vault.updateUnder now credential key payload =
      other.updateUnder now credential key payload := by
  rw [Vault.updateUnder, Vault.updateUnder, h.openSeed?, h.cipher, h.kdf, h.created]

section SameSeed
variable {vault other : Vault} {given given' : Given Vault} (ha : accept given = .ok vault)
  (ha' : accept given' = .ok other) (h : vault.SameSeed other)
include ha ha' h

theorem updateWithKey_congr (now : Instant) (key : Bytes) (payload : Given Payload)
    (tape : Tape) : (updateWithKey given now key payload).outcome tape =
      (updateWithKey given' now key payload).outcome tape := by
  rw [outcome_updateWithKey ha, outcome_updateWithKey ha', h.updateUnder]

theorem update_congr (now : Instant) (password : Text) (payload : Given Payload)
    (tape : Tape) : (update given now password payload).outcome tape =
      (update given' now password payload).outcome tape := by
  rw [outcome_update ha, outcome_update ha', h.kdf]
  simp only [h.updateUnder]

end SameSeed

/-! ### The result -/

/-- **An update of any vault** succeeds if and only if a seed opens under the key and the payload
can be written. It leaves cipher, derivation and creation time, and the key and the seed both open
the new text afterwards. Nothing else of the vault matters, whatever the outcome. -/
theorem update_of_any_vault {vault : Vault} {key : Bytes} {given : Given Vault} {now : Instant}
    {payload : Given Payload} {x : Attempt Vault} (ha : accept given = .ok vault)
    (hx : Updates vault key given now payload x) :
    (∀ tape, (∃ vault' rest, Gives x tape vault' rest) ↔
      (∃ seed, vault.openSlot? .seed key = some seed ∧ seed.length = seedLength) ∧
        ∃ p, Payload.accept payload = .ok p ∧ p.Writable) ∧
    (∀ tape vault' rest, Gives x tape vault' rest →
      vault'.cipher = vault.cipher ∧ vault'.kdf = vault.kdf ∧ vault'.created = vault.created ∧
      vault'.updated = Timestamp.ofInstant now ∧
      ∃ seed p, vault.openSlot? .seed key = some seed ∧ seed.length = seedLength ∧
        Payload.accept payload = .ok p ∧ vault'.OpensTo key p.toBytes seed) ∧
    (∀ other given', accept given' = .ok other → vault.SameSeed other → ∀ tape,
      (updateWithKey given now key payload).outcome tape =
        (updateWithKey given' now key payload).outcome tape ∧
      ∀ password, (update given now password payload).outcome tape =
        (update given' now password payload).outcome tape) := by
  refine ⟨fun tape => ?_, fun tape vault' rest h => ?_, fun other given' ha' h tape =>
    ⟨updateWithKey_congr ha ha' h now key payload tape,
      fun password => update_congr ha ha' h now password payload tape⟩⟩
  · simp only [gives_iff_of_updates ha hx, openSeed?_eq_some_iff]
    constructor
    · rintro ⟨_, _, seed, p, hs, hp, hw, -⟩
      exact ⟨⟨seed, hs⟩, p, hp, hw⟩
    · rintro ⟨⟨seed, hs⟩, p, hp, hw⟩
      exact ⟨_, _, seed, p, hs, hp, hw, rfl⟩
  · obtain ⟨hcipher, hkdf, hcreated, hupdated⟩ := fields_of_updates ha hx h
    obtain ⟨seed, p, hs, hp, ho⟩ := opensTo_of_updates ha hx h
    obtain ⟨hseed, hl⟩ := openSeed?_eq_some_iff.mp hs
    exact ⟨hcipher, hkdf, hcreated, hupdated, seed, p, hseed, hl, hp, ho⟩

/-- A vault of which only the seed is left: both copies of the payload are no boxes at all. -/
def wreck : Vault where
  cipher := .chaCha
  created := Timestamp.ofInstant 0
  updated := Timestamp.ofInstant 0
  kdf := ⟨"no salt", ⟨8, 1, 1⟩⟩
  primary := ⟨"", "", ""⟩
  recovery := ⟨"", "", ""⟩
  wrappedSeed := (Box.sealWith .chaCha (List.replicate 32 5) Slot.seed.associatedData
    (List.replicate 32 7) ⟨fun _ => 1, 0⟩).1

/-- With its key a wreck is repaired. -/
theorem update_of_wreck :
    ∃ vault rest, accept (.value wreck) = .ok wreck ∧
      Gives (updateWithKey (.value wreck) 1 (List.replicate 32 5) (.json .null)) ⟨fun _ => 2, 0⟩
        vault rest ∧
      vault.openSlot? .primary (List.replicate 32 5) = some Payload.empty.toBytes := by
  have ha : accept (.value wreck) = .ok wreck := rfl
  have hp : Payload.accept (.json .null) = .ok Payload.empty := rfl
  have hseed : wreck.openSlot? .seed (List.replicate 32 5) = some (List.replicate 32 7) :=
    Box.openWith?_sealWith .chaCha (by decide) _ _ _
  have hx : Updates wreck (List.replicate 32 5) (.value wreck) 1 (.json .null)
      (updateWithKey (.value wreck) 1 (List.replicate 32 5) (.json .null)) := .withKey
  obtain ⟨hsucceeds, hleaves, -⟩ := update_of_any_vault ha hx
  obtain ⟨vault, rest, h⟩ := (hsucceeds ⟨fun _ => 2, 0⟩).mpr
    ⟨⟨_, hseed, by decide⟩, _, hp, by decide⟩
  obtain ⟨-, -, -, -, seed, p, -, -, hp', ho⟩ := hleaves _ _ _ h
  obtain rfl := Except.ok.inj (hp.symm.trans hp')
  exact ⟨vault, rest, ha, h, ho.primary⟩

end PasswordVault.Vault
