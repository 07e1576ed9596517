import PasswordVault.Proofs.Vault.Refusal
import PasswordVault.Proofs.Vault.Run

/-!
# The password and its key are interchangeable

Who unlocked a vault once can go on with the password key. Whatever the vault is like, the key and
the password that gives it lead to the same payload, to the same updates and to the same failures;
only the refusal of a secret says which of the two it was. No update touches what the key is
stretched with, so a key stays good for all updates to come, whoever makes them.

* `Alike`: the outcomes for a password and for its key;
* `Interchangeable`, `interchangeable_of_passwordKey`: the two ways into one vault;
* `UpdatedFrom`, `kdf_of_updatedFrom`: what no number of updates touches;
* `interchangeable_of_updatedFrom`: **password and key after any updates**.
-/

namespace PasswordVault

variable {α : Type}

/-- The outcomes for a password and for its key: the same, but each refusal names its own secret. -/
inductive Alike : Except Error α → Except Error α → Prop where
  | refused : Alike (.error (.authentication .password)) (.error (.authentication .key))
  | failed {e : Error} (h : ∀ credential, e ≠ .authentication credential) :
    Alike (.error e) (.error e)
  | passed (a : α) : Alike (.ok a) (.ok a)

theorem Alike.self {x : Except Error α}
    (h : ∀ credential, x ≠ .error (.authentication credential)) : Alike x x := by
  cases x with
  | error e => exact .failed fun credential he => h credential (congrArg Except.error he)
  | ok a => exact .passed a

theorem Alike.ok_iff {x y : Except Error α} (h : Alike x y) (a : α) : x = .ok a ↔ y = .ok a := by
  cases h with
  | refused => exact ⟨nofun, nofun⟩
  | failed _ => exact Iff.rfl
  | passed _ => exact Iff.rfl

theorem Unreadable.ne_authentication {plaintext : Bytes} {e : Error} (h : Unreadable plaintext e)
    (credential : Credential) : e ≠ .authentication credential := by
  rintro rfl
  obtain ⟨-, h | ⟨_, h⟩⟩ := h <;> cases h

theorem Unsealable.ne_authentication {payload : Given Payload} {e : Error}
    (h : Unsealable payload e) (credential : Credential) : e ≠ .authentication credential := by
  rintro rfl
  obtain ⟨-, h | h | ⟨_, h⟩⟩ := h <;> cases h

namespace Vault

/-- **The password and the key are two ways into the vault**: the password gives the key, with which
the payload comes back, and both unlock and update alike. -/
structure Interchangeable (vault : Vault) (password : Text) (key : Bytes) : Prop where
  passwordKey : vault.kdf.passwordKey password = .ok key
  unlock (given : Given Vault) : accept given = .ok vault →
    Alike (Prod.fst <$> unlock given password) (unlockWithKey given key)
  unlock_eq_ok_iff (given : Given Vault) (payload : Payload) (key' : Bytes) :
    accept given = .ok vault → (Vault.unlock given password = .ok (payload, key') ↔
      key' = key ∧ unlockWithKey given key = .ok payload)
  update (given : Given Vault) (now : Instant) (payload : Given Payload) (tape : Tape) :
    accept given = .ok vault →
      Alike ((update given now password payload).outcome tape).1
        ((updateWithKey given now key payload).outcome tape).1 ∧
      ((update given now password payload).outcome tape).2 =
        ((updateWithKey given now key payload).outcome tape).2

/-! ### Two ways into one vault -/

theorem openPayload_of_openSlot? {vault : Vault} {key plaintext : Bytes}
    (h : vault.openSlot? .primary key = some plaintext) (credential : Credential) :
    vault.openPayload credential key = Payload.ofBytes plaintext := by
  rw [openPayload, h]
  rfl

theorem alike_openPayload (vault : Vault) (key : Bytes) :
    Alike (vault.openPayload .password key) (vault.openPayload .key key) := by
  unfold openPayload
  cases vault.openSlot? .primary key with
  | none => exact .refused
  | some plaintext =>
    exact Alike.self fun credential h => (unreadable_of_ofBytes h).ne_authentication credential rfl

theorem alike_updateUnder (vault : Vault) (now : Instant) (key : Bytes) (payload : Given Payload)
    (tape : Tape) :
    Alike ((vault.updateUnder now .password key payload).outcome tape).1
      ((vault.updateUnder now .key key payload).outcome tape).1 ∧
    ((vault.updateUnder now .password key payload).outcome tape).2 =
      ((vault.updateUnder now .key key payload).outcome tape).2 := by
  cases hs : vault.openSeed? key with
  | none =>
    rw [outcome_updateUnder_of_none hs, outcome_updateUnder_of_none hs]
    exact ⟨.refused, rfl⟩
  | some seed =>
    -- Behind the open seed both go the same way, on which no secret is refused.
    rw [updateUnder, updateUnder, outcome_ofExcept_bind_ok (demand_eq_ok_iff.mpr hs),
      outcome_ofExcept_bind_ok (demand_eq_ok_iff.mpr hs)]
    refine ⟨Alike.self fun credential h => ?_, rfl⟩
    rw [fst_outcome_ofExcept_bind] at h
    rcases Except.bind_eq_error_iff.mp h with h | ⟨plaintext, -, h⟩
    · exact (unsealable_of_plaintextOf h).ne_authentication credential rfl
    · cases h

theorem unlockWithKey_eq {vault : Vault} {given : Given Vault} (ha : accept given = .ok vault)
    (key : Bytes) : unlockWithKey given key = vault.openPayload .key key := by
  rw [unlockWithKey, ha]
  rfl

section PasswordKey
variable {vault : Vault} {password : Text} {key : Bytes}
  (hk : vault.kdf.passwordKey password = .ok key)
include hk

theorem unlock_eq {given : Given Vault} (ha : accept given = .ok vault) :
    unlock given password = (·, key) <$> vault.openPayload .password key := by
  rw [unlock, ha]
  change (vault.kdf.passwordKey password >>= _) = _
  rw [hk]
  rfl

/-- **A password and its key are interchangeable**, whatever the vault is like. -/
theorem interchangeable_of_passwordKey : vault.Interchangeable password key where
  passwordKey := hk
  unlock given ha := by
    have hfst : (Prod.fst <$> unlock given password) = vault.openPayload .password key := by
      rw [unlock_eq hk ha]
      cases vault.openPayload .password key <;> rfl
    rw [hfst, unlockWithKey_eq ha]
    exact alike_openPayload vault key
  unlock_eq_ok_iff given payload key' ha := by
    rw [unlock_eq hk ha, unlockWithKey_eq ha, ← (alike_openPayload vault key).ok_iff]
    cases vault.openPayload .password key with
    | error e => exact ⟨nofun, nofun⟩
    | ok p =>
      constructor
      · intro h
        obtain ⟨rfl, rfl⟩ := Prod.mk.inj (Except.ok.inj h)
        exact ⟨rfl, rfl⟩
      · rintro ⟨rfl, h⟩
        obtain rfl := Except.ok.inj h
        rfl
  update given now payload tape ha := by
    rw [outcome_update ha, outcome_ofExcept_bind_ok hk, outcome_updateWithKey ha]
    exact alike_updateUnder vault now key payload tape

end PasswordKey

/-! ### Any number of updates -/

/-- The vault comes from another by updates, each with a password or a key of its own, any of which
may be handed the vault in its stored form. -/
inductive UpdatedFrom (start : Vault) : Vault → Prop where
  | start : UpdatedFrom start start
  | stored {vault vault' : Vault} (hr : UpdatedFrom start vault)
      (ha : accept (.json vault.toJson) = .ok vault') : UpdatedFrom start vault'
  | update {vault vault' : Vault} {given : Given Vault} {now : Instant} {key : Bytes}
      {payload : Given Payload} {tape rest : Tape} {x : Attempt Vault}
      (hr : UpdatedFrom start vault) (ha : accept given = .ok vault)
      (hx : Updates vault key given now payload x) (h : Gives x tape vault' rest) :
      UpdatedFrom start vault'

/-- **No update touches what the key is stretched with.** -/
theorem kdf_of_updatedFrom {start vault : Vault} (h : UpdatedFrom start vault) :
    vault.kdf = start.kdf := by
  induction h with
  | start => rfl
  | stored _ ha ih => exact (agrees_of_accept (Or.inr rfl) ha).kdf.trans ih
  | update _ ha hx h ih => exact (fields_of_updates ha hx h).2.1.trans ih

/-- **Password and key stay interchangeable**: whatever updates a vault went through, the password
still gives the key that it gave before, and there is no telling the two apart, neither by what
comes back nor by what is sealed or drawn. -/
theorem interchangeable_of_updatedFrom {start vault : Vault} {password : Text} {key : Bytes}
    (hk : start.kdf.passwordKey password = .ok key) (h : UpdatedFrom start vault) :
    vault.Interchangeable password key :=
  interchangeable_of_passwordKey (kdf_of_updatedFrom h ▸ hk)

/-- After an update with the key, the password opens the new payload. -/
theorem interchangeable_of_updatedFrom_once : ∃ start vault key,
    start.openSlot? .primary key = some onePayload.toBytes ∧ UpdatedFrom start vault ∧
      unlock (.value vault) "first" = .ok (Payload.empty, key) := by
  obtain ⟨start, _, hn, -⟩ := exists_gives_sealNew (leastSettings .aesGcm) (by decide) rfl 0
    "first" ⟨onePayload.toBytes, List.replicate 32 7⟩ (Timestamp.ofInstant 0) ⟨fun _ => 1, 0⟩
  obtain ⟨key, hk, ho⟩ := holds_iff.mp (holds_of_gives_sealNew rfl hn)
  have hx : Updates start key (.value start) 1 (.json .null) _ := .withKey
  obtain ⟨vault, _, h, ho'⟩ :=
    exists_gives_of_updates rfl hx ho.openSeed? rfl (by decide) ⟨fun _ => 2, 0⟩
  have hu : UpdatedFrom start vault := .update .start rfl hx h
  have hkey : unlockWithKey (.value vault) key = .ok Payload.empty := by
    rw [unlockWithKey_eq rfl, openPayload_of_openSlot? ho'.primary, Payload.ofBytes_empty]
  exact ⟨start, vault, key, ho.primary, hu,
    ((interchangeable_of_updatedFrom hk hu).unlock_eq_ok_iff _ _ _ rfl).mpr ⟨rfl, hkey⟩⟩

end Vault

end PasswordVault
