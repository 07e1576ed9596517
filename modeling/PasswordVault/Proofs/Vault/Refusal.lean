import PasswordVault.Proofs.Vault.Rekey
import PasswordVault.Proofs.Vault.Update

/-!
# Refusals say nothing

Whoever presents a secret for a vault gets past it or is refused, and the refusal is the same
whatever the reason was: a salt that is no base64 or too short, costs that Argon2 rejects, a box
that is no base64, lengths that do not fit, a tag that does not match, a seed of the wrong length or
a phrase that is malformed. Nothing is assumed of the texts in the vault, and of its costs only that
they are words of 32 bits, which those of a vault that was read are. One cause is told from the
others: under a salt in order a password without a UTF-8 form is no wrong password.

* `Kdf.Stretches`, `Vault.Authentic`: when a password gives a key and when a key opens a slot;
* `Demands`: a check with a single refusal, `Demands.bind` for two in a row;
* `FailsClosed`: an operation behind such a check, and what may still go wrong then;
* `Vault.TurnsAway`: operations that end before a box is looked at;
* `Vault.fails_closed`: **every operation that takes a secret**;
* `Vault.not_always_fails_closed`: it does **not always fail closed**.
-/

namespace PasswordVault

variable {α β : Type}

/-! ### Checks with a single refusal -/

/-- The check accepts the values with a property and has one refusal for all other cases. -/
structure Demands (refusal : Error) (p : α → Prop) (x : Except Error α) : Prop where
  ok_iff (a : α) : x = .ok a ↔ p a
  eq_refusal {e : Error} : x = .error e → e = refusal

/-- The outcome is the refusal if nothing has the property that was demanded. Otherwise something
has it, and the outcome is a value or an error that comes later. -/
inductive FailsClosed (refusal : Error) (p : α → Prop) (later : α → Error → Prop) :
    Except Error β → Prop where
  | refused (h : ¬ ∃ a, p a) : FailsClosed refusal p later (.error refusal)
  | failed {a : α} {e : Error} (ha : p a) (he : later a e) : FailsClosed refusal p later (.error e)
  | passed {a : α} {b : β} (ha : p a) : FailsClosed refusal p later (.ok b)

theorem FailsClosed.eq_refusal {refusal : Error} {p : α → Prop} {later : α → Error → Prop}
    {x : Except Error β} (hx : FailsClosed refusal p later x) (h : ¬ ∃ a, p a) :
    x = .error refusal := by
  cases hx with
  | refused _ => rfl
  | failed ha _ => exact absurd ⟨_, ha⟩ h
  | passed ha => exact absurd ⟨_, ha⟩ h

namespace Demands
variable {refusal : Error} {p : α → Prop} {x : Except Error α}

theorem congr {q : α → Prop} (hx : Demands refusal p x) (h : ∀ a, p a ↔ q a) :
    Demands refusal q x :=
  ⟨fun a => (hx.ok_iff a).trans (h a), hx.eq_refusal⟩

/-- **One check after another**, with the same refusal. -/
theorem bind {q : α → β → Prop} {f : α → Except Error β} (hx : Demands refusal p x)
    (hf : ∀ a, p a → Demands refusal (q a) (f a)) :
    Demands refusal (fun b => ∃ a, p a ∧ q a b) (x >>= f) := by
  constructor
  · intro b
    rw [Except.bind_eq_ok_iff]
    constructor
    · rintro ⟨a, ha, hb⟩
      have ha := (hx.ok_iff a).mp ha
      exact ⟨a, ha, ((hf a ha).ok_iff b).mp hb⟩
    · rintro ⟨a, ha, hb⟩
      exact ⟨a, (hx.ok_iff a).mpr ha, ((hf a ha).ok_iff b).mpr hb⟩
  · intro e he
    rcases Except.bind_eq_error_iff.mp he with he | ⟨a, ha, he⟩
    · exact hx.eq_refusal he
    · exact (hf a ((hx.ok_iff a).mp ha)).eq_refusal he

/-- **What comes behind a check** is reached only by values that it accepts. -/
theorem failsClosed {later : α → Error → Prop} {f : α → Except Error β} (hx : Demands refusal p x)
    (hf : ∀ a e, p a → f a = .error e → later a e) : FailsClosed refusal p later (x >>= f) := by
  cases x with
  | error e =>
    obtain rfl := hx.eq_refusal rfl
    refine .refused ?_
    rintro ⟨a, ha⟩
    cases (hx.ok_iff a).mpr ha
  | ok a =>
    have ha := (hx.ok_iff a).mp rfl
    change FailsClosed refusal p later (f a)
    cases hb : f a with
    | error e => exact .failed ha (hf a e ha hb)
    | ok b => exact .passed ha

/-- **A check in front of a check** that has the same refusal. -/
theorem bind_failsClosed {γ : Type} {q : α → β → Prop} {later : β → Error → Prop}
    {f : α → Except Error γ} (hx : Demands refusal p x)
    (hf : ∀ a, p a → FailsClosed refusal (q a) later (f a)) :
    FailsClosed refusal (fun b => ∃ a, p a ∧ q a b) later (x >>= f) := by
  cases x with
  | error e =>
    obtain rfl := hx.eq_refusal rfl
    refine .refused ?_
    rintro ⟨b, a, ha, -⟩
    cases (hx.ok_iff a).mpr ha
  | ok a =>
    have ha := (hx.ok_iff a).mp rfl
    have hy := hf a ha
    change FailsClosed refusal _ later (f a)
    generalize f a = y at hy ⊢
    cases hy with
    | refused h =>
      refine .refused ?_
      rintro ⟨b, a', ha', hb⟩
      -- The first check accepts one value at most, so nothing else could pass the second.
      obtain rfl : a = a' := Except.ok.inj ((hx.ok_iff a').mpr ha')
      exact h ⟨b, hb⟩
    | failed hb he => exact .failed ⟨a, ha, hb⟩ he
    | passed hb => exact .passed ⟨a, ha, hb⟩

end Demands

theorem demands_pure (refusal : Error) (a : α) :
    Demands refusal (fun b => a = b) (pure a) :=
  ⟨fun _ => ⟨Except.ok.inj, congrArg Except.ok⟩, nofun⟩

/-- A value that may be missing, with a refusal if it is. -/
theorem demands_elim (refusal : Error) (x : Option α) :
    Demands refusal (fun a => x = some a) (x.elim (.error refusal) .ok) := by
  cases x with
  | none => exact ⟨fun _ => ⟨nofun, nofun⟩, fun h => (Except.error.inj h).symm⟩
  | some b => exact ⟨fun _ => ⟨fun h => congrArg some (Except.ok.inj h),
      fun h => congrArg Except.ok (Option.some.inj h)⟩, nofun⟩

theorem demands_demand (credential : Credential) (x : Option α) :
    Demands (.authentication credential) (fun a => x = some a) (demand credential x) := by
  have h := demands_elim (.authentication credential) x
  cases x <;> exact h

/-! ### Passwords -/

/-- The stored settings stretch the password to the key: their salt is base64 and long enough, the
password has a UTF-8 form, and Argon2 accepts their costs. -/
def Kdf.Stretches (kdf : Kdf) (password : Text) (key : Bytes) : Prop :=
  ∃ salt s, Base64.decode? kdf.salt = some salt ∧ password = .whole s ∧
    leastSaltLength ≤ salt.length ∧ kdf.costs.check = .ok () ∧
    Argon2.stretch kdf.costs (Utf8.encode s) salt = key

theorem stretchSecret_eq_ok_iff {costs : Argon2.Costs} {secret salt key : Bytes} :
    stretchSecret costs secret salt = .ok key ↔
      leastSaltLength ≤ salt.length ∧ costs.check = .ok () ∧
        Argon2.stretch costs secret salt = key := by
  unfold stretchSecret
  split_ifs with h
  · exact ⟨nofun, fun hs => absurd hs.1 (Nat.not_le.mpr h)⟩
  · rw [Argon2.derive, Except.bind_eq_ok_iff]
    constructor
    · rintro ⟨_, hc, hs⟩
      exact ⟨Nat.not_lt.mp h, hc, Except.ok.inj hs⟩
    · rintro ⟨-, hc, rfl⟩
      exact ⟨(), hc, rfl⟩

theorem Kdf.passwordKey_eq_ok_iff {kdf : Kdf} {password : Text} {key : Bytes} :
    kdf.passwordKey password = .ok key ↔ kdf.Stretches password key := by
  unfold passwordKey Stretches
  simp only [← stretchSecret_eq_ok_iff, exists_and_left, ← stretchPassword_eq_ok_iff]
  cases Base64.decode? kdf.salt with
  | none => exact ⟨nofun, nofun⟩
  | some salt =>
    simp only [Option.some.injEq, exists_eq_left']
    split <;> simp_all

theorem Kdf.demands_passwordKey {kdf : Kdf} (h : kdf.costs.AreWords) {password : Text}
    (hp : ¬ kdf.StumblesOver password) :
    Demands (.authentication .password) (kdf.Stretches password) (kdf.passwordKey password) :=
  ⟨fun _ => passwordKey_eq_ok_iff, eq_authentication_of_areWords h hp⟩

/-! ### Phrases -/

theorem Phrase.demands_recover (phrase : Text) :
    Demands .phrase (fun seed => recover phrase = .ok seed) (recover phrase) := by
  refine ⟨fun _ => Iff.rfl, fun {e} he => ?_⟩
  rw [recover] at he
  split at he
  · split at he
    · cases he
    · exact (Except.error.inj he).symm
  · exact (Except.error.inj he).symm

/-! ### What may go wrong behind a check -/

/-- The text is authentic and yet no payload: it is no JSON, or parts of it are refused. -/
def Unreadable (plaintext : Bytes) (e : Error) : Prop :=
  Payload.ofBytes plaintext = .error e ∧ (e = .notJson ∨ ∃ faults, e = .invalid faults)

/-- The caller's payload is refused or cannot be written. -/
def Unsealable (payload : Given Payload) (e : Error) : Prop :=
  Vault.plaintextOf payload = .error e ∧
    (e = .unwritable ∨ e = .tooDeep ∨ ∃ faults, e = .invalid faults)

theorem Checked.exists_faults_of_toExcept {x : Checked α} {e : Error}
    (h : x.toExcept = .error e) : ∃ faults, e = .invalid faults := by
  cases x with
  | accepted a => cases h
  | refused faults => exact ⟨faults, (Except.error.inj h).symm⟩

theorem unreadable_of_ofBytes {plaintext : Bytes} {e : Error}
    (h : Payload.ofBytes plaintext = .error e) : Unreadable plaintext e := by
  refine ⟨h, ?_⟩
  unfold Payload.ofBytes at h
  split at h
  · exact Or.inr (Checked.exists_faults_of_toExcept h)
  · exact Or.inl (Except.error.inj h).symm

/-- A payload that is read behind a check. -/
theorem Demands.failsClosed_read {refusal : Error} {p : Bytes → Prop} {x : Except Error Bytes}
    (hx : Demands refusal p x) (f : Payload → β) :
    FailsClosed refusal p Unreadable (x >>= fun plaintext => do
      let payload ← Payload.ofBytes plaintext
      return f payload) := by
  refine hx.failsClosed fun plaintext e _ he => ?_
  rcases Except.bind_eq_error_iff.mp he with he | ⟨payload, -, he⟩
  · exact unreadable_of_ofBytes he
  · cases he

theorem unsealable_of_plaintextOf {payload : Given Payload} {e : Error}
    (h : Vault.plaintextOf payload = .error e) : Unsealable payload e := by
  refine ⟨h, ?_⟩
  rcases Except.bind_eq_error_iff.mp h with h | ⟨p, -, h⟩
  · unfold Payload.accept at h
    split at h
    · cases h
    · exact Or.inr (Or.inr (Checked.exists_faults_of_toExcept h))
  · rcases Except.bind_eq_error_iff.mp h with h | ⟨text, -, h⟩
    · unfold Payload.write at h
      split_ifs at h
      · exact Or.inr (Or.inl (Except.error.inj h).symm)
      · exact Or.inl (Except.error.inj h).symm
    · cases h

namespace Vault

/-! ### Slots -/

/-- The key opens the slot to the text: all parts of the box are base64, key, nonce and tag have
their lengths, and the tag is that of the slot. -/
def Authentic (vault : Vault) (slot : Slot) (key plaintext : Bytes) : Prop :=
  ∃ parts, (vault.box slot).parts? = some parts ∧ parts.WellFormed key ∧
    vault.cipher.tag key parts.nonce slot.associatedData parts.ciphertext = parts.tag ∧
    vault.cipher.mask key parts.nonce parts.ciphertext = plaintext

theorem openSlot?_eq_some_iff {vault : Vault} {slot : Slot} {key plaintext : Bytes} :
    vault.openSlot? slot key = some plaintext ↔ vault.Authentic slot key plaintext := by
  unfold openSlot? Authentic
  rw [Box.openWith?, Option.bind_eq_bind, Option.bind_eq_some_iff]
  simp only [Sealed.openWith?, Option.ite_none_right_eq_some, Option.some.injEq, and_assoc]

section Demands
variable (vault : Vault)

theorem demands_openSlot? (credential : Credential) (slot : Slot) (key : Bytes) :
    Demands (.authentication credential) (vault.Authentic slot key)
      (demand credential (vault.openSlot? slot key)) :=
  (demands_demand _ _).congr fun _ => openSlot?_eq_some_iff

/-- The key opens the slot of the seed to a seed of the right length. -/
def WrapsSeed (key seed : Bytes) : Prop :=
  vault.Authentic .seed key seed ∧ seed.length = seedLength

theorem demands_openSeed? (credential : Credential) (key : Bytes) :
    Demands (.authentication credential) (vault.WrapsSeed key)
      (demand credential (vault.openSeed? key)) := by
  refine (demands_demand _ _).congr fun seed => ?_
  rw [openSeed?_eq_some_iff, openSlot?_eq_some_iff]
  rfl

/-- The password opens the contents: its key opens the payload and the seed. -/
def Contains (password : Text) (contents : Contents) : Prop :=
  ∃ key, vault.kdf.Stretches password key ∧ vault.Authentic .primary key contents.plaintext ∧
    vault.WrapsSeed key contents.seed

theorem demands_contents {vault : Vault} (hc : vault.kdf.costs.AreWords) {password : Text}
    (hp : ¬ vault.kdf.StumblesOver password) :
    Demands (.authentication .password) (vault.Contains password) (vault.contents password) := by
  have h := (Kdf.demands_passwordKey hc hp).bind fun key _ =>
    (vault.demands_openSlot? .password .primary key).bind fun plaintext _ =>
      (vault.demands_openSeed? .password key).bind fun seed _ =>
        demands_pure _ (⟨plaintext, seed⟩ : Contents)
  refine h.congr fun contents => ?_
  constructor
  · rintro ⟨key, hk, plaintext, hp, seed, hs, rfl⟩
    exact ⟨key, hk, hp, hs⟩
  · rintro ⟨key, hk, hp, hs⟩
    exact ⟨key, hk, _, hp, _, hs, rfl⟩

end Demands

/-! ### Operations -/

theorem failsClosed_updateUnder (vault : Vault) (now : Instant) (credential : Credential)
    (key : Bytes) (payload : Given Payload) (tape : Tape) :
    FailsClosed (.authentication credential) (vault.WrapsSeed key) (fun _ => Unsealable payload)
      ((vault.updateUnder now credential key payload).outcome tape).1 := by
  rw [updateUnder, fst_outcome_ofExcept_bind]
  refine (vault.demands_openSeed? credential key).failsClosed fun seed e _ he => ?_
  rw [fst_outcome_ofExcept_bind] at he
  rcases Except.bind_eq_error_iff.mp he with he | ⟨plaintext, -, he⟩
  · exact unsealable_of_plaintextOf he
  · cases he

/-- The password is turned away with an error, and nothing is drawn. -/
structure TurnsAway (given : Given Vault) (password : Text) (e : Error) : Prop where
  unlock : unlock given password = .error e
  update (now : Instant) (payload : Given Payload) (tape : Tape) :
    (update given now password payload).outcome tape = (.error e, tape)
  changePassword (settings : Settings) (now : Instant) (next : Text) (tape : Tape) :
    (changePassword settings given now password next).outcome tape = (.error e, tape)

/-- **A password that gives no key** is turned away. -/
theorem turnsAway_of_passwordKey {vault : Vault} {given : Given Vault}
    (ha : accept given = .ok vault) {password : Text} {e : Error}
    (hk : vault.kdf.passwordKey password = .error e) : TurnsAway given password e where
  unlock := by
    rw [Vault.unlock, ha]
    change (vault.kdf.passwordKey password >>= _) = _
    rw [hk]
    rfl
  update now payload tape := by
    rw [outcome_update ha, outcome_ofExcept_bind_error hk]
  changePassword settings now next tape := by
    have hc : vault.contents password = .error e := by
      rw [contents, hk]
      rfl
    rw [outcome_changePassword ha, outcome_ofExcept_bind_error hc]

/-- **Every operation that takes a secret** for a vault has one refusal, whatever is wrong with the
secret or with the vault, unless the derivation stumbles over a password: that is reported as such,
and nothing is drawn. Behind the refusal, opening can fail on an authentic text that is no payload,
an update on the payload that was handed over, and a change of the password on a new one without a
UTF-8 form. -/
theorem fails_closed {vault : Vault} {given : Given Vault} (ha : accept given = .ok vault)
    (hc : vault.kdf.costs.AreWords) :
    (∀ password, ¬ vault.kdf.StumblesOver password → FailsClosed (.authentication .password)
      (fun plaintext => ∃ key, vault.kdf.Stretches password key ∧
        vault.Authentic .primary key plaintext)
      Unreadable (unlock given password)) ∧
    (∀ key, FailsClosed (.authentication .key) (vault.Authentic .primary key) Unreadable
      (unlockWithKey given key)) ∧
    (∀ phrase, FailsClosed .phrase
      (fun plaintext => ∃ seed, Phrase.recover phrase = .ok seed ∧
        vault.Authentic .recovery (recoveryKey seed) plaintext)
      Unreadable (unlockWithPhrase given phrase)) ∧
    (∀ now password payload tape, ¬ vault.kdf.StumblesOver password →
      FailsClosed (.authentication .password)
        (fun seed => ∃ key, vault.kdf.Stretches password key ∧ vault.WrapsSeed key seed)
        (fun _ => Unsealable payload) ((update given now password payload).outcome tape).1) ∧
    (∀ now key payload tape, FailsClosed (.authentication .key) (vault.WrapsSeed key)
      (fun _ => Unsealable payload) ((updateWithKey given now key payload).outcome tape).1) ∧
    (∀ settings now password next tape, settings.Valid → ¬ vault.kdf.StumblesOver password →
      FailsClosed (.authentication .password) (vault.Contains password)
        (fun _ e => e = .unencodable ∧ next.isWhole = false)
        ((changePassword settings given now password next).outcome tape).1) ∧
    (∀ password, vault.kdf.StumblesOver password → TurnsAway given password .unencodable) ∧
    (Error.authentication .password).message = "Invalid password" ∧
    (Error.authentication .key).message = "Invalid key" ∧
    Error.phrase.message = "Invalid recovery phrase" := by
  refine ⟨fun password hp => ?_, fun key => ?_, fun phrase => ?_,
    fun now password payload tape hp => ?_, fun now key payload tape => ?_,
    fun settings now password next tape hs hp => ?_,
    fun password hp => ?_, by decide, by decide, by decide⟩
  · rw [unlock, ha]
    refine (Kdf.demands_passwordKey hc hp).bind_failsClosed fun key _ => ?_
    rw [openPayload, bind_assoc]
    exact (vault.demands_openSlot? .password .primary key).failsClosed_read (·, key)
  · rw [unlockWithKey, ha]
    exact (vault.demands_openSlot? .key .primary key).failsClosed fun _ _ _ => unreadable_of_ofBytes
  · rw [unlockWithPhrase, ha]
    refine (Phrase.demands_recover phrase).bind_failsClosed fun seed _ => ?_
    have h := ((demands_elim .phrase (vault.openSlot? .recovery (recoveryKey seed))).congr
      fun _ => openSlot?_eq_some_iff).failsClosed_read (·, seed)
    cases ho : vault.openSlot? .recovery (recoveryKey seed) <;> rw [ho] at h <;> exact h
  · rw [outcome_update ha, fst_outcome_ofExcept_bind]
    exact (Kdf.demands_passwordKey hc hp).bind_failsClosed fun key _ =>
      failsClosed_updateUnder vault now .password key payload tape
  · rw [outcome_updateWithKey ha]
    exact failsClosed_updateUnder vault now .key key payload tape
  · rw [outcome_changePassword ha, fst_outcome_ofExcept_bind]
    refine (demands_contents hc hp).failsClosed fun contents e _ he => ?_
    cases hn : next.isWhole with
    | true =>
      obtain ⟨s, rfl⟩ := Text.isWhole_iff.mp hn
      obtain ⟨vault', rest, h⟩ := exists_gives_sealNew_of_valid hs now s contents vault.created tape
      rw [h] at he
      cases he
    | false =>
      rw [outcome_sealNew_broken hs.leastSaltLength_le hn] at he
      exact ⟨(Except.error.inj he).symm, rfl⟩
  · exact turnsAway_of_passwordKey ha (Kdf.passwordKey_eq_unencodable_iff.mpr hp)

/-- A wreck with costs that Argon2 does not take. -/
def spoiled : Vault :=
  wreck.withKdf ⟨4294967295, 0, 7⟩ (some (Base64.encode (List.replicate 16 9)))

/-- A password and a key of no length are refused alike. -/
theorem fails_closed_of_spoiled :
    unlock (.value spoiled) "password" = .error (.authentication .password) ∧
      unlockWithKey (.value spoiled) [] = .error (.authentication .key) := by
  have ha : accept (.value spoiled) = .ok spoiled := rfl
  obtain ⟨hpassword, hkey, -⟩ := fails_closed ha (by decide)
  have hp := Kdf.not_stumblesOver_whole spoiled.kdf "password"
  refine ⟨(hpassword "password" hp).eq_refusal ?_, (hkey []).eq_refusal ?_⟩
  · rintro ⟨_, _, ⟨_, _, -, -, -, hcheck, -⟩, -⟩
    exact absurd hcheck (by decide)
  · rintro ⟨_, _, -, ⟨hl, -⟩, -⟩
    exact absurd hl (by decide)

/-- An operation does **not always fail closed**: a password without a UTF-8 form is not refused as
a wrong one. -/
theorem not_always_fails_closed : ¬ ∀ (vault : Vault) (given : Given Vault),
    accept given = .ok vault → vault.kdf.costs.InBounds → ∀ password,
      FailsClosed (.authentication .password)
        (fun plaintext => ∃ key, vault.kdf.Stretches password key ∧
          vault.Authentic .primary key plaintext)
        Unreadable (unlock given password) := by
  intro h
  let vault := wreck.withKdf ⟨8, 1, 1⟩ (some (Base64.encode (List.replicate 16 9)))
  have ha : accept (.value vault) = .ok vault := rfl
  have hp : vault.kdf.StumblesOver Text.lone := ⟨⟨_, Base64.writes_encode _, by decide⟩, rfl⟩
  have haway := turnsAway_of_passwordKey ha (Kdf.passwordKey_eq_unencodable_iff.mpr hp)
  have hclosed := h vault _ ha ⟨by decide, by decide, by decide, by decide⟩ Text.lone
  rw [haway.unlock] at hclosed
  cases hclosed with
  | failed _ hlater =>
    obtain ⟨-, hlater | ⟨faults, hlater⟩⟩ := hlater
    · cases hlater
    · cases hlater

end Vault

end PasswordVault
