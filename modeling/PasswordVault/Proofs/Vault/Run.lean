import PasswordVault.Proofs.Vault.Sealing

/-!
# A vault in use

A vault is created and then changed, again and again: with its password, with the key that the
password gave, or after its recovery phrase was typed in. It may be handed on as it is or in its
stored form, and every step has settings, a clock and random bytes of its own. At every point the
password and the seed open the same text.

An authenticated cipher promises that no box opens for a secret that is not the vault's own. This is
no fact about the ciphers that could be proved here, so it is said of the secrets of a run that they
are `Genuine`; a run whose secrets are not leaves a consistent vault all the same.

* `Takes`: one step, `Run`: any number of them;
* `Operation.genuine_of_own`: the vault's own secrets are genuine;
* `exists_holds_of_takes`, `holds_of_takes`: what one step leaves;
* `writable_of_run`: what was written last has a text;
* `run_holds`: **what a run leaves**.
-/

namespace PasswordVault.Vault

/-- A vault in use, with the password that was used or set last, the payload that was written last
and the seed of the first step. -/
structure State where
  vault : Vault
  password : Text
  written : Payload
  seed : Bytes

/-- What is done with a vault, and the secret for it: another payload with the password or with the
key it gives, or another password, also for who has the recovery phrase. -/
inductive Operation where
  | update (password : Text) (payload : Given Payload)
  | updateWithKey (password : Text) (payload : Given Payload)
  | changePassword (password next : Text)
  | reset (phrase next : Text)

/-- A vault that was just created. -/
inductive Starts : State → Prop where
  | create {settings : Settings} {now : Instant} {password : Text} {phrase : String}
      {tape rest : Tape} {vault : Vault}
      (h : Gives (create settings now password) tape (vault, phrase) rest) :
      Starts ⟨vault, password, Payload.empty, Phrase.stretch phrase⟩
  | createWith {settings : Settings} {now : Instant} {password : Text} {payload : Given Payload}
      {written : Payload} {seed : Bytes} {tape rest : Tape} {vault : Vault}
      (hp : Payload.accept payload = .ok written)
      (h : Gives (createWith settings now password payload seed) tape vault rest) :
      Starts ⟨vault, password, written, seed⟩

/-- **One step**: an operation that succeeds, with any settings, at any time, on any tape. The key
comes from unlocking the vault, or an earlier one whose password was the same. -/
inductive Takes (s : State) : Operation → State → Prop where
  | update {given : Given Vault} {now : Instant} {password : Text} {payload : Given Payload}
      {written : Payload} {tape rest : Tape} {vault : Vault} (hg : given.Stands toJson s.vault)
      (hp : Payload.accept payload = .ok written)
      (h : Gives (update given now password payload) tape vault rest) :
      Takes s (.update password payload) ⟨vault, password, written, s.seed⟩
  | updateWithKey {earlier vault : Vault} {given given' : Given Vault} {now : Instant}
      {password : Text} {opened written : Payload} {key : Bytes} {payload : Given Payload}
      {tape rest : Tape} (hk : earlier.kdf = s.vault.kdf) (hg : given.Stands toJson earlier)
      (hu : unlock given password = .ok (opened, key)) (hg' : given'.Stands toJson s.vault)
      (hp : Payload.accept payload = .ok written)
      (h : Gives (updateWithKey given' now key payload) tape vault rest) :
      Takes s (.updateWithKey password payload) ⟨vault, password, written, s.seed⟩
  | changePassword {settings : Settings} {given : Given Vault} {now : Instant}
      {password next : Text} {tape rest : Tape} {vault : Vault}
      (hg : given.Stands toJson s.vault)
      (h : Gives (changePassword settings given now password next) tape vault rest) :
      Takes s (.changePassword password next) ⟨vault, next, s.written, s.seed⟩
  | reset {settings : Settings} {given : Given Vault} {now : Instant} {phrase next : Text}
      {payload : Payload} {seed : Bytes} {tape rest : Tape} {vault : Vault}
      (hg : given.Stands toJson s.vault) (hu : unlockWithPhrase given phrase = .ok (payload, seed))
      (h : Gives (createWith settings now next (.value payload) seed) tape vault rest) :
      Takes s (.reset phrase next) ⟨vault, next, payload, s.seed⟩

/-- **Any number of steps**, each with the state before it, the last one first. -/
inductive Run (start : State) : List (State × Operation) → State → Prop where
  | nil : Run start [] start
  | cons {history : List (State × Operation)} {s s' : State} {o : Operation}
      (hr : Run start history s) (ht : Takes s o s') : Run start ((s, o) :: history) s'

/-- No secret but the vault's own opens one of its boxes. -/
def Operation.Genuine (s : State) : Operation → Prop
  | .update password _ | .updateWithKey password _ | .changePassword password _ =>
    ∀ key slot, s.vault.kdf.passwordKey password = .ok key →
      (s.vault.openSlot? slot key).isSome → s.vault.kdf.passwordKey s.password = .ok key
  | .reset phrase _ => ∀ seed, Phrase.recover phrase = .ok seed →
      (s.vault.openSlot? .recovery (recoveryKey seed)).isSome → seed = s.seed

/-- The secret is the password that was used or set last, or a phrase for the seed. -/
def Operation.Own (s : State) : Operation → Prop
  | .update password _ | .updateWithKey password _ | .changePassword password _ =>
    password = s.password
  | .reset phrase _ => Phrase.recover phrase = .ok s.seed

/-- The vault's own secrets are genuine, whatever the ciphers promise. -/
theorem Operation.genuine_of_own {s : State} {o : Operation} (h : o.Own s) : o.Genuine s := by
  cases o with
  | update password payload =>
    obtain rfl : password = s.password := h
    intro key slot hk _
    exact hk
  | updateWithKey password payload =>
    obtain rfl : password = s.password := h
    intro key slot hk _
    exact hk
  | changePassword password next =>
    obtain rfl : password = s.password := h
    intro key slot hk _
    exact hk
  | reset phrase next =>
    intro seed hs _
    exact Except.ok.inj (hs.symm.trans h)

/-! ### One step -/

theorem holds_of_starts {s : State} (h : Starts s) :
    s.vault.Holds s.password s.written.toBytes s.seed := by
  cases h with
  | create h =>
    have hh := holds_of_gives_create h
    dsimp only
    exact hh
  | createWith hp h =>
    obtain ⟨p, hp', hh⟩ := holds_of_gives_createWith h
    obtain rfl := Except.ok.inj (hp.symm.trans hp')
    exact hh

/-- A step leaves password and seed that open the same text, whatever the secret was. -/
theorem exists_holds_of_takes {s s' : State} {o : Operation} (h : Takes s o s') :
    ∃ plaintext seed, s'.vault.Holds s'.password plaintext seed := by
  cases h with
  | update hg hp h =>
    obtain ⟨_, seed, p, -, -, -, hh⟩ := holds_of_gives_update hg h
    exact ⟨_, _, hh⟩
  | updateWithKey hk hg hu hg' hp h =>
    have hkey := hk ▸ passwordKey_of_unlock hg hu
    obtain ⟨seed, p, -, -, hh⟩ := holds_of_gives_updateWithKey hg' hkey h
    exact ⟨_, _, hh⟩
  | changePassword hg h =>
    obtain ⟨_, plaintext, seed, -, -, -, hh⟩ := holds_of_gives_changePassword hg h
    exact ⟨_, _, hh⟩
  | reset hg hu h =>
    obtain ⟨p, -, hh⟩ := holds_of_gives_createWith h
    exact ⟨_, _, hh⟩

/-- **What a step leaves**: the text of the payload that was written last, for the password and for
the seed. -/
theorem holds_of_takes {s s' : State} {o : Operation} (h : Takes s o s') (ho : o.Genuine s)
    (hs : s.vault.Holds s.password s.written.toBytes s.seed) :
    s'.seed = s.seed ∧ s'.vault.Holds s'.password s'.written.toBytes s'.seed := by
  have hsome {key seed : Bytes} (h : s.vault.openSeed? key = some seed) :
      (s.vault.openSlot? .seed key).isSome := by
    rw [(openSeed?_eq_some_iff.mp h).1]; rfl
  cases h with
  | update hg hp h =>
    obtain ⟨key, seed, p, hk, hseed, hp', hh⟩ := holds_of_gives_update hg h
    obtain ⟨-, hown⟩ := hs.of_passwordKey (ho key .seed hk (hsome hseed))
    obtain rfl := Except.ok.inj (hp.symm.trans hp')
    obtain rfl := Option.some.inj (hseed.symm.trans hown)
    exact ⟨rfl, hh⟩
  | updateWithKey hk hg hu hg' hp h =>
    have hkey := hk ▸ passwordKey_of_unlock hg hu
    obtain ⟨seed, p, hseed, hp', hh⟩ := holds_of_gives_updateWithKey hg' hkey h
    obtain ⟨-, hown⟩ := hs.of_passwordKey (ho _ .seed hkey (hsome hseed))
    obtain rfl := Except.ok.inj (hp.symm.trans hp')
    obtain rfl := Option.some.inj (hseed.symm.trans hown)
    exact ⟨rfl, hh⟩
  | changePassword hg h =>
    obtain ⟨key, plaintext, seed, hk, hprimary, hseed, hh⟩ := holds_of_gives_changePassword hg h
    obtain ⟨hplain, hown⟩ := hs.of_passwordKey (ho key .seed hk (hsome hseed))
    obtain rfl := Option.some.inj (hprimary.symm.trans hplain)
    obtain rfl := Option.some.inj (hseed.symm.trans hown)
    exact ⟨rfl, hh⟩
  | reset hg hu h =>
    obtain ⟨hphrase, plaintext, ho', -⟩ := recovered_of_unlockWithPhrase hg hu
    obtain ⟨p, hp, hh⟩ := holds_of_gives_createWith h
    obtain rfl := ho _ hphrase (by rw [ho']; rfl)
    obtain rfl := Except.ok.inj hp
    exact ⟨rfl, hh⟩

theorem writable_of_plaintextOf {payload : Given Payload} {p : Payload} {plaintext : Bytes}
    (hp : Payload.accept payload = .ok p) (h : plaintextOf payload = .ok plaintext) :
    p.Writable := by
  obtain ⟨p', hp', hw, -⟩ := plaintextOf_eq_ok_iff.mp h
  obtain rfl := Except.ok.inj (hp.symm.trans hp')
  exact hw

theorem writable_of_gives_createWith {settings : Settings} {now : Instant} {password : Text}
    {payload : Given Payload} {p : Payload} {seed : Bytes} {tape rest : Tape} {vault : Vault}
    (hp : Payload.accept payload = .ok p)
    (h : Gives (createWith settings now password payload seed) tape vault rest) : p.Writable := by
  obtain ⟨_, -, h⟩ := gives_ofExcept_bind.mp h
  obtain ⟨plaintext, ht, -⟩ := gives_ofExcept_bind.mp h
  exact writable_of_plaintextOf hp ht

theorem writable_of_gives_updateUnder {before vault : Vault} {now : Instant}
    {credential : Credential} {key : Bytes} {payload : Given Payload} {p : Payload}
    {tape rest : Tape} (hp : Payload.accept payload = .ok p)
    (h : Gives (before.updateUnder now credential key payload) tape vault rest) : p.Writable := by
  obtain ⟨_, p', -, hp', hw, -⟩ := gives_updateUnder_iff.mp h
  obtain rfl := Except.ok.inj (hp.symm.trans hp')
  exact hw

theorem writable_of_starts {s : State} (h : Starts s) : s.written.Writable := by
  cases h with
  | create _ => exact (by decide : Payload.empty.Writable)
  | createWith hp h => exact writable_of_gives_createWith hp h

theorem writable_of_takes {s s' : State} {o : Operation} (h : Takes s o s')
    (hs : s.written.Writable) : s'.written.Writable := by
  cases h with
  | update _ hp h =>
    obtain ⟨_, -, h⟩ := gives_ofExcept_bind.mp h
    obtain ⟨_, -, h⟩ := gives_ofExcept_bind.mp h
    exact writable_of_gives_updateUnder hp h
  | updateWithKey _ _ _ _ hp h =>
    obtain ⟨_, -, h⟩ := gives_ofExcept_bind.mp h
    exact writable_of_gives_updateUnder hp h
  | changePassword _ _ => exact hs
  | reset _ _ h => exact writable_of_gives_createWith rfl h

/-! ### Any number of steps -/

/-- **What was written last** has a text. -/
theorem writable_of_run {start s : State} {history : List (State × Operation)} (h0 : Starts start)
    (h : Run start history s) : s.written.Writable := by
  induction h with
  | nil => exact writable_of_starts h0
  | cons _ ht ih => exact writable_of_takes ht ih

theorem exists_holds_of_run {start s : State} {history : List (State × Operation)}
    (h0 : Starts start) (h : Run start history s) :
    ∃ plaintext seed, s.vault.Holds s.password plaintext seed := by
  cases h with
  | nil => exact ⟨_, _, holds_of_starts h0⟩
  | cons hr ht => exact exists_holds_of_takes ht

theorem holds_of_run {start s : State} {history : List (State × Operation)} (h0 : Starts start)
    (h : Run start history s) (hgen : ∀ x ∈ history, x.2.Genuine x.1) :
    s.seed = start.seed ∧ s.vault.Holds s.password s.written.toBytes s.seed := by
  induction h with
  | nil => exact ⟨rfl, holds_of_starts h0⟩
  | cons hr ht ih =>
    obtain ⟨ho, hrest⟩ := List.forall_mem_cons.mp hgen
    obtain ⟨hseed, hs⟩ := ih hrest
    obtain ⟨hseed', hs'⟩ := holds_of_takes ht ho hs
    exact ⟨hseed'.trans hseed, hs'⟩

/-- **What a run leaves**: password and seed open the same text; if all its secrets were genuine, it
is the text of the payload that was written last, and the seed is that of the first step. -/
theorem run_holds {start s : State} {history : List (State × Operation)} (h0 : Starts start)
    (h : Run start history s) :
    (∃ plaintext seed, s.vault.Holds s.password plaintext seed) ∧
      ((∀ x ∈ history, x.2.Genuine x.1) →
        s.vault.Holds s.password s.written.toBytes start.seed) := by
  refine ⟨exists_holds_of_run h0 h, fun hgen => ?_⟩
  obtain ⟨hseed, hs⟩ := holds_of_run h0 h hgen
  rwa [hseed] at hs

/-- The least costs that there are. -/
def leastSettings (cipher : Cipher) : Settings :=
  { Settings.defaults with costs := ⟨8, 1, 1⟩, cipher := cipher }

def onePayload : Payload := ⟨[], .empty, [], [.str "notes"], []⟩

/-- A vault gets another password and another cipher, and then, in its stored form, another
payload. -/
theorem run_holds_two_steps : ∃ start s history, Starts start ∧ Run start history s ∧
    history.length = 2 ∧ s.vault.Holds "second" onePayload.toBytes (List.replicate 32 7) := by
  have hseed : checkSeed (List.replicate 32 7) = .ok () := rfl
  have hempty : plaintextOf (.json .null) = .ok Payload.empty.toBytes :=
    plaintextOf_of_writable rfl (by decide)
  have hone : plaintextOf (.value onePayload) = .ok onePayload.toBytes :=
    plaintextOf_of_writable rfl (by decide)
  have htime : Json.asTimestamp (.str (Timestamp.ofInstant 0).toText) =
      .accepted (Timestamp.ofInstant 0) := by
    have h : Timestamp.ofText? (Timestamp.ofInstant 0).toText = some (Timestamp.ofInstant 0) := by
      decide +kernel
    simp only [Json.asTimestamp, Json.timestamp?, h]
  -- The vault as it is created, with the new password and with the new payload.
  obtain ⟨v1, _, h1, hc1, -⟩ := exists_gives_sealNew (leastSettings .aesGcm) (by decide) rfl 0
    "first" ⟨Payload.empty.toBytes, List.replicate 32 7⟩ (Timestamp.ofInstant 0) ⟨fun _ => 1, 0⟩
  obtain ⟨v2, _, h2, hc2, hu2, salt, hk2⟩ := exists_gives_sealNew (leastSettings .chaCha)
    (by decide) rfl 0 "second" ⟨Payload.empty.toBytes, List.replicate 32 7⟩ v1.created
    ⟨fun _ => 2, 0⟩
  have hread : Vault.ofJson v2.toJson = .accepted v2 := by
    refine ofJson_toJson ?_ ?_ ?_
    · rw [hc2, hc1, htime]
    · rw [hu2, htime]
    · rw [hk2]; rfl
  have haccept : accept (.json v2.toJson) = .ok v2 := by
    simp only [accept, Given.read, hread]
  obtain ⟨v3, _, h3⟩ := exists_gives_update haccept (holds_of_gives_sealNew rfl h2) hone 0
    ⟨fun _ => 3, 0⟩
  have hstart : Starts ⟨v1, "first", Payload.empty, List.replicate 32 7⟩ :=
    .createWith rfl (gives_createWith_of_sealNew hseed hempty h1)
  have ht1 : Takes ⟨v1, "first", Payload.empty, List.replicate 32 7⟩
      (.changePassword "first" "second") ⟨v2, "second", Payload.empty, List.replicate 32 7⟩ :=
    .changePassword (Or.inl rfl)
      (gives_changePassword_of_sealNew rfl (holds_of_gives_sealNew rfl h1) h2)
  have ht2 : Takes ⟨v2, "second", Payload.empty, List.replicate 32 7⟩
      (.update "second" (.value onePayload)) ⟨v3, "second", onePayload, List.replicate 32 7⟩ :=
    .update (Or.inr rfl) rfl h3
  have hrun := Run.cons (Run.cons Run.nil ht1) ht2
  refine ⟨_, _, _, hstart, hrun, rfl, (run_holds hstart hrun).2 ?_⟩
  simp only [List.mem_cons, List.not_mem_nil, or_false, forall_eq_or_imp, forall_eq]
  exact ⟨Operation.genuine_of_own rfl, Operation.genuine_of_own rfl⟩

end PasswordVault.Vault
