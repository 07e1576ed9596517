import PasswordVault.Proofs.Vault.Interchange

/-!
# A box opens in its own slot only

Payload and seed are sealed under the same key, with the same cipher; all that tells their boxes
apart is the name of the slot that was authenticated with each. So if one of the boxes is put in the
place of the other, or both change places, nothing that reads a box in a wrong place gets anything
out of it, and what reads the other slots goes on as before.

* `SealedUnder`, `exists_opensTo_of_sealedUnder`: vaults that an operation left, and what they hold,
  `sealedUnder_of_run`: every vault of a run is one;
* `TellsApart`: what is assumed of the cipher;
* `withBoxes`: the vault with boxes in other places, `Moved`: what each operation does with it;
* `refused_in_other_slots`: **what was moved is refused**;
* `moved_of_run`: the same for the vaults of a run, with the payload that was written last.
-/

namespace PasswordVault.Vault

/-- **An operation left the vault**, sealed under the key, whatever it was given. -/
inductive SealedUnder (vault : Vault) (key : Bytes) : Prop where
  | create {settings : Settings} {now : Instant} {password : Text} {phrase : String}
      {tape rest : Tape} (h : Gives (create settings now password) tape (vault, phrase) rest)
      (hk : vault.kdf.passwordKey password = .ok key)
  | createWith {settings : Settings} {now : Instant} {password : Text} {payload : Given Payload}
      {seed : Bytes} {tape rest : Tape}
      (h : Gives (createWith settings now password payload seed) tape vault rest)
      (hk : vault.kdf.passwordKey password = .ok key)
  | update {before : Vault} {given : Given Vault} {now : Instant} {payload : Given Payload}
      {x : Attempt Vault} {tape rest : Tape} (ha : accept given = .ok before)
      (hx : Updates before key given now payload x) (h : Gives x tape vault rest)
  | changePassword {before : Vault} {given : Given Vault} {settings : Settings} {now : Instant}
      {password next : Text} {tape rest : Tape} (ha : accept given = .ok before)
      (h : Gives (changePassword settings given now password next) tape vault rest)
      (hk : vault.kdf.passwordKey next = .ok key)

/-- **What is assumed of the cipher**: under the key and with the nonce of its box, what was sealed
for one of the two slots is not accepted for the other. -/
def TellsApart (vault : Vault) (key : Bytes) : Prop :=
  ∀ slot other : Slot, slot ≠ .recovery → other ≠ .recovery → slot ≠ other → ∀ parts text,
    (vault.box slot).parts? = some parts → vault.openSlot? slot key = some text →
      (Sealed.ofPlaintext vault.cipher key parts.nonce slot.associatedData text).openWith?
        vault.cipher key other.associatedData = none

/-- The vault with the boxes of the slots `p` and `s` as payload and as seed under the password key:
they change places, one is copied over the other, or all stays as it is. -/
def withBoxes (vault : Vault) (p s : Slot) : Vault :=
  { vault with primary := vault.box p, wrappedSeed := vault.box s }

/-! ### What the operations do -/

/-- Who has the key, or a password that gives it, is refused the payload. -/
structure RefusesUnlock (given : Given Vault) (kdf : Kdf) (key : Bytes) : Prop where
  withKey : unlockWithKey given key = .error (.authentication .key)
  withPassword (password : Text) : kdf.passwordKey password = .ok key →
    unlock given password = .error (.authentication .password)

/-- Who has the key, or a password that gives it, is refused an update, and nothing is drawn. -/
structure RefusesUpdate (given : Given Vault) (kdf : Kdf) (key : Bytes) : Prop where
  withKey (now : Instant) (payload : Given Payload) (tape : Tape) :
    (updateWithKey given now key payload).outcome tape = (.error (.authentication .key), tape)
  withPassword (now : Instant) (password : Text) (payload : Given Payload) (tape : Tape) :
    kdf.passwordKey password = .ok key →
      (update given now password payload).outcome tape =
        (.error (.authentication .password), tape)

/-- Who has a password that gives the key is refused another password, and nothing is drawn. -/
def RefusesRekey (given : Given Vault) (kdf : Kdf) (key : Bytes) : Prop :=
  ∀ settings now password next tape, kdf.passwordKey password = .ok key →
    (changePassword settings given now password next).outcome tape =
      (.error (.authentication .password), tape)

/-- The key, and a password that gives it, get the payload that the text holds. -/
structure Unlocks (given : Given Vault) (kdf : Kdf) (key plaintext : Bytes) : Prop where
  withKey : unlockWithKey given key = Payload.ofBytes plaintext
  withPassword (password : Text) : kdf.passwordKey password = .ok key →
    unlock given password = (·, key) <$> Payload.ofBytes plaintext

/-- Who has a phrase for the seed gets the payload that the text holds. -/
def Recovers (given : Given Vault) (seed plaintext : Bytes) : Prop :=
  ∀ phrase, Phrase.recover phrase = .ok seed →
    unlockWithPhrase given phrase = (·, seed) <$> Payload.ofBytes plaintext

/-- The key, and a password that gives it, write every payload that can be written, and the seed
stays. -/
def TakesUpdates (vault : Vault) (given : Given Vault) (key seed : Bytes) : Prop :=
  ∀ now payload p x tape, Updates vault key given now payload x → Payload.accept payload = .ok p →
    p.Writable → ∃ vault' rest, Gives x tape vault' rest ∧ vault'.OpensTo key p.toBytes seed

/-- **What each operation does** with the boxes of the slots `p` and `s` in the places of payload
and seed: nothing that reads a box in a wrong place gets anything out of it, and what reads a box in
its own goes on as before. -/
structure Moved (vault : Vault) (key plaintext seed : Bytes) (p s : Slot) (given : Given Vault) :
    Prop where
  refusesPayload : p = .seed → RefusesUnlock given vault.kdf key ∧ RefusesRekey given vault.kdf key
  refusesSeed : s = .primary → RefusesUpdate given vault.kdf key ∧ RefusesRekey given vault.kdf key
  unlocks : p = .primary → Unlocks given vault.kdf key plaintext
  takesUpdates : s = .seed → TakesUpdates (vault.withBoxes p s) given key seed
  recovers : Recovers given seed plaintext

section Accepted
variable {vault : Vault} {given : Given Vault} {key : Bytes} (ha : accept given = .ok vault)
include ha

theorem refusesUnlock_of_openSlot? (h : vault.openSlot? .primary key = none) :
    RefusesUnlock given vault.kdf key where
  withKey := by
    rw [unlockWithKey_eq ha, openPayload, h]
    rfl
  withPassword password hk := by
    rw [unlock_eq hk ha, openPayload, h]
    rfl

theorem refusesUpdate_of_openSeed? (h : vault.openSeed? key = none) :
    RefusesUpdate given vault.kdf key where
  withKey now payload tape := by
    rw [outcome_updateWithKey ha, outcome_updateUnder_of_none h]
  withPassword now password payload tape hk := by
    rw [outcome_update ha, outcome_ofExcept_bind_ok hk, outcome_updateUnder_of_none h]

theorem refusesRekey_of_openSlot?
    (h : vault.openSlot? .primary key = none ∨ vault.openSeed? key = none) :
    RefusesRekey given vault.kdf key := by
  intro settings now password next tape hk
  have hc : vault.contents password = .error (.authentication .password) := by
    rw [contents, hk]
    change (demand .password (vault.openSlot? .primary key) >>= fun plaintext =>
      demand .password (vault.openSeed? key) >>= fun seed => .ok (⟨plaintext, seed⟩ : Contents)) = _
    cases hp : vault.openSlot? .primary key with
    | none => rfl
    | some plaintext =>
      rw [h.resolve_left (by rw [hp]; exact Option.some_ne_none _)]
      rfl
  rw [outcome_changePassword ha, outcome_ofExcept_bind_error hc]

theorem unlocks_of_openSlot? {plaintext : Bytes}
    (h : vault.openSlot? .primary key = some plaintext) :
    Unlocks given vault.kdf key plaintext where
  withKey := by rw [unlockWithKey_eq ha, openPayload_of_openSlot? h]
  withPassword password hk := by rw [unlock_eq hk ha, openPayload_of_openSlot? h]

theorem recovers_of_openSlot? {plaintext seed : Bytes}
    (h : vault.openSlot? .recovery (recoveryKey seed) = some plaintext) :
    Recovers given seed plaintext := by
  intro phrase hp
  rw [unlockWithPhrase, ha]
  change (Phrase.recover phrase >>= _) = _
  rw [hp]
  dsimp only [bind, Except.bind]
  rw [h]
  rfl

theorem takesUpdates_of_openSeed? {seed : Bytes} (h : vault.openSeed? key = some seed) :
    TakesUpdates vault given key seed :=
  fun _ _ _ _ tape hx hp hw => exists_gives_of_updates ha hx h hp hw tape

end Accepted

/-! ### Vaults that an operation left -/

theorem exists_opensTo_of_sealedUnder {vault : Vault} {key : Bytes} (h : vault.SealedUnder key) :
    ∃ plaintext seed, vault.OpensTo key plaintext seed := by
  cases h with
  | create h hk => exact ⟨_, _, (holds_of_gives_create h).opensTo hk⟩
  | createWith h hk =>
    obtain ⟨_, -, hh⟩ := holds_of_gives_createWith h
    exact ⟨_, _, hh.opensTo hk⟩
  | update ha hx h =>
    obtain ⟨_, _, -, -, ho⟩ := opensTo_of_updates ha hx h
    exact ⟨_, _, ho⟩
  | changePassword ha h hk =>
    obtain ⟨⟨plaintext, seed⟩, hc, hn⟩ := (gives_changePassword_iff ha).mp h
    obtain ⟨_, -, -, -, hl⟩ := contents_eq_ok_iff.mp hc
    exact ⟨_, _, (holds_of_gives_sealNew hl hn).opensTo hk⟩

theorem sealedUnder_of_starts {s : State} {key : Bytes} (h : Starts s)
    (hk : s.vault.kdf.passwordKey s.password = .ok key) : s.vault.SealedUnder key := by
  cases h with
  | create h => exact .create h hk
  | createWith _ h => exact .createWith h hk

theorem sealedUnder_of_takes {s s' : State} {o : Operation} {key : Bytes} (h : Takes s o s')
    (hk : s'.vault.kdf.passwordKey s'.password = .ok key) : s'.vault.SealedUnder key := by
  cases h with
  | update hg hp h =>
    obtain ⟨before, ha, h'⟩ := gives_ofExcept_bind.mp h
    obtain ⟨key', hk', -⟩ := gives_ofExcept_bind.mp h'
    have hkdf := (fields_of_updates ha (.withPassword hk') h).2.1
    obtain rfl := Except.ok.inj (hk'.symm.trans (hkdf ▸ hk))
    exact .update ha (.withPassword hk') h
  | updateWithKey hkdf hg hu hg' hp h =>
    obtain ⟨before, ha, -⟩ := gives_ofExcept_bind.mp h
    have hkey := hkdf ▸ passwordKey_of_unlock hg hu
    have hkdf' := (fields_of_updates ha .withKey h).2.1.trans (agrees_of_accept hg' ha).kdf
    obtain rfl := Except.ok.inj (hkey.symm.trans (hkdf' ▸ hk))
    exact .update ha .withKey h
  | changePassword hg h =>
    obtain ⟨before, ha, -⟩ := gives_ofExcept_bind.mp h
    exact .changePassword ha h hk
  | reset hg hu h => exact .createWith h hk

/-- **Every vault of a run** was left by an operation, sealed under the key of its password. -/
theorem sealedUnder_of_run {start s : State} {history : List (State × Operation)}
    (h0 : Starts start) (h : Run start history s) :
    ∃ key, s.vault.kdf.passwordKey s.password = .ok key ∧ s.vault.SealedUnder key := by
  obtain ⟨_, _, hh⟩ := exists_holds_of_run h0 h
  obtain ⟨key, hk, -⟩ := holds_iff.mp hh
  cases h with
  | nil => exact ⟨key, hk, sealedUnder_of_starts h0 hk⟩
  | cons _ ht => exact ⟨key, hk, sealedUnder_of_takes ht hk⟩

/-! ### Boxes in other places -/

theorem openSlot?_primary_withBoxes (vault : Vault) (p s : Slot) (key : Bytes) :
    (vault.withBoxes p s).openSlot? .primary key =
      (vault.box p).openWith? vault.cipher key Slot.primary.associatedData :=
  rfl

theorem openSlot?_seed_withBoxes (vault : Vault) (p s : Slot) (key : Bytes) :
    (vault.withBoxes p s).openSlot? .seed key =
      (vault.box s).openWith? vault.cipher key Slot.seed.associatedData :=
  rfl

/-- **What was sealed for one slot does not open in another.** -/
theorem TellsApart.openWith?_eq_none {vault : Vault} {key text : Bytes} (h : vault.TellsApart key)
    {slot other : Slot} (hs : slot ≠ .recovery) (ho : other ≠ .recovery) (hne : slot ≠ other)
    (ht : vault.openSlot? slot key = some text) :
    (vault.box slot).openWith? vault.cipher key other.associatedData = none := by
  obtain ⟨parts, hparts, hopen⟩ := Option.bind_eq_some_iff.mp ht
  have hnone := h slot other hs ho hne parts text hparts ht
  rw [← Sealed.eq_ofPlaintext_of_openWith? hopen] at hnone
  exact Option.bind_eq_none_iff.mpr fun parts' hparts' => by
    rwa [Option.some.inj (hparts'.symm.trans hparts)]

theorem openSlot?_primary_eq_none {vault : Vault} {key seed : Bytes} (h : vault.TellsApart key)
    (hs : vault.openSlot? .seed key = some seed) (s : Slot) :
    (vault.withBoxes .seed s).openSlot? .primary key = none := by
  rw [openSlot?_primary_withBoxes]
  exact h.openWith?_eq_none (by decide) (by decide) (by decide) hs

theorem openSeed?_eq_none {vault : Vault} {key plaintext : Bytes} (h : vault.TellsApart key)
    (hp : vault.openSlot? .primary key = some plaintext) (p : Slot) :
    (vault.withBoxes p .primary).openSeed? key = none := by
  rw [openSeed?, openSlot?_seed_withBoxes,
    h.openWith?_eq_none (by decide) (by decide) (by decide) hp]
  rfl

theorem moved_of_opensTo {vault : Vault} {key plaintext seed : Bytes}
    (ho : vault.OpensTo key plaintext seed) (ht : vault.TellsApart key) {p s : Slot}
    {given : Given Vault} (ha : accept given = .ok (vault.withBoxes p s)) :
    vault.Moved key plaintext seed p s given where
  refusesPayload := by
    rintro rfl
    have hnone := openSlot?_primary_eq_none ht ho.seed s
    have hunlock := refusesUnlock_of_openSlot? ha hnone
    have hrekey := refusesRekey_of_openSlot? ha (Or.inl hnone)
    exact ⟨hunlock, hrekey⟩
  refusesSeed := by
    rintro rfl
    have hnone := openSeed?_eq_none ht ho.primary p
    have hupdate := refusesUpdate_of_openSeed? ha hnone
    have hrekey := refusesRekey_of_openSlot? ha (Or.inr hnone)
    exact ⟨hupdate, hrekey⟩
  unlocks := by
    rintro rfl
    have hprimary : (vault.withBoxes .primary s).openSlot? .primary key = some plaintext :=
      ho.primary
    have hunlocks := unlocks_of_openSlot? ha hprimary
    exact hunlocks
  takesUpdates := by
    rintro rfl
    have hseed : (vault.withBoxes p .seed).openSeed? key = some seed := ho.openSeed?
    exact takesUpdates_of_openSeed? ha hseed
  recovers := by
    obtain ⟨phraseKey, hk, hrecovery⟩ := ho.recovery
    obtain ⟨-, rfl⟩ := seedKey_eq_ok_iff.mp hk
    exact recovers_of_openSlot? ha hrecovery

/-- **Boxes in other places**: payload and seed of a vault that an operation left change places, or
one is copied over the other. What reads the seed's box as a payload, or the payload's box as a
seed, refuses the key and every password that gives it, and nothing is drawn. What reads the other
slots goes on as with the vault itself, whose boxes have the places `p = .primary` and `s = .seed`:
the text that was sealed is what comes back, and an update writes it anew. -/
theorem refused_in_other_slots {vault : Vault} {key : Bytes} (hv : vault.SealedUnder key)
    (ht : vault.TellsApart key) : ∃ plaintext seed, vault.OpensTo key plaintext seed ∧
      ∀ p s given, p ≠ .recovery → s ≠ .recovery → accept given = .ok (vault.withBoxes p s) →
        vault.Moved key plaintext seed p s given := by
  obtain ⟨plaintext, seed, ho⟩ := exists_opensTo_of_sealedUnder hv
  exact ⟨plaintext, seed, ho, fun p s given _ _ ha => moved_of_opensTo ho ht ha⟩

/-- The wreck after its payload was written again. -/
def repaired : Vault :=
  (sealContents wreck.cipher wreck.kdf (List.replicate 32 5)
    ⟨Payload.empty.toBytes, List.replicate 32 7⟩ wreck.created (Timestamp.ofInstant 1)
    ⟨UInt8.ofNat, 0⟩).1

theorem opensTo_repaired : repaired.OpensTo (List.replicate 32 5) Payload.empty.toBytes
    (List.replicate 32 7) :=
  opensTo_sealContents (by decide) (by decide) _ _ _ _ _ _

theorem tellsApart_repaired : repaired.TellsApart (List.replicate 32 5) := by
  -- The payload was sealed with the first twelve bytes of the tape, the seed with the third twelve.
  have hprimary : (Sealed.ofPlaintext .chaCha (List.replicate 32 5)
      ((List.range 12).map UInt8.ofNat) Slot.primary.associatedData
      Payload.empty.toBytes).openWith? .chaCha (List.replicate 32 5) Slot.seed.associatedData =
      none := by decide +kernel
  have hseed : (Sealed.ofPlaintext .chaCha (List.replicate 32 5)
      ((List.range 12).map fun i => UInt8.ofNat (24 + i)) Slot.seed.associatedData
      (List.replicate 32 7)).openWith? .chaCha (List.replicate 32 5)
      Slot.primary.associatedData = none := by decide +kernel
  intro slot other hslot hother hne parts text hparts htext
  cases slot with
  | primary =>
    obtain rfl : other = .seed := by cases other <;> simp_all
    obtain rfl := Option.some.inj (opensTo_repaired.primary.symm.trans htext)
    obtain rfl := Option.some.inj ((Box.parts?_ofSealed (by decide)
      (Cipher.length_tag .chaCha _ _ _ _)).symm.trans hparts)
    exact hprimary
  | recovery => exact absurd rfl hslot
  | seed =>
    obtain rfl : other = .primary := by cases other <;> simp_all
    obtain rfl := Option.some.inj (opensTo_repaired.seed.symm.trans htext)
    obtain rfl := Option.some.inj ((Box.parts?_ofSealed (by decide)
      (Cipher.length_tag .chaCha _ _ _ _)).symm.trans hparts)
    exact hseed

/-- Payload and seed change places, and then the payload is copied over the seed. -/
theorem refused_in_other_slots_of_repaired : ∃ key, repaired.SealedUnder key ∧
    repaired.TellsApart key ∧
    unlockWithKey (.value (repaired.withBoxes .seed .primary)) key =
      .error (.authentication .key) ∧
    unlockWithKey (.value (repaired.withBoxes .primary .primary)) key = .ok Payload.empty ∧
    ∀ now payload tape, (updateWithKey (.value (repaired.withBoxes .primary .primary)) now key
      payload).outcome tape = (.error (.authentication .key), tape) := by
  have hseed : wreck.openSeed? (List.replicate 32 5) = some (List.replicate 32 7) :=
    openSeed?_eq_some_iff.mpr ⟨Box.openWith?_sealWith .chaCha (by decide) _ _ _, rfl⟩
  have hx : Updates wreck (List.replicate 32 5) (.value wreck) 1 (.json .null) _ := .withKey
  have hg : Gives _ ⟨UInt8.ofNat, 0⟩ repaired _ :=
    (gives_iff_of_updates rfl hx).mpr ⟨_, _, hseed, rfl, by decide, rfl⟩
  have hv : repaired.SealedUnder (List.replicate 32 5) := .update rfl hx hg
  obtain ⟨plaintext, seed, ho, h⟩ := refused_in_other_slots hv tellsApart_repaired
  obtain rfl := Option.some.inj (opensTo_repaired.primary.symm.trans ho.primary)
  have hexchanged := h .seed .primary (.value _) (by decide) (by decide) rfl
  have hcopied := h .primary .primary (.value _) (by decide) (by decide) rfl
  refine ⟨_, hv, tellsApart_repaired, (hexchanged.refusesPayload rfl).1.withKey, ?_, ?_⟩
  · exact (hcopied.unlocks rfl).withKey.trans Payload.ofBytes_empty
  · exact (hcopied.refusesSeed rfl).1.withKey

/-- **The vaults of a run** under the key of their password: an operation left each of them, so what
is done with its boxes in other places is known, and the text that comes back is that of the payload
that was written last. If that payload is legible, opening what is in its own slot succeeds. -/
theorem moved_of_run {start s : State} {history : List (State × Operation)} (h0 : Starts start)
    (h : Run start history s) (hgen : ∀ x ∈ history, x.2.Genuine x.1) :
    ∃ key, s.vault.kdf.passwordKey s.password = .ok key ∧ s.vault.SealedUnder key ∧
      (s.vault.TellsApart key → ∀ p t given, accept given = .ok (s.vault.withBoxes p t) →
        s.vault.Moved key s.written.toBytes start.seed p t given ∧
        (s.written.Legible →
          (p = .primary → unlock given s.password = .ok (s.written, key) ∧
            unlockWithKey given key = .ok s.written) ∧
          ∀ phrase, Phrase.recover phrase = .ok start.seed →
            unlockWithPhrase given phrase = .ok (s.written, start.seed))) := by
  obtain ⟨key, hk, hv⟩ := sealedUnder_of_run h0 h
  obtain ⟨hseed, hs⟩ := holds_of_run h0 h hgen
  have ho := hs.opensTo hk
  rw [hseed] at ho
  refine ⟨key, hk, hv, fun ht p t given ha => ?_⟩
  have hm := moved_of_opensTo ho ht ha
  refine ⟨hm, fun hl => ?_⟩
  have hread := Payload.ofBytes_toBytes hl (writable_of_run h0 h)
  refine ⟨fun hp => ?_, fun phrase hphrase => ?_⟩
  · have hu := hm.unlocks hp
    exact ⟨by rw [hu.withPassword _ hk, hread]; rfl, by rw [hu.withKey, hread]⟩
  · rw [hm.recovers phrase hphrase, hread]
    rfl

end PasswordVault.Vault
