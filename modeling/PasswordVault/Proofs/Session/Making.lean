import PasswordVault.Proofs.Draws
import PasswordVault.Proofs.Recovery.Request
import PasswordVault.Proofs.Vault.Costs
import PasswordVault.Proofs.Vault.Sealing
import PasswordVault.Recovery.Record
import PasswordVault.Recovery.Token

/-!
# What is made of random bytes

A box is sealed under one nonce, a vault has three boxes and, if it is new or has a new password, a
salt before them; a split takes coefficients for each byte of the secret, a bundle a recovery id, a
split and a nonce for each shard. All checks stand in front of the first draw, but for one: that a
new password or the address of a contact has a UTF-8 form is found out when a key is derived from
it, after the first draws.

* `NoncesOf`, `Share.CoefficientsOf`, `Vault.SealedAnew`, `Bundle.SealedAnew`: what is made of the
  byte strings that were drawn;
* `LostOn`: what is lost when a password has no UTF-8 form;
* `disciplined_sealNew`, `disciplined_split`, `disciplined_setup`: **what each operation draws**,
  and what is lost if it fails.
-/

namespace PasswordVault

/-- The byte strings are the nonces of the boxes, one for each. -/
def NoncesOf (boxes : List Box) (nonces : List Bytes) : Prop :=
  List.Forall₂ (fun (box : Box) nonce => nonce.length = nonceLength ∧
    box.nonce = Base64.encode nonce) boxes nonces

/-! ### Boxes -/

theorem yields_sealWith (cipher : Cipher) (key ad plaintext : Bytes) :
    Yields (liftM (Box.sealWith cipher key ad plaintext)) fun box ds =>
      ∃ d, (d.length = nonceLength ∧ box.nonce = Base64.encode d) ∧ ds = [d] := by
  refine (Yields.once (f := fun nonce => Box.ofSealed (.ofPlaintext cipher key nonce ad plaintext))
    fun tape => Box.sealWith_eq cipher key ad plaintext tape).mono ?_
  rintro _ _ ⟨d, hl, rfl, rfl⟩
  exact ⟨d, ⟨hl, rfl⟩, rfl⟩

theorem disciplined_sealed_sealNamed (name : String) (key ad plaintext : Bytes) :
    Disciplined (Sealed.sealNamed name key ad plaintext)
      (fun parts ds => parts.nonce.length = nonceLength ∧ ds = [parts.nonce]) Unspent := by
  unfold Sealed.sealNamed
  split_ifs
  · exact Disciplined.throw _
  · refine Disciplined.bind (fun _ => rfl) fun cipher _ => Yields.disciplined ?_
    refine (Yields.once (f := fun nonce => Sealed.ofPlaintext cipher key nonce ad plaintext)
      fun tape => rfl).mono ?_
    rintro _ _ ⟨d, hl, rfl, rfl⟩
    exact ⟨hl, rfl⟩

theorem disciplined_sealNamed (name : String) (key ad plaintext : Bytes) :
    Disciplined (Box.sealNamed name key ad plaintext) (fun box ds => NoncesOf [box] ds)
      Unspent := by
  unfold Box.sealNamed
  rw [bind_pure_comp]
  refine (disciplined_sealed_sealNamed name key ad plaintext).map ?_
  rintro parts _ ⟨hl, rfl⟩
  exact .cons ⟨hl, rfl⟩ .nil

/-! ### Vaults -/

namespace Vault

/-- The boxes of a vault, in the order in which they are sealed. -/
def boxes (vault : Vault) : List Box :=
  [vault.primary, vault.recovery, vault.wrappedSeed]

/-- The salt and the nonces of the vault are the byte strings, in this order. -/
def SealedAnew (saltLength : ℕ) (vault : Vault) (ds : List Bytes) : Prop :=
  ∃ salt nonces, salt.length = saltLength ∧ vault.kdf.salt = Base64.encode salt ∧
    NoncesOf vault.boxes nonces ∧ ds = salt :: nonces

theorem yields_sealContents (cipher : Cipher) (kdf : Kdf) (key : Bytes) (contents : Contents)
    (created updated : Timestamp) :
    Yields (liftM (sealContents cipher kdf key contents created updated)) fun vault ds =>
      vault.kdf = kdf ∧ NoncesOf vault.boxes ds := by
  refine (Yields.lift_bind (yields_sealWith _ _ _ _) fun primary _ _ =>
    Yields.lift_bind (yields_sealWith _ _ _ _) fun recovery _ _ =>
      Yields.lift_bind (yields_sealWith _ _ _ _) fun wrappedSeed _ _ => Yields.pure _).mono ?_
  rintro _ _ ⟨primary, _, _, ⟨n1, h1, rfl⟩, ⟨recovery, _, _, ⟨n2, h2, rfl⟩, ⟨wrappedSeed, _, _,
    ⟨n3, h3, rfl⟩, ⟨rfl, rfl⟩, rfl⟩, rfl⟩, rfl⟩
  exact ⟨rfl, .cons h1 (.cons h2 (.cons h3 .nil))⟩

/-- By settings that make vaults nothing fails once the salt is drawn, if the password is a
string. -/
theorem yields_sealNew {settings : Settings} (hs : settings.Valid) (now : Instant)
    (password : String) (contents : Contents) (created : Timestamp) :
    Yields (sealNew settings now password contents created)
      (SealedAnew settings.saltLength) := by
  -- The salt is drawn first, so the key has to come out for every salt of this length.
  have hkey (salt : Bytes) (hl : salt.length = settings.saltLength) :
      stretchPassword settings.costs password salt =
        .ok (Argon2.stretch settings.costs (Utf8.encode password) salt) :=
    stretchPassword_of_inBounds hs.costs password (hl ▸ hs.leastSaltLength_le)
  refine ((Yields.draw settings.saltLength).bind fun salt _ hsalt =>
    (Yields.ofExcept (hkey salt hsalt.1)).bind fun key _ _ =>
      yields_sealContents _ _ _ _ _ _).mono ?_
  rintro vault _ ⟨salt, _, _, ⟨hl, rfl⟩, ⟨_, _, _, ⟨-, rfl⟩, ⟨hkdf, hn⟩, rfl⟩, rfl⟩
  exact ⟨salt, _, hl, by rw [hkdf], hn, rfl⟩

theorem yields_generate : Yields (liftM Phrase.generate) fun generated ds =>
    ∃ entropy phrase, entropy.length = Phrase.entropyLength ∧
      phrase = Phrase.join (Phrase.ofEntropy entropy) ∧
      generated = (phrase, Phrase.stretch phrase) ∧ ds = [entropy] := by
  have hgen : Yields (liftM Phrase.generate) fun generated ds =>
      ∃ entropy, entropy.length = Phrase.entropyLength ∧
        generated = (Phrase.join (Phrase.ofEntropy entropy),
          Phrase.stretch (Phrase.join (Phrase.ofEntropy entropy))) ∧ ds = [entropy] :=
    Yields.once (f := fun entropy => (Phrase.join (Phrase.ofEntropy entropy),
      Phrase.stretch (Phrase.join (Phrase.ofEntropy entropy)))) fun _ => rfl
  exact hgen.mono fun _ _ ⟨entropy, hl, hg, hd⟩ => ⟨entropy, _, hl, rfl, hg, hd⟩

theorem yields_create {settings : Settings} (hs : settings.Valid) (now : Instant)
    (password : String) :
    Yields (create settings now password) fun created ds =>
      ∃ entropy rest, entropy.length = Phrase.entropyLength ∧
        created.2 = Phrase.join (Phrase.ofEntropy entropy) ∧
        created.1.SealedAnew settings.saltLength rest ∧ ds = entropy :: rest := by
  refine (yields_generate.bind fun generated _ _ =>
    (yields_sealNew hs now password _ _).bind fun vault _ _ =>
      Yields.pure (vault, generated.1)).mono ?_
  rintro _ _ ⟨_, _, _, ⟨entropy, phrase, hl, hp, rfl, rfl⟩,
    ⟨vault, rest, _, hv, ⟨rfl, rfl⟩, rfl⟩, rfl⟩
  rw [List.append_nil]
  exact ⟨entropy, rest, hl, hp, hv, rfl⟩

/-- Nothing is lost, or else byte strings of these lengths on a text without a UTF-8 form. -/
def LostOn (text : Text) (lengths : List ℕ) (e : Error) (ds : List Bytes) : Prop :=
  ds = [] ∨ text.isWhole = false ∧ e = .unencodable ∧ ds.map List.length = lengths

theorem disciplined_sealNew {settings : Settings} (hs : settings.Valid) (now : Instant)
    (password : Text) (contents : Contents) (created : Timestamp) :
    Disciplined (sealNew settings now password contents created)
      (SealedAnew settings.saltLength) (LostOn password [settings.saltLength]) := by
  cases password with
  | whole s => exact (yields_sealNew hs now s contents created).disciplined
  | broken before lone after =>
    refine .of_outcome [settings.saltLength] (fun tape => ?_)
      fun ds hl => Or.inr ⟨rfl, rfl, hl⟩
    exact outcome_sealNew_broken hs.leastSaltLength_le rfl now contents created tape

theorem disciplined_create {settings : Settings} (hs : settings.Valid) (now : Instant)
    (password : Text) :
    Disciplined (create settings now password) (fun created ds =>
        ∃ entropy rest, entropy.length = Phrase.entropyLength ∧
          created.2 = Phrase.join (Phrase.ofEntropy entropy) ∧
          created.1.SealedAnew settings.saltLength rest ∧ ds = entropy :: rest)
      (LostOn password [Phrase.entropyLength, settings.saltLength]) := by
  cases password with
  | whole s => exact (yields_create hs now s).disciplined
  | broken before lone after =>
    refine .of_outcome [Phrase.entropyLength, settings.saltLength] (fun tape => ?_)
      fun ds hl => Or.inr ⟨rfl, rfl, hl⟩
    exact outcome_create_broken hs.leastSaltLength_le rfl now tape

theorem disciplined_createWith {settings : Settings} (hs : settings.Valid) (now : Instant)
    (password : Text) (payload : Given Payload) (seed : Bytes) :
    Disciplined (createWith settings now password payload seed)
      (SealedAnew settings.saltLength) (LostOn password [settings.saltLength]) :=
  Disciplined.bind (fun _ => Or.inl rfl) fun _ _ => Disciplined.bind (fun _ => Or.inl rfl)
    fun _ _ => disciplined_sealNew hs now password _ _

theorem disciplined_changePassword {settings : Settings} (hs : settings.Valid)
    (given : Given Vault) (now : Instant) (password next : Text) :
    Disciplined (changePassword settings given now password next)
      (SealedAnew settings.saltLength) (LostOn next [settings.saltLength]) :=
  Disciplined.bind (fun _ => Or.inl rfl) fun _ _ => Disciplined.bind (fun _ => Or.inl rfl)
    fun _ _ => disciplined_sealNew hs now next _ _

theorem disciplined_updateUnder (vault : Vault) (now : Instant) (credential : Credential)
    (key : Bytes) (payload : Given Payload) :
    Disciplined (vault.updateUnder now credential key payload)
      (fun vault' ds => NoncesOf vault'.boxes ds) Unspent :=
  Disciplined.bind (fun _ => rfl) fun _ _ => Disciplined.bind (fun _ => rfl) fun _ _ =>
    ((yields_sealContents _ _ _ _ _ _).mono fun _ _ h => h.2).disciplined

theorem disciplined_update (given : Given Vault) (now : Instant) (password : Text)
    (payload : Given Payload) :
    Disciplined (update given now password payload) (fun vault ds => NoncesOf vault.boxes ds)
      Unspent :=
  Disciplined.bind (fun _ => rfl) fun vault _ => Disciplined.bind (fun _ => rfl) fun key _ =>
    disciplined_updateUnder vault now .password key payload

theorem disciplined_updateWithKey (given : Given Vault) (now : Instant) (key : Bytes)
    (payload : Given Payload) :
    Disciplined (updateWithKey given now key payload)
      (fun vault ds => NoncesOf vault.boxes ds) Unspent :=
  Disciplined.bind (fun _ => rfl) fun vault _ => disciplined_updateUnder vault now .key key payload

end Vault

/-! ### Shares and bundles -/

namespace Share

/-- The byte strings are further coefficients for the polynomials of a secret, one for each of its
bytes. -/
def CoefficientsOf (threshold : ℕ) (secret : Bytes) (ds : List Bytes) : Prop :=
  List.Forall₂ (fun _ d => d.length = threshold - 1) secret ds

theorem yields_drawPolynomials (threshold : ℕ) (secret : Bytes) :
    Yields (liftM (drawPolynomials threshold secret)) fun polynomials ds =>
      CoefficientsOf threshold secret ds ∧ polynomials = List.zipWith List.cons secret ds := by
  induction secret with
  | nil =>
    refine (Yields.pure []).mono ?_
    rintro _ _ ⟨rfl, rfl⟩
    exact ⟨.nil, rfl⟩
  | cons byte rest ih =>
    refine (Yields.lift_bind (Yields.draw (threshold - 1)) fun coefficients _ _ =>
      Yields.lift_bind ih fun others _ _ => Yields.pure _).mono ?_
    rintro _ _ ⟨coefficients, _, _, ⟨hl, rfl⟩, ⟨others, ds, _, ⟨hc, rfl⟩, ⟨rfl, rfl⟩, rfl⟩, rfl⟩
    rw [List.append_nil]
    exact ⟨.cons hl hc, rfl⟩

/-- The shares of a split with the given further coefficients. -/
def SplitWith (secret : Bytes) (total threshold : ℤ) (shares : List Share) (ds : List Bytes) :
    Prop :=
  CoefficientsOf threshold.toNat secret ds ∧
    shares = sharesOf (List.zipWith List.cons secret ds) total.toNat

theorem yields_split {secret : Bytes} {total threshold : ℤ}
    (h : splittable secret total threshold = .ok ()) :
    Yields (split secret total threshold) (SplitWith secret total threshold) := by
  refine ((Yields.ofExcept h).bind fun _ _ _ =>
    (yields_drawPolynomials threshold.toNat secret).bind fun _ _ _ => Yields.pure _).mono ?_
  rintro _ _ ⟨_, _, _, ⟨-, rfl⟩, ⟨_, ds, _, ⟨hc, rfl⟩, ⟨rfl, rfl⟩, rfl⟩, rfl⟩
  rw [List.nil_append, List.append_nil]
  exact ⟨hc, rfl⟩

section SplitWith
variable {secret : Bytes} {total threshold : ℤ} {shares : List Share} {ds : List Bytes}
  (h : SplitWith secret total threshold shares ds)
include h

theorem SplitWith.length_eq : shares.length = total.toNat := by
  rw [h.2, sharesOf, List.length_map, List.length_range]

theorem SplitWith.hasIndex (ht : total ≤ maxShares) {s : Share} (hs : s ∈ shares) :
    s.HasIndex := by
  rw [h.2] at hs
  exact hasIndex_of_mem_sharesOf (by omega) hs

theorem SplitWith.data_ne_nil (hne : secret ≠ []) {s : Share} (hs : s ∈ shares) : s.data ≠ [] := by
  rw [h.2] at hs
  obtain ⟨x, -, -, rfl⟩ := mem_sharesOf.mp hs
  refine List.ne_nil_of_length_pos ?_
  rw [length_data_ofPolynomials, List.length_zipWith, ← h.1.length_eq, Nat.min_self]
  exact List.length_pos_of_ne_nil hne

end SplitWith

theorem disciplined_split (secret : Bytes) (total threshold : ℤ) :
    Disciplined (split secret total threshold) (SplitWith secret total threshold) Unspent := by
  cases h : splittable secret total threshold with
  | ok _ => exact (yields_split h).disciplined
  | error e =>
    intro tape
    exact ⟨[], trivial, Or.inl ⟨e, outcome_ofExcept_bind_error h _ tape, rfl⟩⟩

end Share

/-- The recovery id, the coefficients of the split and the nonces of the shards are the byte
strings, in this order, and the shards keep the shares of that split. -/
def Bundle.SealedAnew (seed : Bytes) (threshold : ℤ) (bundle : Bundle) (ds : List Bytes) : Prop :=
  ∃ id coefficients nonces shares, id.length = recoveryIdLength ∧
    bundle.recoveryId = Hex.encode id ∧
    Share.SplitWith seed bundle.shards.length threshold shares coefficients ∧
    List.Forall₂ (fun share shard => shard.Keeps bundle.recoveryId share) shares bundle.shards ∧
    NoncesOf (bundle.shards.map Shard.box) nonces ∧ ds = id :: coefficients ++ nonces

theorem yields_sealFor {recoveryId : Text} {contact : Contact} {key : Bytes}
    (hk : contactKey recoveryId contact.email = .ok key) {share : Share} (hx : share.HasIndex)
    (hd : share.data ≠ []) :
    Yields (Shard.sealFor recoveryId contact share) fun shard ds =>
      shard.Keeps recoveryId share ∧
        ∃ d, (d.length = nonceLength ∧ shard.box.nonce = Base64.encode d) ∧ ds = [d] := by
  refine Yields.and_gives ?_ fun h => (keeps_of_gives_sealFor hd h).2
  refine Yields.check hk (Yields.check (if_pos hx)
    (((yields_sealWith _ _ _ _).bind fun _ _ _ => Yields.pure _).mono ?_))
  rintro _ _ ⟨box, _, _, ⟨d, hn, rfl⟩, ⟨rfl, rfl⟩, rfl⟩
  exact ⟨d, hn, rfl⟩

theorem yields_shards (recoveryId : String) {contacts : List Contact} {shares : List Share}
    (hw : ∀ contact ∈ contacts, contact.email.isWhole = true)
    (hl : contacts.length = shares.length) (hx : ∀ s ∈ shares, s.HasIndex ∧ s.data ≠ []) :
    Yields ((List.zip contacts shares).mapM fun (contact, share) =>
        Shard.sealFor recoveryId contact share) fun shards ds =>
      List.Forall₂ (fun share shard => shard.Keeps recoveryId share) shares shards ∧
        NoncesOf (shards.map Shard.box) ds := by
  have hseal : ∀ p ∈ List.zip contacts shares,
      Yields (Shard.sealFor recoveryId p.1 p.2) fun shard ds => shard.Keeps recoveryId p.2 ∧
        ∃ d, (d.length = nonceLength ∧ shard.box.nonce = Base64.encode d) ∧ ds = [d] := by
    intro p hp
    obtain ⟨hindex, hdata⟩ := hx p.2 (List.of_mem_zip hp).2
    obtain ⟨key, hk⟩ := exists_contactKey_iff.mpr
      ⟨Text.isWhole_whole recoveryId, hw p.1 (List.of_mem_zip hp).1⟩
    exact yields_sealFor hk hindex hdata
  refine (Yields.mapM hseal).mono ?_
  rintro shards nonces ⟨hkeeps, hnonces⟩
  have hboth := forall₂_of_zip (R := fun _ _ => True)
    (S := fun share (shard : Shard) => shard.Keeps recoveryId share) hl
    (hkeeps.imp fun _ _ h => ⟨trivial, h⟩)
  exact ⟨hboth.2, List.forall₂_map_left_iff.mpr hnonces⟩

/-- The bundle of a well-formed request whose addresses have a UTF-8 form. -/
theorem yields_setup {seed : Bytes} {given : List (Given Contact)} {threshold : ℤ}
    {contacts : List Contact} (hc : checkRequest seed given threshold = .ok contacts)
    (hw : ∀ contact ∈ contacts, contact.email.isWhole = true) (now : Instant) :
    Yields (Bundle.setup now seed given threshold) (Bundle.SealedAnew seed threshold) := by
  obtain ⟨hseed, ⟨-, hmost⟩, ⟨hk, hn⟩, hread, -⟩ := checkRequest_eq_ok_iff.mp hc
  have hne : seed ≠ [] := List.ne_nil_of_length_pos (by rw [hseed]; decide)
  have hl : contacts.length = given.length := hread.length_eq.symm
  have hmax : (contacts.length : ℤ) ≤ Share.maxShares := by
    simp only [mostContacts, Share.maxShares] at hmost ⊢
    omega
  -- The id is drawn before the checks of the split, which a well-formed request passes.
  have hsplit : Share.splittable seed contacts.length threshold = .ok () :=
    Share.splittable_eq_ok_iff.mpr ⟨hk, by omega, hmax, hne⟩
  have hcount {shares : List Share} {ds : List Bytes}
      (hs : Share.SplitWith seed contacts.length threshold shares ds) :
      contacts.length = shares.length := by
    rw [hs.length_eq, Int.toNat_natCast]
  refine Yields.check hc (((Yields.draw recoveryIdLength).bind fun id _ _ =>
    (Share.yields_split hsplit).bind fun shares _ hs =>
      (yields_shards (Hex.encode id) hw (hcount hs) fun s h =>
        ⟨hs.hasIndex hmax h, hs.data_ne_nil hne h⟩).bind fun _ _ _ => Yields.pure _).mono ?_)
  rintro _ _ ⟨id, _, _, ⟨hid, rfl⟩, ⟨shares, coefficients, _, hs, ⟨shards, nonces, _,
    ⟨hkeeps, hnonces⟩, ⟨rfl, rfl⟩, rfl⟩, rfl⟩, rfl⟩
  rw [List.append_nil]
  refine ⟨id, coefficients, nonces, shares, hid, rfl, ?_, hkeeps, hnonces, rfl⟩
  rwa [← hkeeps.length_eq, ← hcount hs]

/-- Nothing is lost, or else the recovery id, the coefficients of the split and the nonces of the
shards that were sealed, on a request that breaks off. -/
def Bundle.Lost (seed : Bytes) (given : List (Given Contact)) (threshold : ℤ) (e : Error)
    (ds : List Bytes) : Prop :=
  ds = [] ∨ ∃ done, Request.BreaksOff seed given threshold done ∧ e = .unencodable ∧
    ds.map List.length = recoveryIdLength ::
      (List.replicate seedLength (threshold.toNat - 1) ++ List.replicate done nonceLength)

/-- **The recovery id is drawn once the request is known to be well-formed**, and an address without
a UTF-8 form is all that the shards can fail on after it. -/
theorem disciplined_setup (now : Instant) (seed : Bytes) (given : List (Given Contact))
    (threshold : ℤ) :
    Disciplined (Bundle.setup now seed given threshold) (Bundle.SealedAnew seed threshold)
      (Bundle.Lost seed given threshold) := by
  cases hc : checkRequest seed given threshold with
  | error e =>
    intro tape
    exact ⟨[], trivial, Or.inl ⟨e, outcome_ofExcept_bind_error hc _ tape, Or.inl rfl⟩⟩
  | ok contacts =>
    rcases Request.whole_or_breaksOff (Request.check_eq_ok_iff.mp hc) with hw | ⟨done, hb⟩
    · exact (yields_setup hc hw now).disciplined
    · refine .of_outcome (recoveryIdLength ::
        (List.replicate seedLength (threshold.toNat - 1) ++ List.replicate done nonceLength))
        (fun tape => ?_) fun ds hl => Or.inr ⟨done, hb, rfl, hl⟩
      have hsum : Request.drawnBy threshold done = (recoveryIdLength ::
          (List.replicate seedLength (threshold.toNat - 1) ++
            List.replicate done nonceLength)).sum := by
        simp only [Request.drawnBy, List.sum_cons, List.sum_append, List.sum_replicate, smul_eq_mul,
          recoveryIdLength, seedLength, nonceLength]
        omega
      rw [Request.outcome_of_breaksOff hb, hsum]

/-! ### Records, backup keys and tokens -/

theorem disciplined_record (now : Instant) (seed key : Bytes) :
    Disciplined (Record.setup now seed key) (fun record ds => NoncesOf [record.box] ds)
      Unspent := by
  refine Disciplined.bind (fun _ => rfl) fun _ _ => Disciplined.bind (fun _ => rfl)
    fun _ _ => Yields.disciplined ?_
  refine ((yields_sealWith _ _ _ _).bind fun _ _ _ => Yields.pure _).mono ?_
  rintro _ _ ⟨box, _, _, ⟨d, hn, rfl⟩, ⟨rfl, rfl⟩, rfl⟩
  exact .cons hn .nil

theorem yields_backupKey : Yields (liftM BackupKey.generate) fun key ds =>
    key.length = BackupKey.length ∧ ds = [key] :=
  Yields.draw BackupKey.length

theorem yields_token : Yields (liftM Token.create) fun token ds =>
    ∃ d, d.length = Token.length ∧ token = Hex.encode d ∧ ds = [d] :=
  Yields.once fun _ => rfl

end PasswordVault
