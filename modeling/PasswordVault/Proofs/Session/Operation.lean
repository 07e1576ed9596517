import PasswordVault.Proofs.Session.Making
import PasswordVault.Settings
import PasswordVault.UnlockWindow

/-!
# The operations of a session

What can be done with vaults, shares, bundles, records and tokens, and what it answers. An operation
that only looks at what it was given is a `Reading` and draws nothing; all the others draw, if they
succeed, what they make their answer of. Four of them may lose what they drew, on a new password or
on the address of a contact that has no UTF-8 form.

* `Operation.attempt`: the operation on a tape;
* `Made`: **what an operation draws and what it makes of it**, `Lost`: **what is lost if it fails**;
* `disciplined_attempt`: every operation draws what its answer is made of, or fails and loses what
  it is known to lose.
-/

namespace PasswordVault.Session

/-- What is looked at. What has an answer for everything, such as a normal form or a digest, is left
out: there is nothing to be said of it. -/
inductive Reading where
  | unlock (vault : Given Vault) (password : Text)
  | unlockWithKey (vault : Given Vault) (key : Bytes)
  | unlockWithPhrase (vault : Given Vault) (phrase : Text)
  | isVault (vault : Given Vault)
  | exportText (vault : Given Vault)
  | mayUseKey (now : Instant) (last : LastTyped) (window : Days)
  | stretch (costs : Argon2.Costs) (secret salt : Bytes)
  | stretchPassword (costs : Argon2.Costs) (password : Text) (salt : Bytes)
  | seedKey (seed : Bytes)
  | recoverPhrase (phrase : Text)
  | decrypt (parts : Sealed) (cipher : String) (key ad : Bytes)
  | openBox (box : Box) (cipher : String) (key ad : Bytes)
  | combine (shares : List Share)
  | encodeShare (share : Share)
  | decodeShare (text : Text)
  | openShard (recoveryId email : Text) (box : Given Box)
  | recoverSeed (pieces : List Piece)
  | recoverRecord (text : Text) (box : Given Box)
  | hasFingerprint (text hash : Text)
  | settings (v : Json)
  | payloadBytes (payload : Given Payload)
  | payloadOfBytes (bytes : Bytes)
  | decodeBase64 (count : Option ℤ) (text : Text)
  | decodeBackupKey (text : Text)
  | hashToken (token : Text)
  | verifyToken (token digest : Text)
  | method (name : Text)

inductive Found where
  | payload (payload : Payload)
  | opened (payload : Payload) (secret : Bytes)
  | flag (holds : Bool)
  | text (text : String)
  | bytes (bytes : Bytes)
  | share (share : Share)
  | settings (settings : Settings)
  | method (method : RecoveryMethod)

/-- What a reading finds, if it does not fail. -/
def Reading.find : Reading → Except Error Found
  | .unlock vault password => (fun r => .opened r.1 r.2) <$> Vault.unlock vault password
  | .unlockWithKey vault key => .payload <$> Vault.unlockWithKey vault key
  | .unlockWithPhrase vault phrase =>
    (fun r => .opened r.1 r.2) <$> Vault.unlockWithPhrase vault phrase
  | .isVault vault => .ok (.flag (Vault.isVault vault))
  | .exportText vault => .text <$> Vault.exportText vault
  | .mayUseKey now last window => .flag <$> PasswordVault.mayUseKey now last window
  | .stretch costs secret salt => .bytes <$> stretchSecret costs secret salt
  | .stretchPassword costs password salt =>
    .bytes <$> PasswordVault.stretchPassword costs password salt
  | .seedKey seed => .bytes <$> PasswordVault.seedKey seed
  | .recoverPhrase phrase => .bytes <$> Phrase.recover phrase
  | .decrypt parts cipher key ad => .bytes <$> parts.openNamed cipher key ad
  | .openBox box cipher key ad => .bytes <$> box.openNamed cipher key ad
  | .combine shares => .bytes <$> Share.combine shares
  | .encodeShare share => .text <$> share.encode
  | .decodeShare text => .share <$> Share.decode text
  | .openShard recoveryId email box => .text <$> Shard.openFor recoveryId email box
  | .recoverSeed pieces => .bytes <$> PasswordVault.recoverSeed pieces
  | .recoverRecord text box => .bytes <$> Record.recover text box
  | .hasFingerprint text hash => .flag <$> BackupKey.hasFingerprint text hash
  | .settings v => .settings <$> (Settings.ofJson v).toExcept
  | .payloadBytes payload => .bytes <$> Vault.plaintextOf payload
  | .payloadOfBytes bytes => .payload <$> Payload.ofBytes bytes
  | .decodeBase64 count text => .bytes <$> Base64.decodeSized count text
  | .decodeBackupKey text => .bytes <$> BackupKey.decode text
  | .hashToken token => .text <$> Token.hash token
  | .verifyToken token digest => .flag <$> Token.verify token digest
  | .method name => .method <$> RecoveryMethod.ofName name

/-- An operation with its arguments; one that seals a new vault has the settings of its store. -/
inductive Operation where
  | salt (count : ℕ)
  | phrase
  | split (secret : Bytes) (total threshold : ℤ)
  | encrypt (cipher : String) (key ad plaintext : Bytes)
  | sealBox (cipher : String) (key ad plaintext : Bytes)
  | create (settings : Settings) (now : Instant) (password : Text)
  | createWith (settings : Settings) (now : Instant) (password : Text) (payload : Given Payload)
      (seed : Bytes)
  | update (vault : Given Vault) (now : Instant) (password : Text) (payload : Given Payload)
  | updateWithKey (vault : Given Vault) (now : Instant) (key : Bytes) (payload : Given Payload)
  | changePassword (settings : Settings) (vault : Given Vault) (now : Instant)
      (password next : Text)
  | bundle (now : Instant) (seed : Bytes) (contacts : List (Given Contact)) (threshold : ℤ)
  | backupKey
  | record (now : Instant) (seed key : Bytes)
  | token
  | reading (reading : Reading)

inductive Answer where
  | bytes (bytes : Bytes)
  | text (text : String)
  | phrase (phrase : String) (seed : Bytes)
  | shares (shares : List Share)
  | parts (parts : Sealed)
  | box (box : Box)
  | vault (vault : Vault)
  | created (vault : Vault) (phrase : String)
  | bundle (bundle : Bundle)
  | record (record : Record)
  | found (found : Found)

namespace Answer

/-- The boxes that were sealed for an answer, in the order of their nonces. -/
def boxes : Answer → List Box
  | .parts p => [Box.ofSealed p]
  | .box b => [b]
  | .vault v => v.boxes
  | .created v _ => v.boxes
  | .bundle b => b.shards.map Shard.box
  | .record r => [r.box]
  | _ => []

/-- The vault that was sealed for an answer. -/
def vault? : Answer → Option Vault
  | .vault v => some v
  | .created v _ => some v
  | _ => none

end Answer

namespace Operation

/-- The operation on a tape. -/
def attempt : Operation → Attempt Answer
  | .salt count => .bytes <$> liftM (draw count)
  | .phrase => (fun r => .phrase r.1 r.2) <$> liftM Phrase.generate
  | .split secret total threshold => .shares <$> Share.split secret total threshold
  | .encrypt cipher key ad plaintext => .parts <$> Sealed.sealNamed cipher key ad plaintext
  | .sealBox cipher key ad plaintext => .box <$> Box.sealNamed cipher key ad plaintext
  | .create settings now password =>
    (fun r => .created r.1 r.2) <$> Vault.create settings now password
  | .createWith settings now password payload seed =>
    .vault <$> Vault.createWith settings now password payload seed
  | .update vault now password payload => .vault <$> Vault.update vault now password payload
  | .updateWithKey vault now key payload => .vault <$> Vault.updateWithKey vault now key payload
  | .changePassword settings vault now password next =>
    .vault <$> Vault.changePassword settings vault now password next
  | .bundle now seed contacts threshold => .bundle <$> Bundle.setup now seed contacts threshold
  | .backupKey => .bytes <$> liftM BackupKey.generate
  | .record now seed key => .record <$> Record.setup now seed key
  | .token => .text <$> liftM Token.create
  | .reading r => .found <$> Attempt.ofExcept r.find

/-- The store was set up with settings that make vaults, as all settings do that were read. -/
def Configured : Operation → Prop
  | .create settings _ _ => settings.Valid
  | .createWith settings _ _ _ _ => settings.Valid
  | .changePassword settings _ _ _ _ => settings.Valid
  | _ => True

end Operation

/-- **What is made of what an operation draws**: the byte strings, in the order in which they are
drawn, and the answer that each of them is a part of. -/
inductive Made : Operation → Answer → List Bytes → Prop where
  | salt {count : ℕ} {d : Bytes} (hl : d.length = count) : Made (.salt count) (.bytes d) [d]
  | phrase {entropy : Bytes} {phrase : String} (hl : entropy.length = Phrase.entropyLength)
      (hp : phrase = Phrase.join (Phrase.ofEntropy entropy)) :
      Made .phrase (.phrase phrase (Phrase.stretch phrase)) [entropy]
  | split {secret : Bytes} {total threshold : ℤ} {shares : List Share} {ds : List Bytes}
      (h : Share.SplitWith secret total threshold shares ds) :
      Made (.split secret total threshold) (.shares shares) ds
  | encrypt {cipher : String} {key ad plaintext : Bytes} {parts : Sealed}
      (hl : parts.nonce.length = nonceLength) :
      Made (.encrypt cipher key ad plaintext) (.parts parts) [parts.nonce]
  | sealBox {cipher : String} {key ad plaintext : Bytes} {box : Box} {ds : List Bytes}
      (h : NoncesOf [box] ds) : Made (.sealBox cipher key ad plaintext) (.box box) ds
  | create {settings : Settings} {now : Instant} {password : Text} {phrase : String}
      {vault : Vault} {entropy : Bytes} {ds : List Bytes}
      (hl : entropy.length = Phrase.entropyLength)
      (hp : phrase = Phrase.join (Phrase.ofEntropy entropy))
      (h : vault.SealedAnew settings.saltLength ds) :
      Made (.create settings now password) (.created vault phrase) (entropy :: ds)
  | createWith {settings : Settings} {now : Instant} {password : Text} {payload : Given Payload}
      {seed : Bytes} {vault : Vault} {ds : List Bytes}
      (h : vault.SealedAnew settings.saltLength ds) :
      Made (.createWith settings now password payload seed) (.vault vault) ds
  | update {given : Given Vault} {now : Instant} {password : Text} {payload : Given Payload}
      {vault : Vault} {ds : List Bytes} (h : NoncesOf vault.boxes ds) :
      Made (.update given now password payload) (.vault vault) ds
  | updateWithKey {given : Given Vault} {now : Instant} {key : Bytes} {payload : Given Payload}
      {vault : Vault} {ds : List Bytes} (h : NoncesOf vault.boxes ds) :
      Made (.updateWithKey given now key payload) (.vault vault) ds
  | changePassword {settings : Settings} {given : Given Vault} {now : Instant}
      {password next : Text} {vault : Vault} {ds : List Bytes}
      (h : vault.SealedAnew settings.saltLength ds) :
      Made (.changePassword settings given now password next) (.vault vault) ds
  | bundle {now : Instant} {seed : Bytes} {contacts : List (Given Contact)} {threshold : ℤ}
      {bundle : Bundle} {ds : List Bytes} (h : bundle.SealedAnew seed threshold ds) :
      Made (.bundle now seed contacts threshold) (.bundle bundle) ds
  | backupKey {key : Bytes} (hl : key.length = BackupKey.length) :
      Made .backupKey (.bytes key) [key]
  | record {now : Instant} {seed key : Bytes} {record : Record} {ds : List Bytes}
      (h : NoncesOf [record.box] ds) : Made (.record now seed key) (.record record) ds
  | token {d : Bytes} (hl : d.length = Token.length) : Made .token (.text (Hex.encode d)) [d]
  | reading {reading : Reading} {found : Found} (h : reading.find = .ok found) :
      Made (.reading reading) (.found found) []

/-- **What is lost when an operation fails**: nothing, unless a new password or the address of a
contact has no UTF-8 form; then the byte strings that were drawn before that is found out. -/
inductive Lost : Operation → Error → List Bytes → Prop where
  | nothing {o : Operation} {e : Error} : Lost o e []
  | create {settings : Settings} {now : Instant} {password : Text} {ds : List Bytes}
      (hp : password.isWhole = false)
      (hl : ds.map List.length = [Phrase.entropyLength, settings.saltLength]) :
      Lost (.create settings now password) .unencodable ds
  | createWith {settings : Settings} {now : Instant} {password : Text} {payload : Given Payload}
      {seed : Bytes} {ds : List Bytes} (hp : password.isWhole = false)
      (hl : ds.map List.length = [settings.saltLength]) :
      Lost (.createWith settings now password payload seed) .unencodable ds
  | changePassword {settings : Settings} {given : Given Vault} {now : Instant}
      {password next : Text} {ds : List Bytes} (hp : next.isWhole = false)
      (hl : ds.map List.length = [settings.saltLength]) :
      Lost (.changePassword settings given now password next) .unencodable ds
  | bundle {now : Instant} {seed : Bytes} {contacts : List (Given Contact)} {threshold : ℤ}
      {done : ℕ} {ds : List Bytes} (hb : Request.BreaksOff seed contacts threshold done)
      (hl : ds.map List.length = recoveryIdLength ::
        (List.replicate seedLength (threshold.toNat - 1) ++ List.replicate done nonceLength)) :
      Lost (.bundle now seed contacts threshold) .unencodable ds

theorem lost_of_unspent {o : Operation} (e : Error) (ds : List Bytes) (h : Unspent e ds) :
    Lost o e ds := by
  obtain rfl : ds = [] := h
  exact .nothing

theorem lost_of_lostOn {o : Operation} {text : Text} {lengths : List ℕ}
    (ho : ∀ ds, text.isWhole = false → ds.map List.length = lengths → Lost o .unencodable ds)
    (e : Error) (ds : List Bytes) (h : Vault.LostOn text lengths e ds) : Lost o e ds := by
  rcases h with rfl | ⟨htext, rfl, hl⟩
  · exact .nothing
  · exact ho ds htext hl

/-- The nonces of an answer are the last byte strings that were drawn for it. -/
theorem Made.nonces {o : Operation} {a : Answer} {ds : List Bytes} (h : Made o a ds) :
    ∃ others nonces, ds = others ++ nonces ∧ NoncesOf a.boxes nonces := by
  cases h with
  | salt | phrase | split | backupKey | token | reading =>
    exact ⟨_, [], (List.append_nil _).symm, .nil⟩
  | encrypt hl => exact ⟨[], _, rfl, .cons ⟨hl, rfl⟩ .nil⟩
  | sealBox h | update h | updateWithKey h | record h => exact ⟨[], _, rfl, h⟩
  | create _ _ h =>
    obtain ⟨salt, nonces, -, -, hn, rfl⟩ := h
    exact ⟨[_, salt], nonces, rfl, hn⟩
  | createWith h | changePassword h =>
    obtain ⟨salt, nonces, -, -, hn, rfl⟩ := h
    exact ⟨[salt], nonces, rfl, hn⟩
  | bundle h =>
    obtain ⟨id, coefficients, nonces, shares, -, -, -, -, hn, rfl⟩ := h
    exact ⟨id :: coefficients, nonces, rfl, hn⟩

/-- **On every tape an operation either draws what its answer is made of**, and nothing else, or
fails and loses what it is known to lose. -/
theorem disciplined_attempt {o : Operation} (ho : o.Configured) :
    Disciplined o.attempt (Made o) (Lost o) := by
  cases o with
  | salt count =>
    refine (Yields.draw count).disciplined.map ?_
    rintro d _ ⟨hl, rfl⟩
    exact .salt hl
  | phrase =>
    refine Vault.yields_generate.disciplined.map ?_
    rintro _ _ ⟨entropy, phrase, hl, hp, rfl, rfl⟩
    dsimp only
    exact .phrase hl hp
  | split secret total threshold =>
    exact ((Share.disciplined_split secret total threshold).map fun _ _ h => .split h).mono
      lost_of_unspent
  | encrypt cipher key ad plaintext =>
    refine ((disciplined_sealed_sealNamed cipher key ad plaintext).map ?_).mono lost_of_unspent
    rintro parts _ ⟨hl, rfl⟩
    exact .encrypt hl
  | sealBox cipher key ad plaintext =>
    exact ((disciplined_sealNamed cipher key ad plaintext).map fun _ _ h => .sealBox h).mono
      lost_of_unspent
  | create settings now password =>
    refine ((Vault.disciplined_create ho now password).map ?_).mono
      (lost_of_lostOn fun _ hp hl => .create hp hl)
    rintro ⟨vault, phrase⟩ _ ⟨entropy, ds, hl, hp, hv, rfl⟩
    exact .create hl hp hv
  | createWith settings now password payload seed =>
    exact ((Vault.disciplined_createWith ho now password payload seed).map
      fun _ _ h => .createWith h).mono (lost_of_lostOn fun _ hp hl => .createWith hp hl)
  | update given now password payload =>
    exact ((Vault.disciplined_update given now password payload).map fun _ _ h => .update h).mono
      lost_of_unspent
  | updateWithKey given now key payload =>
    exact ((Vault.disciplined_updateWithKey given now key payload).map
      fun _ _ h => .updateWithKey h).mono lost_of_unspent
  | changePassword settings given now password next =>
    exact ((Vault.disciplined_changePassword ho given now password next).map
      fun _ _ h => .changePassword h).mono (lost_of_lostOn fun _ hp hl => .changePassword hp hl)
  | bundle now seed contacts threshold =>
    refine ((disciplined_setup now seed contacts threshold).map fun _ _ h => .bundle h).mono ?_
    rintro e ds (rfl | ⟨done, hb, rfl, hl⟩)
    · exact .nothing
    · exact .bundle hb hl
  | backupKey =>
    refine yields_backupKey.disciplined.map ?_
    rintro key _ ⟨hl, rfl⟩
    exact .backupKey hl
  | record now seed key =>
    exact ((disciplined_record now seed key).map fun _ _ h => .record h).mono lost_of_unspent
  | token =>
    refine yields_token.disciplined.map ?_
    rintro _ _ ⟨d, hl, rfl, rfl⟩
    exact .token hl
  | reading reading =>
    refine ((Disciplined.ofExcept reading.find).map ?_).mono lost_of_unspent
    rintro found _ ⟨h, rfl⟩
    exact .reading h

end PasswordVault.Session
