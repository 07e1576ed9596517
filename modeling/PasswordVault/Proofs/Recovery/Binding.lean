import PasswordVault.Proofs.Recovery.Bundle

/-!
# What a shard is bound to

The recovery id enters the key of a contact as the key of an HMAC, and so only by the block that it
fills: up to 64 bytes are filled up with zeros, and more are hashed first. Two ids with one block
are as good as each other, and with up to 48 zeros behind it the id of a bundle still has its block.
With another block the derivation hashes other messages. So an id with another block opens a shard
only if two of these messages have one digest, or if the box opens under two different keys.

* `HashFunction.keyBlock_eq_iff`: keys that fill the same block;
* `HashFunction.collide_of_mac_eq`, `hkdfCollides_of_eq`: **keys with different blocks that lead to
  one result** give two messages with one digest;
* `Shard.opens_of_sameBlock`, `Shard.refuses_or_coincides`: ids with the same block and ids with
  another one;
* `Bundle.not_bound_to_id`: a shard is **not bound to the id** of its bundle;
* `Bundle.bound_to_block`: **it is bound to the block of the id**.
-/

namespace PasswordVault

/-! ### Blocks -/

namespace HashFunction
variable {hash : HashFunction} {key other : Bytes}

theorem keyBlock_of_le (h : key.length ≤ hash.blockSize) :
    hash.keyBlock key = key ++ List.replicate (hash.blockSize - key.length) 0 := by
  rw [keyBlock, if_neg (Nat.not_lt.mpr h)]

/-- Zeros behind a key are lost, as long as both fit into a block. -/
theorem keyBlock_append_zeros {n : ℕ} (h : key.length + n ≤ hash.blockSize) :
    hash.keyBlock (key ++ List.replicate n 0) = hash.keyBlock key := by
  have hl : (key ++ List.replicate n (0 : UInt8)).length = key.length + n := by simp
  rw [keyBlock_of_le (hl.trans_le h), keyBlock_of_le (by omega), hl, List.append_assoc,
    List.replicate_append_replicate]
  congr 2
  omega

/-- **Keys that fill the same block**, without being hashed, differ by zeros at the end. -/
theorem keyBlock_eq_iff (hk : key.length ≤ hash.blockSize) (ho : other.length ≤ hash.blockSize) :
    hash.keyBlock key = hash.keyBlock other ↔
      (∃ n, key = other ++ List.replicate n 0) ∨ ∃ n, other = key ++ List.replicate n 0 := by
  constructor
  · intro h
    rw [keyBlock_of_le hk, keyBlock_of_le ho, List.append_eq_append_iff] at h
    rcases h with ⟨zeros, hother, hz⟩ | ⟨zeros, hkey, hz⟩
    · obtain ⟨-, hz, -⟩ := List.append_eq_replicate_iff.mp hz.symm
      exact Or.inr ⟨_, hz ▸ hother⟩
    · obtain ⟨-, hz, -⟩ := List.append_eq_replicate_iff.mp hz.symm
      exact Or.inl ⟨_, hz ▸ hkey⟩
  · rintro (⟨n, rfl⟩ | ⟨n, rfl⟩)
    · exact keyBlock_append_zeros (by simpa using hk)
    · exact (keyBlock_append_zeros (by simpa using ho)).symm

theorem length_keyBlock (hd : ∀ message, (hash.digest message).length ≤ hash.blockSize)
    (key : Bytes) : (hash.keyBlock key).length = hash.blockSize := by
  have hl := hd key
  unfold keyBlock
  split_ifs with h
  · simp only [List.length_append, List.length_replicate]
    omega
  · simp only [List.length_append, List.length_replicate]
    omega

/-! ### Collisions -/

/-- Two messages with one digest. -/
structure Collide (hash : HashFunction) (x y : Bytes) : Prop where
  ne : x ≠ y
  digest : hash.digest x = hash.digest y

/-- What is hashed last for the HMAC of a message under a key. -/
def outer (hash : HashFunction) (key message : Bytes) : Bytes :=
  (hash.keyBlock key).map (fun b => b ^^^ 0x5c) ++
    hash.digest ((hash.keyBlock key).map (fun b => b ^^^ 0x36) ++ message)

theorem mac_eq_digest_outer (hash : HashFunction) (key message : Bytes) :
    hash.mac key message = hash.digest (hash.outer key message) :=
  rfl

theorem xor_injective (pad : UInt8) : Function.Injective fun b : UInt8 => b ^^^ pad := by
  intro a b h
  have h' : a ^^^ pad ^^^ pad = b ^^^ pad ^^^ pad := congrArg (fun x => x ^^^ pad) h
  rwa [UInt8.xor_assoc, UInt8.xor_assoc, UInt8.xor_self, UInt8.xor_zero, UInt8.xor_zero] at h'

/-- **One HMAC under keys with different blocks** gives two messages with one digest. -/
theorem collide_of_mac_eq (hd : ∀ message, (hash.digest message).length ≤ hash.blockSize)
    (hb : hash.keyBlock key ≠ hash.keyBlock other) {message message' : Bytes}
    (h : hash.mac key message = hash.mac other message') :
    hash.Collide (hash.outer key message) (hash.outer other message') := by
  rw [mac_eq_digest_outer, mac_eq_digest_outer] at h
  refine ⟨fun he => hb ?_, h⟩
  have hl : ((hash.keyBlock key).map fun b => b ^^^ 0x5c).length =
      ((hash.keyBlock other).map fun b => b ^^^ 0x5c).length := by
    rw [List.length_map, List.length_map, length_keyBlock hd, length_keyBlock hd]
  exact (xor_injective 0x5c).list_map (List.append_inj_left he hl)

theorem length_digest_sha256_le (message : Bytes) :
    (sha256.digest message).length ≤ sha256.blockSize := by
  simp [sha256]

end HashFunction

/-- Two salts for one key material, with two messages that have one digest in the first or in the
second step of the derivation. -/
def HkdfCollides (salt other material context : Bytes) : Prop :=
  let hash := HashFunction.sha256
  hash.Collide (hash.outer salt material) (hash.outer other material) ∨
    hash.Collide (hash.outer (hash.mac salt material) (context ++ [1]))
      (hash.outer (hash.mac other material) (context ++ [1]))

/-- **One key from salts with different blocks** gives two messages with one digest. -/
theorem hkdfCollides_of_eq {salt other material context : Bytes}
    (hb : HashFunction.sha256.keyBlock salt ≠ HashFunction.sha256.keyBlock other)
    (h : hkdf salt material context = hkdf other material context) :
    HkdfCollides salt other material context := by
  have hd := HashFunction.length_digest_sha256_le
  by_cases hm : HashFunction.sha256.mac salt material = HashFunction.sha256.mac other material
  · exact Or.inl (HashFunction.collide_of_mac_eq hd hb hm)
  · refine Or.inr (HashFunction.collide_of_mac_eq hd (fun he => hm ?_) h)
    have hl (key : Bytes) : (HashFunction.sha256.mac key material).length = 32 := by
      simp [HashFunction.mac, HashFunction.macOfBlock, HashFunction.sha256]
    have hs (key : Bytes) :
        (HashFunction.sha256.mac key material).length ≤ HashFunction.sha256.blockSize := by
      rw [hl]
      decide
    rw [HashFunction.keyBlock_of_le (hs salt), HashFunction.keyBlock_of_le (hs other)] at he
    exact List.append_inj_left he ((hl salt).trans (hl other).symm)

/-! ### Recovery ids -/

/-- The recovery ids fill the same block. -/
def SameBlock (id other : Text) : Prop :=
  ∃ bytes bytes', recoveryIdBytes id = .ok bytes ∧ recoveryIdBytes other = .ok bytes' ∧
    HashFunction.sha256.keyBlock bytes = HashFunction.sha256.keyBlock bytes'

theorem sameBlock_iff {id other : Text} {bytes bytes' : Bytes} (hi : recoveryIdBytes id = .ok bytes)
    (ho : recoveryIdBytes other = .ok bytes') : SameBlock id other ↔
      HashFunction.sha256.keyBlock bytes = HashFunction.sha256.keyBlock bytes' := by
  constructor
  · rintro ⟨_, _, hi', ho', h⟩
    obtain rfl := Except.ok.inj (hi.symm.trans hi')
    obtain rfl := Except.ok.inj (ho.symm.trans ho')
    exact h
  · intro h
    exact ⟨bytes, bytes', hi, ho, h⟩

theorem contactKey_of_sameBlock {id other : Text} (h : SameBlock id other) (email : Text) :
    contactKey id email = contactKey other email := by
  obtain ⟨bytes, bytes', hi, ho, hb⟩ := h
  have hm (message : Bytes) : HashFunction.sha256.mac bytes message =
      HashFunction.sha256.mac bytes' message := by
    rw [HashFunction.mac, HashFunction.mac, hb]
  rw [contactKey, contactKey, hi, ho]
  change (Utf8.encodeText _ >>= fun material => pure (hkdf bytes material _)) =
    (Utf8.encodeText _ >>= fun material => pure (hkdf bytes' material _))
  simp only [hkdf, hm]

/-- The recovery id of a bundle writes the first bytes that were drawn for it. -/
theorem recoveryIdBytes_of_gives_setup {now : Instant} {seed : Bytes} {given : List (Given Contact)}
    {threshold : ℤ} {tape rest : Tape} {bundle : Bundle}
    (h : Gives (Bundle.setup now seed given threshold) tape bundle rest) :
    recoveryIdBytes bundle.recoveryId = .ok (tape.slice tape.position recoveryIdLength) := by
  simp only [Bundle.setup, gives_bind, gives_ofExcept, gives_draw, gives_pure] at h
  obtain ⟨_, _, ⟨-, rfl⟩, id, _, ⟨hid, -⟩, _, _, -, _, _, -, rfl, -⟩ := h
  rw [recoveryIdBytes_encode, ← hid]
  rfl

/-! ### Shards -/

namespace Shard
variable {id recoveryId email : Text} {box : Given Box} {shard : Shard} {share : Share}

/-- **An id with the same block** opens what the id of the bundle opens. -/
theorem opens_of_sameBlock (hk : shard.Keeps recoveryId share) (hi : SameBlock id recoveryId)
    (ha : Answers shard.contact.email email) (hb : box.Stands Box.toJson shard.box) :
    ∃ text, openFor id email box = .ok text ∧ Share.decode text = .ok share ∧
      share.index = shard.shareIndex := by
  obtain ⟨text, hopen, hdecode, hindex⟩ := hk
  refine ⟨text, ?_, hdecode, hindex⟩
  rw [openFor, contactKey_of_sameBlock hi]
  exact hopen email box ha hb

/-- The coincidences by which an id with another block gets into a shard: two messages with one
digest lead to the key of the shard, or the box opens under its own key and under another one. -/
inductive Coincides (id recoveryId email : Text) (shard : Shard) : Prop where
  | collision {salt own material : Bytes} (hs : recoveryIdBytes id = .ok salt)
      (ho : recoveryIdBytes recoveryId = .ok own)
      (hm : Utf8.encodeText (normalizeEmail email) = .ok material)
      (h : HkdfCollides salt own material (Utf8.encode "sealed-vault-contact-shard-v1")) :
      Coincides id recoveryId email shard
  | twoKeys {key own : Bytes} (hk : contactKey id email = .ok key)
      (ho : contactKey recoveryId email = .ok own) (hne : key ≠ own)
      (h : (shard.box.openWith? .aesGcm key []).isSome)
      (h' : (shard.box.openWith? .aesGcm own []).isSome) : Coincides id recoveryId email shard

/-- What opened a shard. -/
theorem exists_contactKey_of_openFor {text : String} (hb : box.Stands Box.toJson shard.box)
    (h : openFor id email box = .ok text) :
    ∃ key, contactKey id email = .ok key ∧ (shard.box.openWith? .aesGcm key []).isSome := by
  cases hk : contactKey id email with
  | error e =>
    rw [openFor, Box.accept_of_stands hb, hk] at h
    cases h
  | ok key =>
    rw [openFor_of_accept (Box.accept_of_stands hb) hk] at h
    refine ⟨key, rfl, ?_⟩
    cases ho : shard.box.openWith? .aesGcm key [] with
    | none =>
      rw [ho] at h
      cases h
    | some plaintext => rfl

/-- **An id with another block** is refused, unless by coincidence. -/
theorem refuses_or_coincides (hk : shard.Keeps recoveryId share) (hw : id.isWhole = true)
    (hi : ¬ SameBlock id recoveryId) (ha : Answers shard.contact.email email)
    (hb : box.Stands Box.toJson shard.box) :
    openFor id email box = .error (.authentication .recoveryShard) ∨
      Coincides id recoveryId email shard := by
  obtain ⟨text, hopen, -, -⟩ := hk
  obtain ⟨own, hown, hself⟩ := exists_contactKey_of_openFor hb (hopen email box ha hb)
  obtain ⟨hid, hemail⟩ := exists_contactKey_iff.mp ⟨own, hown⟩
  obtain ⟨key, hkey⟩ := exists_contactKey_iff.mpr ⟨hw, hemail⟩
  rw [openFor_of_accept (Box.accept_of_stands hb) hkey]
  cases ho : shard.box.openWith? .aesGcm key [] with
  | none => exact Or.inl rfl
  | some plaintext =>
    refine Or.inr ?_
    by_cases he : key = own
    · obtain ⟨salt, material, hs, hm, hsalt⟩ := contactKey_eq_ok_iff.mp hkey
      obtain ⟨salt', material', hs', hm', hsalt'⟩ := contactKey_eq_ok_iff.mp hown
      obtain rfl := Except.ok.inj (hm.symm.trans hm')
      have hblock := mt (sameBlock_iff hs hs').mpr hi
      exact .collision hs hs' hm (hkdfCollides_of_eq hblock (hsalt.trans (he.trans hsalt'.symm)))
    · exact .twoKeys hkey hown he (Option.isSome_of_eq_some ho) hself

end Shard

namespace Bundle

section Setup
variable {now : Instant} {seed : Bytes} {given : List (Given Contact)} {threshold : ℤ}
  {tape rest : Tape} {bundle : Bundle}
  (h : Gives (setup now seed given threshold) tape bundle rest)
include h

theorem exists_keeps_of_gives_setup {shard : Shard} (hs : shard ∈ bundle.shards) :
    ∃ share, shard.Keeps bundle.recoveryId share := by
  obtain ⟨_, _, _, _, -, -, -, hkeeps⟩ := gives_setup h
  obtain ⟨share, -, hshare⟩ := exists_of_forall₂ hkeeps hs
  exact ⟨share, hshare⟩

/-- The id of a bundle with zeros behind it has the same block. -/
theorem sameBlock_append_zeros {n : ℕ} (hn : n ≤ 48) :
    SameBlock (Hex.encode (tape.slice tape.position recoveryIdLength ++ List.replicate n 0))
      bundle.recoveryId := by
  rw [sameBlock_iff (recoveryIdBytes_encode _) (recoveryIdBytes_of_gives_setup h)]
  refine HashFunction.keyBlock_append_zeros ?_
  rw [Tape.length_slice]
  change 16 + n ≤ 64
  omega

end Setup

theorem shards_ne_nil_of_gives_setup {now : Instant} {seed : Bytes} {given : List (Given Contact)}
    {threshold : ℤ} {tape rest : Tape} {bundle : Bundle}
    (h : Gives (setup now seed given threshold) tape bundle rest) : bundle.shards ≠ [] := by
  obtain ⟨contacts, _, _, _, hc, -, hcontacts, -⟩ := gives_setup h
  obtain ⟨-, ⟨hfewest, -⟩, -, hread, -⟩ := checkRequest_eq_ok_iff.mp hc
  have hl : given.length = contacts.length := hread.length_eq
  rintro he
  rw [he] at hcontacts
  rw [hl, hcontacts] at hfewest
  exact absurd hfewest (by decide)

/-- **A shard is bound to the block of the id**: the id of a bundle writes the 16 bytes that were
drawn for it; an id with the same block opens every shard for its contact, to the share that is in
it, any other id is refused, unless by coincidence, and one without a UTF-8 form is reported. Among
ids of at most 64 bytes those with the same block differ from the id of the bundle by zeros at the
end. -/
theorem bound_to_block {now : Instant} {seed : Bytes} {given : List (Given Contact)}
    {threshold : ℤ} {tape rest : Tape} {bundle : Bundle}
    (h : Gives (setup now seed given threshold) tape bundle rest) :
    recoveryIdBytes bundle.recoveryId = .ok (tape.slice tape.position recoveryIdLength) ∧
    (∀ shard ∈ bundle.shards, ∀ id email box, Answers shard.contact.email email →
      box.Stands Box.toJson shard.box →
      (SameBlock id bundle.recoveryId → ∃ text share, Shard.openFor id email box = .ok text ∧
        Share.decode text = .ok share ∧ share.index = shard.shareIndex) ∧
      (id.isWhole = true → ¬ SameBlock id bundle.recoveryId →
        Shard.openFor id email box = .error (.authentication .recoveryShard) ∨
          Shard.Coincides id bundle.recoveryId email shard) ∧
      (id.isWhole = false → Shard.openFor id email box = .error .unencodable)) ∧
    (∀ id bytes, recoveryIdBytes id = .ok bytes → bytes.length ≤ 64 →
      (SameBlock id bundle.recoveryId ↔
        (∃ n, bytes = tape.slice tape.position recoveryIdLength ++ List.replicate n 0) ∨
          ∃ n, tape.slice tape.position recoveryIdLength = bytes ++ List.replicate n 0)) ∧
    (Error.authentication .recoveryShard).message = "Invalid recovery shard" := by
  have hid := recoveryIdBytes_of_gives_setup h
  refine ⟨hid, fun shard hs id email box ha hb => ?_, fun id bytes hi hl => ?_, by decide⟩
  · obtain ⟨share, hk⟩ := exists_keeps_of_gives_setup h hs
    refine ⟨fun hi => ?_, fun hw hi => Shard.refuses_or_coincides hk hw hi ha hb,
      fun hw => Shard.openFor_broken (Box.accept_of_stands hb) (Or.inl hw)⟩
    obtain ⟨text, hopen⟩ := Shard.opens_of_sameBlock hk hi ha hb
    exact ⟨text, share, hopen⟩
  · rw [sameBlock_iff hi hid]
    refine HashFunction.keyBlock_eq_iff hl ?_
    rw [Tape.length_slice]
    decide

/-- The id of a bundle whose sixteen bytes are all one, with a zero byte behind it. -/
def longerId : String := "0101010101010101010101010101010100"

theorem exists_bundle_of_longerId : ∃ bundle rest shard,
    Gives (setup 0 (List.replicate 32 83) threeContacts 2) ⟨fun _ => 1, 0⟩ bundle rest ∧
      shard ∈ bundle.shards ∧ SameBlock longerId bundle.recoveryId ∧
      ∃ bytes own, recoveryIdBytes longerId = .ok bytes ∧
        recoveryIdBytes bundle.recoveryId = .ok own ∧ bytes ≠ own := by
  obtain ⟨bundle, rest, h⟩ :=
    exists_gives_setup checkRequest_threeContacts (by decide) 0 ⟨fun _ => 1, 0⟩
  obtain ⟨shard, hs⟩ := List.exists_mem_of_ne_nil _ (shards_ne_nil_of_gives_setup h)
  let bytes := Tape.slice ⟨fun _ => 1, 0⟩ 0 recoveryIdLength ++ List.replicate 1 0
  have hid : longerId = Hex.encode bytes := by decide
  refine ⟨bundle, rest, shard, h, hs, ?_, bytes, _, ?_, recoveryIdBytes_of_gives_setup h, ?_⟩
  · rw [hid]
    exact sameBlock_append_zeros h (by decide)
  · rw [hid]
    exact recoveryIdBytes_encode _
  · decide

/-- With one zero byte behind the id a shard opens as well. -/
theorem bound_to_block_of_longerId : ∃ bundle rest shard bytes own text share,
    Gives (setup 0 (List.replicate 32 83) threeContacts 2) ⟨fun _ => 1, 0⟩ bundle rest ∧
      shard ∈ bundle.shards ∧ recoveryIdBytes longerId = .ok bytes ∧
      recoveryIdBytes bundle.recoveryId = .ok own ∧ bytes ≠ own ∧
      Shard.openFor longerId shard.contact.email (.value shard.box) = .ok text ∧
      Share.decode text = .ok share := by
  obtain ⟨bundle, rest, shard, h, hs, hi, bytes, own, hbytes, hown, hne⟩ :=
    exists_bundle_of_longerId
  obtain ⟨-, hopens, -⟩ := bound_to_block h
  obtain ⟨text, share, hopen, hdecode, -⟩ :=
    (hopens shard hs longerId shard.contact.email _ (Or.inl rfl) (Or.inl rfl)).1 hi
  exact ⟨bundle, rest, shard, bytes, own, text, share, h, hs, hbytes, hown, hne, hopen, hdecode⟩

/-- A shard is **not bound to the id** of its bundle. -/
theorem not_bound_to_id : ¬ ∀ (now : Instant) (seed : Bytes) (given : List (Given Contact))
    (threshold : ℤ) (tape rest : Tape) (bundle : Bundle),
    Gives (setup now seed given threshold) tape bundle rest → ∀ shard ∈ bundle.shards,
      ∀ id bytes own, recoveryIdBytes id = .ok bytes →
      recoveryIdBytes bundle.recoveryId = .ok own → bytes ≠ own →
      Shard.openFor id shard.contact.email (.value shard.box) =
        .error (.authentication .recoveryShard) := by
  intro hbound
  obtain ⟨bundle, rest, shard, h, hs, hi, bytes, own, hbytes, hown, hne⟩ :=
    exists_bundle_of_longerId
  obtain ⟨share, hk⟩ := exists_keeps_of_gives_setup h hs
  obtain ⟨text, hopen, -⟩ := Shard.opens_of_sameBlock hk hi (Or.inl rfl) (Or.inl rfl)
  rw [hbound _ _ _ _ _ _ _ h shard hs longerId bytes own hbytes hown hne] at hopen
  cases hopen

end Bundle

end PasswordVault
