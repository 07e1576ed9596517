import PasswordVault.Proofs.Recovery.BackupKey
import PasswordVault.Proofs.Recovery.Bundle
import PasswordVault.Proofs.Text.Base64
import PasswordVault.Proofs.Vault.Parts
import PasswordVault.Recovery.Record

/-!
# Opening a box that may have been tampered with

A box is three texts. It opens if they write a nonce and a tag of the right lengths and a
ciphertext, the key has the right length, and the cipher accepts these parts; what comes out is then
what the cipher decrypts. In every other case opening fails, always in the same way. A contact's
shard and a record are opened through a box, and report the failure of the box as a failure of the
secret that was presented.

* `Box.OpensTo`: **what opens**, stated over the three texts;
* `Box.openNamed_eq_ok_iff`, `Box.openNamed_eq_error_iff`: opening a box;
* `asciiText_eq_ok_iff`: the bytes of ASCII texts;
* `Shard.openFor_eq_ok_iff`, `Record.recover_eq_ok_iff`: opening a shard and a record, with
  `Shard.openFor_eq_error_iff` and `Record.recover_eq_error_iff` for when that fails;
* `opening_fails_closed`: **nothing but what the cipher accepts comes out**.
-/

namespace PasswordVault

theorem Base64.toOption_decodeSized {count : ℕ} {text : Text} {bytes : Bytes} :
    (decodeSized (some count) text).toOption = some bytes ↔
      Writes text bytes ∧ bytes.length = count := by
  rw [← decode?_eq_some_iff]
  unfold decodeSized
  cases decode? text with
  | none => exact iff_of_false nofun nofun
  | some read =>
    simp only [Option.some_inj, Nat.cast_inj]
    by_cases hl : read.length = count
    · rw [if_pos hl]
      constructor
      · intro h
        obtain rfl : read = bytes := Option.some.inj h
        exact ⟨rfl, hl⟩
      · rintro ⟨rfl, -⟩
        rfl
    · rw [if_neg hl]
      refine iff_of_false nofun ?_
      rintro ⟨rfl, h⟩
      exact hl h

namespace Box

/-- **What a box opens to.** -/
def OpensTo (box : Box) (cipher : Cipher) (key ad plaintext : Bytes) : Prop :=
  ∃ nonce tag ciphertext,
    (Base64.Writes box.nonce nonce ∧ nonce.length = 12) ∧
    (Base64.Writes box.tag tag ∧ tag.length = 16) ∧
    Base64.Writes box.ciphertext ciphertext ∧
    key.length = 32 ∧
    cipher.decrypt? key nonce ad (ciphertext ++ tag) = some plaintext

/-! ### The parts of a box -/

theorem parts?_eq_some_iff {box : Box} {parts : Sealed} : box.parts? = some parts ↔
    (Base64.Writes box.nonce parts.nonce ∧ parts.nonce.length = nonceLength) ∧
    (Base64.Writes box.tag parts.tag ∧ parts.tag.length = tagLength) ∧
    Base64.Writes box.ciphertext parts.ciphertext := by
  obtain ⟨nonce, tag, ciphertext⟩ := parts
  simp only [parts?, Option.bind_eq_bind, Option.bind_eq_some_iff, Base64.toOption_decodeSized,
    Base64.decode?_eq_some_iff]
  constructor
  · rintro ⟨n, hn, t, ht, c, hc, h⟩
    cases h
    exact ⟨hn, ht, hc⟩
  · rintro ⟨hn, ht, hc⟩
    exact ⟨nonce, hn, tag, ht, ciphertext, hc, rfl⟩

theorem openWith?_eq_some_iff {box : Box} {cipher : Cipher} {key ad plaintext : Bytes} :
    box.openWith? cipher key ad = some plaintext ↔ box.OpensTo cipher key ad plaintext := by
  constructor
  · intro h
    obtain ⟨parts, hp, ho⟩ := Option.bind_eq_some_iff.mp h
    obtain ⟨hn, ht, hc⟩ := parts?_eq_some_iff.mp hp
    have hk : key.length = keyLength := length_of_openWith? h
    rw [Sealed.openWith?_eq_decrypt? ⟨hk, hn.2, ht.2⟩] at ho
    exact ⟨parts.nonce, parts.tag, parts.ciphertext, hn, ht, hc, hk, ho⟩
  · rintro ⟨nonce, tag, ciphertext, hn, ht, hc, hk, ho⟩
    have hp : box.parts? = some ⟨nonce, tag, ciphertext⟩ := parts?_eq_some_iff.mpr ⟨hn, ht, hc⟩
    refine Option.bind_eq_some_iff.mpr ⟨_, hp, ?_⟩
    rw [Sealed.openWith?_eq_decrypt? ⟨hk, hn.2, ht.2⟩]
    exact ho

theorem openWith?_eq_none_iff {box : Box} {cipher : Cipher} {key ad : Bytes} :
    box.openWith? cipher key ad = none ↔ ¬∃ plaintext, box.OpensTo cipher key ad plaintext := by
  simp only [← openWith?_eq_some_iff, ← Option.isSome_iff_exists, Option.not_isSome_iff_eq_none]

/-! ### Opening a box -/

theorem openNamed_eq (box : Box) (cipher : Cipher) (key ad : Bytes) :
    box.openNamed cipher.name key ad =
      match box.openWith? cipher key ad with
      | some plaintext => .ok plaintext
      | none => .error .decryption := by
  unfold openNamed openWith?
  cases box.parts? with
  | none => rfl
  | some parts =>
    change parts.openNamed cipher.name key ad = _
    unfold Sealed.openNamed
    rw [cipher.ofName_name]
    rfl

theorem openNamed_eq_ok_iff {box : Box} {cipher : Cipher} {key ad plaintext : Bytes} :
    box.openNamed cipher.name key ad = .ok plaintext ↔ box.OpensTo cipher key ad plaintext := by
  rw [openNamed_eq, ← openWith?_eq_some_iff]
  cases box.openWith? cipher key ad with
  | none => exact iff_of_false nofun nofun
  | some found => rw [Except.ok.injEq, Option.some_inj]

theorem openNamed_eq_error_iff {box : Box} {cipher : Cipher} {key ad : Bytes} {e : Error} :
    box.openNamed cipher.name key ad = .error e ↔
      (¬∃ plaintext, box.OpensTo cipher key ad plaintext) ∧ e = .decryption := by
  rw [openNamed_eq, ← openWith?_eq_none_iff]
  cases box.openWith? cipher key ad with
  | none => exact (Except.error.injEq _ _).to_iff.trans (eq_comm.trans (and_iff_right rfl).symm)
  | some found => exact iff_of_false nofun nofun

end Box

/-! ### ASCII texts -/

theorem toNat_ofNat_of_lt {b : UInt8} (h : b < 128) : (Char.ofNat b.toNat).toNat = b.toNat := by
  have hb : b.toNat < 128 := UInt8.lt_iff_toNat_lt.mp h
  have hv : b.toNat.isValidChar := Or.inl (by omega)
  rw [Char.ofNat, dif_pos hv]
  rfl

theorem isAscii_of_asciiText {bytes : Bytes} {text : String} (h : asciiText bytes = .ok text) :
    IsAscii text.toList ∧ Utf8.encode text = bytes := by
  unfold asciiText at h
  split_ifs at h with hall
  have hlt : ∀ b ∈ bytes, b < 128 := by simpa using hall
  obtain rfl := Except.ok.inj h
  have ha : IsAscii (String.ofList (bytes.map fun b => Char.ofNat b.toNat)).toList := by
    intro c hc
    rw [String.toList_ofList] at hc
    obtain ⟨b, hb, rfl⟩ := List.mem_map.mp hc
    rw [toNat_ofNat_of_lt (hlt b hb)]
    exact UInt8.lt_iff_toNat_lt.mp (hlt b hb)
  refine ⟨ha, ?_⟩
  rw [Utf8.encode_of_isAscii ha, String.toList_ofList, List.map_map]
  refine (List.map_congr_left fun b hb => ?_).trans (List.map_id bytes)
  rw [Function.comp_apply, toNat_ofNat_of_lt (hlt b hb), UInt8.ofNat_toNat, id]

/-- **The bytes of an ASCII text** are read as the text. -/
theorem asciiText_eq_ok_iff {bytes : Bytes} {text : String} : asciiText bytes = .ok text ↔
    IsAscii text.toList ∧ Utf8.encode text = bytes := by
  constructor
  · exact isAscii_of_asciiText
  · rintro ⟨ha, rfl⟩
    exact asciiText_encode ha

theorem asciiText_eq_error_iff {bytes : Bytes} {e : Error} : asciiText bytes = .error e ↔
    (¬∀ b ∈ bytes, b < 128) ∧ e = .notAscii := by
  have hall : (bytes.all fun b => b < 128) = true ↔ ∀ b ∈ bytes, b < 128 := by simp
  rw [asciiText, ← hall]
  by_cases h : (bytes.all fun b => b < 128) = true
  · rw [if_pos h]
    constructor
    · intro he
      cases he
    · rintro ⟨hn, -⟩
      exact absurd h hn
  · rw [if_neg h, Except.error.injEq, eq_comm]
    exact (and_iff_right h).symm

/-! ### Shards and records -/

namespace Shard

section Key
variable {given : Given Box} {box : Box} (hg : Box.accept given = .ok box) {recoveryId email : Text}
  {key : Bytes} (hk : contactKey recoveryId email = .ok key)
include hg hk

theorem openFor_eq_ok_iff {text : String} : openFor recoveryId email given = .ok text ↔
    IsAscii text.toList ∧ box.OpensTo .aesGcm key [] (Utf8.encode text) := by
  rw [openFor_of_accept hg hk, ← Box.openWith?_eq_some_iff]
  cases box.openWith? .aesGcm key [] with
  | none => exact iff_of_false nofun nofun
  | some plaintext =>
    rw [Option.some_inj, eq_comm (a := plaintext)]
    exact asciiText_eq_ok_iff

theorem openFor_eq_error_iff {e : Error} : openFor recoveryId email given = .error e ↔
    ((¬∃ plaintext, box.OpensTo .aesGcm key [] plaintext) ∧
      e = .authentication .recoveryShard) ∨
    ((∃ plaintext, box.OpensTo .aesGcm key [] plaintext ∧ ¬∀ b ∈ plaintext, b < 128) ∧
      e = .notAscii) := by
  simp only [openFor_of_accept hg hk, ← Box.openWith?_eq_some_iff]
  cases box.openWith? .aesGcm key [] with
  | none => simp [eq_comm]
  | some plaintext => simp [asciiText_eq_error_iff]

end Key

end Shard

/-- The key that was typed, if it is one and opens the box. -/
theorem Record.recover_of_accept {given : Given Box} {box : Box} (hg : Box.accept given = .ok box)
    (typed : Text) : recover typed given =
      match (BackupKey.decode? typed).bind fun key => box.openWith? .aesGcm key associatedData with
      | some seed => .ok seed
      | none => .error (.authentication .backupKey) := by
  unfold recover BackupKey.decode
  cases BackupKey.decode? typed with
  | none => rfl
  | some key =>
    rw [hg]
    rfl

theorem Record.opens_iff {box : Box} {typed : Text} {seed : Bytes} :
    ((BackupKey.decode? typed).bind fun key => box.openWith? .aesGcm key associatedData) =
        some seed ↔
      ∃ key, BackupKey.decode? typed = some key ∧ box.OpensTo .aesGcm key associatedData seed := by
  simp only [Option.bind_eq_some_iff, Box.openWith?_eq_some_iff]

theorem Record.recover_eq_ok_iff {given : Given Box} {box : Box} (hg : Box.accept given = .ok box)
    {typed : Text} {seed : Bytes} : recover typed given = .ok seed ↔
      ∃ key, BackupKey.decode? typed = some key ∧ box.OpensTo .aesGcm key associatedData seed := by
  rw [recover_of_accept hg, ← opens_iff]
  cases (BackupKey.decode? typed).bind fun key => box.openWith? .aesGcm key associatedData with
  | none => exact iff_of_false nofun nofun
  | some found => rw [Except.ok.injEq, Option.some_inj]

theorem Record.recover_eq_error_iff {given : Given Box} {box : Box}
    (hg : Box.accept given = .ok box) {typed : Text} {e : Error} :
    recover typed given = .error e ↔
      (¬∃ key seed, BackupKey.decode? typed = some key ∧
        box.OpensTo .aesGcm key associatedData seed) ∧ e = .authentication .backupKey := by
  rw [exists_comm]
  simp only [← opens_iff]
  rw [recover_of_accept hg]
  cases (BackupKey.decode? typed).bind fun key => box.openWith? .aesGcm key associatedData with
  | none => simp [eq_comm]
  | some found => simp

/-- **Nothing but what the cipher accepts comes out.** Whatever the three texts of a box, the key,
the associated data and the cipher: the box opens to a plaintext exactly if its texts write a nonce,
a tag and a ciphertext of the right lengths, the key has 32 bytes and the cipher decrypts them to
it, and fails to decrypt in every other case. For a contact who has a key, a shard opens to an ASCII
text that its box opens to; it fails as an invalid shard if its box does not open, and for its
characters if what its box opens to is no ASCII text. A contact has a key unless a surrogate stands
alone in the recovery id or in the address, and that is reported as such. A record gives what its
box opens to under the typed key, and fails as an invalid key in every other case. -/
theorem opening_fails_closed (box : Box) :
    (∀ (cipher : Cipher) (key : Bytes) (given : Option Bytes),
      let ad := given.getD []
      (∀ plaintext, box.openNamed cipher.name key ad = .ok plaintext ↔
        box.OpensTo cipher key ad plaintext) ∧
      (∀ e, box.openNamed cipher.name key ad = .error e ↔
        (¬∃ plaintext, box.OpensTo cipher key ad plaintext) ∧ e = .decryption)) ∧
    (∀ given : Given Box, Box.accept given = .ok box → ∀ recoveryId email : Text,
      (∀ key, contactKey recoveryId email = .ok key →
        (∀ text, Shard.openFor recoveryId email given = .ok text ↔
          IsAscii text.toList ∧ box.OpensTo .aesGcm key [] (Utf8.encode text)) ∧
        (∀ e, Shard.openFor recoveryId email given = .error e ↔
          ((¬∃ plaintext, box.OpensTo .aesGcm key [] plaintext) ∧
            e = .authentication .recoveryShard) ∨
          ((∃ plaintext, box.OpensTo .aesGcm key [] plaintext ∧ ¬∀ b ∈ plaintext, b < 128) ∧
            e = .notAscii))) ∧
      ((∃ key, contactKey recoveryId email = .ok key) ↔
        recoveryId.isWhole = true ∧ email.isWhole = true) ∧
      (recoveryId.isWhole = false ∨ email.isWhole = false →
        Shard.openFor recoveryId email given = .error .unencodable)) ∧
    (∀ given : Given Box, Box.accept given = .ok box → ∀ typed : Text,
      (∀ seed, Record.recover typed given = .ok seed ↔
        ∃ key, BackupKey.decode? typed = some key ∧
          box.OpensTo .aesGcm key Record.associatedData seed) ∧
      (∀ e, Record.recover typed given = .error e ↔
        (¬∃ key seed, BackupKey.decode? typed = some key ∧
          box.OpensTo .aesGcm key Record.associatedData seed) ∧
        e = .authentication .backupKey)) ∧
    Error.decryption.message = "Decryption failed" ∧
    (Error.authentication .recoveryShard).message = "Invalid recovery shard" ∧
    (Error.authentication .backupKey).message = "Invalid backup key" := by
  refine ⟨fun cipher key given => ?_, fun given hg recoveryId email => ?_,
    fun given hg typed => ?_, rfl, by decide, by decide⟩
  · exact ⟨fun plaintext => Box.openNamed_eq_ok_iff, fun e => Box.openNamed_eq_error_iff⟩
  · exact ⟨fun key hk => ⟨fun text => Shard.openFor_eq_ok_iff hg hk,
      fun e => Shard.openFor_eq_error_iff hg hk⟩, exists_contactKey_iff, Shard.openFor_broken hg⟩
  · exact ⟨fun seed => Record.recover_eq_ok_iff hg, fun e => Record.recover_eq_error_iff hg⟩

/-- A sealed byte that is no ASCII character, and a box with a tag that is no base64. -/
theorem opening_fails_closed_tampered :
    (∃ box, Shard.openFor "00ff" "Ann@Example.org " (.json box) = .error .notAscii) ∧
      (Box.mk "AAAAAAAAAAAAAAAA" "~" "").openNamed "aes-256-gcm" [] [] = .error .decryption := by
  constructor
  · obtain ⟨key, hk⟩ : ∃ key, contactKey "00ff" "Ann@Example.org " = .ok key :=
      exists_contactKey_iff.mpr ⟨rfl, rfl⟩
    let box := (Box.sealWith .aesGcm key [] [255] ⟨fun _ => 1, 0⟩).1
    have ho : box.OpensTo .aesGcm key [] [255] :=
      Box.openWith?_eq_some_iff.mp
        (Box.openWith?_sealWith .aesGcm (length_of_contactKey hk) [] [255] _)
    have hg : Box.accept (.json box.toJson) = .ok box := Box.accept_of_stands (Or.inr rfl)
    obtain ⟨-, hshard, -⟩ := opening_fails_closed box
    obtain ⟨hopens, -⟩ := hshard _ hg "00ff" "Ann@Example.org "
    exact ⟨box.toJson, ((hopens key hk).2 _).mpr (Or.inr ⟨⟨[255], ho, by simp⟩, rfl⟩)⟩
  · obtain ⟨hbox, -⟩ := opening_fails_closed ⟨"AAAAAAAAAAAAAAAA", "~", ""⟩
    refine ((hbox .aesGcm [] none).2 _).mpr ⟨?_, rfl⟩
    rintro ⟨_, -, tag, -, -, ⟨htag, -⟩, -⟩
    have hread : Base64.decode? "~" = none := by decide
    have h := Base64.decode?_eq_some_iff.mpr htag
    rw [hread] at h
    cases h

/-- A shard is **not always refused as such**: not for a contact who has no key. -/
theorem shards_not_always_refused : ¬ ∀ (given : Given Box) (box : Box),
    Box.accept given = .ok box → ∀ recoveryId email : Text,
      (∃ text, Shard.openFor recoveryId email given = .ok text) ∨
        Shard.openFor recoveryId email given = .error (.authentication .recoveryShard) ∨
        Shard.openFor recoveryId email given = .error .notAscii := by
  intro hrefused
  let box : Box := ⟨"AAAAAAAAAAAAAAAA", "AAAAAAAAAAAAAAAAAAAAAA==", "AAAA"⟩
  have hg : Box.accept (.value box) = .ok box := rfl
  have ho : Shard.openFor "00ff" Text.lone (.value box) = .error .unencodable :=
    Shard.openFor_broken hg (Or.inr rfl)
  rcases hrefused (.value box) box hg "00ff" Text.lone with ⟨text, h⟩ | h | h
  · cases ho.symm.trans h
  · cases ho.symm.trans h
  · cases ho.symm.trans h

end PasswordVault
