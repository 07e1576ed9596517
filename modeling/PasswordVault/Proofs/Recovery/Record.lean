import PasswordVault.Proofs.Recovery.BackupKey
import PasswordVault.Proofs.Recovery.Bundle
import PasswordVault.Recovery.Record

/-!
# Recovery with a typed backup key

The seed that was sealed under a key comes out of the record for every text that may be typed for
the key, and the text has the fingerprint in the record.

* `exists_gives_setup`: a seed and a key of the right lengths make a record;
* `recover_retyped`: **the key, typed as it may be, gives the seed back**.
-/

namespace PasswordVault.Record

open BackupKey (Retyped)

/-- **A seed and a key of the right lengths make a record.** -/
theorem exists_gives_setup {seed key : Bytes} (hs : seed.length = seedLength)
    (hk : key.length = BackupKey.length) (now : Instant) (tape : Tape) :
    ∃ record, Gives (setup now seed key) tape record (tape.advance nonceLength) ∧
      record.box.openWith? .aesGcm key associatedData = some seed ∧
      record.keyHash = BackupKey.fingerprint key := by
  have hc : checkKey key = .ok () := Except.ite_eq_ok_iff.mpr hk
  let box := (Box.sealWith .aesGcm key associatedData seed tape).1
  refine ⟨⟨box, BackupKey.fingerprint key, Timestamp.ofInstant now⟩, ?_,
    Box.openWith?_sealWith .aesGcm hk associatedData seed tape, rfl⟩
  refine gives_ofExcept_bind.mpr ⟨(), checkSeed_eq_ok_iff.mpr hs, ?_⟩
  refine gives_ofExcept_bind.mpr ⟨(), hc, ?_⟩
  exact gives_bind.mpr ⟨box, _, gives_draw.mpr ⟨rfl, rfl⟩, gives_pure.mpr ⟨rfl, rfl⟩⟩

theorem recover_of_decode? {text : Text} {key seed : Bytes} {box : Box} {given : Given Box}
    (hd : BackupKey.decode? text = some key) (hg : given.Stands Box.toJson box)
    (ho : box.openWith? .aesGcm key associatedData = some seed) :
    recover text given = .ok seed := by
  refine Except.bind_eq_ok_iff.mpr ⟨key, BackupKey.decode_eq_ok_iff.mpr hd, ?_⟩
  refine Except.bind_eq_ok_iff.mpr ⟨box, Box.accept_of_stands hg, ?_⟩
  rw [ho]
  rfl

theorem hasFingerprint_of_decode? {text : Text} {key : Bytes}
    (hd : BackupKey.decode? text = some key) :
    BackupKey.hasFingerprint text (BackupKey.fingerprint key) = .ok true := by
  rw [BackupKey.hasFingerprint, hd]
  exact congrArg Except.ok (decide_eq_true rfl)

/-- **The key, typed as it may be, gives the seed back.** A seed and a key make a record, and every
text that the written key may have become when it is typed is read as the key, gets the seed out of
the box of the record, and has the fingerprint of the record. -/
theorem recover_retyped {seed key : Bytes} (hs : seed.length = 32) (hk : key.length = 32)
    (now : Instant) (tape : Tape) : ∃ record rest, Gives (setup now seed key) tape record rest ∧
      ∀ text : String, Retyped (BackupKey.format key).toList text.toList →
        BackupKey.decode text = .ok key ∧
        (∀ box, box.Stands Box.toJson record.box → recover text box = .ok seed) ∧
        BackupKey.hasFingerprint text record.keyHash = .ok true := by
  obtain ⟨record, hg, ho, hh⟩ := exists_gives_setup hs hk now tape
  refine ⟨record, _, hg, fun text ht => ?_⟩
  have hd := BackupKey.decode?_of_retyped hk ht
  exact ⟨BackupKey.decode_eq_ok_iff.mpr hd, fun box hb => recover_of_decode? hd hb ho,
    hh ▸ hasFingerprint_of_decode? hd⟩

/-- A key that is typed in small letters, in other groups and with blanks of several kinds. -/
theorem recover_retyped_small :
    let key : Bytes := (List.range 32).map fun i => UInt8.ofNat (11 * i + 200)
    let text : String := "zdj5 52pu-74fbKIBL\tgzau--yv3c nv4i\u2003hduz usx3vroq3ptpd7ahcioq\n"
    ∃ record rest, Gives (setup 0 (List.replicate 32 83) key) ⟨fun _ => 1, 0⟩ record rest ∧
      BackupKey.decode text = .ok key ∧
      recover text (.json record.box.toJson) = .ok (List.replicate 32 83) ∧
      BackupKey.hasFingerprint text record.keyHash = .ok true := by
  intro key text
  have ht : Retyped (BackupKey.format key).toList text.toList := by
    rw [BackupKey.retyped_iff, BackupKey.letters_format]
    decide +kernel
  obtain ⟨record, rest, hg, h⟩ :=
    @recover_retyped (List.replicate 32 83) key (by decide) (by decide) 0 ⟨fun _ => 1, 0⟩
  obtain ⟨hdecode, hrecover, hfingerprint⟩ := h text ht
  exact ⟨record, rest, hg, hdecode, hrecover _ (Or.inr rfl), hfingerprint⟩

end PasswordVault.Record
