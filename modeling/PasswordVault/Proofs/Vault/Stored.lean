import PasswordVault.Proofs.Json.Field
import PasswordVault.Proofs.Vault.Box
import PasswordVault.Vault.Basic
import Mathlib.Data.Int.Notation
import Mathlib.Tactic.SplitIfs

/-!
# Vaults that are handed over

A vault that was handed over in its stored form has the boxes, the cipher and the derivation of the
vault that was stored, so every key opens the same.

* `Agrees`: two vaults that open alike;
* `agrees_of_accept`: **a stored vault opens as before**.
-/

namespace PasswordVault

/-- The fields that stored settings were read from. -/
theorem Kdf.fields_of_ofJson {members : Json.Members} {kdf : Kdf}
    (h : ofJson (.obj members) = .accepted kdf) :
    members.required "salt" Json.asText = .accepted kdf.salt ∧
      members.required ⟨"memoryCost", "memory_cost"⟩ readMemory = .accepted kdf.costs.memory ∧
      members.required ⟨"timeCost", "time_cost"⟩ readPasses = .accepted kdf.costs.passes ∧
      members.required "parallelism" readLanes = .accepted kdf.costs.lanes ∧
      enoughMemory "memoryCost" kdf.costs = .accepted () := by
  obtain ⟨k, hk, hm⟩ := Checked.andThen_eq_accepted.mp h
  obtain ⟨_, henough, rfl⟩ := Checked.map_eq_accepted.mp hm
  obtain ⟨_, lanes, h4, hlanes, rfl⟩ := Checked.seq_eq_accepted.mp hk
  obtain ⟨_, passes, h3, hpasses, rfl⟩ := Checked.seq_eq_accepted.mp h4
  obtain ⟨_, memory, h2, hmemory, rfl⟩ := Checked.seq_eq_accepted.mp h3
  obtain ⟨_, salt, h1, hsalt, rfl⟩ := Checked.seq_eq_accepted.mp h2
  obtain ⟨_, -, rfl⟩ := Checked.map_eq_accepted.mp h1
  exact ⟨hsalt, hmemory, hpasses, hlanes, henough⟩

/-- Stored settings of a derivation are read back as they were. -/
theorem Kdf.ofJson_toJson_eq {kdf kdf' : Kdf} (h : ofJson kdf.toJson = .accepted kdf') :
    kdf' = kdf := by
  obtain ⟨hsalt, hmemory, hpasses, hlanes, -⟩ := fields_of_ofJson h
  have hs := Json.asText_eq_accepted.mp (Json.Members.read_of_required rfl hsalt)
  have hm := (Json.asBounded_int_iff.mp (Json.Members.read_of_required rfl hmemory)).1
  have hp := (Json.asBounded_int_iff.mp (Json.Members.read_of_required rfl hpasses)).1
  have hl := (Json.asBounded_int_iff.mp (Json.Members.read_of_required rfl hlanes)).1
  obtain ⟨salt, memory, passes, lanes⟩ := kdf'
  obtain rfl := Json.str.inj hs
  obtain rfl := hm
  obtain rfl := hp
  obtain rfl := hl
  rfl

namespace Vault

/-- The vaults have the same boxes, sealed in the same way. -/
structure Agrees (vault other : Vault) : Prop where
  cipher : vault.cipher = other.cipher
  kdf : vault.kdf = other.kdf
  box (slot : Slot) : vault.box slot = other.box slot

/-- What a key opens in a slot depends on the cipher and on the box in the slot. -/
theorem openSlot?_congr {vault other : Vault} (hc : vault.cipher = other.cipher) (slot : Slot)
    (hb : vault.box slot = other.box slot) (key : Bytes) :
    vault.openSlot? slot key = other.openSlot? slot key := by
  rw [openSlot?, openSlot?, hb, hc]

theorem Agrees.openSlot? {vault other : Vault} (h : vault.Agrees other) (slot : Slot)
    (key : Bytes) : vault.openSlot? slot key = other.openSlot? slot key :=
  openSlot?_congr h.cipher slot (h.box slot) key

theorem Agrees.openSeed? {vault other : Vault} (h : vault.Agrees other) (key : Bytes) :
    vault.openSeed? key = other.openSeed? key := by
  rw [Vault.openSeed?, Vault.openSeed?, h.openSlot?]

theorem asConstant_name (cipher : Cipher) :
    Json.asConstant Cipher.ofName? (.str cipher.name) = .accepted cipher := by
  cases cipher <;> rfl

/-- The fields that a vault was read from. -/
theorem fields_of_ofJson {members : Json.Members} {vault : Vault}
    (h : ofJson (.obj members) = .accepted vault) :
    members.optional "cipher" (Json.asConstant Cipher.ofName?) .aesGcm = .accepted vault.cipher ∧
      members.required "created" Json.asTimestamp = .accepted vault.created ∧
      members.required "updated" Json.asTimestamp = .accepted vault.updated ∧
      members.required "kdf" Kdf.ofJson = .accepted vault.kdf ∧
      members.required "primary" Box.ofJson = .accepted vault.primary ∧
      members.required "recovery" Box.ofJson = .accepted vault.recovery ∧
      members.required ⟨"wrappedSeed", "wrapped_seed"⟩ Box.ofJson =
        .accepted vault.wrappedSeed := by
  obtain ⟨_, wrappedSeed, h8, hwrapped, rfl⟩ := Checked.seq_eq_accepted.mp h
  obtain ⟨_, recovery, h7, hrecovery, rfl⟩ := Checked.seq_eq_accepted.mp h8
  obtain ⟨_, primary, h6, hprimary, rfl⟩ := Checked.seq_eq_accepted.mp h7
  obtain ⟨_, kdf, h5, hkdf, rfl⟩ := Checked.seq_eq_accepted.mp h6
  obtain ⟨_, updated, h4, hupdated, rfl⟩ := Checked.seq_eq_accepted.mp h5
  obtain ⟨_, created, h3, hcreated, rfl⟩ := Checked.seq_eq_accepted.mp h4
  obtain ⟨_, cipher, h2, hcipher, rfl⟩ := Checked.seq_eq_accepted.mp h3
  obtain ⟨_, _, h1, -, rfl⟩ := Checked.seq_eq_accepted.mp h2
  obtain ⟨_, -, rfl⟩ := Checked.map_eq_accepted.mp h1
  exact ⟨hcipher, hcreated, hupdated, hkdf, hprimary, hrecovery, hwrapped⟩

theorem agrees_of_ofJson {vault vault' : Vault} (h : ofJson vault.toJson = .accepted vault') :
    vault'.Agrees vault := by
  obtain ⟨hcipher, -, -, hkdf, hprimary, hrecovery, hwrapped⟩ := fields_of_ofJson h
  have hcipher := (Json.Members.read_of_optional rfl hcipher).symm.trans (asConstant_name _)
  have hkdf := Kdf.ofJson_toJson_eq (Json.Members.read_of_required rfl hkdf)
  have hbox {box box' : Box} (hr : Box.ofJson box.toJson = .accepted box') : box' = box :=
    Checked.accepted.inj (hr.symm.trans (Box.ofJson_toJson box))
  have hprimary := hbox (Json.Members.read_of_required rfl hprimary)
  have hrecovery := hbox (Json.Members.read_of_required rfl hrecovery)
  have hwrapped := hbox (Json.Members.read_of_required rfl hwrapped)
  refine ⟨Checked.accepted.inj hcipher, hkdf, fun slot => ?_⟩
  cases slot with
  | primary => exact hprimary
  | recovery => exact hrecovery
  | seed => exact hwrapped

/-- A vault is read back from its stored form if its points in time and its derivation are. -/
theorem ofJson_toJson {vault : Vault}
    (hc : Json.asTimestamp (.str vault.created.toText) = .accepted vault.created)
    (hu : Json.asTimestamp (.str vault.updated.toText) = .accepted vault.updated)
    (hk : Kdf.ofJson vault.kdf.toJson = .accepted vault.kdf) :
    ofJson vault.toJson = .accepted vault := by
  have h : ofJson vault.toJson = (fun _ _ => Vault.mk) <$> .accepted () <*> .accepted ()
      <*> (Json.asConstant Cipher.ofName? (.str vault.cipher.name)).under (.key "cipher")
      <*> (Json.asTimestamp (.str vault.created.toText)).under (.key "created")
      <*> (Json.asTimestamp (.str vault.updated.toText)).under (.key "updated")
      <*> (Kdf.ofJson vault.kdf.toJson).under (.key "kdf")
      <*> .accepted vault.primary <*> .accepted vault.recovery <*> .accepted vault.wrappedSeed :=
    rfl
  rw [h, asConstant_name, hc, hu, hk]
  rfl

theorem agrees_of_accept {given : Given Vault} {vault vault' : Vault}
    (hg : given.Stands toJson vault) (h : accept given = .ok vault') : vault'.Agrees vault := by
  rcases hg with rfl | rfl
  · obtain rfl := Except.ok.inj h
    exact ⟨rfl, rfl, fun _ => rfl⟩
  · unfold accept at h
    split at h
    · rename_i hread
      rw [← Except.ok.inj h]
      exact agrees_of_ofJson hread
    · cases h

end Vault

end PasswordVault
