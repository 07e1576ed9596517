import PasswordVault.Proofs.Json.Canonical
import PasswordVault.Recovery.Bundle
import PasswordVault.Recovery.Record

/-!
# Stored forms of what is kept for recovery

Bundles and records are read back from their stored forms, whatever they were read from.

* `Shard.canonical_ofJson`, `Bundle.canonical_ofJson`, `Record.canonical_ofJson`.
-/

namespace PasswordVault

theorem Box.canonical_ofJson : Json.Canonical ofJson toJson :=
  fun _ box _ => ofJson_toJson box

/-- **A shard that was read** is read back from its stored form. -/
theorem Shard.canonical_ofJson : Json.Canonical ofJson toJson := by
  intro v shard h
  obtain ⟨members, rfl, h⟩ := Json.asRecord_eq_accepted.mp h
  obtain ⟨_, box, h3, -, rfl⟩ := Checked.seq_eq_accepted.mp h
  obtain ⟨_, index, h2, hindex, rfl⟩ := Checked.seq_eq_accepted.mp h3
  obtain ⟨_, name, h1, -, rfl⟩ := Checked.seq_eq_accepted.mp h2
  obtain ⟨email, -, rfl⟩ := Checked.map_eq_accepted.mp h1
  have hindex := (Json.canonical_asNatural 1 Share.maxShares).of_required hindex
  have he : ofJson (toJson ⟨⟨email, name⟩, index, box⟩) =
      (fun email name index box => ⟨⟨email, name⟩, index, box⟩)
        <$> .accepted email <*> .accepted name
        <*> (Json.asNatural 1 Share.maxShares (.int index)).under (.key "shareIndex")
        <*> .accepted box :=
    rfl
  rw [he, hindex]
  rfl

/-- **A bundle that was read** is read back from its stored form. -/
theorem Bundle.canonical_ofJson : Json.Canonical ofJson toJson := by
  intro v bundle h
  obtain ⟨members, rfl, h⟩ := Json.asRecord_eq_accepted.mp h
  obtain ⟨_, created, h4, hcreated, rfl⟩ := Checked.seq_eq_accepted.mp h
  obtain ⟨_, shards, h3, hshards, rfl⟩ := Checked.seq_eq_accepted.mp h4
  obtain ⟨_, total, h2, -, rfl⟩ := Checked.seq_eq_accepted.mp h3
  obtain ⟨_, threshold, h1, -, rfl⟩ := Checked.seq_eq_accepted.mp h2
  obtain ⟨id, -, rfl⟩ := Checked.map_eq_accepted.mp h1
  have hcreated := Json.canonical_asTimestamp.of_required hcreated
  have hshards := Shard.canonical_ofJson.asList.of_required hshards
  have he : ofJson (toJson ⟨id, threshold, total, shards, created⟩) =
      Bundle.mk <$> .accepted id <*> .accepted threshold <*> .accepted total
        <*> (Json.asList Shard.ofJson (.arr (shards.map Shard.toJson))).under (.key "contacts")
        <*> (Json.asTimestamp (.str created.toText)).under (.key "created") :=
    rfl
  rw [he, hshards, hcreated]
  rfl

/-- **A record that was read** is read back from its stored form. -/
theorem Record.canonical_ofJson : Json.Canonical ofJson toJson := by
  intro v record h
  obtain ⟨members, rfl, h⟩ := Json.asRecord_eq_accepted.mp h
  obtain ⟨_, created, h2, hcreated, rfl⟩ := Checked.seq_eq_accepted.mp h
  obtain ⟨_, hash, h1, -, rfl⟩ := Checked.seq_eq_accepted.mp h2
  obtain ⟨box, -, rfl⟩ := Checked.map_eq_accepted.mp h1
  have hcreated := Json.canonical_asTimestamp.of_required hcreated
  have he : ofJson (toJson ⟨box, hash, created⟩) =
      Record.mk <$> .accepted box <*> .accepted hash
        <*> (Json.asTimestamp (.str created.toText)).under (.key "created") :=
    rfl
  rw [he, hcreated]
  rfl

end PasswordVault
