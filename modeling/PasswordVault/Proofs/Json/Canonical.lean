import PasswordVault.Proofs.Json.Members
import PasswordVault.Proofs.Time.Stored

/-!
# Canonical forms

A reader takes many forms of a value and a writer has one. If what was read is read back from what
the writer makes of it, then writing brings every form to a canonical one, and doing so again
changes nothing.

* `Canonical`: a reader and its writer;
* `canonical_asBounded`, `canonical_asNatural`, `canonical_asTimestamp`: **the values of fields**,
  `Canonical.asList` for lists of them;
* `Canonical.of_required`: a field of an object that was read.
-/

namespace PasswordVault.Json

variable {α : Type}

/-- **What was read is read back** from what it is written as. -/
def Canonical (read : Json → Checked α) (write : α → Json) : Prop :=
  ∀ v a, read v = .accepted a → read (write a) = .accepted a

/-! ### Values of fields -/

theorem canonical_asBounded (least greatest : ℕ) : Canonical (asBounded least greatest) .int :=
  fun _ _ h => asBounded_int_iff.mpr ⟨rfl, bounds_of_asBounded h⟩

theorem canonical_asNatural (least greatest : ℕ) :
    Canonical (asNatural least greatest) fun n => .int n := by
  intro v n h
  obtain ⟨m, hm, rfl⟩ := Checked.map_eq_accepted.mp h
  have hb := canonical_asBounded least greatest v m hm
  have := bounds_of_asBounded hm
  rw [← Int.toNat_of_nonneg (a := m) (by omega)] at hb
  exact Checked.map_eq_accepted.mpr ⟨_, hb, by omega⟩

theorem canonical_asTimestamp : Canonical asTimestamp fun t => .str t.toText :=
  fun _ _ h => Timestamp.asTimestamp_toText (Timestamp.storable_of_asTimestamp h)

theorem Canonical.asList {read : Json → Checked α} {write : α → Json} (hc : Canonical read write) :
    Canonical (asList read) fun as => .arr (as.map write) := by
  intro v as h
  cases v with
  | arr items =>
    rw [Json.asList, Checked.list_eq_accepted_iff] at h
    rw [Json.asList, Checked.list_eq_accepted_iff, List.forall₂_map_left_iff]
    induction h with
    | nil => exact .nil
    | cons ha _ ih => exact .cons (hc _ _ ha) ih
  | _ => cases h

/-! ### Fields -/

theorem Canonical.of_required {read : Json → Checked α} {write : α → Json}
    (hc : Canonical read write) {members : Members} {label : Label} {a : α}
    (h : members.required label read = .accepted a) : read (write a) = .accepted a := by
  obtain ⟨_, _, -, hr⟩ := Members.required_eq_accepted.mp h
  exact hc _ _ hr

end PasswordVault.Json
