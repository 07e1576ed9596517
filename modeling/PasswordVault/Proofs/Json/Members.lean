import PasswordVault.Proofs.Json.Field
import PasswordVault.Proofs.Json.RoundTrip
import Mathlib.Data.List.Forall2

/-!
# Members and items that were read

A check that accepts a list or a field with a default says which JSON they were read from, where the
items and the field are taken as they are.

* `Checked.list_eq_accepted_iff`: a list is accepted item by item;
* `asList_eq_accepted_iff`: the JSON of a list, `asRecords_eq_accepted_iff` and
  `asItems_eq_accepted_iff` for records and for arbitrary items;
* `Members.valueOr`, `Members.valueOr_of_optional`: the value of a field, or its default.
-/

namespace PasswordVault

theorem Checked.listFrom_eq_accepted_iff {α β : Type} {check : β → Checked α} {index : ℕ}
    {items : List β} {as : List α} : Checked.listFrom check index items = .accepted as ↔
      List.Forall₂ (fun b a => check b = .accepted a) items as := by
  induction items generalizing index as with
  | nil =>
    rw [listFrom, List.forall₂_nil_left_iff, accepted.injEq]
    exact eq_comm
  | cons b rest ih =>
    rw [listFrom, seq_eq_accepted, List.forall₂_cons_left_iff]
    constructor
    · rintro ⟨_, as', hb, hrest, rfl⟩
      obtain ⟨a, ha, rfl⟩ := map_eq_accepted.mp hb
      exact ⟨a, as', under_eq_accepted.mp ha, ih.mp hrest, rfl⟩
    · rintro ⟨a, as', ha, hrest, rfl⟩
      exact ⟨_, as', map_eq_accepted.mpr ⟨a, under_eq_accepted.mpr ha, rfl⟩, ih.mpr hrest, rfl⟩

/-- A list is accepted item by item. -/
theorem Checked.list_eq_accepted_iff {α β : Type} {check : β → Checked α} {items : List β}
    {as : List α} : Checked.list check items = .accepted as ↔
      List.Forall₂ (fun b a => check b = .accepted a) items as :=
  listFrom_eq_accepted_iff

namespace Json

/-- A list is taken as it is if its items are. -/
theorem asList_eq_accepted_iff {α : Type} {read : Json → Checked α} {toJson : α → Json}
    (h : ∀ v a, read v = .accepted a ↔ v = toJson a) {v : Json} {as : List α} :
    asList read v = .accepted as ↔ v = .arr (as.map toJson) := by
  cases v with
  | arr items =>
    rw [asList, Checked.list_eq_accepted_iff, arr.injEq, ← List.forall₂_eq_eq_eq,
      List.forall₂_map_right_iff]
    simp only [h]
  | _ => exact ⟨nofun, nofun⟩

theorem asObject_eq_accepted_iff (v : Json) (members : Members) :
    asObject v = .accepted members ↔ v = .obj members := by
  cases v with
  | obj ms => exact ⟨fun h => congrArg obj (Checked.accepted.inj h), fun h => obj.inj h ▸ rfl⟩
  | _ => exact ⟨nofun, nofun⟩

theorem asRecords_eq_accepted_iff {v : Json} {records : List Members} :
    asList asObject v = .accepted records ↔ v = .arr (records.map .obj) :=
  asList_eq_accepted_iff asObject_eq_accepted_iff

theorem asItems_eq_accepted_iff {v : Json} {items : List Json} :
    asList .accepted v = .accepted items ↔ v = .arr items := by
  have h (v a : Json) : Checked.accepted v = .accepted a ↔ v = id a := by
    rw [Checked.accepted.injEq, id]
  rw [asList_eq_accepted_iff h, List.map_id]

namespace Members

theorem mem_of_get? {members : Members} {name : String} {v : Json}
    (h : members.get? name = some v) : (name, v) ∈ members := by
  obtain ⟨l₁, l₂, rfl, -⟩ := List.lookup_eq_some_iff.mp h
  exact List.mem_append_right l₁ List.mem_cons_self

theorem find?_single (members : Members) (name : String) :
    members.find? name = (members.get? name).map fun v => (name, v) := by
  unfold find?
  cases get? name members <;> simp

/-- The value under a name, or the one that stands for it where the name is absent. -/
def valueOr (members : Members) (name : String) (absent : Json) : Json :=
  (members.get? name).getD absent

end Members

end Json

end PasswordVault
