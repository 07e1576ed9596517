import PasswordVault.Json.Field
import PasswordVault.Error
import Mathlib.Data.Int.Notation
import Mathlib.Data.Nat.Notation
import Mathlib.Tactic.SplitIfs

/-!
# What was accepted

A check that is put together of checks accepts a value when its parts accept theirs. Read from the
outcome to the parts, this says what stood in JSON that was accepted.

* `Checked.map_eq_accepted`, `Checked.seq_eq_accepted`, `Checked.andThen_eq_accepted`: the parts of
  a check;
* `Json.asBounded_int_iff`, `Json.bounds_of_asBounded`, `Json.bounds_of_asNatural`: bounds;
* `Json.Members.required_eq_accepted`, `Json.Members.optional_eq_accepted`: a field of an object,
  `Json.Members.read_of_required` and `Json.Members.read_of_optional` where the value of the field
  is known.
-/

namespace PasswordVault

namespace Checked

variable {α β : Type}

theorem map_eq_accepted {f : α → β} {x : Checked α} {b : β} :
    f <$> x = .accepted b ↔ ∃ a, x = .accepted a ∧ f a = b := by
  cases x with
  | accepted a => exact ⟨fun h => ⟨a, rfl, accepted.inj h⟩, fun ⟨_, rfl, h⟩ => congrArg accepted h⟩
  | refused faults => exact ⟨nofun, nofun⟩

theorem seq_eq_accepted {f : Checked (α → β)} {x : Checked α} {b : β} :
    f <*> x = .accepted b ↔ ∃ g a, f = .accepted g ∧ x = .accepted a ∧ g a = b := by
  cases f with
  | accepted g =>
    cases x with
    | accepted a =>
      exact ⟨fun h => ⟨g, a, rfl, rfl, accepted.inj h⟩,
        fun ⟨_, _, rfl, rfl, h⟩ => congrArg accepted h⟩
    | refused faults => exact ⟨nofun, nofun⟩
  | refused faults => cases x <;> exact ⟨nofun, nofun⟩

theorem andThen_eq_accepted {x : Checked α} {check : α → Checked β} {b : β} :
    x.andThen check = .accepted b ↔ ∃ a, x = .accepted a ∧ check a = .accepted b := by
  cases x with
  | accepted a => exact ⟨fun h => ⟨a, rfl, h⟩, fun ⟨_, rfl, h⟩ => h⟩
  | refused faults => exact ⟨nofun, nofun⟩

theorem under_eq_accepted {step : Step} {x : Checked α} {a : α} :
    x.under step = .accepted a ↔ x = .accepted a := by
  cases x with
  | accepted b => exact Iff.rfl
  | refused faults => exact ⟨nofun, nofun⟩

theorem toExcept_eq_ok {x : Checked α} {a : α} : x.toExcept = .ok a ↔ x = .accepted a := by
  cases x with
  | accepted b => exact ⟨fun h => congrArg accepted (Except.ok.inj h), fun h => h ▸ rfl⟩
  | refused faults => exact ⟨nofun, nofun⟩

theorem toExcept_eq_error {x : Checked α} {e : Error} :
    x.toExcept = .error e ↔ ∃ faults, x = .refused faults ∧ e = .invalid faults := by
  cases x with
  | accepted b => exact ⟨nofun, nofun⟩
  | refused faults => exact ⟨fun h => ⟨faults, rfl, (Except.error.inj h).symm⟩,
      fun ⟨_, rfl, h⟩ => congrArg Except.error h.symm⟩

end Checked

namespace Json

variable {α : Type}

theorem asRecord_eq_accepted {read : Members → Checked α} {v : Json} {a : α} :
    asRecord read v = .accepted a ↔ ∃ members, v = .obj members ∧ read members = .accepted a := by
  cases v with
  | obj members => exact ⟨fun h => ⟨members, rfl, h⟩, fun ⟨_, rfl, h⟩ => h⟩
  | _ => exact ⟨nofun, nofun⟩

theorem asText_eq_accepted {v : Json} {text : Text} :
    asText v = .accepted text ↔ v = .str text := by
  cases v with
  | str s => exact ⟨fun h => congrArg str (Checked.accepted.inj h), fun h => str.inj h ▸ rfl⟩
  | _ => exact ⟨nofun, nofun⟩

theorem within_eq_accepted_iff {least greatest : ℕ} {n m : ℤ} :
    within least greatest n = .accepted m ↔ m = n ∧ least ≤ n ∧ n ≤ greatest := by
  unfold within
  split_ifs with hl hg
  · exact ⟨nofun, fun h => by omega⟩
  · exact ⟨nofun, fun h => by omega⟩
  · rw [Checked.accepted.injEq]
    exact ⟨fun h => ⟨h.symm, by omega, by omega⟩, fun h => h.1.symm⟩

theorem asBounded_int_iff {least greatest : ℕ} {n m : ℤ} :
    asBounded least greatest (.int n) = .accepted m ↔ m = n ∧ least ≤ n ∧ n ≤ greatest :=
  within_eq_accepted_iff

theorem bounds_of_asBounded {least greatest : ℕ} {v : Json} {n : ℤ}
    (h : v.asBounded least greatest = .accepted n) : least ≤ n ∧ n ≤ greatest := by
  obtain ⟨m, -, hm⟩ := Checked.andThen_eq_accepted.mp h
  obtain ⟨rfl, hb⟩ := within_eq_accepted_iff.mp hm
  exact hb

theorem bounds_of_asNatural {least greatest : ℕ} {v : Json} {n : ℕ}
    (h : v.asNatural least greatest = .accepted n) : least ≤ n ∧ n ≤ greatest := by
  obtain ⟨m, hm, rfl⟩ := Checked.map_eq_accepted.mp h
  have := bounds_of_asBounded hm
  omega

theorem Members.required_eq_accepted {members : Members} {label : Label} {read : Json → Checked α}
    {a : α} : members.required label read = .accepted a ↔
      ∃ name v, members.find? label = some (name, v) ∧ read v = .accepted a := by
  unfold required
  cases h : Members.find? members label with
  | none => exact ⟨nofun, nofun⟩
  | some found =>
    obtain ⟨name, v⟩ := found
    change (read v).under _ = _ ↔ _
    rw [Checked.under_eq_accepted]
    exact ⟨fun hr => ⟨name, v, rfl, hr⟩, by rintro ⟨_, _, ⟨⟩, hr⟩; exact hr⟩

theorem Members.optional_eq_accepted {members : Members} {label : Label} {read : Json → Checked α}
    {absent a : α} : members.optional label read absent = .accepted a ↔
      (∃ name v, members.find? label = some (name, v) ∧ read v = .accepted a) ∨
        members.find? label = none ∧ absent = a := by
  unfold optional
  cases h : Members.find? members label with
  | none =>
    rw [Checked.accepted.injEq]
    exact ⟨fun ha => Or.inr ⟨rfl, ha⟩, by rintro (⟨_, _, ⟨⟩, -⟩ | ⟨-, ha⟩); exact ha⟩
  | some found =>
    obtain ⟨name, v⟩ := found
    change (read v).under _ = _ ↔ _
    rw [Checked.under_eq_accepted]
    exact ⟨fun hr => Or.inl ⟨name, v, rfl, hr⟩,
      by rintro (⟨_, _, ⟨⟩, hr⟩ | ⟨⟨⟩, -⟩); exact hr⟩

theorem Members.read_of_required {members : Members} {label : Label} {read : Json → Checked α}
    {a : α} {name : String} {v : Json} (hf : members.find? label = some (name, v))
    (h : members.required label read = .accepted a) : read v = .accepted a := by
  obtain ⟨_, _, hv, hr⟩ := required_eq_accepted.mp h
  rw [hf] at hv
  cases hv
  exact hr

theorem Members.read_of_optional {members : Members} {label : Label} {read : Json → Checked α}
    {a absent : α} {name : String} {v : Json} (hf : members.find? label = some (name, v))
    (h : members.optional label read absent = .accepted a) : read v = .accepted a := by
  unfold optional at h
  rw [hf] at h
  exact Checked.under_eq_accepted.mp h

/-- What a field with a default is read to, or its default. -/
theorem Members.forall_of_optional {members : Members} {label : Label} {read : Json → Checked α}
    {absent a : α} (p : α → Prop) (h0 : p absent) (hr : ∀ {v a}, read v = .accepted a → p a)
    (h : members.optional label read absent = .accepted a) : p a := by
  rcases optional_eq_accepted.mp h with ⟨_, _, -, h⟩ | ⟨-, rfl⟩
  · exact hr h
  · exact h0

end Json

end PasswordVault
