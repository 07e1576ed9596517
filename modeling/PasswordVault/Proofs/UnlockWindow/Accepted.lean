import PasswordVault.Proofs.Json.Members
import PasswordVault.Proofs.UnlockWindow.Span
import PasswordVault.Proofs.Vault.Creation

/-!
# The window of accepted settings

Settings bound their window from below only: it is above zero, and it may be infinite. So whatever
is known about the password, the decision can fail in one way, a window that is no span of time, and
it does as soon as the password was ever typed and the window is a billion days long.

* `Settings.isPositive_of_accepted`: the window is above zero;
* `Settings.isDouble_of_ofJson`, `Settings.isDouble_of_ofEnvironment`: it has double precision;
* `mayUseKey_of_accepted`: **when the decision is made**, and how it fails otherwise.
-/

namespace PasswordVault

/-- What was read as a number above zero is one. -/
theorem Json.asPositive_eq_accepted_iff {v : Json} {x : Binary64} :
    v.asPositive = .accepted x ↔ v.asNumber = .accepted x ∧ x.isPositive = true := by
  unfold asPositive
  rw [Checked.andThen_eq_accepted]
  constructor
  · rintro ⟨y, hy, h⟩
    split_ifs at h with hp
    · cases h
      exact ⟨hy, hp⟩
    · cases h
  · rintro ⟨hx, hp⟩
    exact ⟨x, hx, if_pos hp⟩

namespace Settings

variable {settings : Settings}

/-- **The window is above zero.** -/
theorem isPositive_of_ofJson {v : Json} (h : ofJson v = .accepted settings) :
    settings.unlockDays.isPositive = true := by
  obtain ⟨members, -, -, -, -, -, hdays, -⟩ := fields_of_ofJson h
  exact Json.Members.forall_of_optional (fun x => x.isPositive = true) (by decide +kernel)
    (fun hx => (Json.asPositive_eq_accepted_iff.mp hx).2) hdays

theorem isPositive_of_accepted (h : settings.Accepted) : settings.unlockDays.isPositive = true := by
  rcases h with ⟨v, h⟩ | ⟨textOf, h⟩
  · exact isPositive_of_ofJson h
  · exact isPositive_of_ofJson h

/-- **The window has double precision**, if the number that it was read from has. -/
theorem isDouble_of_ofJson {members : Json.Members} (h : ofJson (.obj members) = .accepted settings)
    (hm : ∀ x, members.get? "biometric_max_age_days" = some (.float x) → x.IsDouble) :
    settings.unlockDays.IsDouble := by
  obtain ⟨_, ⟨⟩, -, -, -, -, hdays, -⟩ := fields_of_ofJson h
  rcases Json.Members.optional_eq_accepted.mp hdays with ⟨_, v, hf, hv⟩ | ⟨-, he⟩
  · rw [Json.Members.find?_single] at hf
    obtain ⟨_, hg, ⟨⟩⟩ := Option.map_eq_some_iff.mp hf
    exact Json.isDouble_of_asNumber (Json.asPositive_eq_accepted_iff.mp hv).1
      fun y hy => hm y (hy ▸ hg)
  · rw [← he]
    exact Binary64.isDouble_ofInt 7

/-- **The window from an environment has double precision.** -/
theorem isDouble_of_ofEnvironment {textOf : String → Text}
    (h : ofEnvironment textOf = .accepted settings) : settings.unlockDays.IsDouble := by
  refine isDouble_of_ofJson h fun x hx => ?_
  obtain ⟨⟨name, field⟩, -, he⟩ := List.mem_filterMap.mp (Json.Members.mem_of_get? hx)
  obtain ⟨-, he⟩ := Option.ite_none_left_eq_some.mp he
  cases he

end Settings

/-- **When the decision is made** under accepted settings, whatever is known about the password: if
nothing is known, or if the window is below a billion days. It fails in no other way than as a
window that is too long. -/
theorem mayUseKey_of_accepted {settings : Settings} (h : settings.Accepted) (now : Instant)
    (last : LastTyped) :
    (∀ e, mayUseKey now last (.part settings.unlockDays) = .error e → e = .windowTooLong) ∧
      (settings.unlockDays.IsDouble →
        ((∃ b, mayUseKey now last (.part settings.unlockDays) = .ok b) ↔ last.instant? = none ∨
          ∃ days, (Days.part settings.unlockDays).count? = some days ∧ days < 10 ^ 9)) := by
  have hp := Settings.isPositive_of_accepted h
  cases hi : last.instant? with
  | none =>
    rw [mayUseKey_of_eq_none now _ hi]
    exact ⟨nofun, fun _ => iff_of_true ⟨_, rfl⟩ (Or.inl rfl)⟩
  | some typed =>
    rw [mayUseKey_of_eq_some now _ hi]
    cases hs : (Days.part settings.unlockDays).span with
    | ok span =>
      exact ⟨nofun, fun hd => iff_of_true ⟨_, rfl⟩
        (Or.inr ((Days.span_part_eq_ok_iff hd hp).mp ⟨span, hs⟩))⟩
    | error e =>
      constructor
      · rintro _ ⟨⟩
        exact Days.eq_windowTooLong_of_span hp hs
      · intro hd
        refine iff_of_false nofun ?_
        rintro (h | hdays)
        · cases h
        · obtain ⟨span, hok⟩ := (Days.span_part_eq_ok_iff hd hp).mpr hdays
          rw [hs] at hok
          cases hok

/-- An environment that says nothing but how many days there are. -/
def windowEnvironment (days name : String) : Text :=
  if name = "VAULT_BIOMETRIC_MAX_AGE_DAYS" then days else ""

/-- Half a day gives a decision. -/
theorem mayUseKey_of_accepted_half_day : ∃ settings b,
    Settings.ofEnvironment (windowEnvironment "0.5") = .accepted settings ∧
      mayUseKey 1700000000000000 (.written "2023-11-14T12:00:00Z") (.part settings.unlockDays) =
        .ok b := by
  have hread : (Settings.ofEnvironment (windowEnvironment "0.5")).toOption.map Settings.unlockDays =
      some (.finite false 4503599627370496 (-53)) := by
    decide +kernel
  cases hs : Settings.ofEnvironment (windowEnvironment "0.5") with
  | refused faults =>
    rw [hs] at hread
    cases hread
  | accepted settings =>
    rw [hs] at hread
    have hdays : settings.unlockDays = .finite false 4503599627370496 (-53) :=
      Option.some.inj hread
    obtain ⟨-, hiff⟩ := mayUseKey_of_accepted (Or.inr ⟨_, hs⟩) 1700000000000000
      (.written "2023-11-14T12:00:00Z")
    obtain ⟨b, hb⟩ := (hiff (Settings.isDouble_of_ofEnvironment hs)).mpr <| by
      refine Or.inr ⟨_, hdays ▸ Days.count?_finite _ _, ?_⟩
      norm_num
    exact ⟨settings, b, rfl, hb⟩

/-- Settings with ten billion days are accepted, and give no decision. -/
theorem not_mayUseKey_of_accepted : ¬ ∀ settings : Settings, settings.Accepted →
    ∀ now last, ∃ b, mayUseKey now last (.part settings.unlockDays) = .ok b := by
  have hread : (Settings.ofEnvironment (windowEnvironment "10000000000")).toOption.map
      (fun settings => mayUseKey 1700000000000000 (.written "2023-11-14T22:13:20Z")
        (.part settings.unlockDays)) = some (.error .windowTooLong) := by
    decide +kernel
  intro hall
  cases hs : Settings.ofEnvironment (windowEnvironment "10000000000") with
  | refused faults =>
    rw [hs] at hread
    cases hread
  | accepted settings =>
    rw [hs] at hread
    obtain ⟨b, hb⟩ := hall settings (Or.inr ⟨_, hs⟩) 1700000000000000
      (.written "2023-11-14T22:13:20Z")
    exact absurd (hb.symm.trans (Option.some.inj hread)) nofun

end PasswordVault
