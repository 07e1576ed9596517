import PasswordVault.Proofs.Phrase.Recover
import PasswordVault.Proofs.Recovery.BackupKey
import PasswordVault.Proofs.Recovery.Request
import PasswordVault.Proofs.Text.Upper

/-!
# Normal forms of typed texts

Phrases, addresses and backup keys are brought into a normal form before they are used, and an
address once more when the key of a contact follows from it. A normal form has letters of one case
only and no separators but those that belong to it, so it is its own normal form, and the key of the
stored address is the key of the address as it was typed.

* `Phrase.isLower_of_mem_normalize`, `Phrase.normalize_idem`: a normal form of a phrase;
* `letters_normalizeChars`: a normal form of a backup key has no separators;
* `normal_forms_idem`: **normal forms are their own normal forms**.
-/

namespace PasswordVault

/-! ### Phrases -/

namespace Text

theorem isLower_of_mem_mapRuns {text : Text} {c : Char}
    (hc : .char c ∈ (text.mapRuns lower).points) : IsLower c := by
  have hrun {cs : List Char} (h : Point.char c ∈ (String.ofList (lower cs)).toList.map .char) :
      IsLower c := by
    rw [String.toList_ofList] at h
    obtain ⟨d, hd, he⟩ := List.mem_map.mp h
    obtain rfl := Point.char.inj he
    exact isLower_of_mem_lowerAfter hd
  induction text with
  | whole s => exact hrun hc
  | broken s half rest ih =>
    rcases List.mem_append.mp hc with hc | hc
    · exact hrun hc
    · have hne : Point.char c ≠ .lone half := nofun
      exact ih (List.mem_of_ne_of_mem hne hc)

theorem mapRuns_lower_eq_self {text : Text} (h : ∀ c, .char c ∈ text.points → IsLower c) :
    text.mapRuns lower = text := by
  have hrun {s : String} (h : ∀ c ∈ s.toList, IsLower c) : String.ofList (lower s.toList) = s := by
    rw [lower, lowerAfter_eq_self h, String.ofList_toList]
  induction text with
  | whole s => rw [mapRuns, hrun fun c hc => h c (List.mem_map_of_mem hc)]
  | broken s half rest ih =>
    have hs : ∀ c ∈ s.toList, IsLower c := fun c hc =>
      h c (List.mem_append_left _ (List.mem_map_of_mem hc))
    have hrest : ∀ c, .char c ∈ rest.points → IsLower c := fun c hc =>
      h c (List.mem_append_right _ (List.mem_cons_of_mem _ hc))
    rw [mapRuns, hrun hs, ih hrest]

end Text

namespace Phrase

/-- A normal form is in lower case. -/
theorem isLower_of_mem_normalize {typed : Text} {c : Char}
    (hc : .char c ∈ (normalize typed).points) : Text.IsLower c := by
  rw [normalize, Text.points_ofPoints] at hc
  rcases Text.mem_intercalate hc with hspace | ⟨w, hw, hcw⟩
  · obtain rfl := Text.Point.char.inj (List.mem_singleton.mp hspace)
    exact ⟨by decide, by decide +kernel⟩
  · exact Text.isLower_of_mem_mapRuns ((Text.spread_words _ _).mem_of_mem hw hcw)

/-- **The words of a normal form** are those that it was made of, so it is its own normal form. -/
theorem normalize_idem (typed : Text) : normalize (normalize typed) = normalize typed := by
  have hlower : (normalize typed).mapRuns Text.lower = normalize typed :=
    Text.mapRuns_lower_eq_self fun _ => isLower_of_mem_normalize
  have hwords : Text.words Text.Point.isBlank (normalize typed).points =
      Text.words Text.Point.isBlank (typed.mapRuns Text.lower).points := by
    rw [normalize, Text.points_ofPoints]
    exact Text.words_intercalate (by decide) fun w hw => (Text.spread_words _ _).isWord_of_mem hw
  rw [normalize, hlower, hwords, ← normalize]

end Phrase

/-! ### Backup keys -/

namespace BackupKey

/-- A normal form has no separators. -/
theorem letters_normalizeChars (cs : List Char) :
    letters (normalizeChars cs) = normalizeChars cs := by
  refine List.filter_eq_self.mpr fun d hd => ?_
  obtain ⟨c, hc, hform⟩ := List.mem_flatMap.mp hd
  obtain ⟨-, hsep⟩ := List.mem_filter.mp hc
  rcases (Text.isUpper_of_mem_upperChar hform).2 with rfl | ⟨hblank, hdash⟩
  · exact hsep
  · simp [isSeparator, hblank, hdash]

theorem normalizeChars_idem (cs : List Char) :
    normalizeChars (normalizeChars cs) = normalizeChars cs := by
  have hupper : Text.upper (normalizeChars cs) = normalizeChars cs :=
    Text.upper_eq_self fun c hc => Text.isUpper_of_mem_upper hc
  rw [normalizeChars_eq, letters_normalizeChars, hupper]

theorem normalize_idem (typed : Text) : normalize (normalize typed) = normalize typed :=
  Text.mapRuns_idem normalizeChars_idem typed

end BackupKey

/-! ### Addresses -/

theorem contactKey_normalizeEmail (recoveryId email : Text) :
    contactKey recoveryId (normalizeEmail email) = contactKey recoveryId email :=
  (contactKey_of_answers (Or.inr rfl) recoveryId).symm

/-- A contact that was read has the normal form of the address that was typed. -/
theorem Contact.exists_typed_of_ofJson {v : Json} {contact : Contact}
    (h : ofJson v = .accepted contact) : ∃ (members : Json.Members) (typed : Text),
      v = .obj members ∧ members.get? "email" = some (.str typed) ∧
        contact.email = normalizeEmail typed := by
  have hs : States (.json v) contact := read_eq_accepted_iff.mp h
  cases hs with
  | json hemail _ _ => exact ⟨_, _, rfl, hemail, rfl⟩

/-! ### The result -/

/-- **Normal forms are their own normal forms**: those of phrases, of addresses and of backup keys.
So for every recovery id an address has the key of its normal form, and a contact that was read,
whose address is stored in its normal form, has the key of the address as it was typed. -/
theorem normal_forms_idem :
    (∀ s, Phrase.normalize (Phrase.normalize s) = Phrase.normalize s) ∧
    (∀ s, normalizeEmail (normalizeEmail s) = normalizeEmail s) ∧
    (∀ s, BackupKey.normalize (BackupKey.normalize s) = BackupKey.normalize s) ∧
    ∀ recoveryId,
      (∀ email, contactKey recoveryId (normalizeEmail email) = contactKey recoveryId email) ∧
      ∀ v contact, Contact.ofJson v = .accepted contact →
        ∃ (members : Json.Members) (typed : Text), v = .obj members ∧
          members.get? "email" = some (.str typed) ∧ contact.email = normalizeEmail typed ∧
          contactKey recoveryId contact.email = contactKey recoveryId typed := by
  refine ⟨Phrase.normalize_idem, normalizeEmail_idem, BackupKey.normalize_idem,
    fun recoveryId => ⟨contactKey_normalizeEmail recoveryId, fun v contact hread => ?_⟩⟩
  obtain ⟨members, typed, rfl, htyped, hemail⟩ := Contact.exists_typed_of_ofJson hread
  refine ⟨members, typed, rfl, htyped, hemail, ?_⟩
  rw [hemail, contactKey_normalizeEmail]

/-- The members of a contact whose address is in capitals, with a sigma at the end of a word and
blanks around it. -/
def capitals : Json.Members := [("email", .str " ΣΟΦΟΣ@EXAMPLE.ORG ")]

/-- The contact has the address in its normal form, and the key of the address as it was typed. -/
theorem normal_forms_idem_of_capitals :
    Contact.ofJson (.obj capitals) = .accepted ⟨"σοφος@example.org", ""⟩ ∧
    contactKey "00" "σοφος@example.org" = contactKey "00" " ΣΟΦΟΣ@EXAMPLE.ORG " := by
  have hform : normalizeEmail " ΣΟΦΟΣ@EXAMPLE.ORG " = "σοφος@example.org" := by decide +kernel
  have hne : normalizeEmail " ΣΟΦΟΣ@EXAMPLE.ORG " ≠ "" := by decide +kernel
  have hs : Contact.States (.json (.obj capitals)) ⟨normalizeEmail " ΣΟΦΟΣ@EXAMPLE.ORG ", ""⟩ :=
    .json rfl hne (Or.inr ⟨rfl, rfl⟩)
  rw [hform] at hs
  have hread : Given.read Contact.ofJson (.json (.obj capitals)) =
      .accepted ⟨"σοφος@example.org", ""⟩ :=
    Contact.read_eq_accepted_iff.mpr hs
  obtain ⟨-, -, -, hkeys⟩ := normal_forms_idem
  obtain ⟨members, typed, hv, htyped, -, hkey⟩ := (hkeys "00").2 _ _ hread
  obtain rfl := Json.obj.inj hv
  obtain rfl := Json.str.inj (Option.some.inj htyped)
  exact ⟨hread, hkey⟩

end PasswordVault
