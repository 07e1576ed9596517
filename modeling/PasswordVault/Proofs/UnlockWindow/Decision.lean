import PasswordVault.Proofs.Time.Iso8601
import PasswordVault.Proofs.UnlockWindow.Span

/-!
# The decision depends on the instant

There are many ways to say when the password was last typed: a clock somewhere in the world shows
it, with its offset or as universal time, or a text writes what such a clock shows, where a letter
may stand for universal time. The decision compares the time that has passed since with the span of
the window, and so does not depend on which of them was used. As time goes on it is lost and not
given again, and longer windows keep it.

* `LastTyped.Tells`: the ways to tell an instant, `LastTyped.instant?_of_tells`: it is read;
* `mayUseKey_of_tells`: **the decision**;
* `not_mayUseKey_isoText`: offsets below a second are not read from a text.
-/

namespace PasswordVault

open Timestamp

namespace LastTyped

/-! ### Texts -/

theorem spellOut_eq_self {cs : List Char} (h : 'Z' ∉ cs) : spellOut cs = cs := by
  induction cs with
  | nil => rfl
  | cons c cs ih =>
    rw [List.mem_cons, not_or] at h
    rw [spellOut, List.flatMap_cons, if_neg (Ne.symm h.1)]
    exact congrArg (List.cons c) (ih h.2)

theorem not_mem_isoText (t : Timestamp) : 'Z' ∉ t.isoText := by
  intro h
  rcases mem_isoText h with h | h
  · cases h
  · exact absurd h (by decide)

theorem instant?_written (cs : List Char) : (written (String.ofList cs)).instant? =
    (ofIso8601? (spellOut cs)).map Timestamp.instant := by
  simp [instant?, isoChars?]

/-- What a clock shows is read from the text, but for an offset without whole seconds. -/
theorem instant?_isoText {t : Timestamp} (h : t.Valid) :
    (written (String.ofList t.isoText)).instant? =
      some ({ t with offset := t.offset.map keptOffset } : Timestamp).instant := by
  rw [instant?_written, spellOut_eq_self (not_mem_isoText t), ofIso8601?_isoText h]
  rfl

/-- The letter for universal time stands for an offset of zero. -/
theorem spellOut_localText (i : Instant) :
    spellOut ((ofInstant i).localText ++ ['Z']) = (ofInstant i).isoText := by
  have hoffset : (ofInstant i).offset = some 0 := rfl
  have hlocal : 'Z' ∉ (ofInstant i).localText := fun h =>
    not_mem_isoText (ofInstant i) (List.mem_append_left _ h)
  rw [isoText, hoffset, spellOut, List.flatMap_append]
  exact congrArg (· ++ _) (spellOut_eq_self hlocal)

/-! ### Instants -/

/-- **What is known tells an instant**: a clock shows it, with an offset or without one as universal
time, a text writes what a clock shows, unless that is ahead or behind by less than a second, or a
text writes what a clock of universal time shows and the letter for that. -/
inductive Tells (i : Instant) : LastTyped → Prop
  | shown (t : Timestamp) : t.instant = i → Tells i (.shown t)
  | offset (t : Timestamp) : t.Valid → (∀ o ∈ t.offset, o = 0 ∨ 1000000 ≤ o.natAbs) →
      t.instant = i → Tells i (.written (String.ofList t.isoText))
  | universal : OnCalendar i →
      Tells i (.written (String.ofList ((ofInstant i).localText ++ ['Z'])))

theorem map_keptOffset {offset : Option ℤ} (h : ∀ o ∈ offset, o = 0 ∨ 1000000 ≤ o.natAbs) :
    offset.map keptOffset = offset := by
  cases offset with
  | none => rfl
  | some o =>
    have ho := h o rfl
    rw [Option.map_some, keptOffset]
    split_ifs
    · rw [show o = 0 by omega]
    · rfl

/-- **The instant is read.** -/
theorem instant?_of_tells {i : Instant} {last : LastTyped} (h : last.Tells i) :
    last.instant? = some i := by
  cases h with
  | shown t hi => exact congrArg some hi
  | offset t ht ho hi => rw [instant?_isoText ht, map_keptOffset ho, hi]
  | universal hi =>
    have hread := instant?_isoText (valid_ofInstant hi)
    rw [map_keptOffset (by rintro o ⟨⟩; exact Or.inl rfl), instant_ofInstant hi] at hread
    rw [instant?_written, spellOut_eq_self (not_mem_isoText _)] at hread
    rw [instant?_written, spellOut_localText, hread]

end LastTyped

/-! ### Decisions -/

section

variable {i : Instant} {last : LastTyped} {window : Days} {span : ℤ}

theorem mayUseKey_eq_of_tells (hl : last.Tells i) (hw : window.span = .ok span) (now : Instant) :
    mayUseKey now last window = .ok (decide (now - i ≤ span)) := by
  rw [mayUseKey_of_eq_some now window (LastTyped.instant?_of_tells hl), hw]
  rfl

theorem mayUseKey_eq_true_iff (hl : last.Tells i) (hw : window.span = .ok span) (now : Instant) :
    mayUseKey now last window = .ok true ↔ now - i ≤ span := by
  rw [mayUseKey_eq_of_tells hl hw, Except.ok.injEq, decide_eq_true_iff]

/-- **The decision** is whether the time since the instant is at most the span of the window, which
is hardly more than half a microsecond off the days that were asked for. It is the same for all ways
to tell the instant, and once it is yes, it is yes at every earlier time and for every longer
window. -/
theorem mayUseKey_of_tells (hl : last.Tells i) (hw : window.span = .ok span) (now : Instant) :
    mayUseKey now last window = .ok (decide (now - i ≤ span)) ∧
    (∃ days, window.count? = some days ∧ |days * dayLength - span| ≤ 1 / 2 + 1 / 2 ^ 17) ∧
    (∀ other : LastTyped, other.Tells i →
      mayUseKey now other window = mayUseKey now last window) ∧
    (mayUseKey now last window = .ok true →
      (∀ earlier ≤ now, mayUseKey earlier last window = .ok true) ∧
      ∀ (longer : Days) (x y : ℚ), window.count? = some x → longer.count? = some y → x ≤ y →
        (∃ s, longer.span = .ok s) → mayUseKey now last longer = .ok true) := by
  obtain ⟨days, hdays, hspan, -⟩ := Days.count_of_span hw
  refine ⟨mayUseKey_eq_of_tells hl hw now, ⟨days, hdays, hspan.abs_sub_le⟩, fun other ho => ?_,
    fun h => ⟨fun earlier he => ?_, fun longer x y hx hy hxy ⟨s, hs⟩ => ?_⟩⟩
  · rw [mayUseKey_eq_of_tells ho hw, mayUseKey_eq_of_tells hl hw]
  · have hle := (mayUseKey_eq_true_iff hl hw now).mp h
    exact (mayUseKey_eq_true_iff hl hw earlier).mpr ((sub_le_sub_right he i).trans hle)
  · have hle := (mayUseKey_eq_true_iff hl hw now).mp h
    exact (mayUseKey_eq_true_iff hl hs now).mpr (hle.trans (Days.span_mono hx hy hw hs hxy))

end

/-- A clock that is behind universal time, and a week: the decision is yes up to the microsecond at
which the week is over. -/
theorem mayUseKey_of_tells_week :
    mayUseKey 1700624600500000 (.written "2023-11-14T22:13:20.500000-05:30") (.whole 7) = .ok true ∧
    mayUseKey 1700624600500001 (.written "2023-11-14T22:13:20.500000-05:30") (.whole 7) =
      .ok false := by
  have htext : String.ofList
      (⟨⟨2023, 11, 14⟩, ⟨22, 13, 20, 500000⟩, some (-19800000000)⟩ : Timestamp).isoText =
        "2023-11-14T22:13:20.500000-05:30" := by
    decide +kernel
  have hl : (LastTyped.written "2023-11-14T22:13:20.500000-05:30").Tells 1700019800500000 := by
    rw [← htext]
    exact .offset _ (by decide) (by decide) (by decide)
  have hw : (Days.whole 7).span = .ok 604800000000 := rfl
  exact ⟨(mayUseKey_of_tells hl hw 1700624600500000).1,
    (mayUseKey_of_tells hl hw 1700624600500001).1⟩

/-- The clock and the text of what it shows decide otherwise, where the clock is ahead of universal
time by a microsecond. -/
theorem not_mayUseKey_isoText : ¬ ∀ t : Timestamp, t.Valid → ∀ (now : Instant) (window : Days),
    (∃ span, window.span = .ok span) →
      mayUseKey now (.written (String.ofList t.isoText)) window =
        mayUseKey now (.shown t) window := by
  intro h
  have heq := h ⟨⟨2023, 11, 14⟩, ⟨22, 13, 20, 0⟩, some 1⟩ (by decide) 1700086400000000 (.whole 1)
    ⟨86400000000, rfl⟩
  exact absurd heq (by decide +kernel)

end PasswordVault
