import PasswordVault.Json.Field
import PasswordVault.Proofs.Json.Field
import PasswordVault.Proofs.Json.Token
import Mathlib.Data.Nat.Digits.Defs

/-!
# Timestamps that are stored again

Whatever a timestamp was read from, a number, a text that writes one, or a date with a time and with
or without an offset, it has a form that is written and read back: date and time are those of a
calendar and a clock, and the offset, if there is one, is a whole number of minutes within a day.

* `Storable`: the timestamps that have such a form;
* `storable_of_asTimestamp`: **what was read** is one of them;
* `fixedDigits?_padded`, `storedFraction?_render`, `storedOffset?_render`: the parts of the text;
* `asTimestamp_toText`: **what was written is read back**.
-/

namespace PasswordVault.Timestamp

/-- The offset is a whole number of minutes, less than a day. -/
def InMinutes (offset : ℤ) : Prop :=
  ∃ minutes : ℕ, minutes < 1440 ∧
    (offset = minutes * 60000000 ∨ offset = -(minutes * 60000000 : ℤ))

/-- The calendar has the date and a clock the time, and the clock is whole minutes ahead of
universal time or behind it, if that is known. -/
structure Storable (t : Timestamp) : Prop where
  date : t.date.Valid
  time : t.time.Valid
  offset : ∀ o ∈ t.offset, InMinutes o

/-! ### What was read -/

theorem inMinutes_zero : InMinutes 0 :=
  ⟨0, by decide, Or.inl rfl⟩

theorem storable_of_ofInstant? {i : Instant} {t : Timestamp} (h : ofInstant? i = some t) :
    t.Storable := by
  unfold ofInstant? at h
  obtain ⟨⟨hv, -⟩, he⟩ := Option.ite_none_right_eq_some.mp h
  obtain rfl := Option.some.inj he
  refine ⟨hv.1, hv.2.1, ?_⟩
  rintro o ⟨⟩
  exact inMinutes_zero

theorem storable_of_ofNumber? {x : Binary64} {t : Timestamp} (h : ofNumber? x = some t) :
    t.Storable := by
  obtain ⟨_, -, h⟩ := Option.bind_eq_some_iff.mp h
  exact storable_of_ofInstant? h

theorem storable_of_ofWrittenCount? {cs : List Char} {t : Timestamp}
    (h : ofWrittenCount? cs = some t) : t.Storable := by
  unfold ofWrittenCount? at h
  obtain ⟨-, h⟩ := Option.ite_none_left_eq_some.mp h
  split at h
  · obtain ⟨-, h⟩ := Option.ite_none_left_eq_some.mp h
    exact storable_of_ofInstant? h
  · obtain ⟨x, -, h⟩ := Option.bind_eq_some_iff.mp h
    exact storable_of_ofNumber? h
  · cases h

theorem valid_of_storedDate? {cs rest : List Char} {date : Date}
    (h : storedDate? cs = some (date, rest)) : date.Valid := by
  simp only [storedDate?, Option.bind_eq_bind, Option.bind_eq_some_iff,
    Option.ite_none_right_eq_some] at h
  obtain ⟨_, -, _, -, _, -, _, -, _, -, hv, he⟩ := h
  obtain ⟨rfl, -⟩ := Prod.mk.inj (Option.some.inj he)
  exact hv

theorem valid_of_storedTime? {cs rest : List Char} {time : TimeOfDay}
    (h : storedTime? cs = some (time, rest)) : time.Valid := by
  simp only [storedTime?, Option.bind_eq_bind, Option.bind_eq_some_iff,
    Option.ite_none_right_eq_some] at h
  obtain ⟨_, -, _, -, _, -, _, -, hv, he⟩ := h
  obtain ⟨rfl, -⟩ := Prod.mk.inj (Option.some.inj he)
  exact hv

theorem exists_minutes_of_storedOffsetSize? {cs : List Char} {size : ℕ}
    (h : storedOffsetSize? cs = some size) :
    ∃ minutes : ℕ, minutes < 1440 ∧ (size : ℤ) = minutes * 60000000 := by
  simp only [storedOffsetSize?, Option.bind_eq_bind, Option.bind_eq_some_iff,
    Option.ite_none_right_eq_some] at h
  obtain ⟨⟨hours, _⟩, -, ⟨minutes, _⟩, -, ⟨hh, hm, -⟩, he⟩ := h
  refine ⟨hours * 60 + minutes, by omega, ?_⟩
  rw [← Option.some.inj he]
  push_cast
  rfl

theorem inMinutes_of_storedOffset? {cs : List Char} {o : ℤ}
    (h : storedOffset? cs = some (some o)) : InMinutes o := by
  unfold storedOffset? at h
  split at h
  · cases h
  · split_ifs at h
    · cases h
      exact inMinutes_zero
    · obtain ⟨_, hs, ⟨⟩⟩ := Option.map_eq_some_iff.mp h
      obtain ⟨size, hn, ⟨⟩⟩ := Option.bind_eq_some_iff.mp hs
      obtain ⟨minutes, hm, hsize⟩ := exists_minutes_of_storedOffsetSize? hn
      exact ⟨minutes, hm, Or.inl hsize⟩
    · obtain ⟨_, hs, ⟨⟩⟩ := Option.map_eq_some_iff.mp h
      obtain ⟨size, hn, ⟨⟩⟩ := Option.bind_eq_some_iff.mp hs
      obtain ⟨minutes, hm, hsize⟩ := exists_minutes_of_storedOffsetSize? hn
      exact ⟨minutes, hm, Or.inr (congrArg _ hsize)⟩

theorem storable_of_storedForm? {cs : List Char} {t : Timestamp} (h : storedForm? cs = some t) :
    t.Storable := by
  unfold storedForm? at h
  obtain ⟨⟨date, rest⟩, hd, h⟩ := Option.bind_eq_some_iff.mp h
  have hdate := valid_of_storedDate? hd
  dsimp only at h
  split_ifs at h
  · cases h
    exact ⟨hdate, (by decide : TimeOfDay.midnight.Valid), nofun⟩
  · simp only [Option.bind_eq_bind, Option.bind_eq_some_iff] at h
    obtain ⟨_, -, ⟨time, _⟩, ht, offset, ho, he⟩ := h
    cases he
    refine ⟨hdate, valid_of_storedTime? ht, ?_⟩
    rintro o ⟨⟩
    exact inMinutes_of_storedOffset? ho

theorem storable_of_ofText? {text : String} {t : Timestamp} (h : ofText? text = some t) :
    t.Storable := by
  unfold ofText? at h
  split at h
  · rename_i hs
    cases h
    exact storable_of_storedForm? hs
  · exact storable_of_ofWrittenCount? h

/-- **What was read** as a point in time has a form that is stored. -/
theorem storable_of_asTimestamp {v : Json} {t : Timestamp} (h : v.asTimestamp = .accepted t) :
    t.Storable := by
  unfold Json.asTimestamp at h
  split at h
  · rename_i hs
    cases h
    unfold Json.timestamp? at hs
    split at hs
    · exact storable_of_ofText? hs
    · split_ifs at hs
      · exact storable_of_ofInstant? hs
      · exact storable_of_ofNumber? hs
    · exact storable_of_ofNumber? hs
    · cases hs
  · cases h

/-! ### Padded numbers -/

section Padded
variable {width n : ℕ}

theorem isDigit_of_mem_padded {c : Char} (h : c ∈ padded width n) : c.isDigit = true := by
  rcases List.mem_append.mp h with h | h
  · rw [List.eq_of_mem_replicate h]
    rfl
  · exact Nat.isDigit_of_mem_toDigits (by decide) (by decide) h

theorem length_padded (hw : 0 < width) (hn : n < 10 ^ width) : (padded width n).length = width := by
  have h := Nat.toDigits_length 10 n width hw hn
  simp only [padded, List.length_append, List.length_replicate]
  omega

theorem decimal_padded (width n : ℕ) : Text.decimal (padded width n) = n := by
  have hz (k : ℕ) : Text.decimal (List.replicate k '0' ++ Nat.toDigits 10 n) =
      Text.decimal (Nat.toDigits 10 n) := by
    induction k with
    | zero => rfl
    | succ k ih => exact ih
  rw [padded, hz, Json.decimal_toDigits]

theorem fixedDigits?_append {ds : List Char} (hd : ∀ c ∈ ds, c.isDigit = true) (value : ℕ)
    (rest : List Char) : fixedDigits? ds.length value (ds ++ rest) =
      some (ds.foldl (fun n c => n * 10 + (c.toNat - 48)) value, rest) := by
  induction ds generalizing value with
  | nil => rfl
  | cons c ds ih =>
    obtain ⟨hc, hds⟩ := List.forall_mem_cons.mp hd
    rw [List.length_cons, List.cons_append, fixedDigits?, if_pos hc, ih hds, List.foldl_cons]

/-- **A padded number** is read back, whatever stands behind it. -/
theorem fixedDigits?_padded (width : ℕ) {n : ℕ} (hw : 0 < width) (hn : n < 10 ^ width)
    (rest : List Char) :
    fixedDigits? width 0 (padded width n ++ rest) = some (n, rest) := by
  have h := fixedDigits?_append (fun c (hc : c ∈ padded width n) => isDigit_of_mem_padded hc) 0 rest
  rw [length_padded hw hn] at h
  rw [h]
  exact congrArg (fun m => some (m, rest)) (decimal_padded width n)

end Padded

/-! ### The text of a timestamp -/

theorem lt_of_valid {date : Date} (h : date.Valid) :
    date.year < 10 ^ 4 ∧ date.month < 10 ^ 2 ∧ date.day < 10 ^ 2 := by
  obtain ⟨-, hy, -, hm, -, hd⟩ := h
  have hl : Date.monthLength date.year date.month ≤ 31 := by
    have hall : ∀ length < 30, ∀ month ≤ 12,
        [31, length, 31, 30, 31, 30, 31, 31, 30, 31, 30, 31].getD (month - 1) 0 ≤ 31 := by decide
    unfold Date.monthLength Date.monthLengths
    split_ifs
    · exact hall 29 (by decide) _ hm
    · exact hall 28 (by decide) _ hm
  omega

/-- The offset and nothing else may follow a time. -/
def OffsetFollows (rest : List Char) : Prop := ∀ c ∈ rest.head?, c ∈ ['Z', '+', '-']

theorem offsetFollows_render (offset : Option ℤ) :
    OffsetFollows ((offset.map renderOffset).getD []) := by
  cases offset with
  | none => nofun
  | some o =>
    change OffsetFollows (renderOffset o)
    unfold renderOffset
    split_ifs <;> simp [OffsetFollows]

theorem OffsetFollows.not_isDigit {rest : List Char} (hr : OffsetFollows rest) :
    ∀ c ∈ rest.head?, ¬ c.isDigit = true := by
  intro c hc
  have hall : ['Z', '+', '-'].all (fun c => !c.isDigit) = true := by decide
  simpa using List.all_eq_true.mp hall c (hr c hc)

/-- Where no fraction is written, none is read: a point or a comma cannot follow. -/
theorem storedFraction?_of_offsetFollows {rest : List Char} (hr : OffsetFollows rest) :
    storedFraction? rest = some (0, rest) := by
  unfold storedFraction?
  split
  · rename_i c rest
    rw [if_neg]
    rintro (rfl | rfl)
    · exact absurd (hr '.' rfl) (by decide)
    · exact absurd (hr ',' rfl) (by decide)
  · rfl

theorem microsecondsOf_padded {n : ℕ} (hn : n < 10 ^ 6) : microsecondsOf (padded 6 n) = n := by
  have hl : (padded 6 n).length = 6 := length_padded (by decide) hn
  rw [microsecondsOf, List.take_append_of_le_length (Nat.le_of_eq hl.symm),
    List.take_of_length_le (Nat.le_of_eq hl), decimal_padded]

theorem storedFraction?_render {n : ℕ} (hn : n < 10 ^ 6) {rest : List Char}
    (hr : OffsetFollows rest) :
    storedFraction? ((if n = 0 then [] else '.' :: padded 6 n) ++ rest) = some (n, rest) := by
  split_ifs with h
  · subst h
    exact storedFraction?_of_offsetFollows hr
  · obtain ⟨htake, hdrop⟩ := Prod.mk.inj
      (Json.digits_append (fun c (hc : c ∈ padded 6 n) => isDigit_of_mem_padded hc) hr.not_isDigit)
    have hne : ¬ (padded 6 n).isEmpty = true := by
      rw [List.isEmpty_iff_length_eq_zero, length_padded (by decide) hn]
      decide
    rw [List.cons_append, storedFraction?, if_pos (Or.inl rfl), htake, hdrop, if_neg hne,
      microsecondsOf_padded hn]

/-! ### Offsets -/

theorem storedOffsetSize?_render {minutes : ℕ} (h : minutes < 1440) :
    storedOffsetSize? (padded 2 (minutes / 60) ++ ':' :: padded 2 (minutes % 60)) =
      some (minutes * 60000000) := by
  have hh := fixedDigits?_padded 2 (n := minutes / 60) (by decide) (by omega)
    (':' :: padded 2 (minutes % 60))
  have hm := fixedDigits?_padded 2 (n := minutes % 60) (by decide) (by omega) []
  rw [List.append_nil] at hm
  have hc : minutes / 60 < 24 ∧ minutes % 60 < 60 ∧ ([] : List Char).isEmpty = true :=
    ⟨by omega, by omega, rfl⟩
  simp only [storedOffsetSize?, hh, hm, Option.bind_eq_bind, Option.bind_some, if_pos hc,
    Option.pure_def, Nat.div_add_mod']

/-- **An offset is read back** from its text. -/
theorem storedOffset?_render {offset : Option ℤ} (h : ∀ o ∈ offset, InMinutes o) :
    storedOffset? ((offset.map renderOffset).getD []) = some offset := by
  cases offset with
  | none => rfl
  | some o =>
    obtain ⟨minutes, hm, ho⟩ := h o rfl
    have hsize := storedOffsetSize?_render hm
    have habs : o.natAbs / 60000000 = minutes := by omega
    change storedOffset? (renderOffset o) = _
    unfold renderOffset
    split_ifs with h0 hneg
    · subst h0
      rfl
    · rw [habs, List.cons_append, storedOffset?, if_neg (by decide), if_neg (by decide),
        if_pos (Or.inl rfl), hsize]
      change some (some (-((minutes * 60000000 : ℕ) : ℤ))) = some (some o)
      rw [show o = -((minutes * 60000000 : ℕ) : ℤ) by push_cast; omega]
    · rw [habs, List.cons_append, storedOffset?, if_neg (by decide), if_pos rfl, hsize]
      change some (some ((minutes * 60000000 : ℕ) : ℤ)) = some (some o)
      rw [show o = ((minutes * 60000000 : ℕ) : ℤ) by push_cast; omega]

/-! ### Dates and times -/

theorem storedDate?_render {date : Date} (h : date.Valid) (rest : List Char) :
    storedDate? (padded 4 date.year ++
      '-' :: (padded 2 date.month ++ '-' :: (padded 2 date.day ++ rest))) = some (date, rest) := by
  obtain ⟨hy, hm, hd⟩ := lt_of_valid h
  simp only [storedDate?, fixedDigits?_padded 4 (by decide) hy,
    fixedDigits?_padded 2 (by decide) hm, fixedDigits?_padded 2 (by decide) hd, expect?,
    Option.bind_eq_bind, Option.bind_some, decide_true, if_true, if_pos h, Option.pure_def]

theorem storedTime?_render {time : TimeOfDay} (h : time.Valid) {rest : List Char}
    (hr : OffsetFollows rest) :
    storedTime? (padded 2 time.hour ++ ':' :: (padded 2 time.minute ++ ':' ::
      (padded 2 time.second ++ ((if time.microsecond = 0 then []
        else '.' :: padded 6 time.microsecond) ++ rest)))) = some (time, rest) := by
  obtain ⟨hh, hm, hs, hu⟩ := id h
  simp only [storedTime?, storedSeconds?,
    fixedDigits?_padded 2 (n := time.hour) (by decide) (by omega),
    fixedDigits?_padded 2 (n := time.minute) (by decide) (by omega),
    fixedDigits?_padded 2 (n := time.second) (by decide) (by omega),
    storedFraction?_render hu hr, expect?, Option.bind_eq_bind, Option.bind_some, decide_true,
    if_true, if_pos h, Option.pure_def]

/-- **A timestamp is read back** from its text. -/
theorem storedForm?_render {t : Timestamp} (h : t.Storable) : storedForm? t.render = some t := by
  have hmark : isTimeMark 'T' = true := rfl
  simp only [render, List.append_assoc, List.cons_append, storedForm?, storedDate?_render h.date,
    Option.bind_eq_bind, Option.bind_some, List.isEmpty_cons, Bool.false_eq_true, if_false,
    expect?, hmark, if_true, storedTime?_render h.time (offsetFollows_render t.offset),
    storedOffset?_render h.offset, Option.pure_def]

/-- **What was written is read back**: a timestamp from its text. -/
theorem asTimestamp_toText {t : Timestamp} (h : t.Storable) :
    Json.asTimestamp (.str t.toText) = .accepted t := by
  simp only [Json.asTimestamp, Json.timestamp?, ofText?, toText, String.toList_ofList,
    storedForm?_render h]

end PasswordVault.Timestamp
