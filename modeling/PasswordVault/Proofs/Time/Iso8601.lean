import PasswordVault.Proofs.Time.Instant
import PasswordVault.Time.Iso8601
import Mathlib.Data.List.GetD

/-!
# Timestamps in ISO 8601 are read back

The extended format writes a date, the letter T, a time of day with microseconds if there are any,
and an offset, with seconds and microseconds if there are any. The reader finds the end of the date
from the hyphens, splits the rest at the sign of the offset, and follows the colons in both halves.
All is read back but an offset that is not zero and yet has no whole second: ISO 8601 has no such
offsets, and the reader takes them for universal time.

* `isoText`: the extended format, `mem_isoText` its characters;
* `Shows`: the clock that a text shows, with `shows_fullClock` and `shows_shortClock`;
* `isoOffset?_shortClock`, `isoTime?_append`, `isoDate?_dateText`: the parts of the text;
* `keptOffset`: the offset as it is read, `ofIso8601?_isoText`: **what was written is read back**.
-/

namespace PasswordVault.Timestamp

/-! ### The format -/

/-- A fraction of a second, if there is one. -/
def fractionText (microsecond : ℕ) : List Char :=
  if microsecond = 0 then [] else '.' :: padded 6 microsecond

/-- Hours and minutes, and what follows. -/
def minutesText (t : TimeOfDay) (rest : List Char) : List Char :=
  padded 2 t.hour ++ ':' :: (padded 2 t.minute ++ rest)

/-- Seconds with their fraction. -/
def secondsText (t : TimeOfDay) : List Char :=
  ':' :: (padded 2 t.second ++ fractionText t.microsecond)

/-- A time of day with seconds. -/
def fullClock (t : TimeOfDay) : List Char :=
  minutesText t (secondsText t)

/-- A time of day with seconds if there are any. -/
def shortClock (t : TimeOfDay) : List Char :=
  minutesText t (if t.second = 0 ∧ t.microsecond = 0 then [] else secondsText t)

def offsetText (offset : ℤ) : List Char :=
  (if offset < 0 then '-' else '+') :: shortClock (.ofMicroseconds offset.natAbs)

def dateText (date : Date) : List Char :=
  padded 4 date.year ++ '-' :: (padded 2 date.month ++ '-' :: padded 2 date.day)

def localText (t : Timestamp) : List Char :=
  dateText t.date ++ 'T' :: fullClock t.time

/-- **A timestamp in the extended format.** -/
def isoText (t : Timestamp) : List Char :=
  t.localText ++ (t.offset.map offsetText).getD []

/-! ### Clocks -/

theorem exists_padded_two {n : ℕ} (h : n < 10 ^ 2) :
    ∃ a b, padded 2 n = [a, b] ∧ a.isDigit = true ∧ b.isDigit = true := by
  obtain ⟨a, b, hab⟩ := List.length_eq_two.mp (length_padded (by decide) h)
  refine ⟨a, b, hab, ?_, ?_⟩
  all_goals exact isDigit_of_mem_padded (n := n) (by rw [hab]; simp)

theorem isoFraction?_padded (parts : List ℕ) {n : ℕ} (h : n < 10 ^ 6) :
    isoFraction? parts (padded 6 n) = some ⟨parts, n, true⟩ := by
  have hl : (padded 6 n).length = 6 := length_padded (by decide) h
  have htake : (padded 6 n).take 6 = padded 6 n := List.take_of_length_le hl.le
  have hdrop : (padded 6 n).drop 6 = [] := List.drop_of_length_le hl.le
  have hc : ¬ ((padded 6 n).isEmpty = true ∨ (!(padded 6 n).all Char.isDigit) = true) := by
    rw [List.isEmpty_iff_length_eq_zero, hl, List.all_eq_true.mpr fun c => isDigit_of_mem_padded]
    decide
  unfold isoFraction?
  rw [htake, hdrop]
  dsimp only
  rw [if_neg hc, microsecondsOf_padded h]
  rfl

section

variable {slots n : ℕ} (parts : List ℕ) (hn : n < 10 ^ 2)
include hn

theorem isoClock?_last (colons : Option Bool) :
    isoClock? (slots + 1) colons parts (padded 2 n) = some ⟨parts ++ [n], 0, true⟩ := by
  have h := fixedDigits?_padded 2 (by decide) hn []
  rw [List.append_nil] at h
  rw [isoClock?, h]
  rfl

/-- A part with a colon behind it is followed by another part. -/
theorem isoClock?_colon {colons : Option Bool} (hc : colons.getD true = true) {more : List Char}
    (hm : more ≠ []) : isoClock? (slots + 1) colons parts (padded 2 n ++ ':' :: more) =
      isoClock? slots (some true) (parts ++ [n]) more := by
  obtain ⟨d, ds, rfl⟩ := List.exists_cons_of_ne_nil hm
  rw [isoClock?, fixedDigits?_padded 2 (by decide) hn, Option.bind_eq_bind, Option.bind_some]
  simp only [decide_true, hc, and_true, if_true]

/-- A part with a point behind it is followed by a fraction. -/
theorem isoClock?_point (colons : Option Bool) {more : List Char} (hm : more ≠ []) :
    isoClock? (slots + 1) colons parts (padded 2 n ++ '.' :: more) =
      isoFraction? (parts ++ [n]) more := by
  obtain ⟨d, ds, rfl⟩ := List.exists_cons_of_ne_nil hm
  rw [isoClock?, fixedDigits?_padded 2 (by decide) hn, Option.bind_eq_bind, Option.bind_some]
  simp

end

/-- **The text shows a clock** with a time of day. -/
def Shows (cs : List Char) (t : TimeOfDay) : Prop :=
  ∃ r, isoClock? 3 none [] cs = some r ∧ r.complete = true ∧ r.time = t

theorem padded_append_ne_nil {width n : ℕ} (hw : 0 < width) (hn : n < 10 ^ width)
    (rest : List Char) : padded width n ++ rest ≠ [] := by
  intro h
  have hl := length_padded hw hn
  rw [(List.append_eq_nil_iff.mp h).1] at hl
  exact absurd hl (by rw [List.length_nil]; omega)

/-- The seconds and the fraction are read after hours and minutes. -/
theorem isoClock?_secondsText {t : TimeOfDay} (h : t.Valid) (parts : List ℕ) :
    isoClock? 1 (some true) parts (padded 2 t.second ++ fractionText t.microsecond) =
      some ⟨parts ++ [t.second], t.microsecond, true⟩ := by
  obtain ⟨-, -, hs, hu⟩ := h
  unfold fractionText
  split_ifs with h0
  · rw [List.append_nil, isoClock?_last parts (by omega), h0]
  · have hne := padded_append_ne_nil (by decide : 0 < 6) hu []
    rw [List.append_nil] at hne
    rw [isoClock?_point parts (by omega) _ hne, isoFraction?_padded _ hu]

/-- **A time of day with seconds is read back.** -/
theorem shows_fullClock {t : TimeOfDay} (h : t.Valid) : Shows (fullClock t) t := by
  obtain ⟨hh, hm, hs, -⟩ := id h
  refine ⟨⟨[t.hour, t.minute, t.second], t.microsecond, true⟩, ?_, rfl, rfl⟩
  unfold fullClock minutesText secondsText
  rw [isoClock?_colon [] (by omega) rfl (padded_append_ne_nil (by decide) (by omega) _),
    isoClock?_colon _ (by omega) rfl (padded_append_ne_nil (by decide) (by omega) _),
    isoClock?_secondsText h]
  rfl

/-- **A time of day is read back** also without the seconds that it does not have. -/
theorem shows_shortClock {t : TimeOfDay} (h : t.Valid) : Shows (shortClock t) t := by
  unfold shortClock
  split_ifs with h0
  · obtain ⟨hh, hm, -, -⟩ := h
    refine ⟨⟨[t.hour, t.minute], 0, true⟩, ?_, rfl, ?_⟩
    · unfold minutesText
      rw [List.append_nil, isoClock?_colon [] (by omega) rfl, isoClock?_last _ (by omega)]
      · rfl
      · simpa using padded_append_ne_nil (by decide) (by omega : t.minute < 10 ^ 2) []
    · obtain ⟨hour, minute, second, microsecond⟩ := t
      obtain ⟨rfl, rfl⟩ := h0
      rfl
  · exact shows_fullClock h

/-! ### Offsets -/

/-- The offset as it is read: without whole seconds it is none at all. -/
def keptOffset (offset : ℤ) : ℤ :=
  if offset.natAbs < 1000000 then 0 else offset

/-- **An offset is read back** from its text, unless it is too small. -/
theorem isoOffset?_shortClock {offset : ℤ} (h : offset.natAbs < dayLength) :
    isoOffset? (offset < 0) (shortClock (.ofMicroseconds offset.natAbs)) =
      some (keptOffset offset) := by
  have hvalid := TimeOfDay.valid_ofMicroseconds h
  obtain ⟨r, hr, hcomplete, htime⟩ := shows_shortClock hvalid
  have hsize : r.seconds * 1000000 + r.microsecond = offset.natAbs := by
    rw [← TimeOfDay.microseconds_ofMicroseconds offset.natAbs, ← htime]
    rfl
  have hbelow : r.microsecond < 1000000 := by
    rw [← htime] at hvalid
    exact hvalid.2.2.2
  have hzero : r.seconds = 0 ↔ offset.natAbs < 1000000 := by omega
  unfold isoOffset? keptOffset
  rw [hr, Option.bind_eq_bind, Option.bind_some, hcomplete]
  simp only [Bool.not_true, Bool.false_eq_true, if_false, Option.pure_def, decide_eq_true_eq, hzero]
  split_ifs with hsmall hneg
  · rfl
  · exact congrArg some (by omega)
  · exact congrArg some (by omega)

/-! ### Times -/

/-- Whether an offset starts here. -/
def isSign (c : Char) : Bool :=
  c = '+' || c = '-'

theorem isSign_of_isDigit {c : Char} (h : c.isDigit = true) : isSign c = false := by
  rw [isSign, Bool.or_eq_false_iff, decide_eq_false_iff_not, decide_eq_false_iff_not]
  constructor
  · rintro rfl
    cases h
  · rintro rfl
    cases h

/-- The characters of a time of day. -/
theorem mem_minutesText {t : TimeOfDay} {rest : List Char}
    (hr : ∀ c ∈ rest, c.isDigit = true ∨ c = ':' ∨ c = '.') {c : Char}
    (h : c ∈ minutesText t rest) : c.isDigit = true ∨ c = ':' ∨ c = '.' := by
  simp only [minutesText, List.mem_append, List.mem_cons] at h
  rcases h with h | h | h | h
  · exact Or.inl (isDigit_of_mem_padded h)
  · exact Or.inr (Or.inl h)
  · exact Or.inl (isDigit_of_mem_padded h)
  · exact hr c h

theorem mem_secondsText {t : TimeOfDay} {c : Char} (h : c ∈ secondsText t) :
    c.isDigit = true ∨ c = ':' ∨ c = '.' := by
  simp only [secondsText, fractionText, List.mem_append, List.mem_cons] at h
  rcases h with h | h | h
  · exact Or.inr (Or.inl h)
  · exact Or.inl (isDigit_of_mem_padded h)
  · split_ifs at h
    · cases h
    · rcases List.mem_cons.mp h with h | h
      · exact Or.inr (Or.inr h)
      · exact Or.inl (isDigit_of_mem_padded h)

theorem mem_fullClock {t : TimeOfDay} {c : Char} (h : c ∈ fullClock t) :
    c.isDigit = true ∨ c = ':' ∨ c = '.' :=
  mem_minutesText (fun _ => mem_secondsText) h

theorem mem_shortClock {t : TimeOfDay} {c : Char} (h : c ∈ shortClock t) :
    c.isDigit = true ∨ c = ':' ∨ c = '.' := by
  refine mem_minutesText (fun d hd => ?_) h
  split_ifs at hd
  · cases hd
  · exact mem_secondsText hd

theorem isSign_of_mem_fullClock {t : TimeOfDay} {c : Char} (h : c ∈ fullClock t) :
    isSign c = false := by
  rcases mem_fullClock h with h | rfl | rfl
  · exact isSign_of_isDigit h
  · rfl
  · rfl

/-- **A time and an offset are read back** from behind each other. -/
theorem isoTime?_append {t : TimeOfDay} (h : t.Valid) {offset : Option ℤ}
    (ho : ∀ o ∈ offset, o.natAbs < dayLength) :
    isoTime? (fullClock t ++ (offset.map offsetText).getD []) =
      some (t, offset.map keptOffset) := by
  have hclock : ∀ c ∈ fullClock t, (!isSign c) = true := fun c hc => by
    rw [isSign_of_mem_fullClock hc, Bool.not_false]
  obtain ⟨r, hr, hcomplete, rfl⟩ := shows_fullClock h
  have htake (rest : List Char) : (fullClock r.time ++ rest).takeWhile (fun c => !isSign c) =
      fullClock r.time ++ rest.takeWhile fun c => !isSign c :=
    List.takeWhile_append_of_pos hclock
  have hdrop (rest : List Char) : (fullClock r.time ++ rest).dropWhile (fun c => !isSign c) =
      rest.dropWhile fun c => !isSign c :=
    List.dropWhile_append_of_pos hclock
  unfold isoTime?
  extract_lets split
  rw [show split = isSign from rfl, htake, hdrop]
  cases offset with
  | none =>
    rw [Option.map_none, Option.getD_none, List.takeWhile_nil, List.append_nil, hr]
    simp [hcomplete]
  | some o =>
    have hsign : isSign (if o < 0 then '-' else '+') = true := by split_ifs <;> rfl
    have hneg : decide ((if o < 0 then '-' else '+') = '-') = decide (o < 0) := by
      split_ifs with h0 <;> simp [h0]
    rw [Option.map_some, Option.getD_some, offsetText, List.takeWhile_cons_of_neg (by simp [hsign]),
      List.dropWhile_cons_of_neg (by simp [hsign]), List.append_nil, hr]
    simp only [Option.bind_eq_bind, Option.bind_some, hneg, isoOffset?_shortClock (ho o rfl),
      Option.pure_def, Option.map_some]

/-! ### Dates -/

section

variable {date : Date} (h : date.Valid)
include h

theorem length_dateText : (dateText date).length = 10 := by
  obtain ⟨hy, hm, hd⟩ := lt_of_valid h
  simp only [dateText, List.length_append, List.length_cons, length_padded (by decide) hy,
    length_padded (by decide) hm, length_padded (by decide) hd]

/-- A hyphen, and no week behind it: the date has ten characters. -/
theorem datePartLength?_dateText (rest : List Char) :
    datePartLength? (dateText date ++ 'T' :: rest) = some 10 := by
  obtain ⟨hy, hm, hd⟩ := lt_of_valid h
  obtain ⟨e, f, hmonth, he, -⟩ := exists_padded_two hm
  have hlength : (dateText date ++ 'T' :: rest).length ≠ 7 := by
    rw [List.length_append, length_dateText h]
    omega
  have hyear : (padded 4 date.year).length = 4 := length_padded (by decide) hy
  have hhyphen : (dateText date ++ 'T' :: rest).getD 4 ' ' = '-' := by
    rw [dateText, List.append_assoc, List.getD_append_right _ _ _ _ hyear.le, hyear]
    rfl
  have hdigit : (dateText date ++ 'T' :: rest).getD 5 ' ' = e := by
    rw [dateText, List.append_assoc, List.getD_append_right _ _ _ _ (by omega), hyear, hmonth]
    rfl
  have hweek : e ≠ 'W' := by
    rintro rfl
    cases he
  simp only [datePartLength?, if_neg hlength, hhyphen, hdigit, if_true, if_neg hweek]

/-- **A date is read back.** -/
theorem isoDate?_dateText : isoDate? (dateText date) = some date := by
  obtain ⟨hy, hm, hd⟩ := lt_of_valid h
  obtain ⟨e, f, hmonth, he, -⟩ := exists_padded_two hm
  have hday := fixedDigits?_padded 2 (by decide) hd []
  rw [List.append_nil] at hday
  unfold isoDate? dateText
  rw [fixedDigits?_padded 4 (by decide) hy, Option.bind_eq_bind, Option.bind_some]
  generalize hcs : padded 2 date.month ++ '-' :: padded 2 date.day = cs
  dsimp only
  split
  · -- No digit is the letter of a week.
    rename_i rest hweek
    have hweek : cs = 'W' :: rest := hweek
    rw [← hcs, hmonth] at hweek
    cases hweek
    cases he
  · change (fixedDigits? 2 0 cs).bind _ = _
    rw [← hcs, fixedDigits?_padded 2 (by decide) hm]
    simp only [Option.bind_some, expect?, decide_true, if_true, hday, Option.bind_eq_bind,
      Option.pure_def]

end

/-! ### Timestamps -/

/-- **What was written in the extended format is read back**, but for an offset without whole
seconds. -/
theorem ofIso8601?_isoText {t : Timestamp} (h : t.Valid) :
    ofIso8601? (isoText t) = some { t with offset := t.offset.map keptOffset } := by
  obtain ⟨hdate, htime, hoffset⟩ := h
  have hsize : ∀ o ∈ t.offset, o.natAbs < dayLength := fun o ho => by
    have := hoffset o ho
    omega
  have hvalid : ({ t with offset := t.offset.map keptOffset } : Timestamp).Valid := by
    refine ⟨hdate, htime, ?_⟩
    intro _ hkept
    obtain ⟨o, ho, rfl⟩ := Option.map_eq_some_iff.mp hkept
    unfold keptOffset
    split_ifs
    · decide
    · exact hoffset o ho
  have hsplit : isoText t = dateText t.date ++
      'T' :: (fullClock t.time ++ (t.offset.map offsetText).getD []) := by
    rw [isoText, localText, List.append_assoc, List.cons_append]
  have hlength := length_dateText hdate
  unfold ofIso8601?
  rw [hsplit, datePartLength?_dateText hdate, Option.bind_eq_bind, Option.bind_some,
    List.take_left' hlength, List.drop_left' hlength, isoDate?_dateText hdate]
  simp only [Option.bind_eq_bind, Option.bind_some, isoTime?_append htime hsize, if_pos hvalid,
    Option.pure_def]

/-- The characters of the extended format. -/
theorem mem_isoText {t : Timestamp} {c : Char} (h : c ∈ isoText t) :
    c.isDigit = true ∨ c ∈ [':', '.', '-', 'T', '+'] := by
  have hclock : c.isDigit = true ∨ c = ':' ∨ c = '.' →
      c.isDigit = true ∨ c ∈ [':', '.', '-', 'T', '+'] := by
    rintro (h | rfl | rfl)
    · exact Or.inl h
    · exact Or.inr (by decide)
    · exact Or.inr (by decide)
  simp only [isoText, localText, dateText, List.append_assoc, List.cons_append, List.mem_append,
    List.mem_cons] at h
  rcases h with h | rfl | h | rfl | h | rfl | h | h
  · exact Or.inl (isDigit_of_mem_padded h)
  · exact Or.inr (by decide)
  · exact Or.inl (isDigit_of_mem_padded h)
  · exact Or.inr (by decide)
  · exact Or.inl (isDigit_of_mem_padded h)
  · exact Or.inr (by decide)
  · exact hclock (mem_fullClock h)
  · cases ho : t.offset with
    | none =>
      rw [ho] at h
      cases h
    | some o =>
      rw [ho, Option.map_some, Option.getD_some, offsetText] at h
      rcases List.mem_cons.mp h with h | h
      · rw [h]
        split_ifs <;> exact Or.inr (by decide)
      · exact hclock (mem_shortClock h)

end PasswordVault.Timestamp
