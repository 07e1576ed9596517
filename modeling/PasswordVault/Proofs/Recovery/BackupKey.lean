import PasswordVault.Proofs.Text.Base32
import PasswordVault.Recovery.BackupKey

/-!
# Typed backup keys

A backup key is 52 characters of base32 for 32 bytes, so the last character adds one bit and has
four spare ones. Separators and the case of letters do not count. Typed texts are read as keys if
their normal form has 52 characters of base32, and two of them are one key if they differ in the
spare bits only.

* `Retyped`: what a written text may have become when it is typed, `retyped_iff`;
* `decode?_of_retyped`: **a key that was typed** as it may be;
* `decode?_eq_some_iff`, `exists_decode?_iff`: the key in a typed text, and when there is one;
* `decode_typed`: **which texts are read, and as what keys**.
-/

namespace PasswordVault.BackupKey

/-! ### Separators -/

/-- The characters that count. -/
def letters (cs : List Char) : List Char :=
  cs.filter fun c => !isSeparator c

theorem normalizeChars_eq (cs : List Char) : normalizeChars cs = Text.upper (letters cs) :=
  rfl

theorem isSeparator_toUpper (c : Char) : isSeparator c.toUpper = isSeparator c := by
  by_cases h : c.toNat < 128
  · have hd : ∀ n < 128, isSeparator (Char.ofNat n).toUpper = isSeparator (Char.ofNat n) := by
      decide
    exact forall_ascii h hd
  · rw [Text.toUpper_of_le (Nat.le_of_not_lt h)]

/-- Dashes between groups are all that grouping adds. -/
theorem filter_grouped {p : Char → Bool} (hp : p '-' = false) (size left : ℕ) {cs : List Char}
    (h : ∀ c ∈ cs, p c = true) : (grouped size left cs).filter p = cs := by
  fun_induction grouped size left cs with
  | case1 => rfl
  | case2 c rest ih =>
    obtain ⟨hc, hrest⟩ := List.forall_mem_cons.mp h
    rw [List.filter_cons_of_neg (by simp [hp]), List.filter_cons_of_pos hc, ih hrest]
  | case3 left c rest ih =>
    obtain ⟨hc, hrest⟩ := List.forall_mem_cons.mp h
    rw [List.filter_cons_of_pos hc, ih hrest]

/-! ### Typing -/

/-- The text `typed` is `written` with the case of any letters of ASCII changed and any separators
left out or put in. -/
inductive Retyped : (written typed : List Char) → Prop
  | nil : Retyped [] []
  | letter {c d : Char} {written typed : List Char} :
    d.toUpper = c.toUpper → Retyped written typed → Retyped (c :: written) (d :: typed)
  | dropped {c : Char} {written typed : List Char} :
    isSeparator c = true → Retyped written typed → Retyped (c :: written) typed
  | added {d : Char} {written typed : List Char} :
    isSeparator d = true → Retyped written typed → Retyped written (d :: typed)

theorem letters_cons_of_isSeparator {c : Char} (h : isSeparator c = true) (cs : List Char) :
    letters (c :: cs) = letters cs :=
  List.filter_cons_of_neg (by simp [h])

theorem letters_cons {c : Char} (h : isSeparator c = false) (cs : List Char) :
    letters (c :: cs) = c :: letters cs :=
  List.filter_cons_of_pos (by simp [h])

theorem Retyped.map_letters {written typed : List Char} (h : Retyped written typed) :
    (letters typed).map Char.toUpper = (letters written).map Char.toUpper := by
  induction h with
  | nil => rfl
  | @letter c d written typed he _ ih =>
    have hs : isSeparator d = isSeparator c := by
      rw [← isSeparator_toUpper d, he, isSeparator_toUpper]
    cases hc : isSeparator c with
    | true =>
      rw [letters_cons_of_isSeparator (hs.trans hc), letters_cons_of_isSeparator hc, ih]
    | false =>
      rw [letters_cons (hs.trans hc), letters_cons hc, List.map_cons, List.map_cons, he, ih]
  | dropped hc _ ih => rw [letters_cons_of_isSeparator hc, ih]
  | added hd _ ih => rw [letters_cons_of_isSeparator hd, ih]

theorem retyped_of_map_letters {written typed : List Char}
    (h : (letters typed).map Char.toUpper = (letters written).map Char.toUpper) :
    Retyped written typed := by
  induction typed generalizing written with
  | nil =>
    induction written with
    | nil => exact .nil
    | cons c written ih =>
      cases hc : isSeparator c with
      | true =>
        rw [letters_cons_of_isSeparator hc] at h
        exact .dropped hc (ih h)
      | false =>
        rw [letters_cons hc] at h
        cases h
  | cons d typed iht =>
    cases hd : isSeparator d with
    | true =>
      rw [letters_cons_of_isSeparator hd] at h
      exact .added hd (iht h)
    | false =>
      rw [letters_cons hd] at h
      induction written with
      | nil => cases h
      | cons c written ihw =>
        cases hc : isSeparator c with
        | true =>
          rw [letters_cons_of_isSeparator hc] at h
          exact .dropped hc (ihw h)
        | false =>
          rw [letters_cons hc] at h
          obtain ⟨he, ht⟩ := List.cons.inj h
          exact .letter he (iht ht)

/-- **Texts that are typed for one another** have the same characters that count, up to their
case. -/
theorem retyped_iff {written typed : List Char} : Retyped written typed ↔
    (letters typed).map Char.toUpper = (letters written).map Char.toUpper :=
  ⟨Retyped.map_letters, retyped_of_map_letters⟩

instance (written typed : List Char) : Decidable (Retyped written typed) :=
  decidable_of_iff _ retyped_iff.symm

/-- The normal form of what was typed for a text of ASCII characters and separators. -/
theorem Retyped.normalizeChars_eq {written typed : List Char} (h : Retyped written typed)
    (ha : IsAscii (letters written)) :
    normalizeChars typed = (letters written).map Char.toUpper := by
  have ht : IsAscii (letters typed) := by
    intro d hd
    have hm : d.toUpper ∈ (letters written).map Char.toUpper :=
      h.map_letters ▸ List.mem_map_of_mem hd
    obtain ⟨c, hc, he⟩ := List.mem_map.mp hm
    by_contra hn
    have hu : c.toUpper.toNat < 128 := by
      have hd : ∀ n < 128, (Char.ofNat n).toUpper.toNat < 128 := by decide
      exact forall_ascii (ha c hc) hd
    rw [he, Text.toUpper_of_le (Nat.le_of_not_lt hn)] at hu
    exact hn hu
  rw [BackupKey.normalizeChars_eq, Text.upper_of_isAscii ht, h.map_letters]

/-! ### Keys -/

/-- The characters of written keys are not changed by what is done to a typed text. -/
theorem fixed_of_mem_encodeChars {key : Bytes} {c : Char} (h : c ∈ Base32.encodeChars key) :
    c.toNat < 128 ∧ c.toUpper = c ∧ isSeparator c = false := by
  have hd : ∀ n < 32, (Base32.digit n).toNat < 128 ∧
      (Base32.digit n).toUpper = Base32.digit n ∧ isSeparator (Base32.digit n) = false := by
    decide
  obtain ⟨n, hn, rfl⟩ := Base32.mem_encodeChars h
  exact hd n hn

theorem letters_format (key : Bytes) : letters (format key).toList = Base32.encodeChars key := by
  rw [format, String.toList_ofList]
  refine filter_grouped (by decide) 4 4 fun c hc => ?_
  rw [(fixed_of_mem_encodeChars hc).2.2]
  rfl

theorem characters_normalize_whole (s : String) :
    (normalize (.whole s)).characters = normalizeChars s.toList :=
  String.toList_ofList

theorem decode?_eq_some_iff {text : Text} {key : Bytes} : decode? text = some key ↔
    text.isWhole = true ∧ Base32.decodeChars? (normalize text).characters = some key ∧
      key.length = length := by
  cases text with
  | broken => simp [decode?, normalize, Text.mapRuns, Text.isWhole]
  | whole s =>
    simp only [decode?, normalize, Text.mapRuns, Text.isWhole, Text.characters, true_and,
      Option.bind_eq_bind, Option.bind_eq_some_iff, Option.ite_none_right_eq_some]
    constructor
    · rintro ⟨_, hd, hl, h⟩
      obtain rfl := Option.some.inj h
      exact ⟨hd, hl⟩
    · rintro ⟨hd, hl⟩
      exact ⟨key, hd, hl, rfl⟩

theorem decode_eq_ok_iff {text : Text} {key : Bytes} :
    decode text = .ok key ↔ decode? text = some key := by
  unfold decode
  cases decode? text with
  | none => exact iff_of_false nofun nofun
  | some found => rw [Except.ok.injEq, Option.some_inj]

theorem decode_eq_error {text : Text} {e : Error} (h : decode text = .error e) :
    e = .authentication .backupKey := by
  unfold decode at h
  cases hd : decode? text with
  | none =>
    rw [hd] at h
    exact (Except.error.inj h).symm
  | some key =>
    rw [hd] at h
    cases h

/-- **A key is read** from every text that may be typed for it. -/
theorem decode?_of_retyped {key : Bytes} (hk : key.length = length) {text : String}
    (h : Retyped (format key).toList text.toList) : decode? text = some key := by
  have ha : IsAscii (letters (format key).toList) := by
    intro c hc
    rw [letters_format] at hc
    exact (fixed_of_mem_encodeChars hc).1
  have hu : (Base32.encodeChars key).map Char.toUpper = Base32.encodeChars key :=
    (List.map_congr_left fun c hc => (fixed_of_mem_encodeChars hc).2.1).trans (List.map_id _)
  rw [decode?_eq_some_iff, characters_normalize_whole, h.normalizeChars_eq ha, letters_format, hu]
  exact ⟨rfl, Base32.decodeChars?_encodeChars key, hk⟩

/-- **When a text is read as a key.** -/
theorem exists_decode?_iff {text : Text} : (∃ key, decode? text = some key) ↔
    text.isWhole = true ∧ (normalize text).characters.length = 52 ∧
      ∀ c ∈ (normalize text).characters, ('A' ≤ c ∧ c ≤ 'Z') ∨ ('2' ≤ c ∧ c ≤ '7') := by
  simp only [decode?_eq_some_iff, exists_and_left]
  exact and_congr_right fun _ => Base32.exists_decodeChars?_iff

/-! ### Spare bits -/

/-- The bit that the last character adds to a key, the highest of its five. -/
def lastBit (cs : List Char) : Option ℕ :=
  (cs.getLast?.bind Base32.value?).map (· / 16)

/-- The character of a last bit, with the spare bits zero. -/
theorem digit_clearBits : ∀ v < 32, Base32.digit (Base32.clearBits 4 v) =
    if v / 16 = 0 then 'A' else 'Q' := by
  decide

/-- A text that is read has 51 characters and a last one that adds one bit. -/
theorem exists_concat_of_decode? {text : Text} {key : Bytes} (h : decode? text = some key) :
    ∃ front c v, (normalize text).characters = front ++ [c] ∧ front.length = 51 ∧
      Base32.value? c = some v ∧ v < 32 ∧
      Base32.encodeChars key = front ++ [if v / 16 = 0 then 'A' else 'Q'] := by
  obtain ⟨-, hl, hc⟩ := exists_decode?_iff.mp ⟨key, h⟩
  obtain ⟨-, hd, hk⟩ := decode?_eq_some_iff.mp h
  obtain ⟨front, c, hcs⟩ := (List.eq_nil_or_concat' _).resolve_left
    (List.ne_nil_of_length_pos (by rw [hl]; decide))
  rw [hcs] at hl hc hd
  obtain ⟨v, hv⟩ := Base32.exists_value?_iff.mpr (hc c (by simp))
  have hv32 := (Base32.value?_eq_some_iff.mp hv).1
  have he := Base32.encodeChars_of_decodeChars? hd hv
  have hs : Base32.spare key.length = 4 := by
    rw [hk]
    decide
  rw [hs, digit_clearBits v hv32] at he
  exact ⟨front, c, v, hcs, by simpa using hl, hv, hv32, he⟩

theorem lastBit_concat {front : List Char} {c : Char} {v : ℕ} (hv : Base32.value? c = some v) :
    lastBit (front ++ [c]) = some (v / 16) := by
  simp [lastBit, hv]

/-- **When two texts are one key**: they have the same characters but for the spare bits. -/
theorem eq_iff_of_decode? {text other : Text} {key key' : Bytes} (h : decode? text = some key)
    (h' : decode? other = some key') : key' = key ↔
      (normalize other).characters.take 51 = (normalize text).characters.take 51 ∧
        lastBit (normalize other).characters = lastBit (normalize text).characters := by
  obtain ⟨front, c, v, hcs, hl, hv, hv32, he⟩ := exists_concat_of_decode? h
  obtain ⟨front', c', v', hcs', hl', hv', hv32', he'⟩ := exists_concat_of_decode? h'
  have hbit : ∀ m < 32, ∀ n < 32, (if m / 16 = 0 then 'A' else 'Q') =
      (if n / 16 = 0 then 'A' else 'Q') → m / 16 = n / 16 := by
    decide
  rw [hcs, hcs', lastBit_concat hv, lastBit_concat hv', ← hl, List.take_left, hl, ← hl',
    List.take_left, ← Base32.encodeChars_inj, he, he', Option.some_inj]
  constructor
  · intro h
    obtain ⟨hfront, hlast⟩ := List.append_inj' h rfl
    exact ⟨hfront, hbit v' hv32' v hv32 (List.singleton_inj.mp hlast)⟩
  · rintro ⟨rfl, hlast⟩
    rw [hlast]

/-- What is written for a key that was read has the characters of the text up to the last one. -/
theorem exists_filter_format {text : Text} {key : Bytes} (h : decode? text = some key) :
    ∃ c, (c = 'A' ∨ c = 'Q') ∧ (format key).toList.filter (· ≠ '-') =
      (normalize text).characters.take 51 ++ [c] := by
  obtain ⟨front, c, v, hcs, hl, -, -, he⟩ := exists_concat_of_decode? h
  refine ⟨if v / 16 = 0 then 'A' else 'Q', by split_ifs <;> simp, ?_⟩
  rw [hcs, ← hl, List.take_left, ← he, format, String.toList_ofList]
  refine filter_grouped (by decide) 4 4 fun d hd => decide_eq_true fun hdash => ?_
  have hs := (fixed_of_mem_encodeChars hd).2.2
  rw [hdash] at hs
  exact absurd hs (by decide)

/-- **Which texts are read, and as what keys.** A text is read if it has no lone surrogate and its
normal form has exactly 52 characters, all of them capital letters or digits from two to seven; any
other is refused, whatever is wrong with it. Two texts are one key if their normal forms have the
same first 51 characters and last characters with the same highest bit. What is written for the key
has the same first 51 characters, and as its last character the one of these with all other bits
zero. -/
theorem decode_typed (text : Text) :
    ((∃ key, decode text = .ok key) ↔
      text.isWhole = true ∧ (normalize text).characters.length = 52 ∧
        ∀ c ∈ (normalize text).characters, ('A' ≤ c ∧ c ≤ 'Z') ∨ ('2' ≤ c ∧ c ≤ '7')) ∧
    (∀ e, decode text = .error e → e = .authentication .backupKey) ∧
    (Error.authentication .backupKey).message = "Invalid backup key" ∧
    ∀ key, decode text = .ok key → key.length = 32 ∧
      (∀ other key', decode other = .ok key' → (key' = key ↔
        (normalize other).characters.take 51 = (normalize text).characters.take 51 ∧
          lastBit (normalize other).characters = lastBit (normalize text).characters)) ∧
      ∃ c, (c = 'A' ∨ c = 'Q') ∧ (format key).toList.filter (· ≠ '-') =
        (normalize text).characters.take 51 ++ [c] := by
  simp only [decode_eq_ok_iff]
  refine ⟨?_, fun e => decode_eq_error, by decide, fun key h => ⟨?_, fun other key' h' => ?_, ?_⟩⟩
  · exact exists_decode?_iff
  · exact (decode?_eq_some_iff.mp h).2.2
  · exact eq_iff_of_decode? h h'
  · exact exists_filter_format h

end PasswordVault.BackupKey
