import PasswordVault.Proofs.Text.Ascii
import PasswordVault.Proofs.Text.Lower

/-!
# Words between blanks

A text is made of words, with blanks between two of them and perhaps at its ends. It has these words
and no others, so words that were put together are read back, whatever blanks stand between them.
This holds whatever a text is a list of and whatever counts as blank. Letters of ASCII change their
case one by one and blanks have none.

* `Spread`, `words_eq_iff`: **the words of a text** are those that it is made of;
* `words_intercalate`: words with a blank between two of them are read back;
* `words_map`: the words of a text that is changed item by item;
* `Spread.words_lower`: the words of a text of ASCII letters and blanks in lower case.
-/

namespace PasswordVault.Text

/-! ### Texts made of words -/

section
variable {α : Type} {blank : α → Bool}

/-- There are blanks only. -/
def Blanks (blank : α → Bool) (gap : List α) : Prop := ∀ a ∈ gap, blank a = true

/-- There is something, and nothing in it is blank. -/
def IsWord (blank : α → Bool) (w : List α) : Prop := w ≠ [] ∧ ∀ a ∈ w, blank a = false

theorem isWord_singleton {a : α} (h : ¬ blank a = true) : IsWord blank [a] :=
  ⟨List.cons_ne_nil a [], fun b hb => by
    rw [List.mem_singleton.mp hb]
    exact Bool.eq_false_iff.mpr h⟩

/-- The text is empty or starts with a blank. -/
def StartsBlank (blank : α → Bool) (as : List α) : Prop := ∀ a ∈ as.head?, blank a = true

/-- The text is made of the words in their order: blanks that may stand before a word, and behind
it the end or a blank. -/
inductive Spread (blank : α → Bool) : List (List α) → List α → Prop
  | blanks {gap : List α} : Blanks blank gap → Spread blank [] gap
  | word {gap w rest : List α} {ws : List (List α)} :
    Blanks blank gap → IsWord blank w → StartsBlank blank rest → Spread blank ws rest →
      Spread blank (w :: ws) (gap ++ w ++ rest)

theorem Spread.cons_word {w rest : List α} {ws : List (List α)} (hw : IsWord blank w)
    (hr : StartsBlank blank rest) (h : Spread blank ws rest) : Spread blank (w :: ws) (w ++ rest) :=
  have hgap : Blanks blank [] := nofun
  Spread.word hgap hw hr h

theorem words_blanks_append {gap : List α} (h : Blanks blank gap) (rest : List α) :
    words blank (gap ++ rest) = words blank rest := by
  induction gap with
  | nil => rfl
  | cons a gap ih =>
    obtain ⟨ha, hgap⟩ := List.forall_mem_cons.mp h
    rw [List.cons_append, words.eq_def]
    simp only [ha, if_true]
    exact ih hgap

theorem words_word_append {w rest : List α} (hw : IsWord blank w) (hr : StartsBlank blank rest) :
    words blank (w ++ rest) = w :: words blank rest := by
  obtain ⟨hne, hb⟩ := hw
  induction w with
  | nil => exact absurd rfl hne
  | cons a w ih =>
    obtain ⟨ha, hw⟩ := List.forall_mem_cons.mp hb
    cases w with
    | nil =>
      cases rest with
      | nil => simp [words, ha]
      | cons b rest => simp [words, ha, hr b rfl]
    | cons b w =>
      have hb : blank b = false := hw b List.mem_cons_self
      have ih := ih (List.cons_ne_nil b w) hw
      rw [List.cons_append] at ih
      rw [List.cons_append, List.cons_append, words.eq_def]
      simp [ha, hb, ih]

theorem Spread.words_eq {ws : List (List α)} {as : List α} (h : Spread blank ws as) :
    words blank as = ws := by
  induction h with
  | @blanks gap hgap =>
    have := words_blanks_append hgap []
    rwa [List.append_nil] at this
  | word hgap hw hr _ ih =>
    rw [List.append_assoc, words_blanks_append hgap, words_word_append hw hr, ih]

/-! ### Every text is made of its words -/

theorem Spread.cons_blank {ws : List (List α)} {as : List α} {a : α} (ha : blank a = true)
    (h : Spread blank ws as) : Spread blank ws (a :: as) := by
  cases h with
  | blanks hgap => exact .blanks (List.forall_mem_cons.mpr ⟨ha, hgap⟩)
  | word hgap hw hr h => exact .word (List.forall_mem_cons.mpr ⟨ha, hgap⟩) hw hr h

/-- A letter before a letter belongs to the same word. -/
theorem Spread.cons_letter {ws : List (List α)} {as : List α} {a b : α} (ha : blank a = false)
    (hb : blank b = false) (h : Spread blank ws (b :: as)) :
    ∃ w ws', ws = w :: ws' ∧ Spread blank ((a :: w) :: ws') (a :: b :: as) := by
  generalize he : b :: as = text at h
  cases h with
  | blanks hgap =>
    subst he
    exact absurd (hgap b List.mem_cons_self) (by simp [hb])
  | @word gap w rest ws' hgap hw hr h =>
    refine ⟨w, ws', rfl, ?_⟩
    cases gap with
    | nil =>
      have haw : IsWord blank (a :: w) :=
        ⟨List.cons_ne_nil a w, List.forall_mem_cons.mpr ⟨ha, hw.2⟩⟩
      exact .cons_word haw hr h
    | cons g gap =>
      obtain ⟨rfl, -⟩ := List.cons.inj he
      exact absurd (hgap b List.mem_cons_self) (by simp [hb])

theorem spread_words (blank : α → Bool) (as : List α) : Spread blank (words blank as) as := by
  fun_induction words blank as with
  | case1 => exact .blanks nofun
  | case2 a rest ha ih => exact ih.cons_blank ha
  | case3 a ha => exact .cons_word (isWord_singleton ha) nofun (.blanks nofun)
  | case4 a ha b rest hb ih =>
    refine .cons_word (isWord_singleton ha) (fun c hc => ?_) ih
    obtain rfl := Option.some.inj hc
    exact hb
  | case5 a ha b rest hb hw ih | case6 a ha b rest hb w ws hw ih =>
    obtain ⟨w, ws, he, h⟩ := ih.cons_letter (Bool.eq_false_iff.mpr ha) (Bool.eq_false_iff.mpr hb)
    rw [he]
    exact h

/-- **The words of a text** are those that it is made of. -/
theorem words_eq_iff {as : List α} {ws : List (List α)} :
    words blank as = ws ↔ Spread blank ws as :=
  ⟨fun h => h ▸ spread_words blank as, Spread.words_eq⟩

theorem Spread.isWord_of_mem {ws : List (List α)} {as w : List α} (h : Spread blank ws as)
    (hw : w ∈ ws) : IsWord blank w := by
  induction h with
  | blanks _ => exact absurd hw List.not_mem_nil
  | word _ hv _ _ ih =>
    rcases List.mem_cons.mp hw with rfl | hw
    · exact hv
    · exact ih hw

theorem Spread.mem {ws : List (List α)} {as : List α} (h : Spread blank ws as) {a : α}
    (ha : a ∈ as) : blank a = true ∨ ∃ w ∈ ws, a ∈ w := by
  induction h with
  | blanks hgap => exact Or.inl (hgap a ha)
  | @word gap w rest ws hgap hw hr _ ih =>
    rcases List.mem_append.mp ha with ha | ha
    · rcases List.mem_append.mp ha with ha | ha
      · exact Or.inl (hgap a ha)
      · exact Or.inr ⟨w, List.mem_cons_self, ha⟩
    · exact (ih ha).imp_right fun ⟨v, hv, hav⟩ => ⟨v, List.mem_cons_of_mem w hv, hav⟩

theorem Spread.mem_of_mem {ws : List (List α)} {as w : List α} (h : Spread blank ws as)
    (hw : w ∈ ws) {a : α} (ha : a ∈ w) : a ∈ as := by
  induction h with
  | blanks _ => exact absurd hw List.not_mem_nil
  | word _ _ _ _ ih =>
    rcases List.mem_cons.mp hw with rfl | hw
    · exact List.mem_append_left _ (List.mem_append_right _ ha)
    · exact List.mem_append_right _ (ih hw)

/-! ### Words with a blank between two of them -/

theorem spread_intercalate {b : α} (hb : blank b = true) {ws : List (List α)}
    (h : ∀ w ∈ ws, IsWord blank w) : Spread blank ws ([b].intercalate ws) := by
  induction ws with
  | nil => exact .blanks nofun
  | cons w ws ih =>
    obtain ⟨hw, hws⟩ := List.forall_mem_cons.mp h
    cases ws with
    | nil =>
      have h : Spread blank [w] (w ++ []) := .cons_word hw nofun (.blanks nofun)
      simpa using h
    | cons v ws =>
      have h := Spread.cons_word hw (by simp [StartsBlank, hb]) ((ih hws).cons_blank hb)
      simpa using h

/-- **Words with a blank between two of them** are read back. -/
theorem words_intercalate {b : α} (hb : blank b = true) {ws : List (List α)}
    (h : ∀ w ∈ ws, IsWord blank w) : words blank ([b].intercalate ws) = ws :=
  (spread_intercalate hb h).words_eq

theorem mem_intercalate {sep : List α} {ws : List (List α)} {a : α}
    (h : a ∈ sep.intercalate ws) : a ∈ sep ∨ ∃ w ∈ ws, a ∈ w := by
  induction ws with
  | nil => simp at h
  | cons w ws ih =>
    cases ws with
    | nil => exact Or.inr ⟨w, List.mem_cons_self, by simpa using h⟩
    | cons v ws =>
      rw [List.intercalate_cons_cons, List.mem_append, List.mem_append] at h
      rcases h with (h | h) | h
      · exact Or.inr ⟨w, List.mem_cons_self, h⟩
      · exact Or.inl h
      · exact (ih h).imp_right fun ⟨u, hu, ha⟩ => ⟨u, List.mem_cons_of_mem w hu, ha⟩

/-! ### Words that are changed item by item -/

variable {β : Type} {blank' : β → Bool} {f : α → β} (hf : ∀ a, blank' (f a) = blank a)

include hf in
/-- Words keep their places when every item is changed and no blank is made or lost. -/
theorem Spread.map {ws : List (List α)} {as : List α} (h : Spread blank ws as) :
    Spread blank' (ws.map (List.map f)) (as.map f) := by
  have hgap {gap : List α} (h : Blanks blank gap) : Blanks blank' (gap.map f) :=
    List.forall_mem_map.mpr fun a ha => (hf a).trans (h a ha)
  induction h with
  | blanks h => exact .blanks (hgap h)
  | @word gap w rest ws h hw hr _ ih =>
    rw [List.map_append, List.map_append]
    refine .word (hgap h) ⟨?_, ?_⟩ ?_ ih
    · simpa using hw.1
    · exact List.forall_mem_map.mpr fun a ha => (hf a).trans (hw.2 a ha)
    · intro a ha
      rw [List.head?_map] at ha
      obtain ⟨b, hb, rfl⟩ := Option.map_eq_some_iff.mp ha
      exact (hf b).trans (hr b hb)

include hf in
theorem words_map (as : List α) :
    words blank' (as.map f) = (words blank as).map (List.map f) :=
  ((spread_words blank as).map hf).words_eq

theorem map_intercalate (sep : List α) (ws : List (List α)) :
    (sep.intercalate ws).map f = (sep.map f).intercalate (ws.map (List.map f)) := by
  induction ws with
  | nil => simp
  | cons w ws ih =>
    cases ws with
    | nil => simp
    | cons v ws =>
      rw [List.intercalate_cons_cons, List.map_append, List.map_append, ih]
      simp

end

/-! ### Words in lower case -/

/-- The other form of a letter of ASCII, and a letter that is none, takes one character. -/
theorem lowerChar_of_lt {c : Char} (h : c.toNat < 128) :
    c ≠ capitalSigma ∧ lowerChar c = [c.toLower] := by
  have hd : ∀ n < 128, Char.ofNat n ≠ capitalSigma ∧
      lowerChar (Char.ofNat n) = [(Char.ofNat n).toLower] := by
    decide +kernel
  exact forall_ascii h hd

def blankSpans : List CaseTable.Span := whiteSpans ++ [⟨0x1c, 0x1f⟩]

theorem exists_span_of_isBlank {c : Char} (h : isBlank c = true) :
    ∃ r ∈ blankSpans, r.first ≤ c.toNat ∧ c.toNat ≤ r.last := by
  rw [isBlank, Bool.or_eq_true, isWhite, CaseTable.inSpans, List.any_eq_true] at h
  rcases h with ⟨r, hr, h⟩ | h
  · exact ⟨r, List.mem_append_left _ hr, by simpa using h⟩
  · exact ⟨⟨0x1c, 0x1f⟩, List.mem_append_right _ List.mem_cons_self, by simpa using h⟩

theorem lowerChar_of_isBlank {c : Char} (h : isBlank c = true) :
    c ≠ capitalSigma ∧ lowerChar c = [c.toLower] := by
  have hd : ∀ r ∈ blankSpans, ∀ i < r.last + 1 - r.first,
      Char.ofNat (r.first + i) ≠ capitalSigma ∧
        lowerChar (Char.ofNat (r.first + i)) = [(Char.ofNat (r.first + i)).toLower] := by
    decide +kernel
  obtain ⟨r, hr, h1, h2⟩ := exists_span_of_isBlank h
  have := hd r hr (c.toNat - r.first) (by omega)
  rwa [Nat.add_sub_cancel' h1, Char.ofNat_toNat] at this

theorem toLower_of_le {c : Char} (h : 128 ≤ c.toNat) : c.toLower = c := by
  have hz : ¬ (c.val ≥ 'A'.val ∧ c.val ≤ 'Z'.val) := fun ⟨_, hz⟩ => by
    have : c.toNat ≤ 90 := UInt32.le_iff_toNat_le.mp hz
    omega
  exact dif_neg hz

theorem isBlank_toLower (c : Char) : isBlank c.toLower = isBlank c := by
  by_cases h : c.toNat < 128
  · have hd : ∀ n < 128, isBlank (Char.ofNat n).toLower = isBlank (Char.ofNat n) := by
      decide
    exact forall_ascii h hd
  · rw [toLower_of_le (by omega)]

/-- **A text of ASCII letters and blanks** has its words in lower case, letter by letter. -/
theorem Spread.words_lower {ws : List (List Char)} {cs : List Char} (h : Spread isBlank ws cs)
    (ha : ∀ w ∈ ws, IsAscii w) : words isBlank (lower cs) = ws.map (List.map Char.toLower) := by
  have hl : lower cs = cs.map Char.toLower := by
    refine lowerAfter_eq_map (fun c hc => ?_) []
    rcases h.mem hc with hb | ⟨w, hw, hcw⟩
    · exact lowerChar_of_isBlank hb
    · exact lowerChar_of_lt (ha w hw c hcw)
  rw [hl]
  exact (h.map isBlank_toLower).words_eq

end PasswordVault.Text
