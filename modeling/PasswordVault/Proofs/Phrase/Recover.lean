import PasswordVault.Proofs.Hash.Length
import PasswordVault.Proofs.Phrase.Entropy
import PasswordVault.Proofs.Text.Words

/-!
# Phrases that are accepted

The words of the list have no spaces in them, so those that were joined are read back. A typed
phrase is accepted if its normal form is the phrase of some entropy, and so if it could have been
made, and its seed is the one that was made with it. How it was typed makes no difference. A text
with a surrogate that stands alone keeps it in its normal form and so is no phrase.

* `split_join`, `join_split`: what stands between spaces;
* `Writes`, `entropy?_split`: a typed phrase and the entropy that it writes;
* `writes_of_spread`: the words may be typed in any case, with any blanks between them;
* `recover_generate`: a new phrase is accepted;
* `recover_typed`: **what is accepted**.
-/

namespace PasswordVault.Phrase

/-! ### Words that are joined -/

theorem toNat_lt_of_isLower {c : Char} (h : c.isLower = true) : c.toNat < 128 := by
  have hz : c.val ≤ 'z'.val := of_decide_eq_true (Bool.and_eq_true_iff.mp h).2
  have : c.toNat ≤ 122 := UInt32.le_iff_toNat_le.mp hz
  omega

theorem isBlank_of_isLower {c : Char} (h : c.isLower = true) : Text.isBlank c = false := by
  have hd : ∀ n < 128, (Char.ofNat n).isLower = true → Text.isBlank (Char.ofNat n) = false := by
    decide
  have hc := toNat_lt_of_isLower h
  revert h
  exact forall_ascii hc hd

theorem isWord_of_mem_all {w : String} (hw : w ∈ WordList.all) :
    Text.IsWord Text.isBlank w.toList :=
  ⟨WordList.ne_nil_of_mem_all hw, fun c hc =>
    isBlank_of_isLower (WordList.isLower_of_mem_all hw c hc)⟩

theorem join_split (phrase : String) : join (split phrase) = phrase := by
  rw [join, ← String.toList_inj, String.toList_intercalate, split, List.map_map]
  simp [Function.comp_def, List.intercalate_splitOn]

theorem split_join {ws : List String} (h : ∀ w ∈ ws, ' ' ∉ w.toList) (hne : ws ≠ []) :
    split (join ws) = ws := by
  have hs : ([' '].intercalate (ws.map String.toList)).splitOn ' ' = ws.map String.toList :=
    List.splitOn_intercalate ' ' (List.forall_mem_map.mpr h) (by simpa using hne)
  have hspace : " ".toList = [' '] := rfl
  rw [split, join, String.toList_intercalate, hspace, hs, List.map_map]
  simp [Function.comp_def]

/-- The words of a phrase are those that the entropy is written as. -/
theorem split_ofEntropy (entropy : Bytes) : split (join (ofEntropy entropy)) = ofEntropy entropy := by
  refine split_join (fun w hw hspace => ?_) (List.ne_nil_of_length_pos ?_)
  · have := WordList.isLower_of_mem_all (mem_all_of_mem_ofEntropy hw) ' ' hspace
    exact absurd this (by decide)
  · rw [length_ofEntropy]
    decide

/-! ### What a typed phrase writes -/

/-- The normal form of the typed phrase is the phrase of the entropy. -/
def Writes (typed : Text) (entropy : Bytes) : Prop :=
  entropy.length = entropyLength ∧ normalize typed = .whole (join (ofEntropy entropy))

/-- The entropy that is read from a phrase is the one whose phrase it is. -/
theorem entropy?_split {normal : String} {entropy : Bytes} :
    entropy? (split normal) = some entropy ↔
      entropy.length = entropyLength ∧ normal = join (ofEntropy entropy) := by
  rw [entropy?_eq_some_iff]
  refine and_congr_right fun _ => ⟨fun h => ?_, fun h => ?_⟩
  · rw [← h, join_split]
  · rw [h, split_ofEntropy]

theorem recover_of_writes {typed : Text} {entropy : Bytes} (h : Writes typed entropy) :
    recover typed = .ok (stretch (join (ofEntropy entropy))) := by
  rw [recover, h.2]
  dsimp only
  rw [entropy?_split.mpr ⟨h.1, rfl⟩]

theorem recover_of_not_writes {typed : Text} (h : ¬ ∃ entropy, Writes typed entropy) :
    recover typed = .error .phrase := by
  rw [recover]
  cases hn : normalize typed with
  | broken before half after => rfl
  | whole normal =>
    have hnone : entropy? (split normal) = none := by
      refine Option.eq_none_iff_forall_ne_some.mpr fun entropy he => h ⟨entropy, ?_⟩
      obtain ⟨hl, rfl⟩ := entropy?_split.mp he
      exact ⟨hl, hn⟩
    dsimp only
    rw [hnone]

/-- A string is brought into its normal form character by character. -/
theorem normalize_whole (typed : String) :
    normalize typed = .whole (String.ofList
      ([' '].intercalate (Text.words Text.isBlank (Text.lower typed.toList)))) := by
  have hblank (c : Char) : Text.Point.isBlank (.char c) = Text.isBlank c := rfl
  rw [normalize, Text.mapRuns, Text.points, String.toList_ofList, Text.words_map hblank]
  rw [← Text.ofPoints_map_char, Text.map_intercalate]
  rfl

/-- The words of a phrase may be typed in any case, with any blanks between them. -/
theorem writes_of_spread {typed : String} {entropy : Bytes} (he : entropy.length = entropyLength)
    {words : List (List Char)} (hs : Text.Spread Text.isBlank words typed.toList)
    (hw : words.map (List.map Char.toLower) = (ofEntropy entropy).map String.toList) :
    Writes typed entropy := by
  have ha : ∀ w ∈ words, IsAscii w := by
    intro w hmem c hc
    have hm : w.map Char.toLower ∈ (ofEntropy entropy).map String.toList :=
      hw ▸ List.mem_map_of_mem hmem
    obtain ⟨v, hv, hvw⟩ := List.mem_map.mp hm
    have hl : c.toLower.isLower = true :=
      WordList.isLower_of_mem_all (mem_all_of_mem_ofEntropy hv) _
        (hvw ▸ List.mem_map_of_mem hc)
    by_contra h
    rw [Text.toLower_of_le (Nat.le_of_not_lt h)] at hl
    exact h (toNat_lt_of_isLower hl)
  refine ⟨he, ?_⟩
  rw [normalize_whole, hs.words_lower ha, hw, join, ← String.ofList_toList (s := " ".intercalate _),
    String.toList_intercalate]
  rfl

theorem toLower_of_isLower {c : Char} (h : c.isLower = true) : c.toLower = c := by
  have hd : ∀ n < 128, (Char.ofNat n).isLower = true → (Char.ofNat n).toLower = Char.ofNat n := by
    decide
  have hc := toNat_lt_of_isLower h
  revert h
  exact forall_ascii hc hd

/-- The phrase of some entropy writes it. -/
theorem writes_join {entropy : Bytes} (h : entropy.length = entropyLength) :
    Writes (join (ofEntropy entropy)) entropy := by
  have hs : Text.Spread Text.isBlank ((ofEntropy entropy).map String.toList)
      (join (ofEntropy entropy)).toList := by
    rw [join, String.toList_intercalate]
    refine Text.spread_intercalate (by decide) fun w hw => ?_
    obtain ⟨v, hv, rfl⟩ := List.mem_map.mp hw
    exact isWord_of_mem_all (mem_all_of_mem_ofEntropy hv)
  refine writes_of_spread h hs ((List.map_congr_left fun w hw => ?_).trans (List.map_id _))
  obtain ⟨v, hv, rfl⟩ := List.mem_map.mp hw
  refine (List.map_congr_left fun c hc => ?_).trans (List.map_id _)
  exact toLower_of_isLower (WordList.isLower_of_mem_all (mem_all_of_mem_ofEntropy hv) c hc)

theorem generate_fst (tape : Tape) :
    (generate tape).1 = (join (ofEntropy (draw entropyLength tape).1),
      stretch (join (ofEntropy (draw entropyLength tape).1))) := by
  unfold generate
  rfl

/-- **A new phrase is accepted**, and gives the seed that was made with it. -/
theorem recover_generate (tape : Tape) :
    recover (generate tape).1.1 = .ok (generate tape).1.2 := by
  rw [generate_fst]
  dsimp only
  exact recover_of_writes (writes_join (length_draw _ _))

/-- Any entropy can be drawn. -/
theorem exists_tape_draw_eq (entropy : Bytes) : ∃ tape, (draw entropy.length tape).1 = entropy := by
  refine ⟨⟨fun i => entropy.getD i 0, 0⟩, List.ext_getElem (length_draw _ _) fun i h1 h2 => ?_⟩
  simp [draw, Tape.slice, h2]

/-- **A typed phrase is accepted** if, in normal form, it is the phrase of some entropy. There is
one such entropy, and the seed is the one that is made when this entropy is drawn. Neither the case
of the letters nor the blanks around the words matter. -/
theorem recover_typed (typed : Text) :
    ((∃ seed, recover typed = .ok seed) ↔ ∃ entropy, Writes typed entropy) ∧
    (∀ entropy, Writes typed entropy →
      (∀ other, Writes typed other → other = entropy) ∧
      (ofEntropy entropy).length = wordCount ∧
      (stretch (join (ofEntropy entropy))).length = seedLength ∧
      recover typed = .ok (stretch (join (ofEntropy entropy))) ∧
      (∃ tape, (draw entropyLength tape).1 = entropy) ∧
      ∀ tape, (draw entropyLength tape).1 = entropy →
        (generate tape).1.1 = normalize typed ∧
        (generate tape).1.2 = stretch (join (ofEntropy entropy))) ∧
    ((¬ ∃ entropy, Writes typed entropy) → recover typed = .error .phrase) ∧
    ∀ s entropy words, typed = .whole s → entropy.length = entropyLength →
      Text.Spread Text.isBlank words s.toList →
      words.map (List.map Char.toLower) = (ofEntropy entropy).map String.toList →
      Writes typed entropy ∧ recover typed = .ok (stretch (join (ofEntropy entropy))) := by
  refine ⟨⟨?_, fun ⟨_, h⟩ => ⟨_, recover_of_writes h⟩⟩, fun entropy h => ⟨fun other ho => ?_,
    length_ofEntropy entropy, length_stretch _, recover_of_writes h,
    h.1 ▸ exists_tape_draw_eq entropy, ?_⟩, recover_of_not_writes, ?_⟩
  · rintro ⟨seed, hs⟩
    by_contra h
    rw [recover_of_not_writes h] at hs
    cases hs
  · have hjoin : join (ofEntropy other) = join (ofEntropy entropy) :=
      Text.whole.inj (ho.2.symm.trans h.2)
    have he := entropy?_split.mpr ⟨ho.1, rfl⟩
    rw [hjoin, entropy?_split.mpr ⟨h.1, rfl⟩] at he
    exact (Option.some.inj he).symm
  · rintro tape rfl
    rw [generate_fst]
    dsimp only
    exact ⟨h.2.symm, rfl⟩
  · rintro s entropy words rfl he hs hw
    have h := writes_of_spread he hs hw
    exact ⟨h, recover_of_writes h⟩

/-- The phrase of sixteen zeros, with capital letters and several kinds of blanks. -/
theorem recover_typed_zeros :
    let typed := "\n ABANDON abandon\tabandon abandon  abandon abandon abandon Abandon abandon " ++
      "abandon abandon\u2003About"
    let phrase := "abandon abandon abandon abandon abandon abandon abandon abandon abandon " ++
      "abandon abandon about"
    Writes typed (List.replicate 16 0) ∧ recover typed = .ok (stretch phrase) := by
  intro typed phrase
  have ho : ofEntropy (List.replicate 16 0) = List.replicate 11 "abandon" ++ ["about"] := by
    decide +kernel
  have hs : Text.Spread Text.isBlank (Text.words Text.isBlank typed.toList) typed.toList :=
    Text.spread_words _ _
  have hw : (Text.words Text.isBlank typed.toList).map (List.map Char.toLower) =
      (ofEntropy (List.replicate 16 0)).map String.toList := by
    rw [ho]
    decide +kernel
  have h := (recover_typed typed).2.2.2 typed _ _ rfl (by decide) hs hw
  rw [ho] at h
  exact h

end PasswordVault.Phrase
