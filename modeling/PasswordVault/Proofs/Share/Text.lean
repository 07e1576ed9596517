import PasswordVault.Proofs.Text.Base64
import PasswordVault.Share.Text

/-!
# The text of a share

A text is a share exactly if it writes at least three bytes, the second of which is not zero, and
the first is the known version. What is written is stricter than what is read in one point and laxer
in another: a share is read from every text that writes its bytes, and a share without data is
written but not read.

* `decode_eq_ok_iff`, `decode_eq_error_iff`: **what a text is read as**;
* `decode_encode_iff`: a share is read back if it has data;
* `text_codec`: **the law of the two directions**, over all shares and all texts.
-/

namespace PasswordVault.Share

/-- A text writes a version, the index of a share and some data. -/
def Holds (text : Text) (v x : UInt8) (data : Bytes) : Prop :=
  Base64.Writes text (v :: x :: data) ∧ x ≠ 0 ∧ data ≠ []

/-! ### Bytes -/

theorem ofBytes_of_version {x : UInt8} {data : Bytes} (hx : x ≠ 0) (hd : data ≠ []) :
    ofBytes (version :: x :: data) = .ok ⟨x.toNat, data⟩ := by
  obtain ⟨b, rest, rfl⟩ := List.exists_cons_of_ne_nil hd
  rw [ofBytes, if_neg hx, if_neg (not_not_intro rfl)]

theorem ofBytes_of_ne {v x : UInt8} {data : Bytes} (hx : x ≠ 0) (hd : data ≠ [])
    (hv : v ≠ version) : ofBytes (v :: x :: data) = .error (.shareVersion v.toNat) := by
  obtain ⟨b, rest, rfl⟩ := List.exists_cons_of_ne_nil hd
  rw [ofBytes, if_neg hx, if_pos hv]

theorem ofBytes_malformed {bytes : Bytes}
    (h : ∀ v x data, bytes = v :: x :: data → x ≠ 0 → data = []) :
    ofBytes bytes = .error .shareFormat := by
  fun_cases ofBytes bytes with
  | case1 => rfl
  | case2 v x b data hx => exact absurd (h v x (b :: data) rfl hx) (List.cons_ne_nil b data)
  | case3 v x b data hx => exact absurd (h v x (b :: data) rfl hx) (List.cons_ne_nil b data)
  | case4 => rfl

/-! ### Texts -/

theorem decode_of_writes {text : Text} {bytes : Bytes} (h : Base64.Writes text bytes) :
    decode text = ofBytes bytes := by
  rw [decode, Base64.decode?_eq_some_iff.mpr h]

theorem decode_of_holds {text : Text} {x : UInt8} {data : Bytes}
    (h : Holds text version x data) : decode text = .ok ⟨x.toNat, data⟩ := by
  rw [decode_of_writes h.1, ofBytes_of_version h.2.1 h.2.2]

theorem decode_of_version_ne {text : Text} {v x : UInt8} {data : Bytes} (h : Holds text v x data)
    (hv : v ≠ version) : decode text = .error (.shareVersion v.toNat) := by
  rw [decode_of_writes h.1, ofBytes_of_ne h.2.1 h.2.2 hv]

theorem decode_malformed {text : Text} (h : ¬∃ v x data, Holds text v x data) :
    decode text = .error .shareFormat := by
  cases hread : Base64.decode? text with
  | none => rw [decode, hread]
  | some bytes =>
    have hw := Base64.decode?_eq_some_iff.mp hread
    rw [decode_of_writes hw]
    refine ofBytes_malformed fun v x data he hx => ?_
    by_contra hd
    exact h ⟨v, x, data, he ▸ hw, hx, hd⟩

/-- **Which share a text is.** -/
theorem decode_eq_ok_iff {text : Text} {share : Share} : decode text = .ok share ↔
    ∃ x data, Holds text version x data ∧ share = ⟨x.toNat, data⟩ := by
  constructor
  · intro h
    by_cases hh : ∃ v x data, Holds text v x data
    · obtain ⟨v, x, data, hh⟩ := hh
      by_cases hv : v = version
      · subst hv
        rw [decode_of_holds hh, Except.ok.injEq] at h
        exact ⟨x, data, hh, h.symm⟩
      · rw [decode_of_version_ne hh hv] at h
        cases h
    · rw [decode_malformed hh] at h
      cases h
  · rintro ⟨x, data, hh, rfl⟩
    exact decode_of_holds hh

/-- **Why a text is no share.** -/
theorem decode_eq_error_iff {text : Text} {e : Error} : decode text = .error e ↔
    (∃ v x data, Holds text v x data ∧ v ≠ version ∧ e = .shareVersion v.toNat) ∨
      ((¬∃ v x data, Holds text v x data) ∧ e = .shareFormat) := by
  constructor
  · intro h
    by_cases hh : ∃ v x data, Holds text v x data
    · obtain ⟨v, x, data, hh⟩ := hh
      by_cases hv : v = version
      · subst hv
        rw [decode_of_holds hh] at h
        cases h
      · rw [decode_of_version_ne hh hv, Except.error.injEq] at h
        exact Or.inl ⟨v, x, data, hh, hv, h.symm⟩
    · rw [decode_malformed hh, Except.error.injEq] at h
      exact Or.inr ⟨hh, h.symm⟩
  · rintro (⟨v, x, data, hh, hv, rfl⟩ | ⟨hh, rfl⟩)
    · exact decode_of_version_ne hh hv
    · exact decode_malformed hh

theorem hasIndex_of_ne_zero {x : UInt8} (hx : x ≠ 0) (data : Bytes) :
    HasIndex ⟨x.toNat, data⟩ := by
  have h0 : x.toNat ≠ 0 := fun h => hx (UInt8.toNat_inj.mp h)
  have h256 := x.toNat_lt
  simp only [HasIndex, maxShares]
  omega

/-! ### Written and read back -/

theorem exists_encode {share : Share} (h : share.HasIndex) :
    ∃ text, share.encode = .ok text ∧ Base64.Writes text (version :: share.point :: share.data) :=
  ⟨_, if_pos h, Base64.writes_encode _⟩

/-- **What is written is read back if there is data**, and is malformed if there is none. -/
theorem decode_encode_iff {share : Share} (h : share.HasIndex) : ∃ text, share.encode = .ok text ∧
    (decode text = .ok share ↔ share.data ≠ []) ∧
    (share.data = [] → decode text = .error .shareFormat) := by
  obtain ⟨text, htext, hw⟩ := exists_encode h
  have hempty : share.data = [] → decode text = .error .shareFormat := by
    intro hd
    rw [decode_of_writes hw, hd]
    rfl
  refine ⟨text, htext, ⟨fun hok hd => ?_, fun hd => ?_⟩, hempty⟩
  · rw [hempty hd] at hok
    cases hok
  · rw [decode_of_writes hw]
    exact ofBytes_cons h hd

/-- A share that was read can be written, and is read back from the text. -/
theorem encode_of_decode {text : Text} {share : Share} (h : decode text = .ok share) :
    share.HasIndex ∧ share.data ≠ [] ∧ ∃ again : String, share.encode = .ok again ∧
      decode again = .ok share := by
  obtain ⟨x, data, ⟨-, hx, hd⟩, rfl⟩ := decode_eq_ok_iff.mp h
  have hi := hasIndex_of_ne_zero hx data
  obtain ⟨again, hagain, hback, -⟩ := decode_encode_iff hi
  exact ⟨hi, hd, again, hagain, hback.mpr hd⟩

/-- **The law of the text form.** A share with an index from 1 to 255 is written, and is what its
text is read as if and only if it has data; no other share is written. A text is read as a share if
and only if it writes the version 1, an index other than zero and some data. With another version
that version is reported, and every other text is malformed. Whatever is read can be written and
read again. -/
theorem text_codec :
    (∀ share : Share, 1 ≤ share.index → share.index ≤ 255 → ∃ text, share.encode = .ok text ∧
      (decode text = .ok share ↔ share.data ≠ []) ∧
      (share.data = [] → decode text = .error .shareFormat)) ∧
    (∀ share : Share, ¬(1 ≤ share.index ∧ share.index ≤ 255) →
      share.encode = .error .shareIndex) ∧
    (∀ text share, decode text = .ok share ↔
      ∃ x data, Holds text 1 x data ∧ share = ⟨x.toNat, data⟩) ∧
    (∀ text e, decode text = .error e ↔
      (∃ v x data, Holds text v x data ∧ v ≠ 1 ∧ e = .shareVersion v.toNat) ∨
        ((¬∃ v x data, Holds text v x data) ∧ e = .shareFormat)) ∧
    (∀ text share, decode text = .ok share →
      1 ≤ share.index ∧ share.index ≤ 255 ∧ share.data ≠ [] ∧
        ∃ again, share.encode = .ok again ∧ decode again = .ok share) ∧
    Error.shareFormat.message = "Invalid share format" ∧
    (∀ v, (Error.shareVersion v).message = s!"Unsupported share version: {v}") := by
  refine ⟨fun share h1 h255 => decode_encode_iff ⟨h1, h255⟩, fun share h => if_neg h,
    fun text share => decode_eq_ok_iff, fun text e => decode_eq_error_iff, fun text share h => ?_,
    rfl, fun v => rfl⟩
  obtain ⟨⟨h1, h255⟩, hd, hagain⟩ := encode_of_decode h
  exact ⟨h1, h255, hd, hagain⟩

/-- A text with a fill that its bytes do not call for is a share, whose own text has none; a share
without data has a text that is malformed. -/
theorem text_codec_lax :
    (∃ again, encode ⟨7, [5]⟩ = .ok again ∧ decode again = .ok ⟨7, [5]⟩ ∧ again ≠ "AQcF=") ∧
      ∃ text, encode ⟨7, []⟩ = .ok text ∧ decode text = .error .shareFormat := by
  obtain ⟨hwrite, -, hread, -, hagain, -, -⟩ := text_codec
  have hfill : Base64.Writes "AQcF=" [1, 7, 5] := Base64.decode?_eq_some_iff.mp (by decide)
  have hshare : decode "AQcF=" = .ok ⟨7, [5]⟩ :=
    (hread _ _).mpr ⟨7, [5], ⟨hfill, by decide, by decide⟩, rfl⟩
  obtain ⟨-, -, -, again, htext, hback⟩ := hagain _ _ hshare
  obtain ⟨text, hempty, -, hmalformed⟩ := hwrite ⟨7, []⟩ (by decide) (by decide)
  refine ⟨⟨again, htext, hback, ?_⟩, text, hempty, hmalformed rfl⟩
  rintro rfl
  have h : encode ⟨7, [5]⟩ ≠ .ok "AQcF=" := by decide
  exact h htext

end PasswordVault.Share
