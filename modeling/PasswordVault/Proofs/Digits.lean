import PasswordVault.Bytes
import Mathlib.Algebra.Group.Nat.Defs
import Mathlib.Data.List.Induction
import Mathlib.Data.Nat.Notation

/-!
# Digits, the most significant first

A number is written with a fixed number of digits in a base, and so loses what does not fit. Digits
below the base are those of the number that they write. A byte string has the digits of its number
in base 256.

* `toNat_ofNat`, `ofNat_toNat`: **digits and numbers** are read back from each other;
* `toNat_lt`: how large a number with given digits is;
* `mapM_eq_some_iff`: digits that are written with symbols;
* `Bytes.toNatBE_ofNatBE`, `Bytes.ofNatBE_toNatBE`, `Bytes.toNatBE_lt`: the same for bytes.
-/

namespace PasswordVault

namespace Digits

variable {base : ℕ}

/-- The last `count` digits of a number. -/
def ofNat (base : ℕ) : (count n : ℕ) → List ℕ
  | 0, _ => []
  | count + 1, n => ofNat base count (n / base) ++ [n % base]

/-- The number with the given digits. -/
def toNat (base : ℕ) (ds : List ℕ) : ℕ :=
  ds.foldl (fun n d => n * base + d) 0

theorem length_ofNat (base count n : ℕ) : (ofNat base count n).length = count := by
  induction count generalizing n with
  | zero => rfl
  | succ count ih => rw [ofNat, List.length_append, ih, List.length_singleton]

theorem lt_of_mem_ofNat (hb : 0 < base) {count n d : ℕ} (h : d ∈ ofNat base count n) :
    d < base := by
  induction count generalizing n with
  | zero => exact absurd h List.not_mem_nil
  | succ count ih =>
    rcases List.mem_append.mp h with h | h
    · exact ih h
    · exact List.mem_singleton.mp h ▸ Nat.mod_lt n hb

theorem toNat_concat (base : ℕ) (ds : List ℕ) (d : ℕ) :
    toNat base (ds ++ [d]) = toNat base ds * base + d := by
  simp [toNat]

theorem toNat_append (base : ℕ) (ds es : List ℕ) :
    toNat base (ds ++ es) = toNat base ds * base ^ es.length + toNat base es := by
  induction es using List.reverseRecOn with
  | nil => simp [toNat]
  | append_singleton es e ih =>
    rw [← List.append_assoc, toNat_concat, toNat_concat, ih, List.length_append,
      List.length_singleton, Nat.pow_succ, Nat.add_mul, Nat.mul_assoc, Nat.add_assoc]

/-- **The digits of a number** write it, up to what does not fit. -/
theorem toNat_ofNat (base count n : ℕ) : toNat base (ofNat base count n) = n % base ^ count := by
  induction count generalizing n with
  | zero => rw [Nat.pow_zero, Nat.mod_one]; rfl
  | succ count ih =>
    rw [ofNat, toNat_concat, ih, Nat.pow_succ', Nat.mod_mul, Nat.add_comm, Nat.mul_comm]

theorem toNat_lt {ds : List ℕ} (h : ∀ d ∈ ds, d < base) : toNat base ds < base ^ ds.length := by
  induction ds using List.reverseRecOn with
  | nil => exact Nat.one_pos
  | append_singleton ds d ih =>
    have hd : d < base := h d (by simp)
    have hds := ih fun e he => h e (List.mem_append_left _ he)
    rw [toNat_concat, List.length_append, List.length_singleton, Nat.pow_succ]
    calc toNat base ds * base + d < (toNat base ds + 1) * base := by
          rw [Nat.succ_mul]; omega
      _ ≤ base ^ ds.length * base := Nat.mul_le_mul_right base hds

/-- **Digits below the base** are those of the number that they write. -/
theorem ofNat_toNat {ds : List ℕ} (h : ∀ d ∈ ds, d < base) :
    ofNat base ds.length (toNat base ds) = ds := by
  induction ds using List.reverseRecOn with
  | nil => rfl
  | append_singleton ds d ih =>
    have hd : d < base := h d (by simp)
    have hds := ih fun e he => h e (List.mem_append_left _ he)
    have hdiv : (toNat base ds * base + d) / base = toNat base ds := by
      rw [Nat.add_comm, Nat.add_mul_div_right _ _ (by omega), Nat.div_eq_of_lt hd, Nat.zero_add]
    have hmod : (toNat base ds * base + d) % base = d := by
      rw [Nat.add_comm, Nat.add_mul_mod_self_right, Nat.mod_eq_of_lt hd]
    rw [List.length_append, List.length_singleton, ofNat, toNat_concat, hdiv, hmod, hds]

/-- **Digits that are written with symbols** are read from the symbols, if each digit is. -/
theorem mapM_eq_some_iff {α : Type} {value? : α → Option ℕ} {symbol : ℕ → α}
    (h : ∀ {a d}, value? a = some d ↔ d < base ∧ symbol d = a) {as : List α} {ds : List ℕ} :
    as.mapM value? = some ds ↔ (∀ d ∈ ds, d < base) ∧ ds.map symbol = as := by
  induction as generalizing ds with
  | nil =>
    rw [List.mapM_nil, List.map_eq_nil_iff]
    constructor
    · intro hds
      obtain rfl : [] = ds := Option.some.inj hds
      exact ⟨nofun, rfl⟩
    · rintro ⟨-, rfl⟩
      rfl
  | cons a as ih =>
    simp only [List.mapM_cons, Option.bind_eq_bind, Option.bind_eq_some_iff]
    constructor
    · rintro ⟨d, hd, ds', hds, he⟩
      obtain rfl : d :: ds' = ds := Option.some.inj he
      obtain ⟨hlt, rfl⟩ := h.mp hd
      obtain ⟨hlts, rfl⟩ := ih.mp hds
      exact ⟨List.forall_mem_cons.mpr ⟨hlt, hlts⟩, rfl⟩
    · rintro ⟨hlt, he⟩
      obtain ⟨d, ds', rfl, hd, hds⟩ := List.map_eq_cons_iff.mp he
      obtain ⟨hd', hds'⟩ := List.forall_mem_cons.mp hlt
      exact ⟨d, h.mpr ⟨hd', hd⟩, ds', ih.mpr ⟨hds', hds⟩, rfl⟩

end Digits

/-! ### Bytes -/

namespace Bytes

theorem toNatBE_eq_toNat (bs : Bytes) : toNatBE bs = Digits.toNat 256 (bs.map UInt8.toNat) := by
  rw [toNatBE, Digits.toNat, List.foldl_map]

theorem toNatBE_append (bs other : Bytes) :
    toNatBE (bs ++ other) = toNatBE bs * 256 ^ other.length + toNatBE other := by
  rw [toNatBE_eq_toNat, List.map_append, Digits.toNat_append, List.length_map, ← toNatBE_eq_toNat,
    ← toNatBE_eq_toNat]

theorem map_toNat_ofNatBE (width n : ℕ) :
    (ofNatBE width n).map UInt8.toNat = Digits.ofNat 256 width n := by
  induction width generalizing n with
  | zero => rfl
  | succ width ih =>
    have h : ofNatBE (width + 1) n = ofNatBE width (n / 256) ++ [UInt8.ofNat n] := by
      simp [ofNatBE, ofNatLE]
    rw [h, List.map_append, ih, List.map_singleton, UInt8.toNat_ofNat', Digits.ofNat]

theorem toNat_lt_of_mem_map {bs : Bytes} {d : ℕ} (h : d ∈ bs.map UInt8.toNat) : d < 256 := by
  obtain ⟨b, -, rfl⟩ := List.mem_map.mp h
  exact b.toNat_lt

theorem toNatBE_ofNatBE (width n : ℕ) : toNatBE (ofNatBE width n) = n % 256 ^ width := by
  rw [toNatBE_eq_toNat, map_toNat_ofNatBE, Digits.toNat_ofNat]

theorem toNatBE_lt (bs : Bytes) : toNatBE bs < 256 ^ bs.length := by
  have hl : (bs.map UInt8.toNat).length = bs.length := List.length_map _
  rw [toNatBE_eq_toNat, ← hl]
  exact Digits.toNat_lt fun d => toNat_lt_of_mem_map

theorem ofNatBE_toNatBE (bs : Bytes) : ofNatBE bs.length (toNatBE bs) = bs := by
  have hl : (bs.map UInt8.toNat).length = bs.length := List.length_map _
  refine (List.map_inj_right fun _ _ => UInt8.toNat_inj.mp).mp ?_
  rw [map_toNat_ofNatBE, toNatBE_eq_toNat, ← hl]
  exact Digits.ofNat_toNat fun d => toNat_lt_of_mem_map

end Bytes

end PasswordVault
