import PasswordVault.Share.Basic
import PasswordVault.Text.Base64

/-!
# Shares as text

A share travels as base64 of a format version, the index and the data. Only the first format version
is known, an index of zero and a share without data are no shares.

* `decode_encode`: a share with data is read back from its text.
-/

namespace PasswordVault.Share

/-- The format version that shares are written with. -/
def version : UInt8 := 1

/-- The text of a share. -/
def encode (share : Share) : Except Error String :=
  if share.HasIndex then .ok (Base64.encode (version :: share.point :: share.data))
  else .error .shareIndex

/-- The share that a byte string holds. -/
def ofBytes : Bytes → Except Error Share
  | v :: x :: b :: data =>
    if x = 0 then .error .shareFormat
    else if v ≠ version then .error (.shareVersion v.toNat)
    else .ok ⟨x.toNat, b :: data⟩
  | _ => .error .shareFormat

/-- The share that a text writes. -/
def decode (text : Text) : Except Error Share :=
  match Base64.decode? text with
  | some bytes => ofBytes bytes
  | none => .error .shareFormat

theorem ofBytes_cons {share : Share} (h : share.HasIndex) (hd : share.data ≠ []) :
    ofBytes (version :: share.point :: share.data) = .ok share := by
  obtain ⟨x, data⟩ := share
  obtain ⟨h1, h2⟩ := h
  simp only [maxShares] at h1 h2
  match data, hd with
  | b :: rest, _ =>
    obtain ⟨n, rfl⟩ := Int.eq_ofNat_of_zero_le (a := x) (by omega)
    have hx : (UInt8.ofNat n).toNat = n := by
      rw [UInt8.toNat_ofNat']; omega
    have h0 : UInt8.ofNat n ≠ 0 := fun h => by
      have := congrArg UInt8.toNat h
      rw [hx] at this; simp at this; omega
    simp [ofBytes, point, h0, hx]

theorem decode_encode {share : Share} (h : share.HasIndex) (hd : share.data ≠ []) :
    (share.encode.bind fun text => decode text) = .ok share := by
  rw [encode, if_pos h]
  change decode _ = _
  rw [decode, Base64.decode?_encode]
  exact ofBytes_cons h hd

end PasswordVault.Share
