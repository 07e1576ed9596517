import PasswordVault.Bytes
import PasswordVault.Text.Basic

/-!
# Hexadecimal text

Two digits for a byte, the high half first. `encode` writes lower-case digits, `decode?` reads
digits of either case and skips ASCII blanks between bytes, never inside one.

* `decode?_encode`: what was written is read back.
-/

namespace PasswordVault.Hex

/-- The digit of a number below sixteen. -/
def digit (n : Nat) : Char :=
  if n < 10 then Char.ofNat (48 + n) else Char.ofNat (87 + n)

/-- The number a digit of either case stands for. -/
def value? (c : Char) : Option Nat :=
  if '0' ≤ c ∧ c ≤ '9' then some (c.toNat - 48)
  else if 'a' ≤ c ∧ c ≤ 'f' then some (c.toNat - 87)
  else if 'A' ≤ c ∧ c ≤ 'F' then some (c.toNat - 55)
  else none

/-- The blanks that may stand between two bytes. -/
def isBlank (c : Char) : Bool :=
  c = ' ' || (9 ≤ c.toNat && c.toNat ≤ 13)

def encodeByte (b : UInt8) : List Char :=
  [digit (b.toNat / 16), digit (b.toNat % 16)]

def encodeChars (bs : Bytes) : List Char :=
  bs.flatMap encodeByte

/-- The bytes that the digits write. -/
def decodeChars? : List Char → Option Bytes
  | [] => some []
  | c :: rest =>
    if isBlank c then decodeChars? rest
    else match rest with
      | [] => none
      | d :: rest => do
        let high ← value? c
        let low ← value? d
        let bytes ← decodeChars? rest
        return UInt8.ofNat (16 * high + low) :: bytes

def encode (bs : Bytes) : String :=
  String.ofList (encodeChars bs)

def decode? : Text → Option Bytes
  | .whole s => decodeChars? s.toList
  | .broken .. => none

theorem value?_digit : ∀ n : Nat, n < 16 → value? (digit n) = some n := by
  decide

theorem isBlank_digit : ∀ n : Nat, n < 16 → isBlank (digit n) = false := by
  decide

theorem decodeChars?_encodeChars (bs : Bytes) : decodeChars? (encodeChars bs) = some bs := by
  induction bs with
  | nil => rfl
  | cons b bs ih =>
    have hb : b.toNat < 256 := b.toNat_lt
    have hh : b.toNat / 16 < 16 := by omega
    have hl : b.toNat % 16 < 16 := by omega
    have e : encodeChars (b :: bs)
        = digit (b.toNat / 16) :: digit (b.toNat % 16) :: encodeChars bs := rfl
    rw [e, decodeChars?, isBlank_digit _ hh, value?_digit _ hh, value?_digit _ hl, ih]
    have hb : 16 * (b.toNat / 16) + b.toNat % 16 = b.toNat := by omega
    change some (UInt8.ofNat (16 * (b.toNat / 16) + b.toNat % 16) :: bs) = some (b :: bs)
    rw [hb, UInt8.ofNat_toNat]

theorem decode?_encode (bs : Bytes) : decode? (encode bs) = some bs := by
  simp [decode?, encode, decodeChars?_encodeChars]

end PasswordVault.Hex
