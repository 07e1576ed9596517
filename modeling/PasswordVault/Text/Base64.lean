import PasswordVault.Bytes
import PasswordVault.Text.Basic

/-!
# Base64

The standard alphabet, four characters for three bytes, with `=` to fill the last group. Reading is
strict about what stands in the text and lenient in two points: the bits of the last group that no
byte uses may be set, and a complete last group may be followed by further `=`.

* `value?_digit`: the characters stand for their numbers;
* `decode?_encode`: what was written is read back.
-/

namespace PasswordVault.Base64

/-- The characters for the numbers below 64, in order. -/
def alphabet : List Char :=
  "ABCDEFGHIJKLMNOPQRSTUVWXYZabcdefghijklmnopqrstuvwxyz0123456789+/".toList

/-- The character of a number below 64. -/
def digit (n : Nat) : Char :=
  alphabet.getD (n % 64) 'A'

/-- The number a character stands for. -/
def value? (c : Char) : Option Nat :=
  if 'A' ≤ c ∧ c ≤ 'Z' then some (c.toNat - 65)
  else if 'a' ≤ c ∧ c ≤ 'z' then some (c.toNat - 71)
  else if '0' ≤ c ∧ c ≤ '9' then some (c.toNat + 4)
  else if c = '+' then some 62
  else if c = '/' then some 63
  else none

/-- The characters of a byte string, three bytes at a time. -/
def encodeChars : Bytes → List Char
  | [] => []
  | [a] => [digit (a.toNat / 4), digit (a.toNat % 4 * 16), '=', '=']
  | [a, b] =>
    [digit (a.toNat / 4), digit (a.toNat % 4 * 16 + b.toNat / 16), digit (b.toNat % 16 * 4), '=']
  | a :: b :: c :: rest =>
    digit (a.toNat / 4) :: digit (a.toNat % 4 * 16 + b.toNat / 16)
      :: digit (b.toNat % 16 * 4 + c.toNat / 64) :: digit (c.toNat % 64) :: encodeChars rest

/-- The byte of two characters that fill up to the last group. -/
def one? (a b : Char) : Option Bytes := do
  let x ← value? a
  let y ← value? b
  return [UInt8.ofNat (x * 4 + y / 16)]

/-- The bytes of three characters that fill up to the last group. -/
def two? (a b c : Char) : Option Bytes := do
  let x ← value? a
  let y ← value? b
  let z ← value? c
  return [UInt8.ofNat (x * 4 + y / 16), UInt8.ofNat (y % 16 * 16 + z / 4)]

/-- The bytes of a complete group. -/
def three? (a b c d : Char) : Option Bytes := do
  let x ← value? a
  let y ← value? b
  let z ← value? c
  let w ← value? d
  return [UInt8.ofNat (x * 4 + y / 16), UInt8.ofNat (y % 16 * 16 + z / 4),
    UInt8.ofNat (z % 4 * 64 + w)]

/-- The bytes that the characters write. -/
def decodeChars? : List Char → Option Bytes
  | [] => some []
  | a :: b :: c :: d :: rest =>
    if d = '=' then
      if rest.isEmpty then
        if c = '=' then one? a b else two? a b c
      else none
    else do
      let group ← three? a b c d
      if rest.all (fun e => e = '=') then return group
      else
        let bytes ← decodeChars? rest
        return group ++ bytes
  | _ => none

def encode (bs : Bytes) : String :=
  String.ofList (encodeChars bs)

def decode? : Text → Option Bytes
  | .whole s => decodeChars? s.toList
  | .broken .. => none

set_option maxRecDepth 4000 in
theorem value?_digit : ∀ n : Nat, n < 64 → value? (digit n) = some n := by
  decide

set_option maxRecDepth 4000 in
theorem digit_ne_fill : ∀ n : Nat, n < 64 → digit n ≠ '=' := by
  decide

theorem three?_digits (a b c : UInt8) :
    three? (digit (a.toNat / 4)) (digit (a.toNat % 4 * 16 + b.toNat / 16))
      (digit (b.toNat % 16 * 4 + c.toNat / 64)) (digit (c.toNat % 64)) = some [a, b, c] := by
  have ha := a.toNat_lt
  have hb := b.toNat_lt
  have hc := c.toNat_lt
  have e1 : a.toNat / 4 * 4 + (a.toNat % 4 * 16 + b.toNat / 16) / 16 = a.toNat := by omega
  have e2 : (a.toNat % 4 * 16 + b.toNat / 16) % 16 * 16 + (b.toNat % 16 * 4 + c.toNat / 64) / 4 =
      b.toNat := by omega
  have e3 : (b.toNat % 16 * 4 + c.toNat / 64) % 4 * 64 + c.toNat % 64 = c.toNat := by omega
  rw [three?, value?_digit _ (by omega), value?_digit _ (by omega), value?_digit _ (by omega),
    value?_digit _ (by omega)]
  simp only [Option.bind_eq_bind, Option.bind_some, Option.pure_def, e1, e2, e3, UInt8.ofNat_toNat]

theorem two?_digits (a b : UInt8) :
    two? (digit (a.toNat / 4)) (digit (a.toNat % 4 * 16 + b.toNat / 16))
      (digit (b.toNat % 16 * 4)) = some [a, b] := by
  have ha := a.toNat_lt
  have hb := b.toNat_lt
  have e1 : a.toNat / 4 * 4 + (a.toNat % 4 * 16 + b.toNat / 16) / 16 = a.toNat := by omega
  have e2 : (a.toNat % 4 * 16 + b.toNat / 16) % 16 * 16 + b.toNat % 16 * 4 / 4 = b.toNat := by omega
  rw [two?, value?_digit _ (by omega), value?_digit _ (by omega), value?_digit _ (by omega)]
  simp only [Option.bind_eq_bind, Option.bind_some, Option.pure_def, e1, e2, UInt8.ofNat_toNat]

theorem one?_digits (a : UInt8) :
    one? (digit (a.toNat / 4)) (digit (a.toNat % 4 * 16)) = some [a] := by
  have ha := a.toNat_lt
  have e1 : a.toNat / 4 * 4 + a.toNat % 4 * 16 / 16 = a.toNat := by omega
  rw [one?, value?_digit _ (by omega), value?_digit _ (by omega)]
  simp only [Option.bind_eq_bind, Option.bind_some, Option.pure_def, e1, UInt8.ofNat_toNat]

theorem encodeChars_all_fill (bs : Bytes) :
    (encodeChars bs).all (fun e => e = '=') = bs.isEmpty := by
  have h : ∀ a : UInt8, digit (a.toNat / 4) ≠ '=' := fun a =>
    digit_ne_fill _ (by have := a.toNat_lt; omega)
  match bs with
  | [] => rfl
  | [a] => simp [encodeChars, h a]
  | [a, b] => simp [encodeChars, h a]
  | a :: b :: c :: rest => simp [encodeChars, h a]

theorem decodeChars?_encodeChars (bs : Bytes) : decodeChars? (encodeChars bs) = some bs := by
  fun_induction encodeChars bs with
  | case1 => rfl
  | case2 a => simp [decodeChars?, one?_digits]
  | case3 a b =>
    have h : digit (b.toNat % 16 * 4) ≠ '=' := digit_ne_fill _ (by omega)
    simp [decodeChars?, h, two?_digits]
  | case4 a b c rest ih =>
    have h : digit (c.toNat % 64) ≠ '=' := digit_ne_fill _ (by omega)
    rw [decodeChars?, if_neg h, three?_digits, encodeChars_all_fill, ih]
    cases rest <;> simp

theorem decode?_encode (bs : Bytes) : decode? (encode bs) = some bs := by
  simp [decode?, encode, decodeChars?_encodeChars]

end PasswordVault.Base64
