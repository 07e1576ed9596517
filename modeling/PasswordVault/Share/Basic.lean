import PasswordVault.ByteField
import PasswordVault.Entropy

/-!
# Secret sharing

A secret is split into shares so that any `threshold` of them give it back and fewer tell nothing.
Each byte of the secret is the constant term of a polynomial of its own with random further
coefficients; the share with index `x` holds the values of all the polynomials at `x`. Combining
interpolates at zero.
-/

namespace PasswordVault

/-- A share: the point of evaluation, 1 to 255 in genuine shares, and the values of the polynomials
there, one byte for each byte of the secret. -/
structure Share where
  index : Int
  data : Bytes
  deriving DecidableEq, Repr

namespace Share

/-- The greatest number of shares, one for each non-zero field element. -/
def maxShares : Nat := 255

/-- Whether the index is a non-zero field element. -/
def HasIndex (share : Share) : Prop :=
  1 ≤ share.index ∧ share.index ≤ maxShares

instance (share : Share) : Decidable share.HasIndex :=
  inferInstanceAs (Decidable (_ ∧ _))

/-- The point of evaluation as a field element. -/
def point (share : Share) : UInt8 :=
  UInt8.ofNat share.index.toNat

/-- The share with index `x` of the secret whose bytes have the given polynomials. -/
def ofPolynomials (polynomials : List Bytes) (x : Nat) : Share :=
  ⟨x, polynomials.map fun coefficients => ByteField.eval coefficients (UInt8.ofNat x)⟩

/-- A polynomial of random further coefficients for each byte of the secret. -/
def drawPolynomials (threshold : Nat) : Bytes → Draw (List Bytes)
  | [] => pure []
  | byte :: rest => do
    let coefficients ← draw (threshold - 1)
    let others ← drawPolynomials threshold rest
    return (byte :: coefficients) :: others

/-- Whether a secret can be split into `total` shares of which `threshold` give it back. -/
def splittable (secret : Bytes) (total threshold : Int) : Except Error Unit :=
  if threshold < 2 then .error .thresholdTooSmall
  else if total < threshold then .error .tooFewShares
  else if total > maxShares then .error .tooManyShares
  else if secret.isEmpty then .error .emptySecret
  else .ok ()

/-- Splits a secret into the shares with indices one to `total`, any `threshold` of which combine to
it. -/
def split (secret : Bytes) (total threshold : Int) : Attempt (List Share) := do
  Attempt.ofExcept (splittable secret total threshold)
  let polynomials ← drawPolynomials threshold.toNat secret
  return (List.range total.toNat).map fun i => ofPolynomials polynomials (i + 1)

/-- Whether all shares have a proper index and data of the given length; the first that has not
decides. -/
def checkShapes (length : Nat) : List Share → Except Error Unit
  | [] => .ok ()
  | share :: rest =>
    if ¬ share.HasIndex then .error .shareIndex
    else if share.data.length ≠ length then .error .shareLength
    else checkShapes length rest

/-- Whether no two shares have one index. -/
def checkDistinct (shares : List Share) : Except Error Unit :=
  if (shares.map Share.index).Nodup then .ok () else .error .duplicateShare

/-- The weighted sum of the shares' data. -/
def weightedSum (length : Nat) (shares : List Share) (weights : List UInt8) : Bytes :=
  (List.zip shares weights).foldl
    (fun sum (share, weight) => Bytes.xor sum (share.data.map fun b => ByteField.mul b weight))
    (List.replicate length 0)

/-- The values at zero of the polynomials through the shares: the secret, if there are enough
shares. -/
def combine (shares : List Share) : Except Error Bytes :=
  match shares with
  | [] => .error .noShares
  | first :: _ => do
    checkShapes first.data.length shares
    checkDistinct shares
    let weights ← ByteField.basisAtZero (shares.map point)
    return weightedSum first.data.length shares weights

end Share

end PasswordVault
