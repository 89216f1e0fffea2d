import SerialCheck.Random.Digest
import SerialCheck.Value.Misuse

/-!
# Seeds

A seed may be a value. A whole number is its own seed, a binary number is reduced to a residue, and
a text or a byte string is continued by its digest and read as a number.
-/
namespace SerialCheck.Seed

/-- Residues of binary numbers are taken modulo this prime, `2 ^ 61 - 1`. -/
def modulus : Nat := 0x1FFFFFFFFFFFFFFF

/-- The number of bits of the modulus: two to its power leaves the residue one. -/
def period : Int := 61

/-- The residue of an infinity. -/
def infinityResidue : Int := 314159

/-- The residue with a sign, where minus one is kept free. -/
def signedResidue (negative : Bool) (residue : Int) : Int :=
  if negative then (if residue = 1 then -2 else -residue) else residue

/-- The residue of a binary number. -/
def ofReal : Binary64 → Int
  | .nan => 0
  | .infinite negative => signedResidue negative infinityResidue
  | .finite negative significand exponent =>
    signedResidue negative
      ((significand * Binary64.power 2 (exponent % period)) % modulus : Nat)

/-- A number as a word of 64 bits. -/
def word (value : Int) : Int := value % 0x10000000000000000

/-- A byte string and its digest as one number. -/
def ofBytes (bytes : List UInt8) : Int := Digest.ofBytes (bytes ++ Digest.digest bytes)

/-- The whole number by which a value seeds a source. -/
def ofValue : Value → Except Misuse Int
  | .null => .ok 0
  | .boolean value => .ok (if value then 1 else 0)
  | .integer value => .ok value
  | .real value => .ok (word (ofReal value))
  | .text value => .ok (ofBytes value.toUTF8.toList)
  | .bytes value => .ok (ofBytes value)
  | _ => .error .seed

end SerialCheck.Seed
