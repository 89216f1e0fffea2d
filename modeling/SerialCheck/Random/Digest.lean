/-!
# Digests

The digest SHA-512 of a byte string. The string is padded to blocks of sixteen 64-bit words, the
most significant byte of a word first; each block is mixed into a state of eight words.
-/
namespace SerialCheck.Digest

/-- The first 64 bits behind the point of the cube roots of the first 80 primes. -/
def roundConstants : Array UInt64 := #[
  0x428A2F98D728AE22, 0x7137449123EF65CD, 0xB5C0FBCFEC4D3B2F, 0xE9B5DBA58189DBBC,
  0x3956C25BF348B538, 0x59F111F1B605D019, 0x923F82A4AF194F9B, 0xAB1C5ED5DA6D8118,
  0xD807AA98A3030242, 0x12835B0145706FBE, 0x243185BE4EE4B28C, 0x550C7DC3D5FFB4E2,
  0x72BE5D74F27B896F, 0x80DEB1FE3B1696B1, 0x9BDC06A725C71235, 0xC19BF174CF692694,
  0xE49B69C19EF14AD2, 0xEFBE4786384F25E3, 0x0FC19DC68B8CD5B5, 0x240CA1CC77AC9C65,
  0x2DE92C6F592B0275, 0x4A7484AA6EA6E483, 0x5CB0A9DCBD41FBD4, 0x76F988DA831153B5,
  0x983E5152EE66DFAB, 0xA831C66D2DB43210, 0xB00327C898FB213F, 0xBF597FC7BEEF0EE4,
  0xC6E00BF33DA88FC2, 0xD5A79147930AA725, 0x06CA6351E003826F, 0x142929670A0E6E70,
  0x27B70A8546D22FFC, 0x2E1B21385C26C926, 0x4D2C6DFC5AC42AED, 0x53380D139D95B3DF,
  0x650A73548BAF63DE, 0x766A0ABB3C77B2A8, 0x81C2C92E47EDAEE6, 0x92722C851482353B,
  0xA2BFE8A14CF10364, 0xA81A664BBC423001, 0xC24B8B70D0F89791, 0xC76C51A30654BE30,
  0xD192E819D6EF5218, 0xD69906245565A910, 0xF40E35855771202A, 0x106AA07032BBD1B8,
  0x19A4C116B8D2D0C8, 0x1E376C085141AB53, 0x2748774CDF8EEB99, 0x34B0BCB5E19B48A8,
  0x391C0CB3C5C95A63, 0x4ED8AA4AE3418ACB, 0x5B9CCA4F7763E373, 0x682E6FF3D6B2B8A3,
  0x748F82EE5DEFB2FC, 0x78A5636F43172F60, 0x84C87814A1F0AB72, 0x8CC702081A6439EC,
  0x90BEFFFA23631E28, 0xA4506CEBDE82BDE9, 0xBEF9A3F7B2C67915, 0xC67178F2E372532B,
  0xCA273ECEEA26619C, 0xD186B8C721C0C207, 0xEADA7DD6CDE0EB1E, 0xF57D4F7FEE6ED178,
  0x06F067AA72176FBA, 0x0A637DC5A2C898A6, 0x113F9804BEF90DAE, 0x1B710B35131C471B,
  0x28DB77F523047D84, 0x32CAAB7B40C72493, 0x3C9EBE0A15C9BEBC, 0x431D67C49C100D4C,
  0x4CC5D4BECB3E42B6, 0x597F299CFC657E2A, 0x5FCB6FAB3AD6FAEC, 0x6C44198C4A475817]

/-- The first 64 bits behind the point of the square roots of the first eight primes. -/
def start : Array UInt64 := #[
  0x6A09E667F3BCC908, 0xBB67AE8584CAA73B, 0x3C6EF372FE94F82B, 0xA54FF53A5F1D36F1,
  0x510E527FADE682D1, 0x9B05688C2B3E6C1F, 0x1F83D9ABFB41BD6B, 0x5BE0CD19137E2179]

/-- The word with its bits turned to the right. -/
def turn (word places : UInt64) : UInt64 := (word >>> places) ||| (word <<< (64 - places))

/-- The word at a place, zero if there is none. -/
def wordAt (words : Array UInt64) (place : Nat) : UInt64 := words.getD place 0

/-- The bytes of a number, the most significant one first, as many as asked for. -/
def numberBytes : Nat → Nat → List UInt8
  | 0, _ => []
  | count + 1, value => numberBytes count (value / 256) ++ [value.toUInt8]

/-- The number that bytes denote, the most significant one first. -/
def ofBytes (bytes : List UInt8) : Nat :=
  bytes.foldl (fun number byte => 256 * number + byte.toNat) 0

/-- The number of bytes of a block. -/
def blockSize : Nat := 128

/-- How many zeros stand behind the mark at the end of a string of the given length. -/
def zeroCount (length : Nat) : Nat := (2 * blockSize - 17 - length % blockSize) % blockSize

/-- A string with a mark, zeros and its length in bits behind it. -/
def padded (bytes : List UInt8) : List UInt8 :=
  bytes ++ 0x80 :: List.replicate (zeroCount bytes.length) 0 ++ numberBytes 16 (8 * bytes.length)

/-- The words of a string, as many as asked for. -/
def words : Nat → List UInt8 → List UInt64
  | 0, _ => []
  | count + 1, bytes => (ofBytes (bytes.take 8)).toUInt64 :: words count (bytes.drop 8)

/-- The words of a block with one more word, made of four of the last sixteen. -/
def extend (block : Array UInt64) : Array UInt64 :=
  let near := wordAt block (block.size - 2)
  let far := wordAt block (block.size - 15)
  block.push (wordAt block (block.size - 16) + wordAt block (block.size - 7) +
    (turn far 1 ^^^ turn far 8 ^^^ (far >>> 7)) + (turn near 19 ^^^ turn near 61 ^^^ (near >>> 6)))

/-- One round of mixing, with the word of the block and the constant added up. -/
def mixRound (state : Array UInt64) (input : UInt64) : Array UInt64 :=
  let first := wordAt state 0
  let fifth := wordAt state 4
  let chosen := (fifth &&& wordAt state 5) ^^^ ((fifth ^^^ 0xFFFFFFFFFFFFFFFF) &&& wordAt state 6)
  let common :=
    (first &&& wordAt state 1) ^^^ (first &&& wordAt state 2) ^^^
      (wordAt state 1 &&& wordAt state 2)
  let added := wordAt state 7 + (turn fifth 14 ^^^ turn fifth 18 ^^^ turn fifth 41) + chosen + input
  #[added + (turn first 28 ^^^ turn first 34 ^^^ turn first 39) + common, first, wordAt state 1,
    wordAt state 2, wordAt state 3 + added, fifth, wordAt state 5, wordAt state 6]

/-- A state with a block of sixteen words mixed in. -/
def mixBlock (state : Array UInt64) (block : List UInt64) : Array UInt64 :=
  let block := Nat.repeat extend 64 block.toArray
  let mixed :=
    (List.range 80).foldl
      (fun mixed place => mixRound mixed (wordAt block place + wordAt roundConstants place)) state
  (List.range 8).foldl (fun sum place => sum.push (wordAt state place + wordAt mixed place)) #[]

/-- A state with several blocks mixed in, as many as given. -/
def mixBlocks : Nat → Array UInt64 → List UInt8 → Array UInt64
  | 0, state, _ => state
  | count + 1, state, bytes =>
    mixBlocks count (mixBlock state (words 16 bytes)) (bytes.drop blockSize)

/-- The digest of a byte string. -/
def digest (bytes : List UInt8) : List UInt8 :=
  let padded := padded bytes
  (mixBlocks (padded.length / blockSize) start padded).toList.flatMap fun word =>
    numberBytes 8 word.toNat

end SerialCheck.Digest
