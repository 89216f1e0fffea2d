/-!
# The Mersenne twister

The generator of 32-bit words MT19937, seeded by an array of words.
-/
namespace SerialCheck

/-- The state of the generator: its words and how many of them have been used. -/
structure Twister where
  /-- The words of the state. -/
  words : Array UInt32
  /-- The number of words used since the state was renewed. -/
  used : Nat

namespace Twister

/-- The number of words of the state. -/
def size : Nat := 624

/-- The distance between words that are combined. -/
def distance : Nat := 397

/-- The state grown from one word. -/
def grow (seed : UInt32) : Array UInt32 :=
  (List.range (size - 1)).foldl
    (fun words index =>
      let last := words.getD index 0
      words.push ((1812433253 : UInt32) * (last ^^^ (last >>> 30)) + (index + 1).toUInt32))
    #[seed]

/-- The state with one word replaced. -/
def replace (words : Array UInt32) (index : Nat) (word : UInt32) : Array UInt32 :=
  words.setIfInBounds index word

/-- The position after the given one in a mixing pass, and the state, whose first word follows
the last one. -/
def advance (index : Nat) (words : Array UInt32) : Nat × Array UInt32 :=
  if index + 1 < size then (index + 1, words)
  else (1, replace words 0 (words.getD (size - 1) 0))

/-- One step of the pass that mixes the key into the state. -/
def mixKey (key : Array UInt32) (progress : Nat × Nat × Array UInt32) :
    Nat × Nat × Array UInt32 :=
  let (index, place, words) := progress
  let previous := words.getD (index - 1) 0
  let mixed :=
    (words.getD index 0 ^^^ ((previous ^^^ (previous >>> 30)) * 1664525)) + key.getD place 0 +
      place.toUInt32
  let (index, words) := advance index (replace words index mixed)
  (index, if place + 1 < key.size then place + 1 else 0, words)

/-- One step of the pass after the key. -/
def mixIndex (progress : Nat × Array UInt32) : Nat × Array UInt32 :=
  let (index, words) := progress
  let previous := words.getD (index - 1) 0
  let mixed :=
    (words.getD index 0 ^^^ ((previous ^^^ (previous >>> 30)) * 1566083941)) - index.toUInt32
  advance index (replace words index mixed)

/-- The generator seeded by a nonempty array of words. -/
def ofKey (key : Array UInt32) : Twister :=
  let (index, _, words) := Nat.repeat (mixKey key) (max size key.size) (1, 0, grow 19650218)
  let (_, words) := Nat.repeat mixIndex (size - 1) (index, words)
  ⟨replace words 0 0x80000000, size⟩

/-- The words of a number, the least significant one first, as many as asked for. -/
def numberWords : Nat → Nat → List UInt32
  | 0, _ => []
  | count + 1, value => value.toUInt32 :: numberWords count (value / 0x100000000)

/-- The generator for a seed; the sign of the seed does not matter. -/
def ofSeed (seed : Int) : Twister :=
  ofKey (numberWords (seed.natAbs.log2 / 32 + 1) seed.natAbs).toArray

/-- One word of the state renewed. -/
def renewWord (words : Array UInt32) (index : Nat) : Array UInt32 :=
  let mixed :=
    (words.getD index 0 &&& 0x80000000) ||| (words.getD ((index + 1) % size) 0 &&& 0x7FFFFFFF)
  let word := words.getD ((index + distance) % size) 0 ^^^ (mixed >>> 1)
  replace words index (if mixed &&& 1 == 0 then word else word ^^^ 0x9908B0DF)

/-- The generator with all words renewed. -/
def renew (twister : Twister) : Twister :=
  ⟨(List.range size).foldl renewWord twister.words, 0⟩

/-- The bits of a word of the state spread over the word that is delivered. -/
def temper (word : UInt32) : UInt32 :=
  let word := word ^^^ (word >>> 11)
  let word := word ^^^ ((word <<< 7) &&& 0x9D2C5680)
  let word := word ^^^ ((word <<< 15) &&& 0xEFC60000)
  word ^^^ (word >>> 18)

/-- The next word. -/
def next (twister : Twister) : UInt32 × Twister :=
  let twister := if twister.used < size then twister else twister.renew
  (temper (twister.words.getD twister.used 0), { twister with used := twister.used + 1 })

end Twister

end SerialCheck
