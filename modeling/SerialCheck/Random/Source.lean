import SerialCheck.Random.Twister

/-!
# Sources of random numbers

A source delivers given words first and then those of a twister, and turns words into bits,
fractions and numbers below a bound. A drawn number is always below its bound
(`below_lt`).
-/
namespace SerialCheck

/-- A source of 32-bit words. -/
structure Source where
  /-- Words to be delivered before those of the twister. -/
  given : List UInt32
  /-- The generator of all further words. -/
  twister : Twister

namespace Source

/-- The next word. -/
def word (source : Source) : UInt32 × Source :=
  match source.given with
  | word :: given => (word, { source with given })
  | [] =>
    let (word, twister) := source.twister.next
    (word, { source with twister })

/-- Full words, the least significant one first, and then the upper bits of one more. -/
def wordsThenBits (last : Nat) : Nat → Source → Nat × Source
  | 0, source =>
    let (word, source) := source.word
    (word.toNat >>> (32 - last), source)
  | words + 1, source =>
    let (word, source) := source.word
    let (upper, source) := wordsThenBits last words source
    (word.toNat + 0x100000000 * upper, source)

/-- A number of the given positive number of bits. -/
def bits (width : Nat) (source : Source) : Nat × Source :=
  wordsThenBits (width - 32 * ((width - 1) / 32)) ((width - 1) / 32) source

/-- The number of draws after which a number below a bound is taken to be zero. At least half
of all draws are below the bound, so words of a twister do not come near it. -/
def patience : Nat := 4096

/-- The first of several draws that is below the bound. -/
def firstBelow (bound : Nat) : Nat → Source → Nat × Source
  | 0, source => (0, source)
  | draws + 1, source =>
    let (value, source) := source.bits (bound.log2 + 1)
    if value < bound then (value, source) else firstBelow bound draws source

/-- A number below a positive bound. -/
def below (bound : Nat) (source : Source) : Nat × Source :=
  firstBelow bound (source.given.length + patience) source

/-- A fraction of `2 ^ 53`, by its numerator. -/
def fraction (source : Source) : Nat × Source :=
  let (upper, source) := source.word
  let (lower, source) := source.word
  ((upper >>> 5).toNat * 0x4000000 + (lower >>> 6).toNat, source)

/-- The drawn number is below a positive bound. -/
theorem firstBelow_lt {bound : Nat} (positive : 0 < bound) (draws : Nat) (source : Source) :
    (firstBelow bound draws source).1 < bound := by
  induction draws generalizing source with
  | zero => exact positive
  | succ draws hypothesis =>
    simp only [firstBelow]
    split
    · assumption
    · exact hypothesis _

/-- The drawn number is below a positive bound. -/
theorem below_lt {bound : Nat} (positive : 0 < bound) (source : Source) :
    (source.below bound).1 < bound := firstBelow_lt positive _ source

/-- The source for a seed, with words to be delivered first. -/
def ofSeed (seed : Int) (given : List UInt32) : Source := ⟨given, .ofSeed seed⟩

end Source

end SerialCheck
