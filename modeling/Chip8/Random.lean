set_option autoImplicit false

/-! # Random bytes

Random bytes come from the Mersenne twister with 19937 bits, seeded with a whole number. The sign
of the seed does not count; its magnitude is cut into words of 32 bits, the lowest first, which
are mixed into the initial state.

A byte is the upper nine bits of an output word, drawn again until it is below 256. Half of all
words pass, so that the bound on the number of draws is out of reach.
-/

namespace Chip8

/-- The state of the twister: 624 words, and the place of the one that is twisted next. -/
structure Twister where
  words : Vector UInt32 624
  next : Fin 624

namespace Twister

/-- A state that depends on one word only. -/
def ofWord (seed : UInt32) : Vector UInt32 624 :=
  (List.range 623).foldl
    (fun words k =>
      let last : UInt32 := words[k]?.getD 0
      words.setIfInBounds (k + 1)
        ((last ^^^ (last >>> 30)) * 1812433253 + UInt32.ofNat (k + 1)))
    (Vector.replicate 624 seed)

/-- One step of mixing at the place `k` from 1 to 623: the new word is made from the word there and
the one before it. -/
def mixAt (words : Vector UInt32 624) (k : Nat) (new : UInt32 → UInt32 → UInt32) :
    Vector UInt32 624 :=
  let last : UInt32 := words[k - 1]?.getD 0
  words.setIfInBounds k (new (words[k]?.getD 0) (last ^^^ (last >>> 30)))

/-- The place behind `k`, 1 following 623. Before the wrap the last word is copied to the front. -/
def advance (words : Vector UInt32 624) (k : Nat) : Vector UInt32 624 × Nat :=
  if k + 1 < 624 then (words, k + 1)
  else (words.setIfInBounds 0 (words[623]?.getD 0), 1)

/-- Mixes the words of a key into a state, `count` times from the place `k` and the key word `j`
on. -/
def mixKey (key : Array UInt32) (words : Vector UInt32 624) (k j : Nat) :
    Nat → Vector UInt32 624 × Nat
  | 0 => (words, k)
  | count + 1 =>
    let mixed := mixAt words k fun word last =>
      (word ^^^ (last * 1664525)) + key.getD j 0 + UInt32.ofNat j
    let (words, k) := advance mixed k
    mixKey key words k (if j + 1 < key.size then j + 1 else 0) count

/-- Mixes a state with itself, `count` times from the place `k` on. -/
def mixPlace (words : Vector UInt32 624) (k : Nat) : Nat → Vector UInt32 624
  | 0 => words
  | count + 1 =>
    let mixed := mixAt words k fun word last =>
      (word ^^^ (last * 1566083941)) - UInt32.ofNat k
    let (words, k) := advance mixed k
    mixPlace words k count

/-- The words of 32 bits of a number, the lowest first; at least one. -/
def wordsOf (n : Nat) : List UInt32 :=
  if h : n < 0x100000000 then [UInt32.ofNat n]
  else UInt32.ofNat (n % 0x100000000) :: wordsOf (n / 0x100000000)
termination_by n
decreasing_by omega

/-- The twister seeded with a whole number. -/
def ofSeed (seed : Int) : Twister :=
  let key := (wordsOf seed.natAbs).toArray
  let (words, k) := mixKey key (ofWord 19650218) 1 0 (max 624 key.size)
  { words := (mixPlace words k 623).setIfInBounds 0 0x80000000, next := 0 }

/-- The next output word. -/
def word (t : Twister) : UInt32 × Twister :=
  let k := t.next
  let y := (t.words[k] &&& 0x80000000) ||| (t.words[k + 1] &&& 0x7FFFFFFF)
  let twisted := t.words[k + 397] ^^^ (y >>> 1) ^^^ (if y &&& 1 = 0 then 0 else 0x9908B0DF)
  let a := twisted ^^^ (twisted >>> 11)
  let b := a ^^^ ((a <<< 7) &&& 0x9D2C5680)
  let c := b ^^^ ((b <<< 15) &&& 0xEFC60000)
  (c ^^^ (c >>> 18), { words := t.words.set k.val twisted k.isLt, next := k + 1 })

/-- The first number below 256 among the upper nine bits of the next words, `bound` words at most.
Should none of them be, the byte is zero. -/
def byteWithin (t : Twister) : Nat → UInt8 × Twister
  | 0 => (0, t)
  | bound + 1 =>
    let (w, t) := t.word
    let n := (w >>> 23).toNat
    if n < 256 then (UInt8.ofNat n, t) else t.byteWithin bound

/-- The number of words after which a draw gives up. -/
def maxDraws : Nat := 0x100000

/-- The next random byte. -/
def byte (t : Twister) : UInt8 × Twister := t.byteWithin maxDraws

end Twister

end Chip8
