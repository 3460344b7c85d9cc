/-
Draws from a seed: the same seed always gives the same draws.

The seed is stretched to a key of eight words, the key drives a stream cipher
of twelve rounds, and the words of the cipher's blocks are scaled to 0 to 99.
-/
import TextAdventure.Draws

namespace TextAdventure
namespace Draws

def rotateLeft (x : UInt32) (n : UInt32) : UInt32 :=
  (x <<< n) ||| (x >>> (32 - n))

/-- Turned right by `n` bits, where `n` may be none. -/
def rotateRight (x : UInt32) (n : UInt32) : UInt32 :=
  (x >>> n) ||| (x <<< ((32 - n) % 32))

/-! ## The key -/

def stretch (s : UInt64) : UInt64 :=
  s * 6364136223846793005 + 11634580027462260723

def keyWord (s : UInt64) : UInt32 :=
  rotateRight (((s >>> 18) ^^^ s) >>> 27).toUInt32 (s >>> 59).toUInt32

/-- `n` words from the states that follow `s`. -/
def keyWords (s : UInt64) : Nat → List UInt32
  | 0 => []
  | n + 1 => keyWord (stretch s) :: keyWords (stretch s) n

/-! ## The cipher -/

/-- A row of the cipher's four by four words. -/
structure Row where
  a : UInt32
  b : UInt32
  c : UInt32
  d : UInt32

namespace Row

def map₂ (f : UInt32 → UInt32 → UInt32) (x y : Row) : Row :=
  ⟨f x.a y.a, f x.b y.b, f x.c y.c, f x.d y.d⟩

def add (x y : Row) : Row := map₂ (· + ·) x y

/-- Exclusive or, each word then turned left by `n` bits. -/
def mix (n : UInt32) (x y : Row) : Row :=
  map₂ (fun u v => rotateLeft (u ^^^ v) n) x y

def shift (x : Row) : Row := ⟨x.b, x.c, x.d, x.a⟩

def ofList (words : List UInt32) : Row :=
  ⟨words.getD 0 0, words.getD 1 0, words.getD 2 0, words.getD 3 0⟩

def toList (x : Row) : List UInt32 := [x.a, x.b, x.c, x.d]

end Row

structure Block where
  p : Row
  q : Row
  r : Row
  s : Row

namespace Block

def columns (x : Block) : Block :=
  let p := x.p.add x.q
  let s := x.s.mix 16 p
  let r := x.r.add s
  let q := x.q.mix 12 r
  let p := p.add q
  let s := s.mix 8 p
  let r := r.add s
  let q := q.mix 7 r
  ⟨p, q, r, s⟩

/-- Turn the rows so that diagonals become columns. -/
def slant (x : Block) : Block :=
  ⟨x.p, x.q.shift, x.r.shift.shift, x.s.shift.shift.shift⟩

def unslant (x : Block) : Block :=
  ⟨x.p, x.q.shift.shift.shift, x.r.shift.shift, x.s.shift⟩

def doubleRound (x : Block) : Block :=
  x.columns.slant.columns.unslant

def doubleRounds (x : Block) : Nat → Block
  | 0 => x
  | n + 1 => x.doubleRound.doubleRounds n

def add (x y : Block) : Block :=
  ⟨x.p.add y.p, x.q.add y.q, x.r.add y.r, x.s.add y.s⟩

def toList (x : Block) : List UInt32 :=
  x.p.toList ++ x.q.toList ++ x.r.toList ++ x.s.toList

/-- The block of a key that is mixed for a counter. -/
def initial (key : List UInt32) (counter : UInt64) : Block where
  p := ⟨0x61707865, 0x3320646e, 0x79622d32, 0x6b206574⟩
  q := .ofList key
  r := .ofList (key.drop 4)
  s := ⟨counter.toUInt32, (counter >>> 32).toUInt32, 0, 0⟩

def output (key : List UInt32) (counter : UInt64) : Block :=
  let x := initial key counter
  x.add (x.doubleRounds 6)

end Block

/-- The `n`-th word of the cipher's blocks. -/
def cipherWord (key : List UInt32) (n : Nat) : UInt32 :=
  (Block.output key (n / 16).toUInt64).toList.getD (n % 16) 0

/-! ## The draws -/

/-- A draw from the words at position `p`, and the position after it.  A word
is scaled to its share of 100.  Where the remainder is so great that the next
word could carry into the share, that word is taken as well. -/
def scale (word : Nat → UInt32) (p : Nat) : Nat × Nat :=
  let product := (word p).toNat * 100
  let share := product / UInt32.size
  let remainder := product % UInt32.size
  if UInt32.size - 100 < remainder then
    let carry := (word (p + 1)).toNat * 100 / UInt32.size
    (if UInt32.size ≤ remainder + carry then share + 1 else share, p + 2)
  else (share, p + 1)

def seeded (seed : UInt64) : Draws :=
  let key := keyWords seed 8
  ⟨scale (cipherWord key), 0, 0⟩

end Draws
end TextAdventure
