import PlantGrowth.Chance.Source

/-!
# The seeded source

The samples of a seed are the words of a stream cipher with eight rounds, keyed by the seed.  The
state of the cipher is four rows of four words; a round works on the columns, and on the diagonals
once the rows have been turned against each other.  A word becomes a sample by its upper 24 bits.
-/

namespace PlantGrowth

/-- Four words that are worked on side by side. -/
structure Row where
  w0 : UInt32
  w1 : UInt32
  w2 : UInt32
  w3 : UInt32
  deriving DecidableEq

namespace Row

def zip (f : UInt32 → UInt32 → UInt32) (r s : Row) : Row :=
  ⟨f r.w0 s.w0, f r.w1 s.w1, f r.w2 s.w2, f r.w3 s.w3⟩

def map (f : UInt32 → UInt32) (r : Row) : Row := ⟨f r.w0, f r.w1, f r.w2, f r.w3⟩

/-- The words moved one place towards the front, the first to the end. -/
def turn (r : Row) : Row := ⟨r.w1, r.w2, r.w3, r.w0⟩

def toList (r : Row) : List UInt32 := [r.w0, r.w1, r.w2, r.w3]

end Row

/-- The bits of a word moved up by `n` places, those that leave at the top coming in below. -/
def rotateUp (n : UInt32) (w : UInt32) : UInt32 := (w <<< n) ||| (w >>> (32 - n))

structure Grid where
  a : Row
  b : Row
  c : Row
  d : Row
  deriving DecidableEq

namespace Grid

/-- A quarter of a round on each column. -/
def columns (g : Grid) : Grid :=
  let a1 := g.a.zip (· + ·) g.b
  let d1 := (g.d.zip (· ^^^ ·) a1).map (rotateUp 16)
  let c1 := g.c.zip (· + ·) d1
  let b1 := (g.b.zip (· ^^^ ·) c1).map (rotateUp 12)
  let a2 := a1.zip (· + ·) b1
  let d2 := (d1.zip (· ^^^ ·) a2).map (rotateUp 8)
  let c2 := c1.zip (· + ·) d2
  let b2 := (b1.zip (· ^^^ ·) c2).map (rotateUp 7)
  ⟨a2, b2, c2, d2⟩

/-- The grid with its diagonals made columns. -/
def slant (g : Grid) : Grid := ⟨g.a, g.b.turn, g.c.turn.turn, g.d.turn.turn.turn⟩

/-- The grid with its columns made diagonals. -/
def unslant (g : Grid) : Grid := ⟨g.a, g.b.turn.turn.turn, g.c.turn.turn, g.d.turn⟩

def doubleRound (g : Grid) : Grid := g.columns.slant.columns.unslant

def add (g h : Grid) : Grid :=
  ⟨g.a.zip (· + ·) h.a, g.b.zip (· + ·) h.b, g.c.zip (· + ·) h.c, g.d.zip (· + ·) h.d⟩

/-- Eight rounds, and the state from before added to the outcome. -/
def scramble (g : Grid) : Grid := g.doubleRound.doubleRound.doubleRound.doubleRound.add g

def toList (g : Grid) : List UInt32 := g.a.toList ++ g.b.toList ++ g.c.toList ++ g.d.toList

end Grid

namespace Keystream

structure Key where
  low : Row
  high : Row
  deriving DecidableEq

/-- The next state of the generator that stretches a seed into a key. -/
def stretch (state : UInt64) : UInt64 := state * 6364136223846793005 + 11634580027462260723

/-- The key word that a state of that generator gives. -/
def keyWord (state : UInt64) : UInt32 :=
  let mixed := (((state >>> 18) ^^^ state) >>> 27).toUInt32
  let turn := (state >>> 59).toUInt32
  (mixed >>> turn) ||| (mixed <<< ((32 - turn) % 32))

def keyRow (state : UInt64) : Row × UInt64 :=
  let s0 := stretch state
  let s1 := stretch s0
  let s2 := stretch s1
  let s3 := stretch s2
  (⟨keyWord s0, keyWord s1, keyWord s2, keyWord s3⟩, s3)

def keyOfSeed (seed : UInt64) : Key :=
  let (low, state) := keyRow seed
  ⟨low, (keyRow state).1⟩

def header : Row := ⟨0x61707865, 0x3320646e, 0x79622d32, 0x6b206574⟩

def block (key : Key) (counter : UInt64) : List UInt32 :=
  (Grid.mk header key.low key.high
    ⟨counter.toUInt32, (counter >>> 32).toUInt32, 0, 0⟩).scramble.toList

/-- A place in a stream: the words of the current block not yet used, and the number of the next
block. -/
structure Cursor where
  key : Key
  counter : UInt64
  pending : List UInt32

def start (seed : UInt64) : Cursor := ⟨keyOfSeed seed, 0, []⟩

def nextWord (c : Cursor) : UInt32 × Cursor :=
  match c.pending with
  | word :: rest => (word, { c with pending := rest })
  | [] =>
    match block c.key c.counter with
    | word :: rest => (word, { c with counter := c.counter + 1, pending := rest })
    | [] => (0, c)

/-- The upper 24 bits of a word as a part of one. -/
def sample {α : Type} [Scalar α] (word : UInt32) : α := Scalar.ratio (word >>> 8).toNat 16777216

end Keystream

def Source.seeded {α : Type} [Scalar α] : Source α Keystream.Cursor :=
  ⟨fun c => let (word, c') := Keystream.nextWord c; (Keystream.sample word, c')⟩

end PlantGrowth
