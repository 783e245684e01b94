/-!
A stream of random words: the ChaCha keystream with eight rounds, under a key drawn from a 64 bit
seed. The sixteen words of a block are kept as four rows. A round on the columns combines the rows as
they are, and a round on the diagonals does the same after the rows were turned.
-/

namespace Lockstep

/-- A row of four words. -/
structure Row4 where
  a : UInt32
  b : UInt32
  c : UInt32
  d : UInt32
deriving DecidableEq

namespace Row4

def zip (f : UInt32 → UInt32 → UInt32) (x y : Row4) : Row4 :=
  ⟨f x.a y.a, f x.b y.b, f x.c y.c, f x.d y.d⟩

def rotate (x : Row4) (n : UInt32) : Row4 :=
  let r (w : UInt32) := (w <<< n) ||| (w >>> (32 - n))
  ⟨r x.a, r x.b, r x.c, r x.d⟩

/-- Moves every word one place to the left, the first one to the end. -/
def turn (x : Row4) : Row4 := ⟨x.b, x.c, x.d, x.a⟩

def toList (x : Row4) : List UInt32 := [x.a, x.b, x.c, x.d]

end Row4

/-- The sixteen words of a ChaCha state. -/
structure ChaChaBlock where
  r0 : Row4
  r1 : Row4
  r2 : Row4
  r3 : Row4

namespace ChaChaBlock

/-- The quarter round on all four columns. -/
def columns (s : ChaChaBlock) : ChaChaBlock :=
  let r0 := s.r0.zip (· + ·) s.r1
  let r3 := (s.r3.zip (· ^^^ ·) r0).rotate 16
  let r2 := s.r2.zip (· + ·) r3
  let r1 := (s.r1.zip (· ^^^ ·) r2).rotate 12
  let r0 := r0.zip (· + ·) r1
  let r3 := (r3.zip (· ^^^ ·) r0).rotate 8
  let r2 := r2.zip (· + ·) r3
  let r1 := (r1.zip (· ^^^ ·) r2).rotate 7
  ⟨r0, r1, r2, r3⟩

/-- The quarter round on all four diagonals. -/
def diagonals (s : ChaChaBlock) : ChaChaBlock :=
  let t := columns ⟨s.r0, s.r1.turn, s.r2.turn.turn, s.r3.turn.turn.turn⟩
  ⟨t.r0, t.r1.turn.turn.turn, t.r2.turn.turn, t.r3.turn⟩

def doubleRound (s : ChaChaBlock) : ChaChaBlock := s.columns.diagonals

/-- Eight rounds, and the words from before them added. -/
def scramble (s : ChaChaBlock) : ChaChaBlock :=
  let t := s.doubleRound.doubleRound.doubleRound.doubleRound
  ⟨t.r0.zip (· + ·) s.r0, t.r1.zip (· + ·) s.r1, t.r2.zip (· + ·) s.r2, t.r3.zip (· + ·) s.r3⟩

def words (s : ChaChaBlock) : List UInt32 :=
  s.r0.toList ++ s.r1.toList ++ s.r2.toList ++ s.r3.toList

end ChaChaBlock

/-- The keystream from some point on: the key, the number of the next block, and the words of the
current block that are left. -/
structure Keystream where
  key : Row4 × Row4
  counter : UInt64 := 0
  rest : List UInt32 := []

namespace Keystream

/-- The next state of the generator that stretches a seed into a key, and the word it gives. -/
def stretch (seed : UInt64) : UInt64 × UInt32 :=
  let s := seed * 6364136223846793005 + 11634580027462260723
  let x := (((s >>> 18) ^^^ s) >>> 27).toUInt32
  let n := (s >>> 59).toUInt32
  (s, (x >>> n) ||| (x <<< ((32 - n) % 32)))

def stretchRow (seed : UInt64) : UInt64 × Row4 :=
  let (s, a) := stretch seed
  let (s, b) := stretch s
  let (s, c) := stretch s
  let (s, d) := stretch s
  (s, ⟨a, b, c, d⟩)

def ofSeed (seed : UInt64) : Keystream :=
  let (s, low) := stretchRow seed
  let (_, high) := stretchRow s
  { key := (low, high) }

/-- The words of the block with the given number. The first row spells `expand 32-byte k`. -/
def block (key : Row4 × Row4) (counter : UInt64) : List UInt32 :=
  let state : ChaChaBlock :=
    ⟨⟨0x61707865, 0x3320646e, 0x79622d32, 0x6b206574⟩, key.1, key.2,
      ⟨counter.toUInt32, (counter >>> 32).toUInt32, 0, 0⟩⟩
  state.scramble.words

def next32 (k : Keystream) : UInt32 × Keystream :=
  match k.rest with
  | w :: rest => (w, { k with rest })
  | [] =>
    match block k.key k.counter with
    | w :: rest => (w, { k with counter := k.counter + 1, rest })
    | [] => (0, k)

/-- Two words of the stream, the first one as the low half. -/
def next64 (k : Keystream) : UInt64 × Keystream :=
  let (low, k) := k.next32
  let (high, k) := k.next32
  (high.toUInt64 <<< 32 ||| low.toUInt64, k)

end Keystream

end Lockstep
