/-
The 128-bit XXH3 hash, with its standard secret and no seed.

The hash treats inputs of different lengths differently: up to sixteen bytes are mixed in one
step, up to 240 in steps of 32 bytes from both ends, and longer ones run through eight
accumulators, a block at a time.  All of it is arithmetic on 64-bit words that wraps around, and
products of two words that do not.
-/
namespace HealthBoard.Xxh3

/-- The standard secret, eight bytes to a word, the least significant byte first. -/
def secretWords : List UInt64 := [
  0xbe4ba423396cfeb8, 0x1cad21f72c81017c, 0xdb979083e96dd4de, 0x1f67b3b7a4a44072,
  0x78e5c0cc4ee679cb, 0x2172ffcc7dd05a82, 0x8e2443f7744608b8, 0x4c263a81e69035e0,
  0xcb00c391bb52283c, 0xa32e531b8b65d088, 0x4ef90da297486471, 0xd8acdea946ef1938,
  0x3f349ce33f76faa8, 0x1d4f0bc7c7bbdcf9, 0x3159b4cd4be0518a, 0x647378d9c97e9fc8,
  0xc3ebd33483acc5ea, 0xeb6313faffa081c5, 0x49daf0b751dd0d17, 0x9e68d429265516d3,
  0xfca1477d58be162b, 0xce31d07ad1b8f88f, 0x280416958f3acb45, 0x7e404bbbcafbd7af]

/-- The bytes of a word, the least significant first. -/
def wordBytes (w : UInt64) : List UInt8 :=
  (List.range 8).map fun i => (w >>> (8 * i).toUInt64).toUInt8

/-- The secret as bytes. -/
def secret : ByteArray := ⟨(secretWords.flatMap wordBytes).toArray⟩

def prime32a : UInt64 := 0x9E3779B1
def prime32b : UInt64 := 0x85EBCA77
def prime32c : UInt64 := 0xC2B2AE3D
def prime64a : UInt64 := 0x9E3779B185EBCA87
def prime64b : UInt64 := 0xC2B2AE3D27D4EB4F
def prime64c : UInt64 := 0x165667B19E3779F9
def prime64d : UInt64 := 0x85EBCA77C2B2AE63
def prime64e : UInt64 := 0x27D4EB2F165667C5
def mixPrimeA : UInt64 := 0x165667919E3779F9
def mixPrimeB : UInt64 := 0x9FB21C651E98DF25

/-- The byte at a position, zero outside. -/
def byteAt (b : ByteArray) (i : Nat) : UInt64 := (b[i]?.getD 0).toUInt64

/-- So many bytes from a position on as a number, the least significant first. -/
def readBytes (b : ByteArray) (i : Nat) : Nat → UInt64
  | 0 => 0
  | n + 1 => byteAt b i ||| (readBytes b (i + 1) n <<< 8)

def read32 (b : ByteArray) (i : Nat) : UInt64 := readBytes b i 4
def read64 (b : ByteArray) (i : Nat) : UInt64 := readBytes b i 8

/-- The low and the high word of a product. -/
def product (x y : UInt64) : UInt64 × UInt64 :=
  let p := x.toNat * y.toNat
  (p.toUInt64, (p / Nat.pow 2 64).toUInt64)

/-- The two words of a product, combined into one. -/
def foldedProduct (x y : UInt64) : UInt64 :=
  let (low, high) := product x y
  low ^^^ high

/-- The lower 32 bits. -/
def low32 (x : UInt64) : UInt64 := x &&& 0xFFFFFFFF

/-- The bytes of a word in reverse. -/
def swap64 (x : UInt64) : UInt64 :=
  (wordBytes x).foldl (fun acc b => (acc <<< 8) ||| b.toUInt64) 0

/-- The bytes of half a word in reverse. -/
def swap32 (x : UInt64) : UInt64 := swap64 x >>> 32

/-- Spreads every bit of a word over all of it. -/
def avalanche (h : UInt64) : UInt64 :=
  let h := h ^^^ (h >>> 37)
  let h := h * mixPrimeA
  h ^^^ (h >>> 32)

/-- The slower spreading used for the shortest inputs. -/
def strongAvalanche (h : UInt64) : UInt64 :=
  let h := (h ^^^ (h >>> 33)) * prime64b
  let h := (h ^^^ (h >>> 29)) * prime64c
  h ^^^ (h >>> 32)

/-- A hash: its low and its high word. -/
structure Hash128 where
  low : UInt64
  high : UInt64
  deriving DecidableEq

/-! ### Up to sixteen bytes -/

def hashEmpty : Hash128 :=
  ⟨strongAvalanche (read64 secret 64 ^^^ read64 secret 72),
    strongAvalanche (read64 secret 80 ^^^ read64 secret 88)⟩

/-- One to three bytes. -/
def hashTo3 (b : ByteArray) : Hash128 :=
  let n := b.size
  let low := (byteAt b 0 <<< 16) ||| (byteAt b (n / 2) <<< 24) ||| byteAt b (n - 1) |||
    (n.toUInt64 <<< 8)
  let swapped := swap32 low
  let high := low32 (swapped <<< 13) ||| (swapped >>> 19)
  ⟨strongAvalanche (low ^^^ read32 secret 0 ^^^ read32 secret 4),
    strongAvalanche (high ^^^ read32 secret 8 ^^^ read32 secret 12)⟩

/-- Four to eight bytes. -/
def hashTo8 (b : ByteArray) : Hash128 :=
  let n := b.size
  let input := read32 b 0 + (read32 b (n - 4) <<< 32)
  let keyed := input ^^^ read64 secret 16 ^^^ read64 secret 24
  let (low, high) := product keyed (prime64a + (n.toUInt64 <<< 2))
  let high := high + (low <<< 1)
  let low := low ^^^ (high >>> 3)
  let low := (low ^^^ (low >>> 35)) * mixPrimeB
  ⟨low ^^^ (low >>> 28), avalanche high⟩

/-- Nine to sixteen bytes. -/
def hashTo16 (b : ByteArray) : Hash128 :=
  let n := b.size
  let first := read64 b 0
  let last := read64 b (n - 8)
  let (low, high) :=
    product (first ^^^ last ^^^ read64 secret 32 ^^^ read64 secret 40) prime64a
  let low := low + ((n - 1).toUInt64 <<< 54)
  let last := last ^^^ read64 secret 48 ^^^ read64 secret 56
  let high := high + last + low32 last * (prime32b - 1)
  let low := low ^^^ swap64 high
  let (outLow, outHigh) := product low prime64b
  ⟨avalanche outLow, avalanche (outHigh + high * prime64b)⟩

/-! ### Up to 240 bytes -/

/-- Mixes sixteen bytes with sixteen of the secret. -/
def mix16 (b : ByteArray) (i key : Nat) : UInt64 :=
  foldedProduct (read64 b i ^^^ read64 secret key) (read64 b (i + 8) ^^^ read64 secret (key + 8))

/-- Mixes two times sixteen bytes into a pair of words. -/
def mix32 (b : ByteArray) (acc : Hash128) (i j key : Nat) : Hash128 :=
  ⟨(acc.low + mix16 b i key) ^^^ (read64 b j + read64 b (j + 8)),
    (acc.high + mix16 b j (key + 16)) ^^^ (read64 b i + read64 b (i + 8))⟩

/-- What every input of middle length ends with. -/
def finishMiddle (n : Nat) (acc : Hash128) : Hash128 :=
  ⟨avalanche (acc.low + acc.high),
    0 - avalanche (acc.low * prime64a + acc.high * prime64d + n.toUInt64 * prime64b)⟩

/-- Seventeen to 128 bytes: pairs of sixteen from both ends, the innermost first. -/
def hashTo128 (b : ByteArray) : Hash128 :=
  let n := b.size
  let pairs := (n - 1) / 32
  let acc := (List.range (pairs + 1)).reverse.foldl
    (fun acc k => mix32 b acc (16 * k) (n - 16 * (k + 1)) (32 * k)) ⟨n.toUInt64 * prime64a, 0⟩
  finishMiddle n acc

/-- 129 to 240 bytes: steps of 32 from the front, and the last 32 once more. -/
def hashTo240 (b : ByteArray) : Hash128 :=
  let n := b.size
  let acc := (List.range 4).foldl
    (fun acc k => mix32 b acc (32 * k) (32 * k + 16) (32 * k)) ⟨n.toUInt64 * prime64a, 0⟩
  let acc : Hash128 := ⟨avalanche acc.low, avalanche acc.high⟩
  let acc := (List.range (n / 32 - 4)).foldl
    (fun acc k => mix32 b acc (128 + 32 * k) (128 + 32 * k + 16) (3 + 32 * k)) acc
  finishMiddle n (mix32 b acc (n - 16) (n - 32) 103)

/-! ### Longer inputs -/

/-- The accumulators before the first stripe. -/
def startAccumulators : List UInt64 :=
  [prime32c, prime64a, prime64b, prime64c, prime64d, prime32b, prime64e, prime32a]

/-- Takes in a stripe of 64 bytes: each word goes to its neighbour, its product to itself. -/
def takeStripe (b : ByteArray) (i key : Nat) (accs : List UInt64) : List UInt64 :=
  accs.mapIdx fun (k : Nat) (acc : UInt64) =>
    let keyed := read64 b (i + 8 * k) ^^^ read64 secret (key + 8 * k)
    let neighbour := if k % 2 == 0 then k + 1 else k - 1
    acc + read64 b (i + 8 * neighbour) + low32 keyed * (keyed >>> 32)

/-- Stirs the accumulators after a block. -/
def scramble (accs : List UInt64) : List UInt64 :=
  accs.mapIdx fun (k : Nat) (acc : UInt64) =>
    (acc ^^^ (acc >>> 47) ^^^ read64 secret (128 + 8 * k)) * prime32a

/-- So many stripes from a position on. -/
def takeStripes (b : ByteArray) (i count : Nat) (accs : List UInt64) : List UInt64 :=
  (List.range count).foldl (fun accs k => takeStripe b (i + 64 * k) (8 * k) accs) accs

/-- Brings the accumulators together into one word. -/
def mergeAccumulators (accs : List UInt64) (key : Nat) (start : UInt64) : UInt64 :=
  let word (k : Nat) : UInt64 := accs.getD k 0 ^^^ read64 secret (key + 8 * k)
  avalanche <| (List.range 4).foldl
    (fun acc k => acc + foldedProduct (word (2 * k)) (word (2 * k + 1))) start

/-- More than 240 bytes: blocks of sixteen stripes, then the stripes left, then the last one. -/
def hashLong (b : ByteArray) : Hash128 :=
  let n := b.size
  let blocks := (n - 1) / 1024
  let accs := (List.range blocks).foldl
    (fun accs k => scramble (takeStripes b (1024 * k) 16 accs)) startAccumulators
  let accs := takeStripes b (1024 * blocks) ((n - 1 - 1024 * blocks) / 64) accs
  let accs := takeStripe b (n - 64) 121 accs
  ⟨mergeAccumulators accs 11 (n.toUInt64 * prime64a),
    mergeAccumulators accs 117 (0 - 1 - n.toUInt64 * prime64b)⟩

/-- The hash of some bytes. -/
def hash (b : ByteArray) : Hash128 :=
  if b.size == 0 then hashEmpty
  else if b.size ≤ 3 then hashTo3 b
  else if b.size ≤ 8 then hashTo8 b
  else if b.size ≤ 16 then hashTo16 b
  else if b.size ≤ 128 then hashTo128 b
  else if b.size ≤ 240 then hashTo240 b
  else hashLong b

/-- The number that a hash stands for. -/
def Hash128.toNat (h : Hash128) : Nat := h.high.toNat * Nat.pow 2 64 + h.low.toNat

/-- A number in so many hexadecimal digits, the least significant ones. -/
def hexDigits : (count : Nat) → Nat → List Char
  | 0, _ => []
  | count + 1, n =>
    let d := n % 16
    hexDigits count (n / 16) ++ [if d < 10 then Char.ofNat (48 + d) else Char.ofNat (87 + d)]

/-- A hash in 32 hexadecimal digits of lower case, leading zeros kept. -/
def Hash128.text (h : Hash128) : String := String.ofList (hexDigits 32 h.toNat)

end HealthBoard.Xxh3
