import Credentials.Bytes

/-!
# The SHA-2 hash functions

SHA-256, SHA-384 and SHA-512 are one algorithm over words of 32 or 64 bits. A `Sha2.Variant` gives
what differs: the number of rounds, the rotations, the initial words and the length of the digest.

The constants are computed and not listed: round constants are the first bits of the fractions of the
cube roots of the primes, and initial words those of square roots.

* `Sha2.digest` — the digest of a byte string under a variant.
* `Sha2.sha256`, `Sha2.sha384`, `Sha2.sha512` — the three variants.
-/

namespace Credentials.Sha2

/-! ## Constants -/

/-- The number has no divisor from 2 up to itself. -/
def isPrime (n : Nat) : Bool := 2 ≤ n && (List.range n).all fun d => d < 2 || n % d != 0

/-- The primes below 410, of which there are eighty. -/
def primes : List Nat := (List.range 410).filter isPrime

/-- The largest number below `2 ^ bits` whose `k`-th power is at most `n`, found bit by bit. -/
def root (k n : Nat) : (bits : Nat) → Nat
  | 0 => 0
  | bits + 1 => go bits 0
where
  /-- Settles the bits from `bit` downwards. -/
  go : Nat → Nat → Nat
    | 0, r => if Nat.pow (r + 1) k ≤ n then r + 1 else r
    | bit + 1, r =>
      let s := r + Nat.pow 2 (bit + 1)
      go bit (if Nat.pow s k ≤ n then s else r)

/-- The first `w` bits of the fraction of the `k`-th root of `n`. -/
def fractionOfRoot (k w n : Nat) : BitVec w :=
  BitVec.ofNat w (root k (n * Nat.pow 2 (k * w)) (w + 5))

/-! ## Variants -/

/-- Three amounts: two of rotation, and one of rotation or shift. -/
structure Amounts where
  /-- The first rotation. -/
  first : Nat
  /-- The second rotation. -/
  second : Nat
  /-- The third rotation or the shift. -/
  third : Nat

/-- A member of the family, over words of `w` bits. -/
structure Variant (w : Nat) where
  /-- The number of rounds. -/
  rounds : Nat
  /-- The rotations of the first working word. -/
  rotateA : Amounts
  /-- The rotations of the fifth working word. -/
  rotateE : Amounts
  /-- The rotations and the shift of the word fifteen places back in the schedule. -/
  mixNear : Amounts
  /-- The rotations and the shift of the word two places back in the schedule. -/
  mixFar : Amounts
  /-- The round constants. -/
  constants : Array (BitVec w)
  /-- The initial words. -/
  initial : Vector (BitVec w) 8
  /-- The length of the digest in bytes. -/
  digestLength : Nat

/-- The round constants: cube roots of the first primes. -/
def roundConstants (w rounds : Nat) : Array (BitVec w) :=
  ((primes.take rounds).map (fractionOfRoot 3 w)).toArray

/-- Initial words: square roots of eight primes from the given place on. -/
def initialWords (w place : Nat) : Vector (BitVec w) 8 :=
  Vector.ofFn fun i => fractionOfRoot 2 w (primes.getD (place + i) 0)

/-- SHA-256. -/
def sha256 : Variant 32 where
  rounds := 64
  rotateA := ⟨2, 13, 22⟩
  rotateE := ⟨6, 11, 25⟩
  mixNear := ⟨7, 18, 3⟩
  mixFar := ⟨17, 19, 10⟩
  constants := roundConstants 32 64
  initial := initialWords 32 0
  digestLength := 32

/-- SHA-512. -/
def sha512 : Variant 64 where
  rounds := 80
  rotateA := ⟨28, 34, 39⟩
  rotateE := ⟨14, 18, 41⟩
  mixNear := ⟨1, 8, 7⟩
  mixFar := ⟨19, 61, 6⟩
  constants := roundConstants 64 80
  initial := initialWords 64 0
  digestLength := 64

/-- SHA-384: the rounds of SHA-512 from other initial words, with a shorter digest. -/
def sha384 : Variant 64 := { sha512 with initial := initialWords 64 8, digestLength := 48 }

/-! ## Padding -/

/-- How many bytes a block has. -/
def blockLength (w : Nat) : Nat := 2 * w

/-- The message, a one bit, zeros, and the length of the message in bits in two words, up to a whole
number of blocks. -/
def pad (w : Nat) (message : Bytes) : Bytes :=
  let tail := w / 4
  let filled := (message.length + 1 + tail) % blockLength w
  let zeros := if filled = 0 then 0 else blockLength w - filled
  message ++ 0x80 :: List.replicate zeros 0 ++ Bytes.ofNat tail (message.length * 8)

/-! ## Compression -/

variable {w : Nat}

/-- Exclusive or of three rotations. -/
def rotations (x : BitVec w) (a : Amounts) : BitVec w :=
  x.rotateRight a.first ^^^ x.rotateRight a.second ^^^ x.rotateRight a.third

/-- Exclusive or of two rotations and a shift. -/
def mix (x : BitVec w) (a : Amounts) : BitVec w :=
  x.rotateRight a.first ^^^ x.rotateRight a.second ^^^ x >>> a.third

/-- The message schedule: the words of the block, and as many more as there are rounds left. -/
def schedule (v : Variant w) (block : Bytes) : Array (BitVec w) :=
  let words := ((block.chunks (w / 8)).map fun c => BitVec.ofNat w (Bytes.toNat c)).toArray
  (List.range (v.rounds - 16)).foldl (fun ws t =>
    ws.push (mix (ws.getD (t + 14) 0) v.mixFar + ws.getD (t + 9) 0 +
      mix (ws.getD (t + 1) 0) v.mixNear + ws.getD t 0)) words

/-- The eight working words. -/
structure Registers (w : Nat) where
  /-- The first word. -/
  a : BitVec w
  /-- The second word. -/
  b : BitVec w
  /-- The third word. -/
  c : BitVec w
  /-- The fourth word. -/
  d : BitVec w
  /-- The fifth word. -/
  e : BitVec w
  /-- The sixth word. -/
  f : BitVec w
  /-- The seventh word. -/
  g : BitVec w
  /-- The eighth word. -/
  h : BitVec w

namespace Registers

/-- The working words with these values. -/
def ofVector (s : Vector (BitVec w) 8) : Registers w :=
  ⟨s[0], s[1], s[2], s[3], s[4], s[5], s[6], s[7]⟩

/-- The values of the working words. -/
def toVector (r : Registers w) : Vector (BitVec w) 8 :=
  #v[r.a, r.b, r.c, r.d, r.e, r.f, r.g, r.h]

/-- One round with its constant and its word of the schedule. -/
def round (v : Variant w) (r : Registers w) (k x : BitVec w) : Registers w :=
  let choice := (r.e &&& r.f) ^^^ (~~~r.e &&& r.g)
  let majority := (r.a &&& r.b) ^^^ (r.a &&& r.c) ^^^ (r.b &&& r.c)
  let t := r.h + rotations r.e v.rotateE + choice + k + x
  { a := t + rotations r.a v.rotateA + majority
    b := r.a
    c := r.b
    d := r.c
    e := r.d + t
    f := r.e
    g := r.f
    h := r.g }

end Registers

/-- The words after a block. -/
def compress (v : Variant w) (s : Vector (BitVec w) 8) (block : Bytes) : Vector (BitVec w) 8 :=
  let ws := schedule v block
  let last := (List.range v.rounds).foldl
    (fun r t => r.round v (v.constants.getD t 0) (ws.getD t 0)) (Registers.ofVector s)
  Vector.zipWith (· + ·) s last.toVector

/-- The digest of a byte string. -/
def digest (v : Variant w) (message : Bytes) : Bytes :=
  let last := ((pad w message).chunks (blockLength w)).foldl (compress v) v.initial
  (last.toList.flatMap fun x => Bytes.ofNat (w / 8) x.toNat).take v.digestLength

end Credentials.Sha2
