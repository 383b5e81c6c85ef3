import Credentials.Bytes
import Credentials.Cipher.PiFraction

/-!
# The block cipher Blowfish

Blowfish encrypts pairs of words with tables of its own: eighteen subkeys and four boxes of 256 words.
A key goes into the tables by way of the cipher itself, which makes setting up a key slow on purpose.

The tables are one array, the subkeys first. A key is seen only through the eighteen words that its
bytes make when they are repeated without end (`Blowfish.cycle`).
-/

namespace Credentials.Blowfish

/-- The subkeys and the boxes in one array. -/
abbrev Tables := Array UInt32

/-- The tables before any key. -/
def start : Tables := PiFraction.words 1042

/-! ## Encryption -/

/-- The word of box `k` for a byte. -/
def box (w : Tables) (k : Nat) (b : UInt32) : UInt32 := w.getD (18 + 256 * k + b.toNat) 0

/-- The round function. -/
def scramble (w : Tables) (x : UInt32) : UInt32 :=
  ((box w 0 (x >>> 24) + box w 1 (x >>> 16 &&& 0xFF)) ^^^ box w 2 (x >>> 8 &&& 0xFF)) +
    box w 3 (x &&& 0xFF)

/-- The `n` rounds that are left of sixteen, and the two subkeys behind them. -/
def rounds (w : Tables) : (n : Nat) → (l r : UInt32) → UInt32 × UInt32
  | 0, l, r => (r ^^^ w.getD 17 0, l ^^^ w.getD 16 0)
  | n + 1, l, r =>
    let l := l ^^^ w.getD (15 - n) 0
    rounds w n (r ^^^ scramble w l) l

/-- A pair of words encrypted under the tables. -/
def encrypt (w : Tables) (l r : UInt32) : UInt32 × UInt32 := rounds w 16 l r

/-! ## Setting up keys -/

/-- The first `count` words of the bytes repeated without end. -/
def cycle (count : Nat) (bs : Bytes) : Array UInt32 :=
  let byte (i : Nat) : Nat := (bs.getD (i % bs.length) 0).toNat
  Array.ofFn fun i : Fin count =>
    UInt32.ofNat (((byte (4 * i) * 256 + byte (4 * i + 1)) * 256 + byte (4 * i + 2)) * 256 +
      byte (4 * i + 3))

/-- The subkeys mixed with the words of a key. -/
def mixKey (key : Array UInt32) (w : Tables) : Tables :=
  (List.range 18).foldl (fun w i => w.setIfInBounds i (w.getD i 0 ^^^ key.getD i 0)) w

/-- Replaces the last `n` of 521 pairs of words by encrypted ones: each pair is the encryption of the
pair before it mixed with two words of the salt. -/
def replaceFrom (salt : Array UInt32) : (n : Nat) → (l r : UInt32) → Tables → Tables
  | 0, _, _, w => w
  | n + 1, l, r, w =>
    let i := 520 - n
    let (l, r) := encrypt w (l ^^^ salt.getD (2 * i % 4) 0) (r ^^^ salt.getD ((2 * i + 1) % 4) 0)
    replaceFrom salt n l r ((w.setIfInBounds (2 * i) l).setIfInBounds (2 * i + 1) r)

/-- The tables after a key and a salt of four words have gone into them. -/
def expand (salt key : Array UInt32) (w : Tables) : Tables :=
  replaceFrom salt 521 0 0 (mixKey key w)

end Credentials.Blowfish
