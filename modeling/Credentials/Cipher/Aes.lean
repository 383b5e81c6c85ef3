import Credentials.Bytes

/-!
# The block cipher AES with keys of 256 bits

A block is sixteen bytes, read as four columns of four. `Aes.encrypt` adds a round key, then runs
fourteen rounds of substitution, shifting of rows, mixing of columns and addition of the next round
key; the last round does not mix.

The substitution is computed: the inverse in the field of 256 elements, followed by an affine map.
Only encryption is needed, because the modes of this library never run the cipher backwards.
-/

namespace Credentials.Aes

/-- A block of the cipher. -/
abbrev Block := Vector UInt8 16

/-- A key of 256 bits. -/
abbrev Key := Vector UInt8 32

/-- A column of a block, or a word of the key schedule. -/
abbrev Word := Vector UInt8 4

/-! ## The field of 256 elements -/

/-- Multiplication by x, modulo x^8 + x^4 + x^3 + x + 1. -/
def double (b : UInt8) : UInt8 := if b &&& 0x80 = 0 then b <<< 1 else (b <<< 1) ^^^ 0x1B

/-- The product of two field elements, by the `bits` low bits of the second. -/
def times (a b : UInt8) : (bits : Nat) → UInt8
  | 0 => 0
  | bits + 1 => (if b &&& 1 = 0 then 0 else a) ^^^ times (double a) (b >>> 1) bits

/-- The product of two field elements. -/
def mul (a b : UInt8) : UInt8 := times a b 8

/-- The product of the `n` powers of `a` whose exponents are 2, 4, 8 and so on. -/
def squares (a : UInt8) : (n : Nat) → UInt8
  | 0 => 1
  | n + 1 => mul (mul a a) (squares (mul a a) n)

/-- The inverse of a field element, which is its power with exponent 254 = 2 + 4 + ... + 128; zero has
itself. -/
def inverse (a : UInt8) : UInt8 := squares a 7

/-! ## The substitution -/

/-- A byte with its bits rotated to the left. -/
def rotate (b : UInt8) (n : UInt8) : UInt8 := (b <<< n) ||| (b >>> (8 - n))

/-- The byte that takes the place of `a`. -/
def substituteOf (a : UInt8) : UInt8 :=
  let b := inverse a
  b ^^^ rotate b 1 ^^^ rotate b 2 ^^^ rotate b 3 ^^^ rotate b 4 ^^^ 0x63

/-- The substitution of all bytes. -/
def table : Vector UInt8 256 := Vector.ofFn fun i => substituteOf (UInt8.ofNat i)

/-- The byte that takes the place of `a`, by the table. -/
def substitute (a : UInt8) : UInt8 := table.get ⟨a.toNat, a.toNat_lt⟩

/-- The table holds what it should. -/
theorem substitute_eq (a : UInt8) : substitute a = substituteOf a := by
  have lt : a.toNat < 256 := a.toNat_lt
  have h : table[a.toNat] = substituteOf (UInt8.ofNat a.toNat) := by
    simp only [table, Vector.getElem_ofFn]
  rwa [UInt8.ofNat_toNat] at h

/-! ## The key schedule -/

/-- The constant of the `i`-th extension of the key. -/
def roundConstant (i : Nat) : UInt8 := (List.range (i - 1)).foldl (fun c _ => double c) 1

/-- The words of the key schedule, sixty of them. -/
def schedule (key : Key) : Array Word :=
  let start : Array Word := Array.ofFn fun i : Fin 8 =>
    Vector.ofFn fun j : Fin 4 => key.get ⟨4 * i + j, by omega⟩
  (List.range 52).foldl (fun ws i =>
    let last := ws.getD (i + 7) (Vector.replicate 4 0)
    let n := i + 8
    let t :=
      if n % 8 = 0 then
        #v[substitute last[1] ^^^ roundConstant (n / 8), substitute last[2], substitute last[3],
          substitute last[0]]
      else if n % 8 = 4 then last.map substitute
      else last
    ws.push (Vector.zipWith (· ^^^ ·) (ws.getD i (Vector.replicate 4 0)) t)) start

/-- The fifteen round keys. -/
def roundKeys (key : Key) : List Block :=
  let ws := schedule key
  (List.range 15).map fun i =>
    Vector.ofFn fun j : Fin 16 =>
      (ws.getD (4 * i + j / 4) (Vector.replicate 4 0)).get ⟨j % 4, Nat.mod_lt _ (by decide)⟩

/-! ## Rounds -/

/-- Exclusive or of two blocks. -/
def add (a b : Block) : Block := Vector.zipWith (· ^^^ ·) a b

/-- Row `r` moved to the left by `r` columns. -/
def shiftRows (b : Block) : Block :=
  Vector.ofFn fun j : Fin 16 => b.get ⟨j % 4 + 4 * ((j / 4 + j % 4) % 4), by omega⟩

/-- Every column multiplied by 3x^3 + x^2 + x + 2. -/
def mixColumns (b : Block) : Block :=
  Vector.ofFn fun j : Fin 16 =>
    let entry (k : Nat) : UInt8 := b.get ⟨(j + k) % 4 + 4 * (j / 4), by omega⟩
    double (entry 0) ^^^ (double (entry 1) ^^^ entry 1) ^^^ entry 2 ^^^ entry 3

/-- The rounds that are left, with their round keys. -/
def rounds (b : Block) : List Block → Block
  | [] => b
  | [k] => add (shiftRows (b.map substitute)) k
  | k :: ks => rounds (add (mixColumns (shiftRows (b.map substitute))) k) ks

/-- A block encrypted under round keys. -/
def encryptWith : List Block → Block → Block
  | [], b => b
  | k :: ks, b => rounds (add b k) ks

/-- A block encrypted under a key. -/
def encrypt (key : Key) (b : Block) : Block := encryptWith (roundKeys key) b

end Credentials.Aes
