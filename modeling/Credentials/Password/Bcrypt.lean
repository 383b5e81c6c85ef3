import Credentials.Cipher.Blowfish

/-!
# The password hash bcrypt

The digest of a password is a fixed text of 24 bytes, encrypted sixty-four times under tables into
which the password and a salt have gone 2^cost times each. The last byte is left out.

Of a password only the first 72 bytes count, a zero byte at its end included (`Bcrypt.keyOf`); and of
those only the eighteen words that they make when repeated without end.
-/

namespace Credentials.Bcrypt

/-- A salt. -/
abbrev Salt := Vector UInt8 16

/-- The bytes of a password that count: with a zero byte behind them, the first 72. -/
def keyOf (password : Bytes) : Bytes := (password ++ [0]).take 72

/-- Puts the password and the salt into the tables `n` times, in turn. -/
def repeatedly (key salt : Array UInt32) : (n : Nat) → Blowfish.Tables → Blowfish.Tables
  | 0, w => w
  | n + 1, w => repeatedly key salt n (Blowfish.expand #[] salt (Blowfish.expand #[] key w))

/-- The tables for a password and a salt, each given by its words. -/
def tables (cost : Nat) (key salt : Array UInt32) : Blowfish.Tables :=
  repeatedly key salt (Nat.pow 2 cost) (Blowfish.expand salt key Blowfish.start)

/-- The text that is encrypted, `OrpheanBeholderScryDoubt`, in pairs of words. -/
def magic : List (UInt32 × UInt32) :=
  [(0x4F727068, 0x65616E42), (0x65686F6C, 0x64657253), (0x63727944, 0x6F756274)]

/-- A pair of words encrypted `n` times. -/
def encryptTimes (w : Blowfish.Tables) : (n : Nat) → UInt32 × UInt32 → UInt32 × UInt32
  | 0, p => p
  | n + 1, p => encryptTimes w n (Blowfish.encrypt w p.1 p.2)

/-- The digest of a key given by its words. -/
def digestOfWords (cost : Nat) (salt : Salt) (key : Array UInt32) : Bytes :=
  let w := tables cost key (Blowfish.cycle 18 salt.toList)
  (magic.flatMap fun p =>
    let q := encryptTimes w 64 p
    Bytes.ofNat 4 q.1.toNat ++ Bytes.ofNat 4 q.2.toNat).take 23

/-- The digest of a password, in 23 bytes. -/
def digest (cost : Nat) (salt : Salt) (password : Bytes) : Bytes :=
  digestOfWords cost salt (Blowfish.cycle 18 (keyOf password))

/-- A digest keeps 23 of the 24 bytes of its three blocks. -/
@[simp] theorem length_digestOfWords (cost : Nat) (salt : Salt) (key : Array UInt32) :
    (digestOfWords cost salt key).length = 23 := by
  simp [digestOfWords, magic]

/-- Digests have 23 bytes. -/
@[simp] theorem length_digest (cost : Nat) (salt : Salt) (password : Bytes) :
    (digest cost salt password).length = 23 := length_digestOfWords ..

end Credentials.Bcrypt
