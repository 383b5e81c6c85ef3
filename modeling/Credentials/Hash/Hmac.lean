import Credentials.Hash.Sha2

/-!
# Keyed hashing

HMAC turns a hash function into a message authentication code. The key is first made as long as a
block of the hash function: a longer key is replaced by its digest, and zeros follow.

Two keys that become the same block are the same key: only `Hmac.blockOfKey` ever looks at a key.
-/

namespace Credentials

/-- A hash function that takes its input in blocks. -/
structure HashFunction where
  /-- The length of a block in bytes. -/
  blockLength : Nat
  /-- The digest of a byte string. -/
  digest : Bytes → Bytes

namespace HashFunction

/-- SHA-256 as a hash function. -/
def sha256 : HashFunction := ⟨64, Sha2.digest Sha2.sha256⟩

/-- SHA-384 as a hash function. -/
def sha384 : HashFunction := ⟨128, Sha2.digest Sha2.sha384⟩

/-- SHA-512 as a hash function. -/
def sha512 : HashFunction := ⟨128, Sha2.digest Sha2.sha512⟩

end HashFunction

namespace Hmac

/-- The key as a block: its digest if it is longer than a block, filled up with zeros. -/
def blockOfKey (hash : HashFunction) (key : Bytes) : Bytes :=
  let short := if hash.blockLength < key.length then hash.digest key else key
  short ++ List.replicate (hash.blockLength - short.length) 0

/-- The code of a message under a block that was made of a key. -/
def ofBlock (hash : HashFunction) (block message : Bytes) : Bytes :=
  hash.digest (block.map (· ^^^ 0x5C) ++ hash.digest (block.map (· ^^^ 0x36) ++ message))

/-- The authentication code of a message under a key. -/
def code (hash : HashFunction) (key message : Bytes) : Bytes :=
  ofBlock hash (blockOfKey hash key) message

end Hmac

end Credentials
