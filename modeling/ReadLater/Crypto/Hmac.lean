import ReadLater.Crypto.Sha256

/-!
# HMAC-SHA-256

The keyed digest of RFC 2104 over SHA-256: a key longer than the 64-byte block is first hashed,
then padded with zeros to the block; the digest is `H((K ⊕ opad) ‖ H((K ⊕ ipad) ‖ m))` with
`ipad` the byte `0x36` and `opad` the byte `0x5c` repeated. Web tokens are signed with it.
-/

namespace ReadLater.Crypto

/-- The key brought to one block: hashed when longer, then padded with zeros. -/
def blockKey (key : ByteArray) : ByteArray :=
  let k := if key.size > 64 then sha256 key else key
  ⟨k.data ++ Array.replicate (64 - k.size) 0⟩

/-- Every byte of a block combined with one byte by exclusive or. -/
def maskWith (k : ByteArray) (pad : UInt8) : ByteArray := ⟨k.data.map (· ^^^ pad)⟩

/-- The 32-byte HMAC-SHA-256 of a message under a key. -/
def hmacSha256 (key msg : ByteArray) : ByteArray :=
  let k := blockKey key
  let inner := sha256 (maskWith k 0x36 ++ msg)
  sha256 (maskWith k 0x5c ++ inner)

end ReadLater.Crypto
