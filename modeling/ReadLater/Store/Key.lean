import ReadLater.Crypto.Sha256

/-!
# Store keys

A user's id may hold any character, so a store is named by a key derived from it: the first 16
bytes of the id's SHA-256 digest in lowercase hexadecimal, 32 characters that are safe in a file
name and in an SQL identifier.
-/

namespace ReadLater.Store

/-- The key that names a user's store. -/
def storeKey (user : String) : String := String.ofList ((Crypto.sha256Hex user).toList.take 32)

end ReadLater.Store
