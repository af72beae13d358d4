import FlowBuilder.Credential.Sha256

/-!
# Message authentication

The code by which the holder of a key signs a message, over SHA-256.
-/

namespace FlowBuilder.Hmac

/-- The length of a block of the hash, in bytes. -/
def blockSize : Nat := 64

/-- A key as one block: a key that is too long is hashed first, and zeros fill the rest. -/
def blockKey (key : List UInt8) : List UInt8 :=
  let short := if blockSize < key.length then Sha256.hash key else key
  short ++ List.replicate (blockSize - short.length) 0

/-- The code of a message under a key. -/
def sign (key message : List UInt8) : List UInt8 :=
  let block := blockKey key
  let inner := Sha256.hash (block.map (· ^^^ 0x36) ++ message)
  Sha256.hash (block.map (· ^^^ 0x5C) ++ inner)

end FlowBuilder.Hmac
