import RowTriples.Digest.Content
/-!
# Random identifiers

A supply of random identifiers is spread out from a seed: the digest of the seed and a number takes
the form of a random UUID.
-/

namespace RowTriples

/-- The bytes of a digest with the marks of a random UUID. -/
def markedRandom (bytes : List UInt8) : List UInt8 :=
  let version : UInt8 := ((bytes.getD 6 0) &&& 0x0f) ||| 0x40
  let variant : UInt8 := ((bytes.getD 8 0) &&& 0x3f) ||| 0x80
  (bytes.set 6 version).set 8 variant

def randomId (seed : List UInt8) (number : Nat) : String :=
  Digest.hyphenated (markedRandom ((Digest.sha256 (seed ++ Digest.utf8 (toString number))).take 16))

end RowTriples
