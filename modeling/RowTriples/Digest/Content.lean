import RowTriples.Digest.Sha256
/-!
# Content identifiers

The identifier of a content is the first half of its digest in the hyphenated form of a UUID. Equal
contents have equal identifiers, wherever they are computed.
-/

namespace RowTriples.Digest

def utf8 (text : String) : List UInt8 :=
  text.toUTF8.toList

/-- The two lower-case hexadecimal digits of each byte. -/
def hex (bytes : List UInt8) : List Char :=
  bytes.flatMap fun b => [Nat.digitChar (b.toNat / 16), Nat.digitChar (b.toNat % 16)]

/-- Sixteen bytes in the hyphenated form of a UUID. -/
def hyphenated (bytes : List UInt8) : String :=
  let ds := hex bytes
  let part (start size : Nat) := (ds.drop start).take size
  String.ofList (part 0 8 ++ '-' :: part 8 4 ++ '-' :: part 12 4 ++ '-' :: part 16 4 ++ '-' ::
    part 20 12)

def contentIdOfBytes (bytes : List UInt8) : String :=
  hyphenated ((sha256 bytes).take 16)

def contentId (content : String) : String :=
  contentIdOfBytes (utf8 content)

/-- The whole digest of a text, in hexadecimal. -/
def checksum (content : String) : String :=
  String.ofList (hex (sha256 (utf8 content)))

end RowTriples.Digest
