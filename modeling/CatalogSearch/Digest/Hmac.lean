import CatalogSearch.Digest.Sha256

/-!
# Keyed digests

A digest of a message under a key: the key, stretched to one block, is mixed into an inner and an
outer digest.
-/
namespace CatalogSearch.Digest

/-- The key as one block of 64 bytes; a longer one is replaced by its digest. -/
def keyBlock (key : List UInt8) : List UInt8 :=
  let key := if 64 < key.length then sha256 key else key
  key ++ List.replicate (64 - key.length) 0

def hmac (key message : List UInt8) : List UInt8 :=
  let block := keyBlock key
  sha256 (block.map (· ^^^ 0x5c) ++ sha256 (block.map (· ^^^ 0x36) ++ message))

end CatalogSearch.Digest
