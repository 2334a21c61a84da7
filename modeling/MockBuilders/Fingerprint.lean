import MockBuilders.Digest.Sha256
import MockBuilders.Json.Sorted
import MockBuilders.Schema.Written

/-! Fingerprints: schemas of equal fingerprint share one constant. -/
namespace MockBuilders

/-- A digest in hexadecimal digits. -/
structure Fingerprint where
  hex : String
  deriving DecidableEq, Repr

namespace Fingerprint

/-- The digest of the text with sorted names, so that the order of members does not matter. -/
def ofJson (value : Json) : Fingerprint := ⟨Sha256.hex value.canonicalText.toUTF8.toList⟩

def ofSchema (s : Schema) : Fingerprint := ofJson s.toJson

/-- The first twelve digits. -/
def short (f : Fingerprint) : String := String.ofList (f.hex.toList.take 12)

end Fingerprint

end MockBuilders
