import GridLoad.Digest.Sha256
import GridLoad.Feature.Snapshot
import GridLoad.Model.Stored

/-!
Snapshot documents and the tokens that name snapshots. The canonical text lists every table in key order, so
equal snapshots have one text; its digest, cut to sixteen bytes, is the token.
-/

set_option autoImplicit false

namespace GridLoad

def valuesJson (values : Values) : Json := namesJson .float values

def toValues? : Json.Decoder Values := Json.toTable? Json.textOf? Json.toFloat?

def ZoneFeatures.toJson (f : ZoneFeatures) : Json :=
  .record [("current", valuesJson f.current), ("forecast", hoursJson valuesJson f.forecast)]

def ZoneFeatures.ofJson? : Json.Decoder ZoneFeatures := fun j => do
  let r ← Json.toRecord? ["current", "forecast"] j
  let current ← r.defaulted "current" .empty toValues?
  let forecast ← r.defaulted "forecast" .empty (Json.toTable? Json.hoursKey? toValues?)
  some ⟨current, forecast⟩

namespace Snapshot

def toJson (s : Snapshot) : Json :=
  .record [("observed_at", timestampJson s.observedAt), ("zones", namesJson ZoneFeatures.toJson s.zones)]

def ofJson? : Json.Decoder Snapshot := fun j => do
  let r ← Json.toRecord? ["observed_at", "zones"] j
  let observedAt ← r.required "observed_at" toTimestamp?
  let zones ← r.defaulted "zones" .empty (Json.toTable? Json.textOf? ZoneFeatures.ofJson?)
  some ⟨observedAt, zones⟩

def canonicalText (s : Snapshot) : String := s.toJson.text

end Snapshot

abbrev Token := String

def tokenBytes : Nat := 16

def tokenOfText (text : String) : Token :=
  Digest.hex ((Digest.sha256 text.toUTF8.toList).take tokenBytes)

def Snapshot.token (s : Snapshot) : Token := tokenOfText s.canonicalText

structure NamedSnapshot where
  token : Token
  snapshot : Snapshot
  deriving DecidableEq

def NamedSnapshot.of (s : Snapshot) : NamedSnapshot := ⟨s.token, s⟩

end GridLoad
