import GridLoad.Zone.Registry

/-!
Counters of what the service has done, and gauges of the registry that it serves.
-/

set_option autoImplicit false

namespace GridLoad

inductive Counter where
  | latency (operation : String)
  | failures (kind : String)
  | invocations (zone : String) (variant : Variant)
  | reloads (outcome : String)
  deriving DecidableEq

namespace Counter

def name : Counter → String
  | .latency _ => "request_latency_seconds"
  | .failures _ => "errors_total"
  | .invocations _ _ => "model_invocations_total"
  | .reloads _ => "registry_reloads_total"

def labels : Counter → List (String × String)
  | .latency operation => [("operation", operation)]
  | .failures kind => [("kind", kind)]
  | .invocations zone variant => [("variant", variant.name), ("zone", zone)]
  | .reloads outcome => [("outcome", outcome)]

end Counter

def seriesText (name : String) (labels : List (String × String)) : String :=
  "zone_forecast_" ++ name ++ "\x7b" ++ ",".intercalate (labels.map fun l => l.1 ++ "=" ++ l.2) ++ "\x7d"

def Counter.text (c : Counter) : String := seriesText c.name c.labels

structure RegistryGauges where
  generation : Nat := 0
  available : Nat := 0
  versions : List (String × Variant × String) := []
  deriving DecidableEq

def RegistryGauges.of (r : Registry) : RegistryGauges where
  generation := r.generation
  available := r.availableZones.length
  versions := r.zones.entries.flatMap fun e => e.2.modelVersions.map fun v => (e.1, v.1, v.2)

structure Tally where
  counts : Table String Nat := .empty
  registry : RegistryGauges := {}
  deriving DecidableEq

instance : Inhabited Tally := ⟨{}⟩

namespace Tally

def count (c : Counter) (t : Tally) : Tally := { t with counts := t.counts.modify c.text 0 (· + 1) }

def get (c : Counter) (t : Tally) : Nat := (t.counts.get? c.text).getD 0

-- Counters of the cache, which it keeps itself.
def cacheCounts (hits misses coalesced : Nat) : List (String × Nat) :=
  [(seriesText "cache_hits_total" [], hits), (seriesText "cache_misses_total" [], misses),
    (seriesText "cache_coalesced_total" [], coalesced)]

-- A generation is shown in 64 bits with a sign.
def gauges (t : Tally) (cacheEntries : Nat) : List (String × Int) :=
  [(seriesText "cache_entries" [], (cacheEntries : Int)),
    (seriesText "registry_generation" [], asSigned64 t.registry.generation),
    (seriesText "zones_available" [], (t.registry.available : Int))] ++
  t.registry.versions.map fun v =>
    (seriesText "model_version_info" [("variant", v.2.1.name), ("version", v.2.2), ("zone", v.1)], 1)

end Tally

end GridLoad
