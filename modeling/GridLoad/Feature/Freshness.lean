import GridLoad.Feature.Token
import GridLoad.Forecast.Failure

/-!
How old a snapshot may be, and what is done about one that is older.
-/

set_option autoImplicit false

namespace GridLoad

open GridLoad.Time (Timestamp)

inductive Freshness where
  -- Serve it and put it on record.
  | warn
  | reject
  deriving DecidableEq

namespace Freshness

def name : Freshness → String
  | .warn => "warn"
  | .reject => "reject"

def named : List (String × Freshness) := [("warn", .warn), ("reject", .reject)]

def toJson (f : Freshness) : Json := .str f.name

def ofJson? (nothing : Json → Bool := Json.isNull) : Json.Decoder Freshness := Json.toOneOf? nothing named

end Freshness

structure Age where
  age : Int
  limit : Int
  deriving DecidableEq

-- A limit is held in 64 bits with a sign.
def ageLimit (seconds : Nat) : Int := asSigned64 seconds

def staleAge? (limitSeconds : Nat) (now : Timestamp) (s : NamedSnapshot) : Option Age :=
  let age := now.secondsSince s.snapshot.observedAt
  let limit := ageLimit limitSeconds
  if age ≤ limit then none else some ⟨age, limit⟩

def Age.failure (a : Age) (token : Token) : Failure := .stale token a.age a.limit

end GridLoad
