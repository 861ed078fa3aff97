import GridLoad.Json.Reader
import GridLoad.Serving.Setup
import GridLoad.Text.Blank
import GridLoad.Text.Quoted
import GridLoad.Web.MediaType
import GridLoad.Web.Percent

/-!
What the queries and bodies of requests say: horizons, snapshots and overriding values.
-/

set_option autoImplicit false

namespace GridLoad.Web

-- A horizon in digits, with or without a plus sign, of at most 32 bits.
def horizonOfText? (text : String) : Option Nat :=
  let digits := match text.toList with
    | '+' :: rest => rest
    | chars => chars
  let n := Decimal.natOfDigits digits
  if !digits.isEmpty && digits.all Char.isDigit && n < wordLimit 32 then some n else none

def horizonsOfText (text : String) : Except String (List Nat) := do
  let parts := (parts ',' text).map fun part => String.ofList (Text.trim part.toList)
  let horizons ← (parts.filter (· ≠ "")).mapM fun part =>
    match horizonOfText? part with
    | some horizon => .ok horizon
    | none => .error ("horizon " ++ Text.quoted part ++ " is not a whole number of hours")
  if horizons.isEmpty then .error "at least one horizon is required" else .ok horizons

def pointQuery? (query : String) : Option (Option Nat × Option String) := do
  let pairs := queryPairs query
  let horizon ← (oneValue pairs "horizon").toOption
  let snapshot ← (oneValue pairs "snapshot").toOption
  match horizon with
  | none => some (none, snapshot)
  | some text => do
      let horizon ← horizonOfText? text
      some (some horizon, snapshot)

def trendQuery? (query : String) : Option (String × Option String) := do
  let pairs := queryPairs query
  let horizons ← (oneValue pairs "horizons").toOption
  let horizons ← horizons
  let snapshot ← (oneValue pairs "snapshot").toOption
  some (horizons, snapshot)

structure Wanted where
  horizon : Nat
  options : Options := {}
  deriving DecidableEq

namespace Wanted

def toJson (w : Wanted) : Json :=
  .record [("horizon", .nat w.horizon), ("snapshot", .option .str w.options.snapshot),
    ("overrides", valuesJson w.options.overrides)]

def ofJson? : Json.Decoder Wanted := fun j => do
  let r ← Json.toRecord? ["horizon", "snapshot", "overrides"] j
  let horizon ← r.required "horizon" (Json.toWord? 32)
  let snapshot ← r.optional "snapshot" Json.toText?
  let overrides ← r.defaulted "overrides" .empty toValues?
  some ⟨horizon, ⟨snapshot, overrides⟩⟩

/-- The body of a request that says that it is JSON. What follows the document is not looked at. -/
def ofBody? (contentType : Option String) (body : List UInt8) : Option Wanted := do
  let mediaType ← contentType.bind MediaType.ofText?
  if mediaType.isJson then do
    let document ← Json.leadingOf? (Text.charsOfBytes body)
    ofJson? document
  else none

end Wanted

end GridLoad.Web
