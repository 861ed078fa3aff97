import GridLoad.Forecast.Failure
import GridLoad.Json.Value

/-!
Requests and responses, as far as the service looks into them and fills them.
-/

set_option autoImplicit false

namespace GridLoad.Web

inductive Method where
  | get
  | head
  | post
  | other
  deriving DecidableEq

def Method.ofText (text : String) : Method :=
  match text with
  | "GET" => .get
  | "HEAD" => .head
  | "POST" => .post
  | _ => .other

structure Request where
  method : Method
  target : String
  contentType : Option String := none
  body : List UInt8 := []
  deriving DecidableEq

namespace Request

-- What follows the scheme of a whole address; a host without a scheme is none.
def afterScheme? (target : List Char) : Option (List Char) :=
  match target.dropWhile (· ≠ ':') with
  | ':' :: '/' :: '/' :: rest => some rest
  | _ => none

-- Path and query of a target. A target may be a whole address, from which the host is taken away, or a host
-- alone, which has no path.
def pathAndQuery (target : List Char) : List Char :=
  match target with
  | '/' :: _ => target
  | ['*'] => target
  | _ => ((afterScheme? target).getD []).dropWhile fun c => c ≠ '/' && c ≠ '?'

def address (r : Request) : List Char := pathAndQuery (r.target.toList.takeWhile (· ≠ '#'))

def path (r : Request) : String := String.ofList (r.address.takeWhile (· ≠ '?'))

def query (r : Request) : String := String.ofList ((r.address.dropWhile (· ≠ '?')).drop 1)

end Request

inductive Content where
  | nothing
  | text (text : String)
  | document (document : Json)

structure Response where
  status : Nat
  content : Content

namespace Response

def empty (status : Nat) : Response := ⟨status, .nothing⟩

def document (status : Nat) (j : Json) : Response := ⟨status, .document j⟩

def ok (j : Json) : Response := document 200 j

def unreadable (text : String) : Response := ⟨400, .text text⟩

def refused (code message : String) : Response :=
  document 400 (.record [("error", .str code), ("message", .str message)])

end Response

end GridLoad.Web

namespace GridLoad.Failure

def status : Failure → Nat
  | .noModel .. => 404
  | .invalidFeatures .. => 422
  | .horizonOutOfRange .. => 422
  | .unknownSnapshot .. => 400
  | .corruptModel .. => 503
  | .constituent .. => 503
  | .snapshotMismatch .. => 503
  | .stale .. => 503
  | .timedOut .. => 504
  | .source .. => 502
  | .configuration .. => 500

def response (f : Failure) : Web.Response :=
  .document f.status
    (.sparse [("error", some (.str f.kind)), ("message", some (.str f.message)),
      ("constituent", f.failedConstituent.map .str)])

end GridLoad.Failure
