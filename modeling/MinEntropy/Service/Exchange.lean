import MinEntropy.Json.Value
import MinEntropy.Metrics.Exposition

/-! Requests to the service and its responses. -/

namespace MinEntropy.Service

structure HttpRequest where
  method : String
  /-- The path and the query, or the whole address. -/
  target : String
  headers : List (String × String)
  body : List UInt8

/-- What a response carries. -/
inductive Body where
  | empty
  | text (s : String)
  | document (j : Json)
  | account (r : Metrics.Registry)

structure Response where
  status : Nat
  contentType : Option String
  /-- The methods that would be allowed. -/
  allow : Option String
  requestId : String
  body : Body

/-- The body as it is sent. -/
def Body.content : Body → String
  | empty => ""
  | text s => s
  | document j => j.compactText
  | account r => r.text

namespace HttpRequest

/-- The address without the part after a number sign. -/
def address (r : HttpRequest) : List Char := r.target.toList.takeWhile (· ≠ '#')

/-- The text after a scheme and an authority, or all of it. -/
def local? (cs : List Char) : Option (List Char) :=
  let scheme := cs.takeWhile Char.isAlphanum
  match cs.drop scheme.length with
  | ':' :: '/' :: '/' :: rest => some (rest.dropWhile fun c => c ≠ '/' ∧ c ≠ '?')
  | _ => none

/-- The path and the query of the address. -/
def localPart (r : HttpRequest) : List Char :=
  match r.address with
  | '/' :: rest => '/' :: rest
  | cs => (local? cs).getD cs

/-- The path; an address that has none means the root. -/
def path (r : HttpRequest) : String :=
  let cs := r.localPart.takeWhile (· ≠ '?')
  if cs.isEmpty then "/" else String.ofList cs

/-- The query after the first question mark, empty where there is none. -/
def query (r : HttpRequest) : String :=
  String.ofList ((r.localPart.dropWhile (· ≠ '?')).drop 1)

/-- The first header of a name, in whatever case. -/
def header? (r : HttpRequest) (name : String) : Option String :=
  (r.headers.find? fun h => h.1.map Char.toLower = name).map (·.2)

/-- The header that names a request. -/
def idHeader : String := "x-request-id"

end HttpRequest

/-- A visible character of ASCII, a blank or a tab. -/
def isVisible (c : Char) : Bool := c = '\t' || (0x20 ≤ c.toNat && c.toNat < 0x7f)

/-- An identifier as shown in documents: nothing unless all of it is visible. -/
def shownId (id : String) : String := if id.toList.all isVisible then id else ""

end MinEntropy.Service
