import BulkFhir.Basic

/-! # Requests, responses and the library around the client

The client builds a request, hands it to `httpClient.Do`, and reads the status
code, the headers and (for two endpoints) a JSON body of the response. The
network is an explicit input of every call: an `Exchange` is what `Do` returned
for the request the call built. JSON decoding belongs to `encoding/json`; a
response carries the outcome of decoding its body into the structure the caller
decodes into. URL parsing and the FHIR instant format belong to `net/url` and
the `fhir` package, and are the fields of `Lib`.
-/

namespace BulkFhir

/-- Library functions the client calls and does not define. -/
structure Lib where
  /-- The error `url.Parse`, and so `http.NewRequest`, gives for a URL it rejects. -/
  urlError : String → Option String
  /-- `fhir.ToFHIRInstant`. -/
  toFHIRInstant : Time → String
  /-- `fhir.ParseFHIRInstant`. -/
  parseFHIRInstant : String → Except String Time

/-- A `Lib` to evaluate the model on: every URL parses, and an instant is written and
read as its count of nanoseconds. -/
def Lib.nanoInstants : Lib where
  urlError _ := none
  toFHIRInstant t := toString t.nanos
  parseFHIRInstant s :=
    if s ≠ "" ∧ s.toList.all Char.isDigit then .ok ⟨digitsValue s.toList⟩
    else .error ("cannot parse " ++ s ++ " as an instant")

/-- Header fields, keys in canonical form, in the order they were added. -/
abbrev Header := List (String × String)

/-- `h.Values(key)`. -/
def Header.values (h : Header) (key : String) : List String :=
  (h.filter (·.1 = key)).map (·.2)

/-- A request handed to `httpClient.Do`. `query` holds the parameters the client
added to `url.Values`, and `form` the `url.Values` of a form body. -/
structure Request where
  method : String
  url : String
  query : List (String × String) := []
  header : Header := []
  basicAuth : Option (String × String) := none
  form : Option (List (String × String)) := none
  deriving DecidableEq, Repr

/-- A response; `body` is what the caller gets from the body: the decoded JSON
value (or the decoder's error), or the stream itself. -/
structure Response (β : Type) where
  statusCode : Int
  header : Header := []
  body : β

/-- What `httpClient.Do(req)` returned: a transport error, or a response. -/
abbrev Exchange (β : Type) := Except String (Response β)

/-- The `Authorization` header of an authorized call. -/
def bearer (token : String) : String × String := ("Authorization", "Bearer " ++ token)

end BulkFhir
