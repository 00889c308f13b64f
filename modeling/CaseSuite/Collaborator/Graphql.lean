import CaseSuite.Http.Request
/-!
Requests that carry a query in a graph query language. What a request leaves out, it takes from the
defaults of the suite.
-/
set_option autoImplicit false

namespace CaseSuite

structure GraphqlRequest where
  query : Option String
  headers : Option (Entries String)
  method : Option String
  url : Option String
  defaults : RequestDefaults

namespace GraphqlRequest

def blank (defaults : RequestDefaults) : GraphqlRequest := ⟨none, none, none, none, defaults⟩

def textField (name : String) : Value → Except Error String
  | .str s => .ok s
  | other => .error (.config (.requestFieldNotText name other.display))

def readField (r : GraphqlRequest) (name : String) (v : Value) : Except Error GraphqlRequest := do
  match name with
  | "query" => return { r with query := some (← textField name v) }
  | "method" => return { r with method := some (← textField name v) }
  | "url" => return { r with url := some (← textField name v) }
  | "headers" =>
    match v.asObject? with
    | some headers => return { r with headers := some (headers.mapValues Value.text) }
    | none => throw (.config (.headersNotMap v.display))
  | other => throw (.config (.unknownRequestField other))

def readFields (r : GraphqlRequest) : List (String × Value) → Except Error GraphqlRequest
  | [] => .ok r
  | (name, v) :: fields => do readFields (← r.readField name v) fields

def read (request : Value) (defaults : RequestDefaults) : Except Error GraphqlRequest :=
  match request.asObject? with
  | some fields => readFields (blank defaults) fields
  | none => .error (.config (.requestNotMap request.display))

variable (r : GraphqlRequest)

/-- The headers to send: those of the request replace all of the defaults. -/
def effectiveHeaders : Entries String := r.headers.getD (r.defaults.headers.mapValues Value.text)

def effectiveMethod : String := (r.method <|> r.defaults.method).getD "POST"

def effectiveUrl : Option String := r.url <|> r.defaults.url

/-- Headers of two requests together; where both set one, the second wins. -/
def joinHeaders (ours theirs : Option (Entries String)) : Option (Entries String) :=
  match theirs with
  | none => ours
  | some theirs => some ((ours.getD []).insertAll theirs)

/-- The request with everything that another one sets. -/
def join (other : GraphqlRequest) : GraphqlRequest :=
  { r with
    query := other.query <|> r.query
    headers := joinHeaders r.headers other.headers
    method := other.method <|> r.method
    url := other.url <|> r.url }

def payload : Json := .object [("query", .str (r.query.getD ""))]

def toHttp : Except RequestProblem Http.Request := do
  let some address := r.effectiveUrl | throw .noUrl
  if !Http.isToken r.effectiveMethod then throw (.badMethod r.effectiveMethod)
  let some url := Http.Url.read address | throw (.notSent .notWritable)
  if !url.hasHost then throw (.notSent (.foreignAddress url.text))
  if r.effectiveHeaders.any fun h => !Http.isToken h.1 || !Http.isFieldValue h.2 then
    throw (.notSent .notWritable)
  if !url.isHttp then throw (.notSent (.foreignAddress url.withoutUser.text))
  let own := r.effectiveHeaders.map fun h => (h.1.toLower, h.2)
  let headers := url.credentials ++ ("content-type", "application/json") :: own
  let request : Http.Request :=
    ⟨r.effectiveMethod, url.withoutUser, headers, r.payload.print.toUTF8⟩
  return request.withDefault "accept" "*/*"

def send {m : Type → Type} [Monad m] [Http.Transport m] : Action m Response := do
  let request ← liftExcept (r.toHttp.mapError Error.request)
  ExceptT.mk do
    return (← Http.Transport.send request).mapError fun fault => .request (.notSent fault)

end GraphqlRequest

instance : Joinable GraphqlRequest where
  join r other := .ok (r.join other)

instance {m : Type → Type} [Monad m] [Http.Transport m] : Requester m GraphqlRequest where
  send r := r.send

end CaseSuite
