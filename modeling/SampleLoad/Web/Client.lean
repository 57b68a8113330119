import SampleLoad.Text.Blank
import SampleLoad.Web.Base64
import SampleLoad.Web.Body
import SampleLoad.Web.Config
import SampleLoad.Web.Status

/-!
A container store over the web API. Each call is at most one request, sent over a transport: looking for a
container is a GET that a 404 answers with no, creating one is a POST, dropping one a DELETE, and writing
rows a PUT for the one container of the batch that has any. Connecting checks the connection first.
-/

namespace SampleLoad.WebApi

inductive Method where
  | get
  | post
  | put
  | delete
  deriving DecidableEq, Repr

namespace Method

def name : Method → String
  | get => "GET"
  | post => "POST"
  | put => "PUT"
  | delete => "DELETE"

end Method

/-- A request as it goes out. Credentials of its URL have become an authorization of their own. -/
structure Request where
  method : Method
  url : Url
  authorization : List String
  /-- A JSON body. -/
  body? : Option String := none
  deriving DecidableEq

namespace Request

/-- Path and query, which the server is asked for. -/
def target (r : Request) : String := r.url.pathText ++ r.url.queryText

end Request

structure Response where
  status : Nat
  body : List UInt8
  deriving DecidableEq

/-- Carries requests to a server; no response means that the server could not be reached. -/
def Transport (m : Type → Type) : Type := Request → m (Option Response)

/-- The authorization for a user, with the password behind a colon. -/
def basicAuthorization (user password : String) : String :=
  "Basic " ++ String.ofList (Base64.encode (user ++ ":" ++ password).toUTF8.toList)

/-- The text that a part of a URL stands for, if it is one. -/
def decodedPart? (part : String) : Option String := Utf8.decode? (Percent.decode part.toList)

/-- Takes user name and password out of a URL. They stay if the name is no text; a password that is no text
is dropped. -/
def takeCredentials (u : Url) : Option (String × String) × Url :=
  match decodedPart? u.username with
  | none => (none, u)
  | some user =>
    let password? := u.password?.bind decodedPart?
    if user = "" && password?.isNone then (none, u)
    else (some (user, password?.getD ""), { u with username := "", password? := none })

/-- The URL has a host. -/
def hasHost (u : Url) : Bool :=
  match u.host? with
  | none | some (.name "") => false
  | some _ => true

/-- Requests can be sent to the URL: it is one of the web, not too long, and its host has no character that
a request line cannot hold. -/
def isSendable (u : Url) : Bool :=
  hasHost u && (u.scheme = "http" || u.scheme = "https") && u.text.utf8ByteSize ≤ 65534 &&
    !((u.host?.map Host.text).getD "").toList.any fun c => c ∈ ['"', '\x60', '\x7b', '\x7d']

/-- A request for a URL, with the authorization of the settings after any that the URL brings. -/
def request (config : WebApiConfig) (method : Method) (url : Url) (body? : Option Json := none) : Request :=
  let (credentials?, url) := takeCredentials url
  let fromUrl := credentials?.toList.map fun (user, password) => basicAuthorization user password
  { method, url, authorization := fromUrl ++ [basicAuthorization config.user config.password]
    body? := body?.map Json.print }

/-- What the message of a refusal says: the body, or the standard reason if that is blank. -/
def refusalText (response : Response) : String :=
  let text := trimBlank (Utf8.decodeLenient response.body)
  if text = "" then (Status.reason? response.status).getD "unknown error" else text

/-- A response that is no success is a refusal. -/
def accepted (response : Response) : Except StoreError Response :=
  if Status.isSuccess response.status then .ok response
  else .error (.rejected response.status (refusalText response))

/-- Makes requests as a client of HTTP does: what comes of one is a response or the text of an error. -/
def Http (m : Type → Type) : Type := Request → m (Except String Response)

variable {m : Type → Type} [Monad m]

/-- Requests over a transport. One whose URL cannot be sent does not go out. -/
def Http.over (transport : Transport m) : Http m := fun r =>
  if isSendable r.url then do
    match ← transport r with
    | some response => pure (.ok response)
    | none => pure (.error ("error sending request for url (" ++ r.url.text ++ ")"))
  else pure (.error ("builder error for url (" ++ r.url.text ++ ")"))

/-- A session with the web API. -/
structure Session where
  config : WebApiConfig
  closed : Bool := false
  deriving DecidableEq

/-- The entries of a batch that have rows. -/
def targets (batch : Batch) : List (String × Array Row) := batch.entries.filter fun (_, rows) => !rows.isEmpty

/-- Why a call in a closed session fails. To create and to drop, the URL is put together before the session is
looked at. -/
def closedError (config : WebApiConfig) : StoreCall → StoreError
  | .create .. | .drop _ =>
    match config.endpoint ["containers"] with
    | .error e => e
    | .ok _ => .closed
  | .exists _ | .write _ | .close => .closed

namespace Http

variable (http : Http m)

/-- Sends a request. -/
def send (r : Request) : m (Except StoreError Response) := do
  match ← http r with
  | .error text => pure (.error (.connection text))
  | .ok response => pure (.ok response)

/-- Sends a request that only a success answers. -/
def sendAccepted (r : Request) : m (Except StoreError Unit) := do
  match ← http.send r with
  | .error e => pure (.error e)
  | .ok response => pure ((accepted response).map fun _ => ())

/-- Opens a session after checking that the server takes the credentials. -/
def connect (config : WebApiConfig) : m (Except StoreError Session) := do
  match config.endpoint ["checkConnection"] with
  | .error e => pure (.error e)
  | .ok url =>
    match ← http.send (request config .get url) with
    | .error e => pure (.error e)
    | .ok response =>
      match accepted response with
      | .error e => pure (.error (.connection ("GridDB connection check failed: " ++ e.message)))
      | .ok _ => pure (.ok { config })

/-- Writes the rows of one container. -/
def writeRows (config : WebApiConfig) (name : String) (rows : Array Row) : m (Except StoreError Unit) := do
  match config.endpoint ["containers", name, "rows"] with
  | .error e => pure (.error e)
  | .ok url =>
    match rowsBody rows with
    | .error e => pure (.error e)
    | .ok body => http.sendAccepted (request config .put url (some body))

/-- Performs a call in an open session. -/
def performOpen (config : WebApiConfig) : (call : StoreCall) → m (Except StoreError call.Answer)
  | .exists name => do
    match config.endpoint ["containers", name, "info"] with
    | .error e => pure (.error e)
    | .ok url =>
      match ← http.send (request config .get url) with
      | .error e => pure (.error e)
      | .ok response =>
        if response.status = 404 then pure (.ok false)
        else pure ((accepted response).map fun _ => true)
  | .create name schema => do
    match config.endpoint ["containers"] with
    | .error e => pure (.error e)
    | .ok url => http.sendAccepted (request config .post url (some (containerInfo name schema)))
  | .drop name => do
    match config.endpoint ["containers"] with
    | .error e => pure (.error e)
    | .ok url => http.sendAccepted (request config .delete url (some (dropBody name)))
  | .write batch => do
    match targets batch with
    | [] => pure (.ok ())
    | [(name, rows)] => http.writeRows config name rows
    | many =>
      pure (.error (.encoding ("batch spans " ++ toString many.length ++ " containers (" ++
        ", ".intercalate (many.map (·.1)) ++ "); the Web API writes one container per request")))
  | .close => pure (.ok ())

/-- Performs a call: none after the session is closed. -/
def perform (call : StoreCall) : StateT Session m (Except StoreError call.Answer) :=
  fun session =>
    if session.closed then pure (.error (closedError session.config call), session)
    else do
      let answer ← http.performOpen session.config call
      pure (answer, { session with closed := call = .close })

end Http

/-- Opens a session over a transport. -/
def connect (transport : Transport m) (config : WebApiConfig) : m (Except StoreError Session) :=
  (Http.over transport).connect config

end SampleLoad.WebApi

namespace SampleLoad

variable {m : Type → Type} [Monad m]

/-- The store over the web API, working on its session. -/
def WebApi.Http.store (http : WebApi.Http m) : ContainerStore (StateT WebApi.Session m) where
  perform := http.perform

/-- The store over the web API, reached over a transport. -/
def webStore (transport : WebApi.Transport m) : ContainerStore (StateT WebApi.Session m) :=
  (WebApi.Http.over transport).store

end SampleLoad
