import StakkaWeb.Covers
import StakkaWeb.Public

/-!
# Fetching a cover (`_check_public` and `fetch_url` in `catalog/art.py`)

What `urlparse`, the resolver and the servers answer is given (`Web`), a fresh answer each time they
are asked, so that a name may resolve differently and a server send anything at every hop. The two
variables of `fetch_url` that outlive a turn of its loop are part of the state (`Net`), and so is a
log, kept for the specification, of what was asked.
-/

set_option autoImplicit false

namespace StakkaWeb

open Lib

/-- `MAX_REDIRECTS` -/
def maxRedirects : Nat := 3

/-- What `fetch_url` may raise. -/
inductive Failure where
  | artError (msg : String)
  | other (exc : Exc)
  deriving DecidableEq, Repr

/-- `urlparse(url)`, as far as it is read. -/
structure ParsedUrl where
  scheme : String
  hostname : Option String
  deriving DecidableEq, Repr

/-- How `socket.getaddrinfo(host, None)` ends. -/
inductive Lookup where
  | found (addrs : List Address)
  | gaierror
  | raises (exc : Exc)
  deriving DecidableEq, Repr

/-- A response. The two tests for a redirect are those of `requests`. The body comes in chunks, and
reading on may raise at the end of them. -/
structure Response where
  statusCode : Nat
  isRedirect : Bool
  isPermanentRedirect : Bool
  location : Option String
  contentType : Option String
  chunks : List Bytes
  broken : Option Exc
  deriving DecidableEq, Repr

/-- What is beneath `fetch_url`. The number is that of the lookup, or of the request. -/
structure Web where
  urlparse : String → Except Exc ParsedUrl
  getaddrinfo : Nat → String → Lookup
  /-- `requests.get` without following redirects. -/
  get : Nat → String → Except Exc Response

inductive NetEvent where
  | asked (host : String) (answer : Lookup)
  | requested (url : String) (reply : Except Exc Response)
  deriving DecidableEq, Repr

/-- `url` and `seen` of `fetch_url`, and the counts of lookups and requests. -/
structure Net where
  url : String
  seen : Nat
  lookups : Nat
  requests : Nat
  /-- Newest first. -/
  log : List NetEvent

/-- Before the loop. -/
def Net.start (url : String) : Net := ⟨url, 0, 0, 0, []⟩

namespace Response

/-- `fetch_url` takes it for a redirect. -/
def redirects (r : Response) : Bool := r.isRedirect || r.isPermanentRedirect

/-- `resp.headers.get("Content-Type", "").split(";")[0].strip()` -/
def ctype (r : Response) : String :=
  Taxonomy.strip (String.ofList ((r.contentType.getD "").toList.takeWhile (· ≠ ';')))

/-- `ctype.startswith("image/")` -/
def isImage (r : Response) : Bool := "image/".toList.isPrefixOf r.ctype.toList

end Response

abbrev Fetching (α : Type) : Type := Prog Failure Net α

def artError {α : Type} (msg : String) : Fetching α := Prog.raise (.artError msg)

/-- A call that no handler is around. -/
def unhandled {α : Type} : Except Exc α → Fetching α
  | .ok a => pure a
  | .error exc => Prog.raise (.other exc)

section Fetch

variable (web : Web)

def getaddrinfo (host : String) : Fetching Lookup :=
  Prog.call fun s =>
    let answer := web.getaddrinfo s.lookups host
    (.ok answer, { s with lookups := s.lookups + 1, log := .asked host answer :: s.log })

/-- `requests.get(url, ..., allow_redirects=False)` -/
def requestsGet (url : String) : Fetching Response := do
  let reply ← Prog.gets fun s => web.get s.requests url
  Prog.modify fun s =>
    { s with requests := s.requests + 1, log := .requested url reply :: s.log }
  unhandled reply

/-- `_check_public(host)` -/
def checkPublic (host : String) : Fetching Unit := do
  match ← getaddrinfo web host with
  | .gaierror => artError ("Could not resolve " ++ host)
  | .raises exc => Prog.raise (.other exc)
  | .found addrs =>
    match vet addrs with
    | .ok () => pure ()
    | .error msg => artError msg

/-- What a redirect does: `seen += 1`, and on to the next URL. -/
def follow (resp : Response) : Fetching Unit := do
  Prog.modify fun s => { s with seen := s.seen + 1 }
  let seen ← Prog.gets (·.seen)
  if maxRedirects < seen then artError "Too many redirects."
  else do
    let url := resp.location.getD ""
    Prog.modify fun s => { s with url }
    if url = "" then artError "Redirect without a destination."
    else pure ()

/-- The loop over `resp.iter_content(64 * 1024)`. -/
def gather (broken : Option Exc) (data : Bytes) : List Bytes → Except Failure Bytes
  | [] =>
    match broken with
    | none => .ok data
    | some exc => .error (.other exc)
  | chunk :: chunks =>
    let data := data ++ chunk
    if maxBytes < data.length then .error (.artError "That image is larger than 8 MB.")
    else gather broken data chunks

/-- What a response that is no redirect gives. -/
def download (resp : Response) : Except Failure Bytes :=
  if resp.statusCode ≠ 200 then
    .error (.artError ("That URL returned HTTP " ++ toString resp.statusCode ++ "."))
  else if !resp.isImage then
    let ctype := if resp.ctype = "" then "an unknown type" else resp.ctype
    .error (.artError ("That URL is " ++ ctype ++ ", not an image."))
  else
    match gather resp.broken [] resp.chunks with
    | .error failure => .error failure
    | .ok [] => .error (.artError "That URL returned an empty response.")
    | .ok data => .ok data

/-- What `fetch_url` does with a response: `none` for going on. -/
def received (resp : Response) : Fetching (Option Bytes) :=
  if resp.redirects then do
    follow resp
    pure none
  else
    match download resp with
    | .ok data => pure (some data)
    | .error failure => Prog.raise failure

/-- One turn of the loop of `fetch_url`. -/
def hop : Fetching (Option Bytes) := do
  let url ← Prog.gets (·.url)
  let parsed ← unhandled (web.urlparse url)
  if parsed.scheme ∉ ["http", "https"] then
    artError "Only http:// and https:// URLs are supported."
  else
    match given parsed.hostname with
    | none => artError "That does not look like a URL."
    | some host => do
      checkPublic web host
      let resp ← requestsGet web url
      received resp

/-- `fetch_url(url)`, from `Net.start url`. -/
def fetchUrl : Fetching Bytes := Prog.loop (hop web)

/-- What `fetch_url(url)` comes to, as `ingest` sees it. One turn more than the redirects it may
follow is enough, so that it does not hang. -/
def Web.fetched (url : String) : Except Exc (Except String Bytes) :=
  match (fetchUrl web (maxRedirects + 1) (.start url)).1 with
  | .ok data => .ok (.ok data)
  | .raise (.artError msg) => .ok (.error msg)
  | .raise (.other exc) => .error exc
  | .hang => .ok (.ok [])

end Fetch

/-! ## What a fetch may meet -/

namespace Web

variable (web : Web)

/-- The URL has a scheme that is fetched, and names a host. -/
def Names (url host : String) : Prop :=
  ∃ parsed, web.urlparse url = .ok parsed ∧ parsed.scheme ∈ ["http", "https"] ∧
    given parsed.hostname = some host

/-- Sent as request `k`, the URL is replied to: its host has passed at lookup `k`. -/
def Replies (k : Nat) (url : String) (reply : Except Exc Response) : Prop :=
  ∃ host addrs, web.Names url host ∧ web.getaddrinfo k host = .found addrs ∧ vet addrs = .ok () ∧
    web.get k url = reply

/-- The chain of redirects from `url`: its member `k` is looked at in turn `k`. -/
inductive Chain (url : String) : Nat → String → Prop
  | start : Chain url 0 url
  | follow {k : Nat} {at_ next : String} {resp : Response} (h : Chain url k at_)
    (hreply : web.Replies k at_ (.ok resp)) (hredirect : resp.redirects = true)
    (hk : k < maxRedirects) (hnext : given resp.location = some next) : Chain url (k + 1) next

/-- A call raises at this member of the chain, with no handler around it. -/
inductive Stumbles (k : Nat) (url : String) : Exc → Prop
  | urlparse {exc : Exc} (h : web.urlparse url = .error exc) : Stumbles k url exc
  | getaddrinfo {exc : Exc} {host : String} (hnames : web.Names url host)
    (h : web.getaddrinfo k host = .raises exc) : Stumbles k url exc
  | get {exc : Exc} (h : web.Replies k url (.error exc)) : Stumbles k url exc
  /-- The body of an image breaks before too much of it has come. -/
  | iterContent {exc : Exc} {resp : Response} (h : web.Replies k url (.ok resp))
    (hredirect : resp.redirects = false) (hstatus : resp.statusCode = 200)
    (himage : resp.isImage = true) (hsize : resp.chunks.flatten.length ≤ maxBytes)
    (hbroken : resp.broken = some exc) : Stumbles k url exc

/-- The whole of an image comes at this member of the chain. -/
structure Brings (k : Nat) (url : String) (data : Bytes) (resp : Response) : Prop where
  reply : web.Replies k url (.ok resp)
  redirect : resp.redirects = false
  status : resp.statusCode = 200
  image : resp.isImage = true
  whole : resp.broken = none ∧ data = resp.chunks.flatten
  size : data ≠ [] ∧ data.length ≤ maxBytes

end Web

end StakkaWeb
