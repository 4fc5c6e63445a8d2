import ScreenBridge.Server.Basic
import ScreenBridge.Text.Case

/-!
# Pages

Besides the viewers a server answers plain requests: one page tells whether it is well, another
one lists its counters, and every other path is not found. A request that names where it comes
from is told that it may read the answer.
-/

namespace ScreenBridge.Server

/-- What a page shows. -/
inductive Content where
  | json (v : Json)
  | samples (samples : List Sample)
  | nothing
  deriving DecidableEq, Repr

def Content.type : Content → String
  | .json _ => "application/json"
  | .samples _ => "text/plain"
  | .nothing => ""

/-- The answer to a request: its status, its content, and who may read it. -/
structure Response where
  status : Nat
  content : Content
  readers : Option String
  deriving DecidableEq, Repr

/-- The value of a header, whose name may be in any case. -/
def header? (headers : Keyed String) (name : String) : Option String :=
  (headers.find? fun kv => Text.lower kv.1 = name).map Prod.snd

/-- Who may read the answer to a request: everyone, or just its origin if it comes with cookies. -/
def readersOf (headers : Keyed String) : Option String :=
  (header? headers "origin").map fun origin =>
    if (header? headers "cookie").isSome then origin else "*"

/-- The page that tells whether the server is well. -/
def health (v : Server) : Json :=
  .obj [("status", .str "ok"), ("timestamp", .str v.state.now),
    ("sessions", .int v.state.sessions.size)]

/-- The page for a path that has none. -/
def notFound : Json :=
  .obj [("detail", .str "Not Found")]

/-- The paths that have a page. -/
def pagePaths : List String := ["/health", "/metrics"]

/-- What is found at a path; with a slash too many the request is sent on. -/
def page (v : Server) (path : String) : Nat × Content :=
  if path = "/health" then (200, .json v.health)
  else if path = "/metrics" then (200, .samples v.state.metrics.samples)
  else if pagePaths.any (· ++ "/" = path) then (307, .nothing)
  else (404, .json notFound)

/-- The answer to a request for a path. -/
def respond (v : Server) (path : String) (headers : Keyed String) : Response :=
  let (status, content) := v.page path
  ⟨status, content, readersOf headers⟩

/-! ## Where to listen -/

/-- Where a server listens, and how much it says about that. -/
structure Listening where
  host : String
  port : Int
  logLevel : String
  deriving DecidableEq, Repr

/-- Where settings have a server listen. -/
def listening (s : Settings) : Listening :=
  ⟨s.host, s.port, Text.lower s.logLevel⟩

end ScreenBridge.Server
