import PluggableHost.Http.Message

namespace PluggableHost.Http

/-!
# Routes

A router answers a request with the text of the route that matches its path and
method. Where several patterns match a path, fixed segments win over named
ones, and those over a rest of any length.
-/

/-- A part of the pattern of a route. -/
inductive Segment where
  | fixed (text : String)
  /-- Any one segment that is not empty. -/
  | named
  /-- All that is left, if it is not empty. -/
  | rest
  deriving Repr, DecidableEq

/-- A route to a text. -/
structure Route where
  method : String
  pattern : List Segment
  text : String
  deriving Repr, DecidableEq

/-- The part that a text between two slashes stands for. -/
def Segment.ofText (text : String) : Segment :=
  match text.toList with
  | '\x7b' :: '*' :: _ => if text.endsWith "\x7d" then rest else fixed text
  | '\x7b' :: _ => if text.endsWith "\x7d" then named else fixed text
  | _ => fixed text

/-- The segments of a path, the text before the first slash included. -/
def segmentsOf (path : String) : List String := path.splitOn "/"

/-- A route that answers a method and a pattern with a text. -/
def Route.ofText (method pattern text : String) : Route :=
  { method, pattern := (segmentsOf pattern).map Segment.ofText, text }

/-- How a segment ranks among those that match the same text. -/
def Segment.rank : Segment → Nat
  | fixed _ => 0
  | named => 1
  | rest => 2

/-- A pattern matches the segments of a path. -/
def isMatch : List Segment → List String → Bool
  | [], [] => true
  | .rest :: _, part :: others => part ≠ "" || !others.isEmpty
  | .fixed text :: pattern, part :: parts => text = part && isMatch pattern parts
  | .named :: pattern, part :: parts => part ≠ "" && isMatch pattern parts
  | _, _ => false

/-- The first of two patterns is preferred where both match. -/
def isPreferred : List Segment → List Segment → Bool
  | first :: firsts, second :: seconds =>
      if first.rank = second.rank then isPreferred firsts seconds
      else first.rank < second.rank
  | _, _ => true

/-- The most preferred of the matching patterns. -/
def bestPattern? (routes : List Route) (path : String) : Option (List Segment) :=
  let matching := (routes.map Route.pattern).filter fun pattern =>
    isMatch pattern (segmentsOf path)
  match matching with
  | [] => none
  | first :: others =>
      some (others.foldl (fun best pattern =>
        if isPreferred best pattern then best else pattern) first)

/-- The methods that a route answers, as the `allow` header lists them. -/
def allowed (method : String) : List String :=
  if method = "GET" then ["GET", "HEAD"] else [method]

/-- The route that answers a method; the route of `GET` answers `HEAD` when there is no other. -/
def routeFor? (routes : List Route) (method : String) : Option Route :=
  (routes.find? fun route => route.method = method).orElse fun _ =>
    if method = "HEAD" then routes.find? fun route => route.method = "GET" else none

/-- The length of a body as a header states it. -/
def bodyLength (body : String) : String := toString body.utf8ByteSize

/-- A response that is a text. -/
def textResponse (text : String) : Response :=
  { headers := { lines :=
      [("content-type", "text/plain; charset=utf-8"), ("content-length", bodyLength text)] }
    body := text }

/-- The response of the routes to a request. -/
def respond (routes : List Route) (request : Request) : Response :=
  match bestPattern? routes request.path with
  | none => { status := 404 }
  | some pattern =>
      let matching := routes.filter fun route => route.pattern = pattern
      match routeFor? matching request.method with
      | some route =>
          let response := textResponse route.text
          if request.method = "HEAD" then { response with body := "" } else response
      | none =>
          let methods := matching.flatMap fun route => allowed route.method
          { status := 405
            headers := { lines :=
              [("allow", String.intercalate "," methods), ("content-length", "0")] } }

/-- The routes of a host without an application. -/
def statusRoutes : List Route :=
  [.ofText "GET" "/" "OK", .ofText "GET" "/health" "healthy"]

end PluggableHost.Http
