import PluggableHost.Http.Router
import PluggableHost.Plugin.Chain

namespace PluggableHost.Plugin

open PluggableHost.Http

/-!
# Stock plugins

Small handlers and middleware that leave a trail of what they do, and the
provider of the status routes.
-/

/-- What plugins did with requests, and how many slow handlers are at work. -/
structure Trail where
  events : List String := []
  active : Nat := 0
  deriving Repr, DecidableEq

/-- Leave one mark on the trail. -/
def mark (event : String) : Activity Trail Unit :=
  .change fun trail => { trail with events := trail.events ++ [event] }

/-- The handlers that the program itself brings. -/
inductive StockHandler where
  /-- Always the same response. -/
  | fixed (response : Response)
  /-- The request as text. -/
  | echo
  /-- Give way so many times, then answer the path. -/
  | slow (pauses : Nat)
  /-- Sleep, then answer. -/
  | hang (milliseconds : Nat)
  | routes (table : List Route)
  deriving Repr, DecidableEq

/-- A request as a text. -/
def echoed (request : Request) : String :=
  request.method ++ " " ++ request.target ++ "\n" ++
    String.join (request.headers.sorted.map fun (name, value) =>
      name ++ ": " ++ value ++ "\n") ++
    "\n" ++ request.body

/-- What a stock handler does. -/
def StockHandler.handler : StockHandler → Handler Trail
  | fixed response => fun _ => do
      mark "root"
      return response
  | echo => fun request => do
      mark "root"
      return { body := echoed request }
  | slow pauses => fun request => do
      let trail ← Activity.changeAndGet fun trail : Trail =>
        { trail with active := trail.active + 1 }
      mark ("start:" ++ request.path ++ ":" ++ toString trail.active)
      Activity.pauses pauses
      Activity.change fun trail : Trail => { trail with active := trail.active - 1 }
      mark ("end:" ++ request.path)
      return { body := request.path }
  | hang milliseconds => fun _ => do
      mark "hang"
      Activity.sleep milliseconds (pure ())
      return { body := "late" }
  | routes table => fun request => return respond table request

/-- The provider that answers how the program is. -/
def statusProvider : Provider Trail :=
  { name := "status", quiet := true, handler := some (StockHandler.routes statusRoutes).handler }

/-- The middleware that the program itself brings. -/
inductive StockMiddleware where
  /-- Only leave marks. -/
  | trace
  /-- Answer without asking further. -/
  | short (response : Response)
  /-- Answer without asking further when the path starts with a text. -/
  | guard (start : String) (response : Response)
  /-- Add a header to the request. -/
  | requestHeader
  /-- Add the name to a header of the response. -/
  | tag
  deriving Repr, DecidableEq

/-- The answer that a middleware gives by itself. -/
def StockMiddleware.answer? (request : Request) : StockMiddleware → Option Response
  | short response => some response
  | guard start response => if request.path.startsWith start then some response else none
  | _ => none

/-- The request that a middleware passes on. -/
def StockMiddleware.passedOn (name : String) (request : Request) : StockMiddleware → Request
  | requestHeader => { request with headers := request.headers.append "x-via" name }
  | _ => request

/-- The response that a middleware passes back. -/
def StockMiddleware.passedBack (name : String) (response : Response) : StockMiddleware → Response
  | tag =>
      let trail :=
        match response.headers.first? "x-trail" with
        | some earlier => earlier ++ "," ++ name
        | none => name
      { response with headers := response.headers.set "x-trail" trail }
  | _ => response

/-- A middleware of a kind around a handler. -/
def StockMiddleware.wrap (name : String) (kind : StockMiddleware) (next : Handler Trail) :
    Handler Trail := fun request => do
  mark (name ++ ":pre")
  match kind.answer? request with
  | some response => return response
  | none => do
      let response ← next (kind.passedOn name request)
      mark (name ++ ":post")
      return kind.passedBack name response

end PluggableHost.Plugin
