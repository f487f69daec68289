import PluggableHost.Http.Message
import PluggableHost.Text.Digits
import PluggableHost.Text.Lossy

namespace PluggableHost.Http

open PluggableHost.Os PluggableHost.Text

/-!
# Messages on the wire

A request is a head of lines and a body that is as long as the head states. The
head ends with the first empty line, so bytes that arrive later never change
what the head says. A response is written in the same form. A connection
carries one request and its response.
-/

/-- The bytes that end a line. -/
def lineEnd : Bytes := [13, 10]

/-- What the bytes that have arrived so far are. -/
inductive Arrival where
  | incomplete
  | malformed
  | complete (request : Request)
  deriving Repr, DecidableEq

/-- The bytes before the first empty line and those after it. -/
def splitHead? : Bytes → Option (Bytes × Bytes)
  | 13 :: 10 :: 13 :: 10 :: body => some ([], body)
  | [] => none
  | byte :: rest => (splitHead? rest).map fun (head, body) => (byte :: head, body)

/-- A character that may stand around the value of a header. -/
def isPadding (character : Char) : Bool := character = ' ' || character = '\t'

/-- A text without the padding at its two ends. -/
def withoutPadding (text : List Char) : List Char :=
  ((text.dropWhile isPadding).reverse.dropWhile isPadding).reverse

/-- The name and the value of a header line. -/
def headerLine? (line : String) : Option (String × String) :=
  let isName := fun character => character ≠ ':'
  match line.toList.takeWhile isName, line.toList.dropWhile isName with
  | name, _ :: value =>
      if name.isEmpty || name.any isPadding then none
      else some (String.ofList name, String.ofList (withoutPadding value))
  | _, [] => none

/-- The length of the body as headers state it; without a statement there is no body. -/
def statedLength? (headers : Headers) : Option Nat :=
  match headers.values "content-length" with
  | [] => some 0
  | [value] =>
      if value.isEmpty || !value.toList.all (isDigitOf 10) then none
      else some (digitsValue 10 value.toList)
  | _ => none

/-- A request without a body from the lines of its head. -/
def requestOfHead? (head : String) : Option Request :=
  match head.splitOn "\r\n" with
  | first :: lines =>
      match first.splitOn " ", lines.mapM headerLine? with
      | [method, target, version], some fields =>
          if method.isEmpty || target.isEmpty || !version.startsWith "HTTP/1." then none
          else some { method, target, headers := .ofList fields }
      | _, _ => none
  | [] => none

/-- What the bytes that have arrived amount to. -/
def Arrival.ofBytes (bytes : Bytes) : Arrival :=
  match splitHead? bytes with
  | none => .incomplete
  | some (head, rest) =>
      match requestOfHead? (lossy head) with
      | none => .malformed
      | some request =>
          match statedLength? request.headers with
          | none => .malformed
          | some length =>
              if rest.length < length then .incomplete
              else .complete { request with body := lossy (rest.take length) }

/-- The phrase that goes with a status. -/
def statusPhrase : Nat → String
  | 200 => "OK"
  | 400 => "Bad Request"
  | 404 => "Not Found"
  | 405 => "Method Not Allowed"
  | _ => ""

/-- The response to what is no request. -/
def malformedResponse : Response :=
  { status := 400, headers := { lines := [("content-length", "0")] } }

/-- The head of a response that ends its connection. -/
def Response.headText (response : Response) : String :=
  let fields := (response.headers.set "connection" "close").lines
  let lines := ("HTTP/1.1 " ++ toString response.status ++ " " ++ statusPhrase response.status) ::
    fields.map fun (name, value) => name ++ ": " ++ value
  String.join (lines.map fun line => line ++ "\r\n")

/-- A response as it is sent. -/
def Response.bytes (response : Response) : Bytes :=
  Bytes.ofText response.headText ++ lineEnd ++ Bytes.ofText response.body

end PluggableHost.Http
