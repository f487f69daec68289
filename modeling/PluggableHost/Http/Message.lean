namespace PluggableHost.Http

/-!
# Requests and responses

Messages as the chain sees them: headers in order, a name possibly several
times and always in lower case, and a body that is complete.
-/

/-- Header lines in order. -/
structure Headers where
  lines : List (String × String) := []
  deriving Repr, DecidableEq

namespace Headers

/-- The values of the lines of a name, in their order. -/
def values (headers : Headers) (name : String) : List String :=
  (headers.lines.filter fun line => line.1 = name).map Prod.snd

/-- The value of the first line of a name. -/
def first? (headers : Headers) (name : String) : Option String :=
  (headers.values name).head?

/-- Some line has the name. -/
def has (headers : Headers) (name : String) : Bool :=
  headers.lines.any fun line => line.1 = name

/-- The headers with one more line. -/
def append (headers : Headers) (name value : String) : Headers :=
  { lines := headers.lines ++ [(name, value)] }

/-- The headers without the lines of a name. -/
def erase (headers : Headers) (name : String) : Headers :=
  { lines := headers.lines.filter fun line => line.1 ≠ name }

/-- One value of a name, in place of all that it had. -/
def set (headers : Headers) (name value : String) : Headers :=
  (headers.erase name).append name value

/-- Headers from lines whose names may be in any case. -/
def ofList (lines : List (String × String)) : Headers :=
  { lines := lines.map fun (name, value) => (name.toLower, value) }

/-- The lines by name, the values of a name in their order. -/
def sorted (headers : Headers) : List (String × String) :=
  headers.lines.mergeSort fun left right => left.1 ≤ right.1

/-- No line of an erased name is left. -/
@[simp] theorem values_erase_self (headers : Headers) (name : String) :
    (headers.erase name).values name = [] := by
  simp [values, erase]

/-- Erasing a name leaves the lines of others alone. -/
theorem values_erase_of_ne (headers : Headers) {name other : String}
    (different : other ≠ name) : (headers.erase name).values other = headers.values other := by
  simp only [values, erase, List.filter_filter]
  congr 1
  apply List.filter_congr
  intro line _
  by_cases same : line.1 = other <;> simp [same, different]

/-- A line that is appended comes last among those of its name. -/
@[simp] theorem values_append_self (headers : Headers) (name value : String) :
    (headers.append name value).values name = headers.values name ++ [value] := by
  simp [values, append]

/-- Appending a line leaves those of other names alone. -/
theorem values_append_of_ne (headers : Headers) {name other : String} (value : String)
    (different : other ≠ name) :
    (headers.append name value).values other = headers.values other := by
  simp [values, append, different.symm]

/-- A name that is set has one line. -/
@[simp] theorem values_set_self (headers : Headers) (name value : String) :
    (headers.set name value).values name = [value] := by
  simp [set]

/-- Setting a name leaves the lines of others alone. -/
theorem values_set_of_ne (headers : Headers) {name other : String} (value : String)
    (different : other ≠ name) : (headers.set name value).values other = headers.values other := by
  simp [set, values_append_of_ne _ _ different, values_erase_of_ne _ different]

/-- Headers lack a name if it has no values. -/
theorem has_eq_false_iff {headers : Headers} {name : String} :
    headers.has name = false ↔ headers.values name = [] := by
  simp [has, values]

end Headers

/-- A request: the target as it was sent, and the headers and the body. -/
structure Request where
  method : String := "GET"
  target : String := "/"
  headers : Headers := {}
  body : String := ""
  deriving Repr, DecidableEq

/--
The path part of a target that is a path, a path with a query, or an absolute URL.

The path of a URL follows its scheme, a colon, two slashes and the authority.
-/
def pathOfTarget (target : List Char) : List Char :=
  let beforeQuery := target.takeWhile fun character => character ≠ '?' && character ≠ '#'
  match beforeQuery with
  | '/' :: _ => beforeQuery
  | ['*'] => beforeQuery
  | _ =>
      match beforeQuery.dropWhile fun character => character ≠ ':' with
      | ':' :: '/' :: '/' :: rest =>
          match rest.dropWhile fun character => character ≠ '/' with
          | [] => ['/']
          | path => path
      | _ => []

/-- The path in the target of a request. -/
def Request.path (request : Request) : String :=
  String.ofList (pathOfTarget request.target.toList)

/-- A response as a handler makes it. -/
structure Response where
  status : Nat := 200
  headers : Headers := {}
  body : String := ""
  deriving Repr, DecidableEq

end PluggableHost.Http
