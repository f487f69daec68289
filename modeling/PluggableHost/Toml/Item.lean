import PluggableHost.Decimal.Binary

namespace PluggableHost.Toml

/-!
# Documents as data

A document is a table: named items in the order in which they were entered.
Every item remembers where it was written, so that a reader of its values can
point there. Places are counted from the end of the document.
-/

/-- A stretch of a document: how many characters are left at its start and after its end. -/
structure Span where
  fromStart : Nat
  afterEnd : Nat
  deriving Repr, DecidableEq

/-- The stretch from the start of one to the end of another. -/
def Span.through (first last : Span) : Span := ⟨first.fromStart, last.afterEnd⟩

/-- A key and where it was written first. -/
structure Key where
  name : String
  span : Span
  deriving Repr, DecidableEq

/-- How a table came to be. -/
inductive Origin where
  /-- A header of its own. -/
  | headed
  /-- The header of a table inside it. -/
  | implied
  /-- A key with dots. -/
  | dotted
  /-- Braces. -/
  | inline
  deriving Repr, DecidableEq

/-- A value, a table, or an array of tables. -/
inductive Item where
  | text (span : Span) (value : String)
  | integer (span : Span) (value : Int)
  | float (span : Span) (value : Decimal.Binary)
  | boolean (span : Span) (value : Bool)
  /-- A date, a time, or both. -/
  | moment (span : Span)
  | array (span : Span) (items : List Item)
  | table (origin : Origin) (span : Option Span) (entries : List (Key × Item))
  /-- Tables under one repeated header. -/
  | tables (elements : List Item)

/-- Named items in the order in which they were entered. -/
abbrev Fields := List (Key × Item)

namespace Item

/-- Where an item was written; a table without a header is nowhere. -/
def span? : Item → Option Span
  | text span _ => some span
  | integer span _ => some span
  | float span _ => some span
  | boolean span _ => some span
  | moment span => some span
  | array span _ => some span
  | table _ span _ => span
  | tables elements =>
      match elements.filterMap span? with
      | [] => none
      | first :: others => some (first.through (others.getLastD first))

end Item

/-- The item of a name. -/
def Fields.find? (fields : Fields) (name : String) : Option Item :=
  (List.find? (fun entry => entry.1.name = name) fields).map Prod.snd

end PluggableHost.Toml
