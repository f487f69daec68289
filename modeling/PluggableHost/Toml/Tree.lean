import PluggableHost.Toml.Item

namespace PluggableHost.Toml

/-!
# Building the tree of tables

Keys with dots and headers lead through tables, and make those that are
missing. A table may be opened once by a header, and tables that keys with dots
made are closed to headers of the same name; nothing is entered twice.
-/

/-- Change the fields that a path leads to, and tell what the change found there. -/
def descend {β : Type} (through : Origin) (change : Origin → Fields → Option (Fields × β)) :
    List Key → Origin → Fields → Option (Fields × β)
  | [], origin, fields => change origin fields
  | key :: path, _, fields =>
      match fields.find? key.name with
      | none => do
          let (inner, found) ← descend through change path through []
          some (fields ++ [(key, .table through none inner)], found)
      | some (.table origin span inner) => do
          if origin = .inline || (through = .dotted && origin = .headed) then none
          let (inner, found) ← descend through change path origin inner
          some (replace key.name (.table origin span inner) fields, found)
      | some (.tables elements) =>
          match elements.getLast? with
          | some (.table origin span inner) => do
              let (inner, found) ← descend through change path origin inner
              some (replace key.name
                (.tables (elements.dropLast ++ [.table origin span inner])) fields, found)
          | _ => none
      | some _ => none
where
  /-- The fields with another item under a name. -/
  replace (name : String) (item : Item) (fields : Fields) : Fields :=
    fields.map fun entry => if entry.1.name = name then (entry.1, item) else entry

/-- Enter an item under a key with dots. -/
def enter (path : List Key) (key : Key) (item : Item) (origin : Origin) (fields : Fields) :
    Option Fields :=
  let change (reached : Origin) (fields : Fields) : Option (Fields × Unit) :=
    if (reached = .dotted) = path.isEmpty then none
    else if (fields.find? key.name).isSome then none
    else some (fields ++ [(key, item)], ())
  (descend .dotted change path origin fields).map Prod.fst

/-- The table that lines are entered into, and where it belongs. -/
structure Current where
  path : List Key := []
  /-- One more table under a repeated header. -/
  repeated : Bool := false
  span : Option Span := none
  fields : Fields := []

/-- A document while it is read. -/
structure Builder where
  root : Fields := []
  current : Current := {}

namespace Builder

/-- Put the current table where it belongs. -/
def close? (builder : Builder) : Option Fields :=
  let current := builder.current
  match current.path.getLast? with
  | none => some current.fields
  | some key =>
      let table := Item.table .headed current.span current.fields
      let change (_ : Origin) (fields : Fields) : Option (Fields × Unit) :=
        match fields.find? key.name, current.repeated with
        | none, false => some (fields ++ [(key, table)], ())
        | some (.tables elements), true =>
            some (descend.replace key.name (.tables (elements ++ [table])) fields, ())
        | _, _ => none
      (descend .implied change current.path.dropLast .headed builder.root).map Prod.fst

/-- Enter an item into the current table. -/
def enter? (builder : Builder) (path : List Key) (key : Key) (item : Item) : Option Builder := do
  let current := builder.current
  let fields ← enter path key item .headed current.fields
  let span :=
    match current.span, item.span? with
    | some whole, some last => some (whole.through last)
    | span, _ => span
  some { builder with current := { current with fields, span } }

/-- Open the table of a header. One that was only implied so far is moved to the end. -/
def openTable? (builder : Builder) (path : List Key) (span : Span) : Option Builder := do
  let root ← builder.close?
  let key ← path.getLast?
  let change (_ : Origin) (fields : Fields) : Option (Fields × Fields) :=
    match fields.find? key.name with
    | none => some (fields, [])
    | some (.table .implied _ inner) =>
        some (fields.filter fun entry => entry.1.name ≠ key.name, inner)
    | some _ => none
  let (root, fields) ← descend .implied change path.dropLast .headed root
  some { root, current := { path, span := some span, fields } }

/-- Open one more table of a repeated header. -/
def openRepeated? (builder : Builder) (path : List Key) (span : Span) : Option Builder := do
  let root ← builder.close?
  let key ← path.getLast?
  let change (_ : Origin) (fields : Fields) : Option (Fields × Unit) :=
    match fields.find? key.name with
    | none => some (fields ++ [(key, .tables [])], ())
    | some (.tables _) => some (fields, ())
    | some _ => none
  let (root, _) ← descend .implied change path.dropLast .headed root
  some { root, current := { path, repeated := true, span := some span } }

end Builder

end PluggableHost.Toml
