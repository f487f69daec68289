import Mathlib.Data.List.Nodup
import PluggableHost.Toml.Reader

namespace PluggableHost.Toml

/-!
# A document names nothing twice

However keys and headers lead through tables, an item is entered only under a
name that is new there.  So the names of the fields of a document are distinct,
and the item under a name is the only one.
-/

namespace Fields

/-- The names of fields, in the order in which they were entered. -/
def names (fields : Fields) : List String :=
  fields.map fun entry => entry.1.name

/-- No name is entered twice. -/
def Distinct (fields : Fields) : Prop :=
  fields.names.Nodup

/-- The keys of an empty table are distinct. -/
theorem distinct_nil : Distinct [] :=
  List.nodup_nil

/-- Nothing is found under a name exactly when the name is not among the names. -/
theorem find?_eq_none_iff
    {fields : Fields}
    {name : String} :
    fields.find? name = none ↔ name ∉ fields.names := by
  simp only [find?, names, Option.map_eq_none_iff, List.find?_eq_none,
    List.mem_map, not_exists, not_and, decide_eq_true_eq]

/-- An entry is found under its name, as it is the only one. -/
theorem Distinct.find?_of_mem
    {fields : Fields}
    {entry : Key × Item}
    (distinct : fields.Distinct)
    (member : entry ∈ fields) :
    fields.find? entry.1.name = some entry.2 := by
  induction fields with
  | nil =>
      cases member
  | cons first rest inductionHypothesis =>
      obtain ⟨fresh, others⟩ := List.nodup_cons.mp distinct
      rcases List.mem_cons.mp member with rfl | inRest
      · simp [find?]
      · have apart : first.1.name ≠ entry.1.name := by
          intro same
          exact fresh (List.mem_map.mpr ⟨entry, inRest, same.symm⟩)
        have found := inductionHypothesis others inRest
        simpa [find?, apart] using found

/-- What is found under a name was entered under it. -/
theorem mem_of_find?
    {fields : Fields}
    {name : String}
    {item : Item}
    (found : fields.find? name = some item) :
    ∃ entry ∈ fields, entry.1.name = name ∧ entry.2 = item := by
  obtain ⟨entry, first, rfl⟩ := Option.map_eq_some_iff.mp found
  exact ⟨entry, List.mem_of_find?_eq_some first,
    by simpa using List.find?_some first, rfl⟩

/-- Fields stay distinct when a new name is entered. -/
theorem Distinct.concat
    {fields : Fields}
    {key : Key}
    (distinct : fields.Distinct)
    (item : Item)
    (fresh : fields.find? key.name = none) :
    Distinct (fields ++ [(key, item)]) := by
  unfold Distinct names
  rw [List.map_append]
  exact List.concat_eq_append ▸
    List.Nodup.concat (find?_eq_none_iff.mp fresh) distinct

/-- Fields stay distinct when the item under a name is replaced. -/
theorem Distinct.replace
    {fields : Fields}
    (distinct : fields.Distinct)
    (name : String)
    (item : Item) :
    Distinct (descend.replace name item fields) := by
  have same :
      names (descend.replace name item fields) = fields.names := by
    unfold names descend.replace
    rw [List.map_map]
    refine List.map_congr_left fun entry _ => ?_
    simp only [Function.comp_apply]
    split <;>
      rfl
  unfold Distinct
  rw [same]
  exact distinct

end Fields

open Fields

/-- A change of fields keeps their names distinct. -/
def KeepsDistinct
    {β : Type}
    (change : Origin → Fields → Option (Fields × β)) : Prop :=
  ∀ origin fields result,
    fields.Distinct → change origin fields = some result →
      Distinct result.1

/-- Whatever is changed inside, the names outside stay distinct. -/
theorem distinct_of_descend
    {β : Type}
    {through : Origin}
    {change : Origin → Fields → Option (Fields × β)}
    (keeps : KeepsDistinct change)
    {path : List Key}
    {origin : Origin}
    {fields : Fields}
    {result : Fields × β}
    (distinct : fields.Distinct)
    (reached : descend through change path origin fields = some result) :
    Distinct result.1 := by
  cases path with
  | nil =>
      exact keeps origin fields result distinct reached
  | cons key rest =>
      simp only [descend] at reached
      split at reached
      · next absent =>
          obtain ⟨inner, -, entered⟩ := Option.bind_eq_some_iff.mp reached
          cases entered
          exact distinct.concat _ absent
      · split at reached
        · cases reached
        · obtain ⟨inner, -, entered⟩ := Option.bind_eq_some_iff.mp reached
          cases entered
          exact distinct.replace _ _
      · split at reached
        · obtain ⟨inner, -, entered⟩ := Option.bind_eq_some_iff.mp reached
          cases entered
          exact distinct.replace _ _
        · cases reached
      · cases reached

/-- An item is entered under a new name only. -/
theorem distinct_of_enter
    {path : List Key}
    {key : Key}
    {item : Item}
    {origin : Origin}
    {fields entered : Fields}
    (distinct : fields.Distinct)
    (found : enter path key item origin fields = some entered) :
    entered.Distinct := by
  obtain ⟨result, reached, rfl⟩ := Option.map_eq_some_iff.mp found
  refine distinct_of_descend ?_ distinct reached
  intro reachedOrigin inner result innerDistinct changed
  dsimp only at changed
  split at changed
  · cases changed
  · split at changed
    · cases changed
    · next absent =>
        cases changed
        exact innerDistinct.concat item
          (Option.not_isSome_iff_eq_none.mp absent)

namespace Builder

/-- Nothing is named twice in a document that is being read, as far as it has come. -/
structure IsDistinct
    (builder : Builder) : Prop where
  root : builder.root.Distinct
  current : builder.current.path = [] → builder.current.fields.Distinct

variable {builder next : Builder}

/-- A new document has distinct keys. -/
theorem isDistinct_empty : IsDistinct {} where
  root := Fields.distinct_nil
  current := fun _ => Fields.distinct_nil

/-- The current table is put under a new name, or among those of its name. -/
theorem IsDistinct.close
    {fields : Fields}
    (distinct : builder.IsDistinct)
    (closed : builder.close? = some fields) :
    fields.Distinct := by
  unfold close? at closed
  dsimp only at closed
  split at closed
  · next noPath =>
      cases closed
      exact distinct.current (List.getLast?_eq_none_iff.mp noPath)
  · obtain ⟨result, reached, rfl⟩ := Option.map_eq_some_iff.mp closed
    refine distinct_of_descend ?_ distinct.root reached
    intro origin inner result innerDistinct changed
    dsimp only at changed
    split at changed
    · next absent _ =>
        cases changed
        exact innerDistinct.concat _ absent
    · cases changed
      exact innerDistinct.replace _ _
    · cases changed

/-- Entering an item keeps the keys distinct. -/
theorem IsDistinct.enter
    {path : List Key}
    {key : Key}
    {item : Item}
    (distinct : builder.IsDistinct)
    (entered : builder.enter? path key item = some next) :
    next.IsDistinct := by
  obtain ⟨fields, found, rest⟩ := Option.bind_eq_some_iff.mp entered
  cases rest
  exact
    { root := distinct.root
      current := fun atTop =>
        distinct_of_enter (distinct.current atTop) found }

/-- The table of a header is not the document itself. -/
theorem IsDistinct.openTable
    {path : List Key}
    {span : Span}
    (distinct : builder.IsDistinct)
    (opened : builder.openTable? path span = some next) :
    next.IsDistinct := by
  obtain ⟨root, closed, opened⟩ := Option.bind_eq_some_iff.mp opened
  obtain ⟨key, last, opened⟩ := Option.bind_eq_some_iff.mp opened
  obtain ⟨result, reached, opened⟩ := Option.bind_eq_some_iff.mp opened
  cases opened
  constructor
  · refine distinct_of_descend ?_ (distinct.close closed) reached
    intro origin inner result innerDistinct changed
    dsimp only at changed
    split at changed
    · cases changed
      exact innerDistinct
    · cases changed
      exact innerDistinct.sublist (List.filter_sublist.map _)
    · cases changed
  · intro atTop
    rw [show path = [] from atTop] at last
    cases last

/-- Opening a repeated table keeps the keys distinct. -/
theorem IsDistinct.openRepeated
    {path : List Key}
    {span : Span}
    (distinct : builder.IsDistinct)
    (opened : builder.openRepeated? path span = some next) :
    next.IsDistinct := by
  obtain ⟨root, closed, opened⟩ := Option.bind_eq_some_iff.mp opened
  obtain ⟨key, last, opened⟩ := Option.bind_eq_some_iff.mp opened
  obtain ⟨result, reached, opened⟩ := Option.bind_eq_some_iff.mp opened
  cases opened
  constructor
  · refine distinct_of_descend ?_ (distinct.close closed) reached
    intro origin inner result innerDistinct changed
    dsimp only at changed
    split at changed
    · next absent =>
        cases changed
        exact innerDistinct.concat _ absent
    · cases changed
      exact innerDistinct
    · cases changed
  · intro atTop
    rw [show path = [] from atTop] at last
    cases last

/-- A line names nothing twice. -/
theorem IsDistinct.line
    {text rest : List Char}
    (distinct : builder.IsDistinct)
    (found : readLine builder text = some (next, rest)) :
    next.IsDistinct := by
  unfold readLine at found
  split at found
  · obtain ⟨⟨keys, after⟩, -, found⟩ := Option.bind_eq_some_iff.mp found
    obtain ⟨later, -, found⟩ := Option.bind_eq_some_iff.mp found
    obtain ⟨opened, reached, found⟩ := Option.bind_eq_some_iff.mp found
    cases found
    exact distinct.openRepeated reached
  · obtain ⟨⟨keys, after⟩, -, found⟩ := Option.bind_eq_some_iff.mp found
    obtain ⟨opened, reached, found⟩ := Option.bind_eq_some_iff.mp found
    cases found
    exact distinct.openTable reached
  · cases found
    exact distinct
  · split at found
    · cases found
      exact distinct
    · obtain ⟨⟨⟨keys, item⟩, after⟩, -, found⟩ :=
        Option.bind_eq_some_iff.mp found
      obtain ⟨key, -, found⟩ := Option.bind_eq_some_iff.mp found
      obtain ⟨entered, reached, found⟩ :=
        Option.bind_eq_some_iff.mp found
      cases found
      exact distinct.enter reached

/-- Lines name nothing twice. -/
theorem IsDistinct.lines
    {fuel : Nat}
    {text : List Char}
    (distinct : builder.IsDistinct)
    (found : readLines builder text fuel = some next) :
    next.IsDistinct := by
  induction fuel generalizing builder text with
  | zero =>
      cases found
  | succ less inductionHypothesis =>
      obtain ⟨⟨reached, rest⟩, line, onwards⟩ :=
        Option.bind_eq_some_iff.mp found
      obtain ⟨ended, -, onwards⟩ := Option.bind_eq_some_iff.mp onwards
      split at onwards
      · cases onwards
        exact distinct.line line
      · exact inductionHypothesis (distinct.line line) onwards

end Builder

/-- A document names nothing twice. -/
theorem distinct_of_readDocument
    {text : String}
    {fields : Fields}
    (found : readDocument text = some fields) :
    fields.Distinct := by
  obtain ⟨builder, lines, closed⟩ := Option.bind_eq_some_iff.mp found
  exact (Builder.isDistinct_empty.lines lines).close closed

end PluggableHost.Toml
