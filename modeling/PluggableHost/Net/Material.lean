import PluggableHost.Observability.Journal
import PluggableHost.Os.FileTree
import PluggableHost.Text.Quoted

namespace PluggableHost.Net

open PluggableHost.Observability PluggableHost.Os

/-!
# Key material

Keys and certificates are found by name. Where they come from is up to the
source: a set of named pieces in memory, or files in a list of directories, of
which the first that has the name is read.
-/

/-- Finds material by name. What it has to say about that it says in events. -/
structure MaterialSource where
  find : String → Recorded Failure Bytes
  onlyEvents : ∀ name, ∀ entry ∈ (find name).journal, entry.event?.isSome

/-- A source is asked for a piece of material by applying it to the name. -/
instance : CoeFun MaterialSource fun _ => String → Recorded Failure Bytes := ⟨MaterialSource.find⟩

/-- A source that holds its pieces in memory. -/
def MaterialSource.memory (pieces : List (String × Bytes)) : MaterialSource where
  find name :=
    match pieces.lookup name with
    | some content => pure content
    | none => .fail (.notFound ("'" ++ name ++ "' not found"))
  onlyEvents name := by
    cases pieces.lookup name <;> simp [Recorded.fail]

/-- A name inside a directory, as a path. -/
def joinPath (directory name : String) : String :=
  if directory.isEmpty || directory.endsWith "/" then directory ++ name
  else directory ++ "/" ++ name

/-- The first of several paths that leads to a file. -/
def firstFile? (tree : FileTree) (paths : List String) : Option String :=
  paths.find? tree.isFile

/-- Files in directories. An absolute name is read as it stands. -/
def MaterialSource.files (tree : FileTree) (directories : List String) : MaterialSource where
  find name :=
    if name.startsWith "/" then .ofExcept (tree.read name)
    else
      match firstFile? tree (directories.map fun directory => joinPath directory name) with
      | some path =>
          { outcome := tree.read path
            journal :=
              [.log .debug .material "Resolved key material"
                [("name", .text name), ("path", .text path)]] }
      | none =>
          .fail (.notFound
            ("'" ++ name ++ "' not found in " ++ Text.quotedList directories))
  onlyEvents name := by
    split
    · simp [Recorded.ofExcept]
    · split <;> simp [Recorded.fail, Entry.log, Entry.event?]

end PluggableHost.Net
