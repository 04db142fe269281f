import TypedSheets.Files.FileTree

/-!
# Keeping files

`FileStore m` are the operations on files that a program in the monad `m` may use. A `FileTree` as
state is one store, the one that statements are about; the files of the machine are another.
-/

namespace TypedSheets

/-- The operations on files that a program may use. -/
class FileStore (m : Type → Type) where
  /-- What a file holds. -/
  readContent : Path → m (Except FileFault Content)
  /-- Whether a path leads to a file. -/
  isFile : Path → m Bool
  /-- Whether a path leads to a directory. -/
  isDirectory : Path → m Bool
  /-- The names of the files in a directory, in any order. -/
  files : Path → m (Except FileFault (List String))
  /-- Writes a file, new or in place of an old one. -/
  write : Path → String → m (Except FileFault Unit)
  /-- Removes a file. -/
  remove : Path → m (Except FileFault Unit)

/-- The text of a file. -/
def FileStore.read {m : Type → Type} [Monad m] [FileStore m] (p : Path) :
    m (Except FileFault String) := do
  return (← FileStore.readContent p).bind Content.asText

/-- An operation that changes a tree unless it fails. -/
def FileTree.update (f : FileTree → Except FileFault FileTree) :
    StateM FileTree (Except FileFault Unit) :=
  fun t => match f t with
    | .ok t' => (.ok (), t')
    | .error e => (.error e, t)

instance : FileStore (StateM FileTree) where
  readContent p := fun t => (t.readContent p, t)
  isFile p := fun t => (t.isFile p, t)
  isDirectory p := fun t => (t.isDirectory p, t)
  files p := fun t => (t.files p, t)
  write p text := FileTree.update fun t => t.write p text
  remove p := FileTree.update fun t => t.remove p

end TypedSheets
