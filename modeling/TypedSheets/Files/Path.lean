import TypedSheets.Text.Split

/-!
# Paths

A path is a text with slashes between its components. Empty components and single dots do not count,
but for a dot at the start: two paths are the `same` if they have equal components. The last
component, unless it is `..`, is a name, of which the last dot splits off the extension, provided
something stands before that dot.
-/

namespace TypedSheets

/-- A path, by its text. -/
structure Path where
  text : String
  deriving DecidableEq, Repr

namespace Path

/-- The texts between slashes. -/
def pieces (p : Path) : List String :=
  (Text.splitOn '/' p.text.toList).map String.ofList

/-- Whether a path starts at the root. -/
def isAbsolute (p : Path) : Bool :=
  p.text.toList.head? == some '/'

/-- The components of a path; that of an absolute path start with a slash. -/
def components (p : Path) : List String :=
  let named := p.pieces.filter fun piece => piece ≠ "" ∧ piece ≠ "."
  if p.isAbsolute then "/" :: named
  else if p.pieces.head? = some "." then "." :: named
  else named

/-- Whether two paths have the same components. -/
def same (p q : Path) : Bool :=
  p.components == q.components

/-- The path less its last component. -/
def parent (p : Path) : Path :=
  ⟨"/".intercalate p.components.dropLast⟩

/-- The last component, if it is a name. -/
def fileName? (p : Path) : Option String :=
  match p.components.getLast? with
  | some name => if name = ".." ∨ name = "." ∨ name = "/" then none else some name
  | none => none

/-- A name cut at its last dot. -/
def splitName (name : String) : String × Option String :=
  let backwards := name.toList.reverse
  let extension := backwards.takeWhile (· ≠ '.')
  match backwards.dropWhile (· ≠ '.') with
  | _ :: c :: stem =>
    (String.ofList (c :: stem).reverse, some (String.ofList extension.reverse))
  | _ => (name, none)

/-- The name of a path less its extension. -/
def stem? (p : Path) : Option String :=
  p.fileName?.map fun name => (splitName name).1

/-- The extension of a path, without the dot. -/
def extension? (p : Path) : Option String :=
  p.fileName?.bind fun name => (splitName name).2

/-- The path of a name inside a directory. -/
def join (dir : Path) (name : String) : Path :=
  if name.toList.head? = some '/' then ⟨name⟩
  else if dir.text = "" ∨ dir.text.toList.getLast? = some '/' then ⟨dir.text ++ name⟩
  else ⟨dir.text ++ "/" ++ name⟩

end Path

end TypedSheets
