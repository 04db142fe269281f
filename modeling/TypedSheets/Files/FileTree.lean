import TypedSheets.Files.Path

/-!
# File trees

A `FileTree` is what is known of the files around a working directory: files and directories by
their location. Names lead to each location, and no two entries have the same. A path is resolved to
a location step by step (`resolve`), each step starting from a directory. `read`, `write`, `remove`
and `files` are the operations on files that the library uses, and `FileFault` is why one of them
fails. `node?_put` and `node?_erase` say what writing and removing change.
-/

namespace TypedSheets

/-- Why an operation on a file fails. -/
inductive FileFault
  | notFound
  | notDirectory
  | isDirectory
  | notText
  | badName
  /-- What the system that keeps the files says. -/
  | host (text : String)
  deriving DecidableEq, Repr

/-- The fault in words. -/
def FileFault.message : FileFault → String
  | .notFound => "No such file or directory (os error 2)"
  | .notDirectory => "Not a directory (os error 20)"
  | .isDirectory => "Is a directory (os error 21)"
  | .notText => "stream did not contain valid UTF-8"
  | .badName => "File name too long (os error 36)"
  | .host text => text

/-- What a file holds: a text, or bytes that encode none. -/
inductive Content
  | text (s : String)
  | bytes (b : List UInt8)
  deriving DecidableEq, Repr

/-- The text, or the fault that there is none. -/
def Content.asText : Content → Except FileFault String
  | .text s => .ok s
  | .bytes _ => .error .notText

/-- What stands at a location. -/
inductive FileNode
  | file (content : Content)
  | directory
  deriving DecidableEq, Repr

/-- A text that names a file or directory: as a piece of a path it leads one step down. -/
structure IsName (name : String) : Prop where
  no_slash : '/' ∉ name.toList
  ne_empty : name ≠ ""
  ne_here : name ≠ "."
  ne_up : name ≠ ".."

instance (name : String) : Decidable (IsName name) :=
  decidable_of_iff ('/' ∉ name.toList ∧ name ≠ "" ∧ name ≠ "." ∧ name ≠ "..")
    ⟨fun ⟨hslash, hempty, hhere, hup⟩ => ⟨hslash, hempty, hhere, hup⟩,
      fun h => ⟨h.no_slash, h.ne_empty, h.ne_here, h.ne_up⟩⟩

/-- Where a file or directory stands: the names that lead to it from the working directory down,
from a directory so many `..` above that one, or from the root `/`. -/
abbrev FileLocation := List String

namespace FileLocation

/-- The names that lead down to the location. -/
def names (l : FileLocation) : List String :=
  if l.head? = some "/" then l.tail else l.dropWhile (· == "..")

/-- Whether the location is the root, the working directory or one above it. These are always
there. -/
def isGiven (l : FileLocation) : Bool :=
  l.names.isEmpty

/-- A location at which something can be put: names lead down to it. -/
structure IsPlaced (l : FileLocation) : Prop where
  ne_nil : l.names ≠ []
  isName : ∀ name ∈ l.names, IsName name

instance (l : FileLocation) : Decidable l.IsPlaced :=
  decidable_of_iff (l.names ≠ [] ∧ ∀ name ∈ l.names, IsName name)
    ⟨fun ⟨hne, hname⟩ => ⟨hne, hname⟩, fun h => ⟨h.ne_nil, h.isName⟩⟩

theorem IsPlaced.isGiven_eq_false {l : FileLocation} (h : l.IsPlaced) : l.isGiven = false := by
  simpa [isGiven] using h.ne_nil

/-- The location of the directory that holds `l`. The root holds itself. -/
def parent (l : FileLocation) : FileLocation :=
  if l = ["/"] then l else if l.isGiven then l ++ [".."] else l.dropLast

/-- Whether a name is longer than names may be, 255 bytes. -/
def isBadName (name : String) : Bool :=
  255 < name.utf8ByteSize

/-- One step from a directory: nowhere, up, or down to a name. -/
def step (l : FileLocation) (name : String) : Except FileFault FileLocation :=
  if name = "" ∨ name = "." then .ok l
  else if name = ".." then .ok l.parent
  else if isBadName name then .error .badName
  else .ok (l ++ [name])

end FileLocation

/-- Files and directories by their locations, each at one of its own. -/
structure FileTree where
  entries : List (FileLocation × FileNode) := []
  distinct : (entries.map (·.1)).Nodup := by simp
  placed : ∀ entry ∈ entries, entry.1.IsPlaced := by simp
  deriving Repr

namespace FileTree

/-- What stands at a location. -/
def node? (t : FileTree) (l : FileLocation) : Option FileNode :=
  if l.isGiven then some .directory else (t.entries.find? (·.1 == l)).map (·.2)

/-- The entries for which something holds. -/
def filter (t : FileTree) (p : FileLocation × FileNode → Bool) : FileTree where
  entries := t.entries.filter p
  distinct := t.distinct.sublist (List.filter_sublist.map _)
  placed entry h := t.placed entry (List.mem_filter.mp h).1

/-- Takes away what stands at a location. -/
def erase (t : FileTree) (l : FileLocation) : FileTree :=
  t.filter (·.1 != l)

/-- Puts something at a location in place of what stood there. No name leads to other locations, so
that nothing is put there. -/
def put (t : FileTree) (l : FileLocation) (n : FileNode) : FileTree :=
  if h : l.IsPlaced then
    { entries := (l, n) :: (t.erase l).entries
      distinct := by
        rw [List.map_cons, List.nodup_cons]
        exact ⟨by simp [erase, filter], (t.erase l).distinct⟩
      placed := List.forall_mem_cons.mpr ⟨h, (t.erase l).placed⟩ }
  else t

theorem entries_put (t : FileTree) {l : FileLocation} (n : FileNode) (hl : l.IsPlaced) :
    (t.put l n).entries = (l, n) :: t.entries.filter (·.1 != l) := by
  rw [put, dif_pos hl]
  rfl

theorem find?_filter_ne (entries : List (FileLocation × FileNode)) (l k : FileLocation) :
    (entries.filter (·.1 != l)).find? (·.1 == k) =
      if k = l then none else entries.find? (·.1 == k) := by
  by_cases h : k = l
  · subst h; simp
  · rw [List.find?_filter, if_neg h]
    congr 1
    funext x
    by_cases hx : x.1 = k
    · simp [hx, h]
    · simp [hx]

theorem node?_put (t : FileTree) {l : FileLocation} (n : FileNode) (hl : l.IsPlaced)
    (k : FileLocation) : (t.put l n).node? k = if k = l then some n else t.node? k := by
  unfold node?
  rw [entries_put t n hl]
  by_cases h : k = l
  · subst h; simp [hl.isGiven_eq_false]
  · have hne : (l == k) = false := by simp [Ne.symm h]
    simp only [List.find?_cons, hne, find?_filter_ne, if_neg h]

theorem node?_erase (t : FileTree) {l : FileLocation} (hl : l.isGiven = false) (k : FileLocation) :
    (t.erase l).node? k = if k = l then none else t.node? k := by
  unfold node? erase filter
  rw [find?_filter_ne]
  by_cases h : k = l
  · subst h; simp [hl]
  · simp [h]

/-- Walks along names from a location. Every step has to start from a directory; the last one may
end at nothing. -/
def walk (t : FileTree) (l : FileLocation) : List String → Except FileFault FileLocation
  | [] => .ok l
  | name :: rest =>
    match t.node? l with
    | none => .error .notFound
    | some (.file _) => .error .notDirectory
    | some .directory =>
      match l.step name with
      | .error e => .error e
      | .ok next => t.walk next rest

/-- Whether a path is longer than paths may be, 4095 bytes, or has a null character. -/
def isBadPath (p : Path) : Bool :=
  4095 < p.text.utf8ByteSize || p.text.toList.any (· == '\x00')

/-- Where the steps of a path start. -/
def start (p : Path) : FileLocation :=
  if p.isAbsolute then ["/"] else []

/-- The location that a path leads to. -/
def resolve (t : FileTree) (p : Path) : Except FileFault FileLocation :=
  if p.text = "" then .error .notFound
  else if isBadPath p then .error .badName
  else t.walk (start p) p.pieces

/-- What a path leads to. -/
def lookup (t : FileTree) (p : Path) : Except FileFault (FileLocation × FileNode) :=
  match t.resolve p with
  | .error e => .error e
  | .ok l =>
    match t.node? l with
    | none => .error .notFound
    | some n => .ok (l, n)

/-- Whether a path leads to a file. -/
def isFile (t : FileTree) (p : Path) : Bool :=
  match t.lookup p with
  | .ok (_, .file _) => true
  | _ => false

/-- Whether a path leads to a directory. -/
def isDirectory (t : FileTree) (p : Path) : Bool :=
  match t.lookup p with
  | .ok (_, .directory) => true
  | _ => false

/-- What a file holds. -/
def readContent (t : FileTree) (p : Path) : Except FileFault Content :=
  match t.lookup p with
  | .error e => .error e
  | .ok (_, .file content) => .ok content
  | .ok (_, .directory) => .error .isDirectory

/-- The text of a file. -/
def read (t : FileTree) (p : Path) : Except FileFault String :=
  (t.readContent p).bind Content.asText

/-- Writes a file, new or in place of an old one. -/
def writeContent (t : FileTree) (p : Path) (content : Content) : Except FileFault FileTree :=
  match t.resolve p with
  | .error e => .error e
  | .ok l =>
    match t.node? l with
    | some .directory => .error .isDirectory
    | _ => .ok (t.put l (.file content))

/-- Writes a text to a file, new or in place of an old one. -/
def write (t : FileTree) (p : Path) (text : String) : Except FileFault FileTree :=
  t.writeContent p (.text text)

/-- Removes a file. -/
def remove (t : FileTree) (p : Path) : Except FileFault FileTree :=
  match t.lookup p with
  | .error e => .error e
  | .ok (_, .directory) => .error .isDirectory
  | .ok (l, .file _) => .ok (t.erase l)

/-- The name of a file in the directory `dir`, for an entry that is one. -/
def nameIn? (dir : FileLocation) (entry : FileLocation × FileNode) : Option String :=
  match entry.2 with
  | .directory => none
  | .file _ =>
    match entry.1.getLast? with
    | some name => if entry.1.dropLast = dir then some name else none
    | none => none

/-- The names of the files in a directory. -/
def files (t : FileTree) (p : Path) : Except FileFault (List String) :=
  match t.lookup p with
  | .error e => .error e
  | .ok (_, .file _) => .error .notDirectory
  | .ok (l, .directory) => .ok (t.entries.filterMap (nameIn? l))

/-! ## Setting trees up -/

/-- The tree with the given entries. -/
def ofEntries (entries : List (FileLocation × FileNode)) : FileTree :=
  entries.foldr (fun entry t => t.put entry.1 entry.2) {}

/-- Makes directories along names from a location, where there is nothing yet, up to a file or a
name that is bad. A directory that only dots follow has to be there. -/
def makeDirectoriesFrom (t : FileTree) (l : FileLocation) : List String → FileTree
  | [] => t
  | name :: rest =>
    match l.step name with
    | .error _ => t
    | .ok next =>
      match t.node? next with
      | some .directory => t.makeDirectoriesFrom next rest
      | some (.file _) => t
      | none =>
        if "." ∈ rest ∧ rest.all (fun piece => piece == "." || piece == "") then t
        else (t.put next .directory).makeDirectoriesFrom next rest

/-- Makes the directory that a path leads to, and those on the way. -/
def makeDirectories (t : FileTree) (p : Path) : FileTree :=
  if isBadPath p then t else t.makeDirectoriesFrom (start p) p.pieces

/-- Puts a file at a path, and makes the directories on the way. -/
def place (t : FileTree) (p : Path) (content : Content) : FileTree :=
  let t := t.makeDirectories p.parent
  (t.writeContent p content).toOption.getD t

/-- The files below the working directory, each with its names. -/
def ownFiles (t : FileTree) : List (FileLocation × Content) :=
  t.entries.filterMap fun (l, n) =>
    match n with
    | .directory => none
    | .file content =>
      if l.head? = some ".." ∨ l.head? = some "/" then none else some (l, content)

/-- Takes away what a path leads to with everything below it. -/
def removeTree (t : FileTree) (p : Path) : FileTree :=
  match t.resolve p with
  | .error _ => t
  | .ok l => t.filter fun entry => !l.isPrefixOf entry.1

end FileTree

end TypedSheets
