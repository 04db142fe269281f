import TypedSheets.Files.FileStore

/-!
# Running programs on a tree

What the operations of a `FileStore` do when a `FileTree` is the store. A program is run on a tree
by rewriting with `run_bind` and these.
-/

namespace TypedSheets

/-- A program on a tree runs its first part, and the rest on what that leaves. -/
theorem run_bind {σ α β : Type} (x : StateM σ α) (f : α → StateM σ β) (t : σ) :
    (x >>= f) t = f (x t).1 (x t).2 :=
  rfl

theorem FileTree.update_of_ok {f : FileTree → Except FileFault FileTree} {t t' : FileTree}
    (h : f t = .ok t') : FileTree.update f t = (.ok (), t') := by
  simp only [update, h]

theorem FileTree.update_of_error {f : FileTree → Except FileFault FileTree} {t : FileTree}
    {fault : FileFault} (h : f t = .error fault) : FileTree.update f t = (.error fault, t) := by
  simp only [update, h]

namespace FileStore

variable {t t' : FileTree} {p : Path} {text : String} {fault : FileFault}

theorem readContent_run (p : Path) (t : FileTree) :
    (FileStore.readContent p : StateM FileTree _) t = (t.readContent p, t) :=
  rfl

theorem read_run (p : Path) (t : FileTree) :
    (FileStore.read p : StateM FileTree _) t = (t.read p, t) :=
  rfl

theorem isDirectory_run (p : Path) (t : FileTree) :
    (FileStore.isDirectory p : StateM FileTree _) t = (t.isDirectory p, t) :=
  rfl

theorem files_run (p : Path) (t : FileTree) :
    (FileStore.files p : StateM FileTree _) t = (t.files p, t) :=
  rfl

theorem write_of_ok (h : t.write p text = .ok t') :
    (FileStore.write p text : StateM FileTree _) t = (.ok (), t') :=
  FileTree.update_of_ok h

theorem write_of_error (h : t.write p text = .error fault) :
    (FileStore.write p text : StateM FileTree _) t = (.error fault, t) :=
  FileTree.update_of_error h

theorem remove_of_ok (h : t.remove p = .ok t') :
    (FileStore.remove p : StateM FileTree _) t = (.ok (), t') :=
  FileTree.update_of_ok h

theorem remove_of_error (h : t.remove p = .error fault) :
    (FileStore.remove p : StateM FileTree _) t = (.error fault, t) :=
  FileTree.update_of_error h

end FileStore

end TypedSheets
