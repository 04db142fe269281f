import TypedSheets.Proofs.Import

/-!
# Rebuilding a registry

A registry is rebuilt from the texts of the files in the entity directory, in the order of their
names (`FileTree.texts`). If all of them that declare an entity give one descriptor, this is the
descriptor that the registry has for it afterwards (`Registry.get?_addTexts`).
`Importer.start_eq_ok_iff` and `Importer.reload_run` say what starting an importer and reloading its
registry do.
-/

namespace TypedSheets

/-- The texts of the files in a directory, in the order of their names. -/
def FileTree.texts (t : FileTree) (dir : Path) : Except FileFault (List String) :=
  (t.files dir).map fun names =>
    (sortNames names).filterMap fun name => (t.read (dir.join name)).toOption

theorem FileTree.texts_of_files {t : FileTree} {dir : Path} {names : List String}
    (h : t.files dir = .ok names) : t.texts dir =
      .ok ((sortNames names).filterMap fun name => (t.read (dir.join name)).toOption) := by
  rw [texts, h]
  rfl

theorem FileTree.texts_of_empty {t : FileTree} {dir : Path} (h : t.files dir = .ok []) :
    t.texts dir = .ok [] := by
  rw [texts_of_files h]
  simp [sortNames]

theorem readTexts_run (t : FileTree) (dir : Path) : ∀ names : List String,
    (readTexts dir names : StateM FileTree _) t =
      (names.filterMap fun name => (t.read (dir.join name)).toOption, t)
  | [] => rfl
  | name :: rest => by
    rw [readTexts, run_bind, FileStore.read_run]
    cases htext : t.read (dir.join name) with
    | error fault =>
      rw [List.filterMap_cons_none (by rw [htext]; rfl)]
      exact readTexts_run t dir rest
    | ok text =>
      rw [List.filterMap_cons_some (by rw [htext]; rfl)]
      simp only [run_bind, readTexts_run t dir rest]
      rfl

namespace Registry

theorem entity_of_get? {r : Registry} {entity : String} {d : Descriptor}
    (h : r.get? entity = some d) : d.entity = entity := by
  simpa using List.find?_some h

/-- The descriptor of an entity after texts have been added, if the texts that declare the entity
agree. -/
theorem get?_addTexts {entity : String} {d : Descriptor} : ∀ {texts : List String} (r : Registry),
    (∀ text ∈ texts, ∀ e, Descriptor.extract? text = some e → e.entity = entity →
      e = d) →
      ((∃ text ∈ texts, Descriptor.extract? text = some d) ∨ r.get? entity = some d) →
        d.entity = entity → (r.addTexts texts).1.get? entity = some d
  | [], r, _, h, _ => by
    simpa [addTexts] using h
  | text :: rest, r, hall, h, hentity => by
    obtain ⟨htext, hrest⟩ := List.forall_mem_cons.mp hall
    rw [addTexts]
    cases hextract : Descriptor.extract? text with
    | none =>
      refine get?_addTexts r hrest ?_ hentity
      rcases h with ⟨other, hother, hd⟩ | h
      · rcases List.mem_cons.mp hother with rfl | hother
        · cases hextract.symm.trans hd
        · exact .inl ⟨other, hother, hd⟩
      · exact .inr h
    | some e =>
      refine get?_addTexts (r.put e) hrest ?_ hentity
      by_cases he : e.entity = entity
      · -- whatever was there before, the text just added declares the entity
        obtain rfl := htext e hextract he
        exact .inr (by rw [get?_put, if_pos he.symm])
      · rcases h with ⟨other, hother, hd⟩ | h
        · rcases List.mem_cons.mp hother with rfl | hother
          · obtain rfl := Option.some.inj (hextract.symm.trans hd)
            exact absurd hentity he
          · exact .inl ⟨other, hother, hd⟩
        · exact .inr (by rw [get?_put, if_neg (Ne.symm he), h])

theorem loadDirectory_run (r : Registry) (dir : Path) (t : FileTree) :
    (r.loadDirectory dir : StateM FileTree _) t =
      (match t.texts dir with
        | .error fault => .error (.registry dir fault)
        | .ok texts => .ok (r.addTexts texts), t) := by
  rw [loadDirectory, run_bind, FileStore.files_run, FileTree.texts]
  cases hnames : t.files dir with
  | error fault => rfl
  | ok names =>
    simp only [run_bind, readTexts_run]
    rfl

end Registry

namespace Importer

theorem firstMissing?_run (t : FileTree) : ∀ dirs : List Path,
    (firstMissing? dirs : StateM FileTree _) t = (dirs.find? (!t.isDirectory ·), t)
  | [] => rfl
  | dir :: rest => by
    rw [firstMissing?, run_bind, FileStore.isDirectory_run]
    cases hdir : t.isDirectory dir with
    | false =>
      rw [List.find?_cons_of_pos (by simp [hdir])]
      rfl
    | true =>
      rw [List.find?_cons_of_neg (by simp [hdir])]
      exact firstMissing?_run t rest

theorem checkOutputDirs_run (c : Config) (t : FileTree) :
    (c.checkOutputDirs : StateM FileTree _) t =
      (match c.outputDirs.find? (!t.isDirectory ·) with
        | none => .ok ()
        | some dir => .error (.missingDirectory dir), t) := by
  rw [Config.checkOutputDirs, run_bind, firstMissing?_run]
  cases c.outputDirs.find? (!t.isDirectory ·) <;> rfl

/-- When an importer can be started under a configuration with the built-in templates, and what it
is. -/
theorem start_eq_ok_iff {c : Config} {readers : List WorkbookReader} {t t' : FileTree}
    {imp : Importer} (hentity : c.entityTemplate = none) (hcontainer : c.containerTemplate = none) :
    (start c readers : StateM FileTree _) t = (.ok imp, t') ↔
      t' = t ∧ c.validate = .ok () ∧ (∀ dir ∈ c.outputDirs, t.isDirectory dir = true) ∧
        ∃ texts, t.texts c.entityDir = .ok texts ∧
          imp = ⟨c, .builtIn c.language, (Registry.empty.addTexts texts).1,
            .json :: readers⟩ := by
  have hgenerator : (c.generator : StateM FileTree _) t = (.ok (.builtIn c.language), t) := by
    simp only [Config.generator, hentity, hcontainer, templateOr]
    rfl
  have hdirs : (∀ dir ∈ c.outputDirs, t.isDirectory dir = true) ↔
      c.outputDirs.find? (!t.isDirectory ·) = none := by simp
  rw [start, hdirs]
  cases hvalidate : c.validate with
  | error e => exact iff_of_false (by intro h; cases h) (by simp)
  | ok u =>
    simp only [run_bind, checkOutputDirs_run]
    cases hfind : c.outputDirs.find? (!t.isDirectory ·) with
    | some dir => exact iff_of_false (by intro h; cases h) (by simp)
    | none =>
      simp only [run_bind, hgenerator, Registry.loadDirectory_run]
      cases htexts : t.texts c.entityDir with
      | error fault => exact iff_of_false (by intro h; cases h) (by simp)
      | ok texts =>
        constructor
        · intro h
          cases h
          exact ⟨rfl, trivial, trivial, texts, rfl, rfl⟩
        · rintro ⟨rfl, -, -, others, hothers, rfl⟩
          cases hothers
          rfl

theorem reload_run (imp : Importer) (t : FileTree) :
    (imp.reload : StateM FileTree _) t =
      (match t.texts imp.config.entityDir with
        | .error fault => ⟨{ imp with registry := .empty }, [imp.registry.flushEvent],
            .error (.registry imp.config.entityDir fault)⟩
        | .ok texts => ⟨{ imp with registry := (Registry.empty.addTexts texts).1 },
            [imp.registry.flushEvent], .ok (Registry.empty.addTexts texts).2⟩, t) := by
  simp only [reload, run_bind, Registry.loadDirectory_run]
  cases t.texts imp.config.entityDir <;> rfl

end Importer

end TypedSheets
