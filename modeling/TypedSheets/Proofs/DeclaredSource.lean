import TypedSheets.Proofs.Artifacts
import TypedSheets.Proofs.Import

/-!
# Sources with declarations

A source is declared (`World.Declares`) if the files with the declarations of its entity and of its
container are there and the registry has the descriptor that the former gives. An import that writes
the declarations of a source makes it declared (`Importer.Imports.declares_of_wrote`). Importing any
source keeps it declared, unless the declaration of a container is written over that of its entity
(`Importer.Imports.keeps_own`, `Importer.Imports.keeps_other`), and an import that finds the
declarations current changes nothing about it (`Importer.Imports.declares_iff_of_unchanged`).
-/

namespace TypedSheets

open FileTree Importer

/-- The outcome of an import that wrote the declarations of the source, whatever became of the
records. -/
def SourceOutcome.WroteDeclarations (o : SourceOutcome) : Prop :=
  (∃ n, o.status = .compiled n) ∨ ∃ error, o.status = .loadFailed error ∧ o.written ≠ []

/-- An importer with the files that it works on. -/
structure World where
  importer : Importer
  tree : FileTree

namespace World

/-- The file with the entity declaration of the source with a stem. -/
def entityPath (w : World) (stem : String) : Path :=
  w.importer.entityPath (w.importer.config.entityName stem)

/-- The file with the container declaration of the source with a stem. -/
def containerPath (w : World) (stem : String) : Path :=
  w.importer.containerPath (w.importer.config.containerName stem)

/-- Both declarations of the source with a stem are there, and the registry has the descriptor that
the declaration of its entity gives. -/
structure Declares (w : World) (stem : String) : Prop where
  container : w.tree.isFile (w.containerPath stem) = true
  entity : ∃ text d, w.tree.read (w.entityPath stem) = .ok text ∧
    Descriptor.extract? text = some d ∧
    w.importer.registry.get? (w.importer.config.entityName stem) = some d

end World

/-! ## Files that are kept -/

/-- From the tree `t` to the tree `t'` the file at `entity` keeps its content, and the file at
`container` is still there. -/
structure FileTree.Keeps (entity container : Path) (t t' : FileTree) : Prop where
  directories : t.SameDirectories t'
  entity : t'.content? entity = t.content? entity
  container : ∀ c, t.content? container = some c → ∃ c', t'.content? container = some c'

namespace FileTree.Keeps

variable {entity container : Path} {t t' t'' : FileTree}

theorem refl (t : FileTree) : Keeps entity container t t :=
  ⟨.refl t, rfl, fun c h => ⟨c, h⟩⟩

theorem trans (h : Keeps entity container t t') (h' : Keeps entity container t' t'') :
    Keeps entity container t t'' where
  directories := h.directories.trans h'.directories
  entity := h'.entity.trans h.entity
  container c hc := by
    obtain ⟨c', hc'⟩ := h.container c hc
    exact h'.container c' hc'

/-- Writing any other file keeps both. -/
theorem of_write {p : Path} {s : String} (h : t.write p s = .ok t')
    (hentity : ¬t.SameFile p entity) : Keeps entity container t t' where
  directories := sameDirectories_write h
  entity := content?_write_other h hentity
  container _ hc := content?_write_some h hc

end FileTree.Keeps

/-- Whether a source is declared depends on the contents of two files and on one descriptor. -/
theorem World.declares_iff {w : World} {stem : String} : w.Declares stem ↔
    (∃ c, w.tree.content? (w.containerPath stem) = some c) ∧
      ∃ text d, w.tree.content? (w.entityPath stem) = some (.text text) ∧
        Descriptor.extract? text = some d ∧
          w.importer.registry.get? (w.importer.config.entityName stem) = some d := by
  simp only [← isFile_eq_true_iff, ← read_eq_ok_iff]
  exact ⟨fun h => ⟨h.container, h.entity⟩, fun h => ⟨h.1, h.2⟩⟩

namespace World

variable {w w' : World} (hconfig : w'.importer.config = w.importer.config)
  (hgenerator : w'.importer.generator = w.importer.generator)

include hconfig hgenerator

theorem entityPath_eq (stem : String) : w'.entityPath stem = w.entityPath stem := by
  simp only [entityPath, Importer.entityPath, hconfig, hgenerator]

theorem containerPath_eq (stem : String) : w'.containerPath stem = w.containerPath stem := by
  simp only [containerPath, Importer.containerPath, hconfig, hgenerator]

end World

/-- A source stays declared while its files and its descriptor are kept. -/
theorem World.Declares.keep {w w' : World} {stem : String} (h : w.Declares stem)
    (hentity : w'.entityPath stem = w.entityPath stem)
    (hcontainer : w'.containerPath stem = w.containerPath stem)
    (hget : w'.importer.registry.get? (w'.importer.config.entityName stem) =
      w.importer.registry.get? (w.importer.config.entityName stem))
    (hkeeps : Keeps (w.entityPath stem) (w.containerPath stem) w.tree w'.tree) :
    w'.Declares stem := by
  obtain ⟨⟨c, hc⟩, text, d, htext, hextract, hd⟩ := World.declares_iff.mp h
  rw [World.declares_iff, hcontainer, hentity, hkeeps.entity, hget]
  exact ⟨hkeeps.container c hc, text, d, htext, hextract, hd⟩

namespace Importer

variable {imp imp' : Importer} {path : Path} {s : Source} {t t' : FileTree} {stem other : String}

/-! ## Steps of an import -/

theorem Records.keeps {v : Workbook} {status : Nat → SourceStatus} {before : List Path}
    {result : Except ImportError SourceOutcome} (h : Records imp s v status before t t' result)
    (hsound : imp.IsSound) (hcontainer : s.container = imp.config.containerName other)
    (hother : '/' ∉ other.toList) (hstem : '/' ∉ stem.toList) :
    Keeps (imp.entityPath (imp.config.entityName stem))
      (imp.containerPath (imp.config.containerName stem)) t t' := by
  cases h with
  | unloaded => exact .refl t
  | failed => exact .refl t
  | written load directory write =>
    rw [hcontainer] at write
    exact .of_write write (data_not_sameFile hsound.valid hother hstem).1

/-- Writing the declarations of another source keeps those of a source, unless its container is
declared in the file of the entity. -/
theorem WritesDeclarations.keeps {text containerText : String}
    {result : Except GenerationError (List Path)}
    (h : WritesDeclarations imp s text containerText t t' result) (hsound : imp.IsSound)
    (hentity : s.entity = imp.config.entityName other) (hother : '/' ∉ other.toList)
    (hstem : '/' ∉ stem.toList) (hne : other ≠ stem)
    (hcontainer : ¬t.SameFile (imp.containerPath s.container)
      (imp.entityPath (imp.config.entityName stem))) :
    Keeps (imp.entityPath (imp.config.entityName stem))
      (imp.containerPath (imp.config.containerName stem)) t t' := by
  have hfirst : ∀ {t₁ : FileTree}, t.write (imp.entityPath s.entity) text = .ok t₁ →
      Keeps (imp.entityPath (imp.config.entityName stem))
        (imp.containerPath (imp.config.containerName stem)) t t₁ := by
    intro t₁ write
    rw [hentity] at write
    exact .of_write write (entity_not_sameFile hsound.valid hother hstem hne)
  cases h with
  | none => exact .refl t
  | entity directory write => exact hfirst write
  | both directory write containerDirectory containerWrite =>
    refine (hfirst write).trans (.of_write containerWrite ?_)
    rwa [(sameDirectories_write write).sameFile_iff]

/-- Once both declarations of a source have been written, it is declared. -/
theorem WritesDeclarations.declares {schema : TableSchema} {text containerText : String}
    {files : List Path} (h : WritesDeclarations imp s text containerText t t' (.ok files))
    (hsound : imp.IsSound) (hentity : s.entity = imp.config.entityName stem)
    (hcontainer : s.container = imp.config.containerName stem) (hstem : '/' ∉ stem.toList)
    (hrender : imp.generator.renderEntity schema s.entity = .ok text)
    (hget : imp.registry.get? s.entity = some ⟨s.entity, schema.names, schema.types⟩) :
    World.Declares ⟨imp, t'⟩ stem := by
  cases h with
  | @both t₁ _ directory write containerDirectory containerWrite =>
    have hextract : Descriptor.extract? text = some ⟨s.entity, schema.names, schema.types⟩ := by
      rw [hsound.builtIn] at hrender
      exact Generator.extract?_of_renderEntity hrender
    rw [hcontainer] at containerWrite
    have hother : ¬t₁.SameFile (imp.containerPath (imp.config.containerName stem))
        (imp.entityPath s.entity) := by
      rw [hentity]
      exact container_not_sameFile hsound.valid hstem
    have hcontent : t'.content? (imp.entityPath s.entity) = some (.text text) := by
      rw [content?_write_other containerWrite hother, content?_write_self write]
    refine ⟨isFile_eq_true_iff.mpr ⟨_, content?_write_self containerWrite⟩, text, _, ?_,
      hextract, ?_⟩
    · rw [World.entityPath, ← hentity]
      exact read_eq_ok_iff.mpr hcontent
    · rw [← hentity]
      exact hget

/-- A file that is there can be written anew. -/
theorem writable_of_content? {dir : Path} {name text : String} {c : Content}
    (hdir : dir.text ≠ "") (hname : IsName name) (h : t.content? (dir.join name) = some c) :
    t.Writable dir name text := by
  obtain ⟨l, hresolve, hnode⟩ := content?_eq_some_iff.mp h
  obtain ⟨d, hd, hdirectory, -⟩ := resolve_join hdir hname hresolve
  refine ⟨isDirectory_eq_true_iff.mpr ⟨d, hd, hdirectory⟩, _,
    write_eq_ok_iff.mpr ⟨l, hresolve, ?_, rfl⟩⟩
  simp [hnode]

/-- The declarations of a source that are there are both written anew. -/
theorem WritesDeclarations.eq_ok {text containerText : String}
    {result : Except GenerationError (List Path)}
    (h : WritesDeclarations imp s text containerText t t' result) (hsound : imp.IsSound)
    (hentity : s.entity = imp.config.entityName stem)
    (hcontainer : s.container = imp.config.containerName stem) (hstem : '/' ∉ stem.toList)
    {c c' : Content} (hc : t.content? (imp.entityPath (imp.config.entityName stem)) = some c)
    (hc' : t.content? (imp.containerPath (imp.config.containerName stem)) = some c') :
    ∃ files, result = .ok files := by
  have hentityFile : t.Writable imp.config.entityDir (imp.generator.fileName s.entity) text := by
    rw [hentity]
    exact writable_of_content? hsound.entityDir (isName_entity hsound.valid hstem) hc
  cases h with
  | none e blocked => exact absurd hentityFile blocked
  | entity directory write e blocked =>
    refine absurd ?_ blocked
    obtain ⟨c'', hc''⟩ := content?_write_some write hc'
    rw [hcontainer]
    exact writable_of_content? hsound.containerDir (isName_container hsound.valid hstem) hc''
  | both => exact ⟨_, rfl⟩

/-! ## Imports -/

theorem WritesDeclarations.sameDirectories {text containerText : String}
    {result : Except GenerationError (List Path)}
    (h : WritesDeclarations imp s text containerText t t' result) : t.SameDirectories t' := by
  cases h with
  | none => exact .refl t
  | entity directory write => exact sameDirectories_write write
  | both directory write containerDirectory containerWrite =>
    exact (sameDirectories_write write).trans (sameDirectories_write containerWrite)

theorem Records.sameDirectories {v : Workbook} {status : Nat → SourceStatus} {before : List Path}
    {result : Except ImportError SourceOutcome} (h : Records imp s v status before t t' result) :
    t.SameDirectories t' := by
  cases h with
  | unloaded => exact .refl t
  | failed => exact .refl t
  | written load directory write => exact sameDirectories_write write

/-- A plan leaves the registry as it is, or puts a descriptor of the entity of its source into
it. -/
theorem Plans.registry_eq_or {w : Workbook} {registry : Registry} {decision : Decision}
    (h : Plans imp s w registry decision) :
    registry = imp.registry ∨ ∃ d : Descriptor, d.entity = s.entity ∧
      registry = imp.registry.put d := by
  have hname : ∀ {schema : TableSchema},
      (Compilation.run s.name s.entity w).schema = some schema →
      (Descriptor.ofSchema schema).entity = s.entity := fun compiled =>
    ((Compilation.schema_eq_some_iff _ _ _).mp compiled).1
  cases h with
  | uncontained stale success compiled => exact .inr ⟨_, hname compiled, rfl⟩
  | declare stale success compiled => exact .inr ⟨_, hname compiled, rfl⟩
  | _ => exact .inl rfl

/-- A plan leaves the descriptors of other entities. -/
theorem Plans.get?_eq {w : Workbook} {registry : Registry} {decision : Decision} {entity : String}
    (h : Plans imp s w registry decision) (hne : entity ≠ s.entity) :
    registry.get? entity = imp.registry.get? entity := by
  obtain rfl | ⟨d, hd, rfl⟩ := h.registry_eq_or
  · rfl
  · rw [Registry.get?_put, if_neg (hd ▸ hne)]

/-- If nothing is to be written, the registry stays as it is: a source whose entity can be declared
has a container that can be declared. -/
theorem Plans.registry_eq {w : Workbook} {registry : Registry} {status : SourceStatus}
    (h : Plans imp s w registry (.stop status)) (hvalid : imp.config.validate = .ok ())
    (hsource : imp.source? path = some s) : registry = imp.registry := by
  cases h with
  | uncontained stale success compiled entity container =>
    obtain ⟨stem, -, hentity, hcontainer⟩ := exists_stem_of_source? hsource
    obtain ⟨hidentifier, -, -⟩ := Generator.renderEntity_eq_ok_iff.mp entity
    have hcontainerIdentifier : isIdentifier s.container = true := by
      rw [hcontainer]
      exact isIdentifier_containerName hvalid (hentity ▸ hidentifier)
    simp [Generator.renderContainer, checkIdentifier, hidentifier, hcontainerIdentifier]
      at container
  | _ => rfl

namespace Imports

variable {result : Except ImportError SourceOutcome} {outcome : SourceOutcome} {n : Nat}

/-- What no import changes. -/
theorem preserves (h : Imports imp path t imp' t' result) :
    imp'.config = imp.config ∧ imp'.generator = imp.generator ∧ imp'.readers = imp.readers ∧
      t.SameDirectories t' := by
  cases h with
  | ignored => exact ⟨rfl, rfl, rfl, .refl t⟩
  | unreadable => exact ⟨rfl, rfl, rfl, .refl t⟩
  | stopped => exact ⟨rfl, rfl, rfl, .refl t⟩
  | kept source opens plan records => exact ⟨rfl, rfl, rfl, records.sameDirectories⟩
  | undeclared source opens plan declarations =>
    exact ⟨rfl, rfl, rfl, declarations.sameDirectories⟩
  | declared source opens plan declarations records =>
    exact ⟨rfl, rfl, rfl, declarations.sameDirectories.trans records.sameDirectories⟩

theorem isSound (h : Imports imp path t imp' t' result) (hsound : imp.IsSound) : imp'.IsSound := by
  obtain ⟨hconfig, hgenerator, -, -⟩ := h.preserves
  constructor
  · rw [hconfig]; exact hsound.valid
  · rw [hconfig, hgenerator]; exact hsound.builtIn
  · rw [hconfig]; exact hsound.entityDir
  · rw [hconfig]; exact hsound.containerDir
  · rw [hconfig]; exact hsound.dataDir

theorem eq_of_source? (h : Imports imp path t imp' t' result) (hsource : imp.source? path = none) :
    imp' = imp ∧ t' = t := by
  cases h with
  | ignored => exact ⟨rfl, rfl⟩
  | unreadable source => cases hsource.symm.trans source
  | stopped source => cases hsource.symm.trans source
  | kept source => cases hsource.symm.trans source
  | undeclared source => cases hsource.symm.trans source
  | declared source => cases hsource.symm.trans source

/-- An import that writes both declarations of a source leaves the source declared, whatever becomes
of the records. -/
theorem declares_of_writes {w : Workbook} {registry : Registry} {text containerText : String}
    {files : List Path} {status : Nat → SourceStatus} {t₁ : FileTree} (hsound : imp.IsSound)
    (hpath : imp.sourceStem? path = some stem) (source : imp.source? path = some s)
    (plan : Plans imp s w registry (.declare text containerText))
    (declarations : WritesDeclarations { imp with registry } s text containerText t t₁
      (.ok files)) (records : Records { imp with registry } s w status files t₁ t' result) :
    World.Declares ⟨{ imp with registry }, t'⟩ stem := by
  have hstem := Path.no_slash_of_stem? (stem?_of_sourceStem? hpath)
  obtain ⟨hentity, hcontainer⟩ := source?_names source hpath
  have hsound' := hsound.withRegistry registry
  cases plan with
  | @declare schema _ _ stale success compiled entity container =>
    obtain ⟨hname, -⟩ := (Compilation.schema_eq_some_iff _ _ _).mp compiled
    have hget : (imp.registry.put (.ofSchema schema)).get? s.entity =
        some ⟨s.entity, schema.names, schema.types⟩ := by
      rw [Registry.get?_put, Descriptor.ofSchema, hname, if_pos rfl]
    have hdeclares := declarations.declares hsound' hentity hcontainer hstem entity hget
    refine hdeclares.keep rfl rfl rfl ?_
    exact records.keeps hsound' hcontainer hstem hstem

/-- A source whose import wrote its declarations is declared. -/
theorem declares_of_wrote (h : Imports imp path t imp' t' (.ok outcome)) (hsound : imp.IsSound)
    (hpath : imp.sourceStem? path = some stem) (hwrote : outcome.WroteDeclarations) :
    World.Declares ⟨imp', t'⟩ stem := by
  cases h with
  | declared source opens plan declarations records =>
    exact declares_of_writes hsound hpath source plan declarations records
  | ignored =>
    obtain ⟨n, hstatus⟩ | ⟨error, hstatus, -⟩ := hwrote <;> cases hstatus
  | unreadable =>
    obtain ⟨n, hstatus⟩ | ⟨error, hstatus, -⟩ := hwrote <;> cases hstatus
  | stopped source opens plan =>
    obtain ⟨n, hstatus⟩ | ⟨error, hstatus, -⟩ := hwrote <;> cases plan <;> cases hstatus
  | kept source opens plan records =>
    -- the declarations were current, and a failure to load the records leaves nothing written
    cases records with
    | unloaded load =>
      obtain ⟨n, hstatus⟩ | ⟨_, -, hwritten⟩ := hwrote
      · cases hstatus
      · exact absurd rfl hwritten
    | written load directory write =>
      obtain ⟨n, hstatus⟩ | ⟨error, hstatus, -⟩ := hwrote <;> cases hstatus

/-- An import that is reported as unchanged leaves it as it was whether its source is declared. -/
theorem declares_iff_of_unchanged (h : Imports imp path t imp' t' (.ok outcome))
    (hsound : imp.IsSound) (hpath : imp.sourceStem? path = some stem)
    (hstatus : outcome.status = .unchanged n) :
    World.Declares ⟨imp', t'⟩ stem ↔ World.Declares ⟨imp, t⟩ stem := by
  have hstem := Path.no_slash_of_stem? (stem?_of_sourceStem? hpath)
  cases h with
  | ignored => cases hstatus
  | unreadable => cases hstatus
  | stopped source opens plan => cases plan <;> cases hstatus
  | declared source opens plan declarations records => cases records <;> cases hstatus
  | kept source opens plan records =>
    obtain ⟨-, hcontainer⟩ := source?_names source hpath
    cases plan with
    | current current =>
      cases records with
      | unloaded => rfl
      | written load directory write =>
        rw [hcontainer] at write
        have hother := data_not_sameFile hsound.valid (t := t) hstem hstem
        rw [World.declares_iff, World.declares_iff]
        simp only [World.entityPath, World.containerPath, content?_write_other write hother.1,
          content?_write_other write hother.2]

/-- Importing a source keeps it declared: if its declarations are to be written, they can be. -/
theorem keeps_own (h : Imports imp path t imp' t' result) (hsound : imp.IsSound)
    (hpath : imp.sourceStem? path = some stem) (hdeclares : World.Declares ⟨imp, t⟩ stem) :
    World.Declares ⟨imp', t'⟩ stem := by
  have hstem := Path.no_slash_of_stem? (stem?_of_sourceStem? hpath)
  cases h with
  | ignored => exact hdeclares
  | unreadable => exact hdeclares
  | stopped source opens plan =>
    obtain rfl := plan.registry_eq hsound.valid source
    exact hdeclares
  | kept source opens plan records =>
    obtain ⟨-, hcontainer⟩ := source?_names source hpath
    cases plan with
    | current current =>
      exact hdeclares.keep rfl rfl rfl (records.keeps hsound hcontainer hstem hstem)
  | undeclared source opens plan declarations =>
    obtain ⟨hentity, hcontainer⟩ := source?_names source hpath
    obtain ⟨⟨c, hc⟩, text, -, htext, -, -⟩ := World.declares_iff.mp hdeclares
    obtain ⟨files, hfiles⟩ :=
      declarations.eq_ok (hsound.withRegistry _) hentity hcontainer hstem htext hc
    cases hfiles
  | declared source opens plan declarations records =>
    exact declares_of_writes hsound hpath source plan declarations records

/-- Importing another source keeps a source declared, unless the container of the former is declared
in the file of the entity of the latter. -/
theorem keeps_other (h : Imports imp path t imp' t' result) (hsound : imp.IsSound)
    (hstem : '/' ∉ stem.toList) (hpath : imp.sourceStem? path = some other) (hne : other ≠ stem)
    (hfile : ¬t.SameFile (imp.containerPath (imp.config.containerName other))
      (imp.entityPath (imp.config.entityName stem)))
    (hdeclares : World.Declares ⟨imp, t⟩ stem) : World.Declares ⟨imp', t'⟩ stem := by
  have hother := Path.no_slash_of_stem? (stem?_of_sourceStem? hpath)
  have hentityName : imp.config.entityName stem ≠ imp.config.entityName other :=
    fun h => hne ((String.append_right_inj _).mp h).symm
  cases h with
  | ignored => exact hdeclares
  | unreadable => exact hdeclares
  | stopped source opens plan =>
    obtain ⟨hentity, -⟩ := source?_names source hpath
    exact hdeclares.keep rfl rfl (plan.get?_eq (hentity ▸ hentityName)) (.refl t)
  | kept source opens plan records =>
    obtain ⟨hentity, hcontainer⟩ := source?_names source hpath
    exact hdeclares.keep rfl rfl (plan.get?_eq (hentity ▸ hentityName))
      (records.keeps (hsound.withRegistry _) hcontainer hother hstem)
  | undeclared source opens plan declarations =>
    obtain ⟨hentity, hcontainer⟩ := source?_names source hpath
    exact hdeclares.keep rfl rfl (plan.get?_eq (hentity ▸ hentityName))
      (declarations.keeps (hsound.withRegistry _) hentity hother hstem hne (hcontainer ▸ hfile))
  | declared source opens plan declarations records =>
    obtain ⟨hentity, hcontainer⟩ := source?_names source hpath
    have hkeeps :=
      declarations.keeps (hsound.withRegistry _) hentity hother hstem hne (hcontainer ▸ hfile)
    exact hdeclares.keep rfl rfl (plan.get?_eq (hentity ▸ hentityName))
      (hkeeps.trans (records.keeps (hsound.withRegistry _) hcontainer hother hstem))

end Imports

end Importer

end TypedSheets
