import TypedSheets.Proofs.Directory
import TypedSheets.Proofs.ImportEffects
import TypedSheets.Proofs.RegistryMap

/-!
# Sessions

A `World.Session` is the work of one importer: it is started on empty directories, sources are
reported as changed, every report is taken without an error, and in between others may change any
file but those in the directories. The session keeps a log of the imports. What holds once
an importer has been started, and is preserved by one import and by a change that others make, holds
in every session (`World.Session.induction`).

If the entity directory is left to the importer, the registry is a mirror of it: for every
descriptor there is a file with a declaration of the entity that gives the descriptor, and there are
no other files (`World.Mirrors`, `World.Session.mirrors`).

Main statement: `World.rebuilt_of_session`.
-/

namespace TypedSheets

open FileTree Importer

/-- What an import reported, and the registry that it left. -/
structure Entry where
  outcome : SourceOutcome
  registry : Registry

namespace World

/-- The imports of the sources at some paths, one after the other up to the first error. -/
def log (w : World) : List Path → List Entry
  | [] => []
  | path :: rest => (w.outcome path).toOption.elim [] fun o =>
    ⟨o, (w.imported path).importer.registry⟩ :: (w.imported path).log rest

/-- The worlds to which one importer leads that was started on empty directories `dirs`, as long as
it is stopped by no error and others leave these directories alone, with the imports so far. -/
inductive Session (dirs : List Path) (c : Config) (readers : List WorkbookReader) :
    World → List Entry → Prop
  | start {t : FileTree} {imp : Importer} (starts : Starts c readers t imp)
      (distinct : c.outputDirs.Pairwise fun p q => ¬t.SameFile p q)
      (empty : ∀ dir ∈ dirs, t.files dir = .ok []) : Session dirs c readers ⟨imp, t⟩ []
  | changed {w : World} {log : List Entry} {paths : List Path} {s : ImportSummary}
      (session : Session dirs c readers w log) (summary : w.summary paths = .ok s) :
      Session dirs c readers (w.changed paths) (log ++ w.log paths)
  | edit {w : World} {log : List Entry} {t : FileTree} (session : Session dirs c readers w log)
      (keeps : ∀ dir ∈ dirs, KeepsDirectory dir w.tree t) :
      Session dirs c readers ⟨w.importer, t⟩ log

variable {dirs : List Path} {c : Config} {readers : List WorkbookReader} {w : World}
  {log : List Entry}

/-- What every import preserves, a report that is taken without an error preserves. -/
theorem changed_log_induction {P : World → List Entry → Prop}
    (himport : ∀ w log path o, P w log → w.outcome path = .ok o →
      P (w.imported path) (log ++ [⟨o, (w.imported path).importer.registry⟩])) :
    ∀ {paths : List Path} {w : World} {log : List Entry} {s : ImportSummary},
      w.summary paths = .ok s → P w log → P (w.changed paths) (log ++ w.log paths)
  | [], w, log, s, _, hw => by
    rw [changed_nil, World.log, List.append_nil]
    exact hw
  | path :: rest, w, log, s, hs, hw => by
    obtain ⟨o, others, houtcome, hothers, -, hchanged⟩ := summary_cons_ok hs
    have ih := changed_log_induction himport hothers (himport w log path o hw houtcome)
    rw [hchanged, World.log, houtcome]
    simpa [Except.toOption] using ih

/-- What holds at the start of a session and is preserved by every import and by the changes of
others holds in the session. -/
theorem Session.induction {P : World → List Entry → Prop} (h : Session dirs c readers w log)
    (hstart : ∀ t imp, Starts c readers t imp →
      c.outputDirs.Pairwise (fun p q => ¬t.SameFile p q) →
      (∀ dir ∈ dirs, t.files dir = .ok []) → P ⟨imp, t⟩ [])
    (himport : ∀ w log path o, P w log → w.outcome path = .ok o →
      P (w.imported path) (log ++ [⟨o, (w.imported path).importer.registry⟩]))
    (hedit : ∀ w log t, P w log → (∀ dir ∈ dirs, KeepsDirectory dir w.tree t) →
      P ⟨w.importer, t⟩ log) :
    P w log := by
  induction h with
  | start starts distinct empty => exact hstart _ _ starts distinct empty
  | changed session summary ih => exact changed_log_induction himport summary ih
  | edit session keeps ih => exact hedit _ _ _ ih keeps

/-- The importer of a session keeps its configuration, and its output directories stay apart. -/
theorem Session.isSound (h : Session dirs c readers w log) :
    w.importer.IsSound ∧ w.importer.config = c ∧ c.outputDirs.Pairwise Apart := by
  refine h.induction (P := fun w _ => w.importer.IsSound ∧ w.importer.config = c ∧
    c.outputDirs.Pairwise Apart) ?_ ?_ fun w _ t hw _ => hw
  · intro t imp starts distinct _
    obtain ⟨hsound, hconfig, -⟩ := starts.eq
    obtain ⟨hentity, hcontainer, t', hstart⟩ := starts
    obtain ⟨-, -, hdirs, -⟩ := (start_eq_ok_iff hentity hcontainer).mp hstart
    refine ⟨hsound, hconfig, distinct.imp_of_mem fun hp hq hne => ?_⟩
    exact .of_isDirectory (hdirs _ hp) (hdirs _ hq) hne
  · rintro w log path o ⟨hsound, hconfig, hapart⟩ -
    obtain ⟨hconfig', -⟩ := (w.imports path).preserves
    exact ⟨imported_isSound hsound path, hconfig'.trans hconfig, hapart⟩

theorem Session.builtIn (h : Session dirs c readers w log) :
    c.entityTemplate = none ∧ c.containerTemplate = none :=
  h.induction (P := fun _ _ => c.entityTemplate = none ∧ c.containerTemplate = none)
    (fun _ _ starts _ _ => ⟨starts.1, starts.2.1⟩) (fun _ _ _ _ hP _ => hP) fun _ _ _ hP _ => hP

/-! ## The entity directory -/

/-- There is a file in the entity directory for every descriptor in the registry and for nothing
else, and what stands in it gives the descriptor. -/
structure Mirrors (w : World) : Prop where
  isMap : w.importer.registry.IsMap
  isName : ∀ d ∈ w.importer.registry.descriptors,
    IsName (w.importer.generator.fileName d.entity)
  files : ∃ names, w.tree.files w.importer.config.entityDir = .ok names ∧
    names.Perm (w.importer.registry.descriptors.map fun d => w.importer.generator.fileName d.entity)
  text : ∀ d ∈ w.importer.registry.descriptors, ∃ text,
    w.tree.content? (w.importer.entityPath d.entity) = some (.text text) ∧
      Descriptor.extract? text = some d

namespace Mirrors

variable {imp : Importer} {t t' : FileTree} {s : Source}

theorem keep (h : Mirrors ⟨imp, t⟩) (hkeeps : KeepsDirectory imp.config.entityDir t t') :
    Mirrors ⟨imp, t'⟩ where
  isMap := h.isMap
  isName := h.isName
  files := by
    obtain ⟨names, hnames, hperm⟩ := h.files
    obtain ⟨others, names', hothers, hnames', hperm'⟩ := hkeeps.files
    obtain rfl := Except.ok.inj (hnames.symm.trans hothers)
    exact ⟨names', hnames', hperm'.trans hperm⟩
  text d hd := by
    obtain ⟨text, htext, hextract⟩ := h.text d hd
    exact ⟨text, (hkeeps.content _ (h.isName d hd)).trans htext, hextract⟩

/-- What is written into another directory does not matter. -/
theorem write_other {dir : Path} {name text : String} (h : Mirrors ⟨imp, t⟩)
    (hsound : imp.IsSound) (hdir : dir.text ≠ "") (hapart : Apart imp.config.entityDir dir)
    (hname : IsName name) (hwrite : t.write (dir.join name) text = .ok t') :
    Mirrors ⟨imp, t'⟩ := by
  obtain ⟨names, hnames, -⟩ := h.files
  exact h.keep (.of_write hsound.entityDir hdir hapart hname hnames hwrite)

/-- A descriptor is registered and its declaration is written. -/
theorem declare {d : Descriptor} {text : String} (h : Mirrors ⟨imp, t⟩) (hsound : imp.IsSound)
    (hname : IsName (imp.generator.fileName d.entity))
    (hwrite : t.write (imp.entityPath d.entity) text = .ok t')
    (hextract : Descriptor.extract? text = some d) :
    Mirrors ⟨{ imp with registry := imp.registry.put d }, t'⟩ where
  isMap := h.isMap.put d
  isName e he := by
    rcases Registry.mem_put.mp he with rfl | ⟨he, -⟩
    · exact hname
    · exact h.isName e he
  files := by
    obtain ⟨names, hnames, hperm⟩ := h.files
    refine ⟨_, files_write hsound.entityDir hname hnames hwrite, .cons _ ?_⟩
    -- one declaration of each other entity is left, as one descriptor is
    refine (hperm.filter _).trans (.of_eq ?_)
    rw [List.filter_map, Registry.put]
    congr 1
    refine List.filter_congr fun e _ => ?_
    by_cases he : e.entity = d.entity
    · simp [he]
    · have hne : imp.generator.fileName e.entity ≠ imp.generator.fileName d.entity :=
        fun heq => he (Generator.fileName_inj heq)
      simp [he, hne]
  text e he := by
    rcases Registry.mem_put.mp he with rfl | ⟨he, hne⟩
    · exact ⟨text, content?_write_self hwrite, hextract⟩
    · obtain ⟨own, hown, hextract'⟩ := h.text e he
      refine ⟨own, (content?_write_other hwrite ?_).trans hown, hextract'⟩
      exact not_sameFile_join hname (h.isName e he) fun heq => hne (Generator.fileName_inj heq).symm

theorem records {v : Workbook} {status : Nat → SourceStatus} {before : List Path} {stem : String}
    {result : Except ImportError SourceOutcome} (h : Mirrors ⟨imp, t⟩)
    (hrecords : Records imp s v status before t t' result) (hsound : imp.IsSound)
    (hdata : Apart imp.config.entityDir imp.config.dataDir)
    (hcontainer : s.container = imp.config.containerName stem) (hstem : '/' ∉ stem.toList) :
    Mirrors ⟨imp, t'⟩ := by
  cases hrecords with
  | unloaded => exact h
  | failed => exact h
  | written load directory write =>
    rw [hcontainer] at write
    exact h.write_other hsound hsound.dataDir hdata (isName_data hsound.valid hstem) write

/-- An import without an error keeps the mirror. -/
theorem imports {imp' : Importer} {path : Path} {o : SourceOutcome} (h : Mirrors ⟨imp, t⟩)
    (himports : Imports imp path t imp' t' (.ok o)) (hsound : imp.IsSound)
    (hcontainerDir : Apart imp.config.entityDir imp.config.containerDir)
    (hdataDir : Apart imp.config.entityDir imp.config.dataDir) : Mirrors ⟨imp', t'⟩ := by
  cases himports with
  | ignored => exact h
  | unreadable => exact h
  | stopped source opens plan =>
    obtain rfl := plan.registry_eq hsound.valid source
    exact h
  | kept source opens plan records =>
    obtain ⟨stem, hstem, -, hcontainer⟩ := exists_stem_of_source? source
    cases plan with
    | current => exact h.records records hsound hdataDir hcontainer hstem
  | @declared s v registry text containerText files t₁ _ _ source opens plan declarations
    records =>
    obtain ⟨stem, hstem, hentity, hcontainer⟩ := exists_stem_of_source? source
    cases plan with
    | @declare schema _ _ stale success compiled render container =>
      obtain ⟨hname, -⟩ := (Compilation.schema_eq_some_iff _ _ _).mp compiled
      have hextract : Descriptor.extract? text = some (.ofSchema schema) := by
        rw [hsound.builtIn] at render
        rw [Descriptor.ofSchema, hname]
        exact Generator.extract?_of_renderEntity render
      cases declarations with
      | both directory write containerDirectory containerWrite =>
        have hentityName : s.entity = (Descriptor.ofSchema schema).entity := hname.symm
        rw [hcontainer] at containerWrite
        have hdeclared := h.declare (d := .ofSchema schema) hsound
          (hentityName ▸ hentity ▸ isName_entity hsound.valid hstem)
            (hentityName ▸ write) hextract
        have hcontained := hdeclared.write_other (hsound.withRegistry _) hsound.containerDir
          hcontainerDir (isName_container hsound.valid hstem) containerWrite
        exact hcontained.records records (hsound.withRegistry _) hdataDir hcontainer hstem

end Mirrors

/-- Throughout a session that has the entity directory to itself, the registry mirrors it. -/
theorem Session.mirrors (h : Session dirs c readers w log) (hdir : c.entityDir ∈ dirs) :
    w.Mirrors := by
  have hapart : c.outputDirs.Pairwise Apart := h.isSound.2.2
  obtain ⟨hall, -⟩ := List.pairwise_cons.mp hapart
  have hcontainer : Apart c.entityDir c.containerDir := hall _ (by simp)
  have hdata : Apart c.entityDir c.dataDir := hall _ (by simp)
  refine (h.induction (P := fun w _ => w.importer.IsSound ∧ w.importer.config = c ∧ w.Mirrors)
    ?_ ?_ ?_).2.2
  · intro t imp starts _ empty
    obtain ⟨hsound, hconfig, -, texts, htexts, hregistry⟩ := starts.eq
    have hfiles : t.files c.entityDir = .ok [] := empty _ hdir
    obtain rfl := Except.ok.inj ((FileTree.texts_of_empty hfiles).symm.trans htexts)
    refine ⟨hsound, hconfig, ?_, ?_, ⟨[], hconfig ▸ hfiles, ?_⟩, ?_⟩
    all_goals
      simp only [hregistry]
      simp [Registry.IsMap, Registry.addTexts, Registry.empty]
  · rintro w log path o ⟨hsound, rfl, hmirrors⟩ houtcome
    have himports := w.imports path
    rw [houtcome] at himports
    exact ⟨himports.isSound hsound, himports.preserves.1,
      hmirrors.imports himports hsound hcontainer hdata⟩
  · rintro w log t ⟨hsound, rfl, hmirrors⟩ hkeeps
    exact ⟨hsound, rfl, hmirrors.keep (hkeeps _ hdir)⟩

/-- The texts in the entity directory give just the descriptors in the registry. -/
theorem Mirrors.texts (h : w.Mirrors) :
    ∃ texts, w.tree.texts w.importer.config.entityDir = .ok texts ∧
    (texts.filterMap Descriptor.extract?).Perm w.importer.registry.descriptors := by
  obtain ⟨names, hnames, hperm⟩ := h.files
  refine ⟨_, FileTree.texts_of_files hnames, ?_⟩
  rw [List.filterMap_filterMap]
  refine (((List.mergeSort_perm names _).trans hperm).filterMap _).trans (.of_eq ?_)
  rw [List.filterMap_map]
  refine (List.filterMap_congr fun d hd => ?_).trans List.filterMap_some
  obtain ⟨text, htext, hextract⟩ := h.text d hd
  have hread : w.tree.read
      (w.importer.config.entityDir.join (w.importer.generator.fileName d.entity)) =
      .ok text := read_eq_ok_iff.mpr htext
  simp only [Function.comp_apply, hread, Except.toOption, Option.bind_some, hextract]

/-- Throughout a session that has the entity directory to itself, the registry is the one that is
rebuilt from this directory. A reload returns the number of its descriptors and leaves it as it is,
and an importer that is started anew has it from the start. -/
theorem rebuilt_of_session (h : Session dirs c readers w log) (hdir : c.entityDir ∈ dirs) :
    (∃ rebuilt, (Registry.empty.loadDirectory c.entityDir : StateM FileTree _) w.tree =
        (.ok (rebuilt, w.importer.registry.size), w.tree) ∧
          rebuilt.SameMap w.importer.registry) ∧
      (∃ rebuilt, rebuilt.SameMap w.importer.registry ∧
        (w.importer.reload : StateM FileTree _) w.tree =
          (⟨{ w.importer with registry := rebuilt }, [w.importer.registry.flushEvent],
            .ok w.importer.registry.size⟩, w.tree)) ∧
      ∀ readers', (∀ dir ∈ c.outputDirs, w.tree.isDirectory dir = true) →
        ∃ imp, (Importer.start c readers' : StateM FileTree _) w.tree = (.ok imp, w.tree) ∧
          imp.registry.SameMap w.importer.registry := by
  have hmirrors := h.mirrors hdir
  obtain ⟨hentity, hcontainer⟩ := h.builtIn
  obtain ⟨hsound, rfl, -⟩ := h.isSound
  obtain ⟨texts, htexts, hperm⟩ := hmirrors.texts
  obtain ⟨hsame, hsize⟩ := Registry.addTexts_of_perm hmirrors.isMap hperm
  refine ⟨⟨_, ?_, hsame⟩, ⟨_, hsame, ?_⟩, fun readers' hdirs => ?_⟩
  · rw [Registry.loadDirectory_run, htexts, ← hsize]
  · rw [reload_run, htexts, ← hsize]
  · refine ⟨_, (start_eq_ok_iff hentity hcontainer).mpr ⟨rfl, hsound.valid, hdirs, texts,
      htexts, rfl⟩, hsame⟩

/-! ## A column that is renamed -/

/-- The source has one column and one row. -/
def numbered : World :=
  { itemsWorld with tree := itemsTree.put ["Items.json"] (.file (.text
    "\x7b\"sheets\":[\x7b\"name\":\"S\",\"rows\":[[\"id\"],[\"int\"],[1]]\x7d]\x7d")) }

/-- The column has another name, and a text stands in the row. -/
def renamedText : String :=
  "\x7b\"sheets\":[\x7b\"name\":\"S\",\"rows\":[[\"count\"],[\"int\"],[\"x\"]]\x7d]\x7d"

/-- The source has been imported and then written anew. -/
def renamed : World :=
  let first := numbered.changed [itemsPath]
  { first with tree := first.tree.put ["Items.json"] (.file (.text renamedText)) }

theorem starts_numbered : Starts numbered.importer.config [] numbered.tree numbered.importer := by
  have htexts : numbered.tree.texts numbered.importer.config.entityDir = .ok [] :=
    FileTree.texts_of_empty rfl
  exact ⟨rfl, rfl, numbered.tree,
    (start_eq_ok_iff rfl rfl).mpr ⟨rfl, rfl, by decide +kernel, [], htexts, rfl⟩⟩

theorem summary_of_isSome {w : World} {paths : List Path}
    (h : (w.summary paths).toOption.isSome = true) : ∃ s, w.summary paths = .ok s := by
  cases hsummary : w.summary paths with
  | error e => simp [hsummary, Except.toOption] at h
  | ok s => exact ⟨s, rfl⟩

theorem apart_source : ∀ dir ∈ numbered.importer.config.outputDirs, Apart dir ⟨"."⟩ := by
  have hdirs : ∀ dir ∈ numbered.importer.config.outputDirs, itemsTree.isDirectory dir = true ∧
      ¬itemsTree.SameFile dir ⟨"."⟩ := by decide
  exact fun dir hdir => .of_isDirectory (hdirs dir hdir).1 (by decide) (hdirs dir hdir).2

/-- The source is imported. -/
theorem session_numbered : Session numbered.importer.config.outputDirs numbered.importer.config []
    (numbered.changed [itemsPath]) (numbered.log [itemsPath]) := by
  have hstart : Session numbered.importer.config.outputDirs numbered.importer.config
      [] numbered [] :=
    .start starts_numbered (by decide) (by decide)
  obtain ⟨s, hs⟩ : ∃ s, numbered.summary [itemsPath] = .ok s :=
    summary_of_isSome (by decide +kernel)
  have hchanged := hstart.changed hs
  rwa [List.nil_append] at hchanged

/-- The source is imported, written anew by others and imported again. -/
theorem session_renamed : Session numbered.importer.config.outputDirs numbered.importer.config []
    (renamed.changed [itemsPath]) (numbered.log [itemsPath] ++ renamed.log [itemsPath]) := by
  have hedit : Session numbered.importer.config.outputDirs numbered.importer.config [] renamed
      (numbered.log [itemsPath]) := by
    refine .edit session_numbered fun dir hdir => ?_
    have hdirs : ∀ dir ∈ numbered.importer.config.outputDirs,
        (numbered.changed [itemsPath]).tree.isDirectory dir = true := by decide +kernel
    have htexts : ∀ dir ∈ numbered.importer.config.outputDirs, dir.text ≠ "" := by decide
    obtain ⟨names, hnames⟩ := exists_files (hdirs dir hdir)
    have hwrite : (numbered.changed [itemsPath]).tree.write ((⟨"."⟩ : Path).join "Items.json")
        renamedText = .ok renamed.tree :=
      write_eq_ok_iff.mpr ⟨["Items.json"], rfl, by decide +kernel, rfl⟩
    exact .of_write (htexts dir hdir) (by decide) (apart_source dir hdir)
      ⟨by decide, by decide, by decide, by decide⟩ hnames hwrite
  obtain ⟨s, hs⟩ : ∃ s, renamed.summary [itemsPath] = .ok s :=
    summary_of_isSome (by decide +kernel)
  exact .changed hedit hs

/-- The second import registers and declares the new column, though it does not come to write the
row. -/
theorem rebuilt_renamed :
    let last := renamed.changed [itemsPath]
    Session numbered.importer.config.outputDirs numbered.importer.config [] last
        (numbered.log [itemsPath] ++ renamed.log [itemsPath]) ∧
      last.importer.registry.descriptors = [⟨"Entity_Items", ["count"], ["int"]⟩] ∧
      ((last.importer.reload : StateM FileTree _) last.tree).1.result = .ok 1 ∧
      ∃ imp, (Importer.start numbered.importer.config [] : StateM FileTree _) last.tree =
          (.ok imp, last.tree) ∧ imp.registry.SameMap last.importer.registry := by
  intro last
  have hdescriptors : last.importer.registry.descriptors =
      [⟨"Entity_Items", ["count"], ["int"]⟩] := by
    decide +kernel
  have hsize : last.importer.registry.size = 1 := by rw [Registry.size, hdescriptors]; rfl
  obtain ⟨-, ⟨rebuilt, -, hreload⟩, hstart⟩ :=
    rebuilt_of_session session_renamed (by decide)
  refine ⟨session_renamed, hdescriptors, ?_, hstart [] (by decide +kernel)⟩
  rw [hreload, ← hsize]

end World

end TypedSheets
