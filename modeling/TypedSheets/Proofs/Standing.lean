import TypedSheets.Proofs.DeclaredSource
import TypedSheets.Proofs.Rebuild

/-!
# How long declarations stand

`World.Reachable` are the worlds that importers and others bring about by the operations of an
importer, restarts and changes of files. A source stands in a world (`World.Standing`) if
some import reported that its declarations were written, and since then no operation has
disturbed it (`World.Leaves`). Removing artifacts does: the registry keeps the descriptor of a
source whose declarations are gone, and the next report says that nothing changed and does not
bring them back (`World.unchanged_after_removal`). So does a restart with other names of
declarations (`World.unchanged_after_restart`).

Main statement: `World.declares_of_reports`.
-/

namespace TypedSheets

open FileTree Importer

namespace World

/-! ## Importing changed sources -/

/-- The world after the import of the source at a path. -/
def imported (w : World) (path : Path) : World :=
  let run := (w.importer.importSource path : StateM FileTree _) w.tree
  ⟨run.1.importer, run.2⟩

/-- The outcome of the import of the source at a path. -/
def outcome (w : World) (path : Path) : Except ImportError SourceOutcome :=
  ((w.importer.importSource path : StateM FileTree _) w.tree).1.result

/-- The world after sources have been reported as changed. -/
def changed (w : World) (paths : List Path) : World :=
  let run := (w.importer.sourcesChanged paths : StateM FileTree _) w.tree
  ⟨run.1.importer, run.2⟩

/-- The summary of what happened to sources that were reported as changed. -/
def summary (w : World) (paths : List Path) : Except ImportError ImportSummary :=
  ((w.importer.sourcesChanged paths : StateM FileTree _) w.tree).1.result

theorem imports (w : World) (path : Path) :
    w.importer.Imports path w.tree (w.imported path).importer (w.imported path).tree
      (w.outcome path) :=
  w.importer.importSource_imports path w.tree

theorem changed_nil (w : World) : w.changed [] = w := rfl

theorem changed_cons (w : World) (path : Path) (rest : List Path) :
    (∃ e, w.outcome path = .error e ∧ w.changed (path :: rest) = w.imported path ∧
        w.summary (path :: rest) = .error e) ∨
      ∃ o, w.outcome path = .ok o ∧
        w.changed (path :: rest) = (w.imported path).changed rest ∧
        w.summary (path :: rest) = ((w.imported path).summary rest).map fun s =>
          ⟨o :: s.sources⟩ := by
  simp only [outcome, changed, summary, imported, sourcesChanged, importAll, run_bind]
  cases hresult : ((w.importer.importSource path : StateM FileTree _) w.tree).1.result with
  | error e => exact .inl ⟨e, rfl, rfl, rfl⟩
  | ok o =>
    refine .inr ⟨o, rfl, rfl, ?_⟩
    simp only [run_bind]
    cases ((((w.importer.importSource path : StateM FileTree _) w.tree).1.importer.importAll rest :
      StateM FileTree _) ((w.importer.importSource path : StateM FileTree _) w.tree).2).1.result <;>
        rfl

theorem changed_cons_ok {w : World} {path : Path} {o : SourceOutcome} (h : w.outcome path = .ok o)
    (rest : List Path) : w.changed (path :: rest) = (w.imported path).changed rest := by
  rcases w.changed_cons path rest with ⟨e, he, -, -⟩ | ⟨_, -, hchanged, -⟩
  · cases h.symm.trans he
  · exact hchanged

/-- The first of the sources in a report without an error is imported, and then the others. -/
theorem summary_cons_ok {w : World} {path : Path} {rest : List Path} {s : ImportSummary}
    (hs : w.summary (path :: rest) = .ok s) :
    ∃ o others, w.outcome path = .ok o ∧ (w.imported path).summary rest = .ok ⟨others⟩ ∧
      s.sources = o :: others ∧ w.changed (path :: rest) = (w.imported path).changed rest := by
  rcases w.changed_cons path rest with ⟨e, -, -, hsummary⟩ | ⟨o, ho, hchanged, hsummary⟩
  · cases hsummary.symm.trans hs
  · rw [hsummary] at hs
    obtain ⟨others, hothers, rfl⟩ := map_eq_ok_iff.mp hs
    exact ⟨o, others.sources, ho, hothers, rfl, hchanged⟩

/-- What every import keeps, all imports of some sources keep. -/
theorem changed_induction {P : World → Prop} : ∀ {paths : List Path} {w : World},
    (∀ v, ∀ path ∈ paths, P v → P (v.imported path)) → P w → P (w.changed paths)
  | [], _, _, hw => hw
  | path :: rest, w, hstep, hw => by
    obtain ⟨hpath, hrest⟩ : (∀ v, P v → P (v.imported path)) ∧
        ∀ v, ∀ other ∈ rest, P v → P (v.imported other) :=
      ⟨fun v => hstep v path List.mem_cons_self,
        fun v other hother => hstep v other (List.mem_cons_of_mem path hother)⟩
    rcases w.changed_cons path rest with ⟨e, -, hchanged, -⟩ | ⟨o, -, hchanged, -⟩
    · rw [hchanged]
      exact hpath w hw
    · rw [hchanged]
      exact changed_induction hrest (hpath w hw)

/-- The outcomes in a summary are those of imports one after the other. -/
theorem outcome_of_summary : ∀ {paths : List Path} {w : World} {s : ImportSummary} {i : Nat}
    {o : SourceOutcome}, w.summary paths = .ok s → s.sources[i]? = some o →
      ∃ path, paths[i]? = some path ∧ (w.changed (paths.take i)).outcome path = .ok o ∧
        w.changed (paths.take (i + 1)) = (w.changed (paths.take i)).imported path
  | [], w, s, i, o, hs, ho => by
    obtain rfl := Except.ok.inj hs
    simp at ho
  | path :: rest, w, s, i, o, hs, ho => by
    obtain ⟨first, others, hfirst, hothers, hsources, -⟩ := summary_cons_ok hs
    rw [hsources] at ho
    cases i with
    | zero =>
      obtain rfl : first = o := by simpa using ho
      exact ⟨path, rfl, hfirst, changed_cons_ok hfirst []⟩
    | succ i =>
      obtain ⟨next, hnext, houtcome, himported⟩ := outcome_of_summary hothers ho
      rw [List.take_succ_cons, List.take_succ_cons, changed_cons_ok hfirst, changed_cons_ok hfirst]
      exact ⟨next, hnext, houtcome, himported⟩

/-! ## Operations -/

/-- The world after sources have been reported as removed. -/
def removed (w : World) (paths : List Path) : World :=
  let run := (w.importer.sourcesRemoved paths : StateM FileTree _) w.tree
  ⟨run.1.importer, run.2⟩

/-- The world after the registry has been rebuilt. -/
def reloaded (w : World) : World :=
  let run := (w.importer.reload : StateM FileTree _) w.tree
  ⟨run.1.importer, run.2⟩

/-- What can be done with an importer and its files. -/
inductive Operation
  | changed (paths : List Path)
  | removed (paths : List Path)
  | reload
  /-- A new importer takes the place of the old one. -/
  | restart (config : Config) (readers : List WorkbookReader)
  /-- Others change files. -/
  | edit (tree : FileTree)

/-- The importer was started on the tree, with the built-in templates. -/
def Starts (config : Config) (readers : List WorkbookReader) (t : FileTree)
    (imp : Importer) : Prop :=
  config.entityTemplate = none ∧ config.containerTemplate = none ∧
    ∃ t', (Importer.start config readers : StateM FileTree _) t = (.ok imp, t')

/-- The world that an operation leads to. -/
inductive Runs (w : World) : Operation → World → Prop
  | changed (paths : List Path) : Runs w (.changed paths) (w.changed paths)
  | removed (paths : List Path) : Runs w (.removed paths) (w.removed paths)
  | reload : Runs w .reload w.reloaded
  | restart {config : Config} {readers : List WorkbookReader} {imp : Importer}
      (starts : Starts config readers w.tree imp) :
      Runs w (.restart config readers) ⟨imp, w.tree⟩
  | edit (tree : FileTree) : Runs w (.edit tree) ⟨w.importer, tree⟩

/-- The worlds that operations lead to after an importer has been started. -/
inductive Reachable : World → Prop
  | start {config : Config} {readers : List WorkbookReader} {t : FileTree} {imp : Importer}
      (starts : Starts config readers t imp) : Reachable ⟨imp, t⟩
  | run {w w' : World} {op : Operation} (reachable : Reachable w)
      (runs : w.Runs op w') : Reachable w'

theorem Starts.eq {config : Config} {readers : List WorkbookReader} {t : FileTree} {imp : Importer}
    (h : Starts config readers t imp) : imp.IsSound ∧ imp.config = config ∧
      imp.generator = .builtIn config.language ∧
        ∃ texts, t.texts config.entityDir = .ok texts ∧
          imp.registry = (Registry.empty.addTexts texts).1 := by
  obtain ⟨hentity, hcontainer, t', hstart⟩ := h
  obtain ⟨-, hvalid, hdirs, texts, htexts, rfl⟩ :=
    (start_eq_ok_iff hentity hcontainer).mp hstart
  have hdir : ∀ dir ∈ config.outputDirs, dir.text ≠ "" := by
    intro dir hdir hempty
    have h := hdirs dir hdir
    obtain ⟨l, hresolve, -⟩ := isDirectory_eq_true_iff.mp h
    simp [FileTree.resolve, hempty] at hresolve
  exact ⟨⟨hvalid, rfl, hdir _ (by simp [Config.outputDirs]),
    hdir _ (by simp [Config.outputDirs]),
    hdir _ (by simp [Config.outputDirs])⟩, rfl, rfl, texts, htexts, rfl⟩

theorem imported_isSound {w : World} (h : w.importer.IsSound) (path : Path) :
    (w.imported path).importer.IsSound :=
  (w.imports path).isSound h

/-- The importers of all worlds are sound. -/
theorem Reachable.isSound {w : World} (h : w.Reachable) : w.importer.IsSound := by
  induction h with
  | start starts => exact starts.eq.1
  | @run w w' op _ runs ih =>
    cases runs with
    | changed paths =>
      exact changed_induction (P := fun v => v.importer.IsSound)
        (fun v path _ hv => imported_isSound hv path) ih
    | removed paths => exact ih
    | reload =>
      have himporter : w.reloaded.importer =
          { w.importer with registry := w.reloaded.importer.registry } := by
        simp only [reloaded, reload_run]
        cases w.tree.texts w.importer.config.entityDir <;> rfl
      rw [himporter]
      exact ih.withRegistry _
    | restart starts => exact starts.eq.1
    | edit => exact ih

/-! ## What disturbs a source -/

/-- Every text in the entity directory that declares the entity of a source gives the descriptor
that its own declaration gives. -/
def Agrees (w : World) (stem : String) : Prop :=
  ∀ texts, w.tree.texts w.importer.config.entityDir = .ok texts → ∀ text ∈ texts, ∀ d,
    Descriptor.extract? text = some d → d.entity = w.importer.config.entityName stem →
      ∃ own, w.tree.read (w.entityPath stem) = .ok own ∧ Descriptor.extract? own = some d

/-- The operation leaves the source with a stem as it is: it does not write another container over
the declaration of the entity, removes none of the two declarations, keeps their places and names,
and finds no declaration of the entity that differs when it rebuilds the registry. -/
def Leaves (w : World) (stem : String) : Operation → Prop
  | .changed paths => ∀ path ∈ paths, ∀ other, w.importer.sourceStem? path = some other →
      other ≠ stem → ¬w.tree.SameFile (w.containerPath other) (w.entityPath stem)
  | .removed paths => ∀ path ∈ paths, ∀ other, w.importer.sourceStem? path = some other →
      ∀ file ∈ w.importer.artifacts other, ¬w.tree.SameFile file (w.entityPath stem) ∧
        ¬w.tree.SameFile file (w.containerPath stem)
  | .reload => w.Agrees stem
  | .restart config _ => config.entityDir = w.importer.config.entityDir ∧
      config.containerDir = w.importer.config.containerDir ∧
      config.language = w.importer.config.language ∧
      config.entityPrefix = w.importer.config.entityPrefix ∧
      config.containerPrefix = w.importer.config.containerPrefix ∧ w.Agrees stem
  | .edit tree => tree.content? (w.entityPath stem) = w.tree.content? (w.entityPath stem) ∧
      tree.content? (w.containerPath stem) = w.tree.content? (w.containerPath stem)

/-- Importing some changed sources reports an outcome for the source with a stem, in the place
`i`. -/
def Reports (w : World) (paths : List Path) (i : Nat) (stem : String) (o : SourceOutcome) : Prop :=
  ∃ s path, w.summary paths = .ok s ∧ s.sources[i]? = some o ∧ paths[i]? = some path ∧
    w.importer.sourceStem? path = some stem

/-- An import of the source with a stem reported that its declarations were written, and no
operation has disturbed it since. -/
inductive Standing (stem : String) : World → Prop
  | wrote {w : World} {paths : List Path} {i : Nat} {o : SourceOutcome} (reachable : w.Reachable)
      (reports : w.Reports paths i stem o) (wrote : o.WroteDeclarations) :
      Standing stem (w.changed (paths.take (i + 1)))
  | run {w w' : World} {op : Operation} (standing : Standing stem w) (leaves : w.Leaves stem op)
      (runs : w.Runs op w') : Standing stem w'

variable {w w' : World} {stem : String}

/-- What imports of some sources leave as it is. -/
theorem changed_preserves (w : World) (paths : List Path) :
    (w.changed paths).importer.config = w.importer.config ∧
      (w.changed paths).importer.generator = w.importer.generator ∧
        w.tree.SameDirectories (w.changed paths).tree := by
  refine changed_induction (P := fun v => v.importer.config = w.importer.config ∧
    v.importer.generator = w.importer.generator ∧ w.tree.SameDirectories v.tree)
    (fun v path _ hv => ?_) ⟨rfl, rfl, .refl _⟩
  obtain ⟨hconfig, hgenerator, -, hdirectories⟩ := (v.imports path).preserves
  exact ⟨hconfig.trans hv.1, hgenerator.trans hv.2.1, hv.2.2.trans hdirectories⟩

theorem sourceStem?_eq {imp imp' : Importer} (h : imp'.config = imp.config) (path : Path) :
    imp'.sourceStem? path = imp.sourceStem? path := by
  simp only [sourceStem?, h]

/-- A report is about one import. -/
theorem Reports.outcome {paths : List Path} {i : Nat} {o : SourceOutcome}
    (h : w.Reports paths i stem o) :
    ∃ path, (w.changed (paths.take i)).importer.sourceStem? path = some stem ∧
      (w.changed (paths.take i)).outcome path = .ok o ∧
        w.changed (paths.take (i + 1)) = (w.changed (paths.take i)).imported path := by
  obtain ⟨s, path, hs, ho, hpath, hstem⟩ := h
  obtain ⟨path', hpath', houtcome, himported⟩ := outcome_of_summary hs ho
  obtain rfl := Option.some.inj (hpath.symm.trans hpath')
  refine ⟨path, ?_, houtcome, himported⟩
  rw [sourceStem?_eq (w.changed_preserves _).1, hstem]

/-! ## Declarations that are left alone -/

theorem Declares.imported (h : w.Declares stem) (hsound : w.importer.IsSound)
    (hstem : '/' ∉ stem.toList) {path : Path}
    (hfile : ∀ other, w.importer.sourceStem? path = some other → other ≠ stem →
      ¬w.tree.SameFile (w.containerPath other) (w.entityPath stem)) :
    (w.imported path).Declares stem := by
  cases hpath : w.importer.sourceStem? path with
  | none =>
    have hsource : w.importer.source? path = none := by simp [source?, hpath]
    obtain ⟨himporter, htree⟩ := (w.imports path).eq_of_source? hsource
    change Declares ⟨(w.imported path).importer, (w.imported path).tree⟩ stem
    rw [himporter, htree]
    exact h
  | some other =>
    by_cases hother : other = stem
    · exact (w.imports path).keeps_own hsound (hother ▸ hpath) h
    · exact (w.imports path).keeps_other hsound hstem hpath hother (hfile other hpath hother) h

theorem Declares.changed (h : w.Declares stem) (hsound : w.importer.IsSound)
    (hstem : '/' ∉ stem.toList) {paths : List Path} (hleaves : w.Leaves stem (.changed paths)) :
    (w.changed paths).Declares stem := by
  let P : World → Prop := fun v => v.Declares stem ∧ v.importer.IsSound ∧
    v.importer.config = w.importer.config ∧ v.importer.generator = w.importer.generator ∧
      w.tree.SameDirectories v.tree
  refine (changed_induction (P := P) ?_ ⟨h, hsound, rfl, rfl, .refl _⟩).1
  rintro v path hpath ⟨hv, hvsound, hconfig, hgenerator, hdirectories⟩
  obtain ⟨hconfig', hgenerator', -, hdirectories'⟩ := (v.imports path).preserves
  refine ⟨hv.imported hvsound hstem ?_, imported_isSound hvsound path, hconfig'.trans hconfig,
    hgenerator'.trans hgenerator, hdirectories.trans hdirectories'⟩
  intro other hother hne
  rw [sourceStem?_eq hconfig] at hother
  rw [hdirectories.sameFile_iff, containerPath_eq hconfig hgenerator,
    entityPath_eq hconfig hgenerator]
  exact hleaves path hpath other hother hne

theorem removeFiles_induction {P : FileTree → Prop} : ∀ {files : List Path} {t : FileTree},
    (∀ file ∈ files, ∀ t t', P t → t.remove file = .ok t' → P t') →
      P t → P ((removeFiles files : StateM FileTree _) t).2
  | [], _, _, ht => ht
  | file :: rest, t, hstep, ht => by
    obtain ⟨hfile, hrest⟩ := List.forall_mem_cons.mp hstep
    rw [removeFiles, run_bind]
    cases hremove : t.remove file with
    | ok t' =>
      rw [FileStore.remove_of_ok hremove]
      simp only [run_bind]
      exact removeFiles_induction hrest (hfile t t' ht hremove)
    | error fault =>
      rw [FileStore.remove_of_error hremove]
      cases fault with
      | notFound => exact removeFiles_induction hrest ht
      | _ => exact ht

/-- What every removal of an artifact keeps, the removal of those of some sources keeps. -/
theorem removeAll_induction {P : FileTree → Prop} (imp : Importer) :
    ∀ {paths : List Path} {t : FileTree},
    (∀ path ∈ paths, ∀ stem, imp.sourceStem? path = some stem →
      ∀ file ∈ imp.artifacts stem,
      ∀ t t', P t → t.remove file = .ok t' → P t') →
        P t → P ((imp.removeAll paths : StateM FileTree _) t).2
  | [], t, _, ht => ht
  | path :: rest, t, hstep, ht => by
    obtain ⟨hpath, hrest⟩ := List.forall_mem_cons.mp hstep
    rw [removeAll]
    cases hstem : imp.sourceStem? path with
    | none => exact removeAll_induction imp hrest ht
    | some stem =>
      have hfiles := removeFiles_induction (hpath stem hstem) ht
      simp only [run_bind]
      cases hremoved : ((removeFiles (imp.artifacts stem) : StateM FileTree _) t).1 with
      | error e => exact hfiles
      | ok removed =>
        simp only [run_bind]
        exact removeAll_induction imp hrest hfiles

theorem Declares.removed (h : w.Declares stem) {paths : List Path}
    (hleaves : w.Leaves stem (.removed paths)) : (w.removed paths).Declares stem := by
  let P : FileTree → Prop := fun t => w.tree.SameDirectories t ∧
    t.content? (w.entityPath stem) = w.tree.content? (w.entityPath stem) ∧
      t.content? (w.containerPath stem) = w.tree.content? (w.containerPath stem)
  have hkept : P (w.removed paths).tree := by
    refine removeAll_induction w.importer (P := P) ?_ ⟨.refl _, rfl, rfl⟩
    rintro path hpath other hother file hfile t t' ⟨hdirectories, hentity, hcontainer⟩ hremove
    obtain ⟨hentityFile, hcontainerFile⟩ := hleaves path hpath other hother file hfile
    rw [← hdirectories.sameFile_iff] at hentityFile hcontainerFile
    exact ⟨hdirectories.trans (sameDirectories_remove hremove),
      (content?_remove_other hremove hentityFile).trans hentity,
      (content?_remove_other hremove hcontainerFile).trans hcontainer⟩
  obtain ⟨hdirectories, hentity, hcontainer⟩ := hkept
  exact h.keep rfl rfl rfl ⟨hdirectories, hentity, fun c hc => ⟨c, hcontainer.trans hc⟩⟩

/-- A registry that is rebuilt has the descriptor of a declared source, if nothing else in the
entity directory declares the entity. -/
theorem Declares.rebuilt (h : w.Declares stem) (hsound : w.importer.IsSound)
    (hstem : '/' ∉ stem.toList) (hagrees : w.Agrees stem) :
    ∃ texts, w.tree.texts w.importer.config.entityDir = .ok texts ∧
      (Registry.empty.addTexts texts).1.get? (w.importer.config.entityName stem) =
        w.importer.registry.get? (w.importer.config.entityName stem) := by
  obtain ⟨-, own, d, hown, hextract, hd⟩ := World.declares_iff.mp h
  obtain ⟨names, hfiles, hname⟩ :=
    mem_files hsound.entityDir (isName_entity hsound.valid hstem) hown
  have hread : w.tree.read (w.entityPath stem) = .ok own := read_eq_ok_iff.mpr hown
  refine ⟨_, FileTree.texts_of_files hfiles, ?_⟩
  rw [hd]
  refine Registry.get?_addTexts _ (fun text htext e he hentity => ?_) (.inl ⟨own, ?_, hextract⟩)
    (Registry.entity_of_get? hd)
  · obtain ⟨own', hread', hextract'⟩ :=
      hagrees _ (FileTree.texts_of_files hfiles) text htext e he hentity
    obtain rfl := Except.ok.inj (hread.symm.trans hread')
    exact Option.some.inj (hextract'.symm.trans hextract)
  · refine List.mem_filterMap.mpr ⟨_, List.mem_mergeSort.mpr hname, ?_⟩
    change (w.tree.read (w.entityPath stem)).toOption = some own
    rw [hread]
    rfl

theorem Declares.reloaded (h : w.Declares stem) (hsound : w.importer.IsSound)
    (hstem : '/' ∉ stem.toList) (hagrees : w.Agrees stem) : w.reloaded.Declares stem := by
  obtain ⟨texts, htexts, hget⟩ := h.rebuilt hsound hstem hagrees
  have hreloaded : w.reloaded =
      ⟨{ w.importer with registry := (Registry.empty.addTexts texts).1 }, w.tree⟩ := by
    simp only [World.reloaded, reload_run, htexts]
  rw [hreloaded]
  exact h.keep rfl rfl hget (.refl _)

/-- What leaves a declared source as it is keeps it declared. -/
theorem Declares.run {op : Operation} (h : w.Declares stem) (hsound : w.importer.IsSound)
    (hstem : '/' ∉ stem.toList) (hleaves : w.Leaves stem op) (hruns : w.Runs op w') :
    w'.Declares stem := by
  cases hruns with
  | changed paths => exact h.changed hsound hstem hleaves
  | removed paths => exact h.removed hleaves
  | reload => exact h.reloaded hsound hstem hleaves
  | @restart config readers imp starts =>
    obtain ⟨hentityDir, hcontainerDir, hlanguage, hentityPrefix, hcontainerPrefix, hagrees⟩ :=
      hleaves
    obtain ⟨-, rfl, hgenerator, texts', htexts', hregistry⟩ := starts.eq
    obtain ⟨texts, htexts, hget⟩ := h.rebuilt hsound hstem hagrees
    have hsame : imp.generator = w.importer.generator := by
      rw [hgenerator, hsound.builtIn, hlanguage]
    rw [hentityDir] at htexts'
    obtain rfl := Except.ok.inj (htexts.symm.trans htexts')
    refine h.keep ?_ ?_ ?_ (.refl _)
    · simp only [entityPath, Importer.entityPath, Config.entityName, hsame, hentityDir,
        hentityPrefix]
    · simp only [containerPath, Importer.containerPath, Config.containerName, hsame, hcontainerDir,
        hcontainerPrefix]
    · simpa only [hregistry, Config.entityName, hentityPrefix] using hget
  | edit tree =>
    obtain ⟨hentity, hcontainer⟩ := hleaves
    rw [declares_iff, ← hentity, ← hcontainer] at h
    exact declares_iff.mpr h

/-! ## Reports -/

theorem Reports.no_slash {paths : List Path} {i : Nat} {o : SourceOutcome}
    (h : w.Reports paths i stem o) : '/' ∉ stem.toList := by
  obtain ⟨path, hpath, -⟩ := h.outcome
  exact Path.no_slash_of_stem? (stem?_of_sourceStem? hpath)

theorem Reachable.changed (h : w.Reachable) (paths : List Path) : (w.changed paths).Reachable :=
  .run h (.changed paths)

/-- A source is declared right after an import that reports that its declarations were written. -/
theorem Reports.declares {paths : List Path} {i : Nat} {o : SourceOutcome}
    (h : w.Reports paths i stem o) (hw : w.Reachable) (hwrote : o.WroteDeclarations) :
    (w.changed (paths.take (i + 1))).Declares stem := by
  obtain ⟨path, hpath, houtcome, himported⟩ := h.outcome
  have himports := (w.changed (paths.take i)).imports path
  rw [houtcome] at himports
  rw [himported]
  exact himports.declares_of_wrote (hw.changed _).isSound hpath hwrote

/-- A source that stands is declared. -/
theorem Standing.declares (h : Standing stem w) :
    w.Declares stem ∧ w.Reachable ∧ '/' ∉ stem.toList := by
  induction h with
  | wrote reachable reports wrote =>
    exact ⟨reports.declares reachable wrote, reachable.changed _, reports.no_slash⟩
  | run standing leaves runs ih =>
    obtain ⟨hdeclares, hreachable, hstem⟩ := ih
    exact ⟨hdeclares.run hreachable.isSound hstem leaves runs, .run hreachable runs, hstem⟩

/-- Right after an import that reports that the declarations of a source were written both of them
are there, and the one of its entity gives the descriptor in the registry. An import that is
reported as unchanged leaves it as it was whether this is so, and it is so if the source stands. -/
theorem declares_of_reports {paths : List Path} {i : Nat} {o : SourceOutcome} (hw : w.Reachable)
    (h : w.Reports paths i stem o) :
    (o.WroteDeclarations → (w.changed (paths.take (i + 1))).Declares stem) ∧
      ∀ n, o.status = .unchanged n →
        ((w.changed (paths.take (i + 1))).Declares stem ↔
          (w.changed (paths.take i)).Declares stem) ∧
          (Standing stem (w.changed (paths.take i)) →
            (w.changed (paths.take (i + 1))).Declares stem) := by
  refine ⟨h.declares hw, fun n hn => ?_⟩
  obtain ⟨path, hpath, houtcome, himported⟩ := h.outcome
  have himports := (w.changed (paths.take i)).imports path
  rw [houtcome] at himports
  have hiff := himports.declares_iff_of_unchanged (hw.changed _).isSound hpath hn
  rw [himported]
  exact ⟨hiff, fun hstanding => hiff.mpr hstanding.declares.1⟩

/-! ## A source that is removed and comes back -/

/-- The path of the source. -/
def itemsPath : Path := ⟨"Items.json"⟩

/-- A source with one column and no rows, and three empty directories. -/
def itemsTree : FileTree := .ofEntries [
  (["entity"], .directory), (["container"], .directory), (["data"], .directory),
  (["Items.json"],
    .file (.text "\x7b\"sheets\":[\x7b\"name\":\"S\",\"rows\":[[\"id\"],[\"int\"]]\x7d]\x7d"))]

/-- An importer with an empty registry, started on these files. -/
def itemsWorld : World where
  importer := {
    config :=
      { entityDir := ⟨"entity"⟩, containerDir := ⟨"container"⟩, dataDir := ⟨"data"⟩ }
    generator := .builtIn .csharp
    registry := .empty }
  tree := itemsTree

theorem starts_items : Starts itemsWorld.importer.config [] itemsTree itemsWorld.importer := by
  have htexts : itemsTree.texts itemsWorld.importer.config.entityDir = .ok [] :=
    FileTree.texts_of_empty rfl
  exact ⟨rfl, rfl, itemsTree,
    (start_eq_ok_iff rfl rfl).mpr ⟨rfl, rfl, by decide +kernel, [], htexts, rfl⟩⟩

theorem reachable_items : itemsWorld.Reachable :=
  .start starts_items

/-- A report on the one source, from what an evaluation of its import gives. -/
theorem reports_items {w : World} {o : SourceOutcome}
    (hstem : w.importer.sourceStem? itemsPath = some "Items")
    (h : (w.summary [itemsPath]).toOption = some ⟨[o]⟩) :
    w.Reports [itemsPath] 0 "Items" o := by
  cases hsummary : w.summary [itemsPath] with
  | error e => simp [hsummary, Except.toOption] at h
  | ok s =>
    obtain rfl : s = ⟨[o]⟩ := by simpa [hsummary, Except.toOption] using h
    exact ⟨_, itemsPath, hsummary, rfl, rfl, hstem⟩

/-- The outcome of the first import of the source. -/
def itemsCompiled : SourceOutcome :=
  ⟨itemsPath, some "Entity_Items", .compiled 0,
    [⟨"entity/Entity_Items.cs"⟩, ⟨"container/Scriptable_Items.cs"⟩,
      ⟨"data/Scriptable_Items.json"⟩]⟩

/-- The outcome of an import after which nothing has changed. -/
def itemsUnchanged : SourceOutcome :=
  ⟨itemsPath, some "Entity_Items", .unchanged 0, [⟨"data/Scriptable_Items.json"⟩]⟩

theorem compiled_items : itemsWorld.Reports [itemsPath] 0 "Items" itemsCompiled :=
  reports_items (by decide +kernel) (by decide +kernel)

theorem unchanged_items :
    (itemsWorld.changed [itemsPath]).Reports [itemsPath] 0 "Items" itemsUnchanged :=
  reports_items (by decide +kernel) (by decide +kernel)

theorem declares_items :
    itemsWorld.Reports [itemsPath] 0 "Items" itemsCompiled ∧
      (itemsWorld.changed [itemsPath]).Declares "Items" ∧
        (itemsWorld.changed [itemsPath]).Reports [itemsPath] 0 "Items" itemsUnchanged ∧
          ((itemsWorld.changed [itemsPath]).changed [itemsPath]).Declares "Items" := by
  have hwrote : itemsCompiled.WroteDeclarations := .inl ⟨0, rfl⟩
  have hstanding : Standing "Items" (itemsWorld.changed [itemsPath]) :=
    @Standing.wrote "Items" itemsWorld [itemsPath] 0 itemsCompiled reachable_items
      compiled_items hwrote
  have hunchanged :=
    (declares_of_reports (reachable_items.changed [itemsPath]) unchanged_items).2 0 rfl
  rw [List.take_zero, changed_nil] at hunchanged
  exact ⟨compiled_items, (declares_of_reports reachable_items compiled_items).1 hwrote,
    unchanged_items, hunchanged.2 hstanding⟩

/-- A source whose container declaration is missing is not declared. -/
theorem not_declares (h : w.tree.isFile (w.containerPath stem) = false) : ¬w.Declares stem :=
  fun hdeclares => Bool.false_ne_true (h.symm.trans hdeclares.container)

/-- The import of a source that was removed is reported as unchanged, and does not bring its
declarations back. -/
theorem unchanged_after_removal :
    Starts itemsWorld.importer.config [] itemsTree itemsWorld.importer ∧
      itemsWorld.Reports [itemsPath] 0 "Items" itemsCompiled ∧
        ((itemsWorld.changed [itemsPath]).removed [itemsPath]).Reports [itemsPath] 0 "Items"
          itemsUnchanged ∧
            ¬(((itemsWorld.changed [itemsPath]).removed [itemsPath]).changed [itemsPath]).Declares
              "Items" := by
  refine ⟨starts_items, compiled_items, ?_, not_declares ?_⟩
  · exact reports_items (by decide +kernel) (by decide +kernel)
  · decide +kernel

/-! ## A restart with another prefix -/

/-- An importer that is started where one declaration stands has its descriptor. -/
theorem starts_of_files {config : Config} {t : FileTree} {name text : String} {d : Descriptor}
    (hentity : config.entityTemplate = none) (hcontainer : config.containerTemplate = none)
    (hvalid : config.validate = .ok ())
    (hdirs : ∀ dir ∈ config.outputDirs, t.isDirectory dir = true)
    (hfiles : t.files config.entityDir = .ok [name])
    (hread : t.read (config.entityDir.join name) = .ok text)
    (hextract : Descriptor.extract? text = some d) :
    Starts config [] t ⟨config, .builtIn config.language, ⟨[d]⟩, [.json]⟩ := by
  have htexts : t.texts config.entityDir = .ok [text] := by
    rw [texts_of_files hfiles]
    simp [sortNames, hread, Except.toOption]
  refine ⟨hentity, hcontainer, t, (start_eq_ok_iff hentity hcontainer).mpr
    ⟨rfl, hvalid, hdirs, [text], htexts, ?_⟩⟩
  simp only [Registry.addTexts, hextract]
  rfl

/-- The settings, with another prefix of containers. -/
def renamedConfig : Config :=
  { itemsWorld.importer.config with containerPrefix := "Table_" }

/-- An importer with another prefix of containers has taken the place of the one that imported the
source. -/
def renamedContainers : World where
  importer :=
    ⟨renamedConfig, .builtIn .csharp, ⟨[⟨"Entity_Items", ["id"], ["int"]⟩]⟩, [.json]⟩
  tree := (itemsWorld.changed [itemsPath]).tree

theorem starts_renamedContainers :
    Starts renamedConfig [] (itemsWorld.changed [itemsPath]).tree renamedContainers.importer := by
  have hdeclares : (itemsWorld.changed [itemsPath]).Declares "Items" :=
    compiled_items.declares reachable_items (.inl ⟨0, rfl⟩)
  obtain ⟨text, d, htext, hextract, hget⟩ := hdeclares.entity
  have hd : (itemsWorld.changed [itemsPath]).importer.registry.get?
      ((itemsWorld.changed [itemsPath]).importer.config.entityName "Items") =
      some ⟨"Entity_Items", ["id"], ["int"]⟩ := by decide +kernel
  obtain rfl := Option.some.inj (hd.symm.trans hget)
  have hpath : (itemsWorld.changed [itemsPath]).entityPath "Items" =
      renamedConfig.entityDir.join "Entity_Items.cs" := by decide +kernel
  have hfiles : (itemsWorld.changed [itemsPath]).tree.files renamedConfig.entityDir =
      .ok ["Entity_Items.cs"] := by decide +kernel
  have hdirs : ∀ dir ∈ renamedConfig.outputDirs,
      (itemsWorld.changed [itemsPath]).tree.isDirectory dir = true := by decide +kernel
  rw [hpath] at htext
  exact starts_of_files rfl rfl (by decide +kernel) hdirs hfiles htext hextract

/-- After the restart the import of the source is reported as unchanged, and writes no container
declaration of the new name. -/
theorem unchanged_after_restart :
    itemsWorld.Reports [itemsPath] 0 "Items" itemsCompiled ∧
      (itemsWorld.changed [itemsPath]).Runs (.restart renamedConfig []) renamedContainers ∧
        renamedContainers.Reports [itemsPath] 0 "Items"
          ⟨itemsPath, some "Entity_Items", .unchanged 0, [⟨"data/Table_Items.json"⟩]⟩ ∧
            ¬(renamedContainers.changed [itemsPath]).Declares "Items" := by
  refine ⟨compiled_items, .restart starts_renamedContainers, ?_, not_declares ?_⟩
  · exact reports_items (by decide +kernel) (by decide +kernel)
  · decide +kernel

end World

end TypedSheets
