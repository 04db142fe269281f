import TypedSheets.Proofs.Locality

/-!
# What an import depends on and what it changes

The import of a source changes nothing but the descriptors of its entity and the files generated for
it (`World.ChangedFor.imported`). It depends on these, on the file of the source, on the settings of
the importer and on the directories: in worlds that agree on them (`World.AlikeFor`) it has the same
outcome, and it leaves them alike (`World.AlikeFor.imported`). A file that cannot be opened makes an
exception, for two worlds may agree that it cannot be and not agree why
(`SourceOutcome.SameButFault`).
-/

namespace TypedSheets

open FileTree Importer

namespace Importer

variable {imp : Importer} {path : Path} {s : Source} {t : FileTree}

theorem importSource_of_ignored (source : imp.source? path = none) :
    (imp.importSource path : StateM FileTree _) t =
      (⟨imp, [ignoredEvent path], .ok ⟨path, none, .ignored, []⟩⟩, t) := by
  simp only [importSource, source]
  rfl

/-- A source whose file cannot be read leaves everything as it was. -/
theorem importSource_of_fault {fault : FileFault} (source : imp.source? path = some s)
    (hread : t.readContent path = .error fault) : (imp.importSource path : StateM FileTree _) t =
      (⟨imp, [], .ok (s.outcome (.unreadable (WorkbookError.unreadable path fault).message))⟩,
        t) := by
  simp only [importSource, source, WorkbookReader.open, run_bind, FileStore.readContent_run, hread]
  rfl

/-- So does a source whose file holds no workbook. -/
theorem importSource_of_undecoded {content : Content} {e : WorkbookError}
    (source : imp.source? path = some s) (hread : t.readContent path = .ok content)
    (hdecode : s.reader.decode path content = .error e) :
    (imp.importSource path : StateM FileTree _) t =
      (⟨imp, [], .ok (s.outcome (.unreadable e.message))⟩, t) := by
  simp only [importSource, source, run_bind, WorkbookReader.open_of_content hread, hdecode]
  rfl

end Importer

namespace World

variable {w w' w'' : World} {p : Path} {stem : String} {l : FileLocation} {o : SourceOutcome}

/-- A file generated for the source with a stem stands at the location, or would stand there. -/
def IsArtifact (w : World) (stem : String) (l : FileLocation) : Prop :=
  ∃ f ∈ w.importer.artifacts stem, w.tree.resolve f = .ok l

/-- The importers are set up alike, and there are the same directories. -/
structure SameSetting (w w' : World) : Prop where
  config : w'.importer.config = w.importer.config
  generator : w'.importer.generator = w.importer.generator
  readers : w'.importer.readers = w.importer.readers
  directories : w.tree.SameDirectories w'.tree

namespace SameSetting

theorem refl (w : World) : w.SameSetting w :=
  ⟨rfl, rfl, rfl, .refl _⟩

theorem symm (h : w.SameSetting w') : w'.SameSetting w :=
  ⟨h.config.symm, h.generator.symm, h.readers.symm, h.directories.symm⟩

theorem trans (h : w.SameSetting w') (h' : w'.SameSetting w'') : w.SameSetting w'' :=
  ⟨h'.config.trans h.config, h'.generator.trans h.generator, h'.readers.trans h.readers,
    h.directories.trans h'.directories⟩

theorem imported (w : World) (p : Path) : w.SameSetting (w.imported p) := by
  obtain ⟨hconfig, hgenerator, hreaders, hdirectories⟩ := (w.imports p).preserves
  exact ⟨hconfig, hgenerator, hreaders, hdirectories⟩

theorem importer_eq (h : w.SameSetting w') :
    w'.importer = { w.importer with registry := w'.importer.registry } := by
  obtain ⟨⟨_, _, registry, _⟩, _⟩ := w'
  obtain ⟨rfl, rfl, rfl, -⟩ := h
  rfl

theorem source?_eq (h : w.SameSetting w') (p : Path) :
    w'.importer.source? p = w.importer.source? p := by
  rw [h.importer_eq]
  rfl

theorem sourceStem?_eq (h : w.SameSetting w') (p : Path) :
    w'.importer.sourceStem? p = w.importer.sourceStem? p := by
  rw [h.importer_eq]
  rfl

theorem isArtifact_iff (h : w.SameSetting w') : w'.IsArtifact stem l ↔ w.IsArtifact stem l := by
  have hartifacts : w'.importer.artifacts stem = w.importer.artifacts stem := by
    rw [h.importer_eq]
    rfl
  simp only [IsArtifact, hartifacts, h.directories.resolve_eq_ok_iff]

end SameSetting

/-! ## What imports change -/

/-- From one world to the other, nothing has changed but what belongs to sources with some stems:
the descriptors of their entities and the files generated for them. -/
structure ChangedFor (stems : String → Prop) (w w' : World) : Prop extends SameSetting w w' where
  entries : ∀ entity, (∀ stem, stems stem → w.importer.config.entityName stem ≠ entity) →
    w'.importer.registry.entriesOf entity = w.importer.registry.entriesOf entity
  nodes : ∀ l, (∀ stem, stems stem → ¬w.IsArtifact stem l) →
    w'.tree.node? l = w.tree.node? l

theorem ChangedFor.refl (stems : String → Prop) (w : World) : ChangedFor stems w w :=
  ⟨.refl w, fun _ _ => rfl, fun _ _ => rfl⟩

theorem ChangedFor.trans {stems : String → Prop} (h : ChangedFor stems w w')
    (h' : ChangedFor stems w' w'') : ChangedFor stems w w'' where
  toSameSetting := h.toSameSetting.trans h'.toSameSetting
  entries entity hentity :=
    (h'.entries entity (by rwa [h.config])).trans (h.entries entity hentity)
  nodes l hl :=
    (h'.nodes l (by simpa only [h.isArtifact_iff] using hl)).trans (h.nodes l hl)

/-- An import changes nothing but what belongs to its source. -/
theorem ChangedFor.imported (w : World) (p : Path) :
    ChangedFor (fun stem => w.importer.sourceStem? p = some stem) w (w.imported p) := by
  have himports := w.imports p
  cases hs : w.importer.source? p with
  | none =>
    obtain ⟨himporter, htree⟩ := himports.eq_of_source? hs
    rw [imported_eq_self himporter htree]
    exact .refl _ w
  | some s =>
    obtain ⟨stem, hstem, hentity, hcontainer⟩ := exists_sourceStem hs
    refine ⟨.imported w p, fun entity hne => ?_, fun l hl => ?_⟩
    · exact himports.entriesOf_eq hs (hentity ▸ (hne stem hstem).symm)
    · have hnot : ∀ f ∈ w.importer.artifacts stem, w.tree.resolve f ≠ .ok l :=
        fun f hf hresolve => hl stem hstem ⟨f, hf, hresolve⟩
      simp only [artifacts, ← hentity, ← hcontainer, List.forall_mem_cons] at hnot
      exact himports.node?_eq hs hnot.1 hnot.2.1 hnot.2.2.1

theorem ChangedFor.mono {stems others : String → Prop} (h : ChangedFor stems w w')
    (hstems : ∀ stem, stems stem → others stem) : ChangedFor others w w' :=
  ⟨h.toSameSetting, fun entity he => h.entries entity fun stem hstem =>
    he stem (hstems stem hstem),
    fun l hl => h.nodes l fun stem hstem => hl stem (hstems stem hstem)⟩

/-- Imports of some sources change nothing but what belongs to them. -/
theorem ChangedFor.changed (w : World) (paths : List Path) :
    ChangedFor (fun stem => ∃ p ∈ paths, w.importer.sourceStem? p = some stem) w
      (w.changed paths) := by
  refine changed_induction (fun v p hp hv => ?_) (.refl _ w)
  refine hv.trans ((ChangedFor.imported v p).mono fun stem hstem => ?_)
  exact ⟨p, hp, hv.sourceStem?_eq p ▸ hstem⟩

/-! ## What an import depends on -/

/-- The two worlds are alike in all that the import of a source depends on and changes. -/
structure AlikeFor (p : Path) (w w' : World) : Prop extends SameSetting w w' where
  entries : ∀ stem, w.importer.sourceStem? p = some stem →
    w'.importer.registry.entriesOf (w.importer.config.entityName stem) =
      w.importer.registry.entriesOf (w.importer.config.entityName stem)
  nodes : ∀ stem, w.importer.sourceStem? p = some stem →
    ∀ l, w.tree.resolve p = .ok l ∨ w.IsArtifact stem l → w'.tree.node? l = w.tree.node? l

namespace AlikeFor

theorem symm (h : AlikeFor p w w') : AlikeFor p w' w where
  toSameSetting := h.toSameSetting.symm
  entries stem hstem := by
    rw [h.sourceStem?_eq] at hstem
    rw [h.config, h.entries stem hstem]
  nodes stem hstem l hl := by
    rw [h.sourceStem?_eq] at hstem
    rw [h.directories.resolve_eq_ok_iff, h.isArtifact_iff] at hl
    exact (h.nodes stem hstem l hl).symm

theorem trans (h : AlikeFor p w w') (h' : AlikeFor p w' w'') : AlikeFor p w w'' where
  toSameSetting := h.toSameSetting.trans h'.toSameSetting
  entries stem hstem := by
    have hentries := h'.entries stem ((h.sourceStem?_eq p).trans hstem)
    rw [h.config] at hentries
    exact hentries.trans (h.entries stem hstem)
  nodes stem hstem l hl := by
    have hl' := hl
    rw [← h.directories.resolve_eq_ok_iff, ← h.isArtifact_iff] at hl'
    exact (h'.nodes stem ((h.sourceStem?_eq p).trans hstem) l hl').trans (h.nodes stem hstem l hl)

/-- The worlds stay alike if the import of the source changes them alike. -/
theorem of_import (h : AlikeFor p w w')
    (hentries : ∀ stem, w.importer.sourceStem? p = some stem →
      (w'.imported p).importer.registry.entriesOf (w.importer.config.entityName stem) =
        (w.imported p).importer.registry.entriesOf (w.importer.config.entityName stem))
    (halike : ChangedAlike w.tree (w.imported p).tree w'.tree (w'.imported p).tree) :
    AlikeFor p (w.imported p) (w'.imported p) where
  toSameSetting := ((SameSetting.imported w p).symm.trans h.toSameSetting).trans (.imported w' p)
  entries stem hstem := by
    rw [(SameSetting.imported w p).sourceStem?_eq] at hstem
    rw [(SameSetting.imported w p).config, hentries stem hstem]
  nodes stem hstem l hl := by
    have himported := SameSetting.imported w p
    rw [himported.sourceStem?_eq] at hstem
    rw [himported.directories.resolve_eq_ok_iff, himported.isArtifact_iff] at hl
    exact halike.node?_eq (h.nodes stem hstem l hl)

theorem of_imported_eq_self (h : AlikeFor p w w') (hw : w.imported p = w)
    (hw' : w'.imported p = w') : AlikeFor p (w.imported p) (w'.imported p) := by
  rwa [hw, hw']

/-- A workbook is imported alike in worlds that are alike for its source. -/
theorem imported_of_opens {s : Source} {v : Workbook} (h : AlikeFor p w w')
    (hs : w.importer.source? p = some s) (hopens : s.reader.Opens w.tree p v)
    (hopens' : s.reader.Opens w'.tree p v) (ho : w.outcome p = .ok o) :
    AlikeFor p (w.imported p) (w'.imported p) ∧ w'.outcome p = .ok o := by
  obtain ⟨stem, hstem, hentity, -⟩ := exists_sourceStem hs
  obtain ⟨himporter, hcarries⟩ := carriesOut_of_opens hs hopens
  obtain ⟨himporter', hcarries'⟩ := carriesOut_of_opens ((h.source?_eq p).trans hs) hopens'
  have hentries := h.entries stem hstem
  rw [← hentity] at hentries
  obtain ⟨hdecision, hregistry⟩ := plan_alike s v hentries
  rw [← h.importer_eq] at hdecision hregistry
  have hplanned : ∀ registry : Registry, ({ w'.importer with registry } : Importer) =
      { w.importer with registry } := fun registry => by rw [h.importer_eq]
  rw [hplanned, hdecision] at hcarries'
  rw [ho] at hcarries
  obtain ⟨hresult, halike⟩ :=
    hcarries.alike hcarries' (Registry.get?_congr hregistry) h.directories
  refine ⟨h.of_import (fun stem' hstem' => ?_) halike, hresult⟩
  obtain rfl := Option.some.inj (hstem.symm.trans hstem')
  rw [himporter, himporter', ← hentity]
  exact hregistry

end AlikeFor

end World

namespace SourceOutcome

variable {p : Path} {o o' o'' : SourceOutcome}

/-- The outcomes of the source at a path are the same, or its file cannot be opened and they differ
in what the system says why. -/
def SameButFault (p : Path) (o o' : SourceOutcome) : Prop :=
  o' = o ∨ ∃ fault fault', o.status = .unreadable (WorkbookError.unreadable p fault).message ∧
    o' = { o with status := .unreadable (WorkbookError.unreadable p fault').message }

theorem SameButFault.refl (p : Path) (o : SourceOutcome) : o.SameButFault p o :=
  .inl rfl

theorem SameButFault.symm (h : o.SameButFault p o') : o'.SameButFault p o := by
  obtain rfl | ⟨fault, fault', hstatus, rfl⟩ := h
  · exact .refl p o'
  · exact .inr ⟨fault', fault, rfl, by rw [← hstatus]⟩

theorem SameButFault.trans (h : o.SameButFault p o') (h' : o'.SameButFault p o'') :
    o.SameButFault p o'' := by
  obtain rfl | ⟨fault, fault', hstatus, rfl⟩ := h
  · exact h'
  · obtain rfl | ⟨_, fault'', -, rfl⟩ := h'
    · exact .inr ⟨fault, fault', hstatus, rfl⟩
    · exact .inr ⟨fault, fault'', hstatus, rfl⟩

end SourceOutcome

namespace World

variable {w w' : World} {p q : Path} {o : SourceOutcome}

theorem outcome_of_run {events : List Event}
    (hrun : (w.importer.importSource p : StateM FileTree _) w.tree =
      (⟨w.importer, events, .ok o⟩, w.tree)) :
    w.outcome p = .ok o ∧ w.imported p = w := by
  unfold World.outcome World.imported
  rw [hrun]
  exact ⟨rfl, rfl⟩

/-- The import of a source has the same outcome in worlds that are alike for it, and changes them
alike. If the file of the source cannot be opened, the reasons may differ. -/
theorem AlikeFor.imported (h : AlikeFor p w w') (ho : w.outcome p = .ok o) :
    AlikeFor p (w.imported p) (w'.imported p) ∧ ∃ o', w'.outcome p = .ok o' ∧
      o.SameButFault p o' ∧
      (((w.importer.sourceStem? p).isSome → w'.tree.readContent p = w.tree.readContent p) →
        o' = o) := by
  cases hs : w.importer.source? p with
  | none =>
    have hs' : w'.importer.source? p = none := (h.source?_eq p).trans hs
    obtain ⟨houtcome, himported⟩ := outcome_of_run (importSource_of_ignored hs)
    obtain ⟨houtcome', himported'⟩ := outcome_of_run (importSource_of_ignored hs')
    obtain rfl := Except.ok.inj (houtcome.symm.trans ho)
    exact ⟨h.of_imported_eq_self himported himported', _, houtcome', .refl p _, fun _ => rfl⟩
  | some s =>
    have hs' : w'.importer.source? p = some s := (h.source?_eq p).trans hs
    obtain ⟨stem, hstem, -⟩ := exists_sourceStem hs
    have hreads := h.directories.readContent_eq_or fun l hl => h.nodes stem hstem l (.inl hl)
    cases hread : w.tree.readContent p with
    | error fault =>
      obtain ⟨fault', hread'⟩ : ∃ fault', w'.tree.readContent p = .error fault' := by
        rcases hreads with hsame | ⟨-, hfault⟩
        · exact ⟨fault, hsame.trans hread⟩
        · exact hfault
      obtain ⟨houtcome, himported⟩ := outcome_of_run (importSource_of_fault hs hread)
      obtain ⟨houtcome', himported'⟩ := outcome_of_run (importSource_of_fault hs' hread')
      obtain rfl := Except.ok.inj (houtcome.symm.trans ho)
      refine ⟨h.of_imported_eq_self himported himported', _, houtcome',
        .inr ⟨fault, fault', rfl, rfl⟩, fun hsame => ?_⟩
      rw [Except.error.inj (hread'.symm.trans (hsame (by simp [hstem])))]
    | ok content =>
      have hread' : w'.tree.readContent p = .ok content := by
        rcases hreads with hsame | ⟨⟨fault, hfault⟩, -⟩
        · exact hsame.trans hread
        · cases hread.symm.trans hfault
      cases hdecode : s.reader.decode p content with
      | error e =>
        obtain ⟨houtcome, himported⟩ :=
          outcome_of_run (importSource_of_undecoded hs hread hdecode)
        obtain ⟨houtcome', himported'⟩ :=
          outcome_of_run (importSource_of_undecoded hs' hread' hdecode)
        obtain rfl := Except.ok.inj (houtcome.symm.trans ho)
        exact ⟨h.of_imported_eq_self himported himported', _, houtcome', .refl p _,
          fun _ => rfl⟩
      | ok v =>
        obtain ⟨halike, houtcome'⟩ := h.imported_of_opens hs ⟨content, hread, hdecode⟩
          ⟨content, hread', hdecode⟩ ho
        exact ⟨halike, o, houtcome', .refl p o, fun _ => rfl⟩

end World

end TypedSheets
