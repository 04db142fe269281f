import TypedSheets.Proofs.DataFile
import TypedSheets.Proofs.Footprint

/-!
# Importing a source again

An import that writes the records of its source leaves the source settled (`World.Settled`): the
registered descriptor is current, the records are loaded under it, and the file of records holds
them already. When a settled source is imported, this file is written with the text that it has, and
nothing changes (`World.Settled.imported`). A workbook whose first sheet is empty is never settled,
for no descriptor is current for it.

Main statement: `World.unchanged_again`.
-/

namespace TypedSheets

open FileTree Importer

namespace FileTree

variable {t t' : FileTree} {p : Path}

/-- The same stands in every place. -/
def SameNodes (t t' : FileTree) : Prop :=
  ∀ l, t'.node? l = t.node? l

theorem SameNodes.trans {t'' : FileTree} (h : t.SameNodes t') (h' : t'.SameNodes t'') :
    t.SameNodes t'' :=
  fun l => (h' l).trans (h l)

theorem SameNodes.sameDirectories (h : t.SameNodes t') : t.SameDirectories t' :=
  fun l => by rw [h l]

theorem SameNodes.content?_eq (h : t.SameNodes t') (p : Path) : t'.content? p = t.content? p :=
  content?_eq_of_node?_eq h.sameDirectories fun l _ => h l

/-- Writing the text that a file has changes nothing. -/
theorem exists_write_same {text : String} (h : t.content? p = some (.text text)) :
    ∃ t', t.write p text = .ok t' ∧ t.SameNodes t' := by
  obtain ⟨l, hresolve, hnode⟩ := content?_eq_some_iff.mp h
  have hdirectory : t.node? l ≠ some .directory := by simp [hnode]
  refine ⟨_, write_eq_ok_iff.mpr ⟨l, hresolve, hdirectory, rfl⟩, fun k => ?_⟩
  rw [node?_put t _ (isPlaced_of_resolve hresolve hdirectory)]
  split
  · next hk => rw [hk, hnode]
  · rfl

end FileTree

theorem WorkbookReader.Opens.of_content? {r : WorkbookReader} {t t' : FileTree} {path : Path}
    {v : Workbook} (h : r.Opens t path v) (hcontent : t'.content? path = t.content? path) :
    r.Opens t' path v := by
  obtain ⟨content, hread, hdecode⟩ := h
  exact ⟨content, readContent_eq_ok_iff.mpr (hcontent.trans (readContent_eq_ok_iff.mp hread)),
    hdecode⟩

/-- The first sheet of a workbook, if there is one, is not empty. -/
def Workbook.StartsFull (v : Workbook) : Prop :=
  ∀ first, v.sheets.head? = some first → first.schema ≠ .ok .empty

namespace Importer

variable {imp : Importer} {s : Source} {v : Workbook} {registry : Registry}

/-- The files generated for a source. -/
def generatedFiles (imp : Importer) (s : Source) : List Path :=
  [imp.entityPath s.entity, imp.containerPath s.container, imp.dataPath s.container]

theorem Plans.current_of_keep (h : Plans imp s v registry .keep) :
    needsCompile (registry.get? s.entity) v = false := by
  cases h with
  | current current => exact current

/-- The descriptor of new declarations is current from then on, unless the first sheet is empty. -/
theorem Plans.current_of_declare {text containerText : String}
    (h : Plans imp s v registry (.declare text containerText)) (hfull : v.StartsFull) :
    needsCompile (registry.get? s.entity) v = false := by
  cases h with
  | @declare schema _ _ stale success compiled entity container =>
    obtain ⟨hname, ⟨sheet, hsheet, -⟩, hall⟩ :=
      (Compilation.schema_eq_some_iff _ _ _).mp compiled
    obtain ⟨first, rest, hsheets⟩ := List.exists_cons_of_ne_nil (List.ne_nil_of_mem hsheet)
    have hfirst : v.sheets.head? = some first := by rw [hsheets]; rfl
    have hget : (imp.registry.put (.ofSchema schema)).get? s.entity = some (.ofSchema schema) := by
      rw [Registry.get?_put, Descriptor.ofSchema, if_pos hname.symm]
    rw [hget, needsCompile_ofSchema (Compilation.isDeclared_of_schema compiled)]
    exact ⟨first, hfirst,
      (hall first (hsheets ▸ List.mem_cons_self)).resolve_left (hfull first hfirst)⟩

end Importer

namespace World

variable {w : World} {path : Path} {s : Source} {v : Workbook} {records : List Record}
  {o : SourceOutcome}

/-- The import of the workbook of a source has nothing left to change: its descriptor is current,
and the records loaded under it stand in the file of records. -/
structure Settled (w : World) (s : Source) (v : Workbook) (records : List Record) : Prop where
  current : needsCompile (w.importer.registry.get? s.entity) v = false
  load : (w.importer.registry.load s.entity s.name v w.importer.config.policy).result = .ok records
  directory : w.tree.isDirectory w.importer.config.dataDir = true
  written : w.tree.content? (w.importer.dataPath s.container) = some (.text (recordsText records))

theorem Settled.of_sameNodes {w' : World} (h : Settled w s v records)
    (himporter : w'.importer = w.importer) (hnodes : w.tree.SameNodes w'.tree) :
    Settled w' s v records where
  current := himporter ▸ h.current
  load := himporter ▸ h.load
  directory := himporter ▸ hnodes.sameDirectories.isDirectory_eq h.directory
  written := by rw [himporter, hnodes.content?_eq, h.written]

/-- A source is settled once its records have been written under a current descriptor. -/
theorem Settled.of_records {imp : Importer} {status : Nat → SourceStatus} {before : List Path}
    {t t' : FileTree} (h : Records imp s v status before t t' (.ok o)) (hwrote : o.WroteRecords)
    (current : needsCompile (imp.registry.get? s.entity) v = false) :
    ∃ records, o.status = status records.length ∧ Settled ⟨imp, t'⟩ s v records ∧
      Wrote [imp.dataPath s.container] t t' := by
  cases h with
  | unloaded load => exact absurd hwrote (SourceOutcome.not_wroteRecords rfl)
  | @written _ records load directory write =>
    refine ⟨records, rfl, ⟨current, load, ?_, content?_write_self write⟩, .singleton write⟩
    exact (sameDirectories_write write).isDirectory_eq directory

/-- An import that writes the records of its source settles it, unless the first sheet is empty. -/
theorem Settled.of_imported (hs : w.importer.source? path = some s)
    (hopens : s.reader.Opens w.tree path v) (hfull : v.StartsFull) (ho : w.outcome path = .ok o)
    (hwrote : o.WroteRecords) : ∃ records files,
      (o.status = .compiled records.length ∨ o.status = .unchanged records.length) ∧
      Settled (w.imported path) s v records ∧ files ⊆ w.importer.generatedFiles s ∧
      Wrote files w.tree (w.imported path).tree := by
  obtain ⟨himporter, hcarries⟩ := carriesOut_of_opens hs hopens
  have hplan := w.importer.plan_plans s v
  have hself : w.imported path = ⟨(w.imported path).importer, (w.imported path).tree⟩ := rfl
  rw [hself, himporter]
  rw [ho] at hcarries
  generalize (w.imported path).tree = t' at hcarries
  generalize (w.importer.plan s v).registry = registry, (w.importer.plan s v).decision = decision
    at hplan hcarries
  cases hcarries with
  | stopped status =>
    exact absurd hwrote.reachesRecords (by rw [Source.outcome, hplan.reachesRecords_eq]; simp)
  | kept kept =>
    obtain ⟨records, hstatus, hsettled, hfiles⟩ :=
      Settled.of_records kept hwrote hplan.current_of_keep
    exact ⟨records, _, .inr hstatus, hsettled, by simp [generatedFiles, dataPath], hfiles⟩
  | declared declarations written =>
    obtain ⟨rfl, hdeclared⟩ := declarations.wrote
    obtain ⟨records, hstatus, hsettled, hfiles⟩ :=
      Settled.of_records written hwrote (hplan.current_of_declare hfull)
    exact ⟨records, _, .inl hstatus, hsettled, List.Subset.refl _, hdeclared.append hfiles⟩

/-- The import of a settled source writes the file of records as it is, and nothing else. -/
theorem Settled.imported (h : Settled w s v records) (hs : w.importer.source? path = some s)
    (hopens : s.reader.Opens w.tree path v) :
    w.outcome path =
      .ok (s.outcome (.unchanged records.length) [w.importer.dataPath s.container]) ∧
      (w.imported path).importer = w.importer ∧
      w.tree.write (w.importer.dataPath s.container) (recordsText records) =
        .ok (w.imported path).tree ∧
      w.tree.SameNodes (w.imported path).tree := by
  obtain ⟨t', hwrite, hnodes⟩ := exists_write_same h.written
  obtain ⟨himporter, hcarries⟩ := carriesOut_of_opens hs hopens
  have hplan : w.importer.plan s v =
      ⟨w.importer.registry, [⟨.compileSkipped, [("entity", s.entity), ("source", s.name)]⟩],
        .keep⟩ := by
    simp [plan, h.current]
  rw [hplan] at himporter hcarries
  generalize w.outcome path = result, (w.imported path).tree = t at hcarries
  cases hcarries with
  | kept kept =>
    cases kept with
    | unloaded load => cases load.symm.trans h.load
    | failed e load blocked =>
      obtain rfl := Except.ok.inj (load.symm.trans h.load)
      exact absurd ⟨h.directory, t', hwrite⟩ blocked
    | written load directory write =>
      obtain rfl := Except.ok.inj (load.symm.trans h.load)
      obtain rfl := Except.ok.inj (hwrite.symm.trans write)
      exact ⟨rfl, himporter, write, hnodes⟩

/-- However often a settled source is imported, every import leaves all as it is. -/
theorem Settled.changed : ∀ (k : Nat) {w : World}, Settled w s v records →
    w.importer.source? path = some s → s.reader.Opens w.tree path v →
      w.summary (List.replicate k path) = .ok ⟨List.replicate k
          (s.outcome (.unchanged records.length) [w.importer.dataPath s.container])⟩ ∧
        (w.changed (List.replicate k path)).importer = w.importer ∧
        w.tree.SameNodes (w.changed (List.replicate k path)).tree
  | 0, _, _, _, _ => ⟨rfl, rfl, fun _ => rfl⟩
  | k + 1, w, h, hs, hopens => by
    obtain ⟨houtcome, himporter, -, hnodes⟩ := h.imported hs hopens
    obtain ⟨hsummary, himporter', hnodes'⟩ :=
      Settled.changed k (h.of_sameNodes himporter hnodes)
      (himporter ▸ hs) (hopens.of_content? (hnodes.content?_eq path))
    rw [List.replicate_succ, List.replicate_succ, changed_cons_ok houtcome]
    refine ⟨?_, himporter'.trans himporter, hnodes.trans hnodes'⟩
    rcases w.changed_cons path (List.replicate k path) with ⟨e, he, -, -⟩ |
      ⟨_, ho, -, hcons⟩
    · cases houtcome.symm.trans he
    · obtain rfl := Except.ok.inj (houtcome.symm.trans ho)
      rw [hcons, hsummary, himporter]
      rfl

/-- If the import of a source reports that its records were written, and the file of the source has
not been written over, the next import reports the same number of records under unchanged
declarations. It writes the file of records with the text that it has, and leaves the registry and
all files as they were. So does every later one. -/
theorem unchanged_again {n : Nat} (hs : w.importer.source? path = some s)
    (hopens : s.reader.Opens w.tree path v) (hfull : v.StartsFull)
    (hsource : ∀ file ∈ w.importer.generatedFiles s, ¬w.tree.SameFile file path)
    (ho : w.outcome path = .ok o) (hstatus : o.status = .compiled n ∨ o.status = .unchanged n) :
    let again := w.imported path
    let data := w.importer.dataPath s.container
    let unchanged := s.outcome (.unchanged n) [data]
    again.outcome path = .ok unchanged ∧ (again.imported path).importer = again.importer ∧
      (∃ text, again.tree.read data = .ok text ∧
        again.tree.write data text = .ok (again.imported path).tree) ∧
      again.tree.SameNodes (again.imported path).tree ∧
      ∀ k, again.summary (List.replicate k path) = .ok ⟨List.replicate k unchanged⟩ ∧
        (again.changed (List.replicate k path)).importer = again.importer ∧
        again.tree.SameNodes (again.changed (List.replicate k path)).tree := by
  intro again data unchanged
  obtain ⟨records, files, hlength, hsettled, hfiles, hwrote⟩ :=
    Settled.of_imported hs hopens hfull ho ⟨n, hstatus⟩
  obtain rfl : records.length = n := by
    rcases hstatus with h | h <;> rcases hlength with h' | h' <;> cases h.symm.trans h' <;> rfl
  have hopens' : s.reader.Opens again.tree path v :=
    hopens.of_content? (hwrote.content?_eq fun file hfile => hsource file (hfiles hfile))
  have hsetting : w.SameSetting again := .imported w path
  have hs' : again.importer.source? path = some s := (hsetting.source?_eq path).trans hs
  have hdata : again.importer.dataPath s.container = data := by rw [hsetting.importer_eq]; rfl
  obtain ⟨houtcome, himporter, hwrite, hnodes⟩ := hsettled.imported hs' hopens'
  have hlater := fun k => hsettled.changed k hs' hopens'
  have hwritten := hsettled.written
  rw [hdata] at houtcome hwrite hlater hwritten
  exact ⟨houtcome, himporter, ⟨_, read_eq_ok_iff.mpr hwritten, hwrite⟩, hnodes, hlater⟩

/-! ## A source with one record -/

/-- The workbook in the text of the source. -/
def numberedWorkbook : Workbook :=
  ⟨[⟨"S", [some [.string "id"], some [.string "int"],
    some [.numeric ⟨4607182418800017408⟩]]⟩]⟩

theorem opens_numbered : itemsSource.reader.Opens numbered.tree itemsPath numberedWorkbook := by
  have hread : numbered.tree.read itemsPath =
      .ok "\x7b\"sheets\":[\x7b\"name\":\"S\",\"rows\":[[\"id\"],[\"int\"],[1]]\x7d]\x7d" := by
    decide +kernel
  have hparse : Workbook.parse?
      "\x7b\"sheets\":[\x7b\"name\":\"S\",\"rows\":[[\"id\"],[\"int\"],[1]]\x7d]\x7d" =
        some numberedWorkbook := by decide +kernel
  exact WorkbookReader.opens_json hread hparse

/-- Its record is written twice. -/
theorem unchanged_again_numbered :
    numbered.outcome itemsPath = .ok (itemsSource.outcome (.compiled 1) itemsCompiled.written) ∧
      let again := numbered.imported itemsPath
      again.outcome itemsPath =
          .ok (itemsSource.outcome (.unchanged 1) [⟨"data/Scriptable_Items.json"⟩]) ∧
        (again.imported itemsPath).importer = again.importer ∧
        again.tree.SameNodes (again.imported itemsPath).tree := by
  have hs : numbered.importer.source? itemsPath = some itemsSource := source?_mismatched .empty
  have hfull : numberedWorkbook.StartsFull := by
    rintro first hfirst hempty
    obtain rfl := Option.some.inj hfirst
    cases hempty
  have hsource : ∀ file ∈ numbered.importer.generatedFiles itemsSource,
      ¬numbered.tree.SameFile file itemsPath := by
    have hapart : ∀ file ∈ numbered.importer.generatedFiles itemsSource,
        numbered.tree.resolve file ≠ numbered.tree.resolve itemsPath := by decide +kernel
    rintro file hfile ⟨l, hl, hl'⟩
    exact hapart file hfile (hl.trans hl'.symm)
  have ho : numbered.outcome itemsPath =
      .ok (itemsSource.outcome (.compiled 1) itemsCompiled.written) := by decide +kernel
  obtain ⟨houtcome, himporter, -, hnodes, -⟩ :=
    unchanged_again hs opens_numbered hfull hsource ho (.inl rfl)
  exact ⟨ho, houtcome, himporter, hnodes⟩

end World

end TypedSheets
