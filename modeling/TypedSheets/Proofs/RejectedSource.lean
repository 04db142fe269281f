import TypedSheets.Proofs.ImportEffects

/-!
# Sources that do not compile

An import compiles the workbook of its source only if the registered descriptor of the entity does
not describe the first sheet (`Descriptor.DescribesFirst`). If it does, no other sheet is looked at,
and the records are loaded under the descriptor even if the workbook does not compile
(`World.unchanged_mismatched`). In either case a workbook that does not compile changes neither the
registry nor any declaration.

Main statement: `World.import_of_rejected`.
-/

namespace TypedSheets

open FileTree Importer

/-- The first sheet of the workbook, read on its own, declares the names and the types of the
descriptor. -/
def Descriptor.DescribesFirst (d : Descriptor) (v : Workbook) : Prop :=
  ∃ first cols, v.sheets.head? = some first ∧ first.schema = .ok (.columns cols) ∧
    d.names = cols.map (·.name) ∧ d.types = cols.map (·.type.canonical)

theorem needsCompile_eq_true_iff (d? : Option Descriptor) (v : Workbook) :
    needsCompile d? v = true ↔ ∀ d, d? = some d → ¬d.DescribesFirst v := by
  cases d? with
  | none => simp [needsCompile]
  | some d =>
    rw [← Bool.not_eq_false, needsCompile_eq_false_iff]
    simp [Descriptor.DescribesFirst]

theorem WorkbookReader.open_of_opens {r : WorkbookReader} {t : FileTree} {path : Path}
    {v : Workbook} (h : r.Opens t path v) : (r.open path : StateM FileTree _) t = (.ok v, t) := by
  obtain ⟨content, hread, hdecode⟩ := h
  rw [WorkbookReader.open_of_content hread, hdecode]

namespace Importer

variable {imp : Importer} {path : Path} {s : Source} {v : Workbook} {t : FileTree}

theorem importSource_of_opens (source : imp.source? path = some s)
    (opens : s.reader.Opens t path v) : (imp.importSource path : StateM FileTree _) t =
      (imp.importWorkbook s v : StateM FileTree _) t := by
  simp only [importSource, source, run_bind, WorkbookReader.open_of_opens opens]

/-- A workbook that does not compile calls for no declarations: it is rejected, unless the
descriptor of its entity is current. -/
theorem Plans.of_rejected {registry : Registry} {decision : Decision}
    (h : Plans imp s v registry decision)
    (hrejected : (Compilation.run s.name s.entity v).success = false) :
    registry = imp.registry ∧
      ((needsCompile (imp.registry.get? s.entity) v = true ∧
          decision = .stop (.rejected (Compilation.run s.name s.entity v).messages)) ∨
        (needsCompile (imp.registry.get? s.entity) v = false ∧ decision = .keep)) := by
  cases h with
  | current current => exact ⟨rfl, .inr ⟨current, rfl⟩⟩
  | rejected stale => exact ⟨rfl, .inl ⟨stale, rfl⟩⟩
  | empty stale success => cases hrejected.symm.trans success
  | undeclarable stale success => cases hrejected.symm.trans success
  | uncontained stale success => cases hrejected.symm.trans success
  | declare stale success => cases hrejected.symm.trans success

/-- What importing a workbook that does not compile does to a tree. -/
theorem importWorkbook_of_rejected
    (hrejected : (Compilation.run s.name s.entity v).success = false) :
    let run := (imp.importWorkbook s v : StateM FileTree _) t
    run.1.importer = imp ∧
      ((needsCompile (imp.registry.get? s.entity) v = true ∧ run.2 = t ∧
          run.1.result =
            .ok (s.outcome (.rejected (Compilation.run s.name s.entity v).messages))) ∨
        (needsCompile (imp.registry.get? s.entity) v = false ∧
          Records imp s v .unchanged [] t run.2 run.1.result)) := by
  intro run
  have hplan := imp.plan_plans s v
  simp only [run, importWorkbook]
  generalize imp.plan s v = plan at hplan
  obtain ⟨registry, events, decision⟩ := plan
  obtain ⟨hregistry, ⟨stale, hdecision⟩ | ⟨current, hdecision⟩⟩ :=
    hplan.of_rejected hrejected
  · simp only at hregistry hdecision
    subst hregistry hdecision
    exact ⟨rfl, .inl ⟨stale, rfl, rfl⟩⟩
  · simp only at hregistry hdecision
    subst hregistry hdecision
    obtain ⟨himporter, hrecords⟩ := imp.writeRecords_records s v .unchanged [] t
    exact ⟨himporter, .inr ⟨current, hrecords⟩⟩

end Importer

namespace World

variable {w : World} {path : Path} {s : Source} {v : Workbook}

/-- A source that leaves everything as it was only adds its outcome to the report on others. -/
theorem changed_cons_of_eq_self {o : SourceOutcome} (houtcome : w.outcome path = .ok o)
    (himported : w.imported path = w) (rest : List Path) :
    w.changed (path :: rest) = w.changed rest ∧
      w.summary (path :: rest) = (w.summary rest).map fun summary =>
        ⟨o :: summary.sources⟩ := by
  rcases w.changed_cons path rest with ⟨e, he, -, -⟩ | ⟨_, ho, hchanged, hsummary⟩
  · cases houtcome.symm.trans he
  · obtain rfl := Except.ok.inj (houtcome.symm.trans ho)
    rw [himported] at hchanged hsummary
    exact ⟨hchanged, hsummary⟩

/-- Loading and writing the records of a source leaves the declarations of all sources. -/
theorem content?_of_records (hvalid : w.importer.config.validate = .ok ())
    (hs : w.importer.source? path = some s) {t' : FileTree}
    {result : Except ImportError SourceOutcome}
    (h : Records w.importer s v .unchanged [] w.tree t' result) {stem : String}
    (hstem : '/' ∉ stem.toList) :
    t'.content? (w.entityPath stem) = w.tree.content? (w.entityPath stem) ∧
      t'.content? (w.containerPath stem) = w.tree.content? (w.containerPath stem) := by
  obtain ⟨own, hown, -, hcontainer⟩ := exists_stem_of_source? hs
  have hother := data_not_sameFile hvalid (t := w.tree) hown hstem
  rw [← hcontainer] at hother
  rcases h.wrote with ⟨n, -, hwrote⟩ | ⟨-, rfl⟩
  · exact ⟨hwrote.content?_eq (List.forall_mem_singleton.mpr hother.1),
      hwrote.content?_eq (List.forall_mem_singleton.mpr hother.2)⟩
  · exact ⟨rfl, rfl⟩

/-- A workbook that does not compile is reported as rejected, with what is wrong, and leaves
everything as it was, unless the registered descriptor of the entity describes the first sheet. Then
it is reported as unchanged, and its records have been written; or they could not be loaded or
written, and all is as it was. Neither changes the registry or a declaration. -/
theorem import_of_rejected (hvalid : w.importer.config.validate = .ok ())
    (hs : w.importer.source? path = some s) (hopens : s.reader.Opens w.tree path v)
    (hrejected : (Compilation.run s.name s.entity v).success = false) :
    ((∀ d, w.importer.registry.get? s.entity = some d → ¬d.DescribesFirst v) →
        let o := s.outcome (.rejected (Compilation.run s.name s.entity v).messages)
        w.outcome path = .ok o ∧ w.imported path = w ∧
          ∀ rest, w.changed (path :: rest) = w.changed rest ∧
            w.summary (path :: rest) = (w.summary rest).map fun summary =>
              ⟨o :: summary.sources⟩) ∧
      ∀ d, w.importer.registry.get? s.entity = some d → d.DescribesFirst v →
        (w.imported path).importer = w.importer ∧
          (∀ stem, '/' ∉ stem.toList →
            (w.imported path).tree.content? (w.entityPath stem) =
              w.tree.content? (w.entityPath stem) ∧
            (w.imported path).tree.content? (w.containerPath stem) =
              w.tree.content? (w.containerPath stem)) ∧
          ((∃ n, w.outcome path =
            .ok (s.outcome (.unchanged n) [w.importer.dataPath s.container]) ∧
              Wrote [w.importer.dataPath s.container] w.tree (w.imported path).tree) ∨
            ((∃ error, w.outcome path = .ok (s.outcome (.loadFailed error))) ∨
                ∃ e, w.outcome path = .error (.generation e)) ∧
              (w.imported path).tree = w.tree) := by
  have hrun := @importWorkbook_of_rejected w.importer s v w.tree hrejected
  rw [← importSource_of_opens hs hopens] at hrun
  obtain ⟨himporter, hrun⟩ : (w.imported path).importer = w.importer ∧
      ((needsCompile (w.importer.registry.get? s.entity) v = true ∧
        (w.imported path).tree = w.tree ∧
          w.outcome path =
            .ok (s.outcome (.rejected (Compilation.run s.name s.entity v).messages))) ∨
        (needsCompile (w.importer.registry.get? s.entity) v = false ∧
          Records w.importer s v .unchanged [] w.tree (w.imported path).tree (w.outcome path))) :=
    hrun
  rcases hrun with ⟨stale, htree, houtcome⟩ | ⟨current, hrecords⟩
  · have hnone := (needsCompile_eq_true_iff _ v).mp stale
    have himported := imported_eq_self himporter htree
    refine ⟨fun _ => ⟨houtcome, himported, changed_cons_of_eq_self houtcome himported⟩, ?_⟩
    exact fun d hd hfirst => absurd hfirst (hnone d hd)
  · refine ⟨fun hnone => ?_,
      fun d hd hfirst => ⟨himporter, fun stem hstem => ?_, hrecords.wrote⟩⟩
    · exact absurd ((needsCompile_eq_true_iff _ v).mpr hnone) (by simp [current])
    · exact content?_of_records hvalid hs hrecords hstem

/-! ## A second sheet that does not fit -/

/-- The second sheet has another column than the first. -/
def mismatched : Workbook := ⟨[
  ⟨"S", [some [.string "id"], some [.string "int"]]⟩,
  ⟨"T", [some [.string "count"], some [.string "int"],
    some [.numeric ⟨4613937818241073152⟩]]⟩]⟩

/-- The workbook as a text. -/
def mismatchedText : String :=
  "\x7b\"sheets\":[\x7b\"name\":\"S\",\"rows\":[[\"id\"],[\"int\"]]\x7d," ++
    "\x7b\"name\":\"T\",\"rows\":[[\"count\"],[\"int\"],[3]]\x7d]\x7d"

/-- The three directories, with that text as the source. -/
def mismatchedTree : FileTree :=
  itemsTree.place itemsPath (.text mismatchedText)

/-- The importer with a registry, on those files. -/
def mismatchedWorld (registry : Registry) : World where
  importer := { itemsWorld.importer with registry }
  tree := mismatchedTree

/-- The source as the importer opens it. -/
def itemsSource : Source :=
  ⟨itemsPath, "Items.json", "Entity_Items", "Scriptable_Items", .json⟩

theorem source?_mismatched (registry : Registry) :
    (mismatchedWorld registry).importer.source? itemsPath = some itemsSource := by
  have hstem : (mismatchedWorld registry).importer.sourceStem? itemsPath = some "Items" := by
    change itemsWorld.importer.sourceStem? itemsPath = some "Items"
    decide +kernel
  have hextension : itemsPath.extension? = some "json" := by decide +kernel
  have hname : itemsPath.fileName? = some "Items.json" := by decide +kernel
  simp only [source?, hstem, hextension, hname]
  rfl

theorem opens_mismatched (registry : Registry) :
    itemsSource.reader.Opens (mismatchedWorld registry).tree itemsPath mismatched := by
  have hread : mismatchedTree.read itemsPath = .ok mismatchedText := by decide +kernel
  have hparse : Workbook.parse? mismatchedText = some mismatched := by decide +kernel
  exact WorkbookReader.opens_json hread hparse

theorem rejected_mismatched :
    (Compilation.run itemsSource.name itemsSource.entity mismatched).success = false := by
  decide +kernel

/-- The descriptor of the first sheet alone. -/
def itemsDescriptor : Descriptor :=
  ⟨"Entity_Items", ["id"], ["int"]⟩

theorem describesFirst_mismatched : itemsDescriptor.DescribesFirst mismatched :=
  ⟨_, _, rfl, rfl, rfl, rfl⟩

/-- Without a descriptor the workbook is rejected. With the descriptor of its first sheet no
declaration changes. -/
theorem import_mismatched :
    (mismatchedWorld .empty).changed [itemsPath] = mismatchedWorld .empty ∧
      (mismatchedWorld .empty).summary [itemsPath] = .ok ⟨[itemsSource.outcome (.rejected [
        "[REJECT] TBLC_HEADER_MISMATCH: Items.json/T: Field names in different sheets should be " ++
          "identical: expected [id], got [count]"])]⟩ ∧
      ((mismatchedWorld (.put .empty itemsDescriptor)).imported itemsPath).importer =
        (mismatchedWorld (.put .empty itemsDescriptor)).importer := by
  have hmessages : (Compilation.run itemsSource.name itemsSource.entity mismatched).messages =
      ["[REJECT] TBLC_HEADER_MISMATCH: Items.json/T: Field names in different sheets should be " ++
        "identical: expected [id], got [count]"] := by decide +kernel
  obtain ⟨-, -, hrest⟩ :=
    (import_of_rejected rfl (source?_mismatched .empty) (opens_mismatched .empty)
    rejected_mismatched).1 fun d hd => nomatch hd
  obtain ⟨himporter, -, -⟩ :=
    (import_of_rejected rfl (source?_mismatched (.put .empty itemsDescriptor))
    (opens_mismatched _) rejected_mismatched).2 itemsDescriptor rfl describesFirst_mismatched
  rw [hmessages] at hrest
  exact ⟨(hrest []).1, (hrest []).2, himporter⟩

/-- A workbook that does not compile is reported as unchanged, and a record is written of its sheet
that does not fit. -/
theorem unchanged_mismatched :
    (mismatchedWorld (.put .empty itemsDescriptor)).importer.source? itemsPath =
      some itemsSource ∧
      itemsSource.reader.Opens (mismatchedWorld (.put .empty itemsDescriptor)).tree itemsPath
        mismatched ∧
      (Compilation.run itemsSource.name itemsSource.entity mismatched).success = false ∧
      (mismatchedWorld (.put .empty itemsDescriptor)).summary [itemsPath] =
        .ok ⟨[itemsSource.outcome (.unchanged 1) [⟨"data/Scriptable_Items.json"⟩]]⟩ ∧
      mismatchedTree.isFile ⟨"data/Scriptable_Items.json"⟩ = false ∧
      ((mismatchedWorld (.put .empty itemsDescriptor)).changed [itemsPath]).tree.read
        ⟨"data/Scriptable_Items.json"⟩ = .ok "[\n  \x7b\n    \"id\": 3\n  \x7d\n]" :=
  ⟨source?_mismatched _, opens_mismatched _, rejected_mismatched,
    by decide +kernel, by decide +kernel, by decide +kernel⟩

end World

end TypedSheets
