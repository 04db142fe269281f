import TypedSheets.Proofs.RejectedSource

/-!
# Declarations that cannot be written

The descriptor of a compiled schema is registered before its declarations are written. If one of
them cannot be written the run stops, and the descriptor stays registered. The next import of the
source compares the workbook with it, and finds it current unless the first sheet is empty: then the
declarations are passed over for good, though they are not there
(`World.unchanged_after_failed_write`).

Main statement: `World.retry_of_failed_write`.
-/

namespace TypedSheets

open FileTree Importer

namespace FileTree

variable {t t' : FileTree} {p dir : Path} {name : String}

theorem SameDirectories.isDirectory_eq (h : t.SameDirectories t')
    (hdir : t.isDirectory dir = true) : t'.isDirectory dir = true := by
  obtain ⟨l, hresolve, hnode⟩ := isDirectory_eq_true_iff.mp hdir
  exact isDirectory_eq_true_iff.mpr ⟨l, h.resolve_eq hresolve, (h l).mpr hnode⟩

/-- Whether a file can be written depends on the directories alone. -/
theorem SameDirectories.writable {text other : String} (h : t.SameDirectories t')
    (hwritable : t.Writable dir name text) : t'.Writable dir name other := by
  obtain ⟨hdir, t₁, hwrite⟩ := hwritable
  obtain ⟨l, hresolve, hnode, -⟩ := write_eq_ok_iff.mp hwrite
  refine ⟨h.isDirectory_eq hdir, _, write_eq_ok_iff.mpr ⟨l, h.resolve_eq hresolve, ?_, rfl⟩⟩
  exact fun hdirectory => hnode ((h l).mp hdirectory)

end FileTree

namespace Importer

variable {imp : Importer} {s : Source} {v : Workbook} {t t' : FileTree}

/-- All that carrying out what an import calls for can do to a tree. -/
inductive CarriesOut (imp : Importer) (s : Source) (v : Workbook) (t : FileTree) :
    Decision → FileTree → Except ImportError SourceOutcome → Prop
  | stopped (status : SourceStatus) : CarriesOut imp s v t (.stop status) t (.ok (s.outcome status))
  | kept {t' : FileTree} {result : Except ImportError SourceOutcome}
      (records : Records imp s v .unchanged [] t t' result) : CarriesOut imp s v t .keep t' result
  | undeclared {text containerText : String} {t' : FileTree} {e : GenerationError}
      (declarations : WritesDeclarations imp s text containerText t t' (.error e)) :
      CarriesOut imp s v t (.declare text containerText) t' (.error (.generation e))
  | declared {text containerText : String} {files : List Path} {t₁ t' : FileTree}
      {result : Except ImportError SourceOutcome}
      (declarations : WritesDeclarations imp s text containerText t t₁ (.ok files))
      (records : Records imp s v .compiled files t₁ t' result) :
      CarriesOut imp s v t (.declare text containerText) t' result

/-- An import carries out its plan, with the registry of the plan. -/
theorem importWorkbook_carriesOut (imp : Importer) (s : Source) (v : Workbook) (t : FileTree) :
    let run := (imp.importWorkbook s v : StateM FileTree _) t
    let planned : Importer := { imp with registry := (imp.plan s v).registry }
    run.1.importer = planned ∧
      CarriesOut planned s v t (imp.plan s v).decision run.2 run.1.result := by
  intro run planned
  simp only [run, planned, importWorkbook]
  generalize imp.plan s v = plan
  obtain ⟨registry, events, decision⟩ := plan
  cases decision with
  | stop status => exact ⟨rfl, .stopped status⟩
  | keep =>
    obtain ⟨himporter, hrecords⟩ :=
      writeRecords_records { imp with registry } s v .unchanged [] t
    exact ⟨himporter, .kept hrecords⟩
  | declare text containerText =>
    have hdeclarations := writeDeclarations_writes { imp with registry } s text containerText t
    simp only [run_bind]
    generalize (writeDeclarations { imp with registry } s text containerText :
      StateM FileTree _) t = out at hdeclarations
    obtain ⟨⟨declarationEvents, result⟩, t₁⟩ := out
    cases result with
    | error e => exact ⟨rfl, .undeclared hdeclarations⟩
    | ok files =>
      obtain ⟨himporter, hrecords⟩ :=
        writeRecords_records { imp with registry } s v .compiled files t₁
      exact ⟨himporter, .declared hdeclarations hrecords⟩

/-- Both declarations of a source can be written. -/
def CanDeclare (imp : Importer) (s : Source) (t : FileTree) : Prop :=
  t.Writable imp.config.entityDir (imp.generator.fileName s.entity) "" ∧
    t.Writable imp.config.containerDir (imp.generator.fileName s.container) ""

/-- Both declarations of a source are written just when they can be. -/
theorem WritesDeclarations.ok_iff {text containerText : String}
    {result : Except GenerationError (List Path)}
    (h : WritesDeclarations imp s text containerText t t' result) :
    (∃ files, result = .ok files) ↔ imp.CanDeclare s t := by
  cases h with
  | none e blocked =>
    refine iff_of_false (by simp) fun hcan => blocked ?_
    exact (SameDirectories.refl t).writable hcan.1
  | entity directory write e blocked =>
    refine iff_of_false (by simp) fun hcan => blocked ?_
    exact (sameDirectories_write write).writable hcan.2
  | both directory write containerDirectory containerWrite =>
    have hcontainer : Writable _ imp.config.containerDir (imp.generator.fileName s.container) _ :=
      ⟨containerDirectory, _, containerWrite⟩
    refine iff_of_true ⟨_, rfl⟩ ⟨?_, (sameDirectories_write write).symm.writable hcontainer⟩
    exact (SameDirectories.refl t).writable ⟨directory, _, write⟩

/-- If a workbook has to be compiled and its declarations can be rendered, they are called for. -/
theorem Plans.eq_declare {registry : Registry} {decision : Decision} {schema : TableSchema}
    {text containerText : String} (h : Plans imp s v registry decision)
    (stale : needsCompile (imp.registry.get? s.entity) v = true)
    (success : (Compilation.run s.name s.entity v).success = true)
    (compiled : (Compilation.run s.name s.entity v).schema = some schema)
    (entity : imp.generator.renderEntity schema s.entity = .ok text)
    (container : imp.generator.renderContainer s.container s.entity s.path = .ok containerText) :
    decision = .declare text containerText := by
  cases h with
  | current current => cases current.symm.trans stale
  | rejected _ rejected => cases rejected.symm.trans success
  | empty _ _ schema => cases schema.symm.trans compiled
  | undeclarable _ _ compiled' entity' =>
    obtain rfl := Option.some.inj (compiled'.symm.trans compiled)
    cases entity'.symm.trans entity
  | uncontained _ _ _ _ container' => cases container'.symm.trans container
  | declare _ _ compiled' entity' container' =>
    obtain rfl := Option.some.inj (compiled'.symm.trans compiled)
    rw [Except.ok.inj (entity'.symm.trans entity), Except.ok.inj (container'.symm.trans container)]

end Importer

namespace World

variable {w : World} {path : Path} {s : Source} {v : Workbook}

/-- The import of a source that opens as a workbook carries out the plan for it. -/
theorem carriesOut_of_opens (hs : w.importer.source? path = some s)
    (hopens : s.reader.Opens w.tree path v) :
    let planned : Importer := { w.importer with registry := (w.importer.plan s v).registry }
    (w.imported path).importer = planned ∧
      CarriesOut planned s v w.tree (w.importer.plan s v).decision (w.imported path).tree
        (w.outcome path) := by
  have hrun := w.importer.importWorkbook_carriesOut s v w.tree
  rw [← importSource_of_opens hs hopens] at hrun
  exact hrun

/-- An import that finds the descriptor of its entity current changes nothing but the file of
records. -/
theorem import_of_current (hs : w.importer.source? path = some s)
    (hopens : s.reader.Opens w.tree path v)
    (hcurrent : needsCompile (w.importer.registry.get? s.entity) v = false) :
    let data := w.importer.dataPath s.container
    (w.imported path).importer = w.importer ∧
      ((∃ n, w.outcome path = .ok (s.outcome (.unchanged n) [data]) ∧
          Wrote [data] w.tree (w.imported path).tree) ∨
        ((∃ error, w.outcome path = .ok (s.outcome (.loadFailed error))) ∨
            ∃ e, w.outcome path = .error (.generation e)) ∧
          (w.imported path).tree = w.tree) := by
  intro data
  obtain ⟨himporter, hcarries⟩ := carriesOut_of_opens hs hopens
  have hplan := w.importer.plan_plans s v
  generalize (w.importer.plan s v).registry = registry, (w.importer.plan s v).decision = decision
    at hplan himporter hcarries
  cases hplan with
  | current =>
    cases hcarries with
    | kept records => exact ⟨himporter, records.wrote⟩
  | rejected stale => cases hcurrent.symm.trans stale
  | empty stale => cases hcurrent.symm.trans stale
  | undeclarable stale => cases hcurrent.symm.trans stale
  | uncontained stale => cases hcurrent.symm.trans stale
  | declare stale => cases hcurrent.symm.trans stale

/-- An import that calls for declarations writes them, if it can, and the records after them. -/
theorem import_of_declare {text containerText : String} (hs : w.importer.source? path = some s)
    (hopens : s.reader.Opens w.tree path v)
    (hdecision : (w.importer.plan s v).decision = .declare text containerText)
    (hcan : w.importer.CanDeclare s w.tree) :
    let data := w.importer.dataPath s.container
    let declarations := [w.importer.entityPath s.entity, w.importer.containerPath s.container]
    (∃ n, w.outcome path = .ok (s.outcome (.compiled n) (declarations ++ [data])) ∧
        Wrote (declarations ++ [data]) w.tree (w.imported path).tree) ∨
      ((∃ error, w.outcome path = .ok (s.outcome (.loadFailed error) declarations)) ∨
          ∃ e, w.outcome path = .error (.generation e)) ∧
        Wrote declarations w.tree (w.imported path).tree := by
  intro data declarations
  obtain ⟨-, hcarries⟩ := carriesOut_of_opens hs hopens
  rw [hdecision] at hcarries
  generalize w.outcome path = result at hcarries
  cases hcarries with
  | undeclared written =>
    obtain ⟨files, hfiles⟩ := written.ok_iff.mpr hcan
    cases hfiles
  | declared written records =>
    obtain ⟨rfl, hdeclared⟩ := written.wrote
    rcases records.wrote with ⟨n, hresult, hwrote⟩ | ⟨hresult, htree⟩
    · exact .inl ⟨n, hresult, hdeclared.append hwrote⟩
    · exact .inr ⟨hresult, htree ▸ hdeclared⟩

/-- An import that compiles its workbook and then stops, because a file cannot be written, has
registered the descriptor of the schema. Whatever becomes of the files, the next import of the same
workbook finds this current and passes over the declarations, unless the first sheet is empty: it
writes the records or nothing at all. If the first sheet is empty, both declarations are written
once they can be. -/
theorem retry_of_failed_write {e : ImportError} (hs : w.importer.source? path = some s)
    (hopens : s.reader.Opens w.tree path v)
    (hstale : needsCompile (w.importer.registry.get? s.entity) v = true)
    (houtcome : w.outcome path = .error e) :
    ∃ schema first, (Compilation.run s.name s.entity v).schema = some schema ∧
      v.sheets.head? = some first ∧
      (w.imported path).importer =
        { w.importer with registry := w.importer.registry.put (.ofSchema schema) } ∧
      ∀ t, s.reader.Opens t path v →
        let retry : World := ⟨(w.imported path).importer, t⟩
        let data := w.importer.dataPath s.container
        let declarations := [w.importer.entityPath s.entity, w.importer.containerPath s.container]
        (first.schema ≠ .ok .empty →
          retry.importer.registry.get? s.entity ≠ w.importer.registry.get? s.entity ∧
            (retry.imported path).importer = retry.importer ∧
            ((∃ n, retry.outcome path = .ok (s.outcome (.unchanged n) [data]) ∧
                Wrote [data] t (retry.imported path).tree) ∨
              ((∃ error, retry.outcome path = .ok (s.outcome (.loadFailed error))) ∨
                  ∃ e, retry.outcome path = .error (.generation e)) ∧
                (retry.imported path).tree = t)) ∧
        (first.schema = .ok .empty → w.importer.CanDeclare s t →
          (∃ n, retry.outcome path = .ok (s.outcome (.compiled n) (declarations ++ [data])) ∧
              Wrote (declarations ++ [data]) t (retry.imported path).tree) ∨
            ((∃ error, retry.outcome path = .ok (s.outcome (.loadFailed error) declarations)) ∨
                ∃ e, retry.outcome path = .error (.generation e)) ∧
              Wrote declarations t (retry.imported path).tree) := by
  obtain ⟨himporter, hcarries⟩ := carriesOut_of_opens hs hopens
  have hplan := w.importer.plan_plans s v
  rw [houtcome] at hcarries
  generalize (w.imported path).tree = t' at hcarries
  generalize (w.importer.plan s v).registry = registry, (w.importer.plan s v).decision = decision
    at hplan himporter hcarries
  cases hplan with
  | current current => cases current.symm.trans hstale
  | rejected => cases hcarries
  | empty => cases hcarries
  | undeclarable => cases hcarries
  | uncontained => cases hcarries
  | @declare schema text containerText stale success compiled entity container =>
    obtain ⟨hname, ⟨sheet, hsheet, -⟩, hall⟩ :=
      (Compilation.schema_eq_some_iff _ _ _).mp compiled
    obtain ⟨first, rest, hsheets⟩ := List.exists_cons_of_ne_nil (List.ne_nil_of_mem hsheet)
    have hfirst : v.sheets.head? = some first := by rw [hsheets]; rfl
    refine ⟨schema, first, compiled, hfirst, himporter, fun t ht => ?_⟩
    rw [himporter]
    intro retry data declarations
    have hget : retry.importer.registry.get? s.entity = some (.ofSchema schema) := by
      rw [Registry.get?_put, Descriptor.ofSchema, if_pos hname.symm]
    have hcurrent : needsCompile (some (.ofSchema schema)) v = false ↔
        first.schema = .ok (.columns schema.columns) := by
      rw [needsCompile_ofSchema (Compilation.isDeclared_of_schema compiled), hfirst]
      simp
    refine ⟨fun hne => ⟨fun hsame => ?_, ?_⟩, fun hempty hcan => ?_⟩
    · have hschema := (hall first (hsheets ▸ List.mem_cons_self)).resolve_left hne
      rw [← hsame, hget, hcurrent.mpr hschema] at hstale
      cases hstale
    · have hschema := (hall first (hsheets ▸ List.mem_cons_self)).resolve_left hne
      refine import_of_current (w := retry) hs ht ?_
      rw [hget, hcurrent.mpr hschema]
    · have hstale' : needsCompile (retry.importer.registry.get? s.entity) v = true := by
        rw [hget, ← Bool.not_eq_false, hcurrent, hempty]
        simp
      have hdecision : (retry.importer.plan s v).decision = .declare text containerText :=
        (retry.importer.plan_plans s v).eq_declare hstale' success compiled entity container
      exact import_of_declare (w := retry) hs ht hdecision hcan

/-! ## A directory that is missing for a while -/

/-- The directory of the entity declarations is missing. -/
def entitiesMissing : World :=
  { itemsWorld with tree := itemsTree.removeTree ⟨"entity"⟩ }

/-- The sheet in the text of the source. -/
def itemsSheet : Sheet :=
  ⟨"S", [some [.string "id"], some [.string "int"]]⟩

theorem outcome_entitiesMissing :
    entitiesMissing.outcome itemsPath =
      .error (.generation (.missingDirectory ⟨"entity"⟩)) := by
  decide +kernel

theorem opens_items {t : FileTree} (h : t.read itemsPath = itemsTree.read itemsPath) :
    itemsSource.reader.Opens t itemsPath ⟨[itemsSheet]⟩ := by
  have hread : itemsTree.read itemsPath =
      .ok "\x7b\"sheets\":[\x7b\"name\":\"S\",\"rows\":[[\"id\"],[\"int\"]]\x7d]\x7d" := by
    decide +kernel
  have hparse : Workbook.parse?
      "\x7b\"sheets\":[\x7b\"name\":\"S\",\"rows\":[[\"id\"],[\"int\"]]\x7d]\x7d" =
        some ⟨[itemsSheet]⟩ := by decide +kernel
  exact WorkbookReader.opens_json (h.trans hread) hparse

/-- Once the directory is back, the import of the source writes no declaration. -/
theorem retry_items :
    entitiesMissing.importer.source? itemsPath = some itemsSource ∧
      entitiesMissing.outcome itemsPath = .error (.generation (.missingDirectory ⟨"entity"⟩)) ∧
      let retry : World := ⟨(entitiesMissing.imported itemsPath).importer, itemsTree⟩
      (retry.imported itemsPath).importer = retry.importer ∧
        ((∃ n, retry.outcome itemsPath =
              .ok (itemsSource.outcome (.unchanged n) [⟨"data/Scriptable_Items.json"⟩]) ∧
            Wrote [⟨"data/Scriptable_Items.json"⟩] itemsTree
              (retry.imported itemsPath).tree) ∨
          ((∃ error, retry.outcome itemsPath = .ok (itemsSource.outcome (.loadFailed error))) ∨
              ∃ e, retry.outcome itemsPath = .error (.generation e)) ∧
            (retry.imported itemsPath).tree = itemsTree) := by
  have hs : entitiesMissing.importer.source? itemsPath = some itemsSource :=
    source?_mismatched .empty
  have hopens : itemsSource.reader.Opens entitiesMissing.tree itemsPath ⟨[itemsSheet]⟩ :=
    opens_items (by decide +kernel)
  obtain ⟨schema, first, -, hfirst, -, hretry⟩ :=
    retry_of_failed_write hs hopens rfl outcome_entitiesMissing
  obtain rfl : itemsSheet = first := Option.some.inj hfirst
  have hschema : itemsSheet.schema = .ok (.columns [⟨"id", .int⟩]) := rfl
  have hne : itemsSheet.schema ≠ .ok .empty := fun h => nomatch hschema.symm.trans h
  exact ⟨hs, outcome_entitiesMissing, ((hretry itemsTree (opens_items rfl)).1 hne).2⟩

/-- An import that fails to write a declaration changes the registry, and the next import of the
same source is reported as unchanged though neither declaration was ever written. -/
theorem unchanged_after_failed_write :
    entitiesMissing.Reachable ∧
      entitiesMissing.summary [itemsPath] = .error (.generation (.missingDirectory ⟨"entity"⟩)) ∧
      entitiesMissing.importer.registry.get? "Entity_Items" = none ∧
      (entitiesMissing.changed [itemsPath]).importer.registry.get? "Entity_Items" =
        some itemsDescriptor ∧
      let retry : World := ⟨(entitiesMissing.changed [itemsPath]).importer, itemsTree⟩
      retry.summary [itemsPath] = .ok ⟨[itemsUnchanged]⟩ ∧
        (retry.changed [itemsPath]).tree.isFile (retry.entityPath "Items") = false ∧
        (retry.changed [itemsPath]).tree.isFile (retry.containerPath "Items") = false :=
  ⟨.run reachable_items (.edit _), by decide +kernel, rfl, by decide +kernel, by decide +kernel,
    by decide +kernel, by decide +kernel⟩

end World

end TypedSheets
