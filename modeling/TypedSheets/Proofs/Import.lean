import TypedSheets.Importer.Source
import TypedSheets.Proofs.FileTree
import TypedSheets.Proofs.Runs

/-!
# What importing a source does

`Importer.Plans` lists all that the import of a workbook can call for, and `Importer.Imports` all
that importing a source can do to an importer and to a file tree, with the outcome. Statements about
imports are proved by cases on these two.
-/

namespace TypedSheets

open FileTree

/-- A text can be written as a file with a name into a directory. -/
def FileTree.Writable (t : FileTree) (dir : Path) (name text : String) : Prop :=
  t.isDirectory dir = true ∧ ∃ t', t.write (dir.join name) text = .ok t'

/-- All that writing a file into a directory can do to a tree. -/
inductive Writes (t : FileTree) (dir : Path) (name text : String) :
    FileTree → Except GenerationError Path → Prop
  | written {t' : FileTree} (directory : t.isDirectory dir = true)
      (write : t.write (dir.join name) text = .ok t') :
      Writes t dir name text t' (.ok (dir.join name))
  | failed (e : GenerationError) (blocked : ¬t.Writable dir name text) :
      Writes t dir name text t (.error e)

theorem writeInto_writes (t : FileTree) (dir : Path) (name text : String) :
    Writes t dir name text ((writeInto dir name text : StateM FileTree _) t).2
      ((writeInto dir name text : StateM FileTree _) t).1 := by
  cases hdir : t.isDirectory dir with
  | false =>
    have hrun : (writeInto dir name text : StateM FileTree _) t =
        (.error (.missingDirectory dir), t) := by
      simp only [writeInto, run_bind, FileStore.isDirectory_run, hdir, Bool.not_false, if_true]
      rfl
    rw [hrun]
    exact .failed _ (by simp [FileTree.Writable, hdir])
  | true =>
    cases hwrite : t.write (dir.join name) text with
    | ok t' =>
      have hrun : (writeInto dir name text : StateM FileTree _) t = (.ok (dir.join name), t') := by
        simp only [writeInto, run_bind, FileStore.isDirectory_run, hdir, Bool.not_true,
          Bool.false_eq_true, if_false, FileStore.write_of_ok hwrite]
        rfl
      rw [hrun]
      exact .written hdir hwrite
    | error fault =>
      have hrun : (writeInto dir name text : StateM FileTree _) t =
          (.error (.file (dir.join name) fault), t) := by
        simp only [writeInto, run_bind, FileStore.isDirectory_run, hdir, Bool.not_true,
          Bool.false_eq_true, if_false, FileStore.write_of_error hwrite]
        rfl
      rw [hrun]
      exact .failed _ (by simp [FileTree.Writable, hwrite])

/-- The reader opens the file at a path of a tree as a workbook. -/
def WorkbookReader.Opens (r : WorkbookReader) (t : FileTree) (path : Path) (w : Workbook) : Prop :=
  ∃ content, t.readContent path = .ok content ∧ r.decode path content = .ok w

/-- The JSON container is opened if the file holds a text that stores the workbook. -/
theorem WorkbookReader.opens_json {t : FileTree} {path : Path} {text : String} {w : Workbook}
    (hread : t.read path = .ok text) (hparse : Workbook.parse? text = some w) :
    json.Opens t path w := by
  refine ⟨.text text, readContent_eq_ok_iff.mpr (read_eq_ok_iff.mp hread), ?_⟩
  rw [Workbook.parse?] at hparse
  rw [json, jsonBy, ofText_decode, hparse]

theorem WorkbookReader.open_of_content {t : FileTree} {path : Path} {content : Content}
    (h : t.readContent path = .ok content) (r : WorkbookReader) :
    (r.open path : StateM FileTree _) t = (r.decode path content, t) := by
  simp only [WorkbookReader.open, run_bind, FileStore.readContent_run, h]
  rfl

theorem WorkbookReader.open_run (r : WorkbookReader) (t : FileTree) (path : Path) :
    ((r.open path : StateM FileTree _) t).2 = t ∧
      ∀ w, ((r.open path : StateM FileTree _) t).1 = .ok w → r.Opens t path w := by
  simp only [WorkbookReader.open, run_bind, FileStore.readContent_run]
  cases hcontent : t.readContent path with
  | error fault =>
    refine ⟨rfl, fun w h => ?_⟩
    cases h
  | ok content => exact ⟨rfl, fun w h => ⟨content, hcontent, h⟩⟩

namespace Importer

/-! ## Plans -/

/-- All that importing the workbook of a source can call for. -/
inductive Plans (imp : Importer) (s : Source) (w : Workbook) : Registry → Decision → Prop
  | current (current : needsCompile (imp.registry.get? s.entity) w = false) :
      Plans imp s w imp.registry .keep
  | rejected (stale : needsCompile (imp.registry.get? s.entity) w = true)
      (rejected : (Compilation.run s.name s.entity w).success = false) :
      Plans imp s w imp.registry (.stop (.rejected (Compilation.run s.name s.entity w).messages))
  | empty (stale : needsCompile (imp.registry.get? s.entity) w = true)
      (success : (Compilation.run s.name s.entity w).success = true)
      (schema : (Compilation.run s.name s.entity w).schema = none) :
      Plans imp s w imp.registry (.stop .empty)
  | undeclarable {schema : TableSchema} {e : InvalidIdentifier}
      (stale : needsCompile (imp.registry.get? s.entity) w = true)
      (success : (Compilation.run s.name s.entity w).success = true)
      (compiled : (Compilation.run s.name s.entity w).schema = some schema)
      (entity : imp.generator.renderEntity schema s.entity = .error e) :
      Plans imp s w imp.registry (.stop (.generationFailed e.message))
  | uncontained {schema : TableSchema} {text : String} {e : InvalidIdentifier}
      (stale : needsCompile (imp.registry.get? s.entity) w = true)
      (success : (Compilation.run s.name s.entity w).success = true)
      (compiled : (Compilation.run s.name s.entity w).schema = some schema)
      (entity : imp.generator.renderEntity schema s.entity = .ok text)
      (container : imp.generator.renderContainer s.container s.entity s.path = .error e) :
      Plans imp s w (imp.registry.put (.ofSchema schema)) (.stop (.generationFailed e.message))
  | declare {schema : TableSchema} {text containerText : String}
      (stale : needsCompile (imp.registry.get? s.entity) w = true)
      (success : (Compilation.run s.name s.entity w).success = true)
      (compiled : (Compilation.run s.name s.entity w).schema = some schema)
      (entity : imp.generator.renderEntity schema s.entity = .ok text)
      (container : imp.generator.renderContainer s.container s.entity s.path = .ok containerText) :
      Plans imp s w (imp.registry.put (.ofSchema schema)) (.declare text containerText)

theorem planCompiled_plans {imp : Importer} {s : Source} {w : Workbook}
    (stale : needsCompile (imp.registry.get? s.entity) w = true) :
    Plans imp s w (imp.planCompiled s w).registry (imp.planCompiled s w).decision := by
  cases success : (Compilation.run s.name s.entity w).success with
  | false =>
    simp only [planCompiled, Generator.compile, success, Bool.not_false, if_true]
    exact .rejected stale success
  | true =>
    cases compiled : (Compilation.run s.name s.entity w).schema with
    | none =>
      simp only [planCompiled, Generator.compile, success, compiled, Bool.not_true,
        Bool.false_eq_true, if_false]
      exact .empty stale success compiled
    | some schema =>
      cases entity : imp.generator.renderEntity schema s.entity with
      | error e =>
        simp only [planCompiled, Generator.compile, success, compiled, entity, Bool.not_true,
          Bool.false_eq_true, if_false]
        exact .undeclarable stale success compiled entity
      | ok text =>
        cases container : imp.generator.renderContainer s.container s.entity s.path with
        | error e =>
          simp only [planCompiled, Generator.compile, success, compiled, entity, container,
            Bool.not_true, Bool.false_eq_true, if_false]
          exact .uncontained stale success compiled entity container
        | ok containerText =>
          simp only [planCompiled, Generator.compile, success, compiled, entity, container,
            Bool.not_true, Bool.false_eq_true, if_false]
          exact .declare stale success compiled entity container

theorem plan_plans (imp : Importer) (s : Source) (w : Workbook) :
    Plans imp s w (imp.plan s w).registry (imp.plan s w).decision := by
  unfold plan
  cases stale : needsCompile (imp.registry.get? s.entity) w with
  | false => exact .current stale
  | true => exact planCompiled_plans stale

/-! ## Runs -/

/-- All that loading and writing the records of the workbook of a source can do to a tree. `status`
is reported if they are written, with the files `before` and the file of records. -/
inductive Records (imp : Importer) (s : Source) (v : Workbook) (status : Nat → SourceStatus)
    (before : List Path) (t : FileTree) : FileTree → Except ImportError SourceOutcome → Prop
  | unloaded {e : LoadError}
      (load : (imp.registry.load s.entity s.name v imp.config.policy).result = .error e) :
      Records imp s v status before t t (.ok (s.outcome (.loadFailed e.text) before))
  | failed {records : List Record} (e : GenerationError)
      (load : (imp.registry.load s.entity s.name v imp.config.policy).result = .ok records)
      (blocked : ¬t.Writable imp.config.dataDir (dataName s.container) (recordsText records)) :
      Records imp s v status before t t (.error (.generation e))
  | written {t' : FileTree} {records : List Record}
      (load : (imp.registry.load s.entity s.name v imp.config.policy).result = .ok records)
      (directory : t.isDirectory imp.config.dataDir = true)
      (write : t.write (imp.dataPath s.container) (recordsText records) = .ok t') :
      Records imp s v status before t t'
        (.ok (s.outcome (status records.length) (before ++ [imp.dataPath s.container])))

theorem writeRecords_records (imp : Importer) (s : Source) (v : Workbook)
    (status : Nat → SourceStatus) (before : List Path) (t : FileTree) :
    let run := (imp.writeRecords s v status before : StateM FileTree _) t
    run.1.importer = imp ∧ Records imp s v status before t run.2 run.1.result := by
  intro run
  cases hload : (imp.registry.load s.entity s.name v imp.config.policy).result with
  | error e =>
    simp only [run, writeRecords, hload]
    exact ⟨rfl, .unloaded hload⟩
  | ok records =>
    have hwrites :=
      writeInto_writes t imp.config.dataDir (dataName s.container) (recordsText records)
    simp only [run, writeRecords, hload, run_bind]
    generalize (writeInto imp.config.dataDir (dataName s.container) (recordsText records) :
      StateM FileTree _) t = out at hwrites
    obtain ⟨result, t'⟩ := out
    cases hwrites with
    | written directory write => exact ⟨rfl, .written hload directory write⟩
    | failed e blocked => exact ⟨rfl, .failed e hload blocked⟩

/-- All that writing the two declarations of a source can do to a tree. -/
inductive WritesDeclarations (imp : Importer) (s : Source) (text containerText : String)
    (t : FileTree) : FileTree → Except GenerationError (List Path) → Prop
  | none (e : GenerationError)
      (blocked : ¬t.Writable imp.config.entityDir (imp.generator.fileName s.entity) text) :
      WritesDeclarations imp s text containerText t t (.error e)
  | entity {t₁ : FileTree} (directory : t.isDirectory imp.config.entityDir = true)
      (write : t.write (imp.entityPath s.entity) text = .ok t₁) (e : GenerationError)
      (blocked : ¬t₁.Writable imp.config.containerDir (imp.generator.fileName s.container)
        containerText) :
      WritesDeclarations imp s text containerText t t₁ (.error e)
  | both {t₁ t₂ : FileTree} (directory : t.isDirectory imp.config.entityDir = true)
      (write : t.write (imp.entityPath s.entity) text = .ok t₁)
      (containerDirectory : t₁.isDirectory imp.config.containerDir = true)
      (containerWrite : t₁.write (imp.containerPath s.container) containerText = .ok t₂) :
      WritesDeclarations imp s text containerText t t₂
        (.ok [imp.entityPath s.entity, imp.containerPath s.container])

theorem writeDeclarations_writes (imp : Importer) (s : Source) (text containerText : String)
    (t : FileTree) :
    let run := (imp.writeDeclarations s text containerText : StateM FileTree _) t
    WritesDeclarations imp s text containerText t run.2 run.1.2 := by
  intro run
  have hentity := writeInto_writes t imp.config.entityDir (imp.generator.fileName s.entity) text
  simp only [run, writeDeclarations, run_bind]
  generalize (writeInto imp.config.entityDir (imp.generator.fileName s.entity) text :
    StateM FileTree _) t = out at hentity
  obtain ⟨result, t₁⟩ := out
  cases hentity with
  | failed e blocked => exact .none e blocked
  | written directory write =>
    have hcontainer := writeInto_writes t₁ imp.config.containerDir
      (imp.generator.fileName s.container) containerText
    simp only [run_bind]
    generalize (writeInto imp.config.containerDir (imp.generator.fileName s.container)
      containerText : StateM FileTree _) t₁ = out at hcontainer
    obtain ⟨result, t₂⟩ := out
    cases hcontainer with
    | failed e blocked => exact .entity directory write e blocked
    | written containerDirectory containerWrite =>
      exact .both directory write containerDirectory containerWrite

/-- All that importing the source at a path can do to an importer and to a tree. -/
inductive Imports (imp : Importer) (path : Path) (t : FileTree) :
    Importer → FileTree → Except ImportError SourceOutcome → Prop
  | ignored (source : imp.source? path = none) :
      Imports imp path t imp t (.ok ⟨path, none, .ignored, []⟩)
  | unreadable {s : Source} (source : imp.source? path = some s) (error : String) :
      Imports imp path t imp t (.ok (s.outcome (.unreadable error)))
  | stopped {s : Source} {w : Workbook} {registry : Registry} {status : SourceStatus}
      (source : imp.source? path = some s) (opens : s.reader.Opens t path w)
      (plan : Plans imp s w registry (.stop status)) :
      Imports imp path t { imp with registry } t (.ok (s.outcome status))
  | kept {s : Source} {w : Workbook} {registry : Registry} {t' : FileTree}
      {result : Except ImportError SourceOutcome} (source : imp.source? path = some s)
      (opens : s.reader.Opens t path w) (plan : Plans imp s w registry .keep)
      (records : Records { imp with registry } s w .unchanged [] t t' result) :
      Imports imp path t { imp with registry } t' result
  | undeclared {s : Source} {w : Workbook} {registry : Registry} {text containerText : String}
      {t' : FileTree} {e : GenerationError} (source : imp.source? path = some s)
      (opens : s.reader.Opens t path w)
      (plan : Plans imp s w registry (.declare text containerText))
      (declarations : WritesDeclarations { imp with registry } s text containerText t t'
        (.error e)) :
      Imports imp path t { imp with registry } t' (.error (.generation e))
  | declared {s : Source} {w : Workbook} {registry : Registry} {text containerText : String}
      {files : List Path} {t₁ t' : FileTree} {result : Except ImportError SourceOutcome}
      (source : imp.source? path = some s) (opens : s.reader.Opens t path w)
      (plan : Plans imp s w registry (.declare text containerText))
      (declarations : WritesDeclarations { imp with registry } s text containerText t t₁
        (.ok files))
      (records : Records { imp with registry } s w .compiled files t₁ t' result) :
      Imports imp path t { imp with registry } t' result

theorem importWorkbook_imports {imp : Importer} {path : Path} {s : Source} {w : Workbook}
    {t : FileTree} (source : imp.source? path = some s) (opens : s.reader.Opens t path w) :
    let run := (imp.importWorkbook s w : StateM FileTree _) t
    Imports imp path t run.1.importer run.2 run.1.result := by
  intro run
  have hplan := imp.plan_plans s w
  simp only [run, importWorkbook]
  generalize imp.plan s w = plan at hplan
  obtain ⟨registry, events, decision⟩ := plan
  cases decision with
  | stop status => exact .stopped source opens hplan
  | keep =>
    obtain ⟨himporter, hrecords⟩ :=
      writeRecords_records { imp with registry } s w .unchanged [] t
    simp only [run_bind]
    generalize (writeRecords { imp with registry } s w .unchanged [] : StateM FileTree _) t = out
      at himporter hrecords
    obtain ⟨step, t'⟩ := out
    simp only at himporter
    exact himporter ▸ .kept source opens hplan hrecords
  | declare text containerText =>
    have hdeclarations := writeDeclarations_writes { imp with registry } s text containerText t
    simp only [run_bind]
    generalize (writeDeclarations { imp with registry } s text containerText :
      StateM FileTree _) t = out at hdeclarations
    obtain ⟨⟨declarationEvents, result⟩, t₁⟩ := out
    cases result with
    | error e => exact .undeclared source opens hplan hdeclarations
    | ok files =>
      obtain ⟨himporter, hrecords⟩ :=
        writeRecords_records { imp with registry } s w .compiled files t₁
      simp only [run_bind]
      generalize (writeRecords { imp with registry } s w .compiled files :
        StateM FileTree _) t₁ = out at himporter hrecords
      obtain ⟨step, t'⟩ := out
      simp only at himporter
      exact himporter ▸ .declared source opens hplan hdeclarations hrecords

/-- What importing the source at a path does to a tree. -/
theorem importSource_imports (imp : Importer) (path : Path) (t : FileTree) :
    let run := (imp.importSource path : StateM FileTree _) t
    Imports imp path t run.1.importer run.2 run.1.result := by
  intro run
  simp only [run, importSource]
  cases source : imp.source? path with
  | none => exact .ignored source
  | some s =>
    obtain ⟨htree, hopens⟩ := s.reader.open_run t path
    simp only [run_bind]
    generalize (s.reader.open path : StateM FileTree _) t = out at htree hopens
    obtain ⟨result, t₀⟩ := out
    obtain rfl : t₀ = t := htree
    cases result with
    | error e => exact .unreadable source e.message
    | ok w => exact importWorkbook_imports source (hopens w rfl)

end Importer

end TypedSheets
