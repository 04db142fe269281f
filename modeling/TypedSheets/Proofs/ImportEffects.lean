import TypedSheets.Proofs.Standing

/-!
# Effects of an import

What the import of a source leaves behind follows from its outcome. `FileTree.Wrote` are the trees
that writing files at some paths in order leads to, and `Importer.WritesFor` lists the files that
are written for a source. An import that stops before it comes to the records leaves everything as
it was: that the entity of a source can be declared, but not its container, does not happen
(`Importer.Plans.registry_eq`), so no descriptor is registered without declarations.

Main statement: `World.effects_of_outcome`.
-/

namespace TypedSheets

open FileTree Importer

/-- Whether an import came to the records of its source. -/
def SourceStatus.reachesRecords : SourceStatus → Bool
  | .compiled _ | .unchanged _ | .loadFailed _ => true
  | _ => false

/-! ## Files written -/

namespace FileTree

/-- Writing a file at each of some paths, in order, leads from one tree to the other. -/
inductive Wrote : List Path → FileTree → FileTree → Prop
  | nil (t : FileTree) : Wrote [] t t
  | cons {p : Path} {text : String} {paths : List Path} {t t' t'' : FileTree}
      (write : t.write p text = .ok t') (rest : Wrote paths t' t'') : Wrote (p :: paths) t t''

namespace Wrote

variable {paths others : List Path} {p : Path} {t t' t'' : FileTree}

theorem append (h : Wrote paths t t') (h' : Wrote others t' t'') :
    Wrote (paths ++ others) t t'' := by
  induction h with
  | nil => exact h'
  | cons write _ ih => exact .cons write (ih h')

theorem singleton {text : String} (write : t.write p text = .ok t') : Wrote [p] t t' :=
  .cons write (.nil t')

/-- What no path that was written leads to has not changed. -/
theorem content?_eq (h : Wrote paths t t') (hp : ∀ q ∈ paths, ¬t.SameFile q p) :
    t'.content? p = t.content? p := by
  induction h with
  | nil => rfl
  | cons write _ ih =>
    obtain ⟨hhead, hrest⟩ := List.forall_mem_cons.mp hp
    simp only [← (sameDirectories_write write).sameFile_iff] at hrest
    rw [ih hrest, content?_write_other write hhead]

/-- Files that are there stay there. -/
theorem content?_some (h : Wrote paths t t') {c : Content} (hc : t.content? p = some c) :
    ∃ c', t'.content? p = some c' := by
  induction h generalizing c with
  | nil => exact ⟨c, hc⟩
  | cons write _ ih =>
    obtain ⟨c', hc'⟩ := content?_write_some write hc
    exact ih hc'

theorem isFile (h : Wrote paths t t') (hp : p ∈ paths) : t'.isFile p = true := by
  induction h with
  | nil => cases hp
  | cons write rest ih =>
    rcases List.mem_cons.mp hp with rfl | hp
    · exact isFile_eq_true_iff.mpr (rest.content?_some (content?_write_self write))
    · exact ih hp

end Wrote

end FileTree

namespace Importer

/-- The two importers differ at most in the descriptor that they have for an entity. -/
structure SameExcept (entity : String) (imp imp' : Importer) : Prop where
  config : imp'.config = imp.config
  generator : imp'.generator = imp.generator
  readers : imp'.readers = imp.readers
  registry : ∀ other, other ≠ entity → imp'.registry.get? other = imp.registry.get? other

/-- The files that are written for a source with a status, in order. -/
inductive WritesFor (imp : Importer) (s : Source) : SourceStatus → List Path → Prop
  | compiled (n : Nat) : WritesFor imp s (.compiled n)
      [imp.entityPath s.entity, imp.containerPath s.container, imp.dataPath s.container]
  | unchanged (n : Nat) : WritesFor imp s (.unchanged n) [imp.dataPath s.container]
  | currentUnloaded (error : String) : WritesFor imp s (.loadFailed error) []
  | declaredUnloaded (error : String) : WritesFor imp s (.loadFailed error)
      [imp.entityPath s.entity, imp.containerPath s.container]

variable {imp : Importer} {path : Path} {s : Source} {t t' : FileTree} {o : SourceOutcome}

theorem WritesDeclarations.wrote {text containerText : String} {files : List Path}
    (h : WritesDeclarations imp s text containerText t t' (.ok files)) :
    files = [imp.entityPath s.entity, imp.containerPath s.container] ∧ Wrote files t t' := by
  cases h with
  | both directory write containerDirectory containerWrite =>
    exact ⟨rfl, .cons write (.singleton containerWrite)⟩

/-- Loading the records writes the file of records, or nothing if it fails. -/
theorem Records.wrote {v : Workbook} {status : Nat → SourceStatus} {before : List Path}
    {result : Except ImportError SourceOutcome} (h : Records imp s v status before t t' result) :
    (∃ n, result = .ok (s.outcome (status n) (before ++ [imp.dataPath s.container])) ∧
        Wrote [imp.dataPath s.container] t t') ∨
      ((∃ error, result = .ok (s.outcome (.loadFailed error) before)) ∨
        ∃ e, result = .error (.generation e)) ∧ t' = t := by
  cases h with
  | @unloaded e load => exact .inr ⟨.inl ⟨e.text, rfl⟩, rfl⟩
  | failed e load blocked => exact .inr ⟨.inr ⟨e, rfl⟩, rfl⟩
  | @written _ records load directory write =>
    exact .inl ⟨records.length, rfl, .singleton write⟩

theorem Plans.sameExcept {w : Workbook} {registry : Registry} {decision : Decision}
    (h : Plans imp s w registry decision) : SameExcept s.entity imp { imp with registry } :=
  ⟨rfl, rfl, rfl, fun _ hne => h.get?_eq hne⟩

theorem Plans.reachesRecords_eq {w : Workbook} {registry : Registry} {status : SourceStatus}
    (h : Plans imp s w registry (.stop status)) : status.reachesRecords = false := by
  cases h <;> rfl

/-- What an import has done, by its outcome. -/
theorem Imports.effects {imp' : Importer} (h : Imports imp path t imp' t' (.ok o))
    (hvalid : imp.config.validate = .ok ()) :
    (o.status.reachesRecords = false ∧ imp' = imp ∧ t' = t ∧ o.written = []) ∨
      o.status.reachesRecords = true ∧ ∃ s, imp.source? path = some s ∧
        SameExcept s.entity imp imp' ∧
        WritesFor imp s o.status o.written ∧ Wrote o.written t t' := by
  cases h with
  | ignored => exact .inl ⟨rfl, rfl, rfl, rfl⟩
  | unreadable => exact .inl ⟨rfl, rfl, rfl, rfl⟩
  | stopped source opens plan =>
    obtain rfl := plan.registry_eq hvalid source
    exact .inl ⟨plan.reachesRecords_eq, rfl, rfl, rfl⟩
  | @kept s _ _ _ _ source opens plan records =>
    rcases records.wrote with ⟨n, hresult, hwrote⟩ |
      ⟨⟨error, hresult⟩ | ⟨e, hresult⟩, rfl⟩
    · obtain rfl := Except.ok.inj hresult
      exact .inr ⟨rfl, s, source, plan.sameExcept, .unchanged n, hwrote⟩
    · obtain rfl := Except.ok.inj hresult
      exact .inr ⟨rfl, s, source, plan.sameExcept, .currentUnloaded error, .nil _⟩
    · cases hresult
  | @declared s _ _ _ _ _ _ _ _ source opens plan declarations records =>
    obtain ⟨rfl, hdeclared⟩ := declarations.wrote
    rcases records.wrote with ⟨n, hresult, hwrote⟩ |
      ⟨⟨error, hresult⟩ | ⟨e, hresult⟩, rfl⟩
    · obtain rfl := Except.ok.inj hresult
      exact .inr ⟨rfl, s, source, plan.sameExcept, .compiled n, hdeclared.append hwrote⟩
    · obtain rfl := Except.ok.inj hresult
      exact .inr ⟨rfl, s, source, plan.sameExcept, .declaredUnloaded error, hdeclared⟩
    · cases hresult

end Importer

namespace World

variable {w : World} {path : Path} {o : SourceOutcome}

theorem imported_eq_self (himporter : (w.imported path).importer = w.importer)
    (htree : (w.imported path).tree = w.tree) : w.imported path = w := by
  change (⟨(w.imported path).importer, (w.imported path).tree⟩ : World) = w
  rw [himporter, htree]

/-- An import that does not come to the records of its source leaves everything as it was and writes
nothing. Any other changes at most the descriptor of the entity of the source, and writes the
declarations and the records: all of these, only the records if the declarations were current, and
no records if they could not be loaded. -/
theorem effects_of_outcome (hvalid : w.importer.config.validate = .ok ())
    (ho : w.outcome path = .ok o) :
    (o.status.reachesRecords = false → w.imported path = w ∧ o.written = []) ∧
      (o.status.reachesRecords = true → ∃ s, w.importer.source? path = some s ∧
        w.importer.SameExcept s.entity (w.imported path).importer ∧
        w.importer.WritesFor s o.status o.written ∧
        Wrote o.written w.tree (w.imported path).tree ∧
        (∀ p ∈ o.written, (w.imported path).tree.isFile p = true) ∧
        ∀ p, (∀ q ∈ o.written, ¬w.tree.SameFile q p) →
          (w.imported path).tree.content? p = w.tree.content? p) := by
  have himports := w.imports path
  rw [ho] at himports
  rcases himports.effects hvalid with ⟨hstops, himporter, htree, hwritten⟩ |
    ⟨hreaches, s, hs, heffects⟩
  · refine ⟨fun _ => ⟨imported_eq_self himporter htree, hwritten⟩, fun hreaches => ?_⟩
    exact absurd (hstops.symm.trans hreaches) (by decide)
  · refine ⟨fun hstops => absurd (hstops.symm.trans hreaches) (by decide), fun _ => ?_⟩
    obtain ⟨hsame, hfiles, hwrote⟩ := heffects
    exact ⟨s, hs, hsame, hfiles, hwrote, fun p hp => hwrote.isFile hp,
      fun p hp => hwrote.content?_eq hp⟩

/-- The source has a column whose name cannot be declared. -/
def undeclarableWorld : World :=
  { itemsWorld with tree := itemsTree.place itemsPath (.text
    "\x7b\"sheets\":[\x7b\"name\":\"S\",\"rows\":[[\"my id\"],[\"int\"]]\x7d]\x7d") }

/-- The outcome of the source, whose column cannot be declared. -/
def itemsUndeclarable : SourceOutcome :=
  ⟨itemsPath, some "Entity_Items",
    .generationFailed "'my id' in column name is not a valid identifier", []⟩

theorem effects_items :
    itemsWorld.outcome itemsPath = .ok itemsCompiled ∧
      (∀ p, (∀ q ∈ itemsCompiled.written, ¬itemsWorld.tree.SameFile q p) →
        (itemsWorld.imported itemsPath).tree.content? p = itemsWorld.tree.content? p) ∧
      undeclarableWorld.outcome itemsPath = .ok itemsUndeclarable ∧
      undeclarableWorld.imported itemsPath = undeclarableWorld := by
  have hcompiled : itemsWorld.outcome itemsPath = .ok itemsCompiled := by decide +kernel
  have hundeclarable : undeclarableWorld.outcome itemsPath = .ok itemsUndeclarable := by
    decide +kernel
  obtain ⟨s, -, -, -, -, -, hothers⟩ := (effects_of_outcome rfl hcompiled).2 rfl
  exact ⟨hcompiled, hothers, hundeclarable, ((effects_of_outcome rfl hundeclarable).1 rfl).1⟩

end World

end TypedSheets
