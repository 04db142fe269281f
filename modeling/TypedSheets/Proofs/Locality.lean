import TypedSheets.Proofs.FailedWrite
import TypedSheets.Proofs.RegistryMap

/-!
# The steps of an import, side by side

Of what is registered, the import of a source depends on the descriptors of its entity alone
(`Importer.plan_alike`, `Importer.Records.alike`), and of the files other than that of the source
only on the directories. What it changes it changes alike in two trees (`FileTree.ChangedAlike`,
`Importer.CarriesOut.alike`), and this is no more than the descriptors of its entity and the three
files generated for it (`Importer.Imports.entriesOf_eq`, `Importer.Imports.node?_eq`).

A file is read through the directories on its path. If the path runs on from a place where no
directory stands (`FileTree.RunsThrough`), the file cannot be read, and why not depends on what
stands there.
-/

namespace TypedSheets

open FileTree Importer

/-! ## Registries -/

namespace Registry

variable {r r' : Registry}

/-- The descriptors of an entity: one or none, if the registry is a map. -/
def entriesOf (r : Registry) (entity : String) : List Descriptor :=
  r.descriptors.filter (·.entity == entity)

theorem get?_eq_head? (r : Registry) (entity : String) :
    r.get? entity = (r.entriesOf entity).head? :=
  List.head?_filter.symm

theorem entriesOf_put (r : Registry) (d : Descriptor) (entity : String) :
    (r.put d).entriesOf entity = if entity = d.entity then [d] else r.entriesOf entity := by
  unfold entriesOf put
  by_cases h : entity = d.entity
  · subst h
    simp [List.filter_filter]
  · rw [if_neg h, List.filter_cons_of_neg (by simpa using Ne.symm h), List.filter_filter]
    refine List.filter_congr fun e _ => ?_
    by_cases he : e.entity = entity <;> simp [he, h]

theorem get?_congr {entity : String} (h : r'.entriesOf entity = r.entriesOf entity) :
    r'.get? entity = r.get? entity := by
  rw [get?_eq_head?, get?_eq_head?, h]

theorem sameMap_of_entriesOf (h : ∀ entity, r.entriesOf entity = r'.entriesOf entity) :
    r.SameMap r' := by
  refine ⟨fun entity => get?_congr (h entity), List.Perm.length_eq ?_⟩
  refine List.perm_iff_count.mpr fun d => ?_
  have hcount : ∀ r : Registry, (r.entriesOf d.entity).count d = r.descriptors.count d := fun r =>
    List.count_filter (by simp)
  rw [← hcount r, ← hcount r', h]

end Registry

/-! ## File trees -/

namespace FileTree

variable {t t' u u' v v' : FileTree} {p : Path} {l : FileLocation}

/-- The path leads to a location where no directory stands, and on from there. -/
def RunsThrough (t : FileTree) (p : Path) (l : FileLocation) : Prop :=
  ∃ names rest, p.pieces = names ++ rest ∧ rest ≠ [] ∧ t.walk (start p) names = .ok l ∧
    t.node? l ≠ some .directory

/-- A path of one piece runs through nothing: it starts from a directory that is always there. -/
theorem not_runsThrough (h : p.pieces.length = 1) : ¬t.RunsThrough p l := by
  rintro ⟨names, rest, hpieces, hrest, hwalk, hdirectory⟩
  obtain rfl : names = [] := by
    rw [hpieces, List.length_append] at h
    have hpos := List.length_pos_iff.mpr hrest
    exact List.length_eq_zero_iff.mp (by omega)
  obtain rfl : start p = l := Except.ok.inj hwalk
  refine hdirectory ?_
  unfold start
  split <;> rfl

/-- Where a walk ends, or why it fails, depends on what it comes by. -/
theorem walk_congr : ∀ {names : List String} {l : FileLocation},
    (∀ before rest k, names = before ++ rest → rest ≠ [] → t.walk l before = .ok k →
      t'.node? k = t.node? k) → t'.walk l names = t.walk l names
  | [], l, _ => rfl
  | name :: names, l, h => by
    have hnode : t'.node? l = t.node? l := h [] (name :: names) l rfl (by simp) rfl
    unfold walk
    rw [hnode]
    cases hl : t.node? l with
    | none => rfl
    | some n =>
      cases n with
      | file c => rfl
      | directory =>
        cases hstep : l.step name with
        | error e => rfl
        | ok next =>
          refine walk_congr fun before rest k hnames hrest hwalk => ?_
          refine h (name :: before) rest k (by rw [hnames, List.cons_append]) hrest ?_
          simp only [walk, hl, hstep, hwalk]

theorem readContent_congr (hresolve : t'.resolve p = t.resolve p)
    (hnode : ∀ l, t.resolve p = .ok l → t'.node? l = t.node? l) :
    t'.readContent p = t.readContent p := by
  unfold readContent lookup
  rw [hresolve]
  cases hl : t.resolve p with
  | error e => rfl
  | ok l => simp only [hnode l hl]

/-- A file is read alike in two trees that agree on what its path runs through and leads to. -/
theorem SameDirectories.readContent_eq (h : t.SameDirectories t')
    (hthrough : ∀ l, t.RunsThrough p l → t'.node? l = t.node? l)
    (hnode : ∀ l, t.resolve p = .ok l → t'.node? l = t.node? l) :
    t'.readContent p = t.readContent p := by
  refine readContent_congr ?_ hnode
  unfold resolve
  split
  · rfl
  split
  · rfl
  · refine walk_congr fun before rest l hpieces hrest hwalk => ?_
    by_cases hdirectory : t.node? l = some .directory
    · rw [hdirectory, h l, hdirectory]
    · exact hthrough l ⟨before, rest, hpieces, hrest, hwalk, hdirectory⟩

/-- If they only agree on what its path leads to, it is read in neither tree, or alike. -/
theorem SameDirectories.readContent_eq_or (h : t.SameDirectories t')
    (hnode : ∀ l, t.resolve p = .ok l → t'.node? l = t.node? l) :
    t'.readContent p = t.readContent p ∨
      (∃ fault, t.readContent p = .error fault) ∧ ∃ fault,
        t'.readContent p = .error fault := by
  have hfault : ∀ {t : FileTree} {e : FileFault},
      t.resolve p = .error e → t.readContent p = .error e :=
    fun he => by simp only [readContent, lookup, he]
  cases hl : t.resolve p with
  | ok l => exact .inl (readContent_congr ((h.resolve_eq hl).trans hl.symm) hnode)
  | error e =>
    cases hl' : t'.resolve p with
    | ok l => cases hl.symm.trans (h.symm.resolve_eq hl')
    | error e' => exact .inr ⟨⟨e, hfault hl⟩, e', hfault hl'⟩

/-- What has changed from `t` to `u` has changed alike from `t'` to `u'`: wherever something has,
the same stands in both. -/
def ChangedAlike (t u t' u' : FileTree) : Prop :=
  ∀ l, u.node? l = t.node? l ∧ u'.node? l = t'.node? l ∨ u'.node? l = u.node? l

theorem ChangedAlike.refl (t t' : FileTree) : ChangedAlike t t t' t' :=
  fun _ => .inl ⟨rfl, rfl⟩

theorem ChangedAlike.trans (h : ChangedAlike t u t' u') (h' : ChangedAlike u v u' v') :
    ChangedAlike t v t' v' := by
  intro l
  rcases h' l with ⟨hv, hv'⟩ | hsame
  · rw [hv, hv']
    exact h l
  · exact .inr hsame

/-- What was alike before is so afterwards. -/
theorem ChangedAlike.node?_eq (h : ChangedAlike t u t' u') (hl : t'.node? l = t.node? l) :
    u'.node? l = u.node? l := by
  rcases h l with ⟨hu, hu'⟩ | hsame
  · rw [hu, hu', hl]
  · exact hsame

/-- Writing changes nothing but what the path leads to. -/
theorem node?_write {text : String} (h : t.write p text = .ok t') (hl : t.resolve p ≠ .ok l) :
    t'.node? l = t.node? l := by
  obtain ⟨k, hresolve, hnode, rfl⟩ := write_eq_ok_iff.mp h
  rw [node?_put t _ (isPlaced_of_resolve hresolve hnode), if_neg]
  rintro rfl
  exact hl hresolve

/-- Neither does removing a file. -/
theorem node?_remove (h : t.remove p = .ok t') (hl : t.resolve p ≠ .ok l) :
    t'.node? l = t.node? l := by
  obtain ⟨k, c, hresolve, hnode, rfl⟩ := remove_eq_ok_iff.mp h
  rw [node?_erase t (isGiven_of_ne (t := t) (by simp [hnode])), if_neg]
  rintro rfl
  exact hl hresolve

/-- A file written alike in two trees. -/
theorem ChangedAlike.of_write {text : String} (h : t.SameDirectories t')
    (hwrite : t.write p text = .ok u) (hwrite' : t'.write p text = .ok u') :
    ChangedAlike t u t' u' := by
  obtain ⟨l, hresolve, hnode, rfl⟩ := write_eq_ok_iff.mp hwrite
  obtain ⟨l', hresolve', hnode', rfl⟩ := write_eq_ok_iff.mp hwrite'
  obtain rfl : l = l' := Except.ok.inj ((h.resolve_eq hresolve).symm.trans hresolve')
  intro k
  have hplaced := isPlaced_of_resolve hresolve hnode
  rw [node?_put t _ hplaced, node?_put t' _ hplaced]
  by_cases hk : k = l
  · exact .inr (by rw [if_pos hk, if_pos hk])
  · exact .inl ⟨if_neg hk, if_neg hk⟩

end FileTree

/-! ## Importers -/

theorem Registry.load_congr {r r' : Registry} {entity : String} (h : r'.get? entity = r.get? entity)
    (source : String) (v : Workbook) (policy : Policy) :
    r'.load entity source v policy = r.load entity source v policy := by
  unfold load
  rw [h]

namespace Importer

variable {imp : Importer} {registry : Registry} {s : Source} {v : Workbook} {t t' u u' : FileTree}
  {o : SourceOutcome}

/-- Compiling a workbook calls for the same whatever is registered, and registers the same
descriptor of the entity of its source, or none. -/
theorem planCompiled_local (imp : Importer) (s : Source) (v : Workbook) :
    ∃ (d? : Option Descriptor) (decision : Decision),
      (∀ d, d? = some d → d.entity = s.entity) ∧
      ∀ registry : Registry,
        (planCompiled { imp with registry } s v).decision = decision ∧
          (planCompiled { imp with registry } s v).registry = d?.elim registry registry.put := by
  cases success : (Compilation.run s.name s.entity v).success with
  | false =>
    refine ⟨none, .stop (.rejected (Compilation.run s.name s.entity v).messages), by simp, ?_⟩
    intro registry
    simp [planCompiled, Generator.compile, success]
  | true =>
    cases compiled : (Compilation.run s.name s.entity v).schema with
    | none =>
      refine ⟨none, .stop .empty, by simp, fun registry => ?_⟩
      simp [planCompiled, Generator.compile, success, compiled]
    | some schema =>
      have hname : (Descriptor.ofSchema schema).entity = s.entity :=
        ((Compilation.schema_eq_some_iff _ _ _).mp compiled).1
      cases entity : imp.generator.renderEntity schema s.entity with
      | error e =>
        refine ⟨none, .stop (.generationFailed e.message), by simp, fun registry => ?_⟩
        simp [planCompiled, Generator.compile, success, compiled, entity, generationFailed]
      | ok text =>
        cases container : imp.generator.renderContainer s.container s.entity s.path with
        | error e =>
          refine ⟨some (.ofSchema schema), .stop (.generationFailed e.message), by simpa, ?_⟩
          intro registry
          simp [planCompiled, Generator.compile, success, compiled, entity, container,
            generationFailed]
        | ok containerText =>
          refine ⟨some (.ofSchema schema), .declare text containerText,
            by simpa, fun registry => ?_⟩
          simp [planCompiled, Generator.compile, success, compiled, entity, container]

/-- Of what is registered, a plan depends on the descriptor of the entity of its source alone. -/
theorem plan_local (imp : Importer) (s : Source) (v : Workbook) :
    ∃ (d? : Option Descriptor) (decision : Decision),
      (∀ d, d? = some d → d.entity = s.entity) ∧
      ∀ registry : Registry, registry.get? s.entity = imp.registry.get? s.entity →
        (plan { imp with registry } s v).decision = decision ∧
          (plan { imp with registry } s v).registry = d?.elim registry registry.put := by
  cases stale : needsCompile (imp.registry.get? s.entity) v with
  | false =>
    refine ⟨none, .keep, by simp, fun registry hget => ?_⟩
    simp [plan, hget, stale]
  | true =>
    obtain ⟨d?, decision, hentity, hcompiled⟩ := imp.planCompiled_local s v
    refine ⟨d?, decision, hentity, fun registry hget => ?_⟩
    simp only [plan, hget, stale, if_true, hcompiled registry, and_self]

/-- Plans under registries with the same descriptors of the entity of a source are alike, and leave
the same descriptors of it. -/
theorem plan_alike (s : Source) (v : Workbook)
    (h : registry.entriesOf s.entity = imp.registry.entriesOf s.entity) :
    (plan { imp with registry } s v).decision = (imp.plan s v).decision ∧
      (plan { imp with registry } s v).registry.entriesOf s.entity =
        (imp.plan s v).registry.entriesOf s.entity := by
  obtain ⟨d?, decision, hentity, hplan⟩ := imp.plan_local s v
  obtain ⟨hdecision, hregistry⟩ := hplan imp.registry rfl
  obtain ⟨hdecision', hregistry'⟩ := hplan registry (Registry.get?_congr h)
  refine ⟨hdecision'.trans hdecision.symm, ?_⟩
  rw [hregistry', hregistry]
  cases d? with
  | none => exact h
  | some d =>
    have hd : s.entity = d.entity := (hentity d rfl).symm
    simp only [Option.elim_some, Registry.entriesOf_put, if_pos hd]

/-- Records are loaded and written alike under importers that have the same descriptor of their
entity. -/
theorem Records.alike {status : Nat → SourceStatus} {before : List Path}
    {result : Except ImportError SourceOutcome} (h : Records imp s v status before t u (.ok o))
    (h' : Records { imp with registry } s v status before t' u' result)
    (hget : registry.get? s.entity = imp.registry.get? s.entity)
    (hdirectories : t.SameDirectories t') : result = .ok o ∧ ChangedAlike t u t' u' := by
  have hload := Registry.load_congr hget s.name v imp.config.policy
  cases h with
  | unloaded load =>
    cases h' with
    | unloaded load' =>
      rw [hload] at load'
      rw [Except.error.inj (load.symm.trans load')]
      exact ⟨rfl, .refl t t'⟩
    | failed e load' => cases load.symm.trans ((congrArg _ hload).symm.trans load')
    | written load' => cases load.symm.trans ((congrArg _ hload).symm.trans load')
  | @written _ records load directory write =>
    cases h' with
    | unloaded load' => cases load.symm.trans ((congrArg _ hload).symm.trans load')
    | failed e load' blocked =>
      exact absurd (hdirectories.writable ⟨directory, _, write⟩) blocked
    | written load' directory' write' =>
      rw [hload] at load'
      obtain rfl := Except.ok.inj (load.symm.trans load')
      exact ⟨rfl, .of_write hdirectories write write'⟩

/-- Declarations are written alike in trees with the same directories. -/
theorem WritesDeclarations.alike {text containerText : String} {files : List Path}
    {result : Except GenerationError (List Path)}
    (h : WritesDeclarations imp s text containerText t u (.ok files))
    (h' : WritesDeclarations { imp with registry } s text containerText t' u' result)
    (hdirectories : t.SameDirectories t') : result = .ok files ∧ ChangedAlike t u t' u' := by
  cases h with
  | both directory write containerDirectory containerWrite =>
    cases h' with
    | none e blocked => exact absurd (hdirectories.writable ⟨directory, _, write⟩) blocked
    | entity directory' write' e blocked =>
      have hwritten := ((sameDirectories_write write).symm.trans hdirectories).trans
        (sameDirectories_write write')
      exact absurd (hwritten.writable ⟨containerDirectory, _, containerWrite⟩) blocked
    | both directory' write' containerDirectory' containerWrite' =>
      have hwritten := ((sameDirectories_write write).symm.trans hdirectories).trans
        (sameDirectories_write write')
      exact ⟨rfl, (ChangedAlike.of_write hdirectories write write').trans
        (.of_write hwritten containerWrite containerWrite')⟩

/-- What an import calls for is carried out alike. -/
theorem CarriesOut.alike {decision : Decision} {result : Except ImportError SourceOutcome}
    (h : CarriesOut imp s v t decision u (.ok o))
    (h' : CarriesOut { imp with registry } s v t' decision u' result)
    (hget : registry.get? s.entity = imp.registry.get? s.entity)
    (hdirectories : t.SameDirectories t') : result = .ok o ∧ ChangedAlike t u t' u' := by
  cases h with
  | stopped status =>
    cases h'
    exact ⟨rfl, .refl t t'⟩
  | kept records =>
    cases h' with
    | kept records' => exact records.alike records' hget hdirectories
  | declared declarations records =>
    cases h' with
    | undeclared declarations' => cases (declarations.alike declarations' hdirectories).1
    | declared declarations' records' =>
      obtain ⟨hfiles, halike⟩ := declarations.alike declarations' hdirectories
      obtain rfl := Except.ok.inj hfiles
      have hdeclared := (declarations.sameDirectories.symm.trans hdirectories).trans
        declarations'.sameDirectories
      obtain ⟨hresult, hrecords⟩ := records.alike records' hget hdeclared
      exact ⟨hresult, halike.trans hrecords⟩

/-! ## What an import leaves -/

theorem Plans.entriesOf_eq {decision : Decision} {entity : String}
    (h : Plans imp s v registry decision) (hne : entity ≠ s.entity) :
    registry.entriesOf entity = imp.registry.entriesOf entity := by
  obtain rfl | ⟨d, hd, rfl⟩ := h.registry_eq_or
  · rfl
  · rw [Registry.entriesOf_put, if_neg (hd ▸ hne)]

theorem Records.node?_eq {status : Nat → SourceStatus} {before : List Path} {l : FileLocation}
    {result : Except ImportError SourceOutcome} (h : Records imp s v status before t u result)
    (hl : t.resolve (imp.dataPath s.container) ≠ .ok l) : u.node? l = t.node? l := by
  cases h with
  | unloaded => rfl
  | failed => rfl
  | written load directory write => exact node?_write write hl

theorem WritesDeclarations.node?_eq {text containerText : String} {l : FileLocation}
    {result : Except GenerationError (List Path)}
    (h : WritesDeclarations imp s text containerText t u result)
    (hentity : t.resolve (imp.entityPath s.entity) ≠ .ok l)
    (hcontainer : t.resolve (imp.containerPath s.container) ≠ .ok l) : u.node? l = t.node? l := by
  cases h with
  | none => rfl
  | entity directory write => exact node?_write write hentity
  | both directory write containerDirectory containerWrite =>
    rw [Ne, ← (sameDirectories_write write).resolve_eq_ok_iff] at hcontainer
    rw [node?_write containerWrite hcontainer, node?_write write hentity]

namespace Imports

variable {imp' : Importer} {path : Path} {result : Except ImportError SourceOutcome}

theorem entriesOf_eq {entity : String} (h : Imports imp path t imp' t' result)
    (hs : imp.source? path = some s) (hne : entity ≠ s.entity) :
    imp'.registry.entriesOf entity = imp.registry.entriesOf entity := by
  have hplan : ∀ {s' : Source} {w : Workbook} {r : Registry} {decision : Decision},
      imp.source? path = some s' → Plans imp s' w r decision →
        r.entriesOf entity = imp.registry.entriesOf entity := by
    intro s' w r decision source plan
    obtain rfl := Option.some.inj (hs.symm.trans source)
    exact plan.entriesOf_eq hne
  cases h with
  | ignored => rfl
  | unreadable => rfl
  | stopped source opens plan => exact hplan source plan
  | kept source opens plan => exact hplan source plan
  | undeclared source opens plan => exact hplan source plan
  | declared source opens plan => exact hplan source plan

/-- An import changes nothing but the files generated for its source. -/
theorem node?_eq {l : FileLocation} (h : Imports imp path t imp' t' result)
    (hs : imp.source? path = some s) (hentity : t.resolve (imp.entityPath s.entity) ≠ .ok l)
    (hcontainer : t.resolve (imp.containerPath s.container) ≠ .ok l)
    (hdata : t.resolve (imp.dataPath s.container) ≠ .ok l) : t'.node? l = t.node? l := by
  cases h with
  | ignored => rfl
  | unreadable => rfl
  | stopped => rfl
  | kept source opens plan records =>
    obtain rfl := Option.some.inj (hs.symm.trans source)
    exact records.node?_eq hdata
  | undeclared source opens plan declarations =>
    obtain rfl := Option.some.inj (hs.symm.trans source)
    exact declarations.node?_eq hentity hcontainer
  | declared source opens plan declarations records =>
    obtain rfl := Option.some.inj (hs.symm.trans source)
    rw [records.node?_eq (by rwa [Ne, declarations.sameDirectories.resolve_eq_ok_iff]),
      declarations.node?_eq hentity hcontainer]

end Imports

end Importer

end TypedSheets
