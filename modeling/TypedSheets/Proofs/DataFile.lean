import TypedSheets.Proofs.JsonText
import TypedSheets.Proofs.RowScan
import TypedSheets.Proofs.Session

/-!
# Files of records

The file of records of a source is read back as an array of one object for each record
(`Importer.parse?_recordsText`), with the fields of the descriptor under which the records were
loaded (`Registry.fits_of_load`). In a session, this is the descriptor that the last import that
wrote the file left registered. It is still registered, and declared, unless the source was imported
again since then with new declarations but rows that could not be loaded: then the file is the old
one (`World.stale_after_loadFailed`).

Main statement: `World.data_of_session`.
-/

namespace TypedSheets

open FileTree Importer

/-! ## Records in a text -/

namespace Binary64

theorem isDigit_of_mem_ofDecimal {d : Nat} {k : Int} :
    ∀ c ∈ (Digits.ofDecimal d k).digits, c.isDigit = true := by
  intro c hc
  have hsublist := (List.dropWhile_sublist (· == '0') (l := (Nat.toDigits 10 d).reverse)).subset
  exact Json.isDigit_of_mem_toDigits c (List.mem_reverse.mp (hsublist (List.mem_reverse.mp hc)))

theorem isDigit_of_mem_positional {d : Digits} (hd : ∀ c ∈ d.digits, c.isDigit = true) :
    ∀ c ∈ (positional d).2, c.isDigit = true := by
  intro c hc
  unfold positional at hc
  dsimp only at hc
  split at hc
  · exact hd c (List.mem_of_mem_drop hc)
  · rcases List.mem_append.mp hc with hc | hc
    · rw [List.eq_of_mem_replicate hc]
      rfl
    · exact hd c hc

/-- What is written of a number after the point are digits. -/
theorem isPlain_of_numeral? {x : Binary64} {n : Numeral} (h : x.numeral? = some n) :
    n.isPlain = true := by
  have hshortest : ∀ c ∈ (shortest .toEven x.magnitude).digits, c.isDigit = true :=
    isDigit_of_mem_ofDecimal
  rw [Numeral.isPlain, List.all_eq_true]
  unfold numeral? at h
  dsimp only at h
  split at h
  · cases h
  split at h
  · obtain rfl := Option.some.inj h
    exact fun c hc => List.mem_singleton.mp hc ▸ rfl
  split at h
  · obtain rfl := Option.some.inj h
    dsimp only
    split
    · exact fun c hc => List.mem_singleton.mp hc ▸ rfl
    · exact isDigit_of_mem_positional hshortest
  · obtain rfl := Option.some.inj h
    exact fun c hc => hshortest c (List.mem_of_mem_drop hc)

end Binary64

theorem Value.sound_toJson (v : Value) : v.toJson.sound Numeral.isPlain = true := by
  cases v with
  | float x =>
    rw [Value.toJson, Binary64.toJson]
    split
    · next n hn => exact Binary64.isPlain_of_numeral? hn
    · rfl
  | _ => rfl

theorem Record.sound_toJson (r : Record) : r.toJson.sound Numeral.isPlain = true := by
  rw [Record.toJson, Json.sound]
  induction r.fields with
  | nil => rfl
  | cons field fields ih => simpa [Json.soundMembers, Value.sound_toJson] using ih

/-- A file of records is read back as one object for each record. -/
theorem Importer.parse?_recordsText (records : List Record) :
    Json.parse? (recordsText records) = some (.array (records.map Record.toJson)) := by
  refine Json.parse?_pretty ?_
  rw [Json.sound]
  induction records with
  | nil => rfl
  | cons r records ih => simpa [Json.soundList, Record.sound_toJson] using ih

/-! ## Fields of records -/

/-- The record has a value for each field of a descriptor. -/
structure Record.Fits (d : Descriptor) (r : Record) : Prop where
  names : r.names = d.names
  length : r.values.length = r.names.length

/-- A record that fits a descriptor is an object with the fields of the descriptor, in order. -/
theorem Record.Fits.toJson {d : Descriptor} {r : Record} (h : r.Fits d) :
    ∃ members, r.toJson = .object members ∧ members.map (·.1) = d.names := by
  refine ⟨_, rfl, ?_⟩
  rw [List.map_map, Record.fields, ← h.names]
  exact List.map_fst_zip h.length.ge

theorem Descriptor.names_of_columns : ∀ {fields : List (String × String)} {cols : List Column},
    columns fields = .ok cols → cols.map (·.name) = fields.map (·.1)
  | [], cols, h => by
    obtain rfl := Except.ok.inj h
    rfl
  | (name, type) :: fields, cols, h => by
    unfold columns at h
    split at h
    · cases h
    · obtain ⟨others, hothers, rfl⟩ := map_eq_ok_iff.mp h
      rw [List.map_cons, List.map_cons, names_of_columns hothers]

/-- The schema that a descriptor describes has its names. -/
theorem Descriptor.names_of_toSchema {d : Descriptor} {s : TableSchema} (h : d.toSchema = .ok s) :
    s.names = d.names := by
  unfold toSchema at h
  split at h
  · cases h
  next hlength =>
  split at h
  · cases h
  next cols hcols =>
  dsimp only at h
  split at h
  · cases h
  obtain rfl := Except.ok.inj h
  rw [TableSchema.names, names_of_columns hcols]
  exact List.map_fst_zip (by omega)

/-- Records that are loaded under a registered descriptor fit it. -/
theorem Registry.fits_of_load {r : Registry} {entity source : String} {v : Workbook}
    {policy : Policy} {records : List Record}
    (h : (r.load entity source v policy).result = .ok records) :
    ∃ d, r.get? entity = some d ∧ ∀ record ∈ records, record.Fits d := by
  unfold Registry.load at h
  split at h
  · cases h
  next d hd =>
  split at h
  · cases h
  next schema hschema =>
  refine ⟨d, hd, fun record hrecord => ?_⟩
  rw [Loader.loadWorkbook, Loader.loadSheets_eq_collect, Policy.collect_eq_ok_iff] at h
  obtain ⟨rfl, -⟩ := h
  obtain ⟨⟨sheet, row⟩, -, hrow⟩ := List.mem_filterMap.mp hrecord
  obtain ⟨hnames, hlength⟩ := Loader.names_of_loadRow (toOption_eq_some_iff.mp hrow)
  exact ⟨hnames.trans (Descriptor.names_of_toSchema hschema), hlength⟩

/-! ## Imports -/

/-- The import wrote the records of its source. -/
def SourceOutcome.WroteRecords (o : SourceOutcome) : Prop :=
  ∃ n, o.status = .compiled n ∨ o.status = .unchanged n

theorem SourceOutcome.WroteRecords.reachesRecords {o : SourceOutcome} (h : o.WroteRecords) :
    o.status.reachesRecords = true := by
  obtain ⟨n, h | h⟩ := h <;> rw [h] <;> rfl

theorem SourceOutcome.not_wroteRecords {o : SourceOutcome} {error : String}
    (h : o.status = .loadFailed error) : ¬o.WroteRecords := by
  rintro ⟨n, h' | h'⟩ <;> cases h.symm.trans h'

namespace Importer

variable {imp imp' : Importer} {path : Path} {s : Source} {t t' : FileTree} {stem other : String}
  {o : SourceOutcome}

/-- Different sources have different files of records. -/
theorem dataPath_not_sameFile (hvalid : imp.config.validate = .ok ())
    (hother : '/' ∉ other.toList) (hstem : '/' ∉ stem.toList) (hne : other ≠ stem) :
    ¬t.SameFile (imp.dataPath (imp.config.containerName other))
      (imp.dataPath (imp.config.containerName stem)) := by
  refine not_sameFile_join (isName_data hvalid hother) (isName_data hvalid hstem) fun heq => hne ?_
  exact (String.append_right_inj _).mp ((String.append_left_inj _).mp heq)

/-- Declarations are not written into a file of records. -/
theorem WritesDeclarations.content?_data {text containerText : String} {files : List Path}
    (h : WritesDeclarations imp s text containerText t t' (.ok files))
    (hvalid : imp.config.validate = .ok ()) (hentity : s.entity = imp.config.entityName other)
    (hcontainer : s.container = imp.config.containerName other) (hother : '/' ∉ other.toList)
    (hstem : '/' ∉ stem.toList) :
    t'.content? (imp.dataPath (imp.config.containerName stem)) =
      t.content? (imp.dataPath (imp.config.containerName stem)) := by
  have hdata := fun t : FileTree => data_not_sameFile (t := t) hvalid hstem hother
  cases h with
  | both directory write containerDirectory containerWrite =>
    rw [hentity] at write
    rw [hcontainer] at containerWrite
    rw [content?_write_other containerWrite fun ⟨l, hc, hd⟩ => (hdata _).2 ⟨l, hd, hc⟩,
      content?_write_other write fun ⟨l, he, hd⟩ => (hdata _).1 ⟨l, hd, he⟩]

theorem Records.entity_eq {v : Workbook} {status : Nat → SourceStatus} {before : List Path}
    (h : Records imp s v status before t t' (.ok o)) : o.entity = some s.entity := by
  cases h <;> rfl

/-- What loading the records of a source does to the file of records of a source. -/
theorem Records.data {v : Workbook} {status : Nat → SourceStatus} {before : List Path}
    (h : Records imp s v status before t t' (.ok o)) (hvalid : imp.config.validate = .ok ())
    (hcontainer : s.container = imp.config.containerName other) (hother : '/' ∉ other.toList)
    (hstem : '/' ∉ stem.toList) :
    let data := imp.dataPath (imp.config.containerName stem)
    (∃ n d records, other = stem ∧ o.status = status n ∧
      imp.registry.get? s.entity = some d ∧
        t'.content? data = some (.text (recordsText records)) ∧ ∀ r ∈ records, r.Fits d) ∨
      (other = stem → ∃ error, o = s.outcome (.loadFailed error) before) ∧
        t'.content? data = t.content? data := by
  intro data
  cases h with
  | @unloaded e load => exact .inr ⟨fun _ => ⟨e.text, rfl⟩, rfl⟩
  | @written _ records load directory write =>
    rw [hcontainer] at write
    by_cases hne : other = stem
    · subst hne
      obtain ⟨d, hd, hfits⟩ := Registry.fits_of_load load
      exact .inl ⟨_, d, records, rfl, rfl, hd, content?_write_self write, hfits⟩
    · exact .inr ⟨fun h => absurd h hne,
        content?_write_other write (dataPath_not_sameFile hvalid hother hstem hne)⟩

/-- Once an entity has a descriptor, plans leave it one. -/
theorem Plans.get?_ne_none {v : Workbook} {registry : Registry} {decision : Decision}
    {entity : String} (h : Plans imp s v registry decision)
    (hne : imp.registry.get? entity ≠ none) : registry.get? entity ≠ none := by
  have hput : ∀ d, (imp.registry.put d).get? entity ≠ none := by
    intro d
    rw [Registry.get?_put]
    split
    · exact Option.some_ne_none d
    · exact hne
  cases h with
  | uncontained => exact hput _
  | declare => exact hput _
  | _ => exact hne

/-- An import without an error has written the records of a source under the registered descriptor,
or it has left the file as it was, and the descriptor as well unless it has written the
declarations. -/
theorem Imports.data (h : Imports imp path t imp' t' (.ok o))
    (hvalid : imp.config.validate = .ok ()) (hstem : '/' ∉ stem.toList) :
    let entity := imp.config.entityName stem
    let data := imp.dataPath (imp.config.containerName stem)
    (∃ d records, o.entity = some entity ∧ o.WroteRecords ∧
      imp'.registry.get? entity = some d ∧
        t'.content? data = some (.text (recordsText records)) ∧ ∀ r ∈ records, r.Fits d) ∨
      (o.entity = some entity → ¬o.WroteRecords) ∧ t'.content? data = t.content? data ∧
        (imp.registry.get? entity ≠ none → imp'.registry.get? entity ≠ none) ∧
        ((o.entity = some entity → ¬o.WroteDeclarations) →
          imp'.registry.get? entity = imp.registry.get? entity) := by
  intro entity data
  have hinj : ∀ {other}, imp.config.entityName other = entity → other = stem :=
    fun heq => (String.append_right_inj _).mp heq
  cases h with
  | ignored => exact .inr ⟨fun h => (nomatch h), rfl, id, fun _ => rfl⟩
  | unreadable source error =>
    exact .inr ⟨fun _ hwrote => Bool.false_ne_true hwrote.reachesRecords, rfl, id, fun _ => rfl⟩
  | stopped source opens plan =>
    obtain rfl := plan.registry_eq hvalid source
    refine .inr ⟨fun _ hwrote => ?_, rfl, id, fun _ => rfl⟩
    exact Bool.false_ne_true (plan.reachesRecords_eq.symm.trans hwrote.reachesRecords)
  | @kept s v registry _ _ source opens plan records =>
    obtain ⟨other, hother, hentity, hcontainer⟩ := exists_stem_of_source? source
    rw [records.entity_eq, hentity]
    cases plan with
    | current =>
      rcases records.data hvalid hcontainer hother hstem with
        ⟨n, d, items, rfl, hstatus, hget, hcontent, hfits⟩ | ⟨hfailed, hcontent⟩
      · rw [hentity] at hget
        exact .inl ⟨d, items, rfl, ⟨n, .inr hstatus⟩, hget, hcontent, hfits⟩
      · refine .inr ⟨fun heq => ?_, hcontent, id, fun _ => rfl⟩
        obtain ⟨error, rfl⟩ := hfailed (hinj (Option.some.inj heq))
        exact SourceOutcome.not_wroteRecords rfl
  | @declared s v registry text containerText files t₁ _ _ source opens plan declarations
    records =>
    obtain ⟨other, hother, hentity, hcontainer⟩ := exists_stem_of_source? source
    have hdeclared := declarations.content?_data hvalid hentity hcontainer hother hstem
    rw [records.entity_eq, hentity]
    rcases records.data hvalid hcontainer hother hstem with
      ⟨n, d, items, rfl, hstatus, hget, hcontent, hfits⟩ | ⟨hfailed, hcontent⟩
    · rw [hentity] at hget
      exact .inl ⟨d, items, rfl, ⟨n, .inl hstatus⟩, hget, hcontent, hfits⟩
    · refine .inr ⟨fun heq => ?_, hcontent.trans hdeclared, plan.get?_ne_none, fun hnot => ?_⟩
      · obtain ⟨error, rfl⟩ := hfailed (hinj (Option.some.inj heq))
        exact SourceOutcome.not_wroteRecords rfl
      · refine plan.get?_eq fun heq => ?_
        have hsame : imp.config.entityName other = entity := hentity.symm.trans heq.symm
        obtain ⟨error, rfl⟩ := hfailed (hinj hsame)
        refine hnot (congrArg some hsame) (.inr ⟨error, rfl, ?_⟩)
        obtain ⟨rfl, -⟩ := declarations.wrote
        exact List.cons_ne_nil _ _

end Importer

/-! ## Sessions -/

namespace World

variable {dirs : List Path} {c : Config} {readers : List WorkbookReader} {w : World}
  {log : List Entry} {entity stem : String}

/-- The last import in a log that wrote the records of an entity, and the imports after it. -/
structure LastWrite (entity : String) (log : List Entry) (entry : Entry) (after : List Entry) :
    Prop where
  split : ∃ before, log = before ++ entry :: after
  own : entry.outcome.entity = some entity
  wrote : entry.outcome.WroteRecords
  last : ∀ later ∈ after, later.outcome.entity = some entity → ¬later.outcome.WroteRecords

theorem LastWrite.self {entry : Entry} (log : List Entry)
    (hentity : entry.outcome.entity = some entity) (hwrote : entry.outcome.WroteRecords) :
    LastWrite entity (log ++ [entry]) entry [] :=
  ⟨⟨log, rfl⟩, hentity, hwrote, by simp⟩

theorem LastWrite.append {entry next : Entry} {after : List Entry}
    (h : LastWrite entity log entry after)
    (hnext : next.outcome.entity = some entity → ¬next.outcome.WroteRecords) :
    LastWrite entity (log ++ [next]) entry (after ++ [next]) where
  split := by
    obtain ⟨before, rfl⟩ := h.split
    exact ⟨before, by simp⟩
  own := h.own
  wrote := h.wrote
  last later hlater := by
    rcases List.mem_append.mp hlater with hlater | hlater
    · exact h.last later hlater
    · exact List.mem_singleton.mp hlater ▸ hnext

/-- The content holds the records that the last import that wrote records of the entity has loaded.
The descriptor that it left is still registered unless declarations were written after it. -/
def HoldsRecords (w : World) (log : List Entry) (entity : String) (content : Content) : Prop :=
  ∃ entry after d records, LastWrite entity log entry after ∧
    entry.registry.get? entity = some d ∧
    content = .text (recordsText records) ∧ (∀ r ∈ records, r.Fits d) ∧
      w.importer.registry.get? entity ≠ none ∧
        ((∀ later ∈ after, later.outcome.entity = some entity →
          ¬later.outcome.WroteDeclarations) →
          w.importer.registry.get? entity = some d)

/-- An import keeps it so, for what it leaves of the records as well as for what it writes. -/
theorem HoldsRecords.imported {path : Path} {o : SourceOutcome}
    (hvalid : w.importer.config.validate = .ok ()) (hstem : '/' ∉ stem.toList)
    (h : ∀ content, w.tree.content? (w.importer.dataPath (w.importer.config.containerName stem)) =
      some content → HoldsRecords w log (w.importer.config.entityName stem) content)
    (houtcome : w.outcome path = .ok o) {content : Content}
    (hcontent : (w.imported path).tree.content?
      (w.importer.dataPath (w.importer.config.containerName stem)) = some content) :
    HoldsRecords (w.imported path) (log ++ [⟨o, (w.imported path).importer.registry⟩])
      (w.importer.config.entityName stem) content := by
  have himports := w.imports path
  rw [houtcome] at himports
  rcases himports.data hvalid hstem with
    ⟨d, records, hentity, hwrote, hget, hwritten, hfits⟩ | ⟨hwrote, hkept, hsome, hget⟩
  · obtain rfl := Option.some.inj (hwritten.symm.trans hcontent)
    exact ⟨_, [], d, records, .self log hentity hwrote, hget, rfl, hfits,
      by simp [hget], fun _ => hget⟩
  · obtain ⟨entry, after, d, records, hlast, hd, rfl, hfits, hregistered, hcurrent⟩ :=
      h content (hkept.symm.trans hcontent)
    refine ⟨entry, _, d, records, hlast.append hwrote, hd, rfl, hfits, hsome hregistered,
      fun hnone => ?_⟩
    obtain ⟨hafter, hlatest⟩ := List.forall_mem_append.mp hnone
    rw [hget (hlatest _ List.mem_cons_self), hcurrent hafter]

/-- Throughout a session that has the directory of the records to itself, a file of records holds
what the last import that wrote it has loaded. -/
theorem Session.holdsRecords (h : Session dirs c readers w log) (hdir : c.dataDir ∈ dirs)
    (hstem : '/' ∉ stem.toList) {content : Content}
    (hcontent : w.tree.content? (w.importer.dataPath (c.containerName stem)) = some content) :
    HoldsRecords w log (c.entityName stem) content := by
  refine (h.induction (P := fun w log => w.importer.IsSound ∧ w.importer.config = c ∧
    ∀ content, w.tree.content? (w.importer.dataPath (c.containerName stem)) = some content →
      HoldsRecords w log (c.entityName stem) content) ?_ ?_ ?_).2.2 content hcontent
  · intro t imp starts _ empty
    obtain ⟨hsound, rfl, -⟩ := starts.eq
    refine ⟨hsound, rfl, fun content hcontent => ?_⟩
    obtain ⟨names, hnames, hmem⟩ :=
      mem_files hsound.dataDir (isName_data hsound.valid hstem) hcontent
    obtain rfl := Except.ok.inj (hnames.symm.trans (empty _ hdir))
    cases hmem
  · rintro w log path o ⟨hsound, rfl, hholds⟩ houtcome
    have hconfig := (w.imports path).preserves.1
    refine ⟨imported_isSound hsound path, hconfig, fun content hcontent => ?_⟩
    rw [dataPath, hconfig] at hcontent
    exact .imported hsound.valid hstem hholds houtcome hcontent
  · rintro w log t ⟨hsound, rfl, hholds⟩ hkeeps
    refine ⟨hsound, rfl, fun content hcontent => hholds content ?_⟩
    exact ((hkeeps _ hdir).content _ (isName_data hsound.valid hstem)).symm.trans hcontent

/-- Throughout a session that has the output directories to itself, a file of records is an array of
objects, each with the fields of the descriptor that the last import that wrote the file left
registered. This is still the registered descriptor of the entity, which the declaration of the
entity gives, unless a later import has written the declarations of the source without its
records. -/
theorem data_of_session (h : Session c.outputDirs c readers w log) (hstem : '/' ∉ stem.toList)
    (hfile : w.tree.isFile (w.importer.dataPath (c.containerName stem)) = true) :
    ∃ entry after d text items, LastWrite (c.entityName stem) log entry after ∧
      entry.registry.get? (c.entityName stem) = some d ∧
      w.tree.read (w.importer.dataPath (c.containerName stem)) = .ok text ∧
      Json.parse? text = some (.array items) ∧
      (∀ item ∈ items, ∃ members, item = .object members ∧ members.map (·.1) = d.names) ∧
      ∃ current declaration, w.importer.registry.get? (c.entityName stem) = some current ∧
        w.tree.read (w.importer.entityPath (c.entityName stem)) = .ok declaration ∧
        Descriptor.extract? declaration = some current ∧
        ((∀ later ∈ after, later.outcome.entity = some (c.entityName stem) →
          ¬later.outcome.WroteDeclarations) → current = d) := by
  obtain ⟨content, hcontent⟩ := isFile_eq_true_iff.mp hfile
  obtain ⟨entry, after, d, records, hlast, hd, rfl, hfits, hregistered, hcurrent⟩ :=
    h.holdsRecords (by simp [Config.outputDirs]) hstem hcontent
  have hmirrors := h.mirrors (by simp [Config.outputDirs])
  obtain ⟨current, hget⟩ := Option.ne_none_iff_exists'.mp hregistered
  obtain ⟨hmem, hentity⟩ := hmirrors.isMap.get?_eq_some_iff.mp hget
  obtain ⟨declaration, hdeclaration, hextract⟩ := hmirrors.text current hmem
  refine ⟨entry, after, d, _, _, hlast, hd, read_eq_ok_iff.mpr hcontent,
    parse?_recordsText records, ?_,
    current, declaration, hget, hentity ▸ read_eq_ok_iff.mpr hdeclaration, hextract,
    fun hnone => ?_⟩
  · intro item hitem
    obtain ⟨record, hrecord, rfl⟩ := List.mem_map.mp hitem
    exact (hfits record hrecord).toJson
  · exact Option.some.inj (hget.symm.trans (hcurrent hnone))

theorem read_numbered :
    (numbered.changed [itemsPath]).tree.read ⟨"data/Scriptable_Items.json"⟩ =
    .ok (recordsText [⟨["id"], [.int 1]⟩]) := by
  decide +kernel

/-- After one import the one record has the fields of the descriptor that is registered. -/
theorem data_numbered :
    let last := numbered.changed [itemsPath]
    Session numbered.importer.config.outputDirs numbered.importer.config [] last
        (numbered.log [itemsPath]) ∧
      last.tree.isFile ⟨"data/Scriptable_Items.json"⟩ = true ∧
      ∃ text item, last.tree.read ⟨"data/Scriptable_Items.json"⟩ = .ok text ∧
        Json.parse? text = some (.array [item]) ∧
        ∃ members d, item = .object members ∧ members.map (·.1) = d.names ∧
          last.importer.registry.get? "Entity_Items" = some d := by
  intro last
  have hfile : last.tree.isFile ⟨"data/Scriptable_Items.json"⟩ = true := by decide +kernel
  have hpath : last.importer.dataPath (numbered.importer.config.containerName "Items") =
      ⟨"data/Scriptable_Items.json"⟩ := by decide +kernel
  have hlength : (numbered.log [itemsPath]).length = 1 := by decide +kernel
  have hstem : '/' ∉ "Items".toList := by decide
  refine ⟨session_numbered, hfile, _, _, read_numbered, parse?_recordsText _, ?_⟩
  rw [← hpath] at hfile
  obtain ⟨entry, after, d, text, items, hlast, -, hread, hparse, hitems, current, -, hcurrent, -,
      -, hsame⟩ :=
    data_of_session session_numbered hstem hfile
  rw [hpath, read_numbered] at hread
  obtain rfl := Except.ok.inj hread
  rw [parse?_recordsText] at hparse
  obtain rfl := Json.array.inj (Option.some.inj hparse)
  obtain ⟨members, hmembers, hnames⟩ := hitems _ List.mem_cons_self
  -- there is but one import, and nothing after it
  obtain rfl : after = [] := by
    obtain ⟨before, hlog⟩ := hlast.split
    rw [hlog, List.length_append, List.length_cons] at hlength
    exact List.eq_nil_of_length_eq_zero (by omega)
  obtain rfl := hsame (by simp)
  exact ⟨members, current, hmembers, hnames, hcurrent⟩

/-- The second import declares the new name of the column, and cannot load the row. The record that
is left has the old name. -/
theorem stale_after_loadFailed :
    let last := renamed.changed [itemsPath]
    Session numbered.importer.config.outputDirs numbered.importer.config [] last
        (numbered.log [itemsPath] ++ renamed.log [itemsPath]) ∧
      ∃ text members d, last.tree.read ⟨"data/Scriptable_Items.json"⟩ = .ok text ∧
        Json.parse? text = some (.array [.object members]) ∧
        last.importer.registry.get? "Entity_Items" = some d ∧ members.map (·.1) ≠ d.names := by
  intro last
  have hread : last.tree.read ⟨"data/Scriptable_Items.json"⟩ =
      .ok (recordsText [⟨["id"], [.int 1]⟩]) := by decide +kernel
  have hget : last.importer.registry.get? "Entity_Items" =
      some ⟨"Entity_Items", ["count"], ["int"]⟩ := by decide +kernel
  exact ⟨session_renamed, _, _, _, hread, parse?_recordsText _, hget, by decide⟩

end World

end TypedSheets
