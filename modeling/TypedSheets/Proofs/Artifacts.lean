import TypedSheets.Importer.Removal
import TypedSheets.Proofs.Configuration
import TypedSheets.Proofs.Declaration

/-!
# Names of generated files

The files generated for a source are named after a prefix and the stem of the source. Prefixes are
identifiers and a stem has no slash, so that each of these names is one component of a path
(`isName_append`). Names for different declarations differ (`Generator.fileName_inj`), and no
declaration is named like a file of records (`Generator.fileName_ne_dataName`).
-/

namespace TypedSheets

open Text FileTree

/-! ## Stems -/

theorem Path.mem_splitName {name : String} {c : Char} (h : c ∈ (splitName name).1.toList) :
    c ∈ name.toList := by
  unfold splitName at h
  dsimp only at h
  split at h
  · next dot d stem hsplit =>
    have hsuffix : (dot :: d :: stem) <:+ name.toList.reverse := hsplit ▸ List.dropWhile_suffix _
    have hc : c ∈ dot :: d :: stem := List.mem_cons_of_mem dot (by simpa [or_comm] using h)
    simpa using hsuffix.subset hc
  · exact h

theorem Path.no_slash_of_stem? {p : Path} {stem : String} (h : p.stem? = some stem) :
    '/' ∉ stem.toList := by
  obtain ⟨name, hname, rfl⟩ := Option.map_eq_some_iff.mp h
  exact fun hslash => no_slash_of_fileName? hname (mem_splitName hslash)

theorem Importer.stem?_of_sourceStem? {imp : Importer} {path : Path} {stem : String}
    (h : imp.sourceStem? path = some stem) : path.stem? = some stem := by
  unfold sourceStem? at h
  split at h
  · exact (Option.filter_eq_some_iff.mp h).1
  · cases h

/-- The entity and the container of a source are named after its stem. -/
theorem Importer.source?_names {imp : Importer} {path : Path} {s : Source} {stem : String}
    (h : imp.source? path = some s) (hpath : imp.sourceStem? path = some stem) :
    s.entity = imp.config.entityName stem ∧ s.container = imp.config.containerName stem := by
  simp only [source?, hpath, Option.bind_eq_bind, Option.bind_some, Option.bind_eq_some_iff] at h
  obtain ⟨ext, -, reader, -, hs⟩ := h
  obtain rfl := Option.some.inj hs
  exact ⟨rfl, rfl⟩

theorem Importer.exists_sourceStem {imp : Importer} {path : Path} {s : Source}
    (h : imp.source? path = some s) :
    ∃ stem : String, imp.sourceStem? path = some stem ∧
      s.entity = imp.config.entityName stem ∧
      s.container = imp.config.containerName stem := by
  obtain ⟨stem, hstem, -⟩ := Option.bind_eq_some_iff.mp h
  exact ⟨stem, hstem, source?_names h hstem⟩

/-- The entity and the container of a source are named after one stem, which has no slash. -/
theorem Importer.exists_stem_of_source? {imp : Importer} {path : Path} {s : Source}
    (h : imp.source? path = some s) :
    ∃ stem : String, '/' ∉ stem.toList ∧ s.entity = imp.config.entityName stem ∧
      s.container = imp.config.containerName stem := by
  obtain ⟨stem, hstem, hnames⟩ := exists_sourceStem h
  exact ⟨stem, Path.no_slash_of_stem? (stem?_of_sourceStem? hstem), hnames⟩

/-! ## Names -/

/-- What begins with an identifier and has no slash is a component of a path. -/
theorem isName_append {before after : String} (hbefore : isIdentifier before = true)
    (hafter : '/' ∉ after.toList) : IsName (before ++ after) := by
  have hchars := isIdentifierChar_of_mem hbefore
  have hnil : before.toList ≠ [] := fun h =>
    ne_empty_of_isIdentifier hbefore (String.toList_eq_nil_iff.mp h)
  obtain ⟨c, rest, hc⟩ := List.exists_cons_of_ne_nil hnil
  have hhead : isIdentifierChar c = true := hchars c (hc ▸ List.mem_cons_self)
  have hne : ∀ name : String, name.toList.head? ≠ some c → before ++ after ≠ name := by
    rintro name hname rfl
    exact hname (by simp [hc])
  have hdot : c ≠ '.' := by
    rintro rfl
    exact absurd hhead (by decide)
  refine ⟨fun hslash => ?_, hne "" (by simp), hne "." ?_, hne ".." ?_⟩
  · rw [String.toList_append] at hslash
    rcases List.mem_append.mp hslash with hslash | hslash
    · exact absurd (hchars _ hslash) (by decide)
    · exact hafter hslash
  · simpa using Ne.symm hdot
  · simpa using Ne.symm hdot

theorem isIdentifier_append {before after : String} (hbefore : isIdentifier before = true)
    (hafter : ∀ c ∈ after.toList, isIdentifierChar c = true) :
    isIdentifier (before ++ after) = true := by
  unfold isIdentifier at hbefore ⊢
  split at hbefore
  · cases hbefore
  · next c rest hc =>
    obtain ⟨hstart, hrest⟩ := Bool.and_eq_true_iff.mp hbefore
    have hchars : (before ++ after).toList = c :: (rest ++ after.toList) := by simp [hc]
    rw [hchars]
    simp only [Bool.and_eq_true, List.all_eq_true, List.mem_append]
    refine ⟨hstart, fun d hd => hd.elim (List.all_eq_true.mp hrest d) (hafter d)⟩

theorem isName_fileName (g : Generator) {before stem : String}
    (hbefore : isIdentifier before = true) (hstem : '/' ∉ stem.toList) :
    IsName (g.fileName (before ++ stem)) := by
  have hextension : '/' ∉ g.language.extension.toList := by cases g.language <;> decide
  rw [Generator.fileName, String.append_assoc, String.append_assoc]
  exact isName_append hbefore (by simp [hstem, hextension])

theorem isName_dataName {before stem : String} (hbefore : isIdentifier before = true)
    (hstem : '/' ∉ stem.toList) : IsName (Importer.dataName (before ++ stem)) := by
  rw [Importer.dataName, String.append_assoc]
  exact isName_append hbefore (by simp [hstem])

theorem Generator.fileName_inj {g : Generator} {type type' : String}
    (h : g.fileName type = g.fileName type') : type = type' := by
  unfold fileName at h
  rwa [String.append_left_inj, String.append_left_inj] at h

theorem Generator.fileName_ne_dataName (g : Generator) (type container : String) :
    g.fileName type ≠ Importer.dataName container := by
  intro h
  have hlast := congrArg (·.toList.getLast?) h
  simp only [fileName, Importer.dataName, String.toList_append] at hlast
  cases hlanguage : g.language <;> simp [hlanguage, Language.extension] at hlast

/-! ## Importers -/

namespace Importer

variable {imp : Importer} {stem other : String} {t : FileTree}

section

variable (h : imp.config.validate = .ok ())

include h

theorem isName_entity (hstem : '/' ∉ stem.toList) :
    IsName (imp.generator.fileName (imp.config.entityName stem)) :=
  isName_fileName _ (Config.prefixes_of_validate h).1 hstem

theorem isName_container (hstem : '/' ∉ stem.toList) :
    IsName (imp.generator.fileName (imp.config.containerName stem)) :=
  isName_fileName _ (Config.prefixes_of_validate h).2.1 hstem

theorem isName_data (hstem : '/' ∉ stem.toList) :
    IsName (dataName (imp.config.containerName stem)) :=
  isName_dataName (Config.prefixes_of_validate h).2.1 hstem

/-- The entities of different sources are declared in different files. -/
theorem entity_not_sameFile (hother : '/' ∉ other.toList) (hstem : '/' ∉ stem.toList)
    (hne : other ≠ stem) : ¬t.SameFile (imp.entityPath (imp.config.entityName other))
      (imp.entityPath (imp.config.entityName stem)) := by
  refine not_sameFile_join (isName_entity h hother) (isName_entity h hstem) ?_
  intro hname
  exact hne ((String.append_right_inj _).mp (Generator.fileName_inj hname))

/-- The entity and the container of a source are declared in different files. -/
theorem container_not_sameFile (hstem : '/' ∉ stem.toList) :
    ¬t.SameFile (imp.containerPath (imp.config.containerName stem))
      (imp.entityPath (imp.config.entityName stem)) := by
  refine not_sameFile_join (isName_container h hstem) (isName_entity h hstem) ?_
  intro hname
  exact (Config.prefixes_of_validate h).2.2
    ((String.append_left_inj _).mp (Generator.fileName_inj hname)).symm

/-- No declaration is in a file of records. -/
theorem data_not_sameFile (hother : '/' ∉ other.toList) (hstem : '/' ∉ stem.toList) :
    ¬t.SameFile (imp.dataPath (imp.config.containerName other))
        (imp.entityPath (imp.config.entityName stem)) ∧
      ¬t.SameFile (imp.dataPath (imp.config.containerName other))
        (imp.containerPath (imp.config.containerName stem)) := by
  constructor
  · exact not_sameFile_join (isName_data h hother) (isName_entity h hstem)
      (imp.generator.fileName_ne_dataName _ _).symm
  · exact not_sameFile_join (isName_data h hother) (isName_container h hstem)
      (imp.generator.fileName_ne_dataName _ _).symm

/-- The container of a source can be declared if its entity can. -/
theorem isIdentifier_containerName (hentity : isIdentifier (imp.config.entityName stem) = true) :
    isIdentifier (imp.config.containerName stem) = true := by
  obtain ⟨-, hcontainer, -⟩ := Config.prefixes_of_validate h
  refine isIdentifier_append hcontainer fun c hc => isIdentifierChar_of_mem hentity c ?_
  simp [Config.entityName, hc]

end

/-- The importer has a valid configuration with output directories and uses the built-in
templates. -/
structure IsSound (imp : Importer) : Prop where
  valid : imp.config.validate = .ok ()
  builtIn : imp.generator = .builtIn imp.config.language
  entityDir : imp.config.entityDir.text ≠ ""
  containerDir : imp.config.containerDir.text ≠ ""
  dataDir : imp.config.dataDir.text ≠ ""

theorem IsSound.withRegistry (h : imp.IsSound) (registry : Registry) :
    IsSound { imp with registry } :=
  ⟨h.valid, h.builtIn, h.entityDir, h.containerDir, h.dataDir⟩

end Importer

end TypedSheets
