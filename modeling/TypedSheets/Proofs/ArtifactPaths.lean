import TypedSheets.Proofs.Directory
import TypedSheets.Proofs.Footprint

/-!
# Paths of generated files

Three files are generated for a source, one of each `ArtifactKind`. Files of different kinds or for
different stems have different paths, unless one declares the entity of a stem and the other the
container of another, and the two are named alike (`Importer.artifactName_eq`). That the two
prefixes of a valid configuration differ does not rule this out: it happens for some stems just when
one prefix begins with the other (`Importer.exists_namedAlike_iff`). Where it does not happen,
importing or removing a source leaves the files generated for another as they are.

Main statement: `World.artifacts_separate`.
-/

namespace TypedSheets

open FileTree

/-! ## Kinds of generated files -/

/-- Which of the three files of a source one is. -/
inductive ArtifactKind
  | entity
  | container
  | data
  deriving DecidableEq

/-- The two paths are different, and lead to one location in no tree. -/
def Path.Separate (p q : Path) : Prop :=
  p.same q = false ∧ Apart p q

theorem Path.separate_join {dir dir' : Path} {name name' : String} (hname : IsName name)
    (hname' : IsName name') (hne : name ≠ name') :
    (dir.join name).Separate (dir'.join name') := by
  refine ⟨Bool.eq_false_iff.mpr fun hsame => hne ?_,
    fun t => not_sameFile_join hname hname' hne⟩
  have hcomponents : (dir.join name).components = (dir'.join name').components := by
    simpa [same] using hsame
  have hfile : (dir.join name).fileName? = (dir'.join name').fileName? := by
    rw [fileName?, fileName?, hcomponents]
  rw [fileName?_join hname, fileName?_join hname'] at hfile
  exact Option.some.inj hfile

namespace Importer

variable (imp : Importer)

/-- The directory that files of a kind are in. -/
def artifactDir : ArtifactKind → Path
  | .entity => imp.config.entityDir
  | .container => imp.config.containerDir
  | .data => imp.config.dataDir

/-- The name of the file of a kind for a stem. -/
def artifactName (kind : ArtifactKind) (stem : String) : String :=
  match kind with
  | .entity => imp.generator.fileName (imp.config.entityName stem)
  | .container => imp.generator.fileName (imp.config.containerName stem)
  | .data => dataName (imp.config.containerName stem)

/-- The path of the file of a kind for a stem. -/
def artifact (kind : ArtifactKind) (stem : String) : Path :=
  (imp.artifactDir kind).join (imp.artifactName kind stem)

theorem artifacts_eq (stem : String) :
    imp.artifacts stem =
      [imp.artifact .entity stem, imp.artifact .container stem, imp.artifact .data stem] :=
  rfl

variable {imp} {kind kind' : ArtifactKind} {stem other : String}

theorem mem_artifacts {p : Path} :
    p ∈ imp.artifacts stem ↔ ∃ kind, p = imp.artifact kind stem := by
  rw [artifacts_eq]
  constructor
  · simp only [List.mem_cons, List.not_mem_nil, or_false]
    rintro (rfl | rfl | rfl)
    exacts [⟨_, rfl⟩, ⟨_, rfl⟩, ⟨_, rfl⟩]
  · rintro ⟨kind, rfl⟩
    cases kind <;> simp

/-- A declaration of an entity and one of a container are named alike. -/
def NamedAlike (imp : Importer) (kind : ArtifactKind) (stem : String) (kind' : ArtifactKind)
    (other : String) : Prop :=
  (kind = .entity ∧ kind' = .container ∧
    imp.config.entityName stem = imp.config.containerName other) ∨
    (kind = .container ∧ kind' = .entity ∧
      imp.config.containerName stem = imp.config.entityName other)

theorem isName_artifactName (hvalid : imp.config.validate = .ok ()) (hstem : '/' ∉ stem.toList) :
    IsName (imp.artifactName kind stem) := by
  cases kind with
  | entity => exact isName_entity hvalid hstem
  | container => exact isName_container hvalid hstem
  | data => exact isName_data hvalid hstem

/-- Generated files of one name are of one kind and for one stem, or they declare an entity and a
container that are named alike. -/
theorem artifactName_eq (h : imp.artifactName kind stem = imp.artifactName kind' other) :
    (kind = kind' ∧ stem = other) ∨ imp.NamedAlike kind stem kind' other := by
  have hdeclaration : ∀ {type container : String},
      imp.generator.fileName type ≠ dataName container :=
    imp.generator.fileName_ne_dataName _ _
  cases kind with
  | entity =>
    cases kind' with
    | entity => exact .inl ⟨rfl, (String.append_right_inj _).mp (Generator.fileName_inj h)⟩
    | container => exact .inr (.inl ⟨rfl, rfl, Generator.fileName_inj h⟩)
    | data => exact absurd h hdeclaration
  | container =>
    cases kind' with
    | entity => exact .inr (.inr ⟨rfl, rfl, Generator.fileName_inj h⟩)
    | container => exact .inl ⟨rfl, (String.append_right_inj _).mp (Generator.fileName_inj h)⟩
    | data => exact absurd h hdeclaration
  | data =>
    cases kind' with
    | entity => exact absurd h.symm hdeclaration
    | container => exact absurd h.symm hdeclaration
    | data => exact .inl ⟨rfl, (String.append_right_inj _).mp ((String.append_left_inj _).mp h)⟩

theorem artifact_separate (hvalid : imp.config.validate = .ok ()) (hstem : '/' ∉ stem.toList)
    (hother : '/' ∉ other.toList) (hne : ¬(kind = kind' ∧ stem = other)) :
    (imp.artifact kind stem).Separate (imp.artifact kind' other) ∨
      imp.NamedAlike kind stem kind' other := by
  by_cases hname : imp.artifactName kind stem = imp.artifactName kind' other
  · exact .inr ((artifactName_eq hname).resolve_left hne)
  · exact .inl (Path.separate_join (isName_artifactName hvalid hstem)
      (isName_artifactName hvalid hother) hname)

theorem not_namedAlike_self (hvalid : imp.config.validate = .ok ()) :
    ¬imp.NamedAlike kind stem kind' stem := by
  have hprefixes := (Config.prefixes_of_validate hvalid).2.2
  rintro (⟨-, -, h⟩ | ⟨-, -, h⟩)
  · exact hprefixes ((String.append_left_inj _).mp h)
  · exact hprefixes ((String.append_left_inj _).mp h).symm

/-- An entity and a container are named alike for some stems just when one prefix begins with the
other. -/
theorem exists_namedAlike_iff (hvalid : imp.config.validate = .ok ()) :
    (∃ stem other : String, '/' ∉ stem.toList ∧ '/' ∉ other.toList ∧ stem ≠ other ∧
        ∃ kind kind', imp.NamedAlike kind stem kind' other) ↔
      imp.config.entityPrefix.toList <+: imp.config.containerPrefix.toList ∨
        imp.config.containerPrefix.toList <+: imp.config.entityPrefix.toList := by
  obtain ⟨hentity, hcontainer, hprefixes⟩ := Config.prefixes_of_validate hvalid
  have hbegins : ∀ {stem other : String},
      imp.config.entityName stem = imp.config.containerName other →
      imp.config.entityPrefix.toList <+: imp.config.containerPrefix.toList ∨
        imp.config.containerPrefix.toList <+: imp.config.entityPrefix.toList := by
    intro stem other h
    have hchars : imp.config.entityPrefix.toList ++ stem.toList =
        imp.config.containerPrefix.toList ++ other.toList := by
      simpa [Config.entityName, Config.containerName] using congrArg String.toList h
    exact List.prefix_or_prefix_of_prefix ⟨_, hchars⟩ (List.prefix_append _ _)
  -- what the longer prefix has more goes in front of a stem
  have hslash : ∀ {before : String} {more : List Char}, isIdentifier before = true →
      more ⊆ before.toList → '/' ∉ (String.ofList more ++ "x").toList := by
    intro before more hbefore hmore hmem
    rcases List.mem_append.mp (String.toList_append ▸ hmem) with hmem | hmem
    · exact absurd (isIdentifierChar_of_mem hbefore '/' (hmore (by simpa using hmem))) (by decide)
    · exact absurd hmem (by decide)
  constructor
  · rintro ⟨stem, other, -, -, -, kind, kind', ⟨-, -, h⟩ | ⟨-, -, h⟩⟩
    · exact hbegins h
    · exact hbegins h.symm
  · rintro (⟨more, hmore⟩ | ⟨more, hmore⟩)
    · have hnamed : imp.config.entityName (String.ofList more ++ "x") =
          imp.config.containerName "x" := by
        apply String.toList_injective
        simp [Config.entityName, Config.containerName, ← hmore]
      refine ⟨_, "x", hslash hcontainer (hmore ▸ List.subset_append_right _ _),
        by decide, fun hsame => ?_, _, _, .inl ⟨rfl, rfl, hnamed⟩⟩
      exact hprefixes ((String.append_left_inj _).mp (hsame ▸ hnamed))
    · have hnamed : imp.config.containerName (String.ofList more ++ "x") =
          imp.config.entityName "x" := by
        apply String.toList_injective
        simp [Config.entityName, Config.containerName, ← hmore]
      refine ⟨_, "x", hslash hentity (hmore ▸ List.subset_append_right _ _),
        by decide, fun hsame => ?_, _, _, .inr ⟨rfl, rfl, hnamed⟩⟩
      exact hprefixes ((String.append_left_inj _).mp (hsame ▸ hnamed)).symm

end Importer

/-! ## Imports and removals -/

namespace World

open Importer

variable (w : World)

/-- Removing the artifacts of sources changes nothing but what belongs to them. -/
theorem ChangedFor.removed (paths : List Path) :
    ChangedFor (fun stem => ∃ p ∈ paths, w.importer.sourceStem? p = some stem) w
      (w.removed paths) := by
  let P : FileTree → Prop := fun t => w.tree.SameDirectories t ∧
    ∀ l, (∀ stem, (∃ p ∈ paths, w.importer.sourceStem? p = some stem) →
      ¬w.IsArtifact stem l) →
      t.node? l = w.tree.node? l
  have hkept : P (w.removed paths).tree := by
    refine removeAll_induction w.importer (P := P) ?_ ⟨.refl _, fun _ _ => rfl⟩
    rintro path hpath stem hstem file hfile t t' ⟨hdirectories, hnodes⟩ hremove
    refine ⟨hdirectories.trans (sameDirectories_remove hremove), fun l hl => ?_⟩
    refine (node?_remove hremove fun hresolve => ?_).trans (hnodes l hl)
    exact hl stem ⟨path, hpath, hstem⟩ ⟨file, hfile,
      hdirectories.resolve_eq_ok_iff.mp hresolve⟩
  exact ⟨⟨rfl, rfl, rfl, hkept.1⟩, fun _ _ => rfl, hkept.2⟩

/-- A generated file stays as it is if it is apart from those of all sources that things change
for. -/
theorem ChangedFor.content?_artifact {w' : World} {stems : String → Prop} {kind : ArtifactKind}
    {stem : String} (h : ChangedFor stems w w') (hapart : ∀ other, stems other → ∀ kind',
      Apart (w.importer.artifact kind' other) (w.importer.artifact kind stem)) :
    w'.tree.content? (w.importer.artifact kind stem) =
      w.tree.content? (w.importer.artifact kind stem) := by
  refine content?_eq_of_node?_eq h.directories fun l hl => h.nodes l ?_
  rintro other hother ⟨f, hf, hfl⟩
  obtain ⟨kind', rfl⟩ := mem_artifacts.mp hf
  exact hapart other hother kind' w.tree ⟨l, hfl, hl⟩

/-- The three files of a source are separate, and so are those of sources with different stems, but
for an entity and a container that are named alike. Importing and removing sources leaves all files
of another as they are that are not named like one of theirs. Names can be alike just when one
prefix begins with the other. -/
theorem artifacts_separate (hvalid : w.importer.config.validate = .ok ()) :
    (∀ stem : String, '/' ∉ stem.toList → ∀ kind kind', kind ≠ kind' →
      (w.importer.artifact kind stem).Separate (w.importer.artifact kind' stem)) ∧
    (∀ stem other : String, '/' ∉ stem.toList → '/' ∉ other.toList →
      stem ≠ other → ∀ kind kind',
      (w.importer.artifact kind stem).Separate (w.importer.artifact kind' other) ∨
        w.importer.NamedAlike kind stem kind' other) ∧
    (∀ (stem : String) kind paths, '/' ∉ stem.toList →
      (∀ path ∈ paths, ∀ other, w.importer.sourceStem? path = some other →
        other ≠ stem ∧ ∀ kind', ¬w.importer.NamedAlike kind' other kind stem) →
      (w.changed paths).tree.content? (w.importer.artifact kind stem) =
          w.tree.content? (w.importer.artifact kind stem) ∧
        (w.removed paths).tree.content? (w.importer.artifact kind stem) =
          w.tree.content? (w.importer.artifact kind stem)) ∧
    ((∃ stem other : String, '/' ∉ stem.toList ∧ '/' ∉ other.toList ∧ stem ≠ other ∧
        ∃ kind kind', w.importer.NamedAlike kind stem kind' other) ↔
      w.importer.config.entityPrefix.toList <+: w.importer.config.containerPrefix.toList ∨
        w.importer.config.containerPrefix.toList <+: w.importer.config.entityPrefix.toList) := by
  refine ⟨fun stem hstem kind kind' hne => ?_, fun stem other hstem hother hne kind kind' => ?_,
    fun stem kind paths hstem hpaths => ?_, exists_namedAlike_iff hvalid⟩
  · exact (artifact_separate hvalid hstem hstem fun h => hne h.1).resolve_right
      (not_namedAlike_self hvalid)
  · exact artifact_separate hvalid hstem hother fun h => hne h.2
  · have hapart : ∀ other, (∃ path ∈ paths, w.importer.sourceStem? path = some other) →
        ∀ kind', Apart (w.importer.artifact kind' other) (w.importer.artifact kind stem) := by
      rintro other ⟨path, hpath, hother⟩ kind'
      obtain ⟨hne, halike⟩ := hpaths path hpath other hother
      have hslash := Path.no_slash_of_stem? (stem?_of_sourceStem? hother)
      exact ((artifact_separate hvalid hslash hstem fun h => hne h.2).resolve_right
        (halike kind')).2
    exact ⟨(ChangedFor.changed w paths).content?_artifact w hapart,
      (ChangedFor.removed w paths).content?_artifact w hapart⟩

/-! ## A prefix that begins with the other -/

/-- All files go to one directory, and the prefix of containers goes on from that of entities. -/
def nestedPrefixes : World where
  importer := {
    config := {
      entityDir := ⟨"out"⟩, containerDir := ⟨"out"⟩, dataDir := ⟨"out"⟩
      entityPrefix := "T", containerPrefix := "TX" }
    generator := .builtIn .csharp
    registry := .empty }
  tree := .ofEntries [(["out"], .directory),
    (["Xa.json"],
      .file (.text "\x7b\"sheets\":[\x7b\"name\":\"S\",\"rows\":[[\"id\"],[\"int\"]]\x7d]\x7d"))]

/-- The world once the source has been imported. -/
def nestedImported : World :=
  nestedPrefixes.changed [⟨"Xa.json"⟩]

/-- The file of records stays when another source is removed. -/
theorem artifacts_separate_nested :
    nestedImported.importer.config.validate = .ok () ∧
      (nestedImported.importer.artifact .entity "a").Separate
        (nestedImported.importer.artifact .container "a") ∧
      (nestedImported.importer.artifact .entity "a").Separate
        (nestedImported.importer.artifact .container "b") ∧
      (nestedImported.removed [⟨"a.json"⟩]).tree.isFile
        (nestedImported.importer.artifact .data "Xa") = true ∧
      ∃ stem other, stem ≠ other ∧ ∃ kind kind',
        nestedImported.importer.NamedAlike kind stem kind' other := by
  have hvalid : nestedImported.importer.config.validate = .ok () := by decide +kernel
  have hstem : nestedImported.importer.sourceStem? ⟨"a.json"⟩ = some "a" := by decide +kernel
  obtain ⟨hown, hothers, hkept, halike⟩ := nestedImported.artifacts_separate hvalid
  have hdata : (nestedImported.removed [⟨"a.json"⟩]).tree.content?
      (nestedImported.importer.artifact .data "Xa") =
      nestedImported.tree.content? (nestedImported.importer.artifact .data "Xa") := by
    refine (hkept "Xa" .data _ (by decide) fun path hpath other hother => ?_).2
    obtain rfl := List.mem_singleton.mp hpath
    obtain rfl := Option.some.inj (hstem.symm.trans hother)
    refine ⟨by decide, ?_⟩
    rintro kind' (⟨-, h, -⟩ | ⟨-, h, -⟩) <;> cases h
  have hfile : nestedImported.tree.isFile (nestedImported.importer.artifact .data "Xa") = true := by
    decide +kernel
  refine ⟨hvalid, hown "a" (by decide) _ _ (by decide),
    (hothers "a" "b" (by decide) (by decide) (by decide) _ _).resolve_right ?_, ?_, ?_⟩
  · rintro (⟨-, -, h⟩ | ⟨h, -, -⟩)
    · exact absurd h (by decide +kernel)
    · cases h
  · rw [isFile_eq_true_iff] at hfile ⊢
    rwa [hdata]
  · obtain ⟨stem, other, -, -, hne, kind, kind', h⟩ := halike.mpr (.inl (by decide +kernel))
    exact ⟨stem, other, hne, kind, kind', h⟩

/-- Removing a source deletes the declaration of the entity of another. -/
theorem entity_removed_as_container :
    nestedImported.importer.config.validate = .ok () ∧
      nestedImported.importer.sourceStem? ⟨"a.json"⟩ = some "a" ∧
      nestedImported.importer.artifact .entity "Xa" =
        nestedImported.importer.artifact .container "a" ∧
      nestedImported.tree.isFile (nestedImported.importer.artifact .entity "Xa") = true ∧
      (nestedImported.removed [⟨"a.json"⟩]).tree.isFile
        (nestedImported.importer.artifact .entity "Xa") =
        false := by
  decide +kernel

end World

end TypedSheets
