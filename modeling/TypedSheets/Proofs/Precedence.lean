import TypedSheets.Proofs.ByteOrder
import TypedSheets.Proofs.Directory
import TypedSheets.Proofs.RegistryMap
import TypedSheets.Proofs.Results
import TypedSheets.Proofs.Standing

/-!
# Which of several declarations counts

Files in the entity directory are read in the order of their paths (`Path.Le`) when a registry is
rebuilt, and of the descriptors of one entity the one read last stays
(`Registry.get?_foldl_put_filterMap`). What the registry held before does not matter, nor does the
order in which the directory lists its files (`World.reloaded_registry_eq`).

Main statement: `World.last_declaration_counts`.
-/

namespace TypedSheets

open FileTree Importer

/-! ## The order of paths -/

namespace Path

/-- What a component is compared by. The root comes first, then `.`, then `..`, then the names by
their bytes. -/
def componentKey (component : String) : List UInt8 :=
  (if component = "/" then 0 else if component = "." then 1 else if component =
    ".." then 2 else 3) ::
    Text.bytes component

/-- The order of paths: that of the first components in which they differ. -/
def Le (p q : Path) : Prop :=
  p.components.map componentKey ≤ q.components.map componentKey

theorem componentKey_le_iff {name name' : String} (hname : IsName name) (hname' : IsName name') :
    componentKey name ≤ componentKey name' ↔ name ≤ name' := by
  have hkey : ∀ {n : String}, IsName n → componentKey n = 3 :: Text.bytes n := fun {n} h => by
    have hslash : n ≠ "/" := by
      rintro rfl
      exact h.no_slash (by decide)
    rw [componentKey, if_neg hslash, if_neg h.ne_here, if_neg h.ne_up]
  rw [hkey hname, hkey hname', List.cons_le_cons_iff, Text.le_iff_bytes_le]
  simp

/-- In a directory, paths are in the order of their names. -/
theorem join_le_join_iff {dir : Path} {name name' : String} (hname : IsName name)
    (hname' : IsName name') : (dir.join name).Le (dir.join name') ↔ name ≤ name' := by
  have hfront : ∀ (front : List (List UInt8)) (a b : List UInt8),
      front ++ [a] ≤ front ++ [b] ↔ a ≤ b := by
    intro front a b
    induction front with
    | nil =>
      rw [List.nil_append, List.nil_append, List.cons_le_cons_iff]
      simp [List.le_iff_lt_or_eq]
    | cons c front ih => simp [List.cons_le_cons_iff, ih]
  rw [Le, components_join hname, components_join hname', List.map_append, List.map_append,
    List.map_singleton, List.map_singleton, hfront, componentKey_le_iff hname hname']

end Path

/-- The descriptor in a file, if the file is a text and there is one in it. -/
def FileTree.declared? (t : FileTree) (p : Path) : Option Descriptor :=
  (t.read p).toOption.bind Descriptor.extract?

theorem FileTree.declared?_eq_of_content?_eq {t t' : FileTree} {p : Path}
    (h : t'.content? p = t.content? p) : t'.declared? p = t.declared? p := by
  have hread : (t'.read p).toOption = (t.read p).toOption := by
    refine Option.ext fun text => ?_
    rw [toOption_eq_some_iff, toOption_eq_some_iff, read_eq_ok_iff, read_eq_ok_iff, h]
  rw [declared?, declared?, hread]

/-! ## Names in ascending order -/

theorem sortNames_pairwise (names : List String) : (sortNames names).Pairwise (· ≤ ·) :=
  (List.pairwise_mergeSort (Text.notBefore_trans id) (Text.notBefore_total id) names).imp
    Text.notBefore_iff.mp

theorem sortNames_eq_of_perm {names names' : List String} (h : names'.Perm names) :
    sortNames names' = sortNames names := by
  have hperm : (sortNames names').Perm (sortNames names) :=
    (List.mergeSort_perm _ _).trans (h.trans (List.mergeSort_perm _ _).symm)
  exact hperm.eq_of_pairwise (fun _ _ _ _ => String.le_antisymm) (sortNames_pairwise _)
    (sortNames_pairwise _)

/-- Of names in ascending order, the last one for which something holds is the greatest one. -/
theorem find?_reverse_eq_some_iff {p : String → Bool} {names : List String} {name : String}
    (h : names.Pairwise (· ≤ ·)) : names.reverse.find? p = some name ↔
      name ∈ names ∧ p name = true ∧ ∀ other ∈ names, p other = true →
        other ≤ name := by
  have hgreatest : ∀ {last : String}, names.reverse.find? p = some last →
      ∀ other ∈ names, p other = true → other ≤ last := by
    intro last hfind other hother hp
    obtain ⟨-, greater, rest, hsplit, hnone⟩ := List.find?_eq_some_iff_append.mp hfind
    have hdescending := List.pairwise_reverse.mpr h
    rw [hsplit] at hdescending
    rw [← List.mem_reverse, hsplit] at hother
    rcases List.mem_append.mp hother with hgreater | hother
    · have hfails := hnone other hgreater
      simp [hp] at hfails
    rcases List.mem_cons.mp hother with rfl | hrest
    · exact String.le_refl other
    · exact (List.pairwise_cons.mp (List.pairwise_append.mp hdescending).2.1).1 other hrest
  constructor
  · exact fun hfind =>
      ⟨List.mem_reverse.mp (List.mem_of_find?_eq_some hfind), List.find?_some hfind,
      hgreatest hfind⟩
  · rintro ⟨hname, hp, hall⟩
    obtain ⟨last, hlast⟩ := Option.isSome_iff_exists.mp
      (List.find?_isSome.mpr ⟨name, List.mem_reverse.mpr hname, hp⟩)
    have hle :=
      hall last (List.mem_reverse.mp (List.mem_of_find?_eq_some hlast)) (List.find?_some hlast)
    rw [hlast, String.le_antisymm hle (hgreatest hlast name hname hp)]

namespace Registry

/-- Of descriptors of one entity that are put into a registry, the last one stays. -/
theorem get?_foldl_put (entity : String) : ∀ (ds : List Descriptor) (r : Registry),
    (ds.foldl put r).get? entity = (ds.reverse.find? (·.entity == entity)).or (r.get? entity)
  | [], r => rfl
  | d :: ds, r => by
    rw [List.foldl_cons, get?_foldl_put entity ds, get?_put, List.reverse_cons, List.find?_append,
      Option.or_assoc]
    congr 1
    by_cases h : d.entity = entity
    · simp [h]
    · simp [h, Ne.symm h]

/-- Of the descriptors of one entity that names give in ascending order, that of the greatest name
stays. -/
theorem get?_foldl_put_filterMap {f : String → Option Descriptor} {names : List String}
    {entity : String} {d : Descriptor} (h : names.Pairwise (· ≤ ·)) :
    ((names.filterMap f).foldl put empty).get? entity = some d ↔
      ∃ name ∈ names, f name = some d ∧ d.entity = entity ∧
        ∀ other ∈ names, ∀ e, f other = some e → e.entity = entity → other ≤ name := by
  have hempty : empty.get? entity = none := rfl
  rw [get?_foldl_put, hempty, Option.or_none, ← List.filterMap_reverse, List.find?_filterMap,
    Option.bind_eq_some_iff]
  have hdeclares : ∀ name, (f name).any (·.entity == entity) = true ↔
      ∃ e, f name = some e ∧ e.entity = entity := by
    simp [Option.any_eq_true]
  simp only [find?_reverse_eq_some_iff h, hdeclares]
  constructor
  · rintro ⟨name, ⟨hname, ⟨e, he, hentity⟩, hall⟩, hd⟩
    obtain rfl := Option.some.inj (he.symm.trans hd)
    exact ⟨name, hname, hd, hentity,
      fun other hother e he hsame => hall other hother ⟨e, he, hsame⟩⟩
  · rintro ⟨name, hname, hd, hentity, hall⟩
    refine ⟨name, ⟨hname, ⟨d, hd, hentity⟩, fun other hother hother' => ?_⟩, hd⟩
    obtain ⟨e, he, hsame⟩ := hother'
    exact hall other hother e he hsame

theorem contains_foldl_put {ds : List Descriptor} {entity : String} :
    (ds.foldl put empty).contains entity = true ↔ ∃ d ∈ ds, d.entity = entity := by
  have hempty : empty.get? entity = none := rfl
  rw [contains, get?_foldl_put, hempty, Option.or_none, List.find?_isSome]
  simp

theorem isMap_foldl_put :
    ∀ {ds : List Descriptor} {r : Registry}, r.IsMap → (ds.foldl put r).IsMap
  | [], _, h => h
  | d :: ds, r, h => @isMap_foldl_put ds (r.put d) (h.put d)

end Registry

/-! ## Rebuilding a registry -/

namespace World

variable {w w' : World} {names : List String}

/-- The path of a file in the entity directory. -/
def Lists (w : World) (p : Path) : Prop :=
  ∃ names, w.tree.files w.importer.config.entityDir = .ok names ∧
    ∃ name ∈ names, p = w.importer.config.entityDir.join name

/-- What is reported of the registry being rebuilt. -/
def rebuilt (w : World) : Except ImportError Nat :=
  ((w.importer.reload : StateM FileTree _) w.tree).1.result

theorem reloaded_registry_of_files (h : w.tree.files w.importer.config.entityDir = .ok names) :
    w.reloaded.importer.registry = ((sortNames names).filterMap fun name =>
      w.tree.declared? (w.importer.config.entityDir.join name)).foldl Registry.put .empty := by
  rw [reloaded, reload_run, texts_of_files h]
  simp only [Registry.addTexts_eq, List.filterMap_filterMap]
  rfl

theorem reloaded_registry_of_error {fault : FileFault}
    (h : w.tree.files w.importer.config.entityDir = .error fault) :
    w.reloaded.importer.registry = .empty := by
  have htexts : w.tree.texts w.importer.config.entityDir = .error fault := by rw [texts, h]; rfl
  rw [reloaded, reload_run, htexts]

theorem lists_iff (h : w.tree.files w.importer.config.entityDir = .ok names) {p : Path} :
    w.Lists p ↔ ∃ name ∈ sortNames names, p = w.importer.config.entityDir.join name := by
  simp [Lists, h, sortNames]

theorem not_lists {fault : FileFault} (h : w.tree.files w.importer.config.entityDir = .error fault)
    {p : Path} : ¬w.Lists p := by
  rintro ⟨names, hok, -⟩
  cases h.symm.trans hok

theorem rebuilt_of_files (h : w.tree.files w.importer.config.entityDir = .ok names) :
    w.rebuilt = .ok (names.filterMap fun name =>
      w.tree.declared? (w.importer.config.entityDir.join name)).length := by
  rw [rebuilt, reload_run, texts_of_files h]
  simp only [Registry.addTexts_eq, List.filterMap_filterMap]
  rw [← ((List.mergeSort_perm names _).filterMap _).length_eq]
  rfl

theorem isMap_reloaded (w : World) : w.reloaded.importer.registry.IsMap := by
  have hempty : Registry.empty.IsMap := List.nodup_nil
  cases hfiles : w.tree.files w.importer.config.entityDir with
  | error fault => rwa [reloaded_registry_of_error hfiles]
  | ok names =>
    rw [reloaded_registry_of_files hfiles]
    exact Registry.isMap_foldl_put hempty

theorem contains_reloaded_iff {entity : String} :
    w.reloaded.importer.registry.contains entity = true ↔
    ∃ p d, w.Lists p ∧ w.tree.declared? p = some d ∧ d.entity = entity := by
  cases hfiles : w.tree.files w.importer.config.entityDir with
  | error fault =>
    simp [reloaded_registry_of_error hfiles, not_lists hfiles, Registry.contains, Registry.get?,
      Registry.empty]
  | ok names =>
    rw [reloaded_registry_of_files hfiles, Registry.contains_foldl_put]
    simp only [lists_iff hfiles, List.mem_filterMap]
    constructor
    · rintro ⟨d, ⟨name, hname, hd⟩, hentity⟩
      exact ⟨_, d, ⟨name, hname, rfl⟩, hd, hentity⟩
    · rintro ⟨_, d, ⟨name, hname, rfl⟩, hd, hentity⟩
      exact ⟨d, ⟨name, hname, hd⟩, hentity⟩

theorem get?_reloaded_eq_some_iff {entity : String} {d : Descriptor} :
    w.reloaded.importer.registry.get? entity = some d ↔
      ∃ p, w.Lists p ∧ w.tree.declared? p = some d ∧ d.entity = entity ∧
        ∀ q e, w.Lists q → w.tree.declared? q = some e → e.entity = entity → q.Le p := by
  cases hfiles : w.tree.files w.importer.config.entityDir with
  | error fault =>
    simp [reloaded_registry_of_error hfiles, not_lists hfiles, Registry.get?, Registry.empty]
  | ok names =>
    have hname : ∀ name ∈ sortNames names, IsName name := fun name h =>
      isName_of_files hfiles name ((List.mergeSort_perm _ _).mem_iff.mp h)
    rw [reloaded_registry_of_files hfiles,
      Registry.get?_foldl_put_filterMap (sortNames_pairwise names)]
    simp only [lists_iff hfiles]
    constructor
    · rintro ⟨name, hmem, hd, hentity, hall⟩
      refine ⟨_, ⟨name, hmem, rfl⟩, hd, hentity, ?_⟩
      rintro _ e ⟨other, hother, rfl⟩ he hsame
      exact (Path.join_le_join_iff (hname other hother) (hname name hmem)).mpr
        (hall other hother e he hsame)
    · rintro ⟨_, ⟨name, hmem, rfl⟩, hd, hentity, hall⟩
      refine ⟨name, hmem, hd, hentity, fun other hother e he hsame => ?_⟩
      exact (Path.join_le_join_iff (hname other hother) (hname name hmem)).mp
        (hall _ e ⟨other, hother, rfl⟩ he hsame)

/-- A registry that is rebuilt is the same whatever it held before and however the directory is
listed. -/
theorem reloaded_registry_eq (hdir : w'.importer.config.entityDir = w.importer.config.entityDir)
    (hkeeps : KeepsDirectory w.importer.config.entityDir w.tree w'.tree) :
    w'.reloaded.importer.registry = w.reloaded.importer.registry := by
  obtain ⟨names, names', hfiles, hfiles', hperm⟩ := hkeeps.files
  rw [reloaded_registry_of_files hfiles, reloaded_registry_of_files (hdir ▸ hfiles'), hdir,
    sortNames_eq_of_perm hperm]
  congr 1
  refine List.filterMap_congr fun name hname => ?_
  have hname' := isName_of_files hfiles name ((List.mergeSort_perm _ _).mem_iff.mp hname)
  have hcontent := hkeeps.content name hname'
  exact declared?_eq_of_content?_eq hcontent

/-- A registry that is rebuilt has descriptors of just the entities that some text in the entity
directory declares, and the descriptor of each comes from the greatest path that declares it. The
registry is the same whatever it held before, and in whatever order the directory lists its
files. -/
theorem last_declaration_counts (w : World) :
    w.reloaded.importer.registry.IsMap ∧
      (∀ entity, w.reloaded.importer.registry.contains entity = true ↔
        ∃ p d, w.Lists p ∧ w.tree.declared? p = some d ∧ d.entity = entity) ∧
      (∀ entity d, w.reloaded.importer.registry.get? entity = some d ↔
        ∃ p, w.Lists p ∧ w.tree.declared? p = some d ∧ d.entity = entity ∧
          ∀ q e, w.Lists q → w.tree.declared? q = some e → e.entity = entity → q.Le p) ∧
      (∀ names, w.tree.files w.importer.config.entityDir = .ok names → names.Nodup ∧
        w.rebuilt = .ok (names.filterMap fun name =>
          w.tree.declared? (w.importer.config.entityDir.join name)).length) ∧
      ∀ w' : World, w'.importer.config.entityDir = w.importer.config.entityDir →
        KeepsDirectory w.importer.config.entityDir w.tree w'.tree →
          w'.reloaded.importer.registry = w.reloaded.importer.registry :=
  ⟨w.isMap_reloaded, fun _ => contains_reloaded_iff, fun _ _ => get?_reloaded_eq_some_iff,
    fun _ h => ⟨nodup_of_files h, rebuilt_of_files h⟩,
    fun _ hdir hkeeps => reloaded_registry_eq hdir hkeeps⟩

/-! ## A stale copy -/

/-- A text that declares an entity with one field. -/
def declarationOf (entity field : String) : String :=
  "tablec:entity " ++ entity ++ "\ntablec:fieldnames \"" ++ field ++
    "\"\ntablec:fieldtypes \"int\"\n"

/-- Two files declare one entity, one holds no text and one declares nothing. -/
def copied : World where
  importer := { itemsWorld.importer with registry := ⟨[⟨"Dropped", [], []⟩]⟩ }
  tree := .ofEntries [(["entity"], .directory),
    (["entity", "Items.old"], .file (.text (declarationOf "Items" "before"))),
    (["entity", "Notes"], .file (.text "none")),
    (["entity", "Zip"], .file (.bytes [0xff])),
    (["entity", "Items.cs"], .file (.text (declarationOf "Items" "now")))]

/-- The files in the directory in the order in which it lists them, and what they declare. -/
theorem files_copied : copied.tree.files copied.importer.config.entityDir =
    .ok ["Items.old", "Notes", "Zip", "Items.cs"] := by decide +kernel

theorem declared?_copied : (["Items.old", "Notes", "Zip", "Items.cs"].map fun name =>
    copied.tree.declared? (copied.importer.config.entityDir.join name)) =
      [some ⟨"Items", ["before"], ["int"]⟩, none, none,
        some ⟨"Items", ["now"], ["int"]⟩] := by
  decide +kernel

/-- The stale copy counts, as `Items.old` is the greater path. -/
theorem last_declaration_counts_copied :
    copied.reloaded.importer.registry.get? "Items" = some ⟨"Items", ["before"], ["int"]⟩ ∧
      copied.reloaded.importer.registry.contains "Dropped" = false ∧ copied.rebuilt = .ok 2 := by
  obtain ⟨-, hcontains, hget, hrebuilt, -⟩ := last_declaration_counts copied
  have hdeclared := declared?_copied
  simp only [List.map_cons, List.map_nil, List.cons.injEq, and_true] at hdeclared
  obtain ⟨hold, hnotes, hzip, hnow⟩ := hdeclared
  have hitems : ∀ q e, copied.Lists q → copied.tree.declared? q = some e →
      e.entity = "Items" ∧
      ∃ name ∈ ["Items.old", "Items.cs"], q = copied.importer.config.entityDir.join name := by
    rintro _ e ⟨names, h, name, hname, rfl⟩ he
    obtain rfl := Except.ok.inj (files_copied.symm.trans h)
    simp only [List.mem_cons, List.not_mem_nil, or_false] at hname
    rcases hname with rfl | rfl | rfl | rfl
    · obtain rfl := Option.some.inj (hold.symm.trans he)
      exact ⟨rfl, _, by simp, rfl⟩
    · cases hnotes.symm.trans he
    · cases hzip.symm.trans he
    · obtain rfl := Option.some.inj (hnow.symm.trans he)
      exact ⟨rfl, _, by simp, rfl⟩
  refine ⟨(hget _ _).mpr ⟨_, ⟨_, files_copied, "Items.old", by simp, rfl⟩, hold, rfl, ?_⟩,
    ?_, ?_⟩
  · intro q e hq he _
    obtain ⟨-, name, hname, rfl⟩ := hitems q e hq he
    have hle : ∀ name ∈ ["Items.old", "Items.cs"],
        IsName name ∧ name ≤ "Items.old" := by decide
    exact (Path.join_le_join_iff (hle name hname).1 (by decide)).mpr (hle name hname).2
  · refine Bool.eq_false_iff.mpr fun h => ?_
    obtain ⟨p, d, hp, hd, hentity⟩ := (hcontains "Dropped").mp h
    rw [(hitems p d hp hd).1] at hentity
    exact absurd hentity (by decide)
  · rw [(hrebuilt _ files_copied).2]
    simp [hold, hnotes, hzip, hnow]

end World

end TypedSheets
