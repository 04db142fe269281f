import TypedSheets.Proofs.Footprint

/-!
# Sources in any order

Sources are independent (`World.Independent`) if what is generated for one of them neither belongs
to another nor is read for it. Importing independent sources one after the other gives each the
outcome that it has alone (`World.outcome_alone`), and leaves what belongs to it as if it were
imported alone (`World.import_of_mem`). Their order does not matter, but for what the system says
why a source cannot be opened (`World.fault_depends_on_order`).

Main statement: `World.changed_of_perm`.
-/

namespace TypedSheets

open FileTree Importer

namespace World

variable {w w' : World} {p q : Path} {o : SourceOutcome}

/-! ## Independent sources -/

/-- The sources at the two paths have different stems, no file is generated for both, and neither
path leads to a file generated for the other. A path that is not handled is independent of all
others. -/
def Independent (w : World) (p q : Path) : Prop :=
  ∀ a b, w.importer.sourceStem? p = some a → w.importer.sourceStem? q = some b →
    a ≠ b ∧ ∀ l, ¬(w.IsArtifact a l ∧ w.IsArtifact b l) ∧
      (w.tree.resolve p = .ok l → ¬w.IsArtifact b l) ∧
        (w.tree.resolve q = .ok l → ¬w.IsArtifact a l)

theorem Independent.symm (h : w.Independent p q) : w.Independent q p := by
  intro b a hb ha
  obtain ⟨hne, hlocations⟩ := h a b ha hb
  refine ⟨hne.symm, fun l => ?_⟩
  obtain ⟨hboth, hp, hq⟩ := hlocations l
  exact ⟨fun hl => hboth hl.symm, hq, hp⟩

theorem SameSetting.independent_iff (h : w.SameSetting w') :
    w'.Independent p q ↔ w.Independent p q := by
  simp only [Independent, h.sourceStem?_eq, h.isArtifact_iff, h.directories.resolve_eq_ok_iff]

/-- What sources change that are independent of another does not matter for that one. -/
theorem ChangedFor.alikeFor {stems : String → Prop} {paths : List Path}
    (h : ChangedFor stems w w')
    (hstems : ∀ b, stems b → ∃ q ∈ paths, w.importer.sourceStem? q = some b)
    (hindependent : ∀ q ∈ paths, w.Independent p q) : AlikeFor p w w' where
  toSameSetting := h.toSameSetting
  entries a ha := by
    refine h.entries _ fun b hb hname => ?_
    obtain ⟨q, hq, hqb⟩ := hstems b hb
    exact (hindependent q hq a b ha hqb).1 ((String.append_right_inj _).mp hname).symm
  nodes a ha l hl := by
    refine h.nodes l fun b hb hartifact => ?_
    obtain ⟨q, hq, hqb⟩ := hstems b hb
    obtain ⟨-, hlocations⟩ := hindependent q hq a b ha hqb
    rcases hl with hresolve | hown
    · exact (hlocations l).2.1 hresolve hartifact
    · exact (hlocations l).1 ⟨hown, hartifact⟩

/-! ## Importing independent sources -/

/-- In a run that is not stopped, every source is imported between those before it and those after
it. -/
theorem summary_split :
    ∀ {before : List Path} {w : World} {after : List Path} {s : ImportSummary},
    w.summary (before ++ p :: after) = .ok s →
      ∃ o, (w.changed before).outcome p = .ok o ∧ s.sources[before.length]? = some o ∧
        w.changed (before ++ p :: after) = ((w.changed before).imported p).changed after
  | [], w, after, s, hs => by
    obtain ⟨o, others, ho, -, hsources, hchanged⟩ := summary_cons_ok hs
    exact ⟨o, ho, by rw [hsources]; rfl, hchanged⟩
  | q :: before, w, after, s, hs => by
    obtain ⟨first, others, hfirst, hothers, hsources, hchanged⟩ := summary_cons_ok hs
    obtain ⟨o, ho, hsource, hafter⟩ := summary_split hothers
    rw [changed_cons_ok hfirst, hsources]
    exact ⟨o, ho, hsource, hchanged.trans hafter⟩

/-- The path leads on from where a file generated for another of the sources stands, or would
stand. -/
def RunsThroughArtifact (w : World) (paths : List Path) (p : Path) : Prop :=
  ∃ q ∈ paths, q ≠ p ∧ ∃ stem l, w.importer.sourceStem? q = some stem ∧
    w.IsArtifact stem l ∧
    w.tree.RunsThrough p l

/-- Imports of independent sources do not change what is read at a path, unless it runs through
their artifacts. -/
theorem readContent_changed {paths : List Path} (hindependent : ∀ q ∈ paths, w.Independent p q)
    (hthrough : ¬w.RunsThroughArtifact paths p) (hhandled : (w.importer.sourceStem? p).isSome) :
    (w.changed paths).tree.readContent p = w.tree.readContent p := by
  have hchanged := ChangedFor.changed w paths
  obtain ⟨stem, hstem⟩ := Option.isSome_iff_exists.mp hhandled
  have halike : AlikeFor p w (w.changed paths) := hchanged.alikeFor (fun _ hb => hb) hindependent
  refine hchanged.directories.readContent_eq (fun l hl => ?_) fun l hl =>
    halike.nodes stem hstem l (.inl hl)
  refine hchanged.nodes l fun b ⟨q, hq, hqb⟩ hartifact =>
    hthrough ⟨q, hq, ?_, b, l, hqb, hartifact, hl⟩
  rintro rfl
  exact (hindependent q hq stem stem hstem hstem).1 rfl

/-- A source imported among independent ones has the outcome that it has alone, and what it depends
on and changes is in the end as if it were imported alone. -/
theorem import_among {before after : List Path} {s : ImportSummary}
    (hindependent : (before ++ p :: after).Pairwise w.Independent)
    (hs : w.summary (before ++ p :: after) = .ok s) :
    ∃ o o', w.outcome p = .ok o ∧ s.sources[before.length]? = some o' ∧
      o.SameButFault p o' ∧
      (¬w.RunsThroughArtifact before p → o' = o) ∧
      AlikeFor p (w.imported p) (w.changed (before ++ p :: after)) := by
  obtain ⟨-, hafter, hbefore⟩ := List.pairwise_append.mp hindependent
  have hbefore : ∀ q ∈ before, w.Independent p q :=
    fun q hq => (hbefore q hq p List.mem_cons_self).symm
  have hafter : ∀ q ∈ after, w.Independent p q := (List.pairwise_cons.mp hafter).1
  obtain ⟨o', ho', hsource, hchanged⟩ := summary_split hs
  have halike : AlikeFor p w (w.changed before) :=
    (ChangedFor.changed w before).alikeFor (fun _ hb => hb) hbefore
  obtain ⟨himported, o, ho, hsame, hread⟩ := halike.symm.imported ho'
  refine ⟨o, o', ho, hsource, hsame.symm, fun hthrough => (hread fun hhandled => ?_).symm, ?_⟩
  · rw [halike.sourceStem?_eq] at hhandled
    exact (readContent_changed hbefore hthrough hhandled).symm
  · have hsetting : w.SameSetting ((w.changed before).imported p) :=
      halike.toSameSetting.trans (.imported _ p)
    rw [hchanged]
    refine himported.symm.trans ((ChangedFor.changed _ after).alikeFor (fun _ hb => hb) ?_)
    exact fun q hq => hsetting.independent_iff.mpr (hafter q hq)

theorem import_of_mem {paths : List Path} {s : ImportSummary}
    (hindependent : paths.Pairwise w.Independent) (hs : w.summary paths = .ok s)
    (hp : p ∈ paths) :
    (∃ o, w.outcome p = .ok o) ∧ AlikeFor p (w.imported p) (w.changed paths) := by
  obtain ⟨before, after, rfl⟩ := List.append_of_mem hp
  obtain ⟨o, -, ho, -, -, -, halike⟩ := import_among hindependent hs
  exact ⟨⟨o, ho⟩, halike⟩

/-- If no import of independent sources alone stops, importing them all does not. -/
theorem exists_summary : ∀ {paths : List Path} {w : World}, paths.Pairwise w.Independent →
    (∀ p ∈ paths, ∃ o, w.outcome p = .ok o) → ∃ s, w.summary paths = .ok s
  | [], w, _, _ => ⟨_, rfl⟩
  | p :: rest, w, hindependent, houtcomes => by
    obtain ⟨hp, hrest⟩ := List.pairwise_cons.mp hindependent
    obtain ⟨o, ho⟩ := houtcomes p List.mem_cons_self
    have hothers : ∃ s, (w.imported p).summary rest = .ok s := by
      refine exists_summary ?_ fun q hq => ?_
      · exact hrest.imp fun h => (SameSetting.imported w p).independent_iff.mpr h
      · obtain ⟨oq, hoq⟩ := houtcomes q (List.mem_cons_of_mem p hq)
        have hsingle : ∀ r ∈ [p], w.Independent q r :=
          List.forall_mem_singleton.mpr (hp q hq).symm
        have halike : AlikeFor q w (w.imported p) :=
          (ChangedFor.imported w p).alikeFor (fun _ hb => ⟨p, List.mem_cons_self, hb⟩) hsingle
        obtain ⟨-, o', ho', -⟩ := halike.imported hoq
        exact ⟨o', ho'⟩
    obtain ⟨s, hs⟩ := hothers
    rcases w.changed_cons p rest with ⟨e, he, -, -⟩ | ⟨_, -, -, hsummary⟩
    · cases ho.symm.trans he
    · rw [hsummary, hs]
      exact ⟨_, rfl⟩

/-- In what order independent sources are imported does not matter for what is registered and for
the files in the end. -/
theorem changed_alike {paths others : List Path} {s s' : ImportSummary} (hperm : others.Perm paths)
    (hindependent : paths.Pairwise w.Independent) (hs : w.summary paths = .ok s)
    (hs' : w.summary others = .ok s') :
    (∀ entity, (w.changed others).importer.registry.entriesOf entity =
        (w.changed paths).importer.registry.entriesOf entity) ∧
      ∀ l, (w.changed others).tree.node? l = (w.changed paths).tree.node? l := by
  have hindependent' : others.Pairwise w.Independent :=
    hindependent.perm hperm.symm Independent.symm
  have halike : ∀ p ∈ paths, AlikeFor p (w.changed paths) (w.changed others) := fun p hp =>
    (import_of_mem hindependent hs hp).2.symm.trans
      (import_of_mem hindependent' hs' (hperm.mem_iff.mpr hp)).2
  have hchanged := ChangedFor.changed w paths
  have hchanged' := (ChangedFor.changed w others).mono fun stem ⟨q, hq, hstem⟩ =>
    (⟨q, hperm.mem_iff.mp hq, hstem⟩ : ∃ p ∈ paths, w.importer.sourceStem? p = some stem)
  constructor
  · intro entity
    by_cases hown : ∃ stem, (∃ p ∈ paths, w.importer.sourceStem? p = some stem) ∧
        w.importer.config.entityName stem = entity
    · obtain ⟨stem, ⟨p, hp, hstem⟩, rfl⟩ := hown
      have hentries := (halike p hp).entries stem ((hchanged.sourceStem?_eq p).trans hstem)
      rwa [hchanged.config] at hentries
    · have hnot := fun stem hstem hname => hown ⟨stem, hstem, hname⟩
      rw [hchanged.entries entity hnot, hchanged'.entries entity hnot]
  · intro l
    by_cases hown : ∃ stem, (∃ p ∈ paths, w.importer.sourceStem? p = some stem) ∧
      w.IsArtifact stem l
    · obtain ⟨stem, ⟨p, hp, hstem⟩, hartifact⟩ := hown
      exact (halike p hp).nodes stem ((hchanged.sourceStem?_eq p).trans hstem) l
        (.inr (hchanged.isArtifact_iff.mpr hartifact))
    · have hnot := fun stem hstem hartifact => hown ⟨stem, hstem, hartifact⟩
      rw [hchanged.nodes l hnot, hchanged'.nodes l hnot]

theorem RunsThroughArtifact.mono {paths others : List Path} (h : w.RunsThroughArtifact paths p)
    (hpaths : paths ⊆ others) : w.RunsThroughArtifact others p := by
  obtain ⟨q, hq, hrest⟩ := h
  exact ⟨q, hpaths hq, hrest⟩

/-- In a run that is not stopped, independent sources have the outcomes that each of them has
alone. -/
theorem outcome_alone {paths : List Path} {s : ImportSummary} {i : Nat}
    (hindependent : paths.Pairwise w.Independent) (hs : w.summary paths = .ok s)
    (hp : paths[i]? = some p) :
    ∃ o o' : SourceOutcome, w.outcome p = .ok o ∧ s.sources[i]? = some o' ∧
      o.SameButFault p o' ∧ (¬w.RunsThroughArtifact paths p → o' = o) := by
  obtain ⟨hi, rfl⟩ := List.getElem?_eq_some_iff.mp hp
  have hsplit : paths = paths.take i ++ paths[i] :: paths.drop (i + 1) := by simp
  rw [hsplit] at hindependent hs
  obtain ⟨o, o', ho, hsource, hbut, hsame, -⟩ := import_among hindependent hs
  rw [List.length_take_of_le hi.le] at hsource
  refine ⟨o, o', ho, hsource, hbut, fun hthrough => hsame fun h => hthrough ?_⟩
  exact h.mono (List.take_subset i paths)

/-- If importing independent sources is not stopped, neither is importing them in any other order.
Every source then has the same outcome, and in the end the same is registered and the same stands in
every place. Only what the system says why a source cannot be opened, if its path runs through an
artifact of another as if this were a directory, depends on whether the artifact is there yet. -/
theorem changed_of_perm {paths others : List Path} {s : ImportSummary} (hperm : others.Perm paths)
    (hindependent : paths.Pairwise w.Independent) (hs : w.summary paths = .ok s) :
    ∃ s', w.summary others = .ok s' ∧
      (∀ (i j : Nat) (p : Path), paths[i]? = some p → others[j]? = some p →
        ∃ o o' : SourceOutcome, s.sources[i]? = some o ∧ s'.sources[j]? = some o' ∧
          o.SameButFault p o' ∧ (¬w.RunsThroughArtifact paths p → o' = o)) ∧
      (w.changed others).importer.registry.SameMap (w.changed paths).importer.registry ∧
      ∀ l, (w.changed others).tree.node? l = (w.changed paths).tree.node? l := by
  have hindependent' : others.Pairwise w.Independent :=
    hindependent.perm hperm.symm Independent.symm
  obtain ⟨s', hs'⟩ := exists_summary hindependent' fun p hp =>
    (import_of_mem hindependent hs (hperm.mem_iff.mp hp)).1
  obtain ⟨hentries, hnodes⟩ := changed_alike hperm hindependent hs hs'
  refine ⟨s', hs', fun i j p hi hj => ?_, Registry.sameMap_of_entriesOf hentries, hnodes⟩
  obtain ⟨alone, o, halone, ho, hbut, hsame⟩ := outcome_alone hindependent hs hi
  obtain ⟨alone', o', halone', ho', hbut', hsame'⟩ := outcome_alone hindependent' hs' hj
  obtain rfl := Except.ok.inj (halone.symm.trans halone')
  refine ⟨o, o', ho, ho', hbut.symm.trans hbut', fun hthrough => ?_⟩
  rw [hsame hthrough, hsame' fun h => hthrough (h.mono hperm.subset)]

/-! ## Two sources -/

/-- Two sources are independent if no path of one leads where a path of the other does. -/
theorem Independent.of_apart {a b : String} (hp : w.importer.sourceStem? p = some a)
    (hq : w.importer.sourceStem? q = some b) (hne : a ≠ b)
    (happart : ∀ f ∈ w.importer.artifacts a, w.tree.resolve f ≠ w.tree.resolve q ∧
      ∀ g ∈ w.importer.artifacts b,
        w.tree.resolve f ≠ w.tree.resolve g ∧ w.tree.resolve g ≠ w.tree.resolve p) :
    w.Independent p q := by
  intro a' b' ha hb
  obtain rfl := Option.some.inj (hp.symm.trans ha)
  obtain rfl := Option.some.inj (hq.symm.trans hb)
  refine ⟨hne, fun l => ⟨?_, ?_, ?_⟩⟩
  · rintro ⟨⟨f, hf, hfl⟩, g, hg, hgl⟩
    exact ((happart f hf).2 g hg).1 (hfl.trans hgl.symm)
  · rintro hl ⟨g, hg, hgl⟩
    exact ((happart _ List.mem_cons_self).2 g hg).2 (hgl.trans hl.symm)
  · rintro hl ⟨f, hf, hfl⟩
    exact (happart f hf).1 (hfl.trans hl.symm)

/-- The path of a second source. -/
def kindsPath : Path := ⟨"Kinds.json"⟩

/-- The source with one column, and one with an enumeration of which a record cannot be loaded. -/
def twoSources : World :=
  { itemsWorld with tree := itemsTree.place kindsPath (.text (
    "\x7b\"sheets\":[\x7b\"name\":\"K\",\"rows\":[[\"kind\"],[\"enum|red,green\"]," ++
      "[\"blue\"]]\x7d]\x7d")) }

/-- The outcome of the second source: its declarations are written, but no records. -/
def kindsUnloaded : SourceOutcome :=
  ⟨kindsPath, some "Entity_Kinds",
    .loadFailed ("[FATAL] TBLC_LOAD_ENUM_DOMAIN: Kinds.json/K (row 3, column 1) field 'kind': " ++
      "'blue' is not one of [red, green]"),
    [⟨"entity/Entity_Kinds.cs"⟩, ⟨"container/Scriptable_Kinds.cs"⟩]⟩

theorem independent_items_kinds : twoSources.Independent itemsPath kindsPath := by
  have hitems : twoSources.importer.sourceStem? itemsPath = some "Items" := by decide +kernel
  have hkinds : twoSources.importer.sourceStem? kindsPath = some "Kinds" := by decide +kernel
  have happart : ∀ f ∈ twoSources.importer.artifacts "Items",
      twoSources.tree.resolve f ≠ twoSources.tree.resolve kindsPath ∧
        ∀ g ∈ twoSources.importer.artifacts "Kinds",
          twoSources.tree.resolve f ≠ twoSources.tree.resolve g ∧
            twoSources.tree.resolve g ≠ twoSources.tree.resolve itemsPath := by decide +kernel
  exact .of_apart hitems hkinds (by decide) happart

/-- The two sources in both orders. -/
theorem changed_twoSources :
    twoSources.summary [itemsPath, kindsPath] = .ok ⟨[itemsCompiled, kindsUnloaded]⟩ ∧
      ∃ s', twoSources.summary [kindsPath, itemsPath] = .ok s' ∧
        s'.sources[0]? = some kindsUnloaded ∧ s'.sources[1]? = some itemsCompiled ∧
        (twoSources.changed [kindsPath, itemsPath]).importer.registry.SameMap
          (twoSources.changed [itemsPath, kindsPath]).importer.registry ∧
        ∀ l, (twoSources.changed [kindsPath, itemsPath]).tree.node? l =
          (twoSources.changed [itemsPath, kindsPath]).tree.node? l := by
  have hs : twoSources.summary [itemsPath, kindsPath] =
      .ok ⟨[itemsCompiled, kindsUnloaded]⟩ := by
    decide +kernel
  obtain ⟨s', hs', hsources, hregistry, hnodes⟩ :=
    changed_of_perm (.swap itemsPath kindsPath [])
      (List.pairwise_pair.mpr independent_items_kinds) hs
  obtain ⟨_, _, hkinds, hkinds', -, hsame⟩ := hsources 1 0 kindsPath rfl rfl
  obtain ⟨_, _, hitems, hitems', -, hsame'⟩ := hsources 0 1 itemsPath rfl rfl
  obtain rfl := Option.some.inj hkinds
  obtain rfl := Option.some.inj hitems
  have hthrough : ∀ p : Path, p.pieces.length = 1 →
      ¬twoSources.RunsThroughArtifact [itemsPath, kindsPath] p := by
    rintro p hp ⟨q, -, -, stem, l, -, -, hl⟩
    exact not_runsThrough hp hl
  rw [hsame (hthrough kindsPath (by decide))] at hkinds'
  rw [hsame' (hthrough itemsPath (by decide))] at hitems'
  exact ⟨hs, s', hs', hkinds', hitems', hregistry, hnodes⟩

/-- A path that leads on from where the entity declaration of the source would stand. -/
def belowPath : Path := ⟨"entity/Entity_Items.cs/Kinds.json"⟩

/-- The outcome of a source on the path that cannot be opened. -/
def belowUnreadable (fault : FileFault) : SourceOutcome :=
  ⟨belowPath, some "Entity_Kinds",
    .unreadable (WorkbookError.unreadable belowPath fault).message, []⟩

theorem independent_items_below : itemsWorld.Independent itemsPath belowPath := by
  have hitems : itemsWorld.importer.sourceStem? itemsPath = some "Items" := by decide +kernel
  have hbelow : itemsWorld.importer.sourceStem? belowPath = some "Kinds" := by decide +kernel
  have happart : ∀ f ∈ itemsWorld.importer.artifacts "Items",
      itemsWorld.tree.resolve f ≠ itemsWorld.tree.resolve belowPath ∧
        ∀ g ∈ itemsWorld.importer.artifacts "Kinds",
          itemsWorld.tree.resolve f ≠ itemsWorld.tree.resolve g ∧
            itemsWorld.tree.resolve g ≠ itemsWorld.tree.resolve itemsPath := by decide +kernel
  exact .of_apart hitems hbelow (by decide) happart

/-- Two independent sources, of which the second has not the same status in both orders: that its
path leads nowhere has another reason once the declaration of the first stands on the way. -/
theorem fault_depends_on_order :
    itemsWorld.Independent itemsPath belowPath ∧
      itemsWorld.summary [itemsPath, belowPath] =
        .ok ⟨[itemsCompiled, belowUnreadable .notDirectory]⟩ ∧
      itemsWorld.summary [belowPath, itemsPath] =
        .ok ⟨[belowUnreadable .notFound, itemsCompiled]⟩ ∧
      (belowUnreadable .notDirectory).status ≠ (belowUnreadable .notFound).status :=
  ⟨independent_items_below, by decide +kernel, by decide +kernel, by decide +kernel⟩

end World

end TypedSheets
