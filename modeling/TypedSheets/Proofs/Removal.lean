import TypedSheets.Proofs.ArtifactPaths
import TypedSheets.Proofs.Reimport

/-!
# Removing generated files

A removal that ends without an error goes through the files generated for its sources, and takes
away those that are there (`FileTree.Removes`). What it reports are these files, each of them once,
and everything else stays (`FileTree.Deletes`). A file that is nowhere when its turn comes is
nowhere afterwards, so there is nothing left for a second removal (`FileTree.Removes.lookup_eq`).
An import brings nothing about that the removal of its sources does not take away again.

Main statement: `World.removal_exact`.
-/

namespace TypedSheets

open FileTree Importer

namespace FileTree

variable {t t' t'' : FileTree} {p : Path} {paths others removed removed' : List Path}
  {l : FileLocation}

/-- Removing the files at some paths, in order, leads from one tree to the other. There were files
at the paths `removed`, and the other ones led to nothing. -/
inductive Removes : List Path → FileTree → List Path → FileTree → Prop
  | nil (t : FileTree) : Removes [] t [] t
  | gone {p : Path} {paths removed : List Path} {t t' t'' : FileTree} (remove : t.remove p = .ok t')
      (rest : Removes paths t' removed t'') : Removes (p :: paths) t (p :: removed) t''
  | missing {p : Path} {paths removed : List Path} {t t' : FileTree}
      (lookup : t.lookup p = .error .notFound) (rest : Removes paths t removed t') :
      Removes (p :: paths) t removed t'

/-- The paths lead to different files of the first tree, and the second one is without these. -/
structure Deletes (t : FileTree) (removed : List Path) (t' : FileTree) : Prop where
  distinct : removed.Pairwise fun p q => ¬t.SameFile p q
  gone : ∀ p ∈ removed, ∃ l c, t.resolve p = .ok l ∧ t.node? l = some (.file c) ∧
    t'.node? l = none
  kept : ∀ l, (∀ p ∈ removed, t.resolve p ≠ .ok l) → t'.node? l = t.node? l

theorem remove_eq_notFound_iff :
    t.remove p = .error .notFound ↔ t.lookup p = .error .notFound := by
  unfold remove
  cases t.lookup p with
  | error e => simp
  | ok found =>
    obtain ⟨l, n⟩ := found
    cases n <;> simp

theorem lookup_eq_notFound_iff : t.lookup p = .error .notFound ↔
    t.resolve p = .error .notFound ∨ ∃ l, t.resolve p = .ok l ∧ t.node? l = none := by
  unfold lookup
  cases t.resolve p with
  | error e => simp
  | ok l => cases hnode : t.node? l <;> simp [hnode]

namespace Deletes

/-- There was a file where one of the paths leads, and there is nothing any more. -/
theorem node?_of_mem (h : Deletes t removed t') (hp : p ∈ removed) (hl : t.resolve p = .ok l) :
    (∃ c, t.node? l = some (.file c)) ∧ t'.node? l = none := by
  obtain ⟨k, c, hk, hfile, hnone⟩ := h.gone p hp
  obtain rfl := Except.ok.inj (hl.symm.trans hk)
  exact ⟨⟨c, hfile⟩, hnone⟩

theorem sameDirectories (h : Deletes t removed t') : t.SameDirectories t' := by
  intro l
  by_cases hl : ∃ p ∈ removed, t.resolve p = .ok l
  · obtain ⟨p, hp, hresolve⟩ := hl
    obtain ⟨⟨c, hfile⟩, hnone⟩ := h.node?_of_mem hp hresolve
    simp [hfile, hnone]
  · rw [h.kept l fun p hp hresolve => hl ⟨p, hp, hresolve⟩]

theorem node?_eq_none (h : Deletes t removed t') (hl : t.node? l = none) : t'.node? l = none := by
  refine (h.kept l fun p hp hresolve => ?_).trans hl
  obtain ⟨⟨c, hfile⟩, -⟩ := h.node?_of_mem hp hresolve
  cases hl.symm.trans hfile

/-- The paths are those of the files that were there and are not there any more. -/
theorem exists_mem_iff (h : Deletes t removed t') : (∃ p ∈ removed, t.resolve p = .ok l) ↔
    (∃ c, t.node? l = some (.file c)) ∧ t'.node? l = none := by
  constructor
  · rintro ⟨p, hp, hresolve⟩
    exact h.node?_of_mem hp hresolve
  · rintro ⟨⟨c, hfile⟩, hnone⟩
    by_contra hnot
    have hkept := h.kept l fun p hp hresolve => hnot ⟨p, hp, hresolve⟩
    cases hnone.symm.trans (hkept.trans hfile)

theorem refl (t : FileTree) : Deletes t [] t where
  distinct := .nil
  gone := by simp
  kept _ _ := rfl

theorem of_remove (h : t.remove p = .ok t') : Deletes t [p] t' := by
  refine ⟨List.pairwise_singleton _ _, fun q hq => ?_, fun l hl => ?_⟩
  · obtain ⟨l, c, hresolve, hnode, rfl⟩ := remove_eq_ok_iff.mp h
    obtain rfl := List.mem_singleton.mp hq
    have hgiven : l.isGiven = false := isGiven_of_ne (t := t) (by simp [hnode])
    exact ⟨l, c, hresolve, hnode, by rw [node?_erase t hgiven, if_pos rfl]⟩
  · exact node?_remove h (hl p (List.mem_singleton_self p))

theorem append (h : Deletes t removed t') (h' : Deletes t' removed' t'') :
    Deletes t (removed ++ removed') t'' := by
  -- what is removed later was there at first, and not removed before
  have hlater : ∀ q ∈ removed', ∃ l c, t.resolve q = .ok l ∧ t.node? l = some (.file c) ∧
      t''.node? l = none ∧ ∀ p ∈ removed, t.resolve p ≠ .ok l := by
    intro q hq
    obtain ⟨l, c, hresolve, hfile, hnone⟩ := h'.gone q hq
    have hnew : ∀ p ∈ removed, t.resolve p ≠ .ok l := fun p hp hp' => by
      cases (h.node?_of_mem hp hp').2.symm.trans hfile
    exact ⟨l, c, h.sameDirectories.resolve_eq_ok_iff.mp hresolve,
      (h.kept l hnew).symm.trans hfile, hnone, hnew⟩
  refine ⟨List.pairwise_append.mpr ⟨h.distinct, ?_, fun p hp q hq hsame => ?_⟩,
    fun p hp => ?_, fun l hl => ?_⟩
  · exact h'.distinct.imp fun hne hsame => hne (h.sameDirectories.sameFile_iff.mpr hsame)
  · obtain ⟨l, -, hresolve, -, -, hnew⟩ := hlater q hq
    obtain ⟨k, hp', hq'⟩ := hsame
    obtain rfl := Except.ok.inj (hresolve.symm.trans hq')
    exact hnew p hp hp'
  · rcases List.mem_append.mp hp with hp | hp
    · obtain ⟨l, c, hresolve, hfile, hnone⟩ := h.gone p hp
      exact ⟨l, c, hresolve, hfile, h'.node?_eq_none hnone⟩
    · obtain ⟨l, c, hresolve, hfile, hnone, -⟩ := hlater p hp
      exact ⟨l, c, hresolve, hfile, hnone⟩
  · obtain ⟨hfirst, hrest⟩ := List.forall_mem_append.mp hl
    rw [h'.kept l fun q hq hresolve => hrest q hq (h.sameDirectories.resolve_eq_ok_iff.mp hresolve),
      h.kept l hfirst]

theorem walk_eq_notFound (h : Deletes t removed t') : ∀ {pieces : List String} {l : FileLocation},
    t.walk l pieces = .error .notFound → t'.walk l pieces = .error .notFound
  | [], l, hwalk => by cases hwalk
  | name :: rest, l, hwalk => by
    unfold walk at hwalk ⊢
    cases hnode : t.node? l with
    | none => rw [h.node?_eq_none hnode]
    | some n =>
      cases n with
      | file c => simp [hnode] at hwalk
      | directory =>
        rw [(h.sameDirectories l).mpr hnode]
        simp only [hnode] at hwalk
        cases hstep : l.step name with
        | error e => simpa only [hstep] using hwalk
        | ok next =>
          simp only [hstep] at hwalk ⊢
          exact h.walk_eq_notFound hwalk

/-- What was nowhere to be found stays so when files are deleted. -/
theorem lookup_eq_notFound (h : Deletes t removed t') (hp : t.lookup p = .error .notFound) :
    t'.lookup p = .error .notFound := by
  rw [lookup_eq_notFound_iff] at hp ⊢
  rcases hp with hresolve | ⟨l, hresolve, hnode⟩
  · left
    unfold resolve at hresolve ⊢
    split at hresolve
    · next hempty => rw [if_pos hempty]
    split at hresolve
    · cases hresolve
    next hempty hbad =>
    rw [if_neg hempty, if_neg hbad]
    exact h.walk_eq_notFound hresolve
  · exact .inr ⟨l, h.sameDirectories.resolve_eq hresolve, h.node?_eq_none hnode⟩

end Deletes

namespace Removes

theorem append_iff :
    Removes (paths ++ others) t removed t'' ↔ ∃ first rest t', removed = first ++ rest ∧
    Removes paths t first t' ∧ Removes others t' rest t'' := by
  constructor
  · intro h
    induction paths generalizing t removed with
    | nil => exact ⟨[], removed, t, rfl, .nil t, h⟩
    | cons p paths ih =>
      cases h with
      | gone remove later =>
        obtain ⟨first, rest, t', rfl, hpaths, hothers⟩ := ih later
        exact ⟨p :: first, rest, t', rfl, .gone remove hpaths, hothers⟩
      | missing lookup later =>
        obtain ⟨first, rest, t', rfl, hpaths, hothers⟩ := ih later
        exact ⟨first, rest, t', rfl, .missing lookup hpaths, hothers⟩
  · rintro ⟨first, rest, t', rfl, hpaths, hothers⟩
    induction hpaths with
    | nil t => exact hothers
    | gone remove _ ih => exact .gone remove (ih hothers)
    | missing lookup _ ih => exact .missing lookup (ih hothers)

theorem deletes (h : Removes paths t removed t') : Deletes t removed t' := by
  induction h with
  | nil t => exact .refl t
  | gone remove rest ih => exact (Deletes.of_remove remove).append ih
  | missing lookup rest ih => exact ih

/-- The files that were to be removed are nowhere to be found. -/
theorem lookup_eq (h : Removes paths t removed t') (hp : p ∈ paths) :
    t'.lookup p = .error .notFound := by
  induction h with
  | nil t => cases hp
  | gone remove rest ih =>
    rcases List.mem_cons.mp hp with rfl | hp
    · have hremoved := Deletes.of_remove remove
      obtain ⟨l, -, hresolve, -, hnone⟩ := hremoved.gone p (List.mem_singleton_self p)
      refine rest.deletes.lookup_eq_notFound (lookup_eq_notFound_iff.mpr (.inr ⟨l, ?_, hnone⟩))
      exact hremoved.sameDirectories.resolve_eq hresolve
    · exact ih hp
  | missing lookup rest ih =>
    rcases List.mem_cons.mp hp with rfl | hp
    · exact rest.deletes.lookup_eq_notFound lookup
    · exact ih hp

theorem subset (h : Removes paths t removed t') : removed ⊆ paths := by
  induction h with
  | nil t => exact List.Subset.refl []
  | gone remove rest ih => exact List.cons_subset_cons _ ih
  | missing lookup rest ih => exact List.subset_cons_of_subset _ ih

theorem of_missing : ∀ {paths : List Path}, (∀ p ∈ paths, t.lookup p = .error .notFound) →
    Removes paths t [] t
  | [], _ => .nil t
  | _ :: _, h =>
    .missing (h _ List.mem_cons_self) (of_missing fun p hp => h p (List.mem_cons_of_mem _ hp))

/-- Files can be removed wherever a path leads to a place and no directory stands there. -/
theorem exists_removes : ∀ {paths : List Path} {t : FileTree},
    (∀ p ∈ paths, ∃ l, t.resolve p = .ok l ∧ t.node? l ≠ some .directory) →
      ∃ removed t', Removes paths t removed t'
  | [], t, _ => ⟨[], t, .nil t⟩
  | p :: paths, t, h => by
    obtain ⟨⟨l, hl, hdirectory⟩, hrest⟩ := List.forall_mem_cons.mp h
    cases hnode : t.node? l with
    | none =>
      obtain ⟨removed, t', hremoves⟩ := exists_removes hrest
      exact ⟨removed, t',
        .missing (lookup_eq_notFound_iff.mpr (.inr ⟨l, hl, hnode⟩)) hremoves⟩
    | some n =>
      cases n with
      | directory => exact absurd hnode hdirectory
      | file c =>
        have hremove : t.remove p = .ok (t.erase l) :=
          remove_eq_ok_iff.mpr ⟨l, c, hl, hnode, rfl⟩
        have hsame := sameDirectories_remove hremove
        have hleft : ∀ q ∈ paths, ∃ k, (t.erase l).resolve q = .ok k ∧
            (t.erase l).node? k ≠ some .directory := by
          intro q hq
          obtain ⟨k, hk, hdirectory'⟩ := hrest q hq
          exact ⟨k, hsame.resolve_eq hk, fun hd => hdirectory' ((hsame k).mp hd)⟩
        obtain ⟨removed, t', hremoves⟩ := exists_removes hleft
        exact ⟨p :: removed, t', .gone hremove hremoves⟩

end Removes

end FileTree

namespace Importer

variable {imp : Importer} {t t' : FileTree} {files paths removed : List Path}

theorem removeFiles_eq_ok_iff : (removeFiles files : StateM FileTree _) t = (.ok removed, t') ↔
    Removes files t removed t' := by
  constructor
  · intro h
    induction files generalizing t removed with
    | nil =>
      cases h
      exact .nil _
    | cons file rest ih =>
      rw [removeFiles, run_bind] at h
      cases hremove : t.remove file with
      | ok next =>
        rw [FileStore.remove_of_ok hremove] at h
        obtain ⟨hresult, rfl⟩ := Prod.mk.inj h
        obtain ⟨others, hothers, rfl⟩ := map_eq_ok_iff.mp hresult
        exact .gone hremove (ih (Prod.ext hothers rfl))
      | error fault =>
        rw [FileStore.remove_of_error hremove] at h
        cases fault with
        | notFound => exact .missing (remove_eq_notFound_iff.mp hremove) (ih h)
        | _ => cases h
  · intro h
    induction h with
    | nil => rfl
    | gone remove rest ih =>
      rw [removeFiles, run_bind, FileStore.remove_of_ok remove]
      simp only [run_bind, ih]
      rfl
    | missing lookup rest ih =>
      rw [removeFiles, run_bind, FileStore.remove_of_error (remove_eq_notFound_iff.mpr lookup)]
      exact ih

/-- The files generated for those of some paths that are sources. -/
def allArtifacts (imp : Importer) (paths : List Path) : List Path :=
  paths.flatMap fun path => (imp.sourceStem? path).elim [] imp.artifacts

theorem mem_allArtifacts {p : Path} : p ∈ imp.allArtifacts paths ↔ ∃ path ∈ paths, ∃ stem,
    imp.sourceStem? path = some stem ∧ ∃ kind, p = imp.artifact kind stem := by
  rw [allArtifacts, List.mem_flatMap]
  refine exists_congr fun path => and_congr_right fun _ => ?_
  cases imp.sourceStem? path with
  | none => simp
  | some stem => simp [mem_artifacts]

theorem removeAll_cons_of_none {path : Path} (hstem : imp.sourceStem? path = none) :
    (imp.removeAll (path :: paths) : StateM FileTree _) t =
      (imp.removeAll paths : StateM FileTree _) t := by
  simp only [removeAll, hstem]

theorem removeAll_cons_of_ok {path : Path} {stem : String} {first : List Path} {next : FileTree}
    (hstem : imp.sourceStem? path = some stem)
    (hfirst : (removeFiles (imp.artifacts stem) : StateM FileTree _) t = (.ok first, next)) :
    (imp.removeAll (path :: paths) : StateM FileTree _) t =
      let run := (imp.removeAll paths : StateM FileTree _) next
      ((imp.removedEvent stem first.length :: run.1.1, run.1.2.map (first ++ ·)), run.2) := by
  simp only [removeAll, hstem, run_bind, hfirst]
  rfl

theorem removeAll_cons_of_error {path : Path} {stem : String} {e : ImportError} {next : FileTree}
    (hstem : imp.sourceStem? path = some stem)
    (hfirst : (removeFiles (imp.artifacts stem) : StateM FileTree _) t = (.error e, next)) :
    (imp.removeAll (path :: paths) : StateM FileTree _) t = (([], .error e), next) := by
  simp only [removeAll, hstem, run_bind, hfirst]
  rfl

/-- A removal that ends without an error removes the files of all its sources, in order. -/
theorem removeAll_eq_ok_iff : (∃ events, (imp.removeAll paths : StateM FileTree _) t =
    ((events, .ok removed), t')) ↔ Removes (imp.allArtifacts paths) t removed t' := by
  induction paths generalizing t removed with
  | nil =>
    constructor
    · rintro ⟨events, h⟩
      cases h
      exact .nil _
    · intro h
      cases h
      exact ⟨[], rfl⟩
  | cons path rest ih =>
    rw [allArtifacts, List.flatMap_cons]
    cases hstem : imp.sourceStem? path with
    | none =>
      rw [removeAll_cons_of_none hstem]
      exact ih
    | some stem =>
      rw [Option.elim, Removes.append_iff]
      constructor
      · rintro ⟨events, h⟩
        cases hfirst : (removeFiles (imp.artifacts stem) : StateM FileTree _) t with
        | mk result next =>
          cases result with
          | error e =>
            rw [removeAll_cons_of_error hstem hfirst] at h
            cases h
          | ok first =>
            rw [removeAll_cons_of_ok hstem hfirst] at h
            obtain ⟨hreport, rfl⟩ := Prod.mk.inj h
            obtain ⟨others, hothers, rfl⟩ := map_eq_ok_iff.mp (Prod.mk.inj hreport).2
            exact ⟨first, others, next, rfl, removeFiles_eq_ok_iff.mp hfirst,
              ih.mp ⟨_, Prod.ext (Prod.ext rfl hothers) rfl⟩⟩
      · rintro ⟨first, others, next, rfl, hfirst, hothers⟩
        obtain ⟨events, hrun⟩ := ih.mpr hothers
        rw [removeAll_cons_of_ok hstem (removeFiles_eq_ok_iff.mpr hfirst), hrun]
        exact ⟨_, rfl⟩

end Importer

namespace World

variable {w : World} {paths removed : List Path} {s : RemovalSummary} {t' : FileTree}

/-- What is reported of the removal of sources. -/
def removal (w : World) (paths : List Path) : Except ImportError RemovalSummary :=
  ((w.importer.sourcesRemoved paths : StateM FileTree _) w.tree).1.result

theorem removes_of_removal (h : w.removal paths = .ok s) :
    Removes (w.importer.allArtifacts paths) w.tree s.removed (w.removed paths).tree := by
  obtain ⟨files, hfiles, rfl⟩ := map_eq_ok_iff.mp h
  exact removeAll_eq_ok_iff.mp ⟨_, Prod.ext (Prod.ext rfl hfiles) rfl⟩

theorem removal_of_removes (h : Removes (w.importer.allArtifacts paths) w.tree removed t') :
    w.removal paths = .ok ⟨removed⟩ ∧ w.removed paths = ⟨w.importer, t'⟩ := by
  obtain ⟨events, hrun⟩ := removeAll_eq_ok_iff.mpr h
  simp only [removal, World.removed, sourcesRemoved, run_bind, hrun]
  exact ⟨rfl, rfl⟩

/-- Nothing is left for a second removal. -/
theorem removal_again (h : w.removal paths = .ok s) :
    (w.removed paths).removal paths = .ok ⟨[]⟩ ∧
      (w.removed paths).removed paths = w.removed paths :=
  removal_of_removes (w := w.removed paths)
    (.of_missing fun _ hp => (removes_of_removal h).lookup_eq hp)

theorem SameSetting.allArtifacts_eq {w' : World} (h : w.SameSetting w') (paths : List Path) :
    w'.importer.allArtifacts paths = w.importer.allArtifacts paths := by
  rw [h.importer_eq]
  rfl

/-- If there were none of the files generated for some sources, then everything is as it was once
the sources have been imported and removed again. -/
theorem sameNodes_of_removal
    (hclear : ∀ p ∈ w.importer.allArtifacts paths, w.tree.content? p = none)
    (h : (w.changed paths).removal paths = .ok s) :
    w.tree.SameNodes ((w.changed paths).removed paths).tree := by
  have hchanged := ChangedFor.changed w paths
  have hremoves := removes_of_removal h
  rw [hchanged.allArtifacts_eq] at hremoves
  have hdirectories := hchanged.directories.trans hremoves.deletes.sameDirectories
  intro l
  by_cases hl : ∃ p ∈ w.importer.allArtifacts paths, w.tree.resolve p = .ok l
  · obtain ⟨p, hp, hresolve⟩ := hl
    cases hnode : w.tree.node? l with
    | none =>
      rcases lookup_eq_notFound_iff.mp (hremoves.lookup_eq hp) with hlost | ⟨k, hk, hnone⟩
      · cases hlost.symm.trans (hdirectories.resolve_eq hresolve)
      · rwa [Except.ok.inj ((hdirectories.resolve_eq hresolve).symm.trans hk)]
    | some n =>
      cases n with
      | file c => cases (hclear p hp).symm.trans (content?_eq_some_iff.mpr ⟨l, hresolve, hnode⟩)
      | directory => exact (hdirectories l).mpr hnode
  · have hkept : ∀ p ∈ s.removed, (w.changed paths).tree.resolve p ≠ .ok l :=
      fun p hp hresolve =>
      hl ⟨p, hremoves.subset hp, hchanged.directories.resolve_eq_ok_iff.mp hresolve⟩
    rw [hremoves.deletes.kept l hkept]
    refine hchanged.nodes l ?_
    rintro stem ⟨path, hpath, hstem⟩ ⟨p, hp, hresolve⟩
    obtain ⟨kind, rfl⟩ := mem_artifacts.mp hp
    exact hl ⟨_, mem_allArtifacts.mpr ⟨path, hpath, stem, hstem, kind, rfl⟩, hresolve⟩

/-- Sources can be removed after they have been imported if there was a free place for each file
generated for them. -/
theorem exists_removal_of_free
    (hfree : ∀ p ∈ w.importer.allArtifacts paths, ∃ l, w.tree.resolve p = .ok l ∧
      w.tree.node? l = none) :
    ∃ s, (w.changed paths).removal paths = .ok s := by
  have hchanged := ChangedFor.changed w paths
  have hplaces : ∀ p ∈ (w.changed paths).importer.allArtifacts paths,
      ∃ l, (w.changed paths).tree.resolve p = .ok l ∧
        (w.changed paths).tree.node? l ≠ some .directory := by
    intro p hp
    rw [hchanged.allArtifacts_eq] at hp
    obtain ⟨l, hresolve, hnone⟩ := hfree p hp
    refine ⟨l, hchanged.directories.resolve_eq hresolve, fun hdirectory => ?_⟩
    cases hnone.symm.trans ((hchanged.directories l).mp hdirectory)
  obtain ⟨removed, t', hremoves⟩ := Removes.exists_removes hplaces
  exact ⟨⟨removed⟩, (removal_of_removes hremoves).1⟩

/-- A removal that ends without an error leaves none of the files generated for its sources and
changes nothing else. It reports the files that were there and are gone, each of them once, and when
it is repeated there is nothing left for it. Removing sources after importing them leads back to the
tree that was there before, if that had none of their files, and there is no error if each of these
had a free place. -/
theorem removal_exact (w : World) (paths : List Path) :
    (∀ s, w.removal paths = .ok s →
      (∀ path ∈ paths, ∀ stem, w.importer.sourceStem? path = some stem → ∀ kind,
        (w.removed paths).tree.lookup (w.importer.artifact kind stem) = .error .notFound) ∧
      (w.removed paths).importer = w.importer ∧
      (∀ p ∈ s.removed, ∃ path ∈ paths, ∃ stem, w.importer.sourceStem? path = some stem ∧
        ∃ kind, p = w.importer.artifact kind stem) ∧
      (∀ l, (∀ p ∈ s.removed, w.tree.resolve p ≠ .ok l) →
        (w.removed paths).tree.node? l = w.tree.node? l) ∧
      (∀ l, (∃ p ∈ s.removed, w.tree.resolve p = .ok l) ↔
        (∃ c, w.tree.node? l = some (.file c)) ∧ (w.removed paths).tree.node? l = none) ∧
      s.removed.Pairwise (fun p q => ¬w.tree.SameFile p q) ∧
      (w.removed paths).removal paths = .ok ⟨[]⟩ ∧
        (w.removed paths).removed paths = w.removed paths) ∧
    ((∀ path ∈ paths, ∀ stem, w.importer.sourceStem? path = some stem → ∀ kind,
        w.tree.content? (w.importer.artifact kind stem) = none) →
      ∀ s, (w.changed paths).removal paths = .ok s →
        w.tree.SameNodes ((w.changed paths).removed paths).tree) ∧
    ((∀ path ∈ paths, ∀ stem, w.importer.sourceStem? path = some stem → ∀ kind,
        ∃ l, w.tree.resolve (w.importer.artifact kind stem) = .ok l ∧ w.tree.node? l = none) →
      ∃ s, (w.changed paths).removal paths = .ok s) := by
  refine ⟨fun s h => ?_, fun hclear s h => sameNodes_of_removal (fun p hp => ?_) h,
    fun hfree => exists_removal_of_free fun p hp => ?_⟩
  · have hremoves := removes_of_removal h
    have hdeletes := hremoves.deletes
    refine ⟨fun path hpath stem hstem kind => hremoves.lookup_eq ?_, rfl,
      fun p hp => mem_allArtifacts.mp (hremoves.subset hp), hdeletes.kept,
      fun l => hdeletes.exists_mem_iff, hdeletes.distinct, removal_again h⟩
    exact mem_allArtifacts.mpr ⟨path, hpath, stem, hstem, kind, rfl⟩
  · obtain ⟨path, hpath, stem, hstem, kind, rfl⟩ := mem_allArtifacts.mp hp
    exact hclear path hpath stem hstem kind
  · obtain ⟨path, hpath, stem, hstem, kind, rfl⟩ := mem_allArtifacts.mp hp
    exact hfree path hpath stem hstem kind

/-- A source is imported, and then removed with a list that names it twice and a lock file
besides. -/
theorem removal_exact_items :
    let imported := itemsWorld.changed [itemsPath]
    let gone := [itemsPath, ⟨"~$Items.json"⟩, ⟨"Items.md"⟩, itemsPath]
    imported.removal gone = .ok ⟨itemsCompiled.written⟩ ∧
      (imported.removed gone).removal gone = .ok ⟨[]⟩ ∧
      (∃ s, imported.removal [itemsPath] = .ok s) ∧
      itemsWorld.tree.SameNodes (imported.removed [itemsPath]).tree := by
  intro imported gone
  have hgone : imported.removal gone = .ok ⟨itemsCompiled.written⟩ :=
    toOption_eq_some_iff.mp (by decide +kernel)
  have hstem : itemsWorld.importer.sourceStem? itemsPath = some "Items" := by decide +kernel
  obtain ⟨-, hsame, hfree⟩ := itemsWorld.removal_exact [itemsPath]
  obtain ⟨s, hs⟩ : ∃ s, imported.removal [itemsPath] = .ok s := by
    refine hfree fun path hpath stem hpath' kind => ?_
    obtain rfl := List.mem_singleton.mp hpath
    obtain rfl := Option.some.inj (hstem.symm.trans hpath')
    cases kind
    exacts [⟨["entity", "Entity_Items.cs"], by decide +kernel, by decide +kernel⟩,
      ⟨["container", "Scriptable_Items.cs"], by decide +kernel, by decide +kernel⟩,
      ⟨["data", "Scriptable_Items.json"], by decide +kernel, by decide +kernel⟩]
  refine ⟨hgone, ((imported.removal_exact gone).1 _ hgone).2.2.2.2.2.2.1, ⟨s, hs⟩,
    hsame ?_ s hs⟩
  intro path hpath stem hpath' kind
  obtain rfl := List.mem_singleton.mp hpath
  obtain rfl := Option.some.inj (hstem.symm.trans hpath')
  cases kind <;> decide +kernel

end World

end TypedSheets
