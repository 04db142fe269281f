import TypedSheets.Proofs.FileTree

/-!
# Files in a directory

Where a path leads does not depend on the tree, as long as it leads anywhere
(`FileTree.location_unique`). Writing a file into a directory puts its name in front of the other
names that are listed there (`FileTree.files_write`), and changes nothing in any other directory
(`FileTree.KeepsDirectory.of_write`).
-/

namespace TypedSheets.FileTree

variable {t t' : FileTree} {dir other : Path} {name text : String} {names : List String}

/-! ## Locations -/

theorem walk_unique : ∀ {pieces : List String} {l k k' : FileLocation},
    t.walk l pieces = .ok k → t'.walk l pieces = .ok k' → k = k'
  | [], _, _, _, h, h' => (Except.ok.inj h).symm.trans (Except.ok.inj h')
  | piece :: pieces, l, k, k', h, h' => by
    unfold walk at h h'
    cases hnode : t.node? l with
    | none => simp [hnode] at h
    | some n =>
      cases hnode' : t'.node? l with
      | none => simp [hnode'] at h'
      | some n' =>
        cases n with
        | file c => simp [hnode] at h
        | directory =>
          cases n' with
          | file c => simp [hnode'] at h'
          | directory =>
            simp only [hnode] at h
            simp only [hnode'] at h'
            cases hstep : l.step piece with
            | error e => simp [hstep] at h
            | ok next =>
              simp only [hstep] at h h'
              exact walk_unique h h'

/-- A path leads to the same location in all trees in which it leads to one. -/
theorem location_unique {p : Path} {l l' : FileLocation} (h : t.resolve p = .ok l)
    (h' : t'.resolve p = .ok l') : l = l' := by
  unfold resolve at h h'
  split at h
  · cases h
  next hempty =>
  split at h
  · cases h
  next hbad =>
  rw [if_neg hempty, if_neg hbad] at h'
  exact walk_unique h h'

instance (t : FileTree) (p q : Path) : Decidable (t.SameFile p q) :=
  match hp : t.resolve p with
  | .error _ => .isFalse fun ⟨_, hp', _⟩ => nomatch hp.symm.trans hp'
  | .ok l =>
    match hq : t.resolve q with
    | .error _ => .isFalse fun h => nomatch hq.symm.trans (h.eq hp)
    | .ok k => decidable_of_iff (k = l)
      ⟨fun heq => ⟨l, hp, heq ▸ hq⟩, fun h => Except.ok.inj (hq.symm.trans (h.eq hp))⟩

/-- The two paths lead to one location in no tree. -/
def Apart (p q : Path) : Prop :=
  ∀ t : FileTree, ¬t.SameFile p q

theorem Apart.symm {p q : Path} (h : Apart p q) : Apart q p :=
  fun t ⟨l, hq, hp⟩ => h t ⟨l, hp, hq⟩

theorem Apart.of_isDirectory {p q : Path} (hp : t.isDirectory p = true)
    (hq : t.isDirectory q = true) (h : ¬t.SameFile p q) : Apart p q := by
  obtain ⟨l, hl, -⟩ := isDirectory_eq_true_iff.mp hp
  obtain ⟨k, hk, -⟩ := isDirectory_eq_true_iff.mp hq
  rintro t' ⟨m, hp', hq'⟩
  refine h ⟨l, hl, ?_⟩
  rw [hk, location_unique hk hq', location_unique hl hp']

/-- Files in directories that are apart are not the same file. -/
theorem Apart.not_sameFile {other : Path} {name' : String} (h : Apart dir other)
    (hdir : dir.text ≠ "") (hother : other.text ≠ "") (hname : IsName name)
    (hname' : IsName name') : ¬t.SameFile (dir.join name) (other.join name') := by
  rintro ⟨l, hl, hl'⟩
  obtain ⟨d, hd, -, rfl⟩ := resolve_join hdir hname hl
  obtain ⟨d', hd', -, heq⟩ := resolve_join hother hname' hl'
  obtain ⟨rfl, -⟩ := List.append_inj' heq rfl
  exact h t ⟨d, hd, hd'⟩

/-! ## Names that are listed -/

theorem files_eq_ok_iff : t.files dir = .ok names ↔ ∃ d, t.resolve dir = .ok d ∧
    t.node? d = some .directory ∧ t.entries.filterMap (nameIn? d) = names := by
  unfold files lookup
  cases hresolve : t.resolve dir with
  | error e => simp
  | ok d =>
    cases hnode : t.node? d with
    | none => simp [hnode]
    | some n => cases n <;> simp [hnode]

theorem exists_files (h : t.isDirectory dir = true) : ∃ names, t.files dir = .ok names := by
  obtain ⟨d, hd, hdirectory⟩ := isDirectory_eq_true_iff.mp h
  exact ⟨_, files_eq_ok_iff.mpr ⟨d, hd, hdirectory, rfl⟩⟩

theorem nameIn?_file (d : FileLocation) (name : String) (c : Content) :
    nameIn? d (d ++ [name], .file c) = some name := by
  simp [nameIn?]

theorem location_of_nameIn? {d : FileLocation} {entry : FileLocation × FileNode}
    (h : nameIn? d entry = some name) : entry.1 = d ++ [name] := by
  unfold nameIn? at h
  split at h
  · cases h
  split at h
  · next last hlast =>
    split at h
    · next hd =>
      obtain rfl := Option.some.inj h
      obtain ⟨front, hfront⟩ := List.getLast?_eq_some_iff.mp hlast
      rw [hfront] at hd ⊢
      rw [← hd, List.dropLast_concat]
    · cases h
  · cases h

/-- What a directory lists are names. -/
theorem isName_of_files (hfiles : t.files dir = .ok names) : ∀ name ∈ names, IsName name := by
  obtain ⟨d, -, -, rfl⟩ := files_eq_ok_iff.mp hfiles
  intro name hname
  obtain ⟨entry, hentry, hin⟩ := List.mem_filterMap.mp hname
  exact (location_of_nameIn? hin ▸ t.placed entry hentry).isName_last

/-- No name is listed twice. -/
theorem nodup_of_files (hfiles : t.files dir = .ok names) : names.Nodup := by
  obtain ⟨d, -, -, rfl⟩ := files_eq_ok_iff.mp hfiles
  refine (List.pairwise_map.mp t.distinct).filterMap _ fun entry entry' hne name hin name' hin'
    heq => ?_
  rw [location_of_nameIn? hin, location_of_nameIn? hin', heq] at hne
  exact hne rfl

/-- Taking a location away takes away the name of the file there. -/
theorem filterMap_nameIn?_filter (d l : FileLocation) :
    ∀ entries : List (FileLocation × FileNode),
    (entries.filter (·.1 != l)).filterMap (nameIn? d) =
      (entries.filterMap (nameIn? d)).filter fun name => d ++ [name] != l
  | [] => rfl
  | entry :: entries => by
    have ih := filterMap_nameIn?_filter d l entries
    cases hname : nameIn? d entry with
    | none =>
      rw [List.filterMap_cons_none hname, ← ih]
      by_cases hl : entry.1 = l
      · rw [List.filter_cons_of_neg (by simp [hl])]
      · rw [List.filter_cons_of_pos (by simp [hl]), List.filterMap_cons_none hname]
    | some name =>
      rw [List.filterMap_cons_some hname]
      have hlocation := location_of_nameIn? hname
      by_cases hl : entry.1 = l
      · rw [List.filter_cons_of_neg (by simp [hl]),
          List.filter_cons_of_neg (by simp [← hlocation, hl]), ih]
      · rw [List.filter_cons_of_pos (by simp [hl]), List.filterMap_cons_some hname,
          List.filter_cons_of_pos (by simp [← hlocation, hl]), ih]

/-- A file that is written into a directory is listed there, in front of the other files. -/
theorem files_write (hdir : dir.text ≠ "") (hname : IsName name)
    (hfiles : t.files dir = .ok names) (hwrite : t.write (dir.join name) text = .ok t') :
    t'.files dir = .ok (name :: names.filter (· ≠ name)) := by
  obtain ⟨d, hd, hdirectory, rfl⟩ := files_eq_ok_iff.mp hfiles
  have hsame := sameDirectories_write hwrite
  obtain ⟨l, hl, hnode, rfl⟩ := write_eq_ok_iff.mp hwrite
  have hplaced := isPlaced_of_resolve hl hnode
  obtain ⟨d', hd', -, rfl⟩ := resolve_join hdir hname hl
  obtain rfl := Except.ok.inj (hd.symm.trans hd')
  refine files_eq_ok_iff.mpr ⟨d, hsame.resolve_eq hd, (hsame d).mpr hdirectory, ?_⟩
  rw [entries_put t _ hplaced, List.filterMap_cons_some (nameIn?_file d name _),
    filterMap_nameIn?_filter]
  congr 2
  funext other
  by_cases hother : other = name <;> simp [hother]

/-! ## Directories that are kept -/

/-- The same files are in the directory, with the same contents. -/
structure KeepsDirectory (dir : Path) (t t' : FileTree) : Prop where
  files : ∃ names names', t.files dir = .ok names ∧ t'.files dir = .ok names' ∧
    names'.Perm names
  content : ∀ name, IsName name → t'.content? (dir.join name) = t.content? (dir.join name)

/-- What is written into one directory leaves another as it is. -/
theorem KeepsDirectory.of_write (hdir : dir.text ≠ "") (hother : other.text ≠ "")
    (hapart : Apart dir other) (hname : IsName name) (hfiles : t.files dir = .ok names)
    (hwrite : t.write (other.join name) text = .ok t') : KeepsDirectory dir t t' := by
  refine ⟨⟨names, names, hfiles, ?_, .refl _⟩,
    fun name' hname' => content?_write_other hwrite ?_⟩
  · obtain ⟨d, hd, hdirectory, rfl⟩ := files_eq_ok_iff.mp hfiles
    have hsame := sameDirectories_write hwrite
    obtain ⟨l, hl, hnode, rfl⟩ := write_eq_ok_iff.mp hwrite
    have hplaced := isPlaced_of_resolve hl hnode
    obtain ⟨d', hd', -, rfl⟩ := resolve_join hother hname hl
    have hne : ∀ n, d ++ [n] ≠ d' ++ [name] := fun n heq => by
      obtain ⟨rfl, -⟩ := List.append_inj' heq rfl
      exact hapart t ⟨d, hd, hd'⟩
    have hnone : nameIn? d (d' ++ [name], .file (.text text)) = none := by
      rw [Option.eq_none_iff_forall_ne_some]
      exact fun n hn => hne n (location_of_nameIn? hn).symm
    refine files_eq_ok_iff.mpr ⟨d, hsame.resolve_eq hd, (hsame d).mpr hdirectory, ?_⟩
    rw [entries_put t _ hplaced, List.filterMap_cons_none hnone, filterMap_nameIn?_filter,
      List.filter_eq_self]
    exact fun n _ => by simp [hne n]
  · exact hapart.symm.not_sameFile hother hdir hname hname'

end TypedSheets.FileTree
