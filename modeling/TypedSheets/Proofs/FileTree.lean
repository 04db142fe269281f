import TypedSheets.Files.FileTree
import TypedSheets.Proofs.Split

/-!
# What writing and removing a file changes

A file that is written or removed stands at one location, which is no directory. Paths are resolved
through directories, so that every path still leads where it led
(`SameDirectories.resolve_eq_ok_iff`). With `content?`, the content of the file that a path leads
to, writing and removing are described in full: the paths that lead to the file are given the new
content or lose theirs, and all other paths keep what they have (`content?_write`,
`content?_remove`).

A name in a directory leads to a location below that of the directory (`resolve_join`), so that
paths with different last names lead to different files.
-/

namespace TypedSheets

/-! ## Locations that paths lead to -/

namespace FileLocation

variable {l k : FileLocation} {name : String}

/-- All names that lead down to the location are names of files and directories. -/
def IsNamed (l : FileLocation) : Prop :=
  ∀ name ∈ l.names, IsName name

theorem isNamed_of_isGiven (h : l.isGiven = true) : l.IsNamed := by
  intro name hname
  rw [List.isEmpty_iff.mp h] at hname
  cases hname

theorem IsNamed.isPlaced (h : l.IsNamed) (hgiven : l.isGiven = false) : l.IsPlaced :=
  ⟨by simpa [isGiven] using hgiven, h⟩

/-- What leads to a location leads also to those below. -/
theorem mem_names_append {rest : List String} (h : name ∈ l.names) :
    name ∈ names (l ++ rest) := by
  have hne : l ≠ [] := by
    rintro rfl
    simp [names] at h
  have hhead : (l ++ rest).head? = l.head? := by
    simp [List.head?_append, List.head?_eq_some_head hne]
  unfold names at h ⊢
  rw [hhead]
  split at h
  · next hroot =>
    rw [if_pos hroot, List.tail_append_of_ne_nil hne]
    exact List.mem_append_left _ h
  · next hroot =>
    rw [if_neg hroot, List.dropWhile_append, if_neg (by simpa using List.ne_nil_of_mem h)]
    exact List.mem_append_left _ h

theorem names_append_singleton (h : IsName name) : names (l ++ [name]) = l.names ++ [name] := by
  have hslash : name ≠ "/" := by
    rintro rfl
    exact h.no_slash (by decide)
  have hdown : [name].dropWhile (· == "..") = [name] := by simp [h.ne_up]
  obtain rfl | hne := eq_or_ne l []
  · simp [names, hslash, h.ne_up]
  have hhead : (l ++ [name]).head? = l.head? := by
    simp [List.head?_append, List.head?_eq_some_head hne]
  unfold names
  rw [hhead]
  split
  · rw [List.tail_append_of_ne_nil hne]
  · rw [List.dropWhile_append]
    split
    · next hempty => rw [List.isEmpty_iff.mp hempty, hdown, List.nil_append]
    · rfl

/-- The last part of a location at which something can be put is a name. -/
theorem IsPlaced.isName_last (h : IsPlaced (l ++ [name])) : IsName name := by
  have hsuffix : names (l ++ [name]) <:+ l ++ [name] := by
    unfold names
    split
    · exact List.tail_suffix _
    · exact List.dropWhile_suffix _
  obtain hnil | ⟨front, hfront, -⟩ := List.suffix_concat_iff.mp hsuffix
  · exact absurd hnil h.ne_nil
  · exact h.isName name (by simp [hfront])

theorem IsNamed.parent (h : l.IsNamed) : l.parent.IsNamed := by
  unfold FileLocation.parent
  split
  · exact h
  split
  · next hroot hgiven =>
    -- above a given location is a given one
    refine isNamed_of_isGiven ?_
    have hup : ∀ name ∈ l, name = ".." := by
      unfold isGiven names at hgiven
      split at hgiven
      · next hhead =>
        obtain ⟨rest, rfl⟩ := List.head?_eq_some_iff.mp hhead
        obtain rfl : rest = [] := by simpa using hgiven
        exact absurd rfl hroot
      · simpa using hgiven
    have hhead : (l ++ [".."]).head? ≠ some "/" := fun hhead => by
      have hmem := List.mem_of_head? hhead
      rw [List.mem_append, List.mem_singleton] at hmem
      exact hmem.elim (fun hl => absurd (hup _ hl) (by decide)) (by decide)
    rw [isGiven, names, if_neg hhead, List.isEmpty_iff, List.dropWhile_eq_nil_iff]
    intro name hname
    rw [List.mem_append, List.mem_singleton] at hname
    simpa using hname.elim (hup name) id
  · intro name hname
    obtain rfl | hne := eq_or_ne l []
    · cases hname
    · exact h name (List.dropLast_concat_getLast hne ▸ mem_names_append hname)

/-- A step along a piece of a path leads from names to names. -/
theorem IsNamed.step (h : l.IsNamed) (hslash : '/' ∉ name.toList) (hstep : l.step name = .ok k) :
    k.IsNamed := by
  unfold FileLocation.step at hstep
  split at hstep
  · exact Except.ok.inj hstep ▸ h
  next hhere =>
  split at hstep
  · exact Except.ok.inj hstep ▸ h.parent
  next hup =>
  split at hstep
  · cases hstep
  obtain rfl := Except.ok.inj hstep
  have hname : IsName name := ⟨hslash, (not_or.mp hhere).1, (not_or.mp hhere).2, hup⟩
  intro other hother
  rw [names_append_singleton hname, List.mem_append, List.mem_singleton] at hother
  exact hother.elim (h other) fun heq => heq ▸ hname

end FileLocation

namespace FileTree

variable {t t' : FileTree} {p q : Path} {l : FileLocation}

/-- The content of the file that a path leads to. -/
def content? (t : FileTree) (p : Path) : Option Content :=
  match t.lookup p with
  | .ok (_, .file content) => some content
  | _ => none

/-- The two paths lead to one location. -/
def SameFile (t : FileTree) (p q : Path) : Prop :=
  ∃ l, t.resolve p = .ok l ∧ t.resolve q = .ok l

/-- The same locations hold directories. -/
def SameDirectories (t t' : FileTree) : Prop :=
  ∀ l, t'.node? l = some .directory ↔ t.node? l = some .directory

theorem content?_eq_some_iff {c : Content} :
    t.content? p = some c ↔ ∃ l, t.resolve p = .ok l ∧ t.node? l = some (.file c) := by
  unfold content? lookup
  cases hresolve : t.resolve p with
  | error e => simp
  | ok l =>
    cases hnode : t.node? l with
    | none => simp [hnode]
    | some n => cases n <;> simp [hnode]

theorem isFile_eq_true_iff : t.isFile p = true ↔ ∃ c, t.content? p = some c := by
  unfold isFile content?
  cases t.lookup p with
  | error e => simp
  | ok found =>
    obtain ⟨l, n⟩ := found
    cases n <;> simp

theorem readContent_eq_ok_iff {c : Content} :
    t.readContent p = .ok c ↔ t.content? p = some c := by
  unfold readContent content?
  cases t.lookup p with
  | error e => simp
  | ok found =>
    obtain ⟨l, n⟩ := found
    cases n <;> simp

theorem read_eq_ok_iff {s : String} : t.read p = .ok s ↔ t.content? p = some (.text s) := by
  rw [← readContent_eq_ok_iff, read]
  cases t.readContent p with
  | error e => simp [Except.bind]
  | ok c => cases c <;> simp [Except.bind, Content.asText]

theorem isDirectory_eq_true_iff :
    t.isDirectory p = true ↔ ∃ l, t.resolve p = .ok l ∧ t.node? l = some .directory := by
  unfold isDirectory lookup
  cases hresolve : t.resolve p with
  | error e => simp
  | ok l =>
    cases hnode : t.node? l with
    | none => simp [hnode]
    | some n => cases n <;> simp [hnode]

/-! ## Directories -/

theorem SameDirectories.refl (t : FileTree) : t.SameDirectories t :=
  fun _ => Iff.rfl

theorem SameDirectories.symm (h : t.SameDirectories t') : t'.SameDirectories t :=
  fun l => (h l).symm

theorem SameDirectories.trans {t'' : FileTree} (h : t.SameDirectories t')
    (h' : t'.SameDirectories t'') : t.SameDirectories t'' :=
  fun l => (h' l).trans (h l)

theorem SameDirectories.walk_eq (h : t.SameDirectories t') :
    ∀ {names : List String} {l k : FileLocation}, t.walk l names = .ok k →
      t'.walk l names = .ok k
  | [], _, _, hwalk => hwalk
  | name :: names, l, k, hwalk => by
    unfold walk at hwalk ⊢
    cases hnode : t.node? l with
    | none => simp [hnode] at hwalk
    | some n =>
      cases n with
      | file c => simp [hnode] at hwalk
      | directory =>
        rw [(h l).mpr hnode]
        simp only [hnode] at hwalk
        cases hstep : l.step name with
        | error e => simp [hstep] at hwalk
        | ok next =>
          simp only [hstep] at hwalk
          exact h.walk_eq hwalk

theorem SameDirectories.resolve_eq (h : t.SameDirectories t') (hresolve : t.resolve p = .ok l) :
    t'.resolve p = .ok l := by
  unfold resolve at hresolve ⊢
  split at hresolve
  · cases hresolve
  · next hempty =>
    split at hresolve
    · cases hresolve
    · next hbad =>
      rw [if_neg hempty, if_neg hbad]
      exact h.walk_eq hresolve

theorem SameDirectories.resolve_eq_ok_iff (h : t.SameDirectories t') :
    t'.resolve p = .ok l ↔ t.resolve p = .ok l :=
  ⟨h.symm.resolve_eq, h.resolve_eq⟩

theorem SameDirectories.sameFile_iff (h : t.SameDirectories t') :
    t'.SameFile p q ↔ t.SameFile p q := by
  simp only [SameFile, h.resolve_eq_ok_iff]

/-- Working directory and root, and what is above them, are directories. -/
theorem isGiven_of_ne (h : t.node? l ≠ some .directory) : l.isGiven = false := by
  unfold node? at h
  split at h
  · exact absurd rfl h
  · next hgiven => simpa using hgiven

theorem sameDirectories_put {c : Content} (h : t.node? l ≠ some .directory) :
    t.SameDirectories (t.put l (.file c)) := by
  by_cases hplaced : l.IsPlaced
  · intro k
    rw [node?_put t (.file c) hplaced]
    split
    · next hk => simp [hk, h]
    · rfl
  · rw [put, dif_neg hplaced]
    exact .refl t

theorem sameDirectories_erase (h : t.node? l ≠ some .directory) :
    t.SameDirectories (t.erase l) := by
  intro k
  rw [node?_erase t (isGiven_of_ne h)]
  split
  · next hk => simp [hk, h]
  · rfl

theorem isNamed_of_walk : ∀ {pieces : List String} {l k : FileLocation}, l.IsNamed →
    (∀ piece ∈ pieces, '/' ∉ piece.toList) → t.walk l pieces = .ok k → k.IsNamed
  | [], _, _, hnamed, _, h => Except.ok.inj h ▸ hnamed
  | piece :: pieces, l, k, hnamed, hslash, h => by
    unfold walk at h
    obtain ⟨hpiece, hpieces⟩ := List.forall_mem_cons.mp hslash
    cases hnode : t.node? l with
    | none => simp [hnode] at h
    | some n =>
      cases n with
      | file c => simp [hnode] at h
      | directory =>
        simp only [hnode] at h
        cases hstep : l.step piece with
        | error e => simp [hstep] at h
        | ok next =>
          simp only [hstep] at h
          exact isNamed_of_walk (hnamed.step hpiece hstep) hpieces h

/-- A path leads to a location that is given or at which something can be put. -/
theorem isNamed_of_resolve (h : t.resolve p = .ok l) : l.IsNamed := by
  unfold resolve at h
  split at h
  · cases h
  split at h
  · cases h
  have hstart : (start p).IsNamed := by
    unfold start
    split <;> exact FileLocation.isNamed_of_isGiven rfl
  refine isNamed_of_walk hstart (fun piece hpiece => ?_) h
  obtain ⟨chars, hchars, rfl⟩ := List.mem_map.mp hpiece
  rw [String.toList_ofList]
  exact Text.not_mem_of_mem_splitOn hchars

/-- A path that leads to no directory leads to a location at which a file can be put. -/
theorem isPlaced_of_resolve (h : t.resolve p = .ok l) (hnode : t.node? l ≠ some .directory) :
    l.IsPlaced :=
  (isNamed_of_resolve h).isPlaced (isGiven_of_ne hnode)

/-! ## Writing and removing -/

theorem write_eq_ok_iff {s : String} : t.write p s = .ok t' ↔
    ∃ l, t.resolve p = .ok l ∧ t.node? l ≠ some .directory ∧
      t' = t.put l (.file (.text s)) := by
  unfold write writeContent
  cases hresolve : t.resolve p with
  | error e => simp
  | ok l =>
    cases hnode : t.node? l with
    | none => simp [hnode, eq_comm]
    | some n => cases n <;> simp [hnode, eq_comm]

theorem remove_eq_ok_iff : t.remove p = .ok t' ↔
    ∃ l c, t.resolve p = .ok l ∧ t.node? l = some (.file c) ∧ t' = t.erase l := by
  unfold remove lookup
  cases hresolve : t.resolve p with
  | error e => simp
  | ok l =>
    cases hnode : t.node? l with
    | none => simp [hnode]
    | some n => cases n <;> simp [hnode, eq_comm]

theorem sameDirectories_write {s : String} (h : t.write p s = .ok t') : t.SameDirectories t' := by
  obtain ⟨l, -, hnode, rfl⟩ := write_eq_ok_iff.mp h
  exact sameDirectories_put hnode

theorem sameDirectories_remove (h : t.remove p = .ok t') : t.SameDirectories t' := by
  obtain ⟨l, c, -, hnode, rfl⟩ := remove_eq_ok_iff.mp h
  exact sameDirectories_erase (by simp [hnode])

theorem content?_eq_of_node?_eq (h : t.SameDirectories t')
    (hnode : ∀ l, t.resolve p = .ok l → t'.node? l = t.node? l) :
    t'.content? p = t.content? p := by
  refine Option.ext fun c => ?_
  rw [content?_eq_some_iff, content?_eq_some_iff]
  simp only [h.resolve_eq_ok_iff]
  exact exists_congr fun l => and_congr_right fun hl => by rw [hnode l hl]

theorem SameFile.eq (h : t.SameFile p q) (hp : t.resolve p = .ok l) : t.resolve q = .ok l := by
  obtain ⟨k, hk, hq⟩ := h
  rwa [Except.ok.inj (hp.symm.trans hk)]

/-- Paths that lead to a file written have its content. -/
theorem content?_write_same {s : String} (h : t.write p s = .ok t') (hq : t.SameFile p q) :
    t'.content? q = some (.text s) := by
  obtain ⟨l, hresolve, hnode, rfl⟩ := write_eq_ok_iff.mp h
  refine content?_eq_some_iff.mpr
    ⟨l, (sameDirectories_put hnode).resolve_eq (hq.eq hresolve), ?_⟩
  rw [node?_put t _ (isPlaced_of_resolve hresolve hnode), if_pos rfl]

theorem content?_write_self {s : String} (h : t.write p s = .ok t') :
    t'.content? p = some (.text s) := by
  obtain ⟨l, hresolve, -, -⟩ := write_eq_ok_iff.mp h
  exact content?_write_same h ⟨l, hresolve, hresolve⟩

/-- Paths that do not lead to a file written keep the content that they had. -/
theorem content?_write_other {s : String} (h : t.write p s = .ok t') (hq : ¬t.SameFile p q) :
    t'.content? q = t.content? q := by
  obtain ⟨l, hresolve, hnode, rfl⟩ := write_eq_ok_iff.mp h
  refine content?_eq_of_node?_eq (sameDirectories_put hnode) fun k hk => ?_
  rw [node?_put t _ (isPlaced_of_resolve hresolve hnode), if_neg]
  rintro rfl
  exact hq ⟨k, hresolve, hk⟩

/-- Writing leaves every file there. -/
theorem content?_write_some {s : String} {c : Content} (h : t.write p s = .ok t')
    (hc : t.content? q = some c) : ∃ c', t'.content? q = some c' := by
  by_cases hq : t.SameFile p q
  · exact ⟨_, content?_write_same h hq⟩
  · exact ⟨c, (content?_write_other h hq).trans hc⟩

/-- Paths that do not lead to a file removed keep the content that they had. -/
theorem content?_remove_other (h : t.remove p = .ok t') (hq : ¬t.SameFile p q) :
    t'.content? q = t.content? q := by
  obtain ⟨l, c, hresolve, hnode, rfl⟩ := remove_eq_ok_iff.mp h
  have hdirectory : t.node? l ≠ some .directory := by simp [hnode]
  refine content?_eq_of_node?_eq (sameDirectories_erase hdirectory) fun k hk => ?_
  rw [node?_erase t (isGiven_of_ne hdirectory), if_neg]
  rintro rfl
  exact hq ⟨k, hresolve, hk⟩

/-! ## Names in directories -/

theorem step_eq_ok {name : String} (h : IsName name) {d : FileLocation}
    (hstep : d.step name = .ok l) : l = d ++ [name] := by
  unfold FileLocation.step at hstep
  rw [if_neg (not_or.mpr ⟨h.ne_empty, h.ne_here⟩), if_neg h.ne_up] at hstep
  split at hstep
  · cases hstep
  · exact (Except.ok.inj hstep).symm

/-- The pieces of a path into a directory are those of the directory, but for an empty one at its
end, and the name. -/
theorem pieces_join {dir : Path} {name : String} (hdir : dir.text ≠ "")
    (hname : '/' ∉ name.toList) :
    ∃ pieces, (dir.pieces = pieces ∨ dir.pieces = pieces ++ [""]) ∧
      (dir.join name).pieces = pieces ++ [name] := by
  have hslash : ∀ s : List Char, Text.splitOn '/' (s ++ '/' :: name.toList) =
      Text.splitOn '/' s ++ [name.toList] := by
    intro s
    rw [Text.splitOn_append_cons, Text.splitOn_of_not_mem hname]
  have hhead : ¬name.toList.head? = some '/' := fun h => hname (List.mem_of_head? h)
  unfold Path.join
  rw [if_neg hhead]
  split
  · next hlast =>
    obtain ⟨s, hs⟩ := List.getLast?_eq_some_iff.mp (hlast.resolve_left hdir)
    refine ⟨(Text.splitOn '/' s).map String.ofList, .inr ?_, ?_⟩
    · rw [Path.pieces, hs, Text.splitOn_append_cons]
      simp [Text.splitOn]
    · rw [Path.pieces, String.toList_append, hs, List.append_assoc, List.singleton_append, hslash]
      simp
  · refine ⟨dir.pieces, .inl rfl, ?_⟩
    rw [Path.pieces, String.toList_append, String.toList_append, List.append_assoc]
    change (Text.splitOn '/' (dir.text.toList ++ '/' :: name.toList)).map String.ofList = _
    rw [hslash]
    simp [Path.pieces]

/-- A name without a directory is the only piece of its path. -/
theorem pieces_join_empty {dir : Path} {name : String} (hname : '/' ∉ name.toList)
    (hdir : dir.text = "") : (dir.join name).pieces = [name] := by
  have hhead : ¬name.toList.head? = some '/' := fun h => hname (List.mem_of_head? h)
  rw [Path.join, if_neg hhead, if_pos (.inl hdir), hdir, String.empty_append, Path.pieces,
    Text.splitOn_of_not_mem hname]
  simp

theorem text_join {dir : Path} {name : String} (hname : '/' ∉ name.toList) :
    ∃ suffix, (dir.join name).text = dir.text ++ suffix := by
  have hhead : ¬name.toList.head? = some '/' := fun h => hname (List.mem_of_head? h)
  unfold Path.join
  rw [if_neg hhead]
  split
  · exact ⟨name, rfl⟩
  · exact ⟨"/" ++ name, String.append_assoc⟩

theorem isAbsolute_join {dir : Path} {name : String} (hdir : dir.text ≠ "")
    (hname : '/' ∉ name.toList) : (dir.join name).isAbsolute = dir.isAbsolute := by
  obtain ⟨suffix, hsuffix⟩ : ∃ suffix, (dir.join name).text = dir.text ++ suffix :=
    text_join hname
  have hchars : dir.text.toList ≠ [] := fun h => hdir (String.toList_eq_nil_iff.mp h)
  obtain ⟨c, rest, hc⟩ := List.exists_cons_of_ne_nil hchars
  simp [Path.isAbsolute, hsuffix, hc]

/-- The components of a path into a directory are those of the directory, and the name. -/
theorem components_join {dir : Path} {name : String} (hname : IsName name) :
    (dir.join name).components = dir.components ++ [name] := by
  have hnamed : ∀ pieces : List String,
      (pieces ++ [name]).filter (fun piece => piece ≠ "" ∧ piece ≠ ".") =
        pieces.filter (fun piece => piece ≠ "" ∧ piece ≠ ".") ++ [name] := fun pieces => by
    rw [List.filter_append, List.filter_cons_of_pos (by simp [hname.ne_empty, hname.ne_here]),
      List.filter_nil]
  by_cases hdir : dir.text = ""
  · obtain rfl : dir = ⟨""⟩ := by rw [← hdir]
    have hempty : (⟨""⟩ : Path).components = [] := by decide
    have habsolute : ((⟨""⟩ : Path).join name).isAbsolute = false := by
      have hhead : name.toList.head? ≠ some '/' := fun h => hname.no_slash (List.mem_of_head? h)
      simp [Path.isAbsolute, Path.join, hhead]
    rw [hempty, Path.components, habsolute, pieces_join_empty hname.no_slash hdir,
      ← List.nil_append [name], hnamed]
    simp [hname.ne_here]
  · obtain ⟨pieces, hpieces, hjoin⟩ := pieces_join hdir hname.no_slash
    -- an empty piece at the end of the directory does not count
    have hfilter : dir.pieces.filter (fun piece => piece ≠ "" ∧ piece ≠ ".") =
        pieces.filter (fun piece => piece ≠ "" ∧ piece ≠ ".") := by
      rcases hpieces with hpieces | hpieces <;> simp [hpieces]
    have hfirst : (dir.join name).pieces.head? = some "." ↔ dir.pieces.head? = some "." := by
      rw [hjoin]
      rcases hpieces with hpieces | hpieces <;> rw [hpieces] <;> cases pieces <;>
        simp [hname.ne_here]
    simp only [Path.components, isAbsolute_join hdir hname.no_slash, hfirst]
    simp only [hjoin, hnamed, hfilter]
    split
    · rfl
    split <;> rfl

theorem walk_append (t : FileTree) (rest : List String) : ∀ {names : List String}
    {l k : FileLocation}, t.walk l (names ++ rest) = .ok k ↔
      ∃ d, t.walk l names = .ok d ∧ t.walk d rest = .ok k
  | [], l, k => by simp [walk]
  | name :: names, l, k => by
    rw [List.cons_append, walk, walk]
    cases hnode : t.node? l with
    | none => simp
    | some n =>
      cases n with
      | file c => simp
      | directory =>
        cases hstep : l.step name with
        | error e => simp
        | ok next => simpa using t.walk_append rest

theorem walk_singleton {name : String} {d k : FileLocation} :
    t.walk d [name] = .ok k ↔ t.node? d = some .directory ∧ d.step name = .ok k := by
  unfold walk
  cases hnode : t.node? d with
  | none => simp
  | some n =>
    cases n with
    | file c => simp
    | directory => cases hstep : d.step name <;> simp [walk]

/-- A name in a directory leads to the location below that of the directory. -/
theorem resolve_join {dir : Path} {name : String} (hdir : dir.text ≠ "") (hname : IsName name)
    (h : t.resolve (dir.join name) = .ok l) :
    ∃ d, t.resolve dir = .ok d ∧ t.node? d = some .directory ∧ l = d ++ [name] := by
  obtain ⟨suffix, hsuffix⟩ : ∃ suffix, (dir.join name).text = dir.text ++ suffix :=
    text_join hname.no_slash
  obtain ⟨pieces, hpieces, hjoin⟩ := pieces_join hdir hname.no_slash
  unfold resolve at h
  split at h
  · cases h
  split at h
  · cases h
  next hbad =>
  have hstart : start (dir.join name) = start dir := by
    rw [start, start, isAbsolute_join hdir hname.no_slash]
  have hgood : ¬isBadPath dir = true := by
    simp only [isBadPath, hsuffix, String.utf8ByteSize_append, String.toList_append,
      List.any_append, Bool.or_eq_true, decide_eq_true_eq, not_or] at hbad ⊢
    exact ⟨by omega, hbad.2.1⟩
  rw [hstart, hjoin, walk_append] at h
  obtain ⟨d, hwalk, hlast⟩ := h
  obtain ⟨hnode, hstep⟩ := walk_singleton.mp hlast
  refine ⟨d, ?_, hnode, step_eq_ok hname hstep⟩
  rw [resolve, if_neg hdir, if_neg hgood]
  rcases hpieces with hpieces | hpieces
  · rw [hpieces, hwalk]
  · rw [hpieces, walk_append]
    exact ⟨d, hwalk, walk_singleton.mpr ⟨hnode, by simp [FileLocation.step]⟩⟩

/-- A name in any directory, also without one, leads to a location that ends in it. -/
theorem exists_of_resolve_join {dir : Path} {name : String} (hname : IsName name)
    (h : t.resolve (dir.join name) = .ok l) : ∃ d, l = d ++ [name] := by
  by_cases hdir : dir.text = ""
  · unfold resolve at h
    split at h
    · cases h
    split at h
    · cases h
    rw [pieces_join_empty hname.no_slash hdir] at h
    exact ⟨_, step_eq_ok hname (walk_singleton.mp h).2⟩
  · obtain ⟨d, -, -, hl⟩ := resolve_join hdir hname h
    exact ⟨d, hl⟩

/-- Different names in directories lead to different files. -/
theorem not_sameFile_join {dir dir' : Path} {name name' : String} (hname : IsName name)
    (hname' : IsName name') (hne : name ≠ name') :
    ¬t.SameFile (dir.join name) (dir'.join name') := by
  rintro ⟨l, h, h'⟩
  obtain ⟨d, rfl⟩ := exists_of_resolve_join hname h
  obtain ⟨d', hl⟩ := exists_of_resolve_join hname' h'
  exact hne (by simpa using (List.append_inj' hl rfl).2)

/-- A file is listed in its directory. -/
theorem mem_files {dir : Path} {name : String} {c : Content} (hdir : dir.text ≠ "")
    (hname : IsName name) (h : t.content? (dir.join name) = some c) :
    ∃ names, t.files dir = .ok names ∧ name ∈ names := by
  obtain ⟨l, hresolve, hnode⟩ := content?_eq_some_iff.mp h
  obtain ⟨d, hd, hdirectory, rfl⟩ := resolve_join hdir hname hresolve
  have hnot : t.node? (d ++ [name]) ≠ some .directory := by simp [hnode]
  unfold files lookup
  rw [hd]
  simp only [hdirectory]
  refine ⟨_, rfl, ?_⟩
  rw [node?, isGiven_of_ne hnot] at hnode
  obtain ⟨entry, hentry, hfile⟩ := Option.map_eq_some_iff.mp hnode
  have hlocation : entry.1 = d ++ [name] := by simpa using List.find?_some hentry
  refine List.mem_filterMap.mpr ⟨entry, List.mem_of_find?_eq_some hentry, ?_⟩
  simp [nameIn?, hfile, hlocation]

end FileTree

end TypedSheets
