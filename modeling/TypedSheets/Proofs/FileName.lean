import TypedSheets.Proofs.FileTree

/-!
# File names

The file name of a path is its last component, if that leads down. Slashes, each with nothing or a
single dot after it, may follow the name in the text of the path (`Path.fileName?_eq_some_iff`). The
extension is what follows the last dot of the file name, if something stands before that dot
(`Path.extension?_eq_some_iff`).
-/

namespace TypedSheets

open Text FileTree

namespace Path

variable {p dir : Path} {name stem ext : String}

/-- What does not count at the end of a path: slashes, each with nothing or a single dot after
it. -/
inductive Trails : List Char → Prop
  | nil : Trails []
  | slash {piece rest : List Char} : piece = [] ∨ piece = ['.'] → Trails rest →
      Trails ('/' :: (piece ++ rest))

/-- The path ends in a name, before which stands a slash or nothing, and after it nothing that
counts. -/
def EndsIn (p : Path) (name : String) : Prop :=
  ∃ front rest, p.text.toList = front ++ (name.toList ++ rest) ∧
    (front = [] ∨ front.getLast? = some '/') ∧ Trails rest ∧ IsName name

/-- The path ends in a name that is a stem, a dot and the extension, in which there is no other
dot. -/
def HasExtension (p : Path) (ext : String) : Prop :=
  ∃ stem, stem ≠ "" ∧ '.' ∉ ext.toList ∧ p.EndsIn (stem ++ "." ++ ext)

/-! ## Pieces -/

theorem no_slash_of_pieces {piece : String} (h : piece ∈ p.pieces) : '/' ∉ piece.toList := by
  obtain ⟨chars, hchars, rfl⟩ := List.mem_map.mp h
  rw [String.toList_ofList]
  exact not_mem_of_mem_splitOn hchars

/-- Only the pieces count that are not empty or single dots. -/
theorem fileName?_eq (p : Path) : p.fileName? =
    (p.pieces.filter fun piece => piece ≠ "" ∧ piece ≠ ".").getLast?.filter
      (· ≠ "..") := by
  obtain ⟨first, hfirst, hcomponents⟩ : ∃ first,
      (first = [] ∨ first = ["/"] ∨ first = ["."]) ∧
      p.components = first ++ p.pieces.filter fun piece => piece ≠ "" ∧ piece ≠ "." := by
    unfold components
    dsimp only
    split
    · exact ⟨["/"], by simp, rfl⟩
    split
    · exact ⟨["."], by simp, rfl⟩
    · exact ⟨[], by simp, rfl⟩
  rw [fileName?, hcomponents, List.getLast?_append]
  cases hlast : (p.pieces.filter fun piece => piece ≠ "" ∧ piece ≠ ".").getLast? with
  -- a root or a dot at the start is no name
  | none => rcases hfirst with rfl | rfl | rfl <;> rfl
  | some last =>
    obtain ⟨hpiece, hcounts⟩ := List.mem_filter.mp (List.mem_of_getLast? hlast)
    have hslash : last ≠ "/" := by
      rintro rfl
      exact no_slash_of_pieces hpiece (by decide)
    have hdot : last ≠ "." := by
      rintro rfl
      exact absurd hcounts (by decide)
    by_cases hup : last = ".." <;> simp [Option.filter, hup, hdot, hslash]

/-- The file name is the last piece that counts. -/
theorem fileName?_eq_some_iff_pieces : p.fileName? = some name ↔ IsName name ∧
    ∃ before after, p.pieces = before ++ name :: after ∧ ∀ piece ∈ after, piece = "" ∨
      piece = "." := by
  rw [fileName?_eq, Option.filter_eq_some_iff, List.getLast?_filter, List.find?_eq_some_iff_append]
  constructor
  · rintro ⟨⟨hname, after, before, hreverse, hafter⟩, hup⟩
    have hpieces : p.pieces = before.reverse ++ name :: after.reverse := by
      simpa using congrArg List.reverse hreverse
    obtain ⟨hempty, hhere⟩ := of_decide_eq_true hname
    have hslash : '/' ∉ name.toList := no_slash_of_pieces (p := p) (by simp [hpieces])
    refine ⟨⟨hslash, hempty, hhere, by simpa using hup⟩, before.reverse, after.reverse,
      hpieces, ?_⟩
    exact fun piece hpiece => by simpa using hafter piece (List.mem_reverse.mp hpiece)
  · rintro ⟨hname, before, after, hpieces, hafter⟩
    refine ⟨⟨decide_eq_true ⟨hname.ne_empty, hname.ne_here⟩, after.reverse, before.reverse,
      by simp [hpieces], fun piece hpiece => ?_⟩, by simpa using hname.ne_up⟩
    rcases hafter piece (List.mem_reverse.mp hpiece) with rfl | rfl <;> rfl

/-! ## Texts of paths -/

/-- What does not count is cut into pieces that do not count. -/
theorem splitOn_append_trails {chars rest : List Char} (hchars : '/' ∉ chars) (h : Trails rest) :
    ∃ after, splitOn '/' (chars ++ rest) = chars :: after ∧ ∀ piece ∈ after, piece = [] ∨
      piece = ['.'] := by
  -- each slash starts a piece anew, which is what the rest is appended to
  induction h generalizing chars with
  | nil =>
    refine ⟨[], ?_, by simp⟩
    rw [List.append_nil, splitOn_of_not_mem hchars]
  | @slash piece rest hpiece _ ih =>
    have hslash : '/' ∉ piece := by rcases hpiece with rfl | rfl <;> decide
    obtain ⟨after, hafter, hblank⟩ := ih hslash
    refine ⟨piece :: after, ?_, List.forall_mem_cons.mpr ⟨hpiece, hblank⟩⟩
    rw [splitOn_append_cons, splitOn_of_not_mem hchars, hafter, List.singleton_append]

theorem exists_intercalate_cons (chars : List Char) {after : List (List Char)}
    (hafter : ∀ piece ∈ after, piece = [] ∨ piece = ['.']) :
    ∃ rest, ['/'].intercalate (chars :: after) = chars ++ rest ∧ Trails rest := by
  induction after generalizing chars with
  | nil => exact ⟨[], by simp, .nil⟩
  | cons piece after ih =>
    obtain ⟨hpiece, hafter⟩ := List.forall_mem_cons.mp hafter
    obtain ⟨rest, hrest, htrails⟩ := ih piece hafter
    refine ⟨'/' :: (piece ++ rest), ?_, .slash hpiece htrails⟩
    rw [List.intercalate_cons_cons, hrest, List.append_assoc, List.singleton_append]

theorem exists_intercalate_append (before : List (List Char)) {after : List (List Char)}
    (hne : after ≠ []) :
    ∃ front, ['/'].intercalate (before ++ after) = front ++ ['/'].intercalate after ∧
      (front = [] ∨ front.getLast? = some '/') := by
  induction before with
  | nil => exact ⟨[], rfl, .inl rfl⟩
  | cons piece before ih =>
    obtain ⟨front, hfront, hends⟩ := ih
    refine ⟨piece ++ ['/'] ++ front, ?_, .inr ?_⟩
    · rw [List.cons_append,
        List.intercalate_cons_of_ne_nil (List.append_ne_nil_of_right_ne_nil _ hne), hfront,
        List.append_assoc _ front]
    · rcases hends with rfl | hends
      · simp
      · rw [List.getLast?_append, hends, Option.some_or]

/-- A path has a file name just if it ends in it. -/
theorem fileName?_eq_some_iff : p.fileName? = some name ↔ p.EndsIn name := by
  rw [fileName?_eq_some_iff_pieces]
  constructor
  · rintro ⟨hname, before, after, hpieces, hafter⟩
    have hsplit : splitOn '/' p.text.toList =
        before.map String.toList ++ name.toList :: after.map String.toList := by
      simpa [pieces, Function.comp_def] using congrArg (List.map String.toList) hpieces
    have hblank : ∀ chars ∈ after.map String.toList, chars = [] ∨ chars = ['.'] := by
      intro chars hchars
      obtain ⟨piece, hpiece, rfl⟩ := List.mem_map.mp hchars
      rcases hafter piece hpiece with rfl | rfl
      exacts [.inl rfl, .inr rfl]
    obtain ⟨rest, hrest, htrails⟩ := exists_intercalate_cons name.toList hblank
    obtain ⟨front, hfront, hends⟩ := exists_intercalate_append (before.map String.toList)
      (List.cons_ne_nil name.toList (after.map String.toList))
    exact ⟨front, rest,
      by rw [← intercalate_splitOn '/' p.text.toList, hsplit, hfront, hrest], hends, htrails,
      hname⟩
  · rintro ⟨front, rest, htext, hends, htrails, hname⟩
    obtain ⟨after, hafter, hblank⟩ := splitOn_append_trails hname.no_slash htrails
    obtain ⟨before, hbefore⟩ : ∃ before,
        splitOn '/' p.text.toList = before ++ name.toList :: after := by
      rcases hends with rfl | hends
      · exact ⟨[], by rw [htext, List.nil_append, hafter, List.nil_append]⟩
      · obtain ⟨directory, rfl⟩ := List.getLast?_eq_some_iff.mp hends
        refine ⟨splitOn '/' directory, ?_⟩
        rw [htext, List.append_assoc, List.singleton_append, splitOn_append_cons, hafter]
    refine ⟨hname, before.map String.ofList, after.map String.ofList,
      by simp [pieces, hbefore], ?_⟩
    intro piece hpiece
    obtain ⟨chars, hchars, rfl⟩ := List.mem_map.mp hpiece
    rcases hblank chars hchars with rfl | rfl
    exacts [.inl rfl, .inr rfl]

theorem no_slash_of_fileName? (h : p.fileName? = some name) : '/' ∉ name.toList := by
  obtain ⟨-, -, -, -, -, hname⟩ := fileName?_eq_some_iff.mp h
  exact hname.no_slash

theorem fileName?_join (hname : IsName name) : (dir.join name).fileName? = some name := by
  have hslash : name ≠ "/" := by
    rintro rfl
    exact hname.no_slash (by decide)
  simp [fileName?, components_join hname, hname.ne_up, hname.ne_here, hslash]

/-! ## Extensions -/

/-- A name is cut at its last dot, unless the name begins with that. -/
theorem splitName_eq_some_iff : splitName name = (stem, some ext) ↔
    stem ≠ "" ∧ '.' ∉ ext.toList ∧ name = stem ++ "." ++ ext := by
  unfold splitName
  dsimp only
  constructor
  · intro h
    split at h
    · next dot c before hdrop =>
      obtain ⟨rfl, hname⟩ := eq_append_of_dropWhile_ne hdrop
      obtain ⟨rfl, hext⟩ := Prod.mk.inj h
      obtain rfl := Option.some.inj hext
      refine ⟨by simp, ?_, ?_⟩
      · simpa using not_mem_takeWhile_ne '.' name.toList.reverse
      · apply String.toList_injective
        simpa using congrArg List.reverse hname
    · cases (Prod.mk.inj h).2
  · rintro ⟨hstem, hext, rfl⟩
    have hreverse : (stem ++ "." ++ ext).toList.reverse =
        ext.toList.reverse ++ '.' :: stem.toList.reverse := by
      simp
    have hdot : '.' ∉ ext.toList.reverse := by simpa using hext
    obtain ⟨c, before, hbefore⟩ := List.exists_cons_of_ne_nil
      (List.reverse_ne_nil_iff.mpr fun h => hstem (String.toList_eq_nil_iff.mp h))
    -- only when something is left of the dot does the name fall apart
    rw [hreverse, dropWhile_ne_append_cons _ hdot, takeWhile_ne_append_cons,
      takeWhile_ne_eq_self_iff.mpr hdot, hbefore]
    dsimp only
    rw [← hbefore]
    simp

/-- A path has an extension just if it ends in a name with that. -/
theorem extension?_eq_some_iff : p.extension? = some ext ↔ p.HasExtension ext := by
  simp only [extension?, Option.bind_eq_some_iff, fileName?_eq_some_iff]
  constructor
  · rintro ⟨name, hname, hext⟩
    obtain ⟨hstem, hdot, hparts⟩ := splitName_eq_some_iff.mp (Prod.ext rfl hext)
    exact ⟨_, hstem, hdot, hparts ▸ hname⟩
  · rintro ⟨stem, hstem, hdot, hname⟩
    refine ⟨_, hname, ?_⟩
    rw [splitName_eq_some_iff.mpr ⟨hstem, hdot, rfl⟩]

end Path

end TypedSheets
