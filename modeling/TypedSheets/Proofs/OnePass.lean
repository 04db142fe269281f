import TypedSheets.Proofs.Template

/-!
# Templates in one pass

What filling a template means, said without the way it is done: the template is cut into pieces from
the left, one character at a time (`Cuts`). Where placeholders begin, the first of them in the list
is a piece, and the next piece begins behind it; elsewhere the character is a piece. The
placeholders alone decide where the cuts are, so that a value can bring in no placeholder.

Main statement: `fillString_onePass`.
-/

namespace TypedSheets.Text

/-- A piece of a template: a character that stays, or the placeholder at a position of the list. -/
inductive Piece
  | char (c : Char)
  | key (i : Nat)
  deriving DecidableEq, Repr

/-- What stands in the place of a piece. -/
def Piece.text (values : List (List Char)) : Piece → List Char
  | .char c => [c]
  | .key i => values.getD i []

/-- A word that starts with a hash sign begins a text. -/
def Begins (key text : List Char) : Prop :=
  key.head? = some '#' ∧ key <+: text

/-- The word at a position of a list is the first that begins a text. -/
structure FirstKey (keys : List (List Char)) (i : Nat) (key text : List Char) : Prop where
  get : keys[i]? = some key
  begins : Begins key text
  first : ∀ other ∈ keys.take i, ¬Begins other text

/-- A template is cut into pieces from the left. -/
inductive Cuts (keys : List (List Char)) : List Char → List Piece → Prop
  | done : Cuts keys [] []
  | key {text : List Char} {i : Nat} {key : List Char} {pieces : List Piece}
      (first : FirstKey keys i key text)
      (rest : Cuts keys (text.drop key.length) pieces) : Cuts keys text (.key i :: pieces)
  | char {c : Char} {text : List Char} {pieces : List Piece}
      (none : ∀ key ∈ keys, ¬Begins key (c :: text))
      (rest : Cuts keys text pieces) : Cuts keys (c :: text) (.char c :: pieces)

variable {keys : List (List Char)} {text key : List Char}

theorem not_begins_nil : ¬Begins key [] := by
  rintro ⟨hhash, hkey⟩
  rw [List.prefix_nil.mp hkey] at hhash
  contradiction

theorem not_begins_cons {c : Char} (hc : c ≠ '#') : ¬Begins key (c :: text) := by
  rintro ⟨hhash, hkey⟩
  obtain ⟨key, rfl⟩ := List.head?_eq_some_iff.mp hhash
  exact hc (List.cons_prefix_cons.mp hkey).1.symm

theorem begins_iff (hkey : key ≠ []) : Begins key ('#' :: text) ↔ key <+: '#' :: text := by
  refine ⟨And.right, fun hprefix => ⟨?_, hprefix⟩⟩
  obtain ⟨c, key, rfl⟩ := List.exists_cons_of_ne_nil hkey
  rw [(List.cons_prefix_cons.mp hprefix).1]
  rfl

theorem FirstKey.mem {i : Nat} (h : FirstKey keys i key text) : key ∈ keys :=
  List.mem_of_getElem? h.get

theorem FirstKey.unique {i j : Nat} {other : List Char} (h : FirstKey keys i key text)
    (h' : FirstKey keys j other text) : i = j := by
  have hle : ∀ {i j : Nat} {key other : List Char}, FirstKey keys i key text →
      FirstKey keys j other text → i ≤ j := by
    intro i j key other h h'
    refine Nat.le_of_not_lt fun hlt => h.first other ?_ h'.begins
    exact List.mem_of_getElem? ((List.getElem?_take_of_lt hlt).trans h'.get)
  exact Nat.le_antisymm (hle h h') (hle h' h)

/-- There is one way to cut a template. -/
theorem Cuts.unique {pieces others : List Piece} (h : Cuts keys text pieces)
    (h' : Cuts keys text others) : others = pieces := by
  induction h generalizing others with
  | done =>
    cases h' with
    | done => rfl
    | key first _ => exact absurd first.begins not_begins_nil
  | key first _ ih =>
    cases h' with
    | done => exact absurd first.begins not_begins_nil
    | key first' rest' =>
      obtain rfl := first.unique first'
      obtain rfl := Option.some.inj (first.get.symm.trans first'.get)
      rw [ih rest']
    | char none _ => exact absurd first.begins (none _ first.mem)
  | char none _ ih =>
    cases h' with
    | key first _ => exact absurd first.begins (none _ first.mem)
    | char _ rest' => rw [ih rest']

/-! ## Filling -/

variable {subs : List (List Char × List Char)} {value : List Char}

theorem firstKey_of_find? (hkeys : ∀ sub ∈ subs, sub.1 ≠ [])
    (h : (subs.find? fun sub => sub.1.isPrefixOf ('#' :: text)) = some (key, value)) :
    ∃ i, FirstKey (subs.map Prod.fst) i key ('#' :: text) ∧
      (subs.map Prod.snd).getD i [] = value := by
  obtain ⟨hkey, i, hi, hsub, hfirst⟩ := List.find?_eq_some_iff_getElem.mp h
  have hget : subs[i]? = some (key, value) := by rw [List.getElem?_eq_getElem hi, hsub]
  refine ⟨i, ⟨by simp [hget], ?_, fun other hother hbegins => ?_⟩,
    by simp [List.getD, hget]⟩
  · exact (begins_iff (hkeys _ (List.mem_of_getElem? hget))).mpr
      (List.isPrefixOf_iff_prefix.mp hkey)
  · obtain ⟨j, hj, rfl⟩ := List.getElem_of_mem hother
    rw [List.length_take, Nat.lt_min] at hj
    have hnot := hfirst j hj.1
    rw [List.getElem_take, List.getElem_map] at hbegins
    rw [List.isPrefixOf_iff_prefix.mpr hbegins.2] at hnot
    contradiction

/-- A template is cut somehow, and filling it puts the pieces together. -/
theorem exists_cuts (hkeys : ∀ sub ∈ subs, sub.1 ≠ []) : ∀ text : List Char, ∃ pieces,
    Cuts (subs.map Prod.fst) text pieces ∧
      fill subs text = pieces.flatMap (Piece.text (subs.map Prod.snd))
  | [] => ⟨[], .done, fill_nil⟩
  | c :: text => by
    obtain ⟨pieces, hcuts, hfill⟩ := exists_cuts hkeys text
    by_cases hc : c = '#'
    · subst hc
      rw [fill_hash]
      split
      · next key value hsome =>
        obtain ⟨i, hfirst, hvalue⟩ := firstKey_of_find? hkeys hsome
        obtain ⟨pieces, hcuts, hfill⟩ := exists_cuts hkeys (text.drop (key.length - 1))
        have hdrop : ('#' :: text).drop key.length = text.drop (key.length - 1) := by
          obtain ⟨key, rfl⟩ := List.head?_eq_some_iff.mp hfirst.begins.1
          rfl
        refine ⟨.key i :: pieces, .key hfirst (hdrop ▸ hcuts), ?_⟩
        rw [hfill, List.flatMap_cons, Piece.text, hvalue]
      · next hnone =>
        refine ⟨.char '#' :: pieces, .char ?_ hcuts, by rw [hfill]; rfl⟩
        refine List.forall_mem_map.mpr fun sub hsub hbegins => ?_
        exact List.find?_eq_none.mp hnone sub hsub (List.isPrefixOf_iff_prefix.mpr hbegins.2)
    · exact ⟨.char c :: pieces, .char (fun _ _ => not_begins_cons hc) hcuts,
        by rw [fill_cons hc, hfill]; rfl⟩
termination_by text => text.length

/-- Filling a template walks it once from the left: there is one way to cut it into placeholders and
other characters, which does not depend on the values, and the result is the pieces with the values
in the place of the placeholders. So a template in which no placeholder stands is left as it is, and
two templates are filled on their own if no placeholder stands across the boundary between them. -/
theorem fillString_onePass {subs : List (String × String)}
    (hkeys : ∀ sub ∈ subs, sub.1 ≠ "") :
    (∀ template : String, ∃ pieces,
      (∀ others, Cuts (subs.map (·.1.toList)) template.toList others ↔ others = pieces) ∧
        (fillString subs template).toList =
          pieces.flatMap (Piece.text (subs.map (·.2.toList)))) ∧
    (∀ template : String,
      (∀ sub ∈ subs, sub.1.toList.head? = some '#' → ¬sub.1.toList <:+: template.toList) →
        fillString subs template = template) ∧
    (∀ s t : String,
      (∀ sub ∈ subs, sub.1.toList.head? = some '#' →
        ¬Straddles sub.1.toList s.toList t.toList) →
        fillString subs (s ++ t) = fillString subs s ++ fillString subs t) := by
  have hne : ∀ sub ∈ subs.map fun sub => (sub.1.toList, sub.2.toList), sub.1 ≠ [] :=
    List.forall_mem_map.mpr fun sub hsub hkey => hkeys sub hsub (String.toList_eq_nil_iff.mp hkey)
  refine ⟨fun template => ?_, fun template h => ?_, fun s t h => ?_⟩
  · obtain ⟨pieces, hcuts, hfill⟩ := exists_cuts hne template.toList
    rw [List.map_map] at hcuts
    rw [List.map_map] at hfill
    exact ⟨pieces, fun others => ⟨hcuts.unique, fun heq => heq ▸ hcuts⟩,
      (toList_fillString template).trans hfill⟩
  · rw [← String.toList_inj, toList_fillString]
    exact fill_eq_self hne (List.forall_mem_map.mpr h)
  · rw [← String.toList_inj, String.toList_append, toList_fillString, toList_fillString,
      toList_fillString, String.toList_append]
    exact fill_append (List.forall_mem_map.mpr h)

/-- Placeholders of which one begins another, with a value that spells one, and a key that is
none. -/
def overlapping : List (String × String) :=
  [("#A", "#AB#"), ("#AB#", "x"), ("é#", "y")]

theorem fillString_overlapping :
    (∀ sub ∈ overlapping, sub.1 ≠ "") ∧
    (∃ pieces, (∀ others,
        Cuts (overlapping.map (·.1.toList)) "é##AB#c#".toList others ↔ others = pieces) ∧
      (fillString overlapping "é##AB#c#").toList =
        pieces.flatMap (Piece.text (overlapping.map (·.2.toList)))) ∧
    fillString overlapping "é##AB#c#" = "é##AB#B#c#" ∧
    fillString overlapping "é# #B" = "é# #B" ∧
    fillString overlapping ("é#" ++ "#AB#c#") =
      fillString overlapping "é#" ++ fillString overlapping "#AB#c#" := by
  have hkeys : ∀ sub ∈ overlapping, sub.1 ≠ "" := by decide
  obtain ⟨hcuts, hself, happend⟩ := fillString_onePass hkeys
  exact ⟨hkeys, hcuts _,
    by decide +kernel, hself _ (by decide +kernel), happend _ _ (by decide +kernel)⟩

end TypedSheets.Text
