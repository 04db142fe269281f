import TypedSheets.Proofs.Split
import TypedSheets.Text.QuotedList

/-!
# The grammar of quoted lists

`QuotedItems` says how a list of items is written, with blank characters around the commas. These
are the texts that are read as a list (`unquoteItems?_eq_some_iff`), but for blank characters around
the whole (`unquoteList?_eq_some_iff`). What `quoteList` writes is one of them, and begins and ends
with a double quote, so that dropping blank characters around it changes nothing (`trim_quoteList`).

Main statement: `unquoteStrings?_grammar`.
-/

namespace TypedSheets.Text

/-! ## Trimming -/

theorem trim_cons {c : Char} (h : isBlank c = true) (s : List Char) : trim (c :: s) = trim s := by
  rw [trim, trimStart, List.dropWhile_cons_of_pos h]
  rfl

theorem trimStart_eq_self {s : List Char} (h : ∀ c ∈ s.head?, isBlank c = false) :
    trimStart s = s := by
  match s, h with
  | [], _ => rfl
  | c :: s, h =>
    have hc : ¬isBlank c = true := by simp [h c rfl]
    rw [trimStart, List.dropWhile_cons_of_neg hc]

/-- A text that neither begins nor ends with a blank character is left alone. -/
theorem trim_eq_self {s : List Char} (hhead : ∀ c ∈ s.head?, isBlank c = false)
    (hlast : ∀ c ∈ s.getLast?, isBlank c = false) : trim s = s := by
  have hreverse : trimStart s.reverse = s.reverse :=
    trimStart_eq_self fun c hc => hlast c (by rwa [List.head?_reverse] at hc)
  rw [trim, trimStart_eq_self hhead, trimEnd]
  rw [trimStart] at hreverse
  rw [hreverse, List.reverse_reverse]

theorem trim_of_not_blank {s : List Char} (h : ∀ c ∈ s, isBlank c = false) : trim s = s :=
  trim_eq_self (fun c hc => h c (List.mem_of_mem_head? hc))
    fun c hc => h c (List.mem_of_getLast? hc)

/-! ## Written lists -/

theorem exists_quoteList (item : List Char) :
    ∀ items : List (List Char), ∃ s, quoteList (item :: items) = '"' :: (s ++ ['"'])
  | [] => ⟨item, rfl⟩
  | next :: rest => by
    obtain ⟨s, hs⟩ := exists_quoteList next rest
    exact ⟨item ++ '"' :: ',' :: ' ' :: '"' :: s, by simp [quoteList, inQuotes, hs]⟩

theorem trim_quoteList (items : List (List Char)) : trim (quoteList items) = quoteList items := by
  cases items with
  | nil => rfl
  | cons item items =>
    obtain ⟨s, hs⟩ := exists_quoteList item items
    rw [hs]
    have hquote : isBlank '"' = false := by decide
    exact trim_eq_self (by simpa using hquote) (by simpa [List.getLast?_cons] using hquote)

theorem mem_quoteList {c : Char} : ∀ {items : List (List Char)}, c ∈ quoteList items →
    c ∈ ['"', ',', ' '] ∨ ∃ item ∈ items, c ∈ item
  | [item], h => by
    simp only [quoteList, inQuotes, List.mem_cons, List.mem_append, List.not_mem_nil, or_false] at h
    rcases h with rfl | h | rfl
    · simp
    · exact .inr ⟨item, List.mem_cons_self, h⟩
    · simp
  | item :: next :: rest, h => by
    simp only [quoteList, inQuotes, List.mem_cons, List.mem_append, List.not_mem_nil, or_false] at h
    rcases h with (rfl | h | rfl) | rfl | rfl | h
    · simp
    · exact .inr ⟨item, List.mem_cons_self, h⟩
    · simp
    · simp
    · simp
    · rcases mem_quoteList h with h | ⟨other, hother, h⟩
      · exact .inl h
      · exact .inr ⟨other, List.mem_cons_of_mem _ hother, h⟩

/-! ## Reading -/

theorem readQuoted?_eq_some_iff {s item rest : List Char} :
    readQuoted? s = some (item, rest) ↔ '"' ∉ item ∧ s = inQuotes item ++ rest := by
  constructor
  · intro h
    unfold readQuoted? at h
    split at h
    · next body =>
      split at h
      · contradiction
      · next c after hbody =>
        obtain ⟨rfl, hcut⟩ := eq_append_of_dropWhile_ne hbody
        obtain ⟨rfl, rfl⟩ : body.takeWhile (· ≠ '"') = item ∧ after = rest := by
          simpa using h
        refine ⟨not_mem_takeWhile_ne '"' body, ?_⟩
        rw [inQuotes, List.cons_append, List.append_assoc]
        exact congrArg ('"' :: ·) hcut
    · contradiction
  · rintro ⟨hitem, rfl⟩
    have hbody : item ++ ['"'] ++ rest = item ++ '"' :: rest :=
      List.append_cons item '"' rest ▸ rfl
    rw [inQuotes, List.cons_append, hbody, readQuoted?, dropWhile_ne_append_cons rest hitem]
    dsimp only
    rw [takeWhile_ne_append_cons, takeWhile_ne_eq_self_iff.mpr hitem]

/-- An item is read from the start of a list, and the list goes on behind a comma. -/
theorem unquoteItems?_inQuotes {item : List Char} (h : '"' ∉ item) (rest : List Char) :
    unquoteItems? (inQuotes item ++ rest) =
      match trimStart rest with
      | [] => some [item]
      | ',' :: after => (unquoteItems? (trimStart after)).map (item :: ·)
      | _ => none := by
  have hread := readQuoted?_eq_some_iff.mpr ⟨h, @rfl _ (inQuotes item ++ rest)⟩
  rw [unquoteItems?]
  split
  · next hnone => rw [hread] at hnone; contradiction
  · next item' rest' hsome =>
    obtain ⟨rfl, rfl⟩ : item = item' ∧ rest = rest' := by
      rwa [hread, Option.some.injEq, Prod.mk.injEq] at hsome
    split <;> simp_all

theorem trimStart_blanks_append {blanks : List Char} (h : ∀ c ∈ blanks, isBlank c = true)
    (s : List Char) : trimStart (blanks ++ s) = trimStart s :=
  List.dropWhile_append_of_pos h

/-- The blank characters before a text are dropped. -/
theorem exists_append_trimStart (s : List Char) :
    ∃ blanks, (∀ c ∈ blanks, isBlank c = true) ∧ s = blanks ++ trimStart s :=
  ⟨s.takeWhile isBlank, fun _ => List.mem_takeWhile_imp, List.takeWhile_append_dropWhile.symm⟩

/-- How a list of at least one item is written: every item in double quotes, and commas between the
items, each with blank characters around it. -/
inductive QuotedItems : List (List Char) → List Char → Prop
  | one (item : List Char) : QuotedItems [item] (inQuotes item)
  | more {items : List (List Char)} {before after s : List Char} (item : List Char)
      (hbefore : ∀ c ∈ before, isBlank c = true) (hafter : ∀ c ∈ after, isBlank c = true)
      (hrest : QuotedItems items s) :
      QuotedItems (item :: items) (inQuotes item ++ (before ++ ',' :: (after ++ s)))

theorem QuotedItems.ne_nil {items : List (List Char)} {s : List Char} (h : QuotedItems items s) :
    s ≠ [] := by
  cases h <;> exact List.cons_ne_nil _ _

theorem QuotedItems.trimStart_append {items : List (List Char)} {s : List Char}
    (h : QuotedItems items s) (rest : List Char) : trimStart (s ++ rest) = s ++ rest := by
  cases h <;> rfl

theorem quotedItems_of_unquoteItems? {s : List Char} {items : List (List Char)}
    (h : unquoteItems? s = some items) : (∀ item ∈ items, '"' ∉ item) ∧
      ∃ written blanks, QuotedItems items written ∧ (∀ c ∈ blanks, isBlank c = true) ∧
        s = written ++ blanks := by
  fun_induction unquoteItems? s generalizing items with
  | case1 s hread => contradiction
  | case2 s item rest hread hrest =>
    obtain ⟨hitem, rfl⟩ := readQuoted?_eq_some_iff.mp hread
    obtain rfl := Option.some.inj h
    exact ⟨by simpa using hitem, _, rest, .one item, List.dropWhile_eq_nil_iff.mp hrest, rfl⟩
  | case3 s item rest hread after hrest _ ih =>
    obtain ⟨hitem, rfl⟩ := readQuoted?_eq_some_iff.mp hread
    obtain ⟨items, hitems, rfl⟩ := Option.map_eq_some_iff.mp h
    obtain ⟨hquotes, written, blanks, hwritten, hblanks, hafter⟩ := ih hitems
    obtain ⟨first, hfirst, hrest'⟩ := exists_append_trimStart rest
    obtain ⟨second, hsecond, hafter'⟩ := exists_append_trimStart after
    refine ⟨List.forall_mem_cons.mpr ⟨hitem, hquotes⟩, _, blanks,
      .more item hfirst hsecond hwritten, hblanks, ?_⟩
    rw [hrest', hrest, hafter', hafter]
    simp only [List.append_assoc, List.cons_append]
  | case4 => contradiction

theorem QuotedItems.unquoteItems?_eq {items : List (List Char)} {written blanks : List Char}
    (h : QuotedItems items written) (hquotes : ∀ item ∈ items, '"' ∉ item)
    (hblanks : ∀ c ∈ blanks, isBlank c = true) :
    unquoteItems? (written ++ blanks) = some items := by
  induction h with
  | one item =>
    have hrest : trimStart blanks = [] := List.dropWhile_eq_nil_iff.mpr hblanks
    rw [unquoteItems?_inQuotes (hquotes item List.mem_cons_self), hrest]
  | @more items before after s item hbefore hafter hrest ih =>
    obtain ⟨hitem, hitems⟩ := List.forall_mem_cons.mp hquotes
    have hcomma : trimStart (before ++ ',' :: (after ++ s) ++ blanks) =
        ',' :: (after ++ (s ++ blanks)) := by
      rw [List.append_assoc, trimStart_blanks_append hbefore, List.cons_append, List.append_assoc]
      rfl
    have hnext : trimStart (after ++ (s ++ blanks)) = s ++ blanks := by
      rw [trimStart_blanks_append hafter, hrest.trimStart_append]
    rw [List.append_assoc, unquoteItems?_inQuotes hitem, hcomma]
    change (unquoteItems? (trimStart (after ++ (s ++ blanks)))).map (item :: ·) = _
    rw [hnext, ih hitems]
    rfl

/-- The texts that are read as a list of at least one item. -/
theorem unquoteItems?_eq_some_iff {s : List Char} {items : List (List Char)} :
    unquoteItems? s = some items ↔ (∀ item ∈ items, '"' ∉ item) ∧
      ∃ written blanks, QuotedItems items written ∧ (∀ c ∈ blanks, isBlank c = true) ∧
        s = written ++ blanks := by
  refine ⟨quotedItems_of_unquoteItems?, ?_⟩
  rintro ⟨hquotes, written, blanks, hwritten, hblanks, rfl⟩
  exact hwritten.unquoteItems?_eq hquotes hblanks

theorem not_isBlank_of_getLast?_trim {s : List Char} {c : Char} (h : (trim s).getLast? = some c) :
    isBlank c = false := by
  rw [trim, trimEnd, List.getLast?_reverse] at h
  have hhead := List.head?_dropWhile_not isBlank (trimStart s).reverse
  rw [h] at hhead
  simpa using hhead

theorem unquoteList?_eq_some_iff {s : List Char} {items : List (List Char)} :
    unquoteList? s = some items ↔ (∀ item ∈ items, '"' ∉ item) ∧
      (trim s = [] ∧ items = [] ∨ QuotedItems items (trim s)) := by
  have hlast := @not_isBlank_of_getLast?_trim s
  unfold unquoteList?
  generalize trim s = t at hlast
  cases t with
  | nil =>
    rw [Option.some.injEq]
    constructor
    · rintro rfl
      exact ⟨by simp, .inl ⟨rfl, rfl⟩⟩
    · rintro ⟨-, ⟨-, rfl⟩ | hwritten⟩
      · rfl
      · exact absurd rfl hwritten.ne_nil
  | cons c t =>
    dsimp only
    rw [unquoteItems?_eq_some_iff]
    refine and_congr_right fun _ => ⟨?_, ?_⟩
    · rintro ⟨written, blanks, hwritten, hblanks, heq⟩
      -- nothing blank is left at the end
      have hnil : blanks = [] := by
        refine of_not_not fun hne => ?_
        have hget := List.getLast?_eq_some_getLast hne
        have hblank := hblanks _ (List.getLast_mem hne)
        rw [heq, List.getLast?_append, hget] at hlast
        rw [hlast rfl] at hblank
        contradiction
      rw [heq, hnil, List.append_nil]
      exact .inr hwritten
    · rintro (⟨hnil, -⟩ | hwritten)
      · contradiction
      · exact ⟨_, [], hwritten, by simp, (List.append_nil _).symm⟩

/-- What is written is such a list. -/
theorem quotedItems_quoteList (item : List Char) : ∀ items : List (List Char),
    QuotedItems (item :: items) (quoteList (item :: items))
  | [] => .one item
  | next :: rest =>
    @QuotedItems.more _ [] [' '] _ item nofun (List.forall_mem_singleton.mpr rfl)
      (quotedItems_quoteList next rest)

/-- A written list is read back, if no item has a double quote. -/
theorem unquoteList?_quoteList {items : List (List Char)} (h : ∀ item ∈ items, '"' ∉ item) :
    unquoteList? (quoteList items) = some items := by
  rw [unquoteList?_eq_some_iff, trim_quoteList]
  cases items with
  | nil => exact ⟨h, .inl ⟨rfl, rfl⟩⟩
  | cons item items => exact ⟨h, .inr (quotedItems_quoteList item items)⟩

theorem unquoteStrings?_eq_some_iff {t : String} {items : List String} :
    unquoteStrings? t = some items ↔ unquoteList? t.toList = some (items.map String.toList) := by
  rw [unquoteStrings?, Option.map_eq_some_iff]
  constructor
  · rintro ⟨chars, hchars, rfl⟩
    rw [hchars, List.map_map]
    simp [Function.comp_def]
  · exact fun h => ⟨_, h, by simp [Function.comp_def]⟩

theorem unquoteStrings?_quoteStrings {items : List String}
    (h : ∀ item ∈ items, '"' ∉ item.toList) :
    unquoteStrings? (quoteStrings items) = some items := by
  rw [unquoteStrings?_eq_some_iff, quoteStrings, String.toList_ofList]
  exact unquoteList?_quoteList (List.forall_mem_map.mpr h)

/-- A text is read as a list of items just when no item has a double quote and the text, but for the
blank characters around it, is empty and there is no item, or is the items in double quotes with
single commas between them, each with blank characters around it or without. So the items that are
read back as they were written are those without a double quote. -/
theorem unquoteStrings?_grammar (t : String) (items : List String) :
    (unquoteStrings? t = some items ↔ (∀ item ∈ items, '"' ∉ item.toList) ∧
      (trim t.toList = [] ∧ items = [] ∨
        QuotedItems (items.map String.toList) (trim t.toList))) ∧
    (unquoteStrings? (quoteStrings items) = some items ↔
      ∀ item ∈ items, '"' ∉ item.toList) := by
  have hread : ∀ t, unquoteStrings? t = some items ↔
      (∀ item ∈ items, '"' ∉ item.toList) ∧
      (trim t.toList = [] ∧ items = [] ∨
        QuotedItems (items.map String.toList) (trim t.toList)) := by
    intro t
    rw [unquoteStrings?_eq_some_iff, unquoteList?_eq_some_iff, List.forall_mem_map,
      List.map_eq_nil_iff]
  exact ⟨hread t, fun h => ((hread _).mp h).1, unquoteStrings?_quoteStrings⟩

/-- Blanks are passed over around the commas and belong to the items inside the quotes. -/
example : unquoteStrings? " \"id\"\t,\u3000\" a\",\"\"\n" = some ["id", " a", ""] ∧
    unquoteStrings? "\"id\",," = none := by
  decide +kernel

end TypedSheets.Text
