import TypedSheets.Proofs.Verdicts

/-!
# Workbooks without a rejected sheet

What a rejected sheet leaves behind are at most names, if it is the first sheet that gives any and
only its types are at fault. The sheets after it have to have these names, and are rejected for a
header that would be in order without that sheet (`Workbook.rejections_of_misled`). This happens
just when the next sheet that gives names gives others (`Sheet.Misleads`), and then to all sheets
after it that give names. In every other case a compilation without the sheet reports the same, but
for that sheet.

Main statement: `Workbook.fault_eq_iff`.
-/

namespace TypedSheets

/-! ## Places of faults -/

theorem location_of_headerNamesFrom {fault : SheetFault} :
    ∀ {row : Row} {i : Nat} {seen : List String},
    headerNamesFrom i seen row = .error fault → fault.location ≠ none
  | [], i, seen, h => by simp [headerNamesFrom] at h
  | cell :: rest, i, seen, h => by
    cases cell with
    | blank => simp [headerNamesFrom] at h
    | string s =>
      simp only [headerNamesFrom] at h
      split at h
      · obtain rfl := Except.error.inj h
        simp
      · exact location_of_headerNamesFrom (map_eq_error_iff.mp h)
    | _ =>
      obtain rfl := Except.error.inj h
      simp

theorem location_of_typeOfCell {location : Location} {cell : Option Cell} {fault : SheetFault}
    (h : typeOfCell location cell = .error fault) : fault.location ≠ none := by
  unfold typeOfCell at h
  split at h
  · obtain rfl := Except.error.inj h
    simp
  · obtain rfl := Except.error.inj h
    simp
  · next s =>
    obtain ⟨e, -, rfl⟩ := mapError_eq_error_iff.mp h
    cases e <;> simp [SheetFault.ofTypeCell]
  · obtain rfl := Except.error.inj h
    simp

theorem location_of_typeColumnsFrom {types : Row} {fault : SheetFault} :
    ∀ {i : Nat} {names : List String},
    typeColumnsFrom types i names = .error fault → fault.location ≠ none
  | i, [], h => by simp [typeColumnsFrom] at h
  | i, name :: rest, h => by
    rw [typeColumnsFrom] at h
    cases htype : typeOfCell ⟨1, i⟩ types[i]? with
    | error e =>
      obtain rfl : e = fault := by simpa [htype] using h
      exact location_of_typeOfCell htype
    | ok type =>
      rw [htype] at h
      exact location_of_typeColumnsFrom (map_eq_error_iff.mp h)

namespace Agreement

variable {a : Agreement} {sheet : Sheet} {names expected : List String}

/-- What is wrong with the header of a sheet alone is no mismatch. -/
theorem headerNames_ne_mismatch :
    sheet.headerNames ≠ .error ⟨.headerMismatch expected names, none⟩ := by
  intro h
  unfold Sheet.headerNames at h
  split at h
  · cases h
  · exact location_of_headerNamesFrom h rfl

theorem typeColumns_ne_mismatch {types : Option Row} {given : List String} :
    typeColumns types given ≠ .error ⟨.headerMismatch expected names, none⟩ := by
  intro h
  unfold typeColumns at h
  split at h
  · simp at h
  · exact location_of_typeColumnsFrom h rfl

/-! ## What a verdict depends on -/

/-- It does not matter whether the names of a sheet are fixed before it or by itself. -/
theorem readSheet_of_names_none (h : sheet.givenNames? = some names) (hnone : a.names = none) :
    a.readSheet sheet = ({ a with names := some names } : Agreement).readSheet sheet := by
  rw [readSheet_of_given h, readSheet_of_given h]
  simp [fixNames, hnone]

/-- A header is rejected for a mismatch just when names are fixed and it gives others. -/
theorem readSheet_eq_mismatch_iff :
    (a.readSheet sheet).2 = .error ⟨.headerMismatch expected names, none⟩ ↔
      a.names = some expected ∧ sheet.givenNames? = some names ∧ expected ≠ names := by
  have hreads := a.readSheet_reads sheet
  generalize a.readSheet sheet = result at hreads
  obtain ⟨b, verdict⟩ := result
  cases hreads with
  | empty header => simp [Sheet.givenNames?, header]
  | badHeader header =>
    refine iff_of_false (fun h => ?_) (by simp [Sheet.givenNames?, header])
    exact headerNames_ne_mismatch (header.trans (congrArg _ (Except.error.inj h)))
  | otherNames header nonempty fixed differ =>
    rw [fixed, Sheet.givenNames?_eq_some_iff.mpr ⟨header, nonempty⟩]
    simp only [Except.error.injEq, SheetFault.mk.injEq, SheetFaultCause.headerMismatch.injEq,
      and_true, Option.some.injEq]
    refine ⟨?_, And.imp_right And.left⟩
    rintro ⟨rfl, rfl⟩
    exact ⟨rfl, rfl, differ⟩
  | badTypes header nonempty admits types =>
    rw [Sheet.givenNames?_eq_some_iff.mpr ⟨header, nonempty⟩]
    refine iff_of_false (fun h => ?_) ?_
    · exact typeColumns_ne_mismatch (types.trans (congrArg _ (Except.error.inj h)))
    · rintro ⟨hfixed, hgiven, hne⟩
      exact hne ((admits _ hfixed).trans (Option.some.inj hgiven))
  | otherTypes header nonempty admits =>
    rw [givenNames?_of_columns header nonempty]
    refine iff_of_false (by simp) ?_
    rintro ⟨hfixed, hgiven, hne⟩
    exact hne ((admits _ hfixed).trans (Option.some.inj hgiven))
  | columns header nonempty admits =>
    rw [givenNames?_of_columns header nonempty]
    refine iff_of_false (by simp) ?_
    rintro ⟨hfixed, hgiven, hne⟩
    exact hne ((admits _ hfixed).trans (Option.some.inj hgiven))

theorem getElem?_verdicts (a : Agreement) (sheets : List Sheet) (i : Nat) :
    (a.verdicts sheets)[i]? =
    sheets[i]?.map fun sheet => ((a.after (sheets.take i)).readSheet sheet).2 := by
  induction sheets generalizing a i with
  | nil => rfl
  | cons sheet rest ih =>
    cases i with
    | zero => rfl
    | succ i => simpa using ih (a.readSheet sheet).1 i

/-! ## Leaving a sheet out -/

/-- An agreement that holds names only does not matter for sheets of which the first to give names
gives just these. The induction is on the sheets up to that one. -/
theorem verdicts_of_same_names : ∀ {sheets : List Sheet},
    (∀ others, sheets.findSome? Sheet.givenNames? = some others → others = names) →
      Agreement.verdicts ⟨some names, none⟩ sheets = fresh.verdicts sheets
  | [], _ => rfl
  | sheet :: sheets, h => by
    rw [List.findSome?_cons] at h
    cases hgiven : sheet.givenNames? with
    | none =>
      rw [hgiven] at h
      rw [verdicts_cons, verdicts_cons, readSheet_of_not_given _ hgiven,
        readSheet_of_not_given _ hgiven]
      exact congrArg _ (verdicts_of_same_names h)
    | some others =>
      rw [hgiven] at h
      obtain rfl := h others rfl
      rw [verdicts_cons, verdicts_cons, readSheet_of_names_none hgiven (a := fresh) rfl]
      rfl

/-- If nothing is fixed, a sheet that gives names can only be rejected for its types. -/
theorem Reads.typeColumns_of_fresh {b : Agreement} {fault : SheetFault}
    (h : fresh.Reads sheet b (.error fault)) (hgiven : sheet.givenNames? = some names) :
    typeColumns (sheet.row? 1) names = .error fault := by
  obtain ⟨header, -⟩ := Sheet.givenNames?_eq_some_iff.mp hgiven
  cases h with
  | badHeader header' => cases header'.symm.trans header
  | otherNames _ _ fixed => cases fixed
  | badTypes header' _ _ types =>
    obtain rfl := Except.ok.inj (header'.symm.trans header)
    exact types
  | otherTypes _ _ _ _ fixed => cases fixed

/-- A rejected sheet leaves nothing behind, or it gives names and no sheet before gives any. -/
theorem after_rejected {before : List Sheet} {fault : SheetFault}
    (h : ((fresh.after before).readSheet sheet).2 = .error fault) :
    ((fresh.after before).readSheet sheet).1 = fresh.after before ∧
        (before.findSome? Sheet.givenNames? ≠ none ∨ sheet.givenNames? = none) ∨
      before.findSome? Sheet.givenNames? = none ∧ fresh.after before = fresh ∧
        ∃ names, sheet.givenNames? = some names ∧
          ((fresh.after before).readSheet sheet).1 = ⟨some names, none⟩ ∧
          typeColumns (sheet.row? 1) names = .error fault := by
  have hreads := (fresh.after before).readSheet_reads sheet
  have hnames := hreads.names_eq
  have htypes := hreads.types_eq
  rw [h] at hreads htypes
  rw [show declared? (.error fault) = none from rfl, Option.map_none, Option.or_none] at htypes
  cases hbefore : before.findSome? Sheet.givenNames? with
  | some expected =>
    have hfixed : (fresh.after before).names = some expected :=
      (names_after fresh before).trans hbefore
    rw [hfixed, Option.some_or] at hnames
    exact .inl ⟨eq_of_names_of_types (hnames.trans hfixed.symm) htypes,
      .inl (Option.some_ne_none expected)⟩
  | none =>
    have hfresh := after_eq_fresh hbefore
    rw [hfresh] at hreads hnames htypes ⊢
    cases hgiven : sheet.givenNames? with
    | none => exact .inl ⟨eq_of_names_of_types (hnames.trans hgiven) htypes, .inr rfl⟩
    | some names =>
      refine .inr ⟨rfl, rfl, names, rfl, ?_, hreads.typeColumns_of_fresh hgiven⟩
      exact eq_of_names_of_types (hnames.trans hgiven) htypes

end Agreement

/-! ## Removing a rejected sheet -/

/-- No sheet before `sheet` gives names, the sheet itself does, and the next sheet that gives any
gives others. -/
def Sheet.Misleads (before : List Sheet) (sheet : Sheet) (later : List Sheet) : Prop :=
  before.findSome? givenNames? = none ∧ ∃ names others, sheet.givenNames? = some names ∧
    later.findSome? givenNames? = some others ∧ others ≠ names

namespace Agreement

variable {before later : List Sheet} {sheet : Sheet} {fault : SheetFault}

/-- A sheet that gives names is not rejected alike when the names fixed before it differ, unless
both agree with its own. -/
theorem fault_ne_of_names {a b : Agreement} {t : Sheet} {expected names : List String}
    (ha : a.names = some expected) (hgiven : t.givenNames? = some names) (hne : expected ≠ names)
    (hb : b.names ≠ some expected) : fault? (a.readSheet t).2 ≠ fault? (b.readSheet t).2 := by
  intro h
  have hmismatch := readSheet_eq_mismatch_iff.mpr ⟨ha, hgiven, hne⟩
  rw [fault?_eq_some_iff.mpr hmismatch, eq_comm, fault?_eq_some_iff] at h
  exact hb (readSheet_eq_mismatch_iff.mp h).1

/-- The first result in a list is that of any part of it that reaches as far as some result. -/
theorem findSome?_take_append {α β : Type} {f : α → Option β} {xs : List α}
    {i : Nat} {x : α} {first y : β} (hx : xs[i]? = some x) (hfirst : xs.findSome? f = some first)
    (hy : f x = some y) : (xs.take i ++ [x]).findSome? f = some first := by
  obtain ⟨hlt, rfl⟩ := List.getElem?_eq_some_iff.mp hx
  have hsplit : xs = xs.take i ++ [xs[i]] ++ xs.drop (i + 1) := by simp
  have hsome : ((xs.take i ++ [xs[i]]).findSome? f).isSome :=
    List.findSome?_isSome_iff.mpr ⟨xs[i], List.mem_append_right _ List.mem_cons_self,
      by simp [hy]⟩
  obtain ⟨z, hz⟩ := Option.isSome_iff_exists.mp hsome
  rw [hsplit, List.findSome?_append, hz, Option.some_or] at hfirst
  rw [hz, hfirst]

/-- Once a sheet has fixed names that the next one to give any does not give, every sheet that gives
names is judged otherwise than without it. -/
theorem fault_ne_of_misled {names others given : List String} {sheets : List Sheet} {t : Sheet}
    (hnext : (sheets ++ [t]).findSome? Sheet.givenNames? = some others) (hne : others ≠ names)
    (hgiven : t.givenNames? = some given) :
    fault? ((Agreement.after ⟨some names, none⟩ sheets).readSheet t).2 ≠
      fault? ((fresh.after sheets).readSheet t).2 := by
  have hwith : (Agreement.after ⟨some names, none⟩ sheets).names = some names := by
    rw [names_after, Option.some_or]
  have hwithout : (fresh.after sheets).names = sheets.findSome? Sheet.givenNames? :=
    names_after fresh sheets
  rw [List.findSome?_append, List.findSome?_singleton, hgiven] at hnext
  have hfirst : sheets.findSome? Sheet.givenNames? = none ∧ given = others ∨
      sheets.findSome? Sheet.givenNames? = some others := by
    cases hsheets : sheets.findSome? Sheet.givenNames? <;> simp_all
  by_cases hsame : names = given
  · subst hsame
    obtain ⟨-, rfl⟩ | hfixed := hfirst
    · exact absurd rfl hne
    · rw [hfixed] at hwithout
      exact (fault_ne_of_names hwithout hgiven hne (by simpa [hwith] using hne.symm)).symm
  · refine fault_ne_of_names hwith hgiven hsame fun hfixed => ?_
    rcases hfirst with ⟨hnone, -⟩ | hsome
    · simp [hwithout, hnone] at hfixed
    · exact hne (by simpa [hwithout, hsome] using hfixed)

/-- A sheet that is rejected changes what is found wrong with a later sheet just when it misleads
and that sheet gives names. -/
theorem fault_later_eq_iff (h : ((fresh.after before).readSheet sheet).2 = .error fault) {i : Nat}
    {t : Sheet} (ht : later[i]? = some t) :
    (((fresh.after before).readSheet sheet).1.verdicts later)[i]?.map fault? =
        ((fresh.after before).verdicts later)[i]?.map fault? ↔
      ¬ (sheet.Misleads before later ∧ t.givenNames? ≠ none) := by
  rcases after_rejected h with ⟨hsame, hkept⟩ | ⟨hbefore, hfresh, names, hgiven, hafter, -⟩
  · rw [hsame]
    refine iff_of_true rfl fun ⟨⟨hnone, _, _, hsome, _⟩, _⟩ => ?_
    rcases hkept with hbefore | hgiven
    · exact hbefore hnone
    · cases hgiven.symm.trans hsome
  rw [hafter, hfresh]
  by_cases hmisleads : sheet.Misleads before later
  · obtain ⟨-, names', others, hgiven', hnext, hne⟩ := hmisleads
    obtain rfl : names' = names := Option.some.inj (hgiven'.symm.trans hgiven)
    rw [getElem?_verdicts, getElem?_verdicts, ht]
    simp only [Option.map_some, Option.some.injEq]
    cases ht' : t.givenNames? with
    | none => simp [readSheet_of_not_given _ ht']
    | some given =>
      exact iff_of_false (fault_ne_of_misled (findSome?_take_append ht hnext ht') hne ht')
        fun hnot => hnot
          ⟨⟨hbefore, names', others, hgiven, hnext, hne⟩, Option.some_ne_none given⟩
  · rw [verdicts_of_same_names fun others hnext => by_contra fun hne =>
      hmisleads ⟨hbefore, names, others, hgiven, hnext, hne⟩]
    exact iff_of_true rfl fun hboth => hmisleads hboth.1

end Agreement

namespace Workbook

variable {before later : List Sheet} {sheet : Sheet} {fault : SheetFault}

theorem faults_append : faults ⟨before ++ later⟩ =
    (Agreement.fresh.verdicts before).map fault? ++
      ((Agreement.fresh.after before).verdicts later).map fault? := by
  rw [faults, Agreement.verdicts_append, List.map_append]

/-- A workbook without one of its rejected sheets. The sheets before that one are judged as they
were. So are those after it, but for sheets that give names, if the rejected sheet was the first to
do so and the next one to do so gives others. It was then rejected for its types. If it was not so,
the compilation reports all it did about the other sheets. -/
theorem fault_eq_iff (before later : List Sheet) (sheet : Sheet)
    (h : (faults ⟨before ++ sheet :: later⟩)[before.length]? = some (some fault)) :
    (∀ i < before.length,
        (faults ⟨before ++ later⟩)[i]? = (faults ⟨before ++ sheet :: later⟩)[i]?) ∧
      (∀ (i : Nat) (t : Sheet), later[i]? = some t →
        ((faults ⟨before ++ later⟩)[before.length + i]? =
            (faults ⟨before ++ sheet :: later⟩)[before.length + (i + 1)]? ↔
          ¬ (sheet.Misleads before later ∧ t.givenNames? ≠ none))) ∧
      (sheet.Misleads before later → ∃ names, sheet.headerNames = .ok names ∧
        typeColumns (sheet.row? 1) names = .error fault) ∧
      (¬ sheet.Misleads before later → ∀ source entity, ∃ rs rs',
        (Compilation.run source entity ⟨before ++ sheet :: later⟩).rejections =
            rs ++ ⟨source, sheet.name, fault⟩ :: rs' ∧
          (Compilation.run source entity ⟨before ++ later⟩).rejections = rs ++ rs') := by
  have hlength : before.length = ((Agreement.fresh.verdicts before).map fault?).length := by simp
  have hfault : ((Agreement.fresh.after before).readSheet sheet).2 = .error fault := by
    rw [faults_append, hlength, List.getElem?_append_right le_rfl, Nat.sub_self] at h
    exact fault?_eq_some_iff.mp (Option.some.inj h)
  have hlater : ∀ (i : Nat) (t : Sheet), later[i]? = some t →
      ((((Agreement.fresh.after before).verdicts later).map fault?)[i]? =
          ((((Agreement.fresh.after before).readSheet sheet).1.verdicts later).map fault?)[i]? ↔
        ¬ (sheet.Misleads before later ∧ t.givenNames? ≠ none)) := fun i t ht => by
    rw [List.getElem?_map, List.getElem?_map, eq_comm, Agreement.fault_later_eq_iff hfault ht]
  refine ⟨fun i hi => ?_, fun i t ht => ?_, fun hmisleads => ?_, fun hnot source entity => ?_⟩
  · rw [faults_append, faults_append, List.getElem?_append_left (hlength ▸ hi),
      List.getElem?_append_left (hlength ▸ hi)]
  · rw [faults_append, faults_append, hlength, List.getElem?_append_right (Nat.le_add_right _ _),
      List.getElem?_append_right (Nat.le_add_right _ _), Nat.add_sub_cancel_left,
      Nat.add_sub_cancel_left]
    exact hlater i t ht
  · obtain ⟨hnone, _, _, hgiven, -⟩ := hmisleads
    rcases Agreement.after_rejected hfault with ⟨-, hbefore | hother⟩ |
      ⟨-, -, names, hgiven, -, htypes⟩
    · exact absurd hnone hbefore
    · cases hother.symm.trans hgiven
    · exact ⟨names, (Sheet.givenNames?_eq_some_iff.mp hgiven).1, htypes⟩
  · have hsame : ((Agreement.fresh.after before).verdicts later).map fault? =
        (((Agreement.fresh.after before).readSheet sheet).1.verdicts later).map fault? := by
      refine List.ext_getElem? fun i => ?_
      cases ht : later[i]? with
      | none => simp [List.getElem?_eq_none_iff.mp ht]
      | some t => exact (hlater i t ht).mpr fun hboth => hnot hboth.1
    refine ⟨rejectionsOf source before ((Agreement.fresh.verdicts before).map fault?),
      rejectionsOf source later (((Agreement.fresh.after before).verdicts later).map fault?), ?_,
      ?_⟩
    · rw [Compilation.rejections_run, faults_append, rejectionsOf_append source hlength,
        Agreement.verdicts_cons, List.map_cons, hfault, hsame]
      rfl
    · rw [Compilation.rejections_run, faults_append, rejectionsOf_append source hlength]

/-- Without its first sheet, which is rejected for a missing type, a workbook reports the rest as
before: the next sheet to give names gives the same. -/
theorem rejections_fiveSheets :
    (faults ⟨Agreement.fiveSheets⟩)[0]? = some (some ⟨.missingType, some ⟨1, 1⟩⟩) ∧
      ∃ rs rs', (Compilation.run "Test.json" "Entity_Test"
        ⟨Agreement.fiveSheets⟩).rejections =
          rs ++ ⟨"Test.json", "One", ⟨.missingType, some ⟨1, 1⟩⟩⟩ :: rs' ∧
        (Compilation.run "Test.json" "Entity_Test" ⟨Agreement.fiveSheets.drop 1⟩).rejections =
          rs ++ rs' := by
  have hfault : (faults ⟨Agreement.fiveSheets⟩)[0]? =
      some (some ⟨.missingType, some ⟨1, 1⟩⟩) := by
    decide +kernel
  obtain ⟨-, -, -, hsame⟩ := fault_eq_iff [] (Agreement.fiveSheets.drop 1) _ hfault
  refine ⟨hfault, hsame ?_ "Test.json" "Entity_Test"⟩
  rintro ⟨-, names, others, hgiven, hnext, hne⟩
  have hsheets : (Agreement.fiveSheets.drop 1).findSome? Sheet.givenNames? =
      Sheet.givenNames?
        ⟨"One", [some [.string "id", .string "kind"], some [.string "int"]]⟩ := by
    decide +kernel
  exact hne (Option.some.inj (hnext.symm.trans (hsheets.trans hgiven)))

/-- A sheet without types, and one with other names. The second is rejected because of the first,
and accepted without it. -/
theorem rejections_of_misled :
    let one : Sheet := ⟨"One", [some [.string "a"]]⟩
    let two : Sheet := ⟨"Two", [some [.string "b"], some [.string "int"]]⟩
    (Compilation.run "Test.json" "Entity_Test" ⟨[one, two]⟩).rejections =
        [⟨"Test.json", "One", ⟨.missingTypeRow, none⟩⟩,
          ⟨"Test.json", "Two", ⟨.headerMismatch ["a"] ["b"], none⟩⟩] ∧
      (Compilation.run "Test.json" "Entity_Test" ⟨[two]⟩).rejections = [] := by
  decide +kernel

end Workbook

end TypedSheets
