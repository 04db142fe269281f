import TypedSheets.Proofs.Results
import TypedSheets.Record.Load

/-!
# Loading rows

A load goes through rows and either drops those that fail or stops at the first of them.
`Policy.collect_eq_ok_iff` and `Policy.collect_eq_error_iff` say what it returns, and
`Policy.collect_filter_eq_ok_iff` and `Policy.collect_filter_eq_error` what it returns without some
of the rows. The rows of several sheets are loaded as one list, sheet after sheet
(`Loader.loadSheets_eq_collect`), so that statements about workbooks are statements about lists of
rows.
-/

namespace TypedSheets

/-- Leaving items out does not change what the others give only if nothing comes of those left
out. -/
theorem filterMap_filter_eq_iff {α β : Type} {f : α → Option β} {p : α → Bool} :
    ∀ {xs : List α},
    (xs.filter p).filterMap f = xs.filterMap f ↔ ∀ x ∈ xs, p x = false → f x = none
  | [] => by simp
  | x :: xs => by
    have ih := @filterMap_filter_eq_iff α β f p xs
    rw [List.forall_mem_cons, ← ih]
    cases hp : p x with
    | true => cases hf : f x <;> simp [hp, hf]
    | false =>
      cases hf : f x with
      | none => simp [hp, hf]
      | some y =>
        -- the filtered list gives at most as much as the rest, so not the value of the head as well
        have hlength : ((xs.filter p).filterMap f).length ≤ (xs.filterMap f).length :=
          (List.filter_sublist.filterMap f).length_le
        refine iff_of_false (fun h => ?_) (by simp)
        rw [List.filter_cons_of_neg (by simp [hp]), List.filterMap_cons_some hf] at h
        rw [h, List.length_cons] at hlength
        omega

namespace Policy

variable {α β : Type} (policy : Policy) {load : β → Except LoadError α} {rows : List β}

theorem collect_map {γ : Type} (load : β → Except LoadError α) (f : γ → β) :
    ∀ rows : List γ,
    policy.collect load (rows.map f) = policy.collect (fun row => load (f row)) rows
  | [] => rfl
  | row :: rows => by
    rw [List.map_cons, collect, collect, collect_map load f rows]

/-- Rows are loaded after others unless one of these has stopped the load. -/
theorem collect_append (load : β → Except LoadError α) (rest : List β) : ∀ rows : List β,
    policy.collect load (rows ++ rest) =
      match (policy.collect load rows).result with
      | .error e => ⟨.error e, (policy.collect load rows).events⟩
      | .ok items =>
        ⟨(policy.collect load rest).result.map (items ++ ·),
          (policy.collect load rows).events ++ (policy.collect load rest).events⟩
  | [] => by
    rw [List.nil_append]
    cases hrest : policy.collect load rest with
    | mk result events => cases result <;> simp [collect, Except.map]
  | row :: rows => by
    have ih := collect_append load rest rows
    rw [List.cons_append, collect, collect]
    cases hload : load row with
    | ok item =>
      simp only [ih]
      cases (policy.collect load rows).result with
      | error e => rfl
      | ok items => cases (policy.collect load rest).result <;> rfl
    | error e =>
      cases policy with
      | abort => rfl
      | skipRow =>
        simp only [ih]
        cases (collect .skipRow load rows).result <;> rfl

/-- A load that goes through returns what the rows give that can be loaded; if it stops at a row
that cannot, there is none. -/
theorem collect_eq_ok_iff : ∀ {rows : List β} {items : List α},
    (policy.collect load rows).result = .ok items ↔
      items = rows.filterMap (fun row => (load row).toOption) ∧
        (policy = .abort → ∀ row ∈ rows, ∃ item, load row = .ok item)
  | [], items => by simp [collect, eq_comm]
  | row :: rows, items => by
    have ih := @collect_eq_ok_iff rows
    rw [collect, List.forall_mem_cons]
    cases hload : load row with
    | ok item =>
      rw [map_eq_ok_iff, List.filterMap_cons_some (by rw [hload]; rfl)]
      simp only [ih, Except.ok.injEq, exists_eq', true_and]
      constructor
      · rintro ⟨others, ⟨rfl, hall⟩, rfl⟩
        exact ⟨rfl, hall⟩
      · rintro ⟨rfl, hall⟩
        exact ⟨_, ⟨rfl, hall⟩, rfl⟩
    | error e =>
      rw [List.filterMap_cons_none (by rw [hload]; rfl)]
      cases policy with
      | abort => simp
      | skipRow => simpa using ih

/-- A load fails with the error of the first row that cannot be loaded, if it stops there. -/
theorem collect_eq_error_iff {e : LoadError} : ∀ {rows : List β},
    (policy.collect load rows).result = .error e ↔
      policy = .abort ∧ ∃ before row after, rows = before ++ row :: after ∧
        (∀ r ∈ before, ∃ item, load r = .ok item) ∧ load row = .error e
  | [] => by simp [collect]
  | row :: rows => by
    have ih := @collect_eq_error_iff e rows
    rw [collect]
    cases hload : load row with
    | ok item =>
      rw [map_eq_error_iff, ih]
      refine and_congr_right fun _ => ⟨?_, ?_⟩
      · rintro ⟨before, bad, after, rfl, hbefore, hbad⟩
        exact ⟨row :: before, bad, after, rfl,
          List.forall_mem_cons.mpr ⟨⟨item, hload⟩, hbefore⟩, hbad⟩
      · rintro ⟨before, bad, after, hrows, hbefore, hbad⟩
        cases before with
        | nil =>
          obtain ⟨rfl, -⟩ := List.cons.inj hrows
          cases hload.symm.trans hbad
        | cons first before =>
          obtain ⟨-, rfl⟩ := List.cons.inj hrows
          exact ⟨before, bad, after, rfl, (List.forall_mem_cons.mp hbefore).2, hbad⟩
    | error e' =>
      cases policy with
      | skipRow => simpa using ih
      | abort =>
        constructor
        · intro h
          obtain rfl := Except.error.inj h
          exact ⟨rfl, [], row, rows, rfl, by simp, hload⟩
        · rintro ⟨-, before, bad, after, hrows, hbefore, hbad⟩
          cases before with
          | nil =>
            obtain ⟨rfl, -⟩ := List.cons.inj hrows
            rw [Except.error.inj (hload.symm.trans hbad)]
          | cons first before =>
            obtain ⟨rfl, -⟩ := List.cons.inj hrows
            obtain ⟨item, hitem⟩ := hbefore row List.mem_cons_self
            cases hload.symm.trans hitem

/-! ## Rows left out -/

variable {p : β → Bool}

/-- A load that goes through returns the same without some rows just when none of them can be
loaded. -/
theorem collect_filter_eq_ok_iff {items : List α}
    (h : (policy.collect load rows).result = .ok items) :
    (policy.collect load (rows.filter p)).result = .ok items ↔
      ∀ row ∈ rows, p row = false → ∃ e, load row = .error e := by
  obtain ⟨rfl, hall⟩ := (collect_eq_ok_iff policy).mp h
  have hload : policy = .abort → ∀ row ∈ rows.filter p, ∃ item, load row = .ok item :=
    fun habort row hrow => hall habort row (List.mem_filter.mp hrow).1
  rw [collect_eq_ok_iff, and_iff_left hload, eq_comm, filterMap_filter_eq_iff]
  simp only [toOption_eq_none_iff]

/-- A load that stops does so with the same error without some rows, unless it stops at one of
them. -/
theorem collect_filter_eq_error {e : LoadError} (h : (policy.collect load rows).result = .error e) :
    (policy.collect load (rows.filter p)).result = .error e ∨
      ∃ row ∈ rows, p row = false ∧ load row = .error e := by
  obtain ⟨habort, before, row, after, rfl, hbefore, hrow⟩ := (collect_eq_error_iff policy).mp h
  cases hp : p row with
  | false => exact .inr ⟨row, by simp, hp, hrow⟩
  | true =>
    refine .inl ((collect_eq_error_iff policy).mpr
      ⟨habort, before.filter p, row, after.filter p, ?_, fun r hr => ?_, hrow⟩)
    · rw [List.filter_append, List.filter_cons_of_pos hp]
    · exact hbefore r (List.mem_filter.mp hr).1

end Policy

/-! ## Several sheets -/

/-- The rows of some sheets that are no comments, with their sheets. -/
def keptRows (sheets : List Sheet) : List (Sheet × Nat × Row) :=
  sheets.flatMap fun sheet => sheet.keptRows.map fun row => (sheet, row)

theorem mem_keptRows {sheets : List Sheet} {sheet : Sheet} {row : Nat × Row} :
    (sheet, row) ∈ keptRows sheets ↔ sheet ∈ sheets ∧ row ∈ sheet.keptRows := by
  simp [keptRows]

/-- Loading sheets one after the other is loading all their rows. -/
theorem Loader.loadSheets_eq_collect {α : Type} (l : Loader)
    (load : Sheet → Nat × Row → Except LoadError α) : ∀ sheets : List Sheet,
      l.loadSheets load sheets =
        l.policy.collect (fun (sheet, row) => load sheet row) (keptRows sheets)
  | [] => rfl
  | sheet :: sheets => by
    have happend := l.policy.collect_append (fun (sheet, row) => load sheet row) (keptRows sheets)
      (sheet.keptRows.map fun row => (sheet, row))
    rw [Policy.collect_map, ← loadSheets_eq_collect l load sheets] at happend
    exact happend.symm

end TypedSheets
