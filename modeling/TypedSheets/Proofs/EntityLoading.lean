import Mathlib.Data.List.Nodup
import TypedSheets.Proofs.DataFile

/-!
# Entities and records

A row is loaded into an entity as it is loaded into a record, and then the members of the entity are
set one after the other (`Binding.calls`, `EntityType.setAll`). The row is lost when its cells do
not give a record or when the entity refuses a value (`Loader.loadRowInto_eq_error_iff`), and both
faults are met in the order of the rows. Columns of different names go to different members if
letter case cannot make two names one (`Binding.nodup_slots`).

Main statement: `Loader.loadWorkbookInto_agrees`.
-/

namespace TypedSheets

/-- A member is set to the value of a column. -/
structure MemberCall where
  column : Nat
  slot : Nat
  value : Value
  deriving DecidableEq

namespace Binding

variable (b : Binding)

/-- The members that are set to the values of the columns from `i` on, in order of the columns. -/
def callsFrom (i : Nat) (values : List Value) : List MemberCall :=
  (values.zipIdx i).filterMap fun (value, column) => (b.slot? column).map (⟨column, ·, value⟩)

/-- The members that are set to the values of a row, in order of the columns. -/
def calls (values : List Value) : List MemberCall :=
  b.callsFrom 0 values

variable {b} {i : Nat}

theorem callsFrom_cons_none (h : b.slot? i = none) (value : Value) (rest : List Value) :
    b.callsFrom i (value :: rest) = b.callsFrom (i + 1) rest := by
  simp [callsFrom, List.zipIdx_cons, h]

theorem callsFrom_cons_some {slot : Nat} (h : b.slot? i = some slot) (value : Value)
    (rest : List Value) :
    b.callsFrom i (value :: rest) = ⟨i, slot, value⟩ :: b.callsFrom (i + 1) rest := by
  simp [callsFrom, List.zipIdx_cons, h]

/-- Only columns with a value set a member. -/
theorem column_lt_of_mem_calls {values : List Value} {call : MemberCall}
    (h : call ∈ b.calls values) :
    call.column < values.length ∧ b.slot? call.column = some call.slot := by
  obtain ⟨⟨value, column⟩, hmem, hcall⟩ := List.mem_filterMap.mp h
  obtain ⟨slot, hslot, rfl⟩ := Option.map_eq_some_iff.mp hcall
  have hlt := List.snd_lt_of_mem_zipIdx hmem
  exact ⟨by simpa using hlt, hslot⟩

end Binding

namespace EntityType

variable {α : Type} (t : EntityType α)

/-- Sets members one after the other. -/
def setAll (entity : α) (calls : List MemberCall) : Except String α :=
  calls.foldlM (fun entity call => t.setMember entity call.slot call.value) entity

/-- The members that are set to the values of a record, in order of the columns. -/
def calls (s : TableSchema) (r : Record) : List MemberCall :=
  (Binding.forMembers s t.memberNames).calls r.values

/-- The entity made of the values of a record. -/
def ofRecord (s : TableSchema) (r : Record) : Except String α :=
  t.setAll t.initial (t.calls s r)

/-- A call is the first of some that the entity refuses. -/
def Refuses (entity : α) (calls : List MemberCall) (call : MemberCall) (reason : String) : Prop :=
  ∃ done rest reached, calls = done ++ call :: rest ∧ t.setAll entity done = .ok reached ∧
    t.setMember reached call.slot call.value = .error reason

variable {t} {entity next : α} {calls : List MemberCall} (call : MemberCall)

theorem setAll_cons (h : t.setMember entity call.slot call.value = .ok next) :
    t.setAll entity (call :: calls) = t.setAll next calls := by
  rw [setAll, List.foldlM_cons, h]
  rfl

theorem setAll_cons_error {reason : String}
    (h : t.setMember entity call.slot call.value = .error reason) :
    t.setAll entity (call :: calls) = .error reason := by
  rw [setAll, List.foldlM_cons, h]
  rfl

theorem refuses_cons (h : t.setMember entity call.slot call.value = .ok next) {other : MemberCall}
    {reason : String} :
    t.Refuses entity (call :: calls) other reason ↔ t.Refuses next calls other reason := by
  constructor
  · rintro ⟨done, rest, reached, hcalls, hdone, hrefused⟩
    cases done with
    | nil =>
      obtain ⟨rfl, -⟩ := List.cons.inj hcalls
      obtain rfl := Except.ok.inj hdone
      cases h.symm.trans hrefused
    | cons first done =>
      obtain ⟨rfl, rfl⟩ := List.cons.inj hcalls
      exact ⟨done, rest, reached, rfl, (setAll_cons call h).symm.trans hdone, hrefused⟩
  · rintro ⟨done, rest, reached, rfl, hdone, hrefused⟩
    exact ⟨call :: done, rest, reached, rfl, (setAll_cons call h).trans hdone, hrefused⟩

theorem refuses_cons_error {reason : String}
    (h : t.setMember entity call.slot call.value = .error reason) {other : MemberCall}
    {reason' : String} :
    t.Refuses entity (call :: calls) other reason' ↔ other = call ∧ reason' = reason := by
  constructor
  · rintro ⟨done, rest, reached, hcalls, hdone, hrefused⟩
    cases done with
    | nil =>
      obtain ⟨rfl, -⟩ := List.cons.inj hcalls
      obtain rfl := Except.ok.inj hdone
      exact ⟨rfl, Except.error.inj (hrefused.symm.trans h)⟩
    | cons first done =>
      obtain ⟨rfl, -⟩ := List.cons.inj hcalls
      cases (setAll_cons_error _ h).symm.trans hdone
  · rintro ⟨rfl, rfl⟩
    exact ⟨[], calls, entity, rfl, rfl, h⟩

end EntityType

/-! ## Rows -/

section

variable {α : Type} {t : EntityType α} {b : Binding}

theorem bindValues_eq_ok_iff {entity' : α} : ∀ {values : List Value} {entity : α} {i : Nat},
    bindValues t b entity i values = .ok entity' ↔
      t.setAll entity (b.callsFrom i values) = .ok entity'
  | [], entity, i => by
    simp [bindValues, Binding.callsFrom, EntityType.setAll, pure, Except.pure]
  | value :: rest, entity, i => by
    rw [bindValues]
    cases hslot : b.slot? i with
    | none =>
      rw [Binding.callsFrom_cons_none hslot]
      exact bindValues_eq_ok_iff
    | some slot =>
      rw [Binding.callsFrom_cons_some hslot]
      cases hset : t.setMember entity slot value with
      | error reason => simp [EntityType.setAll_cons_error ⟨i, slot, value⟩ hset, hset]
      | ok next =>
        rw [EntityType.setAll_cons ⟨i, slot, value⟩ hset]
        simp only [hset]
        exact bindValues_eq_ok_iff

theorem bindValues_eq_error_iff {column : Nat} {reason : String} :
    ∀ {values : List Value} {entity : α} {i : Nat},
      bindValues t b entity i values = .error (column, reason) ↔
        ∃ call, call.column = column ∧ t.Refuses entity (b.callsFrom i values) call reason
  | [], entity, i => by
    simp [bindValues, Binding.callsFrom, EntityType.Refuses]
  | value :: rest, entity, i => by
    rw [bindValues]
    cases hslot : b.slot? i with
    | none =>
      rw [Binding.callsFrom_cons_none hslot]
      exact bindValues_eq_error_iff
    | some slot =>
      rw [Binding.callsFrom_cons_some hslot]
      cases hset : t.setMember entity slot value with
      | error reason' =>
        simp only [hset, EntityType.refuses_cons_error ⟨i, slot, value⟩ hset]
        simp [eq_comm]
      | ok next =>
        simp only [hset, EntityType.refuses_cons ⟨i, slot, value⟩ hset]
        exact bindValues_eq_error_iff

namespace Loader

variable {l : Loader} {sheet : Sheet} {row : Nat × Row}

/-- A row is lost at a value that an entity refuses; the error says where it stands and why it is
refused. -/
def RefusedAt (l : Loader) (t : EntityType α) (sheet : Sheet) (row : Nat × Row)
    (e : LoadError) : Prop :=
  ∃ record call reason name, l.loadRow sheet row = .ok record ∧
    t.Refuses t.initial (t.calls l.schema record) call reason ∧
      l.schema.names[call.column]? = some name ∧
    e = ⟨l.source, .member ⟨sheet.name, ⟨row.1, call.column⟩, name⟩ reason⟩

theorem loadRowInto_eq_ok_iff {entity : α} : l.loadRowInto t sheet row = .ok entity ↔
    ∃ record, l.loadRow sheet row = .ok record ∧ t.ofRecord l.schema record = .ok entity := by
  rw [loadRowInto, loadRow]
  cases l.rowValues sheet row with
  | error e => simp [Except.map]
  | ok values =>
    simp only [Except.map, Except.ok.injEq, exists_eq_left', mapError_eq_ok_iff,
      bindValues_eq_ok_iff]
    rfl

/-- A row gives no entity if it gives no record, or at the first value that the entity refuses. -/
theorem loadRowInto_eq_error_iff {e : LoadError} : l.loadRowInto t sheet row = .error e ↔
    l.loadRow sheet row = .error e ∨ l.RefusedAt t sheet row e := by
  unfold loadRowInto RefusedAt
  cases hvalues : l.rowValues sheet row with
  | error e' => simp [loadRow, hvalues, Except.map]
  | ok values =>
    have hrecord : l.loadRow sheet row = .ok ⟨l.schema.names, values⟩ := by
      rw [loadRow, hvalues]; rfl
    -- a refused value stands in a column of the schema, so the name in the error is that of the
    -- column
    have hname : ∀ {call : MemberCall} {reason : String},
        t.Refuses t.initial (t.calls l.schema ⟨l.schema.names, values⟩) call reason →
          l.schema.names[call.column]? = some (l.schema.names.getD call.column "") := by
      rintro call reason ⟨done, rest, reached, hcalls, -, -⟩
      have hmem : call ∈ t.calls l.schema ⟨l.schema.names, values⟩ := by simp [hcalls]
      have hlt : call.column < values.length := (Binding.column_lt_of_mem_calls hmem).1
      have hlength : values.length = l.schema.names.length := (names_of_loadRow hrecord).2
      simp [List.getD, List.getElem?_eq_getElem (hlength ▸ hlt)]
    simp only [hrecord, mapError_eq_error_iff, Prod.exists, bindValues_eq_error_iff,
      Except.ok.injEq, reduceCtorEq, false_or]
    constructor
    · rintro ⟨column, reason, ⟨call, rfl, hrefuses⟩, rfl⟩
      exact ⟨_, call, reason, _, rfl, hrefuses, hname hrefuses, rfl⟩
    · rintro ⟨record, call, reason, name, rfl, hrefuses, hcolumn, rfl⟩
      refine ⟨call.column, reason, ⟨call, rfl, hrefuses⟩, ?_⟩
      rw [Option.some.inj (hcolumn.symm.trans (hname hrefuses))]

theorem toOption_loadRowInto : (l.loadRowInto t sheet row).toOption =
    (l.loadRow sheet row).toOption.bind fun record => (t.ofRecord l.schema record).toOption := by
  refine Option.ext fun entity => ?_
  simp only [toOption_eq_some_iff, Option.bind_eq_some_iff, loadRowInto_eq_ok_iff]

end Loader

end

/-! ## Members -/

namespace Binding

theorem toLower_eq_self {c : Char} (h : c.isUpper = false) : c.toLower = c := by
  refine dif_neg fun hc => ?_
  have hupper : c.isUpper = true := decide_eq_true hc
  exact Bool.false_ne_true (h.symm.trans hupper)

/-- Names without capitals are the same in any letter case only if they are the same. -/
theorem eq_of_sameIgnoringCase {member name name' : String}
    (hname : ∀ c ∈ name.toList, c.isUpper = false)
    (hname' : ∀ c ∈ name'.toList, c.isUpper = false) (h : sameIgnoringCase member name = true)
    (h' : sameIgnoringCase member name' = true) : name = name' := by
  simp only [sameIgnoringCase, beq_iff_eq] at h h'
  have hlower : ∀ {s : String}, (∀ c ∈ s.toList, c.isUpper = false) →
      s.toList.map Char.toLower = s.toList :=
    fun hs => (List.map_congr_left fun c hc => toLower_eq_self (hs c hc)).trans (List.map_id' _)
  rw [hlower hname] at h
  rw [hlower hname'] at h'
  exact String.toList_injective (h.symm.trans h')

theorem exists_name_of_slot? {s : TableSchema} {members : List String} {column slot : Nat}
    (h : (byName s members).slot? column = some slot) :
    ∃ name member, s.names[column]? = some name ∧
      members[slot]? = some member ∧ sameIgnoringCase member name = true := by
  simp only [slot?, byName, List.getElem?_map, Option.join_eq_some_iff, Option.map_eq_some_iff] at h
  obtain ⟨c, hc, hfind⟩ := h
  obtain ⟨hlt, hsame, -⟩ := List.findIdx?_eq_some_iff_getElem.mp hfind
  exact ⟨c.name, members[slot],
    by simp [TableSchema.names, hc], List.getElem?_eq_getElem hlt, hsame⟩

/-- The members of one row go to different slots if letter case does not make names of columns the
same. -/
theorem nodup_slots {s : TableSchema} {members : List String} (hmembers : members ≠ [])
    (hnodup : s.names.Nodup)
    (hlower : ∀ name ∈ s.names, ∀ c ∈ name.toList, c.isUpper = false)
    (values : List Value) : (((forMembers s members).calls values).map (·.slot)).Nodup := by
  have hslots : ((forMembers s members).calls values).map (·.slot) =
      (List.range' 0 values.length).filterMap (byName s members).slot? := by
    rw [forMembers, if_neg hmembers, calls, callsFrom, List.map_filterMap, ← List.zipIdx_map_snd,
      List.filterMap_map]
    refine List.filterMap_congr fun (value, column) _ => ?_
    simp [Function.comp_def]
  rw [hslots]
  refine (List.nodup_range' 1 Nat.one_pos).filterMap fun column column' slot hslot hslot' => ?_
  -- the member at the slot is named as either column, up to case
  obtain ⟨name, member, hname, hmember, hsame⟩ := exists_name_of_slot? hslot
  obtain ⟨name', member', hname', hmember', hsame'⟩ := exists_name_of_slot? hslot'
  obtain rfl := Option.some.inj (hmember.symm.trans hmember')
  obtain rfl := eq_of_sameIgnoringCase (hlower name (List.mem_of_getElem? hname))
    (hlower name' (List.mem_of_getElem? hname')) hsame hsame'
  exact (List.getElem?_inj (List.getElem?_eq_some_iff.mp hname).1 hnodup).mp
    (hname.trans hname'.symm)

end Binding

/-! ## Workbooks -/

/-- Rows that give an entity are those that give a record from which the entity is made. -/
theorem map_eq_map_ok_iff {β γ δ ε ε' : Type} {f : β → Except ε γ}
    {g : γ → Except ε' δ} {h : β → Except ε δ} (hfg : ∀ x z, h x = .ok z ↔
      ∃ y, f x = .ok y ∧ g y = .ok z) : ∀ {xs : List β} {zs : List δ},
    xs.map h = zs.map .ok ↔ ∃ ys : List γ, xs.map f = ys.map .ok ∧ ys.map g = zs.map .ok
  | [], zs => by
    cases zs <;> simp
  | x :: xs, zs => by
    cases zs with
    | nil => simp
    | cons z zs =>
      have ih := @map_eq_map_ok_iff β γ δ ε ε' f g h hfg xs zs
      simp only [List.map_cons, List.cons.injEq, hfg, ih]
      constructor
      · rintro ⟨⟨y, hf, hg⟩, ys, hfs, hgs⟩
        exact ⟨y :: ys, by simp [hf, hfs], by simp [hg, hgs]⟩
      · rintro ⟨ys, hfs, hgs⟩
        cases ys with
        | nil => simp at hfs
        | cons y ys =>
          simp only [List.map_cons, List.cons.injEq] at hfs hgs
          exact ⟨⟨y, hfs.1, hgs.1⟩, ys, hfs.2, hgs.2⟩

theorem Policy.collect_abort_eq_ok_iff {α β : Type} {load : β → Except LoadError α}
    {rows : List β} {items : List α} :
    (Policy.abort.collect load rows).result = .ok items ↔ rows.map load = items.map .ok := by
  induction rows generalizing items with
  | nil => cases items <;> simp [collect]
  | cons row rows ih =>
    rw [collect]
    cases hload : load row with
    | error e => cases items <;> simp [hload]
    | ok item =>
      simp only [map_eq_ok_iff, ih]
      cases items with
      | nil => simp
      | cons first items => simp [hload, and_comm]

namespace Loader

variable {α : Type} (schema : TableSchema) (source : String) (t : EntityType α) (w : Workbook)

theorem loadWorkbookInto_skipRow : ∃ records,
    ((Loader.mk schema source .skipRow).loadWorkbook w).result = .ok records ∧
      ((Loader.mk schema source .skipRow).loadWorkbookInto t w).result =
        .ok (records.filterMap fun record => (t.ofRecord schema record).toOption) := by
  have hpolicy : Policy.skipRow ≠ .abort := by decide
  refine ⟨(keptRows w.sheets).filterMap fun kept =>
    ((Loader.mk schema source .skipRow).loadRow kept.1 kept.2).toOption, ?_, ?_⟩
  · rw [loadWorkbook, loadSheets_eq_collect, Policy.collect_eq_ok_iff]
    exact ⟨rfl, (absurd · hpolicy)⟩
  · rw [loadWorkbookInto, loadSheets_eq_collect, Policy.collect_eq_ok_iff,
      List.filterMap_filterMap]
    exact ⟨by simp only [toOption_loadRowInto], (absurd · hpolicy)⟩

theorem loadWorkbookInto_abort_eq_ok_iff {entities : List α} :
    ((Loader.mk schema source .abort).loadWorkbookInto t w).result = .ok entities ↔
      ∃ records, ((Loader.mk schema source .abort).loadWorkbook w).result = .ok records ∧
        records.map (t.ofRecord schema) = entities.map .ok := by
  rw [loadWorkbookInto, loadSheets_eq_collect, Policy.collect_abort_eq_ok_iff,
    map_eq_map_ok_iff fun kept entity => loadRowInto_eq_ok_iff]
  simp only [loadWorkbook, loadSheets_eq_collect, Policy.collect_abort_eq_ok_iff]

theorem loadWorkbookInto_abort_eq_error_iff {e : LoadError} :
    ((Loader.mk schema source .abort).loadWorkbookInto t w).result = .error e ↔
      ∃ before sheet row after, keptRows w.sheets = before ++ (sheet, row) :: after ∧
        (∀ kept ∈ before, ∃ record entity,
          (Loader.mk schema source .abort).loadRow kept.1 kept.2 = .ok record ∧
            t.ofRecord schema record = .ok entity) ∧
        ((Loader.mk schema source .abort).loadRow sheet row = .error e ∨
          (Loader.mk schema source .abort).RefusedAt t sheet row e ∧
            e.code = "TBLC_LOAD_COERCION") := by
  have hcode : ∀ {l : Loader} {sheet row}, l.RefusedAt t sheet row e →
      e.code = "TBLC_LOAD_COERCION" := by
    rintro l sheet row ⟨record, call, reason, name, -, -, -, rfl⟩
    rfl
  rw [loadWorkbookInto, loadSheets_eq_collect, Policy.collect_eq_error_iff]
  simp only [Prod.exists, loadRowInto_eq_ok_iff, loadRowInto_eq_error_iff, true_and,
    and_iff_left_of_imp hcode]
  simp only [exists_comm (α := α)]

/-- Loading entities agrees with loading records. Where rows are skipped, the entities are those of
the records from which one can be made. Where a load stops, it goes through just when the records
load and an entity can be made of each; else it stops at the first row that gives no record or has a
value that the entity refuses. Members of different columns stay apart. -/
theorem loadWorkbookInto_agrees :
    let skipping : Loader := ⟨schema, source, .skipRow⟩
    let aborting : Loader := ⟨schema, source, .abort⟩
    (∃ records, (skipping.loadWorkbook w).result = .ok records ∧
      (skipping.loadWorkbookInto t w).result =
      .ok (records.filterMap fun record => (t.ofRecord schema record).toOption)) ∧
    (∀ entities, (aborting.loadWorkbookInto t w).result = .ok entities ↔
      ∃ records, (aborting.loadWorkbook w).result = .ok records ∧
        records.map (t.ofRecord schema) = entities.map .ok) ∧
    (∀ e, (aborting.loadWorkbookInto t w).result = .error e ↔
      ∃ before sheet row after, keptRows w.sheets = before ++ (sheet, row) :: after ∧
        (∀ kept ∈ before, ∃ record entity, aborting.loadRow kept.1 kept.2 = .ok record ∧
          t.ofRecord schema record = .ok entity) ∧
        (aborting.loadRow sheet row = .error e ∨
          aborting.RefusedAt t sheet row e ∧ e.code = "TBLC_LOAD_COERCION")) ∧
    (schema.names.Nodup →
      (∀ name ∈ schema.names, ∀ c ∈ name.toList, c.isUpper = false) →
      t.memberNames ≠ [] → ∀ record, ((t.calls schema record).map (·.slot)).Nodup) :=
  ⟨loadWorkbookInto_skipRow schema source t w,
    fun _ => loadWorkbookInto_abort_eq_ok_iff schema source t w,
    fun _ => loadWorkbookInto_abort_eq_error_iff schema source t w,
    fun hnodup hlower hmembers record => Binding.nodup_slots hmembers hnodup hlower record.values⟩

/-- An entity of a name that is not empty and whether it is sold. -/
def stock : EntityType (String × Bool) where
  memberNames := ["Sold", "Name"]
  initial := ("", false)
  setMember item slot value :=
    match slot, value with
    | 0, .bool sold => .ok (item.1, sold)
    | 1, .string name => if name = "" then .error "no name" else .ok (name, item.2)
    | _, _ => .error "wrong kind"

/-- A schema with a column that no member of an item takes. -/
def stockSchema : TableSchema :=
  ⟨"Entity_Stock", [⟨"name", .string⟩, ⟨"note", .string⟩, ⟨"sold", .bool⟩]⟩

/-- An item, and one without a name. -/
def stockSheet : Sheet :=
  ⟨"Stock", [some [], some [], some [.string "bolt", .string "steel", .boolean true],
    some [.string ""]]⟩

theorem loadWorkbookInto_agrees_stock :
    ((Loader.mk stockSchema "Stock.json" .skipRow).loadWorkbookInto stock
      ⟨[stockSheet]⟩).result =
        .ok [("bolt", true)] ∧
      ((Loader.mk stockSchema "Stock.json" .abort).loadWorkbookInto stock
        ⟨[stockSheet]⟩).result =
        .error ⟨"Stock.json", .member ⟨"Stock", ⟨3, 0⟩, "name"⟩ "no name"⟩ ∧
      ∀ record, ((stock.calls stockSchema record).map (·.slot)).Nodup := by
  obtain ⟨⟨records, hrecords, hinto⟩, -, herror, hnodup⟩ :=
    loadWorkbookInto_agrees stockSchema "Stock.json" stock ⟨[stockSheet]⟩
  have hlower : ∀ name ∈ stockSchema.names, ∀ c ∈ name.toList, c.isUpper = false := by
    simp [stockSchema, TableSchema.names]
  refine ⟨?_, (herror _).mpr ?_, hnodup (by decide) hlower (by decide)⟩
  · have hloaded :
        ((Loader.mk stockSchema "Stock.json" .skipRow).loadWorkbook ⟨[stockSheet]⟩).result =
        .ok [⟨["name", "note", "sold"], [.string "bolt", .string "steel", .bool true]⟩,
          ⟨["name", "note", "sold"], [.string "", .string "", .bool false]⟩] := by
      decide +kernel
    obtain rfl := Except.ok.inj (hrecords.symm.trans hloaded)
    rw [hinto]
    decide +kernel
  · refine ⟨[(stockSheet, 2, [.string "bolt", .string "steel", .boolean true])], stockSheet,
      (3, [.string ""]), [], by decide +kernel, ?_, .inr ⟨⟨⟨["name", "note", "sold"],
        [.string "", .string "", .bool false]⟩,
        ⟨0, 1, .string ""⟩, "no name", "name", by decide +kernel, ?_, rfl, rfl⟩, rfl⟩⟩
    · rw [List.forall_mem_singleton]
      exact ⟨⟨["name", "note", "sold"], [.string "bolt", .string "steel", .bool true]⟩,
        ("bolt", true), by decide +kernel, by decide +kernel⟩
    · exact ⟨[], [⟨2, 0, .bool false⟩], ("", false),
        by decide +kernel, rfl, by decide +kernel⟩

end Loader

end TypedSheets
