import Mathlib.Data.List.Nodup
import TypedSheets.Proofs.Rebuild

/-!
# Registries as maps

A registry in which no entity has two descriptors (`Registry.IsMap`) is determined by the
descriptors in it, in whatever order they stand (`Registry.get?_of_perm`). A registry that is
rebuilt from texts holds the descriptors in them, if these are of different entities
(`Registry.addTexts_of_perm`).
-/

namespace TypedSheets.Registry

variable {r r' : Registry} {d : Descriptor} {entity : String}

/-- No entity has two descriptors. -/
def IsMap (r : Registry) : Prop :=
  (r.descriptors.map (·.entity)).Nodup

/-- The two registries have the same descriptor for every entity. -/
def SameMap (r r' : Registry) : Prop :=
  (∀ entity, r.get? entity = r'.get? entity) ∧ r.size = r'.size

theorem mem_put {e : Descriptor} :
    e ∈ (r.put d).descriptors ↔ e = d ∨ e ∈ r.descriptors ∧ e.entity ≠ d.entity := by
  simp [put]

theorem IsMap.put (h : r.IsMap) (d : Descriptor) : (r.put d).IsMap := by
  rw [IsMap, Registry.put, List.map_cons, List.nodup_cons]
  refine ⟨by simp, ?_⟩
  exact h.sublist (List.filter_sublist.map _)

theorem IsMap.get?_eq_some_iff (h : r.IsMap) :
    r.get? entity = some d ↔ d ∈ r.descriptors ∧ d.entity = entity := by
  constructor
  · exact fun hd => ⟨List.mem_of_find?_eq_some hd, entity_of_get? hd⟩
  · rintro ⟨hd, rfl⟩
    cases hget : r.get? d.entity with
    | none => simpa using List.find?_eq_none.mp hget d hd
    | some e =>
      have hentity : e.entity = d.entity := entity_of_get? hget
      rw [List.inj_on_of_nodup_map h (List.mem_of_find?_eq_some hget) hd hentity]

theorem get?_of_perm (h : r.IsMap) (hperm : r'.descriptors.Perm r.descriptors) : r'.SameMap r := by
  have h' : r'.IsMap := (hperm.map _).nodup_iff.mpr h
  refine ⟨fun entity => Option.ext fun d => ?_, hperm.length_eq⟩
  rw [h'.get?_eq_some_iff, h.get?_eq_some_iff, hperm.mem_iff]

/-! ## Rebuilding -/

theorem addTexts_eq : ∀ (r : Registry) (texts : List String), r.addTexts texts =
    ((texts.filterMap Descriptor.extract?).foldl put r,
      (texts.filterMap Descriptor.extract?).length)
  | r, [] => rfl
  | r, text :: rest => by
    rw [addTexts]
    cases hextract : Descriptor.extract? text with
    | none => rw [List.filterMap_cons_none hextract, addTexts_eq r rest]
    | some d =>
      simp only [List.filterMap_cons_some hextract, addTexts_eq (r.put d) rest, List.foldl_cons,
        List.length_cons]

/-- Descriptors of different entities that are not there yet all come to stand in the registry. -/
theorem foldl_put_perm : ∀ {ds : List Descriptor} {r : Registry}, (ds.map (·.entity)).Nodup →
    (∀ d ∈ ds, ∀ e ∈ r.descriptors, e.entity ≠ d.entity) →
      (ds.foldl put r).descriptors.Perm (ds ++ r.descriptors)
  | [], r, _, _ => .refl _
  | d :: ds, r, hnodup, hnew => by
    obtain ⟨hd, hnodup⟩ := List.nodup_cons.mp hnodup
    obtain ⟨hhead, hrest⟩ := List.forall_mem_cons.mp hnew
    have hput : (r.put d).descriptors = d :: r.descriptors := by
      rw [put, List.filter_eq_self.mpr]
      exact fun e he => by simpa using hhead e he
    have hfresh : ∀ d' ∈ ds, ∀ e ∈ (r.put d).descriptors, e.entity ≠ d'.entity := by
      intro d' hd' e he
      rw [hput] at he
      rcases List.mem_cons.mp he with rfl | he
      · exact fun heq => hd (List.mem_map.mpr ⟨d', hd', heq.symm⟩)
      · exact hrest d' hd' e he
    have ih := foldl_put_perm hnodup hfresh
    rw [hput] at ih
    exact ih.trans List.perm_middle

/-- Texts in which just the descriptors of a registry are found give the registry back. -/
theorem addTexts_of_perm {texts : List String} (h : r.IsMap)
    (hperm : (texts.filterMap Descriptor.extract?).Perm r.descriptors) :
    (empty.addTexts texts).1.SameMap r ∧ (empty.addTexts texts).2 = r.size := by
  rw [addTexts_eq]
  have hnodup : ((texts.filterMap Descriptor.extract?).map (·.entity)).Nodup :=
    (hperm.map _).nodup_iff.mpr h
  have hput := foldl_put_perm (r := empty) hnodup (by simp [empty])
  rw [show empty.descriptors = [] from rfl, List.append_nil] at hput
  exact ⟨get?_of_perm h (hput.trans hperm), hperm.length_eq⟩

end TypedSheets.Registry
