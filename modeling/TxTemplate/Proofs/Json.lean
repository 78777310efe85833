import Mathlib.Data.List.Forall2
import TxTemplate.Json.Basic

set_option autoImplicit false

/-! Fields of objects under updates, and objects whose members may come in any order. A value is
built from smaller ones, so properties of typed values are proved by induction on the entries that
they list. -/

namespace TxTemplate.Json

/-! ### Fields -/

@[simp] theorem lookup_setField_self (key : String) (value : Json) (fields : Fields) :
    (setField key value fields).lookup key = some value := by
  induction fields with
  | nil => simp [setField]
  | cons field rest ih =>
      obtain ⟨other, old⟩ := field
      by_cases same : other = key
      · simp [setField, same]
      · have different : (key == other) = false := beq_eq_false_iff_ne.mpr (Ne.symm same)
        rw [setField, if_neg same, List.lookup_cons, different]
        exact ih

theorem lookup_setField_of_ne {key other : String} (different : other ≠ key) (value : Json)
    (fields : Fields) : (setField key value fields).lookup other = fields.lookup other := by
  have unequal : (other == key) = false := beq_eq_false_iff_ne.mpr different
  induction fields with
  | nil => simp [setField, List.lookup_cons, unequal]
  | cons field rest ih =>
      obtain ⟨name, old⟩ := field
      by_cases same : name = key
      · simp [setField, same, List.lookup_cons, unequal]
      · rw [setField, if_neg same, List.lookup_cons, List.lookup_cons, ih]

theorem setField_of_lookup {key : String} {value : Json} {fields : Fields}
    (present : fields.lookup key = some value) : setField key value fields = fields := by
  induction fields with
  | nil => cases present
  | cons field rest ih =>
      obtain ⟨other, old⟩ := field
      rw [List.lookup_cons] at present
      by_cases same : other = key
      · subst same
        rw [beq_self_eq_true] at present
        obtain rfl := Option.some.inj present
        rw [setField, if_pos rfl]
      · rw [beq_eq_false_iff_ne.mpr (Ne.symm same)] at present
        rw [setField, if_neg same, ih present]

theorem lookup_setFields {updates : Fields} (distinct : (updates.map Prod.fst).Nodup)
    (fields : Fields) (key : String) :
    (setFields fields updates).lookup key = (updates.lookup key).or (fields.lookup key) := by
  induction updates generalizing fields with
  | nil => rfl
  | cons update rest ih =>
      obtain ⟨name, value⟩ := update
      obtain ⟨fresh, later⟩ := List.nodup_cons.mp distinct
      show (setFields (setField name value fields) rest).lookup key = _
      rw [ih later, List.lookup_cons]
      by_cases same : key = name
      · subst same
        have absent : rest.lookup key = none := by
          rw [List.lookup_eq_none_iff]
          intro field member
          have known : field.1 ∈ rest.map Prod.fst := List.mem_map_of_mem member
          exact bne_iff_ne.mpr fun same => fresh (same ▸ known)
        rw [absent, lookup_setField_self, beq_self_eq_true]
        rfl
      · rw [lookup_setField_of_ne same, beq_eq_false_iff_ne.mpr same]

theorem lookup_of_perm {fields moved : Fields} (order : fields.Perm moved)
    (distinct : (fields.map Prod.fst).Nodup) (key : String) :
    fields.lookup key = moved.lookup key := by
  induction order with
  | nil => rfl
  | cons field _ ih =>
      obtain ⟨name, value⟩ := field
      rw [List.map_cons, List.nodup_cons] at distinct
      rw [List.lookup_cons, List.lookup_cons, ih distinct.2]
  | swap first second rest =>
      obtain ⟨firstName, firstValue⟩ := first
      obtain ⟨secondName, secondValue⟩ := second
      rw [List.map_cons, List.map_cons, List.nodup_cons] at distinct
      have different : secondName ≠ firstName := fun same => distinct.1 (same ▸ List.mem_cons_self)
      simp only [List.lookup_cons]
      by_cases found : key = firstName
      · subst found
        rw [beq_eq_false_iff_ne.mpr (Ne.symm different), beq_self_eq_true]
      · rw [beq_eq_false_iff_ne.mpr found]
  | trans first _ ihFirst ihSecond =>
      rw [ihFirst distinct, ihSecond ((first.map Prod.fst).nodup_iff.mp distinct)]

/-! ### Induction on members and listed entries -/

theorem sizeOf_lt_of_member {key : String} {fields : Fields} {value : Json}
    (found : fields.lookup key = some value) : sizeOf value < sizeOf (Json.obj fields) := by
  obtain ⟨before, after, rfl, -⟩ := List.lookup_eq_some_iff.mp found
  have inFields : sizeOf (key, value) < sizeOf (before ++ (key, value) :: after) :=
    List.sizeOf_lt_of_mem (by simp)
  simp only [Prod.mk.sizeOf_spec, Json.obj.sizeOf_spec] at inFields ⊢
  omega

theorem sizeOf_lt_of_lookup {key : String} {fields : Fields} {items : List Json} {item : Json}
    (found : fields.lookup key = some (.arr items)) (member : item ∈ items) :
    sizeOf item < sizeOf (Json.obj fields) := by
  have inItems := List.sizeOf_lt_of_mem member
  have inFields := sizeOf_lt_of_member found
  simp only [Json.arr.sizeOf_spec] at inFields
  omega

/-- What holds of a value as soon as it holds of its members, and of the entries that they list,
holds of all values. -/
theorem memberInduction {motive : Json → Prop}
    (step : ∀ value, (∀ fields key inner, value = .obj fields → fields.lookup key = some inner →
      motive inner ∧ ∀ entries, inner = .arr entries → ∀ entry ∈ entries, motive entry) →
      motive value)
    (value : Json) : motive value := by
  induction size : sizeOf value using Nat.strongRecOn generalizing value with
  | ind bound ih =>
      apply step
      rintro fields key inner rfl found
      refine ⟨ih (sizeOf inner) (size ▸ sizeOf_lt_of_member found) inner rfl, ?_⟩
      rintro entries rfl entry member
      exact ih (sizeOf entry) (size ▸ sizeOf_lt_of_lookup found member) entry rfl

/-- What holds of a value as soon as it holds of the entries listed under one of its keys holds of
all values. -/
theorem entryInduction (key : String) {motive : Json → Prop}
    (step : ∀ value, (∀ fields entries, value = .obj fields →
      fields.lookup key = some (.arr entries) → ∀ entry ∈ entries, motive entry) → motive value)
    (value : Json) : motive value :=
  memberInduction (fun value each => step value fun fields entries object found =>
    (each fields key (.arr entries) object found).2 entries rfl) value

/-! ### Values up to the order of members -/

/-- The same value, where the members of objects may come in another order. -/
inductive Same : Json → Json → Prop where
  | refl (value : Json) : Same value value
  | arr {items others : List Json} (each : List.Forall₂ Same items others) :
      Same (.arr items) (.arr others)
  | obj {fields moved others : Fields} (order : fields.Perm moved)
      (keys : moved.map Prod.fst = others.map Prod.fst)
      (each : List.Forall₂ Same (moved.map Prod.snd) (others.map Prod.snd)) :
      Same (.obj fields) (.obj others)

end TxTemplate.Json
