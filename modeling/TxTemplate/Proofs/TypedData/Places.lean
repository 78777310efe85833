import TxTemplate.Proofs.Placeholder
import TxTemplate.Proofs.TypedData.Layout

set_option autoImplicit false

/-! Where packing looks for placeholders. The texts at these places are listed by recursion on the
data, as packing goes through it, and the parameters count for nothing else: data with no
placeholder at any of its places packs alike whatever the parameters are. -/

namespace TxTemplate

/-- The text that a value is. -/
def Json.texts : Json → List String
  | .str text => [text]
  | _ => []

namespace Placeholder

/-- A text that parameters never stand for. -/
def IsPlain (text : String) : Prop := digits? text.toList = none

instance (text : String) : Decidable (IsPlain text) := inferInstanceAs (Decidable (_ = _))

theorem resolve_text_congr (first second : Params) {text : String} (plain : IsPlain text) :
    resolve first (.str text) = resolve second (.str text) := by
  rw [resolve_of_digits?_eq_none first plain, resolve_of_digits?_eq_none second plain]

theorem resolve_congr (first second : Params) {value : Json}
    (plain : ∀ text ∈ value.texts, IsPlain text) :
    resolve first value = resolve second value := by
  cases value with
  | str text => exact resolve_text_congr first second (plain text List.mem_cons_self)
  | null | bool _ | int _ | float _ | arr _ | obj _ => rfl

end Placeholder

open Placeholder

namespace Descriptor

mutual
/-- The texts of a descriptor that may be placeholders. -/
def places : Json → List String
  | .obj fields =>
    if (kindOf fields).isText "ata" then fieldPlaces "owner" fields ++ fieldPlaces "mint" fields
    else []
  | .str text => [text]
  | _ => []

def fieldPlaces (key : String) : Fields → List String
  | [] => []
  | (other, value) :: rest => if other = key then places value else fieldPlaces key rest
end

mutual
theorem resolve_congr (first second : Params) (descriptor : Json)
    (plain : ∀ text ∈ places descriptor, IsPlain text) :
    resolve first descriptor = resolve second descriptor := by
  cases descriptor with
  | obj fields =>
      rw [resolve, resolve]
      rw [places] at plain
      by_cases derived : (kindOf fields).isText "ata" = true
      · rw [if_pos derived, List.forall_mem_append] at plain
        rw [if_pos derived, if_pos derived, resolveField_congr first second "owner" fields plain.1,
          resolveField_congr first second "mint" fields plain.2]
      · rw [if_neg derived, if_neg derived]
  | str text =>
      have same := resolve_text_congr first second (plain text (by simp [places]))
      rw [resolve, resolve, same]
  | null | bool _ | int _ | float _ | arr _ => rfl

theorem resolveField_congr (first second : Params) (key : String) (fields : Fields)
    (plain : ∀ text ∈ fieldPlaces key fields, IsPlain text) :
    resolveField first key fields = resolveField second key fields := by
  cases fields with
  | nil => rfl
  | cons field rest =>
      obtain ⟨other, value⟩ := field
      rw [resolveField, resolveField]
      rw [fieldPlaces] at plain
      by_cases same : other = key
      · rw [if_pos same] at plain
        rw [if_pos same, if_pos same, resolve_congr first second value plain]
      · rw [if_neg same] at plain
        rw [if_neg same, if_neg same, resolveField_congr first second key rest plain]
end

end Descriptor

namespace TypedData

mutual
/-- The texts at the places where packing looks for placeholders. The entries that a text lists have
the places that the first argument gives them. -/
def placesWith (onEntries : List Json → List String) : Json → List String
  | .str text => [text]
  | .arr items => items.flatMap Json.texts
  | .obj fields =>
    match kindOf fields with
    | .ok kind => memberPlaces onEntries kind fields
    | .error _ => []
  | _ => []

def memberPlaces (onEntries : List Json → List String) (kind : Kind) : Fields → List String
  | [] => []
  | (key, value) :: rest =>
    if key = "data" then
      match kind with
      | .word _ | .boolean => value.texts
      | .pubkey => Descriptor.places value
      | .bytes | .string => placesWith onEntries value
      | .object =>
        match value with
        | .arr items => entryPlaces onEntries items
        | .str text =>
          text :: match entriesOfText text with
            | .ok entries => onEntries entries
            | .error _ => []
        | _ => []
    else memberPlaces onEntries kind rest

def entryPlaces (onEntries : List Json → List String) : List Json → List String
  | [] => []
  | entry :: rest => placesWith onEntries entry ++ entryPlaces onEntries rest
end

private theorem memberPlaces_cons_ne (onEntries : List Json → List String) (kind : Kind)
    {key : String}
    (other : ¬ key = "data") (value : Json) (rest : Fields) :
    memberPlaces onEntries kind ((key, value) :: rest) = memberPlaces onEntries kind rest := by
  cases kind <;> cases value <;> exact if_neg other

/-- The places with so many levels of entries given as text. -/
def placesNested : Nat → Json → List String
  | 0 => placesWith fun _ => []
  | depth + 1 => placesWith fun entries => entries.flatMap (placesNested depth)

def places (value : Json) : List String := placesNested nestingLimit value

theorem packEntry_congr (first second : Params) (item : Json)
    (plain : ∀ text ∈ item.texts, IsPlain text) :
    packEntry first item = packEntry second item := by
  rw [packEntry, packEntry, resolve_congr first second plain]

theorem packArray_congr (first second : Params) (items : List Json)
    (plain : ∀ text ∈ items.flatMap Json.texts, IsPlain text) :
    packArray first items = packArray second items := by
  induction items with
  | nil => rfl
  | cons item rest ih =>
      rw [List.flatMap_cons, List.forall_mem_append] at plain
      rw [packArray, packArray, packEntry_congr first second item plain.1, ih plain.2]

section Congr

variable {first second : Params} {onFirst onSecond : List Json → Traced Bytes}
  {onEntries : List Json → List String}

mutual
theorem packWith_congr
    (nested : ∀ entries, (∀ text ∈ onEntries entries, IsPlain text) →
      onFirst entries = onSecond entries)
    (value : Json) (plain : ∀ text ∈ placesWith onEntries value, IsPlain text) :
    packWith onFirst first value = packWith onSecond second value := by
  cases value with
  | null | bool _ | int _ | float _ => rfl
  | str text =>
      have same := resolve_text_congr first second (plain text (by simp [placesWith]))
      rw [packWith, packWith, same]
  | arr items => exact packArray_congr first second items plain
  | obj fields =>
      rw [packWith, packWith]
      cases named : kindOf fields with
      | error fault => rfl
      | ok kind =>
          rw [placesWith, named] at plain
          exact packMember_congr nested kind fields fields plain

theorem packMember_congr
    (nested : ∀ entries, (∀ text ∈ onEntries entries, IsPlain text) →
      onFirst entries = onSecond entries)
    (kind : Kind) (whole fields : Fields)
    (plain : ∀ text ∈ memberPlaces onEntries kind fields, IsPlain text) :
    packMember onFirst first kind whole fields = packMember onSecond second kind whole fields := by
  cases fields with
  | nil => rfl
  | cons field rest =>
      obtain ⟨key, value⟩ := field
      by_cases same : key = "data"
      · subst same
        cases kind with
        | word _ =>
            rw [memberPlaces, if_pos rfl] at plain
            rw [packMember_word, packMember_word, resolve_congr first second plain]
        | boolean =>
            rw [memberPlaces, if_pos rfl] at plain
            rw [packMember_boolean, packMember_boolean, resolve_congr first second plain]
        | pubkey =>
            rw [memberPlaces, if_pos rfl] at plain
            rw [packMember_pubkey, packMember_pubkey,
              Descriptor.resolve_congr first second value plain]
        | bytes =>
            rw [memberPlaces, if_pos rfl] at plain
            rw [packMember_bytes, packMember_bytes, packWith_congr nested value plain]
        | string =>
            rw [memberPlaces, if_pos rfl] at plain
            have other := packWith_congr nested value plain
            cases value with
            | str text =>
                have resolved := resolve_text_congr first second (plain text (by simp [placesWith]))
                rw [packMember_string_text, packMember_string_text, resolved]
            | null | bool _ | int _ | float _ | arr _ | obj _ => exact other
        | object =>
            cases value with
            | arr entries =>
                rw [memberPlaces, if_pos rfl] at plain
                rw [packMember_object_list, packMember_object_list,
                  packEntries_congr nested entries plain]
            | str text =>
                -- The text is no placeholder, so both list the same entries from it.
                rw [memberPlaces, if_pos rfl, List.forall_mem_cons] at plain
                rw [packMember_object_text, packMember_object_text,
                  resolve_of_digits?_eq_none first plain.1,
                  resolve_of_digits?_eq_none second plain.1, Traced.liftM_ok_bind,
                  Traced.liftM_ok_bind, Json.display]
                cases listed : entriesOfText text with
                | error fault => rfl
                | ok entries =>
                    rw [listed] at plain
                    rw [Traced.liftM_ok_bind, Traced.liftM_ok_bind, nested entries plain.2]
            | null | bool _ | int _ | float _ | obj _ => rfl
      · rw [memberPlaces_cons_ne onEntries kind same] at plain
        rw [packMember_cons_ne onFirst first kind whole same,
          packMember_cons_ne onSecond second kind whole same]
        exact packMember_congr nested kind whole rest plain

theorem packEntries_congr
    (nested : ∀ entries, (∀ text ∈ onEntries entries, IsPlain text) →
      onFirst entries = onSecond entries)
    (entries : List Json) (plain : ∀ text ∈ entryPlaces onEntries entries, IsPlain text) :
    packEntries onFirst first entries = packEntries onSecond second entries := by
  cases entries with
  | nil => rfl
  | cons entry rest =>
      rw [entryPlaces, List.forall_mem_append] at plain
      rw [packEntries, packEntries, packWith_congr nested entry plain.1,
        packEntries_congr nested rest plain.2]
end

end Congr

theorem packEach_congr {packFirst packSecond : Json → Traced Bytes} {entries : List Json}
    (each : ∀ entry ∈ entries, packFirst entry = packSecond entry) :
    packEach packFirst entries = packEach packSecond entries := by
  induction entries with
  | nil => rfl
  | cons entry rest ih =>
      rw [List.forall_mem_cons] at each
      rw [packEach, packEach, each.1, ih each.2]

theorem packNested_congr (depth : Nat) (first second : Params) (value : Json)
    (plain : ∀ text ∈ placesNested depth value, IsPlain text) :
    packNested depth first value = packNested depth second value := by
  induction depth generalizing value with
  | zero => exact packWith_congr (fun _ _ => rfl) value plain
  | succ depth ih =>
      refine packWith_congr ?_ value plain
      intro entries inner
      apply packEach_congr
      intro entry member
      exact ih entry fun text found => inner text (List.mem_flatMap.mpr ⟨entry, member, found⟩)

/-- Packing depends on its parameters only through the placeholders at its places. -/
theorem pack_congr (first second : Params) {value : Json}
    (plain : ∀ text ∈ places value, IsPlain text) :
    pack first value = pack second value :=
  packNested_congr nestingLimit first second value plain

end TypedData

end TxTemplate
