import TxTemplate.Json.Writer
import TxTemplate.Proofs.Numeral
import TxTemplate.Storage.Directory

set_option autoImplicit false

/-! The characters of a written document: those of ASCII that can be seen, blanks, and line feeds.
No line of it ends in any other way, so a stored document is read as the text that was written. -/

namespace TxTemplate

/-- The characters that documents are written in. -/
def Text.isWritten (c : Char) : Bool := c == '\n' || (0x20 ≤ c.toNat && c.toNat < 0x7F)

def Text.AllWritten (text : List Char) : Prop := ∀ c ∈ text, isWritten c = true

instance (text : List Char) : Decidable (Text.AllWritten text) :=
  decidable_of_iff (text.all Text.isWritten = true) List.all_eq_true

open Text

namespace Text.AllWritten

variable {text rest : List Char}

theorem cons {c : Char} (first : isWritten c = true) (later : AllWritten rest) :
    AllWritten (c :: rest) :=
  List.forall_mem_cons.mpr ⟨first, later⟩

theorem append (first : AllWritten text) (later : AllWritten rest) : AllWritten (text ++ rest) :=
  List.forall_mem_append.mpr ⟨first, later⟩

theorem subset (written : AllWritten text) (part : rest ⊆ text) : AllWritten rest :=
  fun c member => written c (part member)

theorem replicate {c : Char} (each : isWritten c = true) (count : Nat) :
    AllWritten (List.replicate count c) := by
  intro other member
  rw [List.eq_of_mem_replicate member]
  exact each

theorem toList_append {first later : String} (written : AllWritten first.toList)
    (others : AllWritten later.toList) : AllWritten (first ++ later).toList := by
  rw [String.toList_append]
  exact written.append others

theorem toList_intercalate {between : String} (separator : AllWritten between.toList)
    {parts : List String} (each : ∀ part ∈ parts, AllWritten part.toList) :
    AllWritten (between.intercalate parts).toList := by
  induction parts with
  | nil => exact fun c member => absurd member (by simp)
  | cons part rest ih =>
      rw [List.forall_mem_cons] at each
      cases rest with
      | nil =>
          rw [String.intercalate_singleton]
          exact each.1
      | cons next more =>
          rw [String.intercalate_cons_cons]
          exact (each.1.toList_append separator).toList_append (ih each.2)

end Text.AllWritten

/-! ### Numbers -/

theorem Decimal.allWritten_ofNat (n : Nat) : AllWritten (ofNat n) := forall_mem_ofNat (by decide) n

theorem Decimal.allWritten_ofInt (n : Int) : AllWritten (ofInt n) := by
  cases n with
  | ofNat n => exact allWritten_ofNat n
  | negSucc n => exact (allWritten_ofNat (n + 1)).cons (by decide)

namespace Binary64

theorem allWritten_layout {shortest : Shortest} (digits : AllWritten shortest.digits) :
    AllWritten shortest.layout := by
  have noughts : ∀ count, AllWritten (List.replicate count '0') := AllWritten.replicate (by decide)
  unfold Shortest.layout
  dsimp only
  split
  · split
    · exact (((noughts _).append digits).cons (by decide)).cons (by decide)
    · refine AllWritten.append ((digits.append (noughts _)).subset (List.take_subset _ _)) ?_
      refine AllWritten.cons (by decide) ?_
      split
      · decide
      · exact digits.subset (List.drop_subset _ _)
  · refine AllWritten.append ?_ (AllWritten.cons (by decide) (AllWritten.cons ?_ ?_))
    · split
      · rename_i first second rest some
        rw [some] at digits
        obtain ⟨here, there⟩ := List.forall_mem_cons.mp digits
        exact (AllWritten.cons (by decide) there).cons here
      · exact digits
    · split <;> decide
    · split
      · exact (Decimal.allWritten_ofNat _).cons (by decide)
      · exact Decimal.allWritten_ofNat _

theorem allWritten_run (search : Search) : AllWritten search.run.digits := by
  have digits := Decimal.allWritten_ofNat (((List.range 17).findSome? fun index =>
    (search.onGrid (search.magnitude - (index + 1 : Nat))).map fun candidate =>
      (candidate, search.magnitude - (index + 1 : Nat))).getD
        (search.m * Nat.pow 2 search.q.toNat, 0)).1
  refine digits.subset fun c member => ?_
  exact List.mem_reverse.mp ((List.dropWhile_suffix _).subset (List.mem_reverse.mp member))

theorem allWritten_text {nanWord infinityWord : String} (nan : AllWritten nanWord.toList)
    (infinity : AllWritten infinityWord.toList) (x : Float) :
    AllWritten (text nanWord infinityWord x).toList := by
  unfold text
  split
  · exact nan
  · split
    · exact AllWritten.toList_append (by decide) infinity
    · exact infinity
  · rw [String.toList_ofList]
    have magnitude : ∀ m q,
        AllWritten (if m = 0 then ['0', '.', '0'] else (Search.of m q).run.layout) := by
      intro m q
      split
      · decide
      · exact allWritten_layout (allWritten_run _)
    split
    · exact (magnitude _ _).cons (by decide)
    · exact magnitude _ _

end Binary64

/-! ### Documents -/

namespace Json

theorem allWritten_unitEscape (unit : Nat) : AllWritten (unitEscape unit) := by
  have digits : ∀ value < 16, isWritten (Hex.digit value) = true := by decide
  have each : ∀ width, AllWritten (Text.hexDigits width unit) := by
    intro width
    induction width with
    | zero => exact fun _ member => absurd member List.not_mem_nil
    | succ width ih => exact ih.cons (digits _ (Nat.mod_lt _ (by decide)))
  exact ((each 4).cons (by decide)).cons (by decide)

theorem allWritten_escapeChar (c : Char) : AllWritten (escapeChar c) := by
  unfold escapeChar
  split
  any_goals decide
  dsimp only
  split_ifs with backspace feed visible
  · decide
  · decide
  · refine AllWritten.cons ?_ (by decide)
    simp [isWritten, visible]
  · exact allWritten_unitEscape _
  · exact (allWritten_unitEscape _).append (allWritten_unitEscape _)

theorem allWritten_quote (text : String) : AllWritten (quote text).toList := by
  rw [quote, String.toList_ofList]
  refine AllWritten.cons (by decide) (AllWritten.append ?_ (by decide))
  intro c member
  obtain ⟨source, -, inside⟩ := List.mem_flatMap.mp member
  exact allWritten_escapeChar source c inside

theorem allWritten_newLine (level : Nat) : AllWritten (newLine level).toList := by
  rw [newLine, String.toList_ofList]
  exact (AllWritten.replicate (by decide) _).cons (by decide)

theorem allWritten_writeAtom (value : Json) : AllWritten (writeAtom value).toList := by
  cases value with
  | null => decide
  | arr _ => exact (by decide : AllWritten "[]".toList)
  | obj _ => exact (by decide : AllWritten "\x7b\x7d".toList)
  | bool flag => cases flag <;> decide
  | int n =>
      rw [writeAtom, Decimal.intText, String.toList_ofList]
      exact Decimal.allWritten_ofInt n
  | float x => exact Binary64.allWritten_text (by decide) (by decide) x
  | str text => exact allWritten_quote text

theorem allWritten_block {level : Nat} {opening closing : String} {parts : List String}
    (opened : AllWritten opening.toList) (closed : AllWritten closing.toList)
    (each : ∀ part ∈ parts, AllWritten part.toList) :
    AllWritten (opening ++ newLine (level + 1) ++
      String.intercalate ("," ++ newLine (level + 1)) parts ++
      newLine level ++ closing).toList := by
  have separator : AllWritten ("," ++ newLine (level + 1)).toList :=
    AllWritten.toList_append (by decide) (allWritten_newLine _)
  exact (((opened.toList_append (allWritten_newLine _)).toList_append
    (AllWritten.toList_intercalate separator each)).toList_append
      (allWritten_newLine _)).toList_append closed

mutual
theorem allWritten_writeAt (level : Nat) (value : Json) :
    AllWritten (writeAt level value).toList := by
  match value with
  | .arr (item :: rest) =>
      exact allWritten_block (by decide) (by decide)
        (allWritten_writeItems (level + 1) (item :: rest))
  | .obj (field :: rest) =>
      exact allWritten_block (by decide) (by decide)
        (allWritten_writeFields (level + 1) (field :: rest))
  | .arr [] | .obj [] | .null | .bool _ | .int _ | .float _ | .str _ => exact allWritten_writeAtom _

theorem allWritten_writeItems (level : Nat) (items : List Json) :
    ∀ part ∈ writeItems level items, AllWritten part.toList := by
  match items with
  | [] => exact fun _ member => absurd member List.not_mem_nil
  | item :: rest =>
      rw [writeItems, List.forall_mem_cons]
      exact ⟨allWritten_writeAt level item, allWritten_writeItems level rest⟩

theorem allWritten_writeFields (level : Nat) (fields : Fields) :
    ∀ part ∈ writeFields level fields, AllWritten part.toList := by
  match fields with
  | [] => exact fun _ member => absurd member List.not_mem_nil
  | (key, value) :: rest =>
      rw [writeFields, List.forall_mem_cons]
      exact ⟨((allWritten_quote key).toList_append (by decide)).toList_append
        (allWritten_writeAt level value), allWritten_writeFields level rest⟩
end

end Json

theorem Directory.plainLines_of_not_mem {text : List Char} (absent : '\r' ∉ text) :
    plainLines text = text := by
  induction text with
  | nil => rfl
  | cons c rest ih =>
      obtain ⟨here, there⟩ := not_or.mp (List.mem_cons.not.mp absent)
      unfold plainLines
      split
      · rename_i same
        exact absurd (List.cons.inj same).1.symm here
      · rename_i same
        exact absurd (List.cons.inj same).1.symm here
      · rename_i same
        obtain ⟨rfl, rfl⟩ := List.cons.inj same
        rw [ih there]
      · rename_i none
        cases none

theorem Json.plainLines_write (value : Json) :
    Directory.plainLines (write value).toList = (write value).toList := by
  apply Directory.plainLines_of_not_mem
  intro member
  exact absurd (allWritten_writeAt 0 value '\r' member) (by decide)

end TxTemplate
