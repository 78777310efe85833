import TxTemplate.Proofs.Amount

set_option autoImplicit false

/-! Grouping digits for people. Low lines are put between groups and nothing else is changed, so an
amount that was grouped is read as the amount that it was. The groups of a written number have three
digits each, apart from the first, which may be shorter. -/

namespace TxTemplate

namespace Amount

open Decimal

/-! ### Groups -/

/-- Groups in the order of reading: the first has one to three characters, and every later one
three. -/
structure Groups (first : List Char) (later : List (List Char)) : Prop where
  present : 1 ≤ first.length
  short : first.length ≤ 3
  full : ∀ group ∈ later, group.length = 3

theorem flatten_groupsFromEnd (reversed : List Char) :
    (groupsFromEnd reversed).reverse.flatten = reversed.reverse := by
  induction reversed using groupsFromEnd.induct with
  | case1 a b c rest ih =>
      rw [groupsFromEnd, List.reverse_cons, List.flatten_append, ih]
      simp
  | case2 => rfl
  | case3 short many some =>
      rw [groupsFromEnd]
      · simp
      · exact many
      · exact some

theorem exists_groupsFromEnd {reversed : List Char} (present : reversed ≠ []) :
    ∃ first later, (groupsFromEnd reversed).reverse = first :: later ∧ Groups first later := by
  induction reversed using groupsFromEnd.induct with
  | case1 a b c rest ih =>
      rw [groupsFromEnd, List.reverse_cons]
      by_cases last : rest = []
      · subst last
        exact ⟨[c, b, a], [], rfl, Nat.le_add_left 1 2, Nat.le_refl 3, fun _ member =>
          absurd member List.not_mem_nil⟩
      · obtain ⟨first, later, same, groups⟩ := ih last
        refine ⟨first, later ++ [[c, b, a]], by rw [same]; rfl, groups.present, groups.short, ?_⟩
        rw [List.forall_mem_append]
        exact ⟨groups.full, fun _ member => List.mem_singleton.mp member ▸ rfl⟩
  | case2 => exact absurd rfl present
  | case3 short many some =>
      rw [groupsFromEnd]
      · refine ⟨short.reverse, [], rfl, ?_, ?_, fun _ member => absurd member List.not_mem_nil⟩
        · rw [List.length_reverse]
          exact List.length_pos_iff.mpr present
        · rw [List.length_reverse]
          match short, many with
          | [], _ => exact absurd rfl present
          | [_], _ => exact Nat.le_add_left 1 2
          | [_, _], _ => exact Nat.le_succ 2
          | a :: b :: c :: rest, many => exact absurd rfl (many a b c rest)
      · exact many
      · exact some

theorem exists_group {digits : List Char} (present : digits ≠ []) :
    ∃ first later, group digits = List.intercalate ['_'] (first :: later) ∧
      (first :: later).flatten = digits ∧
      Groups first later := by
  obtain ⟨first, later, same, groups⟩ := exists_groupsFromEnd (List.reverse_ne_nil_iff.mpr present)
  refine ⟨first, later, by rw [group, same], ?_, groups⟩
  rw [← same, flatten_groupsFromEnd, List.reverse_reverse]

/-! ### Low lines -/

@[simp] theorem withoutLines_append (first second : List Char) :
    withoutLines (first ++ second) = withoutLines first ++ withoutLines second :=
  List.filter_append ..

theorem withoutLines_cons {c : Char} (other : c ≠ '_') (rest : List Char) :
    withoutLines (c :: rest) = c :: withoutLines rest :=
  List.filter_cons_of_pos (bne_iff_ne.mpr other)

@[simp] theorem withoutLines_withoutLines (text : List Char) :
    withoutLines (withoutLines text) = withoutLines text := by
  rw [withoutLines, withoutLines, List.filter_filter]
  simp only [Bool.and_self]

theorem withoutLines_of_not_mem {text : List Char} (absent : '_' ∉ text) :
    withoutLines text = text :=
  List.filter_eq_self.mpr fun _ member => bne_iff_ne.mpr (ne_of_mem_of_not_mem member absent)

theorem withoutLines_intercalate (groups : List (List Char)) :
    withoutLines (List.intercalate ['_'] groups) = withoutLines groups.flatten := by
  induction groups with
  | nil => rfl
  | cons first rest ih =>
      cases rest with
      | nil => rw [List.intercalate_singleton, List.flatten_singleton]
      | cons second rest =>
          have line : withoutLines ['_'] = [] := rfl
          rw [List.intercalate_cons_cons, withoutLines_append, withoutLines_append, ih, line,
            List.append_nil, ← withoutLines_append, ← List.flatten_cons]

@[simp] theorem withoutLines_group (digits : List Char) :
    withoutLines (group digits) = withoutLines digits := by
  rw [group, withoutLines_intercalate, flatten_groupsFromEnd, List.reverse_reverse]

/-! ### Formatting -/

/-- A text without a sign, the parts around its first point in groups. -/
def grouped (unsigned : List Char) : List Char :=
  match splitPoint (withoutLines unsigned) with
  | (whole, some places) => group whole ++ '.' :: group places
  | (whole, none) => group whole

theorem formatChars_of_minus {text unsigned : List Char}
    (signed : Text.strip text = '-' :: unsigned) :
    formatChars text = '-' :: grouped unsigned := by
  rw [formatChars, signed, takeMinus, grouped]
  dsimp only
  rcases splitPoint (withoutLines unsigned) with ⟨whole, fraction⟩
  cases fraction <;> rfl

theorem formatChars_of_unsigned {text : List Char} (unsigned : (Text.strip text).head? ≠ some '-') :
    formatChars text = grouped (Text.strip text) := by
  have plain : takeMinus (Text.strip text) = (false, Text.strip text) := by
    unfold takeMinus
    split
    · rename_i rest same
      exact absurd (congrArg List.head? same) unsigned
    · rfl
  rw [formatChars, plain, grouped]
  dsimp only
  rcases splitPoint (withoutLines (Text.strip text)) with ⟨whole, fraction⟩
  cases fraction <;> rfl

theorem withoutLines_grouped (unsigned : List Char) :
    withoutLines (grouped unsigned) = withoutLines unsigned := by
  rw [grouped]
  by_cases member : '.' ∈ withoutLines unsigned
  · obtain ⟨before, behind, same, absent⟩ := List.eq_append_cons_of_mem member
    have plain := withoutLines_withoutLines unsigned
    rw [same] at plain ⊢
    rw [splitPoint_append absent]
    dsimp only
    rw [← plain]
    simp [withoutLines_cons]
  · rw [splitPoint_of_not_mem member]
    dsimp only
    rw [withoutLines_group, withoutLines_withoutLines]

/-- Apart from low lines, what is written is the text without the blanks around it. -/
theorem withoutLines_formatChars (text : List Char) :
    withoutLines (formatChars text) = withoutLines (Text.strip text) := by
  by_cases signed : (Text.strip text).head? = some '-'
  · obtain ⟨unsigned, same⟩ := List.head?_eq_some_iff.mp signed
    rw [formatChars_of_minus same, same, withoutLines_cons (by decide),
      withoutLines_cons (by decide), withoutLines_grouped]
  · rw [formatChars_of_unsigned signed, withoutLines_grouped]

section Solid

variable {text : List Char} (solid : ∀ c ∈ text, Text.isBlank c = false)

include solid

theorem withoutLines_formatChars_of_solid :
    withoutLines (formatChars text) = withoutLines text := by
  rw [withoutLines_formatChars, Text.strip_of_solid text solid]

theorem isBlank_of_mem_formatChars : ∀ c ∈ formatChars text, Text.isBlank c = false := by
  intro c member
  by_cases line : c = '_'
  · subst line
    decide
  · have kept : c ∈ withoutLines (formatChars text) :=
      List.mem_filter.mpr ⟨member, bne_iff_ne.mpr line⟩
    rw [withoutLines_formatChars_of_solid solid] at kept
    exact solid c (List.mem_filter.mp kept).1

end Solid

theorem cleaned_of_solid {text : String} (solid : ∀ c ∈ text.toList, Text.isBlank c = false) :
    cleaned text = withoutLines text.toList := by
  rw [cleaned, Text.strip_of_solid _ solid]

/-- Nothing that counts in an amount is lost. -/
theorem cleaned_format {text : String} (solid : ∀ c ∈ text.toList, Text.isBlank c = false) :
    cleaned (format text) = cleaned text := by
  have written : (format text).toList = formatChars text.toList := String.toList_ofList
  rw [cleaned_of_solid solid, cleaned_of_solid (written ▸ isBlank_of_mem_formatChars solid),
    written, withoutLines_formatChars_of_solid solid]

/-- Two readings that give the same number, or that are both refused with a reason. -/
inductive Agree : Except Fault Nat → Except Fault Nat → Prop
  | number (units : Nat) : Agree (.ok units) (.ok units)
  | refused {first second : Fault} (reason : first.isRefusal = true)
    (other : second.isRefusal = true) :
      Agree (.error first) (.error second)

theorem agree_of_cleaned {first second : String} (same : cleaned first = cleaned second) :
    Agree (parse first) (parse second) := by
  by_cases some : ∃ whole fraction, Written (cleaned first) whole fraction
  · obtain ⟨whole, fraction, written⟩ := some
    rw [parse_of_written written, parse_of_written (same ▸ written)]
    exact .number _
  · obtain ⟨fault, refused, reason⟩ := exists_parse_of_not_written some
    obtain ⟨other, refusedToo, reasonToo⟩ := exists_parse_of_not_written (same ▸ some)
    rw [refused, refusedToo]
    exact .refused reason reasonToo

/-! ### Whole numbers -/

theorem digitRun_append {run : List Char} (isRun : IsRun run) (rest : List Char) (afterDigit : Bool)
    (some_digit : afterDigit = true ∨ run ≠ []) :
    digitRun afterDigit (run ++ rest) =
      (digitRun true rest).map fun read =>
        (run.map (fun c => (value? c).getD 0) ++ read.1, read.2) := by
  induction run generalizing afterDigit with
  | nil =>
      obtain rfl := some_digit.resolve_right (fun absent => absent rfl)
      exact Option.map_id'.symm
  | cons c run ih =>
      have later := ih (fun other member => isRun other (List.mem_cons_of_mem c member)) true
        (.inl rfl)
      obtain ⟨value, found⟩ := Option.isSome_iff_exists.mp (isRun c List.mem_cons_self)
      rw [List.cons_append, digitRun, found]
      dsimp only
      rw [later, Option.map_map, List.map_cons, found]
      rfl

/-- Groups with single low lines between them are read as the digits that they hold. -/
theorem digitRun_intercalate (first : List Char) (later : List (List Char))
    (present : ∀ group ∈ first :: later, group ≠ [])
    (runs : ∀ group ∈ first :: later, IsRun group) :
    digitRun false (List.intercalate ['_'] (first :: later)) =
      some ((first :: later).flatten.map fun c => (value? c).getD 0, []) := by
  induction later generalizing first with
  | nil =>
      have whole := digitRun_append (runs first List.mem_cons_self) [] false
        (.inr (present first List.mem_cons_self))
      rw [List.append_nil] at whole
      rw [List.intercalate_singleton, List.flatten_singleton, whole]
      exact congrArg some (Prod.ext (List.append_nil _) rfl)
  | cons second later ih =>
      rw [List.forall_mem_cons] at present runs
      have line : digitRun true (['_'] ++ List.intercalate ['_'] (second :: later)) =
          digitRun false (List.intercalate ['_'] (second :: later)) := rfl
      rw [List.intercalate_cons_cons, List.append_assoc,
        digitRun_append runs.1 _ false (.inr present.1), line, ih second present.2 runs.2,
        Option.map_some]
      exact congrArg some (Prod.ext List.map_append.symm rfl)

theorem isRun_ofNat (n : Nat) : IsRun (ofNat n) := forall_mem_ofNat (by decide) n

theorem ofNat_ne_nil (n : Nat) : ofNat n ≠ [] := by
  rw [ofNat_eq_map_places, ne_eq, List.map_eq_nil_iff]
  exact places_ne_nil n

theorem grouped_ofNat (n : Nat) : grouped (ofNat n) = group (ofNat n) := by
  have unmarked : '_' ∉ ofNat n := not_mem_of_isRun (isRun_ofNat n) (by decide)
  rw [grouped, withoutLines_of_not_mem unmarked,
    splitPoint_of_not_mem (not_mem_of_isRun (isRun_ofNat n) (by decide))]

def signOf (n : Int) : List Char := if n < 0 then ['-'] else []

theorem formatChars_ofInt (n : Int) :
    formatChars (ofInt n) = signOf n ++ group (ofNat n.natAbs) := by
  cases n with
  | ofNat n =>
      have solid := Text.strip_of_solid (ofNat n) (isBlank_of_mem_ofNat n)
      have unsigned : (ofNat n).head? ≠ some '-' := fun signed =>
        not_mem_of_isRun (isRun_ofNat n) (by decide) (List.mem_of_head? signed)
      have positive : ¬ Int.ofNat n < 0 := Int.not_lt.mpr (Int.natCast_nonneg n)
      rw [ofInt, formatChars_of_unsigned (solid.symm ▸ unsigned), solid, grouped_ofNat, signOf,
        if_neg positive]
      rfl
  | negSucc n =>
      have solid : Text.strip ('-' :: ofNat (n + 1)) = '-' :: ofNat (n + 1) := by
        apply Text.strip_of_solid
        rw [List.forall_mem_cons]
        exact ⟨by decide, isBlank_of_mem_ofNat (n + 1)⟩
      rw [ofInt, formatChars_of_minus solid, grouped_ofNat, signOf, if_pos (Int.negSucc_lt_zero n)]
      rfl

theorem exists_groups_formatInt (n : Int) :
    ∃ first later, (formatInt n).toList = signOf n ++ List.intercalate ['_'] (first :: later) ∧
      (first :: later).flatten = ofNat n.natAbs ∧ Groups first later := by
  obtain ⟨first, later, written, digits, groups⟩ := exists_group (ofNat_ne_nil n.natAbs)
  exact ⟨first, later, by rw [formatInt, String.toList_ofList, formatChars_ofInt, written],
    digits, groups⟩

theorem mem_intercalate {groups : List (List Char)} {c : Char}
    (member : c ∈ List.intercalate ['_'] groups) :
    c = '_' ∨ c ∈ groups.flatten := by
  by_cases line : c = '_'
  · exact .inl line
  · have kept : c ∈ withoutLines (List.intercalate ['_'] groups) :=
      List.mem_filter.mpr ⟨member, bne_iff_ne.mpr line⟩
    rw [withoutLines_intercalate] at kept
    exact .inr (List.mem_filter.mp kept).1

/-- Grouped digits behind a sign are read as the number that they spell. -/
theorem read_groups {n : Int} (short : (ofNat n.natAbs).length ≤ digitLimit) {first : List Char}
    {later : List (List Char)} (digits : (first :: later).flatten = ofNat n.natAbs)
    (groups : Groups first later) :
    Decimal.read (signOf n ++ List.intercalate ['_'] (first :: later)) = .ok n := by
  -- Every character is a digit or a low line, so nothing is trimmed and no sign is found among
  -- them.
  have holds : ∀ {p : Char → Prop}, p '_' → (∀ place < 10, p (digit place)) →
      ∀ c ∈ List.intercalate ['_'] (first :: later), p c := by
    intro p line each c member
    rcases mem_intercalate member with rfl | inside
    · exact line
    · exact forall_mem_ofNat each n.natAbs c (digits ▸ inside)
  have present : ∀ group ∈ first :: later, group ≠ [] := by
    rw [List.forall_mem_cons]
    exact ⟨List.ne_nil_of_length_pos groups.present, fun group member =>
      List.ne_nil_of_length_pos (groups.full group member ▸ Nat.succ_pos 2)⟩
  have runs : ∀ group ∈ first :: later, IsRun group := fun group member c inside =>
    isRun_ofNat n.natAbs c (digits ▸ List.mem_flatten_of_mem member inside)
  have run := digitRun_intercalate first later present runs
  rw [digits, values_ofNat] at run
  rw [ofNat_eq_map_places, List.length_map] at short
  have solid : (signOf n ++ List.intercalate ['_'] (first :: later)).dropWhile Text.isWhiteSpace =
      signOf n ++ List.intercalate ['_'] (first :: later) := by
    apply Text.dropWhile_of_solid
    rw [List.forall_mem_append]
    refine ⟨fun c member => ?_, holds (by decide) (by decide)⟩
    rw [signOf] at member
    split_ifs at member
    · rw [List.mem_singleton.mp member]
      decide
    · exact absurd member List.not_mem_nil
  have sign : takeSign (signOf n ++ List.intercalate ['_'] (first :: later)) =
      (decide (n < 0), List.intercalate ['_'] (first :: later)) := by
    rw [signOf]
    split_ifs with negative
    · rw [decide_eq_true negative]
      rfl
    · rw [decide_eq_false negative]
      exact takeSign_of_unsigned _ (fun member =>
        holds (p := (· ≠ '-')) (by decide) (by decide) _ member rfl)
        (fun member => holds (p := (· ≠ '+')) (by decide) (by decide) _ member rfl)
  rw [Decimal.read, solid, sign]
  simp only [run, if_neg (Nat.not_lt.mpr short), List.dropWhile_nil, List.isEmpty_nil, if_true,
    valueOf_places, decide_eq_true_eq]
  split_ifs with negative <;> congr 1 <;> omega

/-- Grouping changes nothing but low lines, and no amount. A text without blanks keeps its other
characters in their order, and reads as the amount that it was or is refused as before. A number is
written as its sign and groups of digits, the first of one to three and every later one of three,
and reads back as itself. -/
theorem format_keeps_amounts :
    (∀ text : String, (∀ c ∈ text.toList, Text.isBlank c = false) →
      withoutLines (format text).toList = withoutLines text.toList ∧
        Agree (parse (format text)) (parse text)) ∧
    ∀ n : Int, n.natAbs < 10 ^ digitLimit → ∃ first later,
      (formatInt n).toList = signOf n ++ List.intercalate ['_'] (first :: later) ∧
      (first :: later).flatten = ofNat n.natAbs ∧ Groups first later ∧
        Decimal.read (formatInt n).toList = .ok n := by
  refine ⟨fun text solid => ⟨?_, agree_of_cleaned (cleaned_format solid)⟩, fun n short => ?_⟩
  · rw [format, String.toList_ofList, withoutLines_formatChars_of_solid solid]
  · obtain ⟨first, later, written, digits, groups⟩ := exists_groups_formatInt n
    refine ⟨first, later, written, digits, groups, ?_⟩
    rw [written]
    exact read_groups (length_ofNat_le n.natAbs digitLimit (by decide) short) digits groups

theorem format_millions :
    ((∀ c ∈ "_1234567.0625".toList, Text.isBlank c = false) ∧
      withoutLines (format "_1234567.0625").toList = "1234567.0625".toList ∧
      Agree (parse (format "_1234567.0625")) (parse "_1234567.0625")) ∧
    (-1234567 : Int).natAbs < 10 ^ digitLimit ∧
      Decimal.read (formatInt (-1234567)).toList = .ok (-1234567) := by
  have unblanked : "_1234567.0625".toList.all (fun c => !Text.isBlank c) = true := by decide
  have solid : ∀ c ∈ "_1234567.0625".toList, Text.isBlank c = false := fun c member =>
    Bool.eq_false_of_not_eq_true' (List.all_eq_true.mp unblanked c member)
  have short : (-1234567 : Int).natAbs < 10 ^ digitLimit :=
    Nat.lt_of_lt_of_le (show 1234567 < 10 ^ 7 by decide)
      (Nat.pow_le_pow_right (by decide) (by decide))
  obtain ⟨texts, numbers⟩ := format_keeps_amounts
  obtain ⟨first, later, -, -, -, back⟩ := numbers (-1234567) short
  exact ⟨⟨solid, texts _ solid⟩, short, back⟩

/-- Each part is grouped from its own end. -/
example : format "_1234567.0625" = "1_234_567.0_625" := by decide +kernel

end Amount

end TxTemplate
