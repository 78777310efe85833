import TxTemplate.Amount
import TxTemplate.Proofs.Numeral
import TxTemplate.Proofs.Outcome

set_option autoImplicit false

/-! Amounts are read exactly. An amount is a run of digits, or two runs around a point; every other
text is refused, and the number is the value of the runs by the places of their digits. Characters
that only look like digits are let through to where numbers are read, and refused there. -/

namespace TxTemplate

namespace Decimal

/-! ### Runs of digits -/

/-- A run of decimal digits of any script; it may be empty. -/
def IsRun (run : List Char) : Prop := ∀ c ∈ run, isDecimal c = true

/-- The number that a run stands for: every digit counts ten times what it would count one place
further on. -/
def worth (run : List Char) : Nat := run.foldl (fun total c => 10 * total + (value? c).getD 0) 0

theorem worth_append (first second : List Char) :
    worth (first ++ second) = worth first * 10 ^ second.length + worth second := by
  induction second using List.reverseRecOn with
  | nil => simp [worth]
  | append_singleton run c ih =>
      have last (text : List Char) : worth (text ++ [c]) = 10 * worth text + (value? c).getD 0 := by
        simp [worth]
      rw [← List.append_assoc, last, last, ih, List.length_append, List.length_singleton, pow_succ]
      ring

theorem worth_noughts (count : Nat) : worth (List.replicate count '0') = 0 := by
  induction count with
  | zero => rfl
  | succ count ih =>
      rw [List.replicate_succ', worth_append, ih]
      rfl

theorem valueOf_values (run : List Char) :
    valueOf (run.map fun c => (value? c).getD 0) = worth run := by
  rw [valueOf, Radix.value_eq_ofDigits, Nat.ofDigits_eq_foldr, List.foldr_reverse, List.foldl_map,
    worth]
  simp only [Nat.cast_id, Nat.add_comm]

/-! ### Characters that look like digits -/

theorem toNat_of_isDigitLike {c : Char} (like : isDigitLike c = true) :
    ∃ range ∈ (zeros.map fun start => (start, start + 9)) ++ digitLikeRanges,
      range.1 ≤ c.toNat ∧ c.toNat ≤ range.2 := by
  rw [isDigitLike, Bool.or_eq_true] at like
  rcases like with decimal | listed
  · rw [isDecimal, value?, Option.isSome_map, List.find?_isSome] at decimal
    obtain ⟨start, member, inside⟩ := decimal
    rw [Bool.and_eq_true, decide_eq_true_eq, decide_eq_true_eq] at inside
    refine ⟨(start, start + 9), List.mem_append_left _ (List.mem_map_of_mem member), inside.1, ?_⟩
    exact Nat.le_of_lt_succ inside.2
  · rw [Text.inRanges, List.any_eq_true] at listed
    obtain ⟨range, member, inside⟩ := listed
    rw [Bool.and_eq_true, decide_eq_true_eq, decide_eq_true_eq] at inside
    exact ⟨range, List.mem_append_right _ member, inside⟩

theorem isWhiteSpace_of_isDigitLike {c : Char} (like : isDigitLike c = true) :
    Text.isWhiteSpace c = false := by
  have apart : ∀ range ∈ (zeros.map fun start => (start, start + 9)) ++ digitLikeRanges,
      ∀ blank ∈ Text.whiteSpaceRanges, range.2 < blank.1 ∨ blank.2 < range.1 := by decide
  obtain ⟨range, member, low, high⟩ := toNat_of_isDigitLike like
  rw [Text.isWhiteSpace, Text.inRanges, List.any_eq_false]
  intro blank listed inside
  rw [Bool.and_eq_true, decide_eq_true_eq, decide_eq_true_eq] at inside
  rcases apart range member blank listed with below | above
  · omega
  · omega

theorem isDigitLike_of_isDecimal {c : Char} (decimal : isDecimal c = true) :
    isDigitLike c = true := by
  rw [isDigitLike, decimal, Bool.true_or]

/-! ### Reading a run -/

theorem digitRun_of_unlined (text : List Char) (unlined : '_' ∉ text) :
    digitRun true text =
      some ((text.takeWhile isDecimal).map fun c => (value? c).getD 0,
        text.dropWhile isDecimal) := by
  induction text with
  | nil => rfl
  | cons c rest ih =>
      have notLine : ¬ c = '_' := fun same => unlined (same ▸ List.mem_cons_self)
      have later := ih fun member => unlined (List.mem_cons_of_mem c member)
      cases valued : value? c with
      | none =>
          have other : isDecimal c = false := by rw [isDecimal, valued]; rfl
          simp [digitRun, valued, notLine, other]
      | some value =>
          have digit : isDecimal c = true := by rw [isDecimal, valued]; rfl
          simp [digitRun, valued, later, digit]

theorem digitRun_false_cons (c : Char) (rest : List Char) :
    digitRun false (c :: rest) = if isDecimal c then digitRun true (c :: rest) else none := by
  cases valued : value? c with
  | none =>
      have other : isDecimal c = false := by rw [isDecimal, valued]; rfl
      rw [digitRun, valued, other]
      rfl
  | some value =>
      have digit : isDecimal c = true := by rw [isDecimal, valued]; rfl
      rw [digitRun, digitRun, valued, digit]
      rfl

section Reading

variable {run : List Char}

theorem not_mem_of_isDigitLike (like : ∀ c ∈ run, isDigitLike c = true) {mark : Char}
    (other : isDigitLike mark = false) : mark ∉ run := by
  intro member
  rw [like mark member] at other
  cases other

/-- Nothing is trimmed off characters that look like digits, and no sign is found in front of
them. -/
theorem read_of_like (like : ∀ c ∈ run, isDigitLike c = true) :
    read run =
      match digitRun false run with
      | none => .error .malformed
      | some (digits, rest) =>
        if digitLimit < digits.length then .error (.tooLong digits.length)
        else if (rest.dropWhile Text.isWhiteSpace).isEmpty then .ok (valueOf digits)
        else .error .malformed := by
  have unblank : run.dropWhile Text.isWhiteSpace = run :=
    Text.dropWhile_of_solid _ _ fun c member => isWhiteSpace_of_isDigitLike (like c member)
  have unsigned := takeSign_of_unsigned run (not_mem_of_isDigitLike like (by decide))
    (not_mem_of_isDigitLike like (by decide))
  rw [read, unblank, unsigned]
  rfl

theorem read_of_isRun (present : run ≠ []) (isRun : IsRun run) :
    read run = if digitLimit < run.length then .error (.tooLong run.length)
      else .ok (worth run) := by
  have like : ∀ c ∈ run, isDigitLike c = true :=
    fun c member => isDigitLike_of_isDecimal (isRun c member)
  obtain ⟨c, rest, rfl⟩ := List.exists_cons_of_ne_nil present
  have whole := digitRun_of_unlined (c :: rest) (not_mem_of_isDigitLike like (by decide))
  rw [List.takeWhile_eq_self_iff.mpr isRun, List.dropWhile_eq_nil_iff.mpr isRun] at whole
  rw [read_of_like like, digitRun_false_cons, if_pos (isRun c List.mem_cons_self), whole]
  dsimp only
  rw [List.length_map, List.dropWhile_nil, valueOf_values]
  rfl

/-- What only looks like a digit ends the run, and what follows a run is no blank. -/
theorem exists_read_of_not_isRun (like : ∀ c ∈ run, isDigitLike c = true) (broken : ¬ IsRun run) :
    ∃ flaw, read run = .error flaw := by
  obtain ⟨c, rest, rfl⟩ : ∃ c rest, run = c :: rest := by
    refine List.exists_cons_of_ne_nil ?_
    rintro rfl
    exact broken fun _ member => absurd member List.not_mem_nil
  have whole := digitRun_of_unlined (c :: rest) (not_mem_of_isDigitLike like (by decide))
  rw [read_of_like like, digitRun_false_cons]
  by_cases first : isDecimal c = true
  · have stopped : (c :: rest).dropWhile isDecimal ≠ [] :=
      fun none => broken (List.dropWhile_eq_nil_iff.mp none)
    have solid : ((c :: rest).dropWhile isDecimal).dropWhile Text.isWhiteSpace =
        (c :: rest).dropWhile isDecimal := by
      refine Text.dropWhile_of_solid _ _ fun other member =>
        isWhiteSpace_of_isDigitLike (like other ?_)
      exact (List.dropWhile_sublist isDecimal).subset member
    rw [if_pos first, whole]
    dsimp only
    rw [solid, List.isEmpty_eq_false_iff.mpr stopped]
    split
    · exact ⟨_, rfl⟩
    · exact ⟨_, rfl⟩
  · rw [if_neg first]
    exact ⟨_, rfl⟩

end Reading

end Decimal

namespace Amount

open Decimal

/-! ### The parts of an amount -/

/-- Two runs around a point, or a run without one. -/
def Spells (text whole fraction : List Char) : Prop :=
  text = whole ∧ fraction = [] ∨ text = whole ++ '.' :: fraction

theorem splitPoint_of_not_mem {text : List Char} (absent : '.' ∉ text) :
    splitPoint text = (text, none) := by
  have kept : ∀ c ∈ text, (c != '.') = true :=
    fun c member => bne_iff_ne.mpr (ne_of_mem_of_not_mem member absent)
  rw [splitPoint, List.dropWhile_eq_nil_iff.mpr kept]

theorem splitPoint_append {whole : List Char} (absent : '.' ∉ whole) (fraction : List Char) :
    splitPoint (whole ++ '.' :: fraction) = (whole, some fraction) := by
  have kept : ∀ c ∈ whole, (c != '.') = true :=
    fun c member => bne_iff_ne.mpr (ne_of_mem_of_not_mem member absent)
  rw [splitPoint, List.dropWhile_append_of_pos kept, List.takeWhile_append_of_pos kept]
  simp

theorem parts_eq_some_iff {text whole fraction : List Char} :
    parts text = some (whole, fraction) ↔ Spells text whole fraction ∧ '.' ∉ whole ∧
      '.' ∉ fraction := by
  by_cases member : '.' ∈ text
  · obtain ⟨before, behind, rfl, absent⟩ := List.eq_append_cons_of_mem member
    rw [parts, splitPoint_append absent]
    constructor
    · intro split
      dsimp only at split
      split_ifs at split with more
      obtain ⟨rfl, rfl⟩ := Prod.mk.inj (Option.some.inj split)
      exact ⟨.inr rfl, absent, fun inside => more (List.contains_iff_mem.mpr inside)⟩
    · rintro ⟨⟨rfl, -⟩ | same, first, second⟩
      · exact absurd member first
      · have split := splitPoint_append absent behind
        rw [same, splitPoint_append first] at split
        obtain ⟨rfl, others⟩ := Prod.mk.inj split
        obtain rfl := Option.some.inj others
        dsimp only
        rw [if_neg fun more => second (List.contains_iff_mem.mp more)]
  · rw [parts, splitPoint_of_not_mem member]
    constructor
    · intro split
      obtain ⟨rfl, rfl⟩ := Prod.mk.inj (Option.some.inj split)
      exact ⟨.inl ⟨rfl, rfl⟩, member, List.not_mem_nil⟩
    · rintro ⟨⟨rfl, rfl⟩ | rfl, -, -⟩
      · rfl
      · exact absurd (List.mem_append_right _ List.mem_cons_self) member

theorem runValue_of_isRun {run : List Char} (isRun : IsRun run) (short : run.length ≤ digitLimit) :
    runValue run = .ok (worth run) := by
  cases run with
  | nil => rfl
  | cons c rest =>
      rw [runValue, read_of_isRun (List.cons_ne_nil c rest) isRun, if_neg (Nat.not_lt.mpr short)]
      · rfl
      · exact List.cons_ne_nil c rest

theorem exists_runValue_of_bad {run : List Char} (like : ∀ c ∈ run, isDigitLike c = true)
    (bad : ¬ (IsRun run ∧ run.length ≤ digitLimit)) :
    ∃ flaw, runValue run = .error (.numeral (String.ofList run) flaw) := by
  cases run with
  | nil => exact absurd ⟨fun _ member => absurd member List.not_mem_nil, Nat.zero_le _⟩ bad
  | cons c rest =>
      obtain ⟨flaw, refused⟩ : ∃ flaw, Decimal.read (c :: rest) = .error flaw := by
        by_cases isRun : IsRun (c :: rest)
        · have long : digitLimit < (c :: rest).length :=
            Nat.not_le.mp fun short => bad ⟨isRun, short⟩
          exact ⟨_, by rw [read_of_isRun (List.cons_ne_nil c rest) isRun, if_pos long]⟩
        · exact exists_read_of_not_isRun like isRun
      exact ⟨flaw, by simp only [runValue, refused]⟩

/-! ### Amounts -/

/-- A text is an amount with these digits: there is something of it, the fraction is not finer than
the smallest unit, and the whole part is not too long to be read. -/
structure Written (text whole fraction : List Char) : Prop where
  present : text ≠ []
  spells : Spells text whole fraction
  wholeRun : IsRun whole
  fractionRun : IsRun fraction
  fine : fraction.length ≤ 9
  short : whole.length ≤ 4300

/-- An amount without the blanks around it and without low lines. -/
def cleaned (text : String) : List Char := withoutLines (Text.strip text.toList)

theorem not_mem_of_isRun {run : List Char} (isRun : IsRun run) {mark : Char}
    (other : isDecimal mark = false) :
    mark ∉ run := by
  intro member
  rw [isRun mark member] at other
  cases other

theorem all_isDigitLike_of_isRun {run : List Char} (isRun : IsRun run) :
    run.all isDigitLike = true :=
  List.all_eq_true.mpr fun c member => isDigitLike_of_isDecimal (isRun c member)

theorem Written.head_ne {text whole fraction : List Char} (written : Written text whole fraction) :
    text.head? ≠ some '-' := by
  intro signed
  have member : '-' ∈ text := List.mem_of_head? signed
  rcases written.spells with ⟨rfl, -⟩ | rfl
  · exact not_mem_of_isRun written.wholeRun (by decide) member
  · rcases List.mem_append.mp member with first | second
    · exact not_mem_of_isRun written.wholeRun (by decide) first
    · rcases List.mem_cons.mp second with same | second
      · exact absurd same (by decide)
      · exact not_mem_of_isRun written.fractionRun (by decide) second

theorem runValue_filled {fraction : List Char} (isRun : IsRun fraction)
    (fine : fraction.length ≤ 9) :
    runValue (if fraction.isEmpty then []
      else fraction ++ List.replicate (places - fraction.length) '0') =
      .ok (worth fraction * 10 ^ (9 - fraction.length)) := by
  cases fraction with
  | nil => rfl
  | cons c rest =>
      have filled : IsRun (c :: rest ++ List.replicate (places - (c :: rest).length) '0') := by
        intro digit member
        rcases List.mem_append.mp member with given | nought
        · exact isRun digit given
        · rw [List.eq_of_mem_replicate nought]
          decide
      have short : (c :: rest ++ List.replicate (places - (c :: rest).length) '0').length ≤
          digitLimit := by
        rw [List.length_append, List.length_replicate, places, Nat.add_sub_cancel' fine]
        decide
      rw [List.isEmpty_cons, if_neg Bool.false_ne_true, runValue_of_isRun filled short,
        worth_append, worth_noughts, List.length_replicate, Nat.add_zero]
      rfl

theorem exists_runValue_filled_of_broken {fraction : List Char}
    (like : ∀ c ∈ fraction, isDigitLike c = true) (broken : ¬ IsRun fraction) :
    ∃ flaw, runValue (if fraction.isEmpty then [] else
        fraction ++ List.replicate (places - fraction.length) '0') = .error flaw ∧
          flaw.isRefusal = true := by
  have present : fraction.isEmpty = false := by
    rw [List.isEmpty_eq_false_iff]
    rintro rfl
    exact broken fun _ member => absurd member List.not_mem_nil
  have filled : ∀ c ∈ fraction ++ List.replicate (places - fraction.length) '0',
      isDigitLike c = true := by
    intro c member
    rcases List.mem_append.mp member with given | nought
    · exact like c given
    · rw [List.eq_of_mem_replicate nought]
      decide
  have bad : ¬ (IsRun (fraction ++ List.replicate (places - fraction.length) '0') ∧
      (fraction ++ List.replicate (places - fraction.length) '0').length ≤ digitLimit) :=
    fun good => broken fun c member => good.1 c (List.mem_append_left _ member)
  obtain ⟨flaw, refused⟩ := exists_runValue_of_bad filled bad
  rw [present, if_neg Bool.false_ne_true, refused]
  exact ⟨_, rfl, rfl⟩

theorem parse_of_written {text : String} {whole fraction : List Char}
    (written : Written (cleaned text) whole fraction) :
    parse text = .ok (worth whole * 10 ^ 9 + worth fraction * 10 ^ (9 - fraction.length)) := by
  have split : parts (cleaned text) = some (whole, fraction) :=
    parts_eq_some_iff.mpr ⟨written.spells, not_mem_of_isRun written.wholeRun (by decide),
      not_mem_of_isRun written.fractionRun (by decide)⟩
  have fine : ¬ places < fraction.length := Nat.not_lt.mpr written.fine
  have first := runValue_of_isRun written.wholeRun written.short
  have second := runValue_filled written.fractionRun written.fine
  rw [parse, ← cleaned, List.isEmpty_eq_false_iff.mpr written.present, if_neg Bool.false_ne_true,
    if_neg written.head_ne, split]
  dsimp only
  rw [all_isDigitLike_of_isRun written.wholeRun, all_isDigitLike_of_isRun written.fractionRun,
    if_neg (by decide), if_neg fine, first, second]
  rfl

/-- Whatever is not a written amount is refused with a reason. -/
theorem exists_parse_of_not_written {text : String}
    (unwritten : ¬ ∃ whole fraction, Written (cleaned text) whole fraction) :
    ∃ fault, parse text = .error fault ∧ fault.isRefusal = true := by
  rw [parse, ← cleaned]
  split_ifs with empty signed
  · exact ⟨_, rfl, rfl⟩
  · exact ⟨_, rfl, rfl⟩
  split
  · exact ⟨_, rfl, rfl⟩
  next whole fraction split =>
  by_cases strange : (!(whole.all isDigitLike && fraction.all isDigitLike)) = true
  · rw [if_pos strange]
    exact ⟨_, rfl, rfl⟩
  by_cases coarse : places < fraction.length
  · rw [if_neg strange, if_pos coarse]
    exact ⟨_, rfl, rfl⟩
  rw [if_neg strange, if_neg coarse]
  rw [Bool.not_eq_true', Bool.not_eq_false, Bool.and_eq_true, List.all_eq_true,
    List.all_eq_true] at strange
  have fine : fraction.length ≤ 9 := Nat.not_lt.mp coarse
  -- Few enough digits stand behind the point, so one of the runs is bad; that of the whole part is
  -- read first.
  by_cases good : IsRun whole ∧ whole.length ≤ digitLimit
  · have broken : ¬ IsRun fraction := fun isRun => unwritten ⟨whole, fraction,
      fun none => empty (List.isEmpty_iff.mpr none), (parts_eq_some_iff.mp split).1, good.1, isRun,
        fine, good.2⟩
    obtain ⟨fault, refused, isRefusal⟩ := exists_runValue_filled_of_broken strange.2 broken
    rw [runValue_of_isRun good.1 good.2, Outcome.ok_bind, refused]
    exact ⟨fault, rfl, isRefusal⟩
  · obtain ⟨flaw, refused⟩ := exists_runValue_of_bad strange.1 good
    rw [refused]
    exact ⟨_, rfl, rfl⟩

/-- A text gives a number exactly when, without the blanks around it and without low lines, it is a
run of digits or two runs around a point; the number is then the value of the runs, the first in
whole units and the second by its places. Every other text is refused with a reason. -/
theorem parse_eq_ok_iff_written (text : String) :
    (∀ units, parse text = .ok units ↔ ∃ whole fraction, Written (cleaned text) whole fraction ∧
        units = worth whole * 10 ^ 9 + worth fraction * 10 ^ (9 - fraction.length)) ∧
      ∀ fault, parse text = .error fault → fault.isRefusal = true := by
  by_cases some : ∃ whole fraction, Written (cleaned text) whole fraction
  · obtain ⟨whole, fraction, written⟩ := some
    have parsed := parse_of_written written
    refine ⟨fun units => ⟨fun result => ?_, ?_⟩, fun fault refused => ?_⟩
    · rw [parsed] at result
      exact ⟨whole, fraction, written, (Except.ok.inj result).symm⟩
    · rintro ⟨first, second, other, rfl⟩
      exact parse_of_written other
    · rw [parsed] at refused
      cases refused
  · obtain ⟨fault, refused, isRefusal⟩ := exists_parse_of_not_written some
    refine ⟨fun units => ⟨fun result => ?_, ?_⟩, fun other same => ?_⟩
    · rw [refused] at result
      cases result
    · rintro ⟨whole, fraction, written, -⟩
      exact absurd ⟨whole, fraction, written⟩ some
    · rw [refused] at same
      obtain rfl := Except.error.inj same
      exact isRefusal

/-- Digits of another script count like any others, and a point alone is nought. -/
example : (parse " 1_0.0٥ ").toOption = some 10050000000 ∧ (parse ".").toOption = some 0 := by
  decide +kernel

end Amount

end TxTemplate
