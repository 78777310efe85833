import TxTemplate.CommandLine.Command
import TxTemplate.Proofs.Outcome

set_option autoImplicit false

/-! Accepted command lines name a command with its first argument. A word that is no option is plain
or the separator, which stands at most once; so a taken word has one value, and never more. -/

namespace TxTemplate.CommandLine

/-- Words without options: plain words before the separator are no separators themselves, and behind
it every word is plain. -/
inductive Positional : List Word → Prop
  | nil : Positional []
  | plain {text : String} {rest : List Word} (other : text ≠ "--") (later : Positional rest) :
      Positional (.plain text :: rest)
  | separator (texts : List String) : Positional (.separator :: texts.map .plain)

/-- Words that are left: of positional words, or of those behind the separator. -/
def Remaining (words : List Word) : Prop :=
  Positional words ∨ ∃ texts : List String, words = texts.map .plain

theorem eq_plain_of_wordOf {options : List (String × Purpose)} {text : String} {word : Word}
    (read : wordOf options text = .ok word) (positional : isOption word = false) :
    word = .plain text := by
  have dashed : ∀ found, dashedWord text = found → isOption found = false →
      found = .plain text := by
    rintro found rfl plain
    revert plain
    unfold dashedWord
    split
    · exact fun _ => rfl
    · exact fun option => by cases option
  have named : ∀ purpose attached, isOption (optionWord purpose attached) = true := by
    intro purpose attached
    cases purpose <;> rfl
  unfold wordOf at read
  split at read
  · dsimp only at read
    split at read
    · cases read
      exact absurd positional (by simp [named])
    · split at read
      · cases read
        exact absurd positional (by simp [named])
      · split at read
        · obtain ⟨purpose, -, chosen⟩ := Outcome.bind_eq_ok.mp read
          cases purpose with
          | some purpose =>
              cases chosen
              exact absurd positional (by simp [named])
          | none =>
              cases chosen
              exact dashed _ rfl positional
        · split at read
          · cases read
            cases positional
          · cases read
            exact dashed _ rfl positional
  · cases read
    rfl

theorem positional_of_wordsOf {options : List (String × Purpose)} {texts : List String}
    {words : List Word} (read : wordsOf options texts = .ok words)
    (plain : words.any isOption = false) : Positional words := by
  induction texts generalizing words with
  | nil =>
      cases read
      exact .nil
  | cons text rest ih =>
      rw [wordsOf] at read
      split at read
      · cases read
        exact .separator rest
      · rename_i other
        obtain ⟨word, first, later⟩ := Outcome.bind_eq_ok.mp read
        obtain ⟨more, others, last⟩ := Outcome.bind_eq_ok.mp later
        cases last
        rw [List.any_cons, Bool.or_eq_false_iff] at plain
        rw [eq_plain_of_wordOf first plain.1]
        exact .plain other (ih others plain.2)

section Taking

variable (texts : List String)

theorem takeWhile_plain : (texts.map Word.plain).takeWhile isSeparator = [] := by
  cases texts <;> rfl

theorem dropWhile_plain : (texts.map Word.plain).dropWhile isSeparator = texts.map .plain := by
  cases texts <;> rfl

end Taking

/-- Separators behind a plain word are not counted, and what is left stays in order. -/
theorem separators_of_positional {text : String} {rest : List Word} (other : text ≠ "--")
    (positional : Positional rest) :
    values (.plain text :: rest.takeWhile isSeparator) = [text] ∧
      Remaining (rest.dropWhile isSeparator) := by
  have kept : [text, "--"].erase "--" = [text] := by
    rw [List.erase_cons_tail (by simpa using other), List.erase_cons_head]
  have alone : [text].erase "--" = [text] := List.erase_of_not_mem (by simpa using other.symm)
  cases positional with
  | nil => exact ⟨alone, .inl .nil⟩
  | plain next later => exact ⟨alone, .inl (.plain next later)⟩
  | separator texts =>
      rw [List.takeWhile_cons_of_pos rfl, List.dropWhile_cons_of_pos rfl, takeWhile_plain,
        dropWhile_plain]
      exact ⟨kept, .inr ⟨texts, rfl⟩⟩

theorem takeWord_of_positional {words taken left : List Word} (positional : Positional words)
    (found : takeWord words = some (taken, left)) :
    (∃ text, values taken = [text]) ∧ Remaining left := by
  cases positional with
  | nil => cases found
  | plain other later =>
      cases found
      obtain ⟨one, remaining⟩ := separators_of_positional other later
      exact ⟨⟨_, one⟩, remaining⟩
  | separator texts =>
      rw [takeWord, List.takeWhile_cons_of_pos rfl, List.dropWhile_cons_of_pos rfl, takeWhile_plain,
        dropWhile_plain] at found
      cases texts with
      | nil => cases found
      | cons text texts =>
          rw [List.map_cons] at found
          dsimp only at found
          rw [takeWhile_plain, dropWhile_plain] at found
          cases found
          exact ⟨⟨text, List.erase_cons_head ..⟩, .inr ⟨texts, rfl⟩⟩

theorem bind_one {key : String} {later : List Parameter} {words : List Word} {arguments : Fields}
    (positional : Positional words) (bound : bind (⟨key, .one⟩ :: later) words = .ok arguments) :
    ∃ text more left, arguments = (key, .str text) :: more ∧ bind later left = .ok more ∧
      Remaining left := by
  rw [bind] at bound
  dsimp only at bound
  split at bound
  · cases bound
  · rename_i taken left found
    obtain ⟨more, others, last⟩ := Outcome.bind_eq_ok.mp bound
    obtain ⟨⟨text, one⟩, remaining⟩ := takeWord_of_positional positional found
    cases last
    rw [one]
    exact ⟨text, more, left, rfl, others, remaining⟩

theorem values_of_remaining {words taken left : List Word} (remaining : Remaining words)
    (found : (takeWord words).getD (words.takeWhile isSeparator, words.dropWhile isSeparator) =
      (taken, left)) :
    values taken = [] ∨ ∃ text, values taken = [text] := by
  cases given : takeWord words with
  | some reached =>
      rw [given] at found
      subst found
      rcases remaining with positional | ⟨texts, rfl⟩
      · exact .inr (takeWord_of_positional positional given).1
      · cases texts with
        | nil => cases given
        | cons text texts =>
            cases given
            rw [takeWhile_plain, takeWhile_plain, List.nil_append]
            by_cases separator : text = "--"
            · subst separator
              exact .inl (List.erase_cons_head ..)
            · exact .inr ⟨text, List.erase_of_not_mem
                (by simpa [Word.text] using Ne.symm separator)⟩
  | none =>
      rw [given] at found
      cases found
      rcases remaining with positional | ⟨texts, rfl⟩
      · cases positional with
        | nil => exact .inl rfl
        | plain other later => cases given
        | separator texts =>
            rw [List.takeWhile_cons_of_pos rfl, takeWhile_plain]
            exact .inl rfl
      · rw [takeWhile_plain]
        exact .inl rfl

theorem bind_optional {key fallback : String} {words : List Word} {arguments : Fields}
    (remaining : Remaining words)
    (bound : bind [⟨key, .optional (.str fallback)⟩] words = .ok arguments) :
    ∃ text, arguments = [(key, .str text)] := by
  rw [bind] at bound
  dsimp only at bound
  rcases found : (takeWord words).getD (words.takeWhile isSeparator,
    words.dropWhile isSeparator) with ⟨taken, left⟩
  rw [found] at bound
  obtain ⟨more, others, last⟩ := Outcome.bind_eq_ok.mp bound
  have done : more = [] := by
    cases left with
    | nil =>
        cases others
        rfl
    | cons word left => cases others
  subst done
  cases last
  rcases values_of_remaining remaining found with none | ⟨text, one⟩
  · rw [none]
    exact ⟨fallback, rfl⟩
  · rw [one]
    exact ⟨text, rfl⟩

theorem bind_of_argumentsOf {parameters : List Parameter} {texts : List String} {arguments : Fields}
    (accepted : argumentsOf parameters texts = .ok arguments) :
    ∃ words, Positional words ∧ bind parameters words = .ok arguments := by
  obtain ⟨words, read, rest⟩ := Outcome.bind_eq_ok.mp accepted
  split at rest
  · cases rest
  · split at rest
    · cases rest
    · rename_i plain
      exact ⟨words, positional_of_wordsOf read (Bool.not_eq_true _ ▸ plain), rest⟩

theorem commandOf_of_invocationOf {config : Option String} {known : Bool} {words : List Word}
    {texts : List String} {invocation : Invocation}
    (accepted : invocationOf config known words texts = .ok invocation) :
    ∃ config texts, commandOf config texts = .ok invocation := by
  fun_induction invocationOf config known words texts with
  | case1 => cases accepted
  | case2 config known path words text texts ih => exact ih accepted
  | case3 config known path words option text texts ih => exact ih accepted
  | case4 config known words text texts ih => exact ih accepted
  | case5 config known text words texts =>
      obtain ⟨invocation, read, last⟩ := Outcome.bind_eq_ok.mp accepted
      split at last
      · cases last
        exact ⟨_, _, read⟩
      · cases last
  | case6 => cases accepted

theorem exists_ofInvocation_of_bind {name : String} {parameters : List Parameter}
    (config : Option String) {words : List Word} {arguments : Fields}
    (listed : (name, parameters) ∈ commands) (positional : Positional words)
    (bound : bind parameters words = .ok arguments) :
    ∃ command, Command.ofInvocation ⟨name, config, arguments⟩ = .ok command := by
  simp only [commands, List.mem_cons, Prod.mk.injEq, List.not_mem_nil, or_false] at listed
  rcases listed with ⟨rfl, rfl⟩ | ⟨rfl, rfl⟩ | ⟨rfl, rfl⟩ | ⟨rfl, rfl⟩ | ⟨rfl, rfl⟩ | ⟨rfl, rfl⟩ |
    ⟨rfl, rfl⟩ |
    ⟨rfl, rfl⟩ | ⟨rfl, rfl⟩ | ⟨rfl, rfl⟩ | ⟨rfl, rfl⟩ | ⟨rfl, rfl⟩ | ⟨rfl, rfl⟩ | ⟨rfl,
      rfl⟩ | ⟨rfl, rfl⟩
  all_goals obtain ⟨text, more, left, rfl, others, remaining⟩ := bind_one positional bound
  -- An airdrop also needs its amount to be a text; all other commands need their first argument
  -- only.
  case' inr.inr.inl => obtain ⟨amount, rfl⟩ := bind_optional remaining others
  all_goals exact ⟨_, rfl⟩

/-- Every command line that is accepted is a command. -/
theorem exists_ofInvocation {texts : List String} {invocation : Invocation}
    (accepted : parse texts = .ok invocation) :
    ∃ command, Command.ofInvocation invocation = .ok command := by
  obtain ⟨words, -, rest⟩ := Outcome.bind_eq_ok.mp accepted
  obtain ⟨config, texts, read⟩ := commandOf_of_invocationOf rest
  cases texts with
  | nil => cases read
  | cons name texts =>
      rw [commandOf] at read
      split at read
      · cases read
      · rename_i parameters found
        obtain ⟨arguments, given, last⟩ := Outcome.bind_eq_ok.mp read
        cases last
        obtain ⟨words, positional, bound⟩ := bind_of_argumentsOf given
        obtain ⟨earlier, later, split, -⟩ := List.lookup_eq_some_iff.mp found
        have listed : (name, parameters) ∈ commands :=
          split ▸ List.mem_append_right _ (List.mem_cons_self ..)
        exact exists_ofInvocation_of_bind _ listed positional bound

end TxTemplate.CommandLine
