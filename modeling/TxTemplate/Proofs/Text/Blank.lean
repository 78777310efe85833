import Mathlib.Data.List.TakeWhile
import TxTemplate.Text.Blank

set_option autoImplicit false

/-! Trimming takes nothing off a text without characters of the class that is trimmed, and nothing
of another class off any text. -/

namespace TxTemplate.Text

theorem dropWhile_of_solid (drop : Char → Bool) (text : List Char)
    (solid : ∀ c ∈ text, drop c = false) :
    text.dropWhile drop = text := by
  rw [List.dropWhile_eq_self_iff]
  intro present dropped
  rw [solid _ (List.getElem_mem present)] at dropped
  cases dropped

theorem dropEndWhile_of_solid (drop : Char → Bool) (text : List Char)
    (solid : ∀ c ∈ text, drop c = false) : dropEndWhile drop text = text := by
  have reversed : ∀ c ∈ text.reverse, drop c = false := by
    intro c member
    exact solid c (List.mem_reverse.mp member)
  rw [dropEndWhile, dropWhile_of_solid drop _ reversed, List.reverse_reverse]

theorem strip_of_solid (text : List Char) (solid : ∀ c ∈ text, isBlank c = false) :
    strip text = text := by
  rw [strip, trimBy, dropWhile_of_solid isBlank text solid,
    dropEndWhile_of_solid isBlank text solid]

theorem dropEndWhile_append_taken (drop : Char → Bool) (text : List Char) :
    dropEndWhile drop text ++ (text.reverse.takeWhile drop).reverse = text := by
  rw [dropEndWhile, ← List.reverse_append, List.takeWhile_append_dropWhile, List.reverse_reverse]

theorem mem_dropEndWhile {drop : Char → Bool} {text : List Char} {c : Char} (member : c ∈ text)
    (kept : drop c = false) : c ∈ dropEndWhile drop text := by
  rw [← dropEndWhile_append_taken drop text, List.mem_append] at member
  rcases member with rest | dropped
  · exact rest
  · rw [List.mem_takeWhile_imp (List.mem_reverse.mp dropped)] at kept
    cases kept

end TxTemplate.Text
