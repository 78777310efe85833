import Mathlib.Data.String.Basic
import TxTemplate.Confirmed.Touched

set_option autoImplicit false

/-! Texts without repetitions. Each is left where it occurs first, or all of them are put in
ascending order. -/

namespace TxTemplate

private theorem idxOf_lt_of_filter {p : String → Bool} {texts : List String} {first second : String}
    (firstHolds : p first = true) (secondHolds : p second = true)
    (before : (texts.filter p).idxOf first < (texts.filter p).idxOf second) :
    texts.idxOf first < texts.idxOf second := by
  induction texts with
  | nil => exact before
  | cons text rest ih => grind

theorem pairwise_eraseDups (texts : List String) :
    texts.eraseDups.Pairwise fun first second => texts.idxOf first < texts.idxOf second := by
  match texts with
  | [] => exact .nil
  | text :: rest =>
      have others : ∀ other ∈ (rest.filter fun other => !other == text).eraseDups,
          text ≠ other := by
        intro other member same
        simp [List.mem_eraseDups, same] at member
      rw [List.eraseDups_cons]
      refine .cons (fun other member => ?_) ?_
      · simp [others other member]
      · refine (pairwise_eraseDups _).imp_of_mem fun {first second} firstMember secondMember
          before => ?_
        have firstOther := others first firstMember
        have secondOther := others second secondMember
        have inRest := idxOf_lt_of_filter (by simpa using firstOther.symm)
          (by simpa using secondOther.symm) before
        simpa [List.idxOf_cons, firstOther, secondOther] using inRest
termination_by texts.length
decreasing_by exact Nat.lt_succ_of_le (List.length_filter_le _ _)

theorem nodup_eraseDups (texts : List String) : texts.eraseDups.Nodup :=
  (pairwise_eraseDups texts).imp fun before same => by simp [same] at before

theorem eraseDups_of_nodup {texts : List String} (distinct : texts.Nodup) :
    texts.eraseDups = texts := by
  induction texts with
  | nil => rfl
  | cons text rest ih =>
      rw [List.nodup_cons] at distinct
      have others : rest.filter (fun other => !other == text) = rest := by
        rw [List.filter_eq_self]
        intro other member
        simpa using fun same : other = text => distinct.1 (same ▸ member)
      rw [List.eraseDups_cons, others, ih distinct.2]

namespace Touched

variable {texts : List String}

theorem mem_sorted {text : String} : text ∈ sorted texts ↔ text ∈ texts := by
  rw [sorted, List.mem_mergeSort, List.mem_eraseDups]

/-- Sorted texts stand in strictly ascending order, so none of them twice. -/
theorem pairwise_sorted (texts : List String) : (sorted texts).Pairwise (· < ·) := by
  have ascending : (sorted texts).Pairwise fun first second => decide (first ≤ second) = true := by
    refine List.pairwise_mergeSort (fun first second third before after => ?_)
      (fun first second => ?_) _
    · rw [decide_eq_true_eq] at before after ⊢
      exact le_trans before after
    · simp only [Bool.or_eq_true, decide_eq_true_eq]
      exact le_total first second
  have distinct : (sorted texts).Nodup :=
    (List.mergeSort_perm _ _).nodup_iff.mpr (nodup_eraseDups texts)
  refine List.Pairwise.imp₂ (fun first second before different => ?_) ascending distinct
  exact lt_of_le_of_ne (of_decide_eq_true before) different

end Touched

end TxTemplate
