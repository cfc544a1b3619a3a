import Mathlib.Data.Int.ConditionallyCompleteOrder
import Mathlib.Data.Int.Interval
import Mathlib.Data.Set.Card

set_option autoImplicit false

/-!
# Counting points of a grid
-/
namespace ServiceLib.GridCount

noncomputable section

def count (S:Set ℤ) (a b:ℤ) : ℕ := (S ∩ Set.Ico a b).ncard

end

variable {S:Set ℤ} {a b d n:ℤ}

lemma finite_inter_Ico (S:Set ℤ) (a b:ℤ) : (S ∩ Set.Ico a b).Finite :=
 (Set.finite_Ico a b).subset Set.inter_subset_right

lemma count_eq_zero (h:∀ o∈S,a≤o→ b≤o) : count S a b=0 := by
 have hempty:S ∩ Set.Ico a b=∅:=by
  apply Set.eq_empty_of_forall_notMem
  rintro o ⟨hS,hao,hob⟩
  have hbo:=h o hS hao
  omega
 rw[count,hempty,Set.ncard_empty]

lemma count_least (hd:0 < d) (hS:∀ o∈S,d ∣ o) (hn:n∈S) (han:a≤n) (hnb:n < b)
  (hleast:∀ o∈S,a≤o→ n≤o) : count S a b=count S (n+d) b+1 := by
 have hset:S ∩ Set.Ico a b=insert n (S ∩ Set.Ico (n+d) b):=by
  ext o
  constructor
  · rintro ⟨ho,hao,hob⟩
    have hno:=hleast o ho hao
    by_cases heq:o=n
    · exact .inl heq
    · refine .inr ⟨ho,?_,hob⟩
      have hdvd:d ∣ o - n:=Int.dvd_sub (hS o ho) (hS n hn)
      have hle:=Int.le_of_dvd (by omega) hdvd
      omega
  · rintro (rfl | ⟨ho,hlo,hob⟩)
    · exact ⟨hn,han,hnb⟩
    · exact ⟨ho,by omega,hob⟩
 have hfresh:n∉S ∩ Set.Ico (n+d) b:=by
  rintro ⟨-,hlo,-⟩
  omega
 rw[count,hset,Set.ncard_insert_of_notMem hfresh (finite_inter_Ico S _ _)]
 rfl

end ServiceLib.GridCount
