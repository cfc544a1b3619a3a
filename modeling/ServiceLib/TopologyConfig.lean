import Mathlib.Data.Fintype.Pigeonhole
import Mathlib.Logic.Function.Iterate
import ServiceLib.Topology

set_option autoImplicit false

/-! # The config ids that streams fall back to -/

namespace ServiceLib.Topology

/-- The config id of `n` is that of `m`. -/
def Graph.FallsBack (g:Graph) (n m:ℕ) : Prop :=
 g.configStep [] n = .inr m

/-- Some `getConfigId` never ends: unconfigured streams feed each other in a cycle. -/
def Graph.Endless (g:Graph) : Prop :=
 ∃ chain:ℕ → ℕ,∀ k,g.FallsBack (chain k) (chain (k + 1))

def Graph.nextConfig (g:Graph) (unwired:List Place) (n:ℕ) : ℕ :=
 match g.configStep unwired n with
 | .inl _ => n
 | .inr next => next

variable {g:Graph} {unwired:List Place} {n m fuel fuel' v:ℕ}

lemma streamConfigId_cases {p:Place} {configId:ConfigId} {output:Option Output} :
  streamConfigId unwired p configId output=.inl 0 ∨
   streamConfigId [] p configId output=streamConfigId unwired p configId output := by
 unfold streamConfigId
 grind

lemma configStep_cases (g:Graph) (unwired:List Place) (n:ℕ) :
  g.configStep unwired n=.inl 0∨g.configStep [] n=g.configStep unwired n := by
 unfold Graph.configStep
 grind[streamConfigId_cases]

lemma configStep_wired (h:g.configStep unwired n=.inr m) : g.configStep [] n=.inr m := by
 grind[configStep_cases g unwired n]

lemma configStep_found (h:g.configStep unwired n=.inl v) (hv:v≠0) : g.configStep [] n=.inl v := by
 grind[configStep_cases g unwired n]

lemma configIdThrough_wired (h:g.configIdThrough unwired fuel n=some v) (hv:v≠0) :
  g.configIdThrough [] fuel n=some v := by
 induction fuel generalizing n with
 | zero => cases h
 | succ fuel ih =>
  rw[Graph.configIdThrough] at h⊢
  cases hstep:g.configStep unwired n with
  | inl id =>
   rw[hstep] at h
   cases h
   rw[configStep_found hstep hv]
  | inr next =>
   rw[hstep] at h
   rw[configStep_wired hstep]
   exact ih h

lemma getConfigId_wired (h:g.getConfigId unwired n=some v) (hv:v≠0) : g.getConfigId [] n=some v :=
 configIdThrough_wired h hv

lemma configIdThrough_eq_none : g.configIdThrough unwired fuel n=none ↔
  ∀ k < fuel,(g.configStep unwired ((g.nextConfig unwired)^[k] n)).isRight := by
 induction fuel generalizing n with
 | zero => simp[Graph.configIdThrough]
 | succ fuel ih =>
  rw[Graph.configIdThrough]
  cases hstep:g.configStep unwired n with
  | inl id =>
   refine ⟨nofun,fun h=>?_⟩
   have hright:=h 0 (Nat.succ_pos fuel)
   simp[hstep] at hright
  | inr next =>
   have hnext:g.nextConfig unwired n=next:=by simp only[Graph.nextConfig,hstep]
   rw[ih]
   refine ⟨fun h k hk=>?_,fun h k hk=>?_⟩
   · cases k with
     | zero => simp[hstep]
     | succ k =>
      rw[Function.iterate_succ_apply,hnext]
      exact h k (Nat.lt_of_succ_lt_succ hk)
   · have hright:=h (k+1) (Nat.succ_lt_succ hk)
     rwa[Function.iterate_succ_apply,hnext] at hright

lemma lt_of_configStep (h:(g.configStep unwired n).isRight) : n < g.nodes.length := by
 by_contra hnot
 unfold Graph.configStep at h
 rw[List.getElem?_eq_none (Nat.le_of_not_lt hnot)] at h
 cases h

/-- A walk of more steps than there are nodes comes back to one of them, and goes on for ever. -/
lemma configStep_isRight (h:g.configIdThrough unwired (g.nodes.length+1) n=none) (k:ℕ) :
  (g.configStep unwired ((g.nextConfig unwired)^[k] n)).isRight := by
 have hright:=configIdThrough_eq_none.mp h
 obtain ⟨i,j,hij,heq⟩:=Fintype.exists_ne_map_eq_of_card_lt
  (fun k:Fin (g.nodes.length+1)=>(⟨_,lt_of_configStep (hright k k.isLt)⟩:Fin g.nodes.length)) (by simp)
 obtain ⟨i,j,hlt,hj,hsame⟩ : ∃ i j,i < j∧j < g.nodes.length+1 ∧
  (g.nextConfig unwired)^[i] n=(g.nextConfig unwired)^[j] n:=by
  have hvalue:=congrArg Fin.val heq
  rcases Nat.lt_or_gt_of_ne (Fin.val_ne_of_ne hij) with hlt | hlt
  · exact ⟨i,j,hlt,j.isLt,hvalue⟩
  · exact ⟨j,i,hlt,i.isLt,hvalue.symm⟩
 induction k using Nat.strongRecOn with
 | ind k ih =>
  by_cases hk:k < j
  · exact hright k (by omega)
  · obtain ⟨t,rfl⟩:=Nat.exists_eq_add_of_le (Nat.le_of_not_lt hk)
    have hback:=ih (t+i) (by omega)
    rwa[Function.iterate_add_apply,hsame,← Function.iterate_add_apply,Nat.add_comm] at hback

lemma configIdThrough_none (h:g.configIdThrough unwired (g.nodes.length+1) n=none) (fuel:ℕ) :
  g.configIdThrough unwired fuel n=none :=
 configIdThrough_eq_none.mpr fun k _=>configStep_isRight h k

lemma configIdThrough_mono (h:g.configIdThrough unwired fuel n=some v) (hle:fuel≤fuel') :
  g.configIdThrough unwired fuel' n=some v := by
 induction fuel generalizing n fuel' with
 | zero => cases h
 | succ fuel ih =>
  obtain ⟨fuel',rfl⟩:=Nat.exists_eq_add_of_lt hle
  rw[Graph.configIdThrough] at h⊢
  split at h
  · exact h
  · exact ih h (Nat.le_add_right fuel fuel')

lemma endless_of_getConfigId (h:g.getConfigId unwired n=none) : g.Endless := by
 have hnone:g.configIdThrough unwired (g.nodes.length+1) n=none:=by
  cases hthrough:g.configIdThrough unwired (g.nodes.length+1) n with
  | none => rfl
  | some v => cases h.symm.trans (configIdThrough_mono hthrough (Nat.le_succ _))
 refine ⟨fun k=>(g.nextConfig unwired)^[k] n,fun k=>?_⟩
 obtain ⟨next,hnext⟩:=Sum.isRight_iff.mp (configStep_isRight hnone k)
 have hafter:(g.nextConfig unwired)^[k+1] n=next:=by
  rw[Function.iterate_succ_apply',Graph.nextConfig,hnext]
 exact (configStep_wired hnext).trans (congrArg Sum.inr hafter.symm)

lemma getConfigId_of_endless (h:g.Endless) : ∃ n < g.nodes.length,g.getConfigId [] n=none := by
 obtain ⟨chain,hchain⟩:=h
 have hwalk:∀ k,(g.nextConfig [])^[k] (chain 0)=chain k:=by
  intro k
  induction k with
  | zero => rfl
  | succ k ih =>
   have hstep:g.configStep [] (chain k)=.inr (chain (k+1)):=hchain k
   rw[Function.iterate_succ_apply',ih,Graph.nextConfig,hstep]
 have hright:∀ k,(g.configStep [] (chain k)).isRight:=by
  intro k
  rw[show g.configStep [] (chain k)=.inr (chain (k+1)) from hchain k]
  rfl
 refine ⟨chain 0,lt_of_configStep (hright 0),configIdThrough_eq_none.mpr fun k _=>?_⟩
 rw[hwalk]
 exact hright k

instance (g:Graph) : Decidable g.Endless :=
 decidable_of_iff (∃ n < g.nodes.length,g.getConfigId [] n = none)
  ⟨fun ⟨_,_,h⟩=>endless_of_getConfigId h,getConfigId_of_endless⟩

lemma getConfigId_mergeLink {target:ℕ} (hn:g.nodes[n]?=some (.mergeLink target)) (unwired:List Place) :
  g.getConfigId unwired target=g.getConfigId unwired n := by
 have hstep:g.getConfigId unwired n=g.configIdThrough unwired (g.nodes.length+1) target:=by
  unfold Graph.getConfigId
  rw[Graph.configIdThrough,Graph.configStep,hn]
 rw[hstep]
 cases hthrough:g.configIdThrough unwired (g.nodes.length+1) target with
 | none => exact configIdThrough_none hthrough _
 | some v => exact configIdThrough_mono hthrough (Nat.le_succ _)

end ServiceLib.Topology
