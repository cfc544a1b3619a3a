import Mathlib.Algebra.Ring.BooleanRing
import Mathlib.Data.Nat.Notation
import Mathlib.Logic.Function.Basic

set_option autoImplicit false
attribute [-instance] instBooleanRingBool

/-!
# Runs of a labelled transition system

A system is an executable partial step function; a label that is not enabled has
no step. `exec` runs a list of labels and `Along` says that every step taken on
the way meets a condition on the state before it.
-/
namespace ServiceLib.Transition
open List Option

variable {σ κ:Type} (step:σ → κ → Option σ)

def exec : σ → List κ → Option σ
 | s,[] => some s
 | s,l :: ls => (step s l).bind fun s'=>exec s' ls

def Along (ok:σ → κ → Prop) : σ → List κ → Prop
 | _,[] => True
 | s,l :: ls => ok s l ∧ ∀ s',step s l = some s' → Along ok s' ls

instance decidableAlong (ok:σ → κ → Prop) [∀ s l,Decidable (ok s l)] :
  (s:σ) → (ls:List κ) → Decidable (Along step ok s ls)
 | _,[] => .isTrue trivial
 | s,l :: ls =>
  match h : step s l with
  | none => decidable_of_iff (ok s l) (by simp [Along,h])
  | some s' =>
   haveI := decidableAlong ok s' ls
   decidable_of_iff (ok s l ∧ Along step ok s' ls) (by simp [Along,h])

variable {step}

variable {s s' m:σ} {l:κ} {ls ls':List κ} {ok:σ → κ → Prop} {I:σ → Prop} {α:Type}

lemma exec_cons :
  exec step s (l::ls)=some s'↔∃ m,step s l=some m∧exec step m ls=some s' :=
 bind_eq_some_iff

/-- What every permitted step preserves holds at the end of every permitted run. -/
lemma exec_invariant_along
  (hstep:∀ s l s',I s→ ok s l→ step s l=some s'→ I s')
  (hs:I s) (hok:Along step ok s ls) (h:exec step s ls=some s') : I s' := by
 induction ls generalizing s with
 | nil =>
  obtain rfl:=some.inj h
  exact hs
 | cons l ls ih =>
  obtain ⟨m,hm,hrest⟩:=exec_cons.mp h
  exact ih (hstep s l m hs hok.1 hm) (hok.2 m hm) hrest

/-- What the steps of a run put out, in order. -/
def observe {α:Type} (step:σ → κ → Option σ) (out:σ → κ → σ → List α) : σ → List κ → List α
 | _,[] => []
 | s,l :: ls =>
  match step s l with
  | none => []
  | some s' => out s l s' ++ observe step out s' ls

lemma exec_observe_from {out:σ→κ→σ→ List α}
  {I:σ→ List α→ Prop}
  (hstep:∀ s l s' seen,I s seen→ ok s l→ step s l=some s'→ I s' (seen++out s l s'))
  {seen:List α} (hs:I s seen) (hok:Along step ok s ls)
  (h:exec step s ls=some s') : I s' (seen++observe step out s ls) := by
 induction ls generalizing s seen with
 | nil =>
  obtain rfl:=some.inj h
  exact (append_nil seen).symm▸hs
 | cons l ls ih =>
  obtain ⟨m,hm,hrest⟩:=exec_cons.mp h
  have hrun:observe step out s (l::ls)=out s l m++observe step out m ls:=by
   simp only[observe,hm]
  rw[hrun,← append_assoc]
  exact ih (hstep s l m seen hs hok.1 hm) (hok.2 m hm) hrest

/-- What every permitted step preserves of a state and the output so far holds of the
final state and the output of the run. -/
lemma exec_observe_along (out:σ→κ→σ→ List α)
  {I:σ→ List α→ Prop}
  (hstep:∀ s l s' seen,I s seen→ ok s l→ step s l=some s'→ I s' (seen++out s l s'))
  (hs:I s []) (hok:Along step ok s ls)
  (h:exec step s ls=some s') : I s' (observe step out s ls) :=
 exec_observe_from hstep hs hok h

lemma along_of_forall {ok:κ→ Prop} (h:∀ l∈ls,ok l) : Along step (fun _ l=>ok l) s ls := by
 induction ls generalizing s with
 | nil => trivial
 | cons l ls ih =>
  exact ⟨h l mem_cons_self,fun _ _=>ih fun l' hl'=>h l' (mem_cons_of_mem l hl')⟩

lemma along_true (s:σ) (ls:List κ) : Along step (fun _ _=>True) s ls :=
 along_of_forall fun _ _=>trivial

lemma along_append (h:Along step ok s (ls++ls')) :
  Along step ok s ls := by
 induction ls generalizing s with
 | nil => trivial
 | cons l ls ih => exact ⟨h.1,fun s' hs'=>ih (h.2 s' hs')⟩

lemma along_drop (h:Along step ok s (ls++ls'))
  (hrun:exec step s ls=some m) : Along step ok m ls' := by
 induction ls generalizing s with
 | nil =>
  obtain rfl:=some.inj hrun
  exact h
 | cons l ls ih =>
  obtain ⟨u,hu,hrest⟩:=exec_cons.mp hrun
  exact ih (h.2 u hu) hrest

lemma along_snoc (h:Along step ok s ls)
  (hrun:exec step s ls=some m) (hl:ok m l) : Along step ok s (ls++[l]) := by
 induction ls generalizing s with
 | nil =>
  obtain rfl:=some.inj hrun
  exact ⟨hl,fun _ _=>trivial⟩
 | cons l' ls ih =>
  obtain ⟨u,hu,hrest⟩:=exec_cons.mp hrun
  refine ⟨h.1,fun u' hu'=>?_⟩
  obtain rfl:=some.inj (hu.symm.trans hu')
  exact ih (h.2 u hu) hrest

lemma exec_invariant (hstep:∀ s l s',I s→ step s l=some s'→ I s')
  (hs:I s) (h:exec step s ls=some s') : I s' :=
 exec_invariant_along (fun s l s' hs _=>hstep s l s' hs) hs (along_true s ls) h

/-- A state that is bad stays so, and a step makes it bad exactly when it is not permitted. -/
lemma along_iff_not {bad:σ→ Prop} (hinv:∀ s l s',I s→ step s l=some s'→ I s')
  (hstays:∀ s l s',I s→ step s l=some s'→ bad s→ bad s')
  (hok:∀ s l s',I s→ step s l=some s'→¬bad s→(ok s l↔¬bad s'))
  (hs:I s) (hgood:¬bad s) (h:exec step s ls=some s') : Along step ok s ls↔¬bad s' := by
 induction ls generalizing s with
 | nil =>
  obtain rfl:=some.inj h
  exact iff_of_true trivial hgood
 | cons l ls ih =>
  obtain ⟨m,hm,hrest⟩:=exec_cons.mp h
  have hinv':=hinv s l m hs hm
  by_cases hbad:bad m
  · have hend:I s'∧bad s':=exec_invariant (I := fun u=>I u∧bad u)
     (fun u l u' hu hstep=>⟨hinv u l u' hu.1 hstep,hstays u l u' hu.1 hstep hu.2⟩) ⟨hinv',hbad⟩ hrest
    exact iff_of_false (fun halong=>(hok s l m hs hm hgood).mp halong.1 hbad) (not_not.mpr hend.2)
  · rw[← ih hinv' hbad hrest]
    refine ⟨fun halong=>halong.2 m hm,fun halong=>⟨(hok s l m hs hm hgood).mpr hbad,fun m' hm'=>?_⟩⟩
    obtain rfl:=some.inj (hm.symm.trans hm')
    exact halong

lemma exec_observe (out:σ→κ→σ→ List α) {I:σ→ List α→ Prop}
  (hstep:∀ s l s' seen,I s seen→ step s l=some s'→ I s' (seen++out s l s'))
  (hs:I s []) (h:exec step s ls=some s') :
  I s' (observe step out s ls) :=
 exec_observe_along out (fun s l s' seen hs _=>hstep s l s' seen hs) hs (along_true s ls) h

lemma exec_singleton : exec step s [l]=step s l := by
 rw[exec]
 cases step s l with
 | none => rfl
 | some s' => rfl

lemma exec_append_eq (h:exec step s ls=some m) :
  exec step s (ls++ls')=exec step m ls' := by
 induction ls generalizing s with
 | nil =>
  obtain rfl:=some.inj h
  rfl
 | cons l ls ih =>
  obtain ⟨u,hu,hrest⟩:=exec_cons.mp h
  rw[cons_append,exec,hu]
  exact ih hrest

lemma exec_append (h:exec step s ls=some m)
  (h':exec step m ls'=some s') : exec step s (ls++ls')=some s' :=
 (exec_append_eq h).trans h'

/-- What every step preserves of a state and the labels so far. -/
lemma exec_history {I:σ→ List κ→ Prop}
  (hstep:∀ s l s' seen,I s seen→ step s l=some s'→ I s' (seen++[l]))
  {seen:List κ} (hs:I s seen) (h:exec step s ls=some s') : I s' (seen++ls) := by
 induction ls generalizing s seen with
 | nil =>
  obtain rfl:=some.inj h
  exact (append_nil seen).symm▸hs
 | cons l ls ih =>
  obtain ⟨m,hm,hrest⟩:=exec_cons.mp h
  have hlast:=ih (hstep s l m seen hs hm) hrest
  rwa[append_assoc] at hlast

/-- If every step accounts for its label by its output and what the state owes, a run does. -/
lemma exec_ledger {out:σ→κ→σ→ List α} {p:κ→ Bool} {q:α→ Bool} {owed:σ→ ℕ}
  (hstep:∀ s l s',step s l=some s'→ [l].countP p+owed s=(out s l s').countP q+owed s')
  (h:exec step s ls=some s') : ls.countP p+owed s=(observe step out s ls).countP q+owed s' := by
 induction ls generalizing s with
 | nil =>
  obtain rfl:=some.inj h
  rfl
 | cons l ls ih =>
  obtain ⟨m,hm,hrest⟩:=exec_cons.mp h
  have hrun:observe step out s (l::ls)=out s l m++observe step out m ls:=by
   simp only[observe,hm]
  rw[hrun,countP_append,← singleton_append,countP_append]
  have hfirst:=hstep s l m hm
  have hlast:=ih hrest
  omega

section Work
variable {I:σ → Prop} {internal:κ → Prop} {work:σ → ℕ}

/-- If every counted step lowers `work` and no step raises it, `work` bounds their number. -/
lemma exec_count_along {p:κ→ Bool} (hinv:∀ s l s',I s→ ok s l→ step s l=some s'→ I s')
  (hcount:∀ s l s',I s→ ok s l→ step s l=some s'→ [l].countP p+work s'≤work s)
  (hs:I s) (hok:Along step ok s ls) (h:exec step s ls=some s') : ls.countP p+work s'≤work s := by
 induction ls generalizing s with
 | nil =>
  obtain rfl:=some.inj h
  exact Nat.le_of_eq (Nat.zero_add _)
 | cons l ls ih =>
  obtain ⟨m,hm,hrest⟩:=exec_cons.mp h
  have hfirst:=hcount s l m hs hok.1 hm
  have hlast:=ih (hinv s l m hs hok.1 hm) (hok.2 m hm) hrest
  rw[← singleton_append,countP_append]
  omega

lemma exec_work_along (hinv:∀ s l s',I s→ ok s l→ step s l=some s'→ I s')
  (hwork:∀ s l s',I s→ ok s l→ step s l=some s'→ work s' < work s)
  (hs:I s) (hok:Along step ok s ls) (h:exec step s ls=some s') : ls.length+work s'≤work s := by
 rw[← countP_true]
 refine exec_count_along hinv (fun s l s' hs hl hstep=>?_) hs hok h
 rw[countP_true,length_singleton,Nat.add_comm]
 exact hwork s l s' hs hl hstep

lemma exec_work (hinv:∀ s l s',I s→ step s l=some s'→ I s')
  (hwork:∀ s l s',I s→ internal l→ step s l=some s'→ work s' < work s)
  (hs:I s) (hls:∀ l∈ls,internal l) (h:exec step s ls=some s') :
  ls.length+work s'≤work s :=
 exec_work_along (fun s l s' hs _=>hinv s l s' hs) hwork hs (along_of_forall hls) h

lemma exists_exec_idle (hinv:∀ s l s',I s→ step s l=some s'→ I s')
  (hwork:∀ s l s',I s→ internal l→ step s l=some s'→ work s' < work s) (hs:I s) :
  ∃ ls s',(∀ l∈ls,internal l)∧exec step s ls=some s' ∧
   ∀ l,internal l→ step s' l=none := by
 induction hn : work s using Nat.strongRecOn generalizing s with
 | ind n ih =>
  by_cases hidle:∀ l,internal l→ step s l=none
  · exact ⟨[],s,fun _ hl=>absurd hl not_mem_nil,rfl,hidle⟩
  · obtain ⟨l,hl⟩:=not_forall.mp hidle
    obtain ⟨hl,hstep⟩:=Classical.not_imp.mp hl
    obtain ⟨m,hm⟩:=ne_none_iff_exists'.mp hstep
    have hlt:=hwork s l m hs hl hm
    obtain ⟨ls,s',hls,hexec,hdone⟩:=ih (work m) (hn▸hlt) (hinv s l m hs hm) rfl
    refine ⟨l::ls,s',?_,exec_cons.mpr ⟨m,hm,hexec⟩,hdone⟩
    intro l' hl'
    rcases mem_cons.mp hl' with rfl | hl'
    · exact hl
    · exact hls l' hl'

end Work

end ServiceLib.Transition
