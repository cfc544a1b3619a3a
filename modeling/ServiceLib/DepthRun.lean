import Mathlib.Algebra.Ring.BooleanRing
import Mathlib.Data.Nat.Notation

set_option autoImplicit false
attribute [-instance] instBooleanRingBool

/-!
# Recursion with a bound on its depth

A run returns, throws, or is `none`: it needs a deeper recursion than it was given.
-/
namespace ServiceLib.DepthRun

abbrev Run (ε α:Type) := ExceptT ε Option α

variable {ε α β σ:Type}

def of (r:Except ε α) : Run ε α := ExceptT.mk (some r)

lemma bind_eq_ok {m:Run ε α} {k:α→ Run ε β} {b:β} :
  m >>= k=some (.ok b)↔∃ a,m=some (.ok a)∧k a=some (.ok b) := by
 rcases m with _ | e | a
 · exact ⟨nofun,fun ⟨_,h,_⟩=>nomatch h⟩
 · exact ⟨nofun,fun ⟨_,h,_⟩=>nomatch h⟩
 · refine ⟨fun h=>⟨a,rfl,h⟩,fun ⟨a',h,hk⟩=>?_⟩
   cases h
   exact hk

lemma of_ok_bind (a:α) (k:α→ Run ε β) : of (.ok a) >>= k=k a := rfl

lemma of_eq_ok {r:Except ε α} {a:α} : of r=some (.ok a)↔r=.ok a :=
 Option.some_inj

lemma pure_eq_ok {a b:α} : (pure a : Run ε α)=some (.ok b)↔a=b := by
 change some (Except.ok a)=some (.ok b)↔_
 simp

lemma foldlM_rule {f:σ→α→ Run ε σ} {I:List α→σ→ Prop}
  (hstep:∀ a l s s',I (a::l) s→ f s a=some (.ok s')→ I l s') {l:List α} {s s':σ} (hs:I l s)
  (h:l.foldlM f s=some (.ok s')) : I [] s' := by
 induction l generalizing s with
 | nil =>
  cases pure_eq_ok.mp h
  exact hs
 | cons a l ih =>
  obtain ⟨m,hm,hrest⟩:=bind_eq_ok.mp h
  exact ih (hstep a l s m hs hm) hrest

lemma bind_congr_ok {m:Run ε α} {k k' :α→ Run ε β} (h:∀ a,m=some (.ok a)→ k a=k' a) : m >>= k=m >>= k' := by
 rcases m with _ | e | a
 · rfl
 · rfl
 · exact h a rfl

lemma foldlM_congr_of {f f' :σ→α→ Run ε σ} {I:List α→σ→ Prop}
  (hstep:∀ a l s s',I (a::l) s→ f s a=some (.ok s')→ I l s') (heq:∀ a l s,I (a::l) s→ f' s a=f s a) {l:List α} {s:σ}
  (hs:I l s) : l.foldlM f' s=l.foldlM f s := by
 induction l generalizing s with
 | nil => rfl
 | cons a l ih =>
  rw[List.foldlM_cons,List.foldlM_cons,heq a l s hs]
  exact bind_congr_ok fun s' hs'=>ih (hstep a l s s' hs hs')

/-- The second run ends as the first one does, if that ends. -/
def Extends (m m':Run ε α) : Prop :=
 ∀ r,m = some r → m' = some r

lemma Extends.refl (m:Run ε α) : Extends m m :=
 fun _ h=>h

lemma Extends.bind {m m':Run ε α} {k k':α→ Run ε β} (h:Extends m m') (hk:∀ a,Extends (k a) (k' a)) :
  Extends (m >>= k) (m' >>= k') := by
 intro r hr
 rcases m with _ | e | a
 · cases hr
 · rw[h _ rfl]
   exact hr
 · rw[h _ rfl]
   exact hk a r hr

lemma Extends.foldlM {f f':σ→α→ Run ε σ} (h:∀ s a,Extends (f s a) (f' s a)) (l:List α) (s:σ) :
  Extends (l.foldlM f s) (l.foldlM f' s) := by
 induction l generalizing s with
 | nil => exact .refl _
 | cons a l ih => exact (h s a).bind ih

/-- What more depth changes is only whether a run ends. -/
def Deepens (m:ℕ → Run ε α) : Prop :=
 ∀ d d',d ≤ d' → Extends (m d) (m d')

def Ends (m:ℕ → Run ε α) : Prop :=
 ∃ d r,m d = some r

lemma Ends.bind {m:ℕ→ Run ε α} {k:ℕ→α→ Run ε β} (hm:Deepens m) (hk:∀ a,Deepens (k · a)) (h:Ends m)
  (hend:∀ d a,m d=some (.ok a)→ Ends (k · a)) : Ends fun d=>m d >>= k d := by
 obtain ⟨d,r,hr⟩:=h
 cases r with
 | error e => exact ⟨d,.error e,by simp only[hr]; rfl⟩
 | ok a =>
  obtain ⟨d',r',hr'⟩:=hend d a hr
  refine ⟨max d d',r',?_⟩
  simp only[hm d _ (Nat.le_max_left d d') _ hr]
  exact hk a d' _ (Nat.le_max_right d d') _ hr'

lemma Ends.foldlM {f:ℕ→σ→α→ Run ε σ} {I:List α→σ→ Prop} (hf:∀ s a,Deepens (f · s a))
  (hend:∀ a l s,I (a::l) s→ Ends (f · s a))
  (hstep:∀ d a l s s',I (a::l) s→ f d s a=some (.ok s')→ I l s') {l:List α} {s:σ} (hs:I l s) :
  Ends fun d=>l.foldlM (f d) s := by
 induction l generalizing s with
 | nil => exact ⟨0,.ok s,rfl⟩
 | cons a l ih =>
  refine .bind (hf s a) (fun s' d d' hle=>.foldlM (fun s a=>hf s a d d' hle) l s') (hend a l s hs) fun d s' hs'=>?_
  exact ih (hstep d a l s s' hs hs')

end ServiceLib.DepthRun
