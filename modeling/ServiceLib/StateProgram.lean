import Mathlib.Algebra.Ring.BooleanRing
import Mathlib.Data.List.Basic

set_option autoImplicit false
attribute [-instance] instBooleanRingBool

/-! # Programs over a state that may throw or diverge -/

namespace ServiceLib.StateProgram

/-- `none` is a run that never ends; a run that throws keeps the state it reached. -/
def Program (σ ε α:Type) : Type :=
 σ → Option (Except ε α × σ)

section Rules

variable {σ ε α β:Type} {endless:Prop}

instance : Monad (Program σ ε) where
 pure a := fun s=>some (.ok a,s)
 bind m f := fun s =>
  match m s with
  | none => none
  | some (.error e,s') => some (.error e,s')
  | some (.ok a,s') => f a s'

def raise (e:ε) : Program σ ε α :=
 fun s=>some (.error e,s)

def access (f:σ → α) : Program σ ε α :=
 fun s=>some (.ok (f s),s)

def update (f:σ → σ) : Program σ ε Unit :=
 fun s=>some (.ok (),f s)

def diverge : Program σ ε α :=
 fun _=>none

/-- The run ends in `post` when it returns and in `fail` when it throws; it goes on for ever only
if `endless` holds. -/
def wp (endless:Prop) (m:Program σ ε α) (s:σ) (post:α → σ → Prop) (fail:ε → σ → Prop) : Prop :=
 match m s with
 | none => endless
 | some (.ok a,s') => post a s'
 | some (.error e,s') => fail e s'

lemma wp_pure (a:α) (s:σ) (post:α→σ→ Prop) (fail:ε→σ→ Prop) :
  wp endless (pure a:Program σ ε α) s post fail↔post a s :=
 Iff.rfl

lemma wp_raise (e:ε) (s:σ) (post:α→σ→ Prop) (fail:ε→σ→ Prop) :
  wp endless (raise e:Program σ ε α) s post fail↔fail e s :=
 Iff.rfl

lemma wp_access (f:σ→α) (s:σ) (post:α→σ→ Prop) (fail:ε→σ→ Prop) :
  wp endless (access f:Program σ ε α) s post fail↔post (f s) s :=
 Iff.rfl

lemma wp_update (f:σ→σ) (s:σ) (post:Unit→σ→ Prop) (fail:ε→σ→ Prop) :
  wp endless (update f:Program σ ε Unit) s post fail↔post () (f s) :=
 Iff.rfl

lemma wp_bind (m:Program σ ε α) (f:α→ Program σ ε β) (s:σ)
  (post:β→σ→ Prop) (fail:ε→σ→ Prop) :
  wp endless (m >>= f) s post fail↔wp endless m s (fun a s'=>wp endless (f a) s' post fail) fail := by
 have hrun:(m >>= f) s =
  match m s with
  | none => none
  | some (.error e,s') => some (.error e,s')
  | some (.ok a,s') => f a s' := rfl
 unfold wp
 rw[hrun]
 cases m s with
 | none => rfl
 | some end' =>
  obtain ⟨result,s'⟩:=end'
  cases result with
  | error e => rfl
  | ok a => rfl

lemma wp_mono {m:Program σ ε α} {s:σ} {post post':α→σ→ Prop}
  {fail fail':ε→σ→ Prop} (h:wp endless m s post fail)
  (hpost:∀ a s',post a s'→ post' a s') (hfail:∀ e s',fail e s'→ fail' e s') :
  wp endless m s post' fail' := by
 unfold wp at h ⊢
 cases hm:m s with
 | none => rw[hm] at h; exact h
 | some end' =>
  obtain ⟨result,s'⟩:=end'
  rw[hm] at h
  cases result with
  | error e => exact hfail e s' h
  | ok a => exact hpost a s' h

lemma wp_ends (hends:¬endless) {m:Program σ ε α} {s:σ} {post:α→σ→ Prop} {fail:ε→σ→ Prop}
  (h:wp endless m s post fail) :
  ∃ result s',m s=some (result,s') ∧
   (match result with
    | .ok a => post a s'
    | .error e => fail e s') := by
 grind[wp]

lemma wp_returned {m:Program σ ε α} {s s':σ} {a:α} {post:α→σ→ Prop}
  {fail:ε→σ→ Prop} (h:wp endless m s post fail) (hrun:m s=some (.ok a,s')) :
  post a s' := by
 unfold wp at h
 rw[hrun] at h
 exact h

lemma bind_returned {m:Program σ ε α} {f:α→ Program σ ε β} {s s':σ} {b:β}
  (h:(m >>= f) s=some (.ok b,s')) :
  ∃ a s₁,m s=some (.ok a,s₁)∧f a s₁=some (.ok b,s') := by
 change (match m s with
  | none => none
  | some (.error e,s₁) => some (.error e,s₁)
  | some (.ok a,s₁) => f a s₁)=some (.ok b,s') at h
 cases hm:m s with
 | none => rw[hm] at h; cases h
 | some end' =>
  obtain ⟨result,s₁⟩:=end'
  rw[hm] at h
  cases result with
  | error e => cases h
  | ok a => exact ⟨a,s₁,rfl,h⟩

lemma exists_returned {γ:Type} {m:Program σ ε α} {s:σ} {a:α} {f:σ→γ} {v:γ}
  (h:(m s).map (fun last=>(last.1.toOption,f last.2))=some (some a,v)) :
  ∃ s',m s=some (.ok a,s')∧f s'=v := by
 obtain ⟨⟨result,s'⟩,hrun,hread⟩:=Option.map_eq_some_iff.mp h
 obtain ⟨hresult,hv⟩:=Prod.mk.inj hread
 cases result with
 | error e => cases hresult
 | ok a' =>
  obtain rfl:a'=a:=Option.some.inj hresult
  exact ⟨s',hrun,hv⟩

def Keeps (I:σ → Prop) (m:Program σ ε α) : Prop :=
 ∀ s result s',I s → m s = some (result,s') → I s'

lemma Keeps.pure (I:σ→ Prop) (a:α) : Keeps I (pure a:Program σ ε α) := by
 intro s result s' hs hrun
 cases hrun
 exact hs

lemma Keeps.raise (I:σ→ Prop) (e:ε) : Keeps I (raise e:Program σ ε α) := by
 intro s result s' hs hrun
 cases hrun
 exact hs

lemma Keeps.access (I:σ→ Prop) (f:σ→α) : Keeps I (access f:Program σ ε α) := by
 intro s result s' hs hrun
 cases hrun
 exact hs

lemma Keeps.diverge (I:σ→ Prop) : Keeps I (diverge:Program σ ε α) := by
 intro s result s' _ hrun
 cases hrun

lemma Keeps.update {I:σ→ Prop} {f:σ→σ} (h:∀ s,I s→ I (f s)) :
  Keeps I (update f:Program σ ε Unit) := by
 intro s result s' hs hrun
 cases hrun
 exact h s hs

lemma Keeps.bind {I:σ→ Prop} {m:Program σ ε α} {f:α→ Program σ ε β}
  (hm:Keeps I m) (hf:∀ a,Keeps I (f a)) : Keeps I (m >>= f) := by
 intro s result s' hs hrun
 change (match m s with
  | none => none
  | some (.error e,s₁) => some (.error e,s₁)
  | some (.ok a,s₁) => f a s₁)=some (result,s') at hrun
 cases hfirst:m s with
 | none => rw[hfirst] at hrun; cases hrun
 | some end' =>
  obtain ⟨first,s₁⟩:=end'
  rw[hfirst] at hrun
  have h₁:I s₁:=hm s first s₁ hs hfirst
  cases first with
  | error e => cases hrun; exact h₁
  | ok a => exact hf a s₁ result s' h₁ hrun

lemma Keeps.ite {I:σ→ Prop} {c:Prop} [Decidable c] {m m':Program σ ε α}
  (hm:Keeps I m) (hm':Keeps I m') : Keeps I (if c then m else m') := by
 split
 · exact hm
 · exact hm'

lemma Keeps.of_wp (endless:Prop) {I:σ→ Prop} {m:Program σ ε α}
  (h:∀ s,I s→ wp endless m s (fun _ s'=>I s') (fun _ s'=>I s')) : Keeps I m := by
 intro s result s' hs hrun
 have hend:=h s hs
 unfold wp at hend
 rw[hrun] at hend
 cases result with
 | error e => exact hend
 | ok a => exact hend

end Rules

end ServiceLib.StateProgram
