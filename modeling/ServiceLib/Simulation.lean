import Mathlib.Logic.Basic

set_option autoImplicit false

/-!
# Simulations between objects

A relation that every operation keeps, answering alike on both sides, makes the answers to any
sequence of operations equal.
-/
namespace ServiceLib.Simulation

variable {σ τ κ α:Type}

def answers (op:σ → κ → α × σ) : σ → List κ → List α × σ
 | s,[] => ([],s)
 | s,k :: ks =>
  let (a,s'):=op s k
  let (as,s''):=answers op s' ks
  (a :: as,s'')

def Simulates (f:σ → κ → α × σ) (g:τ → κ → α × τ) (R:σ → τ → Prop) : Prop :=
 ∀ s t k,R s t → (f s k).1 = (g t k).1 ∧ R (f s k).2 (g t k).2

lemma Simulates.answers_eq {f:σ→κ→α×σ} {g:τ→κ→α×τ} {R:σ→τ→ Prop}
  (h:Simulates f g R) {s:σ} {t:τ} (hst:R s t) (ks:List κ) :
  (answers f s ks).1=(answers g t ks).1∧R (answers f s ks).2 (answers g t ks).2 := by
 induction ks generalizing s t with
 | nil => exact ⟨rfl,hst⟩
 | cons k ks ih =>
  obtain ⟨hanswer,hnext⟩:=h s t k hst
  obtain ⟨hrest,hlast⟩:=ih hnext
  exact ⟨congrArg₂ List.cons hanswer hrest,hlast⟩

end ServiceLib.Simulation
