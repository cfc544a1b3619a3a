import Mathlib.Data.Nat.Notation
import Mathlib.Logic.Function.Iterate

set_option autoImplicit false

/-!
# While loops

A loop runs its body while its guard holds, at most `fuel` times.
-/
namespace ServiceLib.Loop

variable {σ:Type}

def loop (guard:σ → Bool) (body:σ → σ) : ℕ → σ → σ
 | 0,s => s
 | fuel + 1,s => if guard s then loop guard body fuel (body s) else s

variable {guard:σ → Bool} {body:σ → σ}

lemma loop_invariant {I:σ→ Prop} (hbody:∀ s,I s→ guard s=true→ I (body s))
  (fuel:ℕ) {s:σ} (hs:I s) : I (loop guard body fuel s) := by
 induction fuel generalizing s with
 | zero => exact hs
 | succ fuel ih =>
  unfold loop
  split
  · next hg => exact ih (hbody s hs hg)
  · exact hs

lemma loop_of_exit {fuel:ℕ} {s:σ} (h:guard s=false) : loop guard body fuel s=s := by
 cases fuel with
 | zero => rfl
 | succ fuel =>
  rw[loop,h]
  rfl

lemma loop_exit {μ:σ→ℕ} (hbody:∀ s,guard s=true→μ (body s) < μ s)
  (hzero:∀ s,μ s=0→ guard s=false) {fuel:ℕ} {s:σ} (hs:μ s≤fuel) :
  guard (loop guard body fuel s)=false := by
 induction fuel generalizing s with
 | zero => exact hzero s (Nat.le_zero.mp hs)
 | succ fuel ih =>
  unfold loop
  split
  · next hg =>
    apply ih
    have:=hbody s hg
    omega
  · next hg => simpa using hg

lemma loop_iterate (guard:σ→ Bool) (body:σ→σ) (fuel:ℕ) (s:σ) :
  ∃ n≤fuel,loop guard body fuel s=body^[n] s ∧
  (∀ i < n,guard (body^[i] s)=true)∧(n < fuel→ guard (body^[n] s)=false) := by
 induction fuel generalizing s with
 | zero => exact ⟨0,Nat.le_refl 0,rfl,fun i hi=>absurd hi (Nat.not_lt_zero i),fun h=>absurd h (by omega)⟩
 | succ fuel ih =>
  unfold loop
  split
  · next hg =>
    obtain ⟨n,hn,heq,hguard,hexit⟩:=ih (body s)
    refine ⟨n+1,by omega,heq,fun i hi=>?_,fun hlt=>hexit (by omega)⟩
    cases i with
    | zero => exact hg
    | succ i => exact hguard i (by omega)
  · next hg =>
    exact ⟨0,Nat.zero_le _,rfl,fun i hi=>absurd hi (Nat.not_lt_zero i),fun _=>by simpa using hg⟩

end ServiceLib.Loop
