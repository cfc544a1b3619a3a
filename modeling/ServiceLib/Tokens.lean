import Mathlib.Algebra.Ring.BooleanRing
import Mathlib.Algebra.BigOperators.Group.List.Lemmas
import Mathlib.Data.Nat.Notation

set_option autoImplicit false

/-!
# Weighted tokens

What is still to happen in a system is a list of tokens; a step takes a token and gives others for
it.
-/
namespace ServiceLib.Tokens
open List

variable {τ:Type} (w:τ → ℕ)

def total (tokens:List τ) : ℕ :=
 (tokens.map w).sum

@[simp] lemma total_nil : total w []=0 := rfl

@[simp] lemma total_cons (token:τ) (tokens:List τ) :
  total w (token::tokens)=w token+total w tokens :=
 sum_cons

@[simp] lemma total_append (tokens tokens':List τ) :
  total w (tokens++tokens')=total w tokens+total w tokens' := by
 simp[total]

lemma total_map_const {α:Type} {f:α→τ} {c:ℕ} (h:∀ a,w (f a)=c) (l:List α) :
  total w (l.map f)=l.length * c := by
 induction l with
 | nil => simp
 | cons a l ih =>
  rw[map_cons,total_cons,ih,h,length_cons,Nat.succ_mul]
  omega

lemma total_perm {tokens tokens':List τ} (h:List.Perm tokens tokens') :
  total w tokens=total w tokens' :=
 (h.map w).sum_eq

lemma total_set {tokens:List τ} {i:ℕ} {old:τ} (h:tokens[i]?=some old) (new:τ) :
  total w (tokens.set i new)+w old=total w tokens+w new := by
 induction tokens generalizing i with
 | nil => cases h
 | cons token tokens ih =>
  cases i with
  | zero =>
   obtain rfl:=Option.some.inj h
   rw[set_cons_zero,total_cons,total_cons]
   omega
  | succ i =>
   have hrest:=ih (i:=i) h
   rw[set_cons_succ,total_cons,total_cons]
   omega

lemma total_mapIdx_le {tokens:List τ} {f:ℕ→τ→τ}
  (h:∀ (i:ℕ) (token:τ),tokens[i]?=some token→ w (f i token)≤w token) :
  total w (tokens.mapIdx f)≤total w tokens := by
 induction tokens generalizing f with
 | nil => exact Nat.le_refl _
 | cons token tokens ih =>
  have hfirst:=h 0 token rfl
  have hrest:=ih (f:=fun i=>f (i+1)) fun i other hi=>h (i+1) other hi
  rw[mapIdx_cons,total_cons,total_cons]
  omega

variable {w} in
lemma total_mono {w':τ→ℕ} {tokens:List τ} (h:∀ token∈tokens,w token≤w' token) :
  total w tokens≤total w' tokens := by
 induction tokens with
 | nil => exact Nat.le_refl _
 | cons token tokens ih =>
  have hfirst:=h token mem_cons_self
  have hrest:=ih fun other hother=>h other (mem_cons_of_mem token hother)
  rw[total_cons,total_cons]
  omega

variable {w} in
lemma total_strictMono {w':τ→ℕ} {tokens:List τ} (h:∀ token∈tokens,w token≤w' token)
  {token:τ} (hmem:token∈tokens) (hlt:w token < w' token) : total w tokens < total w' tokens := by
 induction tokens with
 | nil => cases hmem
 | cons other tokens ih =>
  have hfirst:=h other mem_cons_self
  have hle:∀ token∈tokens,w token≤w' token:=fun token hmem=>h token (mem_cons_of_mem other hmem)
  rw[total_cons,total_cons]
  rcases mem_cons.mp hmem with rfl | hmem
  · have hrest:=total_mono hle
    omega
  · have hrest:=ih hle hmem
    omega

variable [DecidableEq τ]

def exchange (tokens:List τ) (taken:τ) (given:List τ) : List τ :=
 tokens.erase taken ++ given

lemma mem_exchange {tokens:List τ} {taken:τ} {given:List τ} {token:τ}
  (h:token∈exchange tokens taken given) : token∈tokens∨token∈given :=
 (mem_append.mp h).imp_left mem_of_mem_erase

lemma total_exchange {tokens:List τ} {taken:τ} (h:taken∈tokens) (given:List τ) :
  total w (exchange tokens taken given)+w taken=total w tokens+total w given := by
 have:=sum_map_erase w h
 rw[exchange,total_append]
 unfold total at *
 omega

lemma le_total {tokens:List τ} {token:τ} (h:token∈tokens) : w token≤total w tokens := by
 have:=total_exchange w h []
 rw[total_nil] at this
 omega

end ServiceLib.Tokens
