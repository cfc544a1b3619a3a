import Mathlib.Data.Nat.Bitwise

set_option autoImplicit false

/-!
# A counter and its flags in one word

The low `n` bits of a word count; the bits above are flags.
-/
namespace ServiceLib.FlagCounter

variable {w n i:ℕ} (x:BitVec w)

def counter (n:ℕ) (x:BitVec w) : ℕ :=
 x.toNat % 2 ^ n

lemma counter_lt : counter n x < 2 ^ n :=
 Nat.mod_lt _ (Nat.two_pow_pos n)

lemma toNat_and_mask (hn:n < w) :
  (x &&& (BitVec.twoPow w n - 1#w)).toNat=counter n x := by
 have hpow:2 ^ n < 2 ^ w:=Nat.pow_lt_pow_right (by omega) hn
 have hpos:0 < 2 ^ n:=Nat.two_pow_pos n
 have hone:1 % 2 ^ w=1:=Nat.mod_eq_of_lt (by omega)
 have hmask:(BitVec.twoPow w n - 1#w).toNat=2 ^ n - 1:=by
  rw[BitVec.toNat_sub,BitVec.toNat_twoPow,BitVec.toNat_ofNat,hone,Nat.mod_eq_of_lt hpow,
   show 2 ^ w - 1+2 ^ n=2 ^ n - 1+2 ^ w by omega,Nat.add_mod_right]
  exact Nat.mod_eq_of_lt (by omega)
 rw[BitVec.toNat_and,hmask,Nat.and_two_pow_sub_one_eq_mod]
 rfl

lemma and_twoPow_ne_zero (hi:i < w) : x &&& BitVec.twoPow w i≠0#w↔x.getLsbD i=true := by
 have hflag:BitVec.twoPow w i≠0#w:=by
  intro h
  have hbit:=congrArg (fun y=>y.getLsbD i) h
  simp[hi] at hbit
 rw[BitVec.and_twoPow]
 split
 · next h => exact ⟨fun _=>h,fun _=>hflag⟩
 · next h => exact ⟨fun hne=>absurd rfl hne,fun hbit=>absurd hbit h⟩

lemma counter_or_twoPow (hi:n≤ i) : counter n (x ||| BitVec.twoPow w i)=counter n x := by
 refine Nat.eq_of_testBit_eq fun j=>?_
 simp only[counter,Nat.testBit_mod_two_pow,BitVec.testBit_toNat,BitVec.getLsbD_or,
  BitVec.getLsbD_twoPow]
 by_cases hj:j < n
 · have hne:¬ i=j:=by omega
   simp[hne]
 · simp[hj]

lemma getLsbD_or_twoPow {j:ℕ} :
  (x ||| BitVec.twoPow w i).getLsbD j=(x.getLsbD j || (decide (i < w) && decide (i=j))) := by
 simp only[BitVec.getLsbD_or,BitVec.getLsbD_twoPow]

lemma getLsbD_of_div_eq {x y:BitVec w} (h:x.toNat / 2 ^ n=y.toNat / 2 ^ n) (hi:n≤ i) :
  x.getLsbD i=y.getLsbD i := by
 obtain ⟨k,rfl⟩:=Nat.exists_eq_add_of_le hi
 rw[← BitVec.testBit_toNat,← BitVec.testBit_toNat,Nat.add_comm n k,
  ← Nat.testBit_div_two_pow,← Nat.testBit_div_two_pow,h]

section Carry
variable {x}

lemma toNat_add_one (hn:n≤w) (hx:counter n x≠2 ^ n - 1) :
  (x+1#w).toNat=x.toNat+1 := by
 have hlt:x.toNat+1 < 2 ^ w:=by
  by_contra hge
  have hall:x.toNat=2 ^ w - 1:=by
   have:=x.isLt
   omega
  apply hx
  rw[counter,hall]
  obtain ⟨k,rfl⟩:=Nat.exists_eq_add_of_le hn
  have hpos:0 < 2 ^ k:=Nat.two_pow_pos k
  have hn:0 < 2 ^ n:=Nat.two_pow_pos n
  obtain ⟨q,hq⟩:=Nat.exists_eq_add_of_lt hpos
  have hsplit:2 ^ (n+k) - 1=2 ^ n * q+(2 ^ n - 1):=by
   rw[pow_add,hq,show 0+q+1=q+1 by omega,Nat.mul_succ]
   omega
  rw[hsplit,Nat.mul_add_mod]
  exact Nat.mod_eq_of_lt (by omega)
 rw[BitVec.toNat_add,BitVec.toNat_ofNat,Nat.add_mod_mod,Nat.mod_eq_of_lt hlt]

lemma add_one_div_mod {a m:ℕ} (ha:a % m+1 < m) :
  (a+1) % m=a % m+1∧(a+1) / m=a / m := by
 have hsplit:a+1=m * (a / m)+(a % m+1):=by
  have:=Nat.div_add_mod a m
  omega
 constructor
 · rw[hsplit,Nat.mul_add_mod,Nat.mod_eq_of_lt ha]
 · rw[hsplit,Nat.mul_add_div (by omega),Nat.div_eq_of_lt ha,Nat.add_zero]

lemma counter_add_one (hn:n≤w) (hx:counter n x≠2 ^ n - 1) :
  counter n (x+1#w)=counter n x+1 := by
 have hlt:=counter_lt (n:=n) x
 rw[counter,toNat_add_one hn hx]
 exact (add_one_div_mod (show x.toNat % 2 ^ n+1 < 2 ^ n by unfold counter at hx hlt; omega)).1

lemma flag_add_one (hn:n≤w) (hx:counter n x≠2 ^ n - 1) (hi:n≤ i) :
  (x+1#w).getLsbD i=x.getLsbD i := by
 have hlt:=counter_lt (n:=n) x
 refine getLsbD_of_div_eq ?_ hi
 rw[toNat_add_one hn hx]
 exact (add_one_div_mod (show x.toNat % 2 ^ n+1 < 2 ^ n by unfold counter at hx hlt; omega)).2

lemma counter_sub_one_ne (hn:n≤w) (hx:counter n x≠0) :
  counter n (x - 1#w)≠2 ^ n - 1 := by
 intro h
 apply hx
 have hpos:0 < 2 ^ n:=Nat.two_pow_pos n
 have hdvd:2 ^ n ∣ 2 ^ w:=pow_dvd_pow 2 hn
 have hback:x.toNat=((x - 1#w).toNat+1) % 2 ^ w:=by
  have hsum:=BitVec.toNat_add (x - 1#w) 1#w
  rw[BitVec.sub_add_cancel,BitVec.toNat_ofNat,Nat.add_mod_mod] at hsum
  exact hsum
 rw[counter,hback,Nat.mod_mod_of_dvd _ hdvd,Nat.add_mod]
 rw[counter] at h
 rw[h,Nat.add_mod_mod,show 2 ^ n - 1+1=2 ^ n by omega,Nat.mod_self]

lemma counter_sub_one (hn:n≤w) (hx:counter n x≠0) :
  counter n (x - 1#w)+1=counter n x := by
 have h:=counter_add_one hn (counter_sub_one_ne hn hx)
 rw[BitVec.sub_add_cancel] at h
 exact h.symm

lemma flag_sub_one (hn:n≤w) (hx:counter n x≠0) (hi:n≤ i) :
  (x - 1#w).getLsbD i=x.getLsbD i := by
 have h:=flag_add_one hn (counter_sub_one_ne hn hx) hi
 rw[BitVec.sub_add_cancel] at h
 exact h.symm

end Carry

end ServiceLib.FlagCounter
