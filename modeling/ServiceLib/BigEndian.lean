import Mathlib.Data.Nat.Bitwise
import Mathlib.Tactic.Ring

set_option autoImplicit false

/-!
# Big-endian digits

A number as its base-256 digits, most significant first. A fixed width enters only as the number
of digits kept.
-/
namespace ServiceLib.BigEndian
open List

def digits : ℕ → ℕ → List UInt8
 | 0,_ => []
 | n + 1,v => UInt8.ofNat (v / 256 ^ n) :: digits n v

def push (acc:ℕ) (b:UInt8) : ℕ := acc * 256 + b.toNat

def value (bytes:List UInt8) : ℕ := bytes.foldl push 0

@[simp] lemma digits_length (n v:ℕ) : (digits n v).length=n := by
 induction n with
 | zero => rfl
 | succ n ih => simp[digits,ih]

lemma foldl_push (bytes:List UInt8) (acc:ℕ) :
  bytes.foldl push acc=acc * 256 ^ bytes.length+value bytes := by
 induction bytes generalizing acc with
 | nil => simp[value]
 | cons b bytes ih =>
  have hv:value (b::bytes)=bytes.foldl push (push 0 b):=rfl
  rw[foldl_cons,hv,ih,ih (push 0 b)]
  simp only[push,length_cons,pow_succ]
  ring

lemma value_cons (b:UInt8) (bytes:List UInt8) :
  value (b::bytes)=b.toNat * 256 ^ bytes.length+value bytes := by
 change bytes.foldl push (push 0 b)=_
 rw[foldl_push,push]
 simp

lemma value_digits (n v:ℕ) : value (digits n v)=v % 256 ^ n := by
 induction n with
 | zero => simp[digits,value,Nat.mod_one]
 | succ n ih =>
  have hd:(UInt8.ofNat (v / 256 ^ n)).toNat=v / 256 ^ n % 256:=UInt8.toNat_ofNat'
  have hm:v % (256 ^ n * 256)=v % 256 ^ n+256 ^ n * (v / 256 ^ n % 256):=Nat.mod_mul
  rw[digits,value_cons,digits_length,ih,hd,pow_succ,hm]
  ring

lemma value_digits_of_lt {n v:ℕ} (h:v < 256 ^ n) : value (digits n v)=v := by
 rw[value_digits,Nat.mod_eq_of_lt h]

lemma value_lt (bytes:List UInt8) : value bytes < 256 ^ bytes.length := by
 induction bytes with
 | nil => simp[value]
 | cons b bytes ih =>
  have hb:b.toNat < 256:=b.toNat_lt
  rw[value_cons,length_cons,pow_succ]
  calc
   b.toNat * 256 ^ bytes.length+value bytes
    < b.toNat * 256 ^ bytes.length+256 ^ bytes.length := by omega
   _=(b.toNat+1) * 256 ^ bytes.length := by ring
   _≤256 * 256 ^ bytes.length := Nat.mul_le_mul_right _ (by omega)
   _=256 ^ bytes.length * 256 := Nat.mul_comm _ _

lemma lt_iff_value_lt {a b:List UInt8} (h:a.length=b.length) :
  a < b↔value a < value b := by
 induction a generalizing b with
 | nil =>
  obtain rfl:=length_eq_zero_iff.mp h.symm
  simp
 | cons x a ih =>
  cases b with
  | nil => cases h
  | cons y b =>
   have hlen:a.length=b.length:=Nat.succ.inj h
   have ha:=value_lt a
   have hb:=value_lt b
   rw[hlen] at ha
   rw[cons_lt_cons_iff,ih hlen,value_cons,value_cons,hlen,UInt8.lt_iff_toNat_lt,
    ← UInt8.toNat_inj]
   -- the first digit outweighs the others
   rcases lt_trichotomy x.toNat y.toNat with hxy | hxy | hxy
   · have hmul:=Nat.mul_le_mul_right (256 ^ b.length) (Nat.succ_le_of_lt hxy)
     rw[Nat.succ_mul] at hmul
     omega
   · rw[hxy]
     omega
   · have hmul:=Nat.mul_le_mul_right (256 ^ b.length) (Nat.succ_le_of_lt hxy)
     rw[Nat.succ_mul] at hmul
     omega

/-- Shifting a `w`-bit accumulator left by one byte and or-ing a byte in is the
fold step modulo `2 ^ w`. -/
lemma shift_or_eq_push (w acc:ℕ) (b:UInt8) (hw:8≤w) :
  (acc <<< 8 % 2 ^ w) ||| b.toNat=push acc b % 2 ^ w := by
 have hb:b.toNat < 2 ^ 8:=b.toNat_lt
 obtain ⟨k,rfl⟩ : ∃ k,w=8+k:=⟨w - 8,by omega⟩
 have hs:acc <<< 8 % 2 ^ (8+k)=(acc % 2 ^ k) <<< 8:=by
  rw[Nat.shiftLeft_eq,Nat.shiftLeft_eq,Nat.pow_add,Nat.mul_comm (2 ^ 8),
   Nat.mul_mod_mul_right]
 rw[hs,← Nat.shiftLeft_add_eq_or_of_lt hb,push,Nat.shiftLeft_eq]
 have hq:acc * 256+b.toNat=(acc % 2 ^ k * 2 ^ 8+b.toNat)+2 ^ (8+k) * (acc / 2 ^ k):=by
  have h:=Nat.mod_add_div acc (2 ^ k)
  calc
   acc * 256+b.toNat=(acc % 2 ^ k+2 ^ k * (acc / 2 ^ k)) * 256+b.toNat := by rw[h]
   _=_ := by rw[Nat.pow_add]; ring
 have hl:acc % 2 ^ k * 2 ^ 8+b.toNat < 2 ^ (8+k):=by
  have hm:acc % 2 ^ k < 2 ^ k:=Nat.mod_lt _ (Nat.two_pow_pos _)
  calc
   acc % 2 ^ k * 2 ^ 8+b.toNat < acc % 2 ^ k * 2 ^ 8+2 ^ 8 := by omega
   _=(acc % 2 ^ k+1) * 2 ^ 8 := by ring
   _≤2 ^ k * 2 ^ 8 := Nat.mul_le_mul_right _ hm
   _=2 ^ (8+k) := by rw[← Nat.pow_add,Nat.add_comm]
 rw[hq,Nat.add_mul_mod_self_left,Nat.mod_eq_of_lt hl]

end ServiceLib.BigEndian
