import ServiceLib.SerdeRoundTrip

set_option autoImplicit false

/-!
# Encodings that keep the order of integers

The serdes of wider signed integers flip the sign bit of the word; that of `std::int8_t` does not.
-/
namespace ServiceLib.SerdeOrder
open BigEndian SerdeBuffer SerdeScalar SerdeTypes SerdeRoundTrip

lemma xor_signBit {k x:ℕ} (h:x < 2 ^ (k+1)) :
  x ^^^ 2 ^ k=if x < 2 ^ k then x+2 ^ k else x - 2 ^ k := by
 have hpos:=Nat.two_pow_pos k
 have hmod:(x ^^^ 2 ^ k) % 2 ^ k=x % 2 ^ k:=by
  rw[Nat.xor_mod_two_pow,Nat.mod_self,Nat.xor_zero]
 have hdiv:(x ^^^ 2 ^ k) / 2 ^ k=x / 2 ^ k ^^^ 1:=by
  rw[Nat.xor_div_two_pow,Nat.div_self hpos]
 have hsplit:=Nat.div_add_mod (x ^^^ 2 ^ k) (2 ^ k)
 have hx:=Nat.div_add_mod x (2 ^ k)
 rw[hmod,hdiv] at hsplit
 rw[pow_succ] at h
 split
 case isTrue hlow =>
  rw[Nat.div_eq_of_lt hlow] at hsplit hx
  simp only[Nat.zero_xor,Nat.mul_one,Nat.mul_zero] at hsplit hx
  omega
 case isFalse hhigh =>
  have hone:x / 2 ^ k=1:=Nat.div_eq_of_lt_le (by omega) (by omega)
  rw[hone] at hsplit hx
  simp only[Nat.xor_self,Nat.mul_one,Nat.mul_zero] at hsplit hx
  omega

lemma flipped_word {k:ℕ} (x:BitVec (k+1)) : ((x.toNat ^^^ 2 ^ k : ℕ) : ℤ)=x.toInt+2 ^ k := by
 have hlt:=x.isLt
 have hpos:((2 ^ k : ℕ) : ℤ)=2 ^ k:=by norm_cast
 rw[xor_signBit hlt,BitVec.toInt_eq_toNat_cond]
 rw[pow_succ] at *
 split <;> split <;> omega

def number : (s:Scalar) → s.Val → Option ℤ
 | .int8,v => some (Int8.toInt v)
 | .int16,v => some (Int16.toInt v)
 | .int32,v => some (Int32.toInt v)
 | .int64,v => some (Int64.toInt v)
 | .uint8,v => some (UInt8.toNat v)
 | .uint16,v => some (UInt16.toNat v)
 | .uint32,v => some (UInt32.toNat v)
 | .uint64,v => some (UInt64.toNat v)
 | _,_ => none

lemma word_lt (s:Scalar) (v:s.Val) : s.word v < 256 ^ s.size := by
 cases s with
 | bool | int8 | uint8 => exact UInt8.toNat_lt _
 | int16 | uint16 => exact UInt16.toNat_lt _
 | int32 | uint32 | rune | float32 => exact UInt32.toNat_lt _
 | int64 | uint64 | float64 => exact UInt64.toNat_lt _

lemma encode_lt_iff (s:Scalar) (a b:s.Val) : s.encode a < s.encode b↔s.word a < s.word b := by
 have hlen:(s.encode a).length=(s.encode b).length:=by simp
 rw[lt_iff_value_lt hlen,Scalar.encode,Scalar.encode,value_digits_of_lt (word_lt s a),
  value_digits_of_lt (word_lt s b)]

lemma word_int8 (v:Int8) : (Scalar.int8.word v : ℤ)=if v.toInt < 0 then v.toInt+256 else v.toInt := by
 have hlt:=v.toBitVec.isLt
 change ((v.toBitVec.toNat : ℕ) : ℤ)=if v.toBitVec.toInt < 0 then v.toBitVec.toInt+256 else v.toBitVec.toInt
 rw[BitVec.toInt_eq_toNat_cond]
 split <;> split <;> omega

lemma word_eq {s:Scalar} (hs:s≠ .int8) : ∃ shift : ℤ,∀ v n,number s v=some n →
  (s.word v : ℤ)=n+shift := by
 cases s with
 | int8 => exact absurd rfl hs
 | int16 =>
  refine ⟨2 ^ 15,fun v n hn=>?_⟩
  cases hn
  exact flipped_word (Int16.toBitVec v)
 | int32 =>
  refine ⟨2 ^ 31,fun v n hn=>?_⟩
  cases hn
  exact flipped_word (Int32.toBitVec v)
 | int64 =>
  refine ⟨2 ^ 63,fun v n hn=>?_⟩
  cases hn
  exact flipped_word (Int64.toBitVec v)
 | uint8 | uint16 | uint32 | uint64 =>
  refine ⟨0,fun v n hn=>?_⟩
  cases hn
  exact (add_zero _).symm
 | _ => exact ⟨0,fun v n hn=>by cases hn⟩

lemma serialize_scalar (s:Scalar) (v:s.Val) :
  ∃ h,(Serde.scalar s).serialize v=.ok ⟨s.encode v,h⟩ := by
 have hsize:(s.encode v).length≤ maxSize:=by
  rw[Scalar.encode_length]
  cases s <;> decide
 exact ⟨hsize,(serializes_serialize (.scalar s) trivial v).1 hsize⟩

theorem order_preserved_iff (s : Scalar) (a b : s.Val) {m n : ℤ} (hm : number s a = some m)
  (hn : number s b = some n) : ∃ x y, (Serde.scalar s).serialize a = .ok x ∧
   (Serde.scalar s).serialize b = .ok y ∧
   ((m < n ↔ x.bytes < y.bytes) ↔ (s = .int8 → (m < 0 ↔ n < 0))) := by
 obtain ⟨hx,hax⟩:=serialize_scalar s a
 obtain ⟨hy,hby⟩:=serialize_scalar s b
 refine ⟨_,_,hax,hby,?_⟩
 change (m < n↔s.encode a < s.encode b)↔_
 rw[encode_lt_iff]
 by_cases hs:s=.int8
 · subst hs
   have ha:=word_int8 a
   have hb:=word_int8 b
   cases hm
   cases hn
   have hra:=Int8.toInt_lt a
   have hrb:=Int8.toInt_lt b
   have hla:=Int8.le_toInt a
   have hlb:=Int8.le_toInt b
   split at ha <;> split at hb <;> simp only[true_implies] <;> omega
 · obtain ⟨shift,hword⟩:=word_eq hs
   have ha:=hword a m hm
   have hb:=hword b n hn
   refine iff_of_true ?_ (fun h=>absurd h hs)
   omega

theorem order_preserved_int32 : ∃ x y, (Serde.scalar .int32).serialize (-1 : Int32) = .ok x ∧
  (Serde.scalar .int32).serialize (1 : Int32) = .ok y ∧
  (((-1 : ℤ) < 1 ↔ x.bytes < y.bytes) ↔ (Scalar.int32 = .int8 → ((-1 : ℤ) < 0 ↔ (1 : ℤ) < 0))) :=
 order_preserved_iff .int32 (-1 : Int32) (1 : Int32) rfl rfl

/-- `-1` is written as `0xff` and comes after `0`. -/
theorem int8_out_of_order : ∃ x y, (Serde.scalar .int8).serialize (-1 : Int8) = .ok x ∧
  (Serde.scalar .int8).serialize (0 : Int8) = .ok y ∧ Int8.toInt (-1) < Int8.toInt 0 ∧ ¬x.bytes < y.bytes :=
 ⟨⟨[255],by decide⟩,⟨[0],by decide⟩,rfl,rfl,by decide,by decide⟩

end ServiceLib.SerdeOrder
