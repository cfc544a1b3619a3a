import ServiceLib.SerdeReader

set_option autoImplicit false

/-!
# Scalar serdes

A floating-point value is its bit pattern and a rune its code unit; `word` is the number whose
big-endian digits stand on the wire.
-/
namespace ServiceLib.SerdeScalar
open BigEndian SerdeBuffer SerdeReader List

inductive Scalar
 | bool | int8 | uint8 | int16 | uint16 | int32 | uint32 | int64 | uint64
 | rune | float32 | float64
deriving DecidableEq,Repr

namespace Scalar

def Val : Scalar → Type
 | .bool => Bool
 | .int8 => Int8
 | .uint8 => UInt8
 | .int16 => Int16
 | .uint16 => UInt16
 | .int32 => Int32
 | .uint32 => UInt32
 | .int64 => Int64
 | .uint64 => UInt64
 | .rune => UInt32
 | .float32 => UInt32
 | .float64 => UInt64

def decEqVal : (s:Scalar) → DecidableEq s.Val
 | .bool => inferInstanceAs (DecidableEq Bool)
 | .int8 => inferInstanceAs (DecidableEq Int8)
 | .uint8 => inferInstanceAs (DecidableEq UInt8)
 | .int16 => inferInstanceAs (DecidableEq Int16)
 | .uint16 => inferInstanceAs (DecidableEq UInt16)
 | .int32 => inferInstanceAs (DecidableEq Int32)
 | .uint32 => inferInstanceAs (DecidableEq UInt32)
 | .int64 => inferInstanceAs (DecidableEq Int64)
 | .uint64 => inferInstanceAs (DecidableEq UInt64)
 | .rune => inferInstanceAs (DecidableEq UInt32)
 | .float32 => inferInstanceAs (DecidableEq UInt32)
 | .float64 => inferInstanceAs (DecidableEq UInt64)

/-- `sizeof` of the type, which is also its `ElementSize` in a fixed-size array. -/
def size : Scalar → ℕ
 | .bool | .int8 | .uint8 => 1
 | .int16 | .uint16 => 2
 | .int32 | .uint32 | .rune | .float32 => 4
 | .int64 | .uint64 | .float64 => 8

lemma size_pos (s:Scalar) : 0 < s.size := by
 cases s <;> decide

def serializeTo : (s:Scalar) → SerdeData → s.Val → Except Failure SerdeData
 | .bool,output,value => putU8 output (bif value then 1 else 0)
 | .int8,output,value => putU8 output (Int8.toUInt8 value)
 | .uint8,output,value => putU8 output value
 | .int16,output,value => putU16Be output (Int16.toUInt16 value ^^^ 0x8000)
 | .uint16,output,value => putU16Be output value
 | .int32,output,value => putU32Be output (Int32.toUInt32 value ^^^ 0x80000000)
 | .uint32,output,value => putU32Be output value
 | .int64,output,value => putU64Be output (Int64.toUInt64 value ^^^ 0x8000000000000000)
 | .uint64,output,value => putU64Be output value
 | .rune,output,value => putU32Be output value
 | .float32,output,value => putU32Be output value
 | .float64,output,value => putU64Be output value

/-- The body of `Deserialize` after the reader has been made. -/
def readValue : (s:Scalar) → Read s.Val
 | .bool => do return (← readU8) != 0
 | .int8 => do return (← readU8).toInt8
 | .uint8 => readU8
 | .int16 => do return ((← readU16Be) ^^^ 0x8000).toInt16
 | .uint16 => readU16Be
 | .int32 => do return ((← readU32Be) ^^^ 0x80000000).toInt32
 | .uint32 => readU32Be
 | .int64 => do return ((← readU64Be) ^^^ 0x8000000000000000).toInt64
 | .uint64 => readU64Be
 | .rune => readU32Be
 | .float32 => readU32Be
 | .float64 => readU64Be

def deserialize (s:Scalar) (data:SerdeView) : Decode s.Val :=
 runReader data sizeMax s.readValue

def word : (s:Scalar) → s.Val → ℕ
 | .bool,value => (bif value then 1 else 0 : UInt8).toNat
 | .int8,value => (Int8.toUInt8 value).toNat
 | .uint8,value => UInt8.toNat value
 | .int16,value => (Int16.toUInt16 value ^^^ 0x8000).toNat
 | .uint16,value => UInt16.toNat value
 | .int32,value => (Int32.toUInt32 value ^^^ 0x80000000).toNat
 | .uint32,value => UInt32.toNat value
 | .int64,value => (Int64.toUInt64 value ^^^ 0x8000000000000000).toNat
 | .uint64,value => UInt64.toNat value
 | .rune,value => UInt32.toNat value
 | .float32,value => UInt32.toNat value
 | .float64,value => UInt64.toNat value

def encode (s:Scalar) (value:s.Val) : List UInt8 := digits s.size (s.word value)

@[simp] lemma encode_length (s:Scalar) (value:s.Val) : (s.encode value).length=s.size :=
 digits_length _ _

end Scalar

lemma digits_one (b:UInt8) : digits 1 b.toNat=[b] := by
 simp[digits]

lemma writes_putU8 (b:UInt8) : Writes (fun output=>putU8 output b) (digits 1 b.toNat) := by
 rw[digits_one]
 exact writes_pushBack b

lemma writes_scalar (s:Scalar) (value:s.Val) :
  Writes (fun output=>s.serializeTo output value) (s.encode value) := by
 cases s with
 | bool | int8 | uint8 => exact writes_putU8 _
 | int16 | uint16 => exact writes_putU16Be _
 | int32 | uint32 | rune | float32 => exact writes_putU32Be _
 | int64 | uint64 | float64 => exact writes_putU64Be _

lemma or_shift {x y k:ℕ} (hy:y < 2 ^ k) : x <<< k ||| y=x * 2 ^ k+y := by
 rw[← Nat.shiftLeft_add_eq_or_of_lt hy,Nat.shiftLeft_eq]

lemma u16OfBytes_toNat (a b:UInt8) (h:[a,b].length≤ maxSize) :
  (u16OfBytes ⟨[a,b],h⟩).toNat=value [a,b] := by
 have ha:=a.toNat_lt
 have hb:=b.toNat_lt
 have h8:UInt16.toNat 8 % 16=8:=rfl
 have hs:a.toNat <<< 8 % 2 ^ 16=a.toNat <<< 8:=by
  rw[Nat.shiftLeft_eq]
  omega
 simp only[u16OfBytes,byte,getD_cons_zero,getD_cons_succ,UInt16.toNat_or,
  UInt16.toNat_shiftLeft,UInt8.toNat_toUInt16,h8,hs]
 rw[or_shift hb]
 simp[value,push]

lemma u32OfBytes_toNat (a b c d:UInt8) (h:[a,b,c,d].length≤ maxSize) :
  (u32OfBytes ⟨[a,b,c,d],h⟩).toNat=value [a,b,c,d] := by
 have ha:=a.toNat_lt
 have hb:=b.toNat_lt
 have hc:=c.toNat_lt
 have hd:=d.toNat_lt
 have h24:UInt32.toNat 24 % 32=24:=rfl
 have h16:UInt32.toNat 16 % 32=16:=rfl
 have h8:UInt32.toNat 8 % 32=8:=rfl
 have hs:∀ (x:UInt8) (k:ℕ),k≤24→ x.toNat <<< k % 2 ^ 32=x.toNat <<< k:=by
  intro x k hk
  have hx:=x.toNat_lt
  have hp:2 ^ k≤2 ^ 24:=Nat.pow_le_pow_right (by omega) hk
  rw[Nat.shiftLeft_eq]
  apply Nat.mod_eq_of_lt
  calc
   x.toNat * 2 ^ k < 2 ^ 8 * 2 ^ k:=by
    exact Nat.mul_lt_mul_of_pos_right hx (Nat.two_pow_pos k)
   _≤2 ^ 8 * 2 ^ 24 := Nat.mul_le_mul_left _ hp
 simp only[u32OfBytes,byte,getD_cons_zero,getD_cons_succ,UInt32.toNat_or,
  UInt32.toNat_shiftLeft,UInt8.toNat_toUInt32,h24,h16,h8,hs _ 24 (by omega),
  hs _ 16 (by omega),hs _ 8 (by omega),Nat.or_assoc]
 have hcd:c.toNat <<< 8 ||| d.toNat=c.toNat * 2 ^ 8+d.toNat:=or_shift hd
 have hbcd:b.toNat <<< 16 ||| (c.toNat * 2 ^ 8+d.toNat) =
  b.toNat * 2 ^ 16+(c.toNat * 2 ^ 8+d.toNat) := or_shift (by omega)
 have habcd:a.toNat <<< 24 ||| (b.toNat * 2 ^ 16+(c.toNat * 2 ^ 8+d.toNat)) =
  a.toNat * 2 ^ 24+(b.toNat * 2 ^ 16+(c.toNat * 2 ^ 8+d.toNat)) := or_shift (by omega)
 rw[hcd,hbcd,habcd]
 simp only[value,push,foldl_cons,foldl_nil]
 omega

lemma parses_readU8 (v:UInt8) : Parses readU8 (digits 1 v.toNat) v := by
 rw[digits_one]
 exact (parses_read "u8" ⟨[v],Nat.succ_le_of_lt (by decide)⟩ rfl).map fun bytes=>byte bytes 0

lemma parses_readU16Be (v:UInt16) : Parses readU16Be (digits 2 v.toNat) v := by
 let view:SerdeView:=⟨digits 2 v.toNat,by rw[digits_length]; decide⟩
 have hlt:v.toNat < 256 ^ 2:=v.toNat_lt
 have hv:u16OfBytes view=v:=by
  apply UInt16.toNat_inj.mp
  refine (u16OfBytes_toNat _ _ _).trans ?_
  exact (show value (digits 2 v.toNat)=v.toNat from value_digits_of_lt hlt)
 have h:=(parses_read "u16" view (show view.size=2 from rfl)).map u16OfBytes
 rwa[hv] at h

lemma parses_readU32Be (v:UInt32) : Parses readU32Be (digits 4 v.toNat) v := by
 let view:SerdeView:=⟨digits 4 v.toNat,by rw[digits_length]; decide⟩
 have hlt:v.toNat < 256 ^ 4:=v.toNat_lt
 have hv:u32OfBytes view=v:=by
  apply UInt32.toNat_inj.mp
  refine (u32OfBytes_toNat _ _ _ _ _).trans ?_
  exact (show value (digits 4 v.toNat)=v.toNat from value_digits_of_lt hlt)
 have h:=(parses_read "u32" view (show view.size=4 from rfl)).map u32OfBytes
 rwa[hv] at h

lemma parses_readU64 (v:UInt64) : Parses readU64Be (digits 8 v.toNat) v := by
 have h:=parses_readU64Be v.toNat_lt
 rwa[UInt64.ofNat_toNat] at h

lemma parses_scalar (s:Scalar) (v:s.Val) : Parses s.readValue (s.encode v) v := by
 cases s with
 | bool =>
  have h:=(parses_readU8 (bif v then 1 else 0)).map fun b=>b != 0
  have hv:((bif v then 1 else 0 : UInt8) != 0)=v:=by
   cases v <;> rfl
  rwa[hv] at h
 | int8 =>
  exact (parses_readU8 (Int8.toUInt8 v)).map UInt8.toInt8
 | uint8 => exact parses_readU8 v
 | int16 =>
  have h:=(parses_readU16Be (Int16.toUInt16 v ^^^ 0x8000)).map fun w=>(w ^^^ 0x8000).toInt16
  have hv:((Int16.toUInt16 v ^^^ 0x8000) ^^^ 0x8000).toInt16=v:=by
   rw[UInt16.xor_assoc,UInt16.xor_self,UInt16.xor_zero]
   rfl
  rwa[hv] at h
 | uint16 => exact parses_readU16Be v
 | int32 =>
  have h:=(parses_readU32Be (Int32.toUInt32 v ^^^ 0x80000000)).map
   fun w=>(w ^^^ 0x80000000).toInt32
  have hv:((Int32.toUInt32 v ^^^ 0x80000000) ^^^ 0x80000000).toInt32=v:=by
   rw[UInt32.xor_assoc,UInt32.xor_self,UInt32.xor_zero]
   rfl
  rwa[hv] at h
 | uint32 | rune | float32 => exact parses_readU32Be v
 | int64 =>
  have h:=(parses_readU64 (Int64.toUInt64 v ^^^ 0x8000000000000000)).map
   fun w=>(w ^^^ 0x8000000000000000).toInt64
  have hv:((Int64.toUInt64 v ^^^ 0x8000000000000000) ^^^ 0x8000000000000000).toInt64=v:=by
   rw[UInt64.xor_assoc,UInt64.xor_self,UInt64.xor_zero]
   rfl
  rwa[hv] at h
 | uint64 | float64 => exact parses_readU64 v

lemma decodes_scalar (s:Scalar) (v:s.Val) : Decodes s.deserialize (s.encode v) v :=
 (parses_scalar s v).decodes (by decide)

end ServiceLib.SerdeScalar
