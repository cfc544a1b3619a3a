import ServiceLib.BigEndian

set_option autoImplicit false

/-!
# The output side of the serdes

A byte list no longer than the vector's `max_size()`: every function that grows it can fail, with
a `std::length_error` of the vector or with the library's own `SerdeError`.
-/
namespace ServiceLib.SerdeBuffer
open BigEndian List

/-- `std::numeric_limits<std::size_t>::max()` on the 64-bit targets. -/
def sizeMax : ℕ := 2 ^ 64 - 1

/-- `max_size()` of a vector of bytes; no object is larger than that. -/
def maxSize : ℕ := 2 ^ 63 - 1

def kSizeBytes : ℕ := 8

structure SerdeError where
 message : String
 offset : ℕ
deriving DecidableEq,Repr

inductive Failure
 | serde (error:SerdeError)
 /-- `std::length_error`, thrown by a vector asked for more than `max_size()`. -/
 | lengthError
deriving DecidableEq,Repr

lemma ok_bind {α β:Type} (a:α) (f:α→ Except Failure β) : (.ok a >>= f)=f a := rfl

lemma error_bind {α β:Type} (e:Failure) (f:α→ Except Failure β) :
  (.error e >>= f)=.error e := rfl

structure SerdeData where
 bytes : List UInt8
 size_le : bytes.length ≤ maxSize
deriving DecidableEq

namespace SerdeData

def size (d:SerdeData) : ℕ := d.bytes.length

def empty : SerdeData := ⟨[],Nat.zero_le _⟩

@[ext] lemma ext {a b:SerdeData} (h:a.bytes=b.bytes) : a=b := by
 cases a
 cases b
 congr

lemma size_le_maxSize (d:SerdeData) : d.size≤ maxSize := d.size_le

end SerdeData

lemma sixtyFourBits {n:ℕ} (h:n≤ maxSize) : n < 256 ^ 8 := by
 unfold maxSize at h
 omega

def pushBack (output:SerdeData) (b:UInt8) : Except Failure SerdeData :=
 if h : output.size < maxSize then
  .ok ⟨output.bytes ++ [b],by simpa [SerdeData.size,Nat.succ_le_iff] using h⟩
 else .error .lengthError

def reserveBytes (output:SerdeData) (n:ℕ) : Except Failure SerdeData :=
 if maxSize < n then .error .lengthError else .ok output

def checkedAdd (lhs rhs:ℕ) (what:String) : Except Failure ℕ :=
 if sizeMax - lhs < rhs then
  .error (.serde ⟨"serde size overflow while encoding " ++ what,0⟩)
 else .ok (lhs + rhs)

def reserveMore (output:SerdeData) (additional:ℕ) : Except Failure SerdeData :=
 if maxSize - output.size < additional then
  .error (.serde ⟨"serde output size overflow",output.size⟩)
 else reserveBytes output (output.size + additional)

def putU8 (output:SerdeData) (value:UInt8) : Except Failure SerdeData :=
 pushBack output value

def putU16Be (output:SerdeData) (value:UInt16) : Except Failure SerdeData := do
 let output ← pushBack output ((value >>> 8) &&& 0xff).toUInt8
 pushBack output (value &&& 0xff).toUInt8

def putU32Be (output:SerdeData) (value:UInt32) : Except Failure SerdeData := do
 let output ← pushBack output ((value >>> 24) &&& 0xff).toUInt8
 let output ← pushBack output ((value >>> 16) &&& 0xff).toUInt8
 let output ← pushBack output ((value >>> 8) &&& 0xff).toUInt8
 pushBack output (value &&& 0xff).toUInt8

/-- The byte the loops of `put_u64_be` and `set_u64_be` write at `index`. -/
def byteAt (value:UInt64) (index:ℕ) : UInt8 :=
 ((value >>> (UInt64.ofNat (index * 8))) &&& 0xff).toUInt8

def putU64Be (output:SerdeData) (value:UInt64) : Except Failure SerdeData :=
 [7,6,5,4,3,2,1,0].foldlM (fun output index=>pushBack output (byteAt value index)) output

def setBytes (bytes:List UInt8) (offset:ℕ) (value:UInt64) : List UInt8 :=
 [7,6,5,4,3,2,1,0].foldl
  (fun bytes index=>bytes.set (offset + (7 - index)) (byteAt value index)) bytes

@[simp] lemma setBytes_length (bytes:List UInt8) (offset:ℕ) (value:UInt64) :
  (setBytes bytes offset value).length=bytes.length := by
 simp[setBytes]

def setU64Be (output:SerdeData) (offset:ℕ) (value:UInt64) : Except Failure SerdeData :=
 if output.size < offset ∨ output.size - offset < kSizeBytes then
  .error (.serde ⟨"invalid serde frame offset",offset⟩)
 else .ok ⟨setBytes output.bytes offset value,by simpa using output.size_le⟩

def putSize (output:SerdeData) (size:ℕ) : Except Failure SerdeData :=
 putU64Be output (UInt64.ofNat size)

/-- The frame pattern of the array, map and key/value serdes: a zero header, the
payload, then the header overwritten with the payload's length. -/
def writeFrame (payload:SerdeData → Except Failure SerdeData) (output:SerdeData) :
  Except Failure SerdeData := do
 let headerOffset:=output.size
 let output ← putU64Be output 0
 let valueOffset:=output.size
 let output ← payload output
 setU64Be output headerOffset (UInt64.ofNat (output.size - valueOffset))

/-- `write` appends exactly `bytes`, and it fails exactly when the vector cannot
hold them. -/
def Writes (write:SerdeData → Except Failure SerdeData) (bytes:List UInt8) : Prop :=
 ∀ output : SerdeData,
  (∀ h : (output.bytes ++ bytes).length ≤ maxSize,write output = .ok ⟨output.bytes ++ bytes,h⟩) ∧
  (maxSize < (output.bytes ++ bytes).length → ∃ e,write output = .error e)

lemma writes_pushBack (b:UInt8) : Writes (fun output=>pushBack output b) [b] := by
 intro output
 refine ⟨fun h=>?_,fun h=>⟨.lengthError,?_⟩⟩
 · have hs:output.size < maxSize:=by simpa[SerdeData.size,Nat.succ_le_iff] using h
   simp[pushBack,hs]
 · have hs:¬ output.size < maxSize:=by
    simpa[SerdeData.size,Nat.lt_succ_iff] using h
   simp[pushBack,hs]

lemma writes_nil : Writes (fun output=>.ok output) [] := by
 intro output
 refine ⟨fun h=>by simp,fun h=>?_⟩
 have hs:=output.size_le
 simp only[append_nil] at h
 omega

lemma Writes.bind {f g:SerdeData→ Except Failure SerdeData} {a b:List UInt8}
  (hf:Writes f a) (hg:Writes g b) : Writes (fun output=>f output >>= g) (a++b) := by
 intro output
 obtain ⟨hok,herr⟩:=hf output
 refine ⟨fun h=>?_,fun h=>?_⟩
 · have ha:(output.bytes++a).length≤ maxSize:=by
    simp only[length_append] at h ⊢
    omega
   have hb:(output.bytes++a++b).length≤ maxSize:=by
    simpa only[append_assoc] using h
   simp only[hok ha]
   refine ((hg ⟨output.bytes++a,ha⟩).1 hb).trans ?_
   congr 2
   exact append_assoc _ _ _
 · by_cases ha:(output.bytes++a).length≤ maxSize
   · simp only[hok ha]
     exact (hg ⟨output.bytes++a,ha⟩).2 (by simpa only[append_assoc] using h)
   · obtain ⟨e,he⟩:=herr (by omega)
     exact ⟨e,by simp only[he]; rfl⟩

lemma writes_foldlM {α:Type} (items:List α) (f:SerdeData→α→ Except Failure SerdeData)
  (bytes:α→ List UInt8) (hf:∀ x∈items,Writes (fun output=>f output x) (bytes x)) :
  Writes (fun output=>items.foldlM f output) (items.flatMap bytes) := by
 induction items with
 | nil => exact writes_nil
 | cons x items ih =>
  have hx:=hf x (by simp)
  have hrest:=ih (fun y hy=>hf y (by simp[hy]))
  simpa only[foldlM_cons,flatMap_cons] using hx.bind hrest

lemma shifted_byte (v k:ℕ) : (v >>> k) &&& 255=v / 2 ^ k % 256 := by
 rw[Nat.shiftRight_eq_div_pow]
 exact Nat.and_two_pow_sub_one_eq_mod _ 8

lemma byteAt_toNat (value:UInt64) (index:ℕ) (h:index < 8) :
  byteAt value index=UInt8.ofNat (value.toNat / 256 ^ index) := by
 apply UInt8.toNat_inj.mp
 have hs:index * 8 % 2 ^ 64 % 64=index * 8:=by omega
 have hp:2 ^ (index * 8)=256 ^ index:=by rw[Nat.mul_comm,Nat.pow_mul]
 have h255:UInt64.toNat 0xff=255:=rfl
 simp only[byteAt,UInt64.toNat_toUInt8,UInt64.toNat_and,UInt64.toNat_shiftRight,
  UInt64.toNat_ofNat',h255,hs,shifted_byte,hp,UInt8.toNat_ofNat']
 omega

lemma bytesAt_eq_digits (value:UInt64) :
  [7,6,5,4,3,2,1,0].map (byteAt value)=digits 8 value.toNat := by
 simp[digits,byteAt_toNat]

lemma writes_putU64Be (value:UInt64) :
  Writes (fun output=>putU64Be output value) (digits 8 value.toNat) := by
 have h:=writes_foldlM [7,6,5,4,3,2,1,0]
  (fun output index=>pushBack output (byteAt value index)) (fun index=>[byteAt value index])
  (fun index _=>writes_pushBack (byteAt value index))
 rw[← bytesAt_eq_digits,map_eq_flatMap]
 exact h

lemma u16_byte (value:UInt16) :
  [((value >>> 8) &&& 0xff).toUInt8,(value &&& 0xff).toUInt8]=digits 2 value.toNat := by
 have h255:UInt16.toNat 0xff=255:=rfl
 have h8:UInt16.toNat 8 % 16=8:=rfl
 have h0:=shifted_byte value.toNat 0
 simp only[digits,List.cons.injEq,and_true]
 refine ⟨UInt8.toNat_inj.mp ?_,UInt8.toNat_inj.mp ?_⟩
 · simp only[UInt16.toNat_toUInt8,UInt16.toNat_and,UInt16.toNat_shiftRight,h255,h8,
    shifted_byte,UInt8.toNat_ofNat']
   omega
 · simp only[Nat.shiftRight_zero] at h0
   simp only[UInt16.toNat_toUInt8,UInt16.toNat_and,h255,h0,UInt8.toNat_ofNat']
   omega

lemma writes_putU16Be (value:UInt16) :
  Writes (fun output=>putU16Be output value) (digits 2 value.toNat) := by
 rw[← u16_byte]
 exact (writes_pushBack _).bind (writes_pushBack _)

lemma u32_byte (value:UInt32) :
  [((value >>> 24) &&& 0xff).toUInt8,((value >>> 16) &&& 0xff).toUInt8,
   ((value >>> 8) &&& 0xff).toUInt8,(value &&& 0xff).toUInt8]=digits 4 value.toNat := by
 have h255:UInt32.toNat 0xff=255:=rfl
 have h24:UInt32.toNat 24 % 32=24:=rfl
 have h16:UInt32.toNat 16 % 32=16:=rfl
 have h8:UInt32.toNat 8 % 32=8:=rfl
 have h0:=shifted_byte value.toNat 0
 simp only[Nat.shiftRight_zero] at h0
 simp only[digits,List.cons.injEq,and_true]
 refine ⟨UInt8.toNat_inj.mp ?_,UInt8.toNat_inj.mp ?_,UInt8.toNat_inj.mp ?_,
  UInt8.toNat_inj.mp ?_⟩
 all_goals
  simp only[UInt32.toNat_toUInt8,UInt32.toNat_and,UInt32.toNat_shiftRight,h255,h24,h16,h8,
   h0,shifted_byte,UInt8.toNat_ofNat']
  omega

lemma writes_putU32Be (value:UInt32) :
  Writes (fun output=>putU32Be output value) (digits 4 value.toNat) := by
 rw[← u32_byte]
 exact (writes_pushBack _).bind ((writes_pushBack _).bind ((writes_pushBack _).bind
  (writes_pushBack _)))

lemma writes_putSize {size:ℕ} (h:size≤ maxSize) :
  Writes (fun output=>putSize output size) (digits 8 size) := by
 have hv:(UInt64.ofNat size).toNat=size:=UInt64.toNat_ofNat_of_lt (sixtyFourBits h)
 simpa only[putSize,hv] using writes_putU64Be (UInt64.ofNat size)

def frame (payload:List UInt8) : List UInt8 := digits 8 payload.length ++ payload

@[simp] lemma frame_length (payload:List UInt8) : (frame payload).length=8+payload.length := by
 simp[frame]

lemma setBytes_header (before old after:List UInt8) (value:UInt64) (h:old.length=8) :
  setBytes (before++old++after) before.length value =
   before++digits 8 value.toNat++after := by
 match old,h with
 | [_,_,_,_,_,_,_,_],_ =>
  rw[← bytesAt_eq_digits]
  simp[setBytes]

lemma setU64Be_header (before old after:List UInt8) (value:UInt64) (hold:old.length=8)
  (h:(before++old++after).length≤ maxSize)
  (h':(before++digits 8 value.toNat++after).length≤ maxSize) :
  setU64Be ⟨before++old++after,h⟩ before.length value =
   .ok ⟨before++digits 8 value.toNat++after,h'⟩ := by
 grind[setU64Be,SerdeData.size,kSizeBytes,setBytes_header]

lemma Writes.writeFrame {write:SerdeData→ Except Failure SerdeData} {payload:List UInt8}
  (hw:Writes write payload) : Writes (writeFrame write) (frame payload) := by
 intro output
 obtain ⟨hok,herr⟩:=writes_putU64Be 0 output
 change (∀ hh,putU64Be output 0=_) at hok
 change (_→∃ e,putU64Be output 0=_) at herr
 refine ⟨fun h=>?_,fun h=>?_⟩
 · have hl:output.bytes.length+(8+payload.length)≤ maxSize:=by simpa using h
   have hh:(output.bytes++digits 8 (UInt64.toNat 0)).length≤ maxSize:=by
    simp only[length_append,digits_length]
    omega
   have hp:(output.bytes++digits 8 (UInt64.toNat 0)++payload).length≤ maxSize:=by
    simp only[length_append,digits_length]
    omega
   have hlen:(output.bytes++digits 8 (UInt64.toNat 0)++payload).length -
    (output.bytes++digits 8 (UInt64.toNat 0)).length=payload.length:=by
    simp only[length_append]
    omega
   have hv:(UInt64.ofNat payload.length).toNat=payload.length:=
    UInt64.toNat_ofNat_of_lt (sixtyFourBits (by omega))
   have hset:(output.bytes++digits 8 (UInt64.ofNat payload.length).toNat++payload).length ≤
    maxSize:=by
    simp only[length_append,digits_length]
    omega
   rw[SerdeBuffer.writeFrame,hok hh,ok_bind,(hw ⟨_,hh⟩).1 hp,ok_bind]
   change setU64Be ⟨output.bytes++digits 8 (UInt64.toNat 0)++payload,hp⟩ output.bytes.length
    (UInt64.ofNat ((output.bytes++digits 8 (UInt64.toNat 0)++payload).length -
     (output.bytes++digits 8 (UInt64.toNat 0)).length))=_
   rw[hlen,setU64Be_header _ _ _ _ (digits_length 8 _) hp hset]
   congr 2
   rw[hv,frame,append_assoc]
 · have hl:maxSize < output.bytes.length+(8+payload.length):=by simpa using h
   by_cases hh:(output.bytes++digits 8 (UInt64.toNat 0)).length≤ maxSize
   · obtain ⟨e,he⟩:=(hw ⟨_,hh⟩).2 (by simp only[length_append,digits_length]; omega)
     exact ⟨e,by rw[SerdeBuffer.writeFrame,hok hh,ok_bind,he,error_bind]⟩
   · obtain ⟨e,he⟩:=herr (by omega)
     exact ⟨e,by rw[SerdeBuffer.writeFrame,he,error_bind]⟩

end ServiceLib.SerdeBuffer
