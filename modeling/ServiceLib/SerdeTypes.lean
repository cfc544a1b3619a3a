import Mathlib.Data.Finmap
import ServiceLib.SerdeScalar

set_option autoImplicit false

/-!
# The serdes of the library

A map object keeps the order in which it is iterated, since that order reaches the wire; the value
it denotes is a finite map, since that is all a decoder can promise.
-/
namespace ServiceLib.SerdeTypes
open BigEndian SerdeBuffer SerdeReader SerdeScalar

structure SerdeLimits where
 maxStringBytes : ℕ := sizeMax
 maxBytes : ℕ := sizeMax
 maxContainerElements : ℕ := sizeMax
 maxTotalBytes : ℕ := sizeMax
deriving DecidableEq,Repr

def unlimited : SerdeLimits := {}

inductive CppType
 | scalar (s:Scalar)
 | byte
 | string
 | vector (t:CppType)
 | map (k v:CppType)
deriving DecidableEq,Repr

namespace CppType

/-- `sizeof` on the 64-bit targets with libstdc++. -/
def sizeOf : CppType → ℕ
 | .scalar s => s.size
 | .byte => 1
 | .string => 32
 | .vector _ => 24
 | .map _ _ => 56

lemma sizeOf_pos (t:CppType) : 0 < t.sizeOf := by
 cases t with
 | scalar s => exact s.size_pos
 | byte | string | vector _ | map _ _ => exact Nat.succ_pos _

def maxElements (t:CppType) : ℕ := maxSize / t.sizeOf

lemma maxElements_le (t:CppType) : t.maxElements≤ maxSize := Nat.div_le_self _ _

end CppType

structure Vec (α:Type) (limit:ℕ) where
 items : List α
 size_le : items.length ≤ limit

/-- A map object: its entries in iteration order. Keys are compared by the value
`abs` gives them. -/
structure MapObj {α β:Type} (abs:α → β) (γ:Type) (limit:ℕ) where
 entries : List (α × γ)
 nodup : (entries.map fun e=>abs e.1).Nodup
 size_le : entries.length ≤ limit

structure Representation where
 Obj : Type
 Val : Type
 decEq : DecidableEq Val
 abs : Obj → Val

/-- Inserting entries one after another, a later one replacing an earlier one. -/
def fromEntries {α β:Type} [DecidableEq α] (entries:List (α × β)) : Finmap fun _ : α=>β :=
 entries.foldl (fun m e=>m.insert e.1 e.2) ∅

/-- A node of an unordered map holds a key and a value, so a map never has more
entries than a vector of either could hold. -/
def mapLimit (k v:CppType) : ℕ := maxSize / (k.sizeOf + v.sizeOf)

namespace CppType

def repr : CppType → Representation
 | .scalar s => ⟨s.Val,s.Val,s.decEqVal,id⟩
 | .byte => ⟨UInt8,UInt8,inferInstance,id⟩
 | .string => ⟨Vec UInt8 maxSize,List UInt8,inferInstance,Vec.items⟩
 | .vector t =>
  ⟨Vec t.repr.Obj t.maxElements,List t.repr.Val,@instDecidableEqList _ t.repr.decEq,
   fun v=>v.items.map t.repr.abs⟩
 | .map k v =>
  haveI := k.repr.decEq
  haveI := v.repr.decEq
  ⟨MapObj k.repr.abs v.repr.Obj (mapLimit k v),Finmap fun _ : k.repr.Val=>v.repr.Val,
   inferInstance,fun m=>fromEntries (m.entries.map fun e=>(k.repr.abs e.1,v.repr.abs e.2))⟩

abbrev Obj (t:CppType) : Type := t.repr.Obj

abbrev Val (t:CppType) : Type := t.repr.Val

instance (t:CppType) : DecidableEq t.Val := t.repr.decEq

def abs {t:CppType} : t.Obj → t.Val := t.repr.abs

end CppType

inductive Serde : CppType → Type
 | scalar (s:Scalar) : Serde (.scalar s)
 | string (limits:SerdeLimits) : Serde .string
 | bytes (limits:SerdeLimits) : Serde (.vector .byte)
 | uint8Array (limits:SerdeLimits) : Serde (.vector (.scalar .uint8))
 | fixedSizeArray (s:Scalar) (limits:SerdeLimits) : Serde (.vector (.scalar s))
 | stringArray (limits:SerdeLimits) : Serde (.vector .string)
 | array {t:CppType} (valueSerde:Serde t) (limits:SerdeLimits) : Serde (.vector t)
 | map {k v:CppType} (keyArraySerde:Serde (.vector k)) (valueArraySerde:Serde (.vector v))
   (limits:SerdeLimits) : Serde (.map k v)

/-- `result.reserve(count)` of a vector of `t`, noted with the bytes that are left. -/
def reserve (t:CppType) (count remaining elementBytes:ℕ) : Decode Unit :=
 ⟨if t.maxElements < count then .error .lengthError else .ok (),
  [⟨count,remaining,elementBytes⟩]⟩

def serializeFresh (write:SerdeData → Except Failure SerdeData) (size:ℕ) :
  Except Failure SerdeData := do
 let output ← reserveBytes .empty size
 write output

def appendBytes (output:SerdeData) (bytes:List UInt8) : Except Failure SerdeData :=
 bytes.foldlM pushBack output

/-- The common body of `StringSerde` and `BasicBytesSerde`. -/
def blobSerializeTo (maximum:ℕ) (what message:String) (output:SerdeData)
  (value:List UInt8) : Except Failure SerdeData := do
 if maximum < value.length then
  .error (.serde ⟨message,0⟩)
 else
  let output ← reserveMore output (← checkedAdd kSizeBytes value.length what)
  let output ← putSize output value.length
  appendBytes output value

def stringSerializeTo (limits:SerdeLimits) (output:SerdeData) (value:List UInt8) :
  Except Failure SerdeData :=
 blobSerializeTo limits.maxStringBytes "string" "string exceeds configured serde limit" output value

def bytesSerializeTo (limits:SerdeLimits) (output:SerdeData) (value:List UInt8) :
  Except Failure SerdeData :=
 blobSerializeTo limits.maxBytes "bytes" "byte sequence exceeds configured serde limit" output value

def stringDeserialize (limits:SerdeLimits) (data:SerdeView) : Decode (List UInt8) :=
 runReader data limits.maxTotalBytes do
  let length ← readSize limits.maxStringBytes "string length"
  let bytes ← read length "string"
  return bytes.bytes

/-- The copying loop pushes the bytes it has read; the reservation comes after the read. -/
def bytesDeserialize (t:CppType) (limits:SerdeLimits) (data:SerdeView) : Decode (List UInt8) :=
 runReader data limits.maxTotalBytes do
  let length ← readSize limits.maxBytes "bytes length"
  let bytes ← read length "bytes"
  StateT.lift (reserve t length bytes.size 1)
  return bytes.bytes

/-- Decoding `count` elements with `element`, pushed onto the result in order. -/
def readElements {α:Type} (element:Read α) : ℕ → Read (List α)
 | 0 => pure []
 | count + 1 => do
  let value ← element
  let rest ← readElements element count
  return value :: rest

def readFixedElement (s:Scalar) : Read s.Val := do
 let bytes ← read s.size "fixed-size array element"
 StateT.lift (s.deserialize bytes)

/-- `FixedSizeArraySerde::Deserialize` from the check of the count on. -/
def readFixedElements (s:Scalar) (count:ℕ) : Read (List s.Val) := do
 let reader ← get
 if reader.remaining / s.size < count then
  StateT.lift (.fail (.serde ⟨"fixed-size array payload is truncated",reader.offset⟩))
 else
  StateT.lift (reserve (.scalar s) count reader.remaining s.size)
  readElements (readFixedElement s) count

def fixedSizeArrayDeserialize (s:Scalar) (limits:SerdeLimits) (data:SerdeView) :
  Decode (List s.Val) :=
 runReader data limits.maxTotalBytes do
  let count ← readSize limits.maxContainerElements "array count"
  readFixedElements s count

/-- One length-prefixed string of `StringArraySerde::Deserialize`. -/
def readString (limits:SerdeLimits) : Read (List UInt8) := do
 let length ← readSize limits.maxStringBytes "string length"
 let bytes ← read length "string array element"
 return bytes.bytes

def stringArrayDeserialize (limits:SerdeLimits) (data:SerdeView) : Decode (List (List UInt8)) :=
 runReader data limits.maxTotalBytes do
  let count ← readSize limits.maxContainerElements "string array count"
  let reader ← get
  StateT.lift (reserve .string count reader.remaining kSizeBytes)
  readElements (readString limits) count

/-- A length header, the payload it announces, and the inner decoder on that payload. -/
def readFramed {α:Type} (maximum:ℕ) (lengthOf what:String) (decode:SerdeView → Decode α) :
  Read α := do
 let length ← readSize maximum lengthOf
 let bytes ← read length what
 StateT.lift (decode bytes)

def arrayDeserialize {α:Type} (t:CppType) (decode:SerdeView → Decode α) (limits:SerdeLimits)
  (data:SerdeView) : Decode (List α) :=
 runReader data limits.maxTotalBytes do
  let count ← readSize limits.maxContainerElements "array count"
  let reader ← get
  StateT.lift (reserve t count reader.remaining kSizeBytes)
  readElements (readFramed limits.maxTotalBytes "array element length" "array element payload" decode)
   count

/-- The end of `MapSerde::Deserialize`, once both arrays have been decoded. -/
def buildMap {α β:Type} [DecidableEq α] (limits:SerdeLimits) (keys:List α) (values:List β) :
  Read (Finmap fun _:α=>β) := fun reader =>
 if keys.length ≠ values.length then
  .fail (.serde ⟨"map key/value count mismatch",reader.offset⟩)
 else if limits.maxContainerElements < keys.length then
  .fail (.serde ⟨"map exceeds configured element limit",0⟩)
 else
  -- `result.reserve` asks only for keys that have been decoded already.
  pure (fromEntries (keys.zip values),reader)

def mapDeserialize {α β:Type} [DecidableEq α] (decodeKeys:SerdeView → Decode (List α))
  (decodeValues:SerdeView → Decode (List β)) (limits:SerdeLimits) (data:SerdeView) :
  Decode (Finmap fun _:α=>β) :=
 runReader data limits.maxTotalBytes do
  let keys ← readFramed limits.maxTotalBytes "map keys length" "map keys payload" decodeKeys
  let values ← readFramed limits.maxTotalBytes "map values length" "map values payload" decodeValues
  buildMap limits keys values

def MapObj.keys {k v:CppType} (m:(CppType.map k v).Obj) : (CppType.vector k).Obj :=
 ⟨m.entries.map Prod.fst,by
  rw [List.length_map]
  exact m.size_le.trans (Nat.div_le_div_left (Nat.le_add_right _ _) k.sizeOf_pos)⟩

def MapObj.values {k v:CppType} (m:(CppType.map k v).Obj) : (CppType.vector v).Obj :=
 ⟨m.entries.map Prod.snd,by
  rw [List.length_map]
  exact m.size_le.trans (Nat.div_le_div_left (Nat.le_add_left _ _) v.sizeOf_pos)⟩

namespace Serde

def serializeTo : {t:CppType} → Serde t → SerdeData → t.Obj → Except Failure SerdeData
 | _,.scalar s,output,value => s.serializeTo output value
 | _,.string limits,output,value => stringSerializeTo limits output (Vec.items value)
 | _,.bytes limits,output,value => bytesSerializeTo limits output (Vec.items value)
 | _,.uint8Array limits,output,value => bytesSerializeTo limits output (Vec.items value)
 | _,.fixedSizeArray s limits,output,value => do
  let items:=Vec.items value
  if limits.maxContainerElements < items.length then
   .error (.serde ⟨"array exceeds configured element limit",0⟩)
  else
   let output ← putSize output items.length
   items.foldlM s.serializeTo output
 | _,.stringArray limits,output,value => do
  let items:=Vec.items value
  if limits.maxContainerElements < items.length then
   .error (.serde ⟨"string array exceeds configured element limit",0⟩)
  else
   let output ← putSize output items.length
   items.foldlM (fun output item=>stringSerializeTo limits output (Vec.items item)) output
 | _,.array valueSerde limits,output,value => do
  let items:=Vec.items value
  if limits.maxContainerElements < items.length then
   .error (.serde ⟨"array exceeds configured element limit",0⟩)
  else
   let output ← putSize output items.length
   items.foldlM
    (fun output item=>writeFrame (fun output=>valueSerde.serializeTo output item) output) output
 | _,.map keyArraySerde valueArraySerde limits,output,value => do
  if limits.maxContainerElements < (MapObj.entries value).length then
   .error (.serde ⟨"map exceeds configured element limit",0⟩)
  else
   let output ← writeFrame (fun output=>keyArraySerde.serializeTo output (MapObj.keys value)) output
   writeFrame (fun output=>valueArraySerde.serializeTo output (MapObj.values value)) output

def serialize {t:CppType} (serde:Serde t) (value:t.Obj) : Except Failure SerdeData :=
 match t,serde,value with
 | _,.scalar s,value => serializeFresh (fun output=>s.serializeTo output value) s.size
 | _,.string limits,value => do
  let size ← checkedAdd kSizeBytes (Vec.items value).length "string"
  serializeFresh (fun output=>(Serde.string limits).serializeTo output value) size
 | _,.bytes limits,value => do
  let size ← checkedAdd kSizeBytes (Vec.items value).length "bytes"
  serializeFresh (fun output=>(Serde.bytes limits).serializeTo output value) size
 | _,.uint8Array limits,value => do
  let size ← checkedAdd kSizeBytes (Vec.items value).length "bytes"
  serializeFresh (fun output=>(Serde.uint8Array limits).serializeTo output value) size
 | _,.fixedSizeArray s limits,value => do
  if (sizeMax - kSizeBytes) / s.size < (Vec.items value).length then
   .error (.serde ⟨"fixed-size array output size overflow",0⟩)
  else
   serializeFresh (fun output=>(Serde.fixedSizeArray s limits).serializeTo output value)
    (kSizeBytes + (Vec.items value).length * s.size)
 | _,serde,value => serializeFresh (fun output=>serde.serializeTo output value) 0

def deserialize : {t:CppType} → Serde t → SerdeView → Decode t.Val
 | _,.scalar s,data => s.deserialize data
 | _,.string limits,data => stringDeserialize limits data
 | _,.bytes limits,data => bytesDeserialize .byte limits data
 | _,.uint8Array limits,data => bytesDeserialize (.scalar .uint8) limits data
 | _,.fixedSizeArray s limits,data => fixedSizeArrayDeserialize s limits data
 | _,.stringArray limits,data => stringArrayDeserialize limits data
 | _,.array (t := t) valueSerde limits,data => arrayDeserialize t valueSerde.deserialize limits data
 | _,.map keyArraySerde valueArraySerde limits,data =>
  mapDeserialize keyArraySerde.deserialize valueArraySerde.deserialize limits data

def HasLimits (limits:SerdeLimits) : {t:CppType} → Serde t → Prop
 | _,.scalar _ => True
 | _,.string l | _,.bytes l | _,.uint8Array l | _,.fixedSizeArray _ l | _,.stringArray l =>
  l = limits
 | _,.array valueSerde l => l = limits ∧ valueSerde.HasLimits limits
 | _,.map keyArraySerde valueArraySerde l =>
  l = limits ∧ keyArraySerde.HasLimits limits ∧ valueArraySerde.HasLimits limits

end Serde

inductive StreamType
 | value (t:CppType)
 | keyValue (k v:CppType)
deriving DecidableEq,Repr

namespace StreamType

def Obj : StreamType → Type
 | .value t => t.Obj
 | .keyValue k v => k.Obj × v.Obj

def Val : StreamType → Type
 | .value t => t.Val
 | .keyValue k v => k.Val × v.Val

def abs : {t:StreamType} → t.Obj → t.Val
 | .value _,x => CppType.abs x
 | .keyValue _ _,x => (CppType.abs x.1,CppType.abs x.2)

end StreamType

inductive StreamSerde : StreamType → Type
 | value {t:CppType} (serde:Serde t) : StreamSerde (.value t)
 | keyValue {k v:CppType} (keySerde:Serde k) (valueSerde:Serde v) (limits:SerdeLimits) :
   StreamSerde (.keyValue k v)

namespace StreamSerde

def serialize : {t:StreamType} → StreamSerde t → t.Obj → Except Failure SerdeData
 | _,.value serde,x => serde.serialize x
 | _,.keyValue keySerde valueSerde _,x => do
  let output ← writeFrame (fun output=>keySerde.serializeTo output x.1) .empty
  writeFrame (fun output=>valueSerde.serializeTo output x.2) output

def deserialize : {t:StreamType} → StreamSerde t → SerdeView → Decode t.Val
 | _,.value serde,data => serde.deserialize data
 | _,.keyValue keySerde valueSerde limits,data =>
  runReader data limits.maxTotalBytes do
   let first ← readFramed limits.maxTotalBytes "key length" "key payload" keySerde.deserialize
   let second ← readFramed limits.maxTotalBytes "value length" "value payload" valueSerde.deserialize
   return (first,second)

def HasLimits (limits:SerdeLimits) : {t:StreamType} → StreamSerde t → Prop
 | _,.value serde => serde.HasLimits limits
 | _,.keyValue keySerde valueSerde l =>
  l = limits ∧ keySerde.HasLimits limits ∧ valueSerde.HasLimits limits

end StreamSerde

end ServiceLib.SerdeTypes
