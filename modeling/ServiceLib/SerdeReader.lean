import ServiceLib.SerdeBuffer

set_option autoImplicit false

/-!
# The input side of the serdes

A decoder returns a value or throws, and on the way it asks result vectors to reserve room.
`Decode` keeps both.
-/
namespace ServiceLib.SerdeReader
open BigEndian SerdeBuffer List

abbrev SerdeView := SerdeData

/-- One call of `reserve(count)`, with the bytes still unread at that moment and
the fewest bytes an element takes on the wire. -/
structure Reservation where
 count : ℕ
 remaining : ℕ
 elementBytes : ℕ
deriving DecidableEq,Repr

structure Decode (α:Type) where
 result : Except Failure α
 reserved : List Reservation

variable {α β:Type} {bytes:List UInt8} {a:α}

namespace Decode

def fail {α:Type} (e:Failure) : Decode α := ⟨.error e,[]⟩

/-- What the second part reserves is kept only when the first part returned. -/
def reservedAfter {α β:Type} (x:Except Failure α) (f:α → Decode β) : List Reservation :=
 match x with
 | .ok a => (f a).reserved
 | .error _ => []

instance : Monad Decode where
 pure a := ⟨.ok a,[]⟩
 bind x f := ⟨x.result >>= fun a=>(f a).result,x.reserved ++ reservedAfter x.result f⟩

@[simp] lemma result_pure (a:α) : (pure a:Decode α).result=.ok a := rfl

@[simp] lemma result_fail (e:Failure) : (fail e:Decode α).result=.error e := rfl

lemma result_bind (x:Decode α) (f:α→ Decode β) :
  (x >>= f).result=x.result >>= fun a=>(f a).result := rfl

lemma result_bind_ok {x:Decode α} (f:α→ Decode β)
  (h:x.result=.ok a) : (x >>= f).result=(f a).result := by
 rw[result_bind,h,ok_bind]

lemma result_bind_error {x:Decode α} {e:Failure} (f:α→ Decode β)
  (h:x.result=.error e) : (x >>= f).result=.error e := by
 rw[result_bind,h,error_bind]

end Decode

structure Reader where
 data : SerdeView
 offset : ℕ
 offset_le : offset ≤ data.size

abbrev Read := StateT Reader Decode

namespace Reader

def make (data:SerdeView) (maxTotalBytes:ℕ) : Decode Reader :=
 if maxTotalBytes < data.size then
  .fail (.serde ⟨"serde input exceeds configured limit",0⟩)
 else pure ⟨data,0,Nat.zero_le _⟩

def remaining (r:Reader) : ℕ := r.data.size - r.offset

def rest (r:Reader) : List UInt8 := r.data.bytes.drop r.offset

lemma rest_length (r:Reader) : r.rest.length=r.remaining := length_drop

lemma remaining_le (r:Reader) : r.remaining≤ maxSize :=
 (Nat.sub_le _ _).trans r.data.size_le

/-- `data_.subspan(offset_, size)`, where `size` is at most `remaining()`. -/
def subspan (r:Reader) (size:ℕ) : SerdeView :=
 ⟨r.rest.take size,by
  have h:=r.remaining_le
  rw [length_take,r.rest_length]
  omega⟩

def advance (r:Reader) (size:ℕ) (h:size ≤ r.remaining) : Reader :=
 ⟨r.data,r.offset + size,by
  have ho:=r.offset_le
  unfold remaining at h
  omega⟩

lemma advance_rest (r:Reader) (size:ℕ) (h:size≤r.remaining) :
  (r.advance size h).rest=r.rest.drop size := by
 simp[rest,advance,drop_drop]

end Reader

def read (size:ℕ) (what:String) : Read SerdeView := fun r =>
 if h : size ≤ r.remaining then pure (r.subspan size,r.advance size h)
 else .fail (.serde ⟨"serde underflow while reading " ++ what,r.offset⟩)

/-- The byte `bytes[index]`; the callers below index spans of known length. -/
def byte (bytes:SerdeView) (index:ℕ) : UInt8 := bytes.bytes.getD index 0

def u16OfBytes (bytes:SerdeView) : UInt16 :=
 ((byte bytes 0).toUInt16 <<< 8) ||| (byte bytes 1).toUInt16

def u32OfBytes (bytes:SerdeView) : UInt32 :=
 ((byte bytes 0).toUInt32 <<< 24) ||| ((byte bytes 1).toUInt32 <<< 16) |||
  ((byte bytes 2).toUInt32 <<< 8) ||| (byte bytes 3).toUInt32

def u64OfBytes (bytes:SerdeView) : UInt64 :=
 bytes.bytes.foldl (fun value b=>(value <<< 8) ||| b.toUInt64) 0

def readU8 : Read UInt8 := do
 return byte (← read 1 "u8") 0

def readU16Be : Read UInt16 := do
 return u16OfBytes (← read 2 "u16")

def readU32Be : Read UInt32 := do
 return u32OfBytes (← read 4 "u32")

def readU64Be : Read UInt64 := do
 return u64OfBytes (← read 8 "u64")

def failHere {α:Type} (message:String) : Read α := fun r =>
 .fail (.serde ⟨message,r.offset - kSizeBytes⟩)

/-- The two checks of `read_size` on the header it has just read. -/
def checkSize (maximum:ℕ) (what:String) (encoded:UInt64) : Read ℕ :=
 if sizeMax < encoded.toNat then failHere ("serde " ++ what ++ " does not fit size_t")
 else if maximum < encoded.toNat then failHere ("serde " ++ what ++ " exceeds configured limit")
 else pure encoded.toNat

def readSize (maximum:ℕ) (what:String) : Read ℕ := do
 let encoded ← readU64Be
 checkSize maximum what encoded

/-- A whole `Deserialize`: a fresh reader over the span, whose leftover is dropped. -/
def runReader {α:Type} (data:SerdeView) (maxTotalBytes:ℕ) (body:Read α) : Decode α := do
 let reader ← Reader.make data maxTotalBytes
 let (value,_) ← body reader
 return value

/-- `f` turns the bytes `bytes` into `a`: it consumes exactly them, whatever
follows, and reports a `SerdeError` when fewer of them are left. -/
structure Parses {α:Type} (f:Read α) (bytes:List UInt8) (a:α) : Prop where
 complete : ∀ (r:Reader) (tail:List UInt8),r.rest = bytes ++ tail →
  ∃ r' : Reader,(f r).result = .ok (a,r') ∧ r'.rest = tail
 truncated : ∀ r : Reader,r.rest <+: bytes → r.rest ≠ bytes →
  ∃ e : SerdeError,(f r).result = .error (.serde e)

lemma parses_pure (a:α) : Parses (pure a:Read α) [] a where
 complete r _ h := ⟨r,rfl,h⟩
 truncated _ h hne := absurd (prefix_nil.mp h) hne

lemma Parses.bind {f:Read α} {g:α→ Read β} {b:β}
    {more:List UInt8} (hf:Parses f bytes a) (hg:Parses (g a) more b) :
    Parses (f >>= g) (bytes++more) b where
 complete r tail h := by
  obtain ⟨r₁,h₁,hr₁⟩:=hf.complete r (more++tail) (by rw[h,append_assoc])
  obtain ⟨r₂,h₂,hr₂⟩:=hg.complete r₁ tail hr₁
  exact ⟨r₂,(Decode.result_bind_ok _ h₁).trans h₂,hr₂⟩
 truncated r h hne:=by
  -- The cut falls into the first part, or the first part is whole and the cut is in the second.
  by_cases hlen:r.rest.length < bytes.length
  · have hp:r.rest <+: bytes :=
     prefix_of_prefix_length_le h (prefix_append _ _) (Nat.le_of_lt hlen)
    obtain ⟨e,he⟩:=hf.truncated r hp (fun heq=>by rw[heq] at hlen; omega)
    exact ⟨e,Decode.result_bind_error _ he⟩
  · obtain ⟨tail,ht⟩:=prefix_of_prefix_length_le (prefix_append _ _) h (not_lt.mp hlen)
    obtain ⟨r₁,h₁,hr₁⟩:=hf.complete r tail ht.symm
    have hp:r₁.rest <+: more:=by
     rw[← ht] at h
     exact hr₁▸(prefix_append_right_inj _).mp h
    obtain ⟨e,he⟩:=hg.truncated r₁ hp (fun heq=>hne (by rw[← ht,← hr₁,heq]))
    exact ⟨e,(Decode.result_bind_ok _ h₁).trans he⟩

lemma Parses.map {f:Read α} (hf:Parses f bytes a)
  (g:α→β) : Parses (f >>= fun x=>pure (g x)) bytes (g a) := by
 have h:Parses (f >>= fun x=>pure (g x)) (bytes++[]) (g a):=hf.bind (parses_pure (g a))
 rwa[append_nil] at h

lemma parses_read (what:String) (view:SerdeView) {size:ℕ} (hsize:view.size=size) :
    Parses (read size what) view.bytes view where
 complete r tail h := by
  have hr:size≤r.remaining:=by
   rw[← r.rest_length,h,length_append,← hsize]
   exact Nat.le_add_right _ _
  refine ⟨r.advance size hr,?_,?_⟩
  · have hv:r.subspan size=view:=by
     apply SerdeData.ext
     change r.rest.take size=view.bytes
     rw[h,take_left' hsize]
    simp only[read,hr,↓reduceDIte,hv,Decode.result_pure]
  · rw[r.advance_rest size hr,h,drop_left' hsize]
 truncated r h hne:=by
  have hlt:r.rest.length < view.bytes.length:=by
   have hle:=h.length_le
   have hneq:r.rest.length≠view.bytes.length:=fun heq=>hne (h.eq_of_length heq)
   omega
  have hr:¬ size≤r.remaining:=by
   rw[← r.rest_length,← hsize]
   exact not_le.mpr hlt
  refine ⟨⟨"serde underflow while reading "++what,r.offset⟩,?_⟩
  simp only[read,hr,↓reduceDIte,Decode.result_fail]

lemma u64_foldl (bytes:List UInt8) (acc:UInt64) :
  (bytes.foldl (fun (value:UInt64) b=>(value <<< 8) ||| b.toUInt64) acc).toNat =
   bytes.foldl push acc.toNat % 2 ^ 64 := by
 induction bytes generalizing acc with
 | nil => exact (Nat.mod_eq_of_lt acc.toNat_lt).symm
 | cons b bytes ih =>
  have h8:UInt64.toNat 8 % 64=8:=rfl
  have hstep:((acc <<< 8) ||| b.toUInt64).toNat=push acc.toNat b % 2 ^ 64:=by
   rw[UInt64.toNat_or,UInt64.toNat_shiftLeft,UInt8.toNat_toUInt64,h8]
   exact shift_or_eq_push 64 _ b (by omega)
  rw[foldl_cons,foldl_cons,ih,hstep,foldl_push,foldl_push,Nat.add_mod,
   Nat.mod_mul_mod,← Nat.add_mod]

lemma u64OfBytes_toNat (bytes:SerdeView) (h:bytes.size=8) :
  (u64OfBytes bytes).toNat=value bytes.bytes := by
 have hlt:=value_lt bytes.bytes
 change value bytes.bytes < 256 ^ bytes.size at hlt
 rw[h] at hlt
 rw[u64OfBytes,u64_foldl]
 exact Nat.mod_eq_of_lt hlt

lemma parses_readU64Be {n:ℕ} (hn:n < 256 ^ 8) :
  Parses readU64Be (digits 8 n) (UInt64.ofNat n) := by
 let view:SerdeView:=⟨digits 8 n,by rw[digits_length]; decide⟩
 have hview:view.size=8:=digits_length 8 n
 have hv:u64OfBytes view=UInt64.ofNat n:=by
  have hn':(UInt64.ofNat n).toNat=n:=UInt64.toNat_ofNat_of_lt hn
  apply UInt64.toNat_inj.mp
  rw[u64OfBytes_toNat view hview,hn']
  exact value_digits_of_lt hn
 exact hv▸(parses_read "u64" view hview).map u64OfBytes

lemma parses_readSize {n maximum:ℕ} (what:String) (hn:n < 256 ^ 8) (hm:n≤ maximum) :
  Parses (readSize maximum what) (digits 8 n) n := by
 have hv:(UInt64.ofNat n).toNat=n:=UInt64.toNat_ofNat_of_lt hn
 have hs:¬ sizeMax < n:=by unfold sizeMax; omega
 have hc:Parses (checkSize maximum what (UInt64.ofNat n)) [] n:=by
  simp only[checkSize,hv,hs,not_lt.mpr hm,↓reduceIte]
  exact parses_pure n
 have h:Parses (readSize maximum what) (digits 8 n++[]) n:=(parses_readU64Be hn).bind hc
 rwa[append_nil] at h

/-- A `Deserialize` decodes `bytes` to `a` whatever follows them, and throws a
`SerdeError` on every proper prefix. -/
structure Decodes {α:Type} (decode:SerdeView → Decode α) (bytes:List UInt8) (a:α) : Prop where
 complete : ∀ (view:SerdeView) (tail:List UInt8),view.bytes = bytes ++ tail →
  (decode view).result = .ok a
 truncated : ∀ view : SerdeView,view.bytes <+: bytes → view.bytes ≠ bytes →
  ∃ e : SerdeError,(decode view).result = .error (.serde e)

lemma Parses.decodes {body:Read α} {maxTotalBytes:ℕ}
  (h:Parses body bytes a) (hm:maxSize≤ maxTotalBytes) :
  Decodes (fun view=>runReader view maxTotalBytes body) bytes a := by
 have hmake:∀ view : SerdeView,
  Reader.make view maxTotalBytes=pure ⟨view,0,Nat.zero_le _⟩:=by
  intro view
  exact if_neg (not_lt.mpr (view.size_le.trans hm))
 refine ⟨fun view tail hv=>?_,fun view hp hne=>?_⟩
 · obtain ⟨r',hr',-⟩:=h.complete ⟨view,0,Nat.zero_le _⟩ tail hv
   rw[runReader,hmake]
   exact (Decode.result_bind_ok _ rfl).trans (Decode.result_bind_ok _ hr')
 · obtain ⟨e,he⟩:=h.truncated ⟨view,0,Nat.zero_le _⟩ hp hne
   refine ⟨e,?_⟩
   rw[runReader,hmake]
   exact (Decode.result_bind_ok _ rfl).trans (Decode.result_bind_error _ he)

end ServiceLib.SerdeReader
