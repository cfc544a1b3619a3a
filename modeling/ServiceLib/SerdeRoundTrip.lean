import ServiceLib.SerdeTypes

set_option autoImplicit false

/-!
# Round trips and truncations of the wire format

`encode` is the wire format as a function of the value alone. The payload of a frame is what the
inner serde wrote.
-/
namespace ServiceLib.SerdeRoundTrip
open BigEndian SerdeBuffer SerdeReader SerdeScalar SerdeTypes List

def encode : {t:CppType} → Serde t → t.Obj → List UInt8
 | _,.scalar s,value => s.encode value
 | _,.string _,value | _,.bytes _,value | _,.uint8Array _,value => frame (Vec.items value)
 | _,.fixedSizeArray s _,value =>
  digits 8 (Vec.items value).length ++ (Vec.items value).flatMap s.encode
 | _,.stringArray _,value =>
  digits 8 (Vec.items value).length ++ (Vec.items value).flatMap fun item=>frame (Vec.items item)
 | _,.array valueSerde _,value =>
  digits 8 (Vec.items value).length ++
   (Vec.items value).flatMap fun item=>frame (encode valueSerde item)
 | _,.map keyArraySerde valueArraySerde _,value =>
  frame (encode keyArraySerde (MapObj.keys value)) ++
   frame (encode valueArraySerde (MapObj.values value))

lemma writes_appendBytes (bytes:List UInt8) :
  Writes (fun output=>appendBytes output bytes) bytes := by
 have h:=writes_foldlM bytes pushBack (fun b=>[b]) (fun b _=>writes_pushBack b)
 rw[flatMap_singleton'] at h
 exact h

variable {n maximum:ℕ} {t:CppType} {α:Type} {bytes:List UInt8}
  {write:SerdeData → Except Failure SerdeData} {a:α}

lemma reserveMore_ok {output:SerdeData} (h:output.size+n≤ maxSize) :
  reserveMore output n=.ok output := by
 have h1:¬ maxSize - output.size < n:=by omega
 have h2:¬ maxSize < output.size+n:=by omega
 rw[reserveMore,if_neg h1,reserveBytes,if_neg h2]

lemma reserveMore_error {output:SerdeData} (h:maxSize < output.size+n) :
  ∃ e,reserveMore output n=.error e := by
 have hs:=output.size_le_maxSize
 have h1:maxSize - output.size < n:=by omega
 exact ⟨_,by rw[reserveMore,if_pos h1]⟩

lemma checkedAdd_ok (what:String) (h:n≤ maxSize) :
  checkedAdd kSizeBytes n what=.ok (8+n) := by
 have h1:¬ sizeMax - kSizeBytes < n:=by
  unfold sizeMax kSizeBytes
  unfold maxSize at h
  omega
 rw[checkedAdd,if_neg h1]
 rfl

lemma writes_blob (what message:String) {value:List UInt8}
  (hv:value.length≤ maxSize) (hm:value.length≤ maximum) :
  Writes (fun output=>blobSerializeTo maximum what message output value) (frame value) := by
 have hbody:=(writes_putSize hv).bind (writes_appendBytes value)
 intro output
 have heq:blobSerializeTo maximum what message output value =
  (reserveMore output (8+value.length) >>= fun output =>
   putSize output value.length >>= fun output=>appendBytes output value):=by
  simp only[blobSerializeTo,if_neg (not_lt.mpr hm),checkedAdd_ok what hv]
  rfl
 have hsize:(output.bytes++frame value).length=output.size+(8+value.length):=by
  simp[SerdeData.size]
 refine ⟨fun h=>?_,fun h=>?_⟩
 · simp only[heq,reserveMore_ok (hsize▸h),ok_bind]
   exact (hbody output).1 h
 · obtain ⟨e,he⟩:=reserveMore_error (hsize▸h)
   exact ⟨e,by simp only[heq,he,error_bind]⟩

lemma le_unlimited (h:n≤ maxSize) : n≤ sizeMax :=
 h.trans (by decide)

lemma vec_length_le (value:(CppType.vector t).Obj) :
  (Vec.items value).length≤ maxSize :=
 (Vec.size_le value).trans t.maxElements_le

lemma writes_counted (items:List α) (f:SerdeData→α→ Except Failure SerdeData)
  (bytes:α→ List UInt8) (hlen:items.length≤ maxSize)
  (hf:∀ x∈items,Writes (fun output=>f output x) (bytes x)) :
  Writes (fun output=>putSize output items.length >>= fun output=>items.foldlM f output)
   (digits 8 items.length++items.flatMap bytes) :=
 (writes_putSize hlen).bind (writes_foldlM items f bytes hf)

lemma writes_serializeTo (serde:Serde t) (hl:serde.HasLimits unlimited)
  (value:t.Obj) : Writes (fun output=>serde.serializeTo output value) (encode serde value) := by
 induction serde with
 | scalar s => exact writes_scalar s value
 | string limits =>
  subst hl
  exact writes_blob _ _ (Vec.size_le value) (le_unlimited (Vec.size_le value))
 | bytes limits | uint8Array limits =>
  subst hl
  exact writes_blob _ _ (vec_length_le value) (le_unlimited (vec_length_le value))
 | fixedSizeArray s limits =>
  subst hl
  have hlen:=vec_length_le value
  have h:=writes_counted (Vec.items value) s.serializeTo s.encode hlen
   (fun x _=>writes_scalar s x)
  have hlim:¬ unlimited.maxContainerElements < (Vec.items value).length:=
   not_lt.mpr (le_unlimited hlen)
  simp only[Serde.serializeTo,if_neg hlim,encode]
  exact h
 | stringArray limits =>
  subst hl
  have hlen:=vec_length_le value
  have h:=writes_counted (Vec.items value)
   (fun output item=>stringSerializeTo unlimited output (Vec.items item))
   (fun item=>frame (Vec.items item)) hlen
   (fun x _=>writes_blob _ _ (Vec.size_le x) (le_unlimited (Vec.size_le x)))
  have hlim:¬ unlimited.maxContainerElements < (Vec.items value).length:=
   not_lt.mpr (le_unlimited hlen)
  simp only[Serde.serializeTo,if_neg hlim,encode]
  exact h
 | array valueSerde limits ih =>
  obtain ⟨rfl,hv⟩:=hl
  have hlen:=vec_length_le value
  have h:=writes_counted (Vec.items value)
   (fun output item=>writeFrame (fun output=>valueSerde.serializeTo output item) output)
   (fun item=>frame (encode valueSerde item)) hlen (fun x _=>(ih hv x).writeFrame)
  have hlim:¬ unlimited.maxContainerElements < (Vec.items value).length:=
   not_lt.mpr (le_unlimited hlen)
  simp only[Serde.serializeTo,if_neg hlim,encode]
  exact h
 | map keyArraySerde valueArraySerde limits ihk ihv =>
  obtain ⟨rfl,hk,hv⟩:=hl
  have hlen:(MapObj.entries value).length≤ maxSize:=
   (MapObj.size_le value).trans (Nat.div_le_self _ _)
  have h:=(ihk hk (MapObj.keys value)).writeFrame.bind (ihv hv (MapObj.values value)).writeFrame
  have hlim:¬ unlimited.maxContainerElements < (MapObj.entries value).length:=
   not_lt.mpr (le_unlimited hlen)
  simp only[Serde.serializeTo,if_neg hlim,encode]
  exact h

lemma Decodes.of_complete {decode:SerdeView→ Decode α}
  (h:Decodes decode bytes a) (hb:bytes.length≤ maxSize) :
  (decode ⟨bytes,hb⟩).result=.ok a :=
 h.complete _ [] (append_nil _).symm

lemma parses_readElements {β:Type} (element:Read β) (items:List α)
  (bytes:α→ List UInt8) (val:α→β) (h:∀ x∈items,Parses element (bytes x) (val x)) :
  Parses (readElements element items.length) (items.flatMap bytes) (items.map val) := by
 induction items with
 | nil => exact parses_pure []
 | cons x items ih =>
  have hx:=h x (by simp)
  have hrest:=ih (fun y hy=>h y (by simp[hy]))
  have hcons:Parses (readElements element items.length >>= fun rest=>pure (val x::rest))
   (items.flatMap bytes) (val x::items.map val) := hrest.map fun rest=>val x::rest
  exact hx.bind hcons

lemma parses_lift {d:Decode α} (h:d.result=.ok a) :
  Parses (StateT.lift d : Read α) [] a :=
 ⟨fun r _ hr=>⟨r,Decode.result_bind_ok _ h,hr⟩,
  fun _ hp hne=>absurd (prefix_nil.mp hp) hne⟩

lemma parses_framed (lengthOf what:String)
  {decode:SerdeView→ Decode α} {payload:List UInt8} (hd:Decodes decode payload a)
  (hp:payload.length≤ maxSize) (hm:payload.length≤ maximum) :
  Parses (readFramed maximum lengthOf what decode) (frame payload) a := by
 let view:SerdeView:=⟨payload,hp⟩
 have hread:=(parses_read what view rfl).bind (g:=fun bytes=>StateT.lift (decode bytes))
  (parses_lift (Decodes.of_complete hd hp))
 rw[append_nil] at hread
 exact (parses_readSize lengthOf (sixtyFourBits hp) hm).bind hread

lemma parses_get {f:Reader→ Read α}
  (h:∀ reader,Parses (f reader) bytes a) : Parses (get >>= f) bytes a :=
 ⟨fun r tail hr=>(h r).complete r tail hr,fun r hp hne=>(h r).truncated r hp hne⟩

lemma parses_reserved {count:ℕ} (remaining elementBytes:ℕ) {f:Read α}
  (hc:count≤t.maxElements) (h:Parses f bytes a) :
  Parses (StateT.lift (reserve t count remaining elementBytes) >>= fun _=>f) bytes a := by
 have hr:(reserve t count remaining elementBytes).result=.ok ():=if_neg (not_lt.mpr hc)
 simpa only[nil_append] using (parses_lift hr).bind h

lemma item_length_le {items:List α} (bytes:α→ List UInt8) {x:α} (hx:x∈items) :
  (bytes x).length≤(items.flatMap bytes).length := by
 obtain ⟨before,after,rfl⟩:=append_of_mem hx
 simp only[flatMap_append,flatMap_cons,length_append]
 omega

lemma flatMap_scalar_length (s:Scalar) (items:List s.Val) :
  (items.flatMap s.encode).length=items.length * s.size := by
 induction items with
 | nil => simp
 | cons x items ih =>
  simp only[flatMap_cons,length_append,Scalar.encode_length,ih,length_cons]
  ring

lemma parses_scalarElement (s:Scalar) (x:s.Val) :
  Parses (readFixedElement s) (s.encode x) x := by
 have hle:(s.encode x).length≤ maxSize:=by
  rw[Scalar.encode_length]
  cases s <;> decide
 let view:SerdeView:=⟨s.encode x,hle⟩
 have h:=(parses_read "fixed-size array element" view (s.encode_length x)).bind
  (g := fun bytes=>StateT.lift (s.deserialize bytes))
  (parses_lift (Decodes.of_complete (decodes_scalar s x) hle))
 rwa[append_nil] at h

lemma parses_readFixedElements (s:Scalar) (items:List s.Val)
  (hlen:items.length≤(CppType.scalar s).maxElements) :
  Parses (readFixedElements s items.length) (items.flatMap s.encode) items := by
 have hpos:=s.size_pos
 have helems:=parses_readElements (readFixedElement s) items s.encode id
  (fun x _=>parses_scalarElement s x)
 rw[map_id] at helems
 refine ⟨fun r tail hr=>?_,fun r hp hne=>?_⟩
 · have hrem:r.remaining=items.length * s.size+tail.length:=by
    rw[← r.rest_length,hr,length_append,flatMap_scalar_length]
   have hcount:¬ r.remaining / s.size < items.length:=by
    rw[Nat.div_lt_iff_lt_mul hpos,hrem]
    omega
   have h:=(parses_reserved r.remaining s.size hlen helems).complete
    r tail hr
   change ∃ r',((if r.remaining / s.size < items.length then _ else _ : Read (List s.Val)) r).result=_∧_
   rw[if_neg hcount]
   exact h
 · have hrem:r.remaining < items.length * s.size:=by
    have hle:=hp.length_le
    have hneq:r.rest.length≠(items.flatMap s.encode).length:=fun heq=>hne (hp.eq_of_length heq)
    rw[r.rest_length,flatMap_scalar_length] at hle hneq
    omega
   have hcount:r.remaining / s.size < items.length:=(Nat.div_lt_iff_lt_mul hpos).mpr hrem
   refine ⟨⟨"fixed-size array payload is truncated",r.offset⟩,?_⟩
   change ((if r.remaining / s.size < items.length then _ else _ : Read (List s.Val)) r).result=_
   rw[if_pos hcount]
   rfl

lemma parses_blob (lengthOf what:String) (items:List UInt8)
    (hlen:items.length≤ maxSize) (hm:items.length≤ maximum) :
    Parses (do
      let length ← readSize maximum lengthOf
      let bytes ← read length what
      return bytes.bytes) (frame items) items := by
 let view:SerdeView:=⟨items,hlen⟩
 exact (parses_readSize lengthOf (sixtyFourBits hlen) hm).bind
  ((parses_read what view rfl).map SerdeData.bytes)

lemma parses_bytes (t:CppType) (items:List UInt8) (hlen:items.length≤t.maxElements) :
    Parses (do
      let length ← readSize unlimited.maxBytes "bytes length"
      let bytes ← read length "bytes"
      StateT.lift (reserve t length bytes.size 1)
      return bytes.bytes) (frame items) items := by
 have hle:=hlen.trans t.maxElements_le
 let view:SerdeView:=⟨items,hle⟩
 have hbody:Parses (read items.length "bytes" >>= fun bytes =>
  StateT.lift (reserve t items.length bytes.size 1) >>= fun _=>pure bytes.bytes)
  (items++[]) items :=
  (parses_read "bytes" view rfl).bind (parses_reserved _ _ hlen (parses_pure items))
 rw[append_nil] at hbody
 exact (parses_readSize "bytes length" (sixtyFourBits hle) (le_unlimited hle)).bind hbody

lemma parses_counted {β:Type} (what:String) (element:Read β) (items:List α)
    (bytes:α→ List UInt8) (val:α→β) (hlen:items.length≤t.maxElements)
    (h:∀ x∈items,Parses element (bytes x) (val x)) :
    Parses (do
      let count ← readSize unlimited.maxContainerElements what
      let reader ← get
      StateT.lift (reserve t count reader.remaining kSizeBytes)
      readElements element count)
      (digits 8 items.length++items.flatMap bytes) (items.map val) := by
 have hle:=hlen.trans t.maxElements_le
 exact (parses_readSize what (sixtyFourBits hle) (le_unlimited hle)).bind
  (parses_get fun reader=>parses_reserved _ _ hlen (parses_readElements element items bytes val h))

lemma abs_entries {k v:CppType} (value:(CppType.map k v).Obj) :
  (CppType.abs (MapObj.keys value)).zip (CppType.abs (MapObj.values value)) =
   (MapObj.entries value).map fun e=>(k.repr.abs e.1,v.repr.abs e.2) := by
 change ((MapObj.entries value |>.map Prod.fst).map k.repr.abs).zip
  ((MapObj.entries value |>.map Prod.snd).map v.repr.abs)=_
 rw[map_map,map_map,zip_map']
 rfl

lemma parses_mapBody {k v:CppType} (value:(CppType.map k v).Obj)
  {decodeKeys:SerdeView→ Decode (CppType.vector k).Val}
  {decodeValues:SerdeView→ Decode (CppType.vector v).Val} {keys values:List UInt8}
  (hk:Decodes decodeKeys keys (CppType.abs (MapObj.keys value)))
  (hv:Decodes decodeValues values (CppType.abs (MapObj.values value)))
  (hkl:keys.length≤ maxSize) (hvl:values.length≤ maxSize) :
  Decodes (mapDeserialize decodeKeys decodeValues unlimited) (frame keys++frame values)
   (CppType.abs value) := by
 have hlen:(MapObj.entries value).length≤ sizeMax:=
  le_unlimited ((MapObj.size_le value).trans (Nat.div_le_self _ _))
 have hkeys:(CppType.abs (MapObj.keys value)).length=(MapObj.entries value).length:=by
  change ((MapObj.entries value |>.map Prod.fst).map k.repr.abs).length=_
  simp
 have hvalues:(CppType.abs (MapObj.values value)).length=(MapObj.entries value).length:=by
  change ((MapObj.entries value |>.map Prod.snd).map v.repr.abs).length=_
  simp
 have hlast:Parses (buildMap unlimited (CppType.abs (MapObj.keys value))
  (CppType.abs (MapObj.values value))) [] (CppType.abs value):=by
  have hne:¬ List.length (CppType.abs (MapObj.keys value)) ≠
   List.length (CppType.abs (MapObj.values value)):=by
   rw[hkeys,hvalues]
   exact not_not_intro rfl
  have hlim:¬ unlimited.maxContainerElements < List.length (CppType.abs (MapObj.keys value)):=by
   rw[hkeys]
   exact not_lt.mpr hlen
  have heq:buildMap unlimited (CppType.abs (MapObj.keys value)) (CppType.abs (MapObj.values value)) =
   (pure (CppType.abs value) : Read (CppType.map k v).Val):=by
   funext reader
   refine (if_neg hne).trans ((if_neg hlim).trans ?_)
   rw[abs_entries]
   rfl
  rw[heq]
  exact parses_pure _
 have h:=(parses_framed "map values length" "map values payload" hv hvl (le_unlimited hvl)).bind
  (g := fun values=>buildMap unlimited (CppType.abs (MapObj.keys value)) values) hlast
 rw[append_nil] at h
 exact ((parses_framed _ _ hk hkl (le_unlimited hkl)).bind
  (g := fun keys=>readFramed unlimited.maxTotalBytes "map values length" "map values payload"
   decodeValues >>= fun values=>buildMap unlimited keys values) h).decodes (by decide)

/-- Every deserializer reads back the wire format of its value, ignores what
follows it and rejects every proper prefix of it. -/
lemma decodes_deserialize (serde:Serde t) (hl:serde.HasLimits unlimited)
  (value:t.Obj) (hb:(encode serde value).length≤ maxSize) :
  Decodes serde.deserialize (encode serde value) (CppType.abs value) := by
 induction serde with
 | scalar s => exact decodes_scalar s value
 | string limits =>
  subst hl
  have hlen:=Vec.size_le value
  exact (parses_blob "string length" "string" _ hlen (le_unlimited hlen)).decodes (by decide)
 | bytes limits =>
  subst hl
  have habs:CppType.abs value=Vec.items value:=map_id _
  rw[habs]
  exact (parses_bytes .byte _ (Vec.size_le value)).decodes (by decide)
 | uint8Array limits =>
  subst hl
  have habs:CppType.abs value=Vec.items value:=map_id _
  rw[habs]
  exact (parses_bytes (.scalar .uint8) _ (Vec.size_le value)).decodes (by decide)
 | fixedSizeArray s limits =>
  subst hl
  have hlen:=vec_length_le value
  have habs:CppType.abs value=Vec.items value:=map_id _
  rw[habs]
  have h:=(parses_readSize "array count" (sixtyFourBits hlen)
   (le_unlimited hlen)).bind (parses_readFixedElements s (Vec.items value) (Vec.size_le value))
  exact h.decodes (by decide)
 | stringArray limits =>
  subst hl
  have h:=parses_counted "string array count" (readString unlimited) (Vec.items value)
   (fun item=>frame (Vec.items item)) Vec.items (Vec.size_le value)
   (fun x _=>parses_blob "string length" "string array element" _ (Vec.size_le x)
    (le_unlimited (Vec.size_le x)))
  exact h.decodes (by decide)
 | array valueSerde limits ih =>
  obtain ⟨rfl,hv⟩:=hl
  have hitem:∀ x∈Vec.items value,(encode valueSerde x).length≤ maxSize:=by
   intro x hx
   have h:=item_length_le (fun item=>frame (encode valueSerde item)) hx
   simp only[encode,length_append,digits_length] at hb
   simp only[frame_length] at h
   omega
  have h:=parses_counted "array count" (readFramed sizeMax "array element length"
   "array element payload" valueSerde.deserialize) (Vec.items value)
   (fun item=>frame (encode valueSerde item)) CppType.abs (Vec.size_le value)
   (fun x hx=>parses_framed _ _ (ih hv x (hitem x hx)) (hitem x hx) (le_unlimited (hitem x hx)))
  exact h.decodes (by decide)
 | map keyArraySerde valueArraySerde limits ihk ihv =>
  obtain ⟨rfl,hk,hv⟩:=hl
  simp only[encode,length_append,frame_length] at hb
  have hkl:(encode keyArraySerde (MapObj.keys value)).length≤ maxSize:=by omega
  have hvl:(encode valueArraySerde (MapObj.values value)).length≤ maxSize:=by omega
  exact parses_mapBody value (ihk hk _ hkl) (ihv hv _ hvl) hkl hvl

def streamEncode : {t:StreamType} → StreamSerde t → t.Obj → List UInt8
 | _,.value serde,x => encode serde x
 | _,.keyValue keySerde valueSerde _,x => frame (encode keySerde x.1) ++ frame (encode valueSerde x.2)

/-- `serialize` returns `bytes` when a vector can hold them, and throws otherwise. -/
def Serializes (result:Except Failure SerdeData) (bytes:List UInt8) : Prop :=
 (∀ h : bytes.length ≤ maxSize,result = .ok ⟨bytes,h⟩) ∧
 (maxSize < bytes.length → ∃ e,result = .error e)

lemma Writes.serializes
  (h:Writes write bytes) : Serializes (write .empty) bytes := by
 obtain ⟨hok,herr⟩:=h .empty
 exact ⟨hok,herr⟩

lemma Writes.serializeFresh
  (h:Writes write bytes) {size:ℕ} (hs:size≤bytes.length) :
  Serializes (serializeFresh write size) bytes := by
 obtain ⟨hok,herr⟩:=h .empty
 refine ⟨fun hb=>?_,fun hb=>?_⟩
 · have hr:reserveBytes .empty size=.ok .empty:=if_neg (by omega)
   rw[SerdeTypes.serializeFresh,hr,ok_bind]
   exact hok hb
 · by_cases hr:maxSize < size
   · exact ⟨_,by rw[SerdeTypes.serializeFresh,reserveBytes,if_pos hr,error_bind]⟩
   · obtain ⟨e,he⟩:=herr hb
     exact ⟨e,by rw[SerdeTypes.serializeFresh,reserveBytes,if_neg hr,ok_bind,he]⟩

lemma serializes_blob {items:List UInt8}
    (what:String) (hlen:items.length≤ maxSize) (h:Writes write (frame items)) :
    Serializes (do
      let size ← checkedAdd kSizeBytes items.length what
      SerdeTypes.serializeFresh write size) (frame items) := by
 rw[checkedAdd_ok what hlen,ok_bind]
 exact Writes.serializeFresh h (frame_length items).ge

lemma serializes_serialize (serde:Serde t) (hl:serde.HasLimits unlimited)
  (value:t.Obj) : Serializes (serde.serialize value) (encode serde value) := by
 have hw:=writes_serializeTo serde hl value
 cases serde with
 | scalar s => exact Writes.serializeFresh hw (s.encode_length value).ge
 | string limits => exact serializes_blob "string" (Vec.size_le value) hw
 | bytes limits | uint8Array limits => exact serializes_blob "bytes" (vec_length_le value) hw
 | fixedSizeArray s limits =>
  have hsize:(encode (.fixedSizeArray s limits) value).length =
   kSizeBytes+(Vec.items value).length * s.size:=by
   simp only[encode,length_append,digits_length,kSizeBytes]
   exact congrArg (8+·) (flatMap_scalar_length s (Vec.items value))
  by_cases hover:(sizeMax - kSizeBytes) / s.size < (Vec.items value).length
  · have hlarge:maxSize < (encode (.fixedSizeArray s limits) value).length:=by
     have hmul:=(Nat.div_lt_iff_lt_mul s.size_pos).mp hover
     rw[hsize]
     unfold sizeMax kSizeBytes at *
     unfold maxSize
     omega
    refine ⟨fun h=>absurd h (by omega),
     fun _=>⟨.serde ⟨"fixed-size array output size overflow",0⟩,?_⟩⟩
    simp only[Serde.serialize,if_pos hover]
  · have h:=Writes.serializeFresh hw hsize.ge
    simpa only[Serde.serialize,if_neg hover] using h
 | stringArray limits | array valueSerde limits | map keyArraySerde valueArraySerde limits =>
  exact Writes.serializeFresh hw (Nat.zero_le _)

lemma serializes_stream {t:StreamType} (serde:StreamSerde t) (hl:serde.HasLimits unlimited)
  (value:t.Obj) : Serializes (serde.serialize value) (streamEncode serde value) := by
 cases serde with
 | value serde => exact serializes_serialize serde hl value
 | keyValue keySerde valueSerde limits =>
  obtain ⟨-,hk,hv⟩:=hl
  exact Writes.serializes ((writes_serializeTo keySerde hk value.1).writeFrame.bind
   (writes_serializeTo valueSerde hv value.2).writeFrame)

lemma decodes_stream {t:StreamType} (serde:StreamSerde t) (hl:serde.HasLimits unlimited)
  (value:t.Obj) (hb:(streamEncode serde value).length≤ maxSize) :
  Decodes serde.deserialize (streamEncode serde value) (StreamType.abs value) := by
 cases serde with
 | value serde => exact decodes_deserialize serde hl value hb
 | keyValue keySerde valueSerde limits =>
  obtain ⟨rfl,hk,hv⟩:=hl
  simp only[streamEncode,length_append,frame_length] at hb
  have hkl:(encode keySerde value.1).length≤ maxSize:=by omega
  have hvl:(encode valueSerde value.2).length≤ maxSize:=by omega
  have hsecond:=(parses_framed "value length" "value payload"
   (decodes_deserialize valueSerde hv value.2 hvl) hvl (le_unlimited hvl)).map
    fun second=>(CppType.abs value.1,second)
  exact ((parses_framed "key length" "key payload" (decodes_deserialize keySerde hk value.1 hkl)
   hkl (le_unlimited hkl)).bind hsecond).decodes (by decide)

lemma streamEncode_of_serialize {t:StreamType} {serde:StreamSerde t}
  (hl:serde.HasLimits unlimited) {value:t.Obj} {data:SerdeData}
  (h:serde.serialize value=.ok data) : data.bytes=streamEncode serde value := by
 obtain ⟨hok,herr⟩:=serializes_stream serde hl value
 by_cases hb:(streamEncode serde value).length≤ maxSize
 · rw[hok hb] at h
   exact (congrArg SerdeData.bytes (Except.ok.inj h)).symm
 · obtain ⟨e,he⟩:=herr (by omega)
   rw[he] at h
   cases h

/-- Deserializing what was serialized gives the value back, whatever bytes follow;
and serializing fails only when the bytes exceed the vector's `max_size()`. -/
theorem deserialize_serialize {t : StreamType} (serde : StreamSerde t)
  (hl : serde.HasLimits unlimited) (value : t.Obj) :
  ((∃ data, serde.serialize value = .ok data) ↔ (streamEncode serde value).length ≤ maxSize) ∧
  ∀ data, serde.serialize value = .ok data →
   ∀ (tail : List UInt8) (view : SerdeView), view.bytes = data.bytes ++ tail →
    (serde.deserialize view).result = .ok (StreamType.abs value) := by
 obtain ⟨hok,herr⟩:=serializes_stream serde hl value
 refine ⟨⟨?_,fun hb=>⟨_,hok hb⟩⟩,?_⟩
 · rintro ⟨data,hdata⟩
   rw[← streamEncode_of_serialize hl hdata]
   exact data.size_le
 · intro data hdata tail view hview
   have hbytes:=streamEncode_of_serialize hl hdata
   rw[hbytes] at hview
   exact (decodes_stream serde hl value (hbytes▸data.size_le)).complete view tail hview

def sampleSerde : StreamSerde (.value (.map .string (.vector (.scalar .int16)))) :=
 .value (.map (.stringArray unlimited) (.array (.fixedSizeArray .int16 unlimited) unlimited) unlimited)

def sampleMap : (CppType.map .string (.vector (.scalar .int16))).Obj :=
 ⟨[(⟨[97],by decide⟩,⟨[(-1 : Int16),(2 : Int16)],by decide⟩),(⟨[],by decide⟩,⟨[],by decide⟩)],
  by decide,by decide⟩

lemma sampleSerde_limits : sampleSerde.HasLimits unlimited := ⟨rfl,rfl,rfl,rfl⟩

lemma sampleMap_size : (streamEncode sampleSerde sampleMap++[7]).length≤ maxSize := by decide

lemma sampleMap_serialize : sampleSerde.serialize sampleMap =
  .ok ⟨streamEncode sampleSerde sampleMap,(sublist_append_left _ [7]).length_le.trans sampleMap_size⟩ :=
 (serializes_stream sampleSerde sampleSerde_limits sampleMap).1 _

theorem deserialize_serialize_sample :
  (sampleSerde.deserialize ⟨streamEncode sampleSerde sampleMap ++ [7], sampleMap_size⟩).result =
   .ok (StreamType.abs sampleMap) :=
 (deserialize_serialize sampleSerde sampleSerde_limits sampleMap).2 _ sampleMap_serialize [7] _ rfl

/-- Every proper prefix of a serialization is rejected with a `SerdeError`. -/
theorem deserialize_truncated {t : StreamType} (serde : StreamSerde t)
  (hl : serde.HasLimits unlimited) (value : t.Obj) (data : SerdeData)
  (hdata : serde.serialize value = .ok data) (view : SerdeView)
  (hp : view.bytes <+: data.bytes) (hne : view.bytes ≠ data.bytes) :
  ∃ e : SerdeError, (serde.deserialize view).result = .error (.serde e) := by
 have hbytes:=streamEncode_of_serialize hl hdata
 rw[hbytes] at hp hne
 exact (decodes_stream serde hl value (hbytes▸data.size_le)).truncated view hp hne

theorem deserialize_truncated_sample :
  ∃ e : SerdeError, (sampleSerde.deserialize ⟨[0, 0, 0], by decide⟩).result = .error (.serde e) :=
 deserialize_truncated sampleSerde sampleSerde_limits sampleMap _ sampleMap_serialize _
  (by decide) (by decide)

end ServiceLib.SerdeRoundTrip
