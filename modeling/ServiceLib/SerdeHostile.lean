import ServiceLib.SerdeRoundTrip

set_option autoImplicit false

/-!
# Arbitrary input

`Accepts` is the exact set of inputs a deserializer decodes, read off the wire alone. Decoding is
safe exactly where no array of strings or frames announces more elements than the bytes behind its
count can hold.
-/
namespace ServiceLib.SerdeHostile
open BigEndian SerdeBuffer SerdeReader SerdeScalar SerdeTypes List

/-- The outcome is a value or a `SerdeError`, and no reservation asked for more
elements than the unread bytes could encode. -/
def Safe {α:Type} (d:Decode α) : Prop :=
 (∀ e,d.result = .error e → ∃ error,e = .serde error) ∧
 ∀ r ∈ d.reserved,r.count ≤ r.remaining / r.elementBytes

def header (b:List UInt8) : ℕ := value (b.take 8)

def payload (b:List UInt8) : List UInt8 := (b.drop 8).take (header b)

def afterFrame (b:List UInt8) : List UInt8 := b.drop (8 + header b)

def Framed (maximum:ℕ) (b:List UInt8) : Prop :=
 8 ≤ b.length ∧ header b ≤ maximum ∧ header b ≤ b.length - 8

/-- The input is within the total limit and starts with an element count within its limit. -/
def Counted (limits:SerdeLimits) (b:List UInt8) : Prop :=
 b.length ≤ limits.maxTotalBytes ∧ 8 ≤ b.length ∧ header b ≤ limits.maxContainerElements

def FramesAccept (maximum:ℕ) (accept:List UInt8 → Prop) : ℕ → List UInt8 → Prop
 | 0,_ => True
 | n + 1,b => (Framed maximum b ∧ accept (payload b)) ∧ FramesAccept maximum accept n (afterFrame b)

/-- A frame is looked at only if the frames before it were accepted. -/
def FramesFit (maximum:ℕ) (fit accept:List UInt8 → Prop) : ℕ → List UInt8 → Prop
 | 0,_ => True
 | n + 1,b => (Framed maximum b → fit (payload b)) ∧
   (Framed maximum b ∧ accept (payload b) → FramesFit maximum fit accept n (afterFrame b))

def Accepts : {t:CppType} → Serde t → List UInt8 → Prop
 | _,.scalar s,b => s.size ≤ b.length
 | _,.string limits,b => b.length ≤ limits.maxTotalBytes ∧ Framed limits.maxStringBytes b
 | _,.bytes limits,b | _,.uint8Array limits,b =>
  b.length ≤ limits.maxTotalBytes ∧ Framed limits.maxBytes b
 | _,.fixedSizeArray s limits,b => Counted limits b ∧ header b ≤ (b.length - 8) / s.size
 | _,.stringArray limits,b => Counted limits b ∧ header b ≤ CppType.string.maxElements ∧
   FramesAccept limits.maxStringBytes (fun _=>True) (header b) (b.drop 8)
 | _,.array (t := t) valueSerde limits,b => Counted limits b ∧ header b ≤ t.maxElements ∧
   FramesAccept limits.maxTotalBytes (Accepts valueSerde) (header b) (b.drop 8)
 | _,.map keyArraySerde valueArraySerde limits,b => b.length ≤ limits.maxTotalBytes ∧
   (Framed limits.maxTotalBytes b ∧ Accepts keyArraySerde (payload b)) ∧
   (Framed limits.maxTotalBytes (afterFrame b) ∧ Accepts valueArraySerde (payload (afterFrame b))) ∧
   header (payload b) = header (payload (afterFrame b)) ∧
   header (payload b) ≤ limits.maxContainerElements

/-- The count in front is covered by the bytes behind it, eight to an element, and
by what a vector of `t` can hold. -/
def CountFits (t:CppType) (b:List UInt8) : Prop :=
 header b ≤ (b.length - 8) / kSizeBytes ∧ header b ≤ t.maxElements

def CountsFit : {t:CppType} → Serde t → List UInt8 → Prop
 | _,.scalar _,_ | _,.string _,_ | _,.bytes _,_ | _,.uint8Array _,_
 | _,.fixedSizeArray _ _,_ => True
 | _,.stringArray limits,b => Counted limits b → CountFits .string b
 | _,.array (t := t) valueSerde limits,b => Counted limits b → CountFits t b ∧
   FramesFit limits.maxTotalBytes (CountsFit valueSerde) (Accepts valueSerde) (header b) (b.drop 8)
 | _,.map keyArraySerde valueArraySerde limits,b => b.length ≤ limits.maxTotalBytes →
   (Framed limits.maxTotalBytes b → CountsFit keyArraySerde (payload b)) ∧
   (Framed limits.maxTotalBytes b ∧ Accepts keyArraySerde (payload b) →
    Framed limits.maxTotalBytes (afterFrame b) → CountsFit valueArraySerde (payload (afterFrame b)))

/-- `d` is safe exactly under `fit`, returns a value exactly under `accept`, and the
value satisfies `post`. -/
structure Meets {α:Type} (d:Decode α) (fit accept:Prop) (post:α → Prop) : Prop where
 safe : Safe d ↔ fit
 returns : (∃ a,d.result = .ok a) ↔ accept
 post : ∀ a,d.result = .ok a → post a

variable {α β:Type} {fit accept p q:Prop} {maximum:ℕ} {d:Decode α} {post:α → Prop}

lemma meets_pure (a:α) : Meets (pure a:Decode α) True True (·=a) where
 safe := iff_of_true ⟨fun _ he=>(by cases he),fun _ hr=>(by cases hr)⟩ trivial
 returns := iff_of_true ⟨a,rfl⟩ trivial
 post _ h := (Except.ok.inj h).symm

lemma meets_fail (e:SerdeError) (post:α→ Prop) :
    Meets (.fail (.serde e)) True False post where
 safe := iff_of_true ⟨fun _ he=>⟨e,(Except.error.inj he).symm⟩,fun _ hr=>(by cases hr)⟩ trivial
 returns := iff_of_false (fun ⟨_,h⟩=>by cases h) id
 post _ h := by cases h

lemma safe_bind (d:Decode α) (f:α→ Decode β) :
  Safe (d >>= f)↔Safe d∧∀ a,d.result=.ok a→ Safe (f a) := by
 obtain ⟨result,reserved⟩:=d
 cases result with
 | error e =>
  have hres:(Decode.mk (.error e) reserved >>= f).reserved=reserved:=append_nil _
  have hr:(Decode.mk (.error e) reserved >>= f).result=.error e:=rfl
  simp only[Safe,hres,hr]
  simp only[Except.error.injEq]
  refine ⟨fun h=>⟨h,?_⟩,fun h=>h.1⟩
  intro a ha
  cases ha
 | ok a =>
  have hres:(Decode.mk (.ok a) reserved >>= f).reserved=reserved++(f a).reserved:=rfl
  have hr:(Decode.mk (.ok a) reserved >>= f).result=(f a).result:=rfl
  simp only[Safe,hres,hr,mem_append]
  refine ⟨fun h=>⟨⟨fun e he=>(by cases he),fun r hm=>h.2 r (.inl hm)⟩,?_⟩,fun h=>?_⟩
  · intro a' ha
    obtain rfl:=Except.ok.inj ha
    exact ⟨h.1,fun r hm=>h.2 r (.inr hm)⟩
  · obtain ⟨herr,hlater⟩:=h.2 a rfl
    refine ⟨herr,?_⟩
    rintro r (hm | hm)
    · exact h.1.2 r hm
    · exact hlater r hm

lemma Meets.bind {f:α→ Decode β}
  {R:β→ Prop} (hd:Meets d fit accept post)
  (hf:∀ a,post a→ Meets (f a) p q R) :
  Meets (d >>= f) (fit∧(accept→ p)) (accept∧q) R := by
 have hnext:∀ a,d.result=.ok a→ Meets (f a) p q R:=
  fun a ha=>hf a (hd.post a ha)
 have hback:∀ b,(d >>= f).result=.ok b→∃ a,d.result=.ok a∧(f a).result=.ok b:=by
  intro b hb
  cases hr:d.result with
  | error e =>
   rw[Decode.result_bind_error f hr] at hb
   cases hb
  | ok a => exact ⟨a,rfl,Decode.result_bind_ok f hr▸hb⟩
 refine ⟨?_,?_,fun b hb=>?_⟩
 · rw[safe_bind,← hd.safe,← hd.returns]
   refine and_congr_right fun _=>⟨?_,fun h a ha=>(hnext a ha).safe.mpr (h ⟨a,ha⟩)⟩
   rintro h ⟨a,ha⟩
   exact (hnext a ha).safe.mp (h a ha)
 · rw[← hd.returns]
   refine ⟨?_,?_⟩
   · rintro ⟨b,hb⟩
     obtain ⟨a,ha,hab⟩:=hback b hb
     exact ⟨⟨a,ha⟩,(hnext a ha).returns.mp ⟨b,hab⟩⟩
   · rintro ⟨⟨a,ha⟩,h⟩
     obtain ⟨b,hb⟩:=(hnext a ha).returns.mpr h
     exact ⟨b,(Decode.result_bind_ok f ha).trans hb⟩
 · obtain ⟨a,ha,hab⟩:=hback b hb
   exact (hnext a ha).post b hab

lemma Meets.congr {fit' accept':Prop}
  (h:Meets d fit accept post) (hfit:fit↔fit') (haccept:accept↔accept') :
  Meets d fit' accept' post :=
 ⟨h.safe.trans hfit,h.returns.trans haccept,h.post⟩

lemma Meets.weaken {post':α→ Prop}
  (h:Meets d fit accept post) (hp:∀ a,post a→ post' a) : Meets d fit accept post' :=
 ⟨h.safe,h.returns,fun a ha=>hp a (h.post a ha)⟩

lemma Meets.map
  (h:Meets d fit accept post) (g:α→β) {R:β→ Prop} (hg:∀ a,post a→ R (g a)) :
  Meets (d >>= fun a=>pure (g a)) fit accept R := by
 have hb:=h.bind fun a ha=>(meets_pure (g a)).weaken fun b hb=>hb.symm▸hg a ha
 exact hb.congr (by simp) (by simp)

lemma Meets.guarded {c:Prop} {R:α→ Prop}
  (hyes:c→ Meets d p q R) (hno:¬ c→∃ e,d=.fail (.serde e)) :
  Meets d (c→ p) (c∧q) R := by
 by_cases hc:c
 · exact (hyes hc).congr ⟨fun h _=>h,fun h=>h hc⟩ ⟨fun h=>⟨hc,h⟩,fun h=>h.2⟩
 · obtain ⟨e,rfl⟩:=hno hc
   exact (meets_fail e R).congr (iff_of_true trivial fun h=>absurd h hc)
    (iff_of_false id fun h=>hc h.1)

lemma meets_reserve (t:CppType) (count remaining elementBytes:ℕ) :
  Meets (reserve t count remaining elementBytes)
   (count≤remaining / elementBytes∧count≤t.maxElements) (count≤t.maxElements)
   (fun _=>True) := by
 by_cases h:t.maxElements < count
 · have hr:(reserve t count remaining elementBytes).result=.error .lengthError:=if_pos h
   refine ⟨iff_of_false ?_ (by omega),iff_of_false ?_ (by omega),fun _ _=>trivial⟩
   · rintro ⟨herr,-⟩
     obtain ⟨e,he⟩:=herr _ hr
     cases he
   · rintro ⟨a,ha⟩
     rw[hr] at ha
     cases ha
 · have hr:(reserve t count remaining elementBytes).result=.ok ():=if_neg h
   refine ⟨?_,iff_of_true ⟨(),hr⟩ (by omega),fun _ _=>trivial⟩
   have hsafe:Safe (reserve t count remaining elementBytes)↔count≤remaining / elementBytes:=by
    refine ⟨fun hs=>hs.2 _ mem_cons_self,fun hc=>⟨?_,?_⟩⟩
    · intro e he
      rw[hr] at he
      cases he
    · intro r hm
      obtain rfl:=mem_singleton.mp hm
      exact hc
   rw[hsafe]
   omega

lemma readSize_short (maximum:ℕ) (what:String) (r:Reader) (h:¬ 8≤r.remaining) :
  ∃ e,readSize maximum what r=.fail (.serde e) := by
 have hr:read 8 "u64" r=.fail (.serde ⟨"serde underflow while reading u64",r.offset⟩) :=
  dif_neg h
 refine ⟨⟨"serde underflow while reading u64",r.offset⟩,?_⟩
 change ((read 8 "u64" r >>= fun x=>pure (u64OfBytes x.1,x.2)) >>= fun x =>
  checkSize maximum what x.1 x.2)=_
 rw[hr]
 rfl

lemma readSize_eq (maximum:ℕ) (what:String) (r:Reader) (h:8≤r.remaining) :
  readSize maximum what r =
   checkSize maximum what (u64OfBytes (r.subspan 8)) (r.advance 8 h) := by
 have hr:read 8 "u64" r=pure (r.subspan 8,r.advance 8 h) := dif_pos h
 change ((read 8 "u64" r >>= fun x=>pure (u64OfBytes x.1,x.2)) >>= fun x =>
  checkSize maximum what x.1 x.2)=_
 rw[hr]
 rfl

lemma header_subspan (r:Reader) (h:8≤r.remaining) :
  (u64OfBytes (r.subspan 8)).toNat=header r.rest := by
 refine u64OfBytes_toNat _ ?_
 change (r.rest.take 8).length=8
 rw[length_take,r.rest_length]
 omega

lemma header_le_sizeMax (r:Reader) (h:8≤r.remaining) : header r.rest≤ sizeMax := by
 rw[← header_subspan r h]
 exact Nat.le_of_lt_succ (u64OfBytes (r.subspan 8)).toNat_lt

lemma meets_readSize {g:ℕ→ Read α} {R:α×Reader→ Prop}
  (maximum:ℕ) (what:String) (r:Reader)
  (hg:∀ hr : 8≤r.remaining,Meets (g (header r.rest) (r.advance 8 hr)) p q R) :
  Meets ((readSize maximum what >>= g) r)
   (8≤r.rest.length∧header r.rest≤ maximum→ p)
   ((8≤r.rest.length∧header r.rest≤ maximum)∧q) R := by
 have hbind:(readSize maximum what >>= g) r=readSize maximum what r >>= fun x=>g x.1 x.2:=rfl
 refine Meets.guarded ?_ ?_
 · rintro ⟨hlen,hmax⟩
   have hr:8≤r.remaining:=r.rest_length▸hlen
   have hsize:readSize maximum what r=pure (header r.rest,r.advance 8 hr):=by
    rw[readSize_eq maximum what r hr,checkSize,header_subspan r hr,
     if_neg (not_lt.mpr (header_le_sizeMax r hr)),if_neg (not_lt.mpr hmax)]
    rfl
   rw[hbind,hsize]
   exact hg hr
 · intro hno
   rw[hbind]
   by_cases hr:8≤r.remaining
   · have hmax:maximum < header r.rest:=by
      by_contra hmax
      exact hno ⟨r.rest_length▸hr,not_lt.mp hmax⟩
     refine ⟨⟨"serde "++what++ " exceeds configured limit",(r.advance 8 hr).offset - kSizeBytes⟩,?_⟩
     rw[readSize_eq maximum what r hr,checkSize,header_subspan r hr,
      if_neg (not_lt.mpr (header_le_sizeMax r hr)),if_pos hmax]
     rfl
   · obtain ⟨e,he⟩:=readSize_short maximum what r hr
     exact ⟨e,by rw[he]; rfl⟩

lemma meets_read {g:SerdeView→ Read α} {R:α×Reader→ Prop}
  (size:ℕ) (what:String) (r:Reader)
  (hg:∀ hr : size≤r.remaining,Meets (g (r.subspan size) (r.advance size hr)) p q R) :
  Meets ((read size what >>= g) r) (size≤r.rest.length→ p) (size≤r.rest.length∧q) R := by
 have hbind:(read size what >>= g) r=read size what r >>= fun x=>g x.1 x.2:=rfl
 refine Meets.guarded (fun hlen=>?_) (fun hlen=>?_)
 · have hr:size≤r.remaining:=r.rest_length▸hlen
   have hread:read size what r=pure (r.subspan size,r.advance size hr):=dif_pos hr
   rw[hbind,hread]
   exact hg hr
 · have hr:¬ size≤r.remaining:=r.rest_length▸hlen
   have hread:read size what r=.fail (.serde ⟨"serde underflow while reading "++what,r.offset⟩) :=
    dif_neg hr
   exact ⟨_,by rw[hbind,hread]; rfl⟩

lemma Meets.lift
  (h:Meets d fit accept post) (r:Reader) :
  Meets ((StateT.lift d : Read α) r) fit accept (fun x=>post x.1∧x.2=r) :=
 h.map (fun a=>(a,r)) fun _ ha=>⟨ha,rfl⟩

lemma meets_runReader {body:Read α} {R:α→ Prop}
  (view:SerdeView) (maxTotalBytes:ℕ)
  (h:Meets (body ⟨view,0,Nat.zero_le _⟩) p q (fun x=>R x.1)) :
  Meets (runReader view maxTotalBytes body) (view.bytes.length≤ maxTotalBytes→ p)
   (view.bytes.length≤ maxTotalBytes∧q) R := by
 refine Meets.guarded (fun hlen=>?_) (fun hlen=>?_)
 · have hmake:Reader.make view maxTotalBytes=pure ⟨view,0,Nat.zero_le _⟩ :=
    if_neg (not_lt.mpr hlen)
   rw[runReader,hmake]
   exact h.map Prod.fst fun _ hx=>hx
 · have hmake:Reader.make view maxTotalBytes =
    .fail (.serde ⟨"serde input exceeds configured limit",0⟩) := if_pos (not_le.mp hlen)
   exact ⟨_,by rw[runReader,hmake]; rfl⟩

def ReadsWord {α:Type} (f:Read α) (size:ℕ) : Prop :=
 ∀ r : Reader,Meets (f r) True (size ≤ r.rest.length) (fun x=>x.2.rest = r.rest.drop size)

lemma readsWord_read (size:ℕ) (what:String) (g:SerdeView→α) :
  ReadsWord (read size what >>= fun bytes=>pure (g bytes)) size := by
 intro r
 have h:=meets_read (g:=fun bytes=>pure (g bytes)) size what r
  (R := fun x=>x.2.rest=r.rest.drop size) fun hr =>
   (meets_pure (g (r.subspan size),r.advance size hr)).weaken fun x hx=>by
    rw[hx]
    exact r.advance_rest size hr
 exact h.congr (by simp) (by simp)

lemma ReadsWord.map {f:Read α} {size:ℕ} (h:ReadsWord f size) (g:α→β) :
  ReadsWord (f >>= fun a=>pure (g a)) size :=
 fun r=>(h r).map (fun x=>(g x.1,x.2)) fun _ hx=>hx

lemma readsWord_scalar (s:Scalar) : ReadsWord s.readValue s.size := by
 have h8:ReadsWord readU8 1:=readsWord_read 1 "u8" fun bytes=>byte bytes 0
 have h16:ReadsWord readU16Be 2:=readsWord_read 2 "u16" u16OfBytes
 have h32:ReadsWord readU32Be 4:=readsWord_read 4 "u32" u32OfBytes
 have h64:ReadsWord readU64Be 8:=readsWord_read 8 "u64" u64OfBytes
 cases s with
 | bool => exact h8.map fun b=>b != 0
 | int8 => exact h8.map UInt8.toInt8
 | uint8 => exact h8
 | int16 => exact h16.map fun w=>(w ^^^ 0x8000).toInt16
 | uint16 => exact h16
 | int32 => exact h32.map fun w=>(w ^^^ 0x80000000).toInt32
 | uint32 | rune | float32 => exact h32
 | int64 => exact h64.map fun w=>(w ^^^ 0x8000000000000000).toInt64
 | uint64 | float64 => exact h64

lemma meets_scalar (s:Scalar) (view:SerdeView) :
  Meets (s.deserialize view) True (s.size≤view.bytes.length) (fun _=>True) := by
 have hlen:view.bytes.length≤ sizeMax:=view.size_le.trans (by decide)
 have h:=meets_runReader (R:=fun _=>True) view sizeMax
  ((readsWord_scalar s ⟨view,0,Nat.zero_le _⟩).weaken fun _ _=>trivial)
 exact h.congr (by simp) (and_iff_right hlen)

lemma readsWord_fixedElement (s:Scalar) : ReadsWord (readFixedElement s) s.size := by
 intro r
 have h:=meets_read (g:=fun bytes=>StateT.lift (s.deserialize bytes)) s.size
  "fixed-size array element" r (p := True) (q := s.size≤r.rest.length)
  (R := fun x=>x.2.rest=r.rest.drop s.size) fun hr=>by
   have hview:(r.subspan s.size).bytes.length=s.size:=by
    change (r.rest.take s.size).length=s.size
    rw[length_take,r.rest_length]
    omega
   refine (((meets_scalar s (r.subspan s.size)).lift _).congr Iff.rfl ?_).weaken fun x hx=>?_
   · rw[hview,r.rest_length]
     omega
   · rw[hx.2,r.advance_rest s.size hr]
 exact h.congr (by simp) (by simp)

lemma meets_fixedElements (s:Scalar) (count:ℕ) (r:Reader)
  (hr:count * s.size≤r.rest.length) :
  Meets (readElements (readFixedElement s) count r) True True (fun x=>x.1.length=count) := by
 induction count generalizing r with
 | zero =>
  refine (meets_pure ([],r)).weaken fun x hx=>?_
  rw[hx]
  rfl
 | succ count ih =>
  rw[Nat.add_mul,Nat.one_mul] at hr
  have hstep:=(readsWord_fixedElement s r).bind
   (f := fun x=>readElements (readFixedElement s) count x.2 >>= fun y=>pure (x.1::y.1,y.2))
   (R := fun x=>x.1.length=count+1) fun x hx=>by
    have hx':count * s.size≤x.2.rest.length:=by
     rw[hx,length_drop]
     omega
    exact (ih x.2 hx').map (fun y=>(x.1::y.1,y.2)) fun y hy=>by
     rw[length_cons,hy]
  exact hstep.congr (by simp) (by simp; omega)

/-- One element of a framed sequence: it is read if its frame is whole and its
payload is accepted, and the reader then stands behind the frame. -/
def ReadsFrame {α:Type} (element:Read α) (maximum:ℕ) (fit accept:List UInt8 → Prop)
  (post:α → List UInt8 → Prop) : Prop :=
 ∀ r : Reader,Meets (element r) (Framed maximum r.rest → fit (payload r.rest))
  (Framed maximum r.rest ∧ accept (payload r.rest))
  (fun x=>x.2.rest = afterFrame r.rest ∧ post x.1 (payload r.rest))

lemma readsFrame_of_payload {f:ℕ→ SerdeView→ Read α}
  {fit accept:List UInt8→ Prop} {post:α→ List UInt8→ Prop} (maximum:ℕ)
  (lengthOf what:String)
  (hf:∀ (view:SerdeView) (r:Reader),Meets (f view.size view r) (fit view.bytes)
   (accept view.bytes) (fun x=>x.2=r∧post x.1 view.bytes)) :
  ReadsFrame (readSize maximum lengthOf >>= fun length=>read length what >>= f length) maximum
   fit accept post := by
 intro r
 have hread:∀ hr : 8≤r.remaining,
  Meets ((read (header r.rest) what >>= f (header r.rest)) (r.advance 8 hr))
   (header r.rest≤r.rest.length - 8→ fit (payload r.rest))
   (header r.rest≤r.rest.length - 8∧accept (payload r.rest))
   (fun x=>x.2.rest=afterFrame r.rest∧post x.1 (payload r.rest)):=by
  intro hr
  have hrest:=r.advance_rest 8 hr
  have h:=meets_read (g:=f (header r.rest)) (header r.rest) what (r.advance 8 hr)
   (p := fit (payload r.rest)) (q := accept (payload r.rest))
   (R := fun x=>x.2.rest=afterFrame r.rest∧post x.1 (payload r.rest)) fun hr'=>by
    have hview:((r.advance 8 hr).subspan (header r.rest)).bytes=payload r.rest:=by
     change (r.advance 8 hr).rest.take _=_
     rw[hrest]
     rfl
    have hsize:((r.advance 8 hr).subspan (header r.rest)).size=header r.rest:=by
     change ((r.advance 8 hr).rest.take _).length=_
     rw[length_take,Reader.rest_length]
     omega
    have hframe:=hf ((r.advance 8 hr).subspan (header r.rest)) ((r.advance 8 hr).advance _ hr')
    rw[hsize,hview] at hframe
    refine hframe.weaken fun x hx=>⟨?_,hx.2⟩
    rw[hx.1,Reader.advance_rest,hrest,drop_drop]
    rfl
  rw[hrest,length_drop] at h
  exact h
 refine (meets_readSize maximum lengthOf r hread).congr ?_ ?_
 · simp only[Framed,and_imp]
 · simp only[Framed,and_assoc]

lemma readsFrame_readFramed {decode:SerdeView→ Decode α}
  {fit accept:List UInt8→ Prop} {post:α→ List UInt8→ Prop} (maximum:ℕ) (lengthOf what:String)
  (hd:∀ view,Meets (decode view) (fit view.bytes) (accept view.bytes) (fun a=>post a view.bytes)) :
  ReadsFrame (readFramed maximum lengthOf what decode) maximum fit accept post :=
 readsFrame_of_payload (f := fun _ bytes=>StateT.lift (decode bytes)) maximum lengthOf what
  fun view r=>((hd view).lift r).weaken fun _ hx=>⟨hx.2,hx.1⟩

lemma readsFrame_string (maximum:ℕ) (lengthOf what:String) :
    ReadsFrame (do
      let length ← readSize maximum lengthOf
      let bytes ← read length what
      return bytes.bytes) maximum (fun _=>True) (fun _=>True) (fun _ _=>True) :=
 readsFrame_of_payload (f := fun _ bytes=>pure bytes.bytes) maximum lengthOf what
  fun view r=>(meets_pure (view.bytes,r)).weaken fun x hx=>⟨by rw[hx],trivial⟩

lemma readsFrame_bytes (t:CppType) (ht:t.maxElements=maxSize) (maximum:ℕ) :
    ReadsFrame (do
      let length ← readSize maximum "bytes length"
      let bytes ← read length "bytes"
      StateT.lift (reserve t length bytes.size 1)
      return bytes.bytes) maximum (fun _=>True) (fun _=>True)
      (fun items b=>items.length=b.length) := by
 refine readsFrame_of_payload (f := fun length bytes =>
  StateT.lift (reserve t length bytes.size 1) >>= fun _=>pure bytes.bytes) maximum _ _ fun view r=>?_
 have hsize:=view.size_le_maxSize
 have h:=((meets_reserve t view.size view.size 1).lift r).map (fun x=>(view.bytes,x.2))
  (R := fun x=>x.2=r∧x.1.length=view.bytes.length) fun _ hx=>⟨hx.2,rfl⟩
 refine h.congr (iff_of_true ⟨?_,?_⟩ trivial) (iff_of_true ?_ trivial)
 · rw[Nat.div_one]
 · rw[ht]
   exact hsize
 · rw[ht]
   exact hsize

lemma meets_readElements {element:Read α}
  {fit accept:List UInt8→ Prop} {post:α→ List UInt8→ Prop}
  (he:ReadsFrame element maximum fit accept post) (count:ℕ) (r:Reader) :
  Meets (readElements element count r) (FramesFit maximum fit accept count r.rest)
   (FramesAccept maximum accept count r.rest) (fun x=>x.1.length=count) := by
 induction count generalizing r with
 | zero =>
  refine (meets_pure ([],r)).weaken fun x hx=>?_
  rw[hx]
  rfl
 | succ count ih =>
  refine Meets.bind (he r) fun x hx=>?_
  have hrest:=(ih x.2).map (fun y=>(x.1::y.1,y.2))
   (R := fun z=>z.1.length=count+1) fun y hy=>by
    rw[length_cons,hy]
  rw[hx.1] at hrest
  exact hrest

def HasCount : {t:CppType} → t.Val → ℕ → Prop
 | .vector _,items,count => List.length items = count
 | .scalar _,_,_ | .byte,_,_ | .string,_,_ | .map _ _,_,_ => True

/-- `StringArraySerde` and `ArraySerde` reserve the announced count unseen. -/
lemma meets_counted {element:Read α} {fit accept:List UInt8→ Prop}
    {post:α→ List UInt8→ Prop} (t:CppType) (limits:SerdeLimits) (what:String)
    (he:ReadsFrame element maximum fit accept post) (view:SerdeView) :
    Meets (runReader view limits.maxTotalBytes do
        let count ← readSize limits.maxContainerElements what
        let reader ← get
        StateT.lift (reserve t count reader.remaining kSizeBytes)
        readElements element count)
      (Counted limits view.bytes→ CountFits t view.bytes ∧
        FramesFit maximum fit accept (header view.bytes) (view.bytes.drop 8))
      (Counted limits view.bytes∧header view.bytes≤t.maxElements ∧
        FramesAccept maximum accept (header view.bytes) (view.bytes.drop 8))
      (fun items=>items.length=header view.bytes) := by
 let r:Reader:=⟨view,0,Nat.zero_le _⟩
 have hbody:∀ hr : 8≤r.remaining,
  Meets ((StateT.lift (reserve t (header view.bytes) (r.advance 8 hr).remaining kSizeBytes) >>=
   fun _=>readElements element (header view.bytes)) (r.advance 8 hr))
   (CountFits t view.bytes∧(header view.bytes≤t.maxElements →
    FramesFit maximum fit accept (header view.bytes) (view.bytes.drop 8)))
   (header view.bytes≤t.maxElements ∧
    FramesAccept maximum accept (header view.bytes) (view.bytes.drop 8))
   (fun x=>x.1.length=header view.bytes):=by
  intro hr
  have hreserve:=(meets_reserve t (header view.bytes) (r.advance 8 hr).remaining kSizeBytes).lift
   (r.advance 8 hr)
  refine Meets.bind hreserve fun x hx=>?_
  have hitems:=meets_readElements he (header view.bytes) x.2
  rw[hx.2,Reader.advance_rest,← hx.2] at hitems
  exact hitems
 have hread:=meets_readSize limits.maxContainerElements what r (g:=fun count=>get >>= fun reader =>
  StateT.lift (reserve t count reader.remaining kSizeBytes) >>= fun _=>readElements element count)
  hbody
 refine (meets_runReader view limits.maxTotalBytes hread).congr ?_ ?_
 · have hrest:r.rest=view.bytes:=rfl
   simp only[Counted,CountFits,and_imp,hrest]
   tauto
 · have hrest:r.rest=view.bytes:=rfl
   simp only[Counted,and_assoc,hrest]

/-- `FixedSizeArraySerde` compares the count with the bytes that are left before it reserves. -/
lemma meets_fixedSizeArray (s:Scalar) (limits:SerdeLimits) (view:SerdeView) :
  Meets (fixedSizeArrayDeserialize s limits view) True
   (Counted limits view.bytes∧header view.bytes≤(view.bytes.length - 8) / s.size)
   (fun items=>items.length=header view.bytes) := by
 let r:Reader:=⟨view,0,Nat.zero_le _⟩
 have hbody:∀ hr : 8≤r.remaining,
  Meets (readFixedElements s (header view.bytes) (r.advance 8 hr)) True
   (header view.bytes≤(view.bytes.length - 8) / s.size)
   (fun x=>x.1.length=header view.bytes):=by
  intro hr
  have hrem:(r.advance 8 hr).remaining=view.bytes.length - 8:=rfl
  have heq:readFixedElements s (header view.bytes) (r.advance 8 hr) =
   (if (r.advance 8 hr).remaining / s.size < header view.bytes then
    StateT.lift (.fail (.serde ⟨"fixed-size array payload is truncated",(r.advance 8 hr).offset⟩))
   else do
    StateT.lift (reserve (.scalar s) (header view.bytes) (r.advance 8 hr).remaining s.size)
    readElements (readFixedElement s) (header view.bytes) : Read (List s.Val)) (r.advance 8 hr) :=
   rfl
  have hguard:=Meets.guarded (c:=header view.bytes≤(view.bytes.length - 8) / s.size)
   (d := readFixedElements s (header view.bytes) (r.advance 8 hr)) (p := True) (q := True)
   (R := fun x=>x.1.length=header view.bytes) ?_ ?_
  · exact hguard.congr (by simp) (by simp)
  · intro hc
    have hmax:header view.bytes≤(CppType.scalar s).maxElements:=
     hc.trans (Nat.div_le_div_right ((Nat.sub_le _ _).trans view.size_le))
    rw[heq,hrem,if_neg (not_lt.mpr hc)]
    have hreserve:=(meets_reserve (.scalar s) (header view.bytes) (view.bytes.length - 8) s.size).lift
     (r.advance 8 hr)
    have hitems:=hreserve.bind (f:=fun x=>readElements (readFixedElement s) (header view.bytes) x.2)
     (p := True) (q := True) (R := fun x=>x.1.length=header view.bytes)
     fun x hx=>meets_fixedElements s _ _ (by
      rw[hx.2,Reader.rest_length,hrem]
      exact (Nat.le_div_iff_mul_le s.size_pos).mp hc)
    exact hitems.congr (iff_of_true ⟨⟨hc,hmax⟩,fun _=>trivial⟩ trivial)
     (iff_of_true ⟨hmax,trivial⟩ trivial)
  · intro hc
    refine ⟨⟨"fixed-size array payload is truncated",(r.advance 8 hr).offset⟩,?_⟩
    rw[heq,hrem,if_pos (not_le.mp hc)]
    rfl
 have hread:=meets_readSize limits.maxContainerElements "array count" r
  (g := readFixedElements s) hbody
 refine (meets_runReader view limits.maxTotalBytes hread).congr (by simp) ?_
 have hrest:r.rest=view.bytes:=rfl
 simp only[Counted,and_assoc,hrest]

lemma meets_twoFrames {γ:Type} {first:Read α} {second:Read β} {g:α→β→ Read γ}
    {fit₁ accept₁ fit₂ accept₂:List UInt8→ Prop} {post₁:α→ List UInt8→ Prop}
    {post₂:β→ List UInt8→ Prop} {R:γ×Reader→ Prop} (r:Reader)
    (h₁:ReadsFrame first maximum fit₁ accept₁ post₁)
    (h₂:ReadsFrame second maximum fit₂ accept₂ post₂)
    (hg:∀ a b r',post₁ a (payload r.rest)→ post₂ b (payload (afterFrame r.rest)) →
      Meets (g a b r') True q R) :
    Meets ((do
        let a ← first
        let b ← second
        g a b : Read γ) r)
      ((Framed maximum r.rest→ fit₁ (payload r.rest)) ∧
        (Framed maximum r.rest∧accept₁ (payload r.rest) →
          Framed maximum (afterFrame r.rest)→ fit₂ (payload (afterFrame r.rest))))
      ((Framed maximum r.rest∧accept₁ (payload r.rest)) ∧
        (Framed maximum (afterFrame r.rest)∧accept₂ (payload (afterFrame r.rest)))∧q)
      R := by
 refine Meets.bind (h₁ r) fun x hx=>?_
 have h:=h₂ x.2
 rw[hx.1] at h
 have hb:=h.bind (f:=fun y=>g x.1 y.1 y.2) fun y hy=>hg x.1 y.1 y.2 hx.2 hy.2
 exact hb.congr (by simp) Iff.rfl

lemma meets_buildMap [DecidableEq α] (limits:SerdeLimits) (keys:List α)
  (values:List β) (r:Reader) :
  Meets (buildMap limits keys values r) True
   (keys.length=values.length∧keys.length≤limits.maxContainerElements) (fun _=>True) := by
 have h:=Meets.guarded (c:=keys.length=values.length∧keys.length≤limits.maxContainerElements)
  (d := buildMap limits keys values r) (p := True) (q := True) (R := fun _=>True) ?_ ?_
 · exact h.congr (by simp) (by simp)
 · rintro ⟨hlen,hmax⟩
   have heq:buildMap limits keys values r=pure (fromEntries (keys.zip values),r):=
    (if_neg (not_not_intro hlen)).trans (if_neg (not_lt.mpr hmax))
   rw[heq]
   exact (meets_pure _).weaken fun _ _=>trivial
 · intro hno
   by_cases hlen:keys.length=values.length
   · have hmax:limits.maxContainerElements < keys.length:=not_le.mp fun hmax=>hno ⟨hlen,hmax⟩
     exact ⟨_,(if_neg (not_not_intro hlen)).trans (if_pos hmax)⟩
   · exact ⟨_,if_pos hlen⟩

lemma header_payload {b:List UInt8} (h:Framed maximum b) :
  (payload b).length=header b := by
 obtain ⟨-,-,hle⟩:=h
 rw[payload,length_take,length_drop]
 omega

lemma meets_bytes (t:CppType) (ht:t.maxElements=maxSize) (limits:SerdeLimits)
  (view:SerdeView) :
  Meets (bytesDeserialize t limits view) True
   (view.bytes.length≤limits.maxTotalBytes∧Framed limits.maxBytes view.bytes)
   (fun items=>items.length=header view.bytes) := by
 let r:Reader:=⟨view,0,Nat.zero_le _⟩
 have hframe:=readsFrame_bytes t ht limits.maxBytes r
 have hbody:Meets (_:Decode (List UInt8×Reader)) _ _ (fun x=>x.1.length=header view.bytes):=
  ⟨hframe.safe,hframe.returns,fun x hx=>by
   rw[(hframe.post x hx).2]
   exact header_payload (hframe.returns.mp ⟨x,hx⟩).1⟩
 have hrest:r.rest=view.bytes:=rfl
 exact (meets_runReader view limits.maxTotalBytes hbody).congr (by simp) (by simp[hrest])

lemma readsFrame_serde {t:CppType} {serde:Serde t} (maximum:ℕ) (lengthOf what:String)
  (h:∀ view,Meets (serde.deserialize view) (CountsFit serde view.bytes) (Accepts serde view.bytes)
   (fun v=>HasCount v (header view.bytes))) :
  ReadsFrame (readFramed maximum lengthOf what serde.deserialize) maximum (CountsFit serde)
   (Accepts serde) (fun v b=>HasCount v (header b)) :=
 readsFrame_readFramed maximum lengthOf what h

lemma meets_deserialize {t:CppType} (serde:Serde t) (view:SerdeView) :
  Meets (serde.deserialize view) (CountsFit serde view.bytes) (Accepts serde view.bytes)
   (fun v=>HasCount v (header view.bytes)) := by
 induction serde generalizing view with
 | scalar s => exact meets_scalar s view
 | string limits =>
  have h:=readsFrame_string limits.maxStringBytes "string length" "string" ⟨view,0,Nat.zero_le _⟩
  have hrun:=meets_runReader (R:=fun _=>True) view limits.maxTotalBytes
   (h.weaken fun _ _=>trivial)
  exact hrun.congr (by simp[CountsFit]) (by simp[Accepts,Reader.rest])
 | bytes limits => exact meets_bytes .byte (Nat.div_one _) limits view
 | uint8Array limits => exact meets_bytes (.scalar .uint8) (Nat.div_one _) limits view
 | fixedSizeArray s limits => exact meets_fixedSizeArray s limits view
 | stringArray limits =>
  have h:=meets_counted .string limits "string array count"
   (readsFrame_string limits.maxStringBytes "string length" "string array element") view
  refine h.congr ?_ Iff.rfl
  have htriv:∀ (n:ℕ) (b:List UInt8),
   FramesFit limits.maxStringBytes (fun _=>True) (fun _=>True) n b:=by
   intro n
   induction n with
   | zero => exact fun _=>trivial
   | succ n ih => exact fun b=>⟨fun _=>trivial,fun _=>ih _⟩
  simp only[CountsFit,htriv,and_true]
 | array valueSerde limits ih =>
  exact meets_counted _ limits "array count" (readsFrame_serde limits.maxTotalBytes
   "array element length" "array element payload" ih) view
 | map keyArraySerde valueArraySerde limits ihk ihv =>
  have hkeys:=readsFrame_serde limits.maxTotalBytes "map keys length" "map keys payload" ihk
  have hvalues:=readsFrame_serde limits.maxTotalBytes "map values length" "map values payload" ihv
  have hbody:=meets_twoFrames ⟨view,0,Nat.zero_le _⟩ hkeys hvalues
   (g := fun keys values=>buildMap limits keys values) (R := fun _=>True)
   (q := header (payload view.bytes)=header (payload (afterFrame view.bytes)) ∧
    header (payload view.bytes)≤limits.maxContainerElements) fun keys values r hk hv=>by
     have h:=meets_buildMap limits keys values r
     have hk':List.length keys=header (payload view.bytes):=hk
     have hv':List.length values=header (payload (afterFrame view.bytes)):=hv
     rw[hk',hv'] at h
     exact h
  exact meets_runReader view limits.maxTotalBytes hbody

def StreamCountsFit : {t:StreamType} → StreamSerde t → List UInt8 → Prop
 | _,.value serde,b => CountsFit serde b
 | _,.keyValue keySerde valueSerde limits,b => b.length ≤ limits.maxTotalBytes →
   (Framed limits.maxTotalBytes b → CountsFit keySerde (payload b)) ∧
   (Framed limits.maxTotalBytes b ∧ Accepts keySerde (payload b) →
    Framed limits.maxTotalBytes (afterFrame b) → CountsFit valueSerde (payload (afterFrame b)))

/-- Decoding arbitrary bytes returns a value or throws a `SerdeError`, and never
reserves more elements than the unread bytes could encode, exactly when every
array of strings or frames it reaches announces a count its bytes can hold. -/
theorem deserialize_safe_iff {t : StreamType} (serde : StreamSerde t) (view : SerdeView) :
  Safe (serde.deserialize view) ↔ StreamCountsFit serde view.bytes := by
 cases serde with
 | value serde => exact (meets_deserialize serde view).safe
 | keyValue keySerde valueSerde limits =>
  have hkey:=readsFrame_serde limits.maxTotalBytes "key length" "key payload"
   (meets_deserialize keySerde)
  have hvalue:=readsFrame_serde limits.maxTotalBytes "value length" "value payload"
   (meets_deserialize valueSerde)
  have hbody:=meets_twoFrames ⟨view,0,Nat.zero_le _⟩ hkey hvalue (q:=True)
   (g := fun first second=>pure (first,second)) (R := fun _=>True)
   fun first second r _ _=>(meets_pure _).weaken fun _ _=>trivial
  exact (meets_runReader (R := fun _=>True) view limits.maxTotalBytes hbody).safe

/-- Eight `0xff` bytes: the count of a string array is 2^64 - 1, it is reserved with
no byte left to decode, and `reserve` throws `std::length_error`. -/
theorem stringArray_reserves_unseen :
  StreamSerde.deserialize (.value (.stringArray unlimited)) ⟨List.replicate 8 0xff, by decide⟩ =
   ⟨.error .lengthError, [⟨2 ^ 64 - 1, 0, 8⟩]⟩ :=
 rfl

end ServiceLib.SerdeHostile
