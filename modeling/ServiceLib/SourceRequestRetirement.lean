import ServiceLib.SourceRequestGate

set_option autoImplicit false
attribute [-instance] instBooleanRingBool

/-!
# The life of a source request
-/
namespace ServiceLib.SourceRequest
open SharedMutex Request

/-- The entry under the stream id is the request's own. -/
def Request.listed (kind:Kind) (q:Request) : Bool :=
 match q.phase with
 | .inserting | .popped | .unlocking | .finished => false
 | .registering => true
 | .resolved => q.pendingInserted && kind != .http
 | .ending | .closing => q.registered && kind.grpc
 | _ => q.pendingInserted

def Phase.rank : Phase → ℕ
 | .inserting => 0
 | .registering => 1
 | .consuming | .reading | .eof => 2
 | .waiting => 3
 | .expired => 4
 | .joining | .woken => 5
 | .locking => 6
 | .queued => 7
 | .retired => 8
 | .popped => 9
 | .resolved => 10
 | .ending => 11
 | .closing => 12
 | .unlocking => 13
 | .finished => 14

def Phase.past (phase:Phase) : Prop :=
 6 ≤ phase.rank

def Phase.ended (phase:Phase) : Prop :=
 11 ≤ phase.rank

def Phase.over (phase:Phase) : Prop :=
 12 ≤ phase.rank

instance (phase:Phase) : Decidable phase.past := inferInstanceAs (Decidable (6 ≤ _))

instance (phase:Phase) : Decidable phase.ended := inferInstanceAs (Decidable (11 ≤ _))

instance (phase:Phase) : Decidable phase.over := inferInstanceAs (Decidable (12 ≤ _))

def Place.handling : Place → Bool
 | .identifying | .calling _ _ => true
 | _ => false

def Request.Handling (q:Request) (i:ℕ) : Prop :=
 ∃ delivery,q.deliveries[i]? = some delivery ∧ delivery.place.handling = true

/-- While the fiber waits, whoever has claimed the event can send it or has sent it. -/
def Request.Claimed (q:Request) : Prop :=
 q.doneSent = true → ¬q.phase.past →
  q.ready = true ∨ q.waking = true ∨ ∃ j : ℕ,q.dones[j]? = some .sending

structure Shape (kind:Kind) (q:Request) : Prop where
 fresh : q.phase = .inserting → q.pendingInserted = false
 popped : q.phase = .popped → kind = .http
 closing : q.phase = .closing → kind.grpc = true
 unlocking : q.phase = .unlocking → kind ≠ .http
 joining : q.phase = .joining → q.doneSent = true

structure Sound (e:Endpoint) (entry:Entry) (q:Request) : Prop where
 gate : Gate e q
 shape : Shape e.kind q
 listed : entry = .own ↔ q.listed e.kind = true
 quiet : q.phase = .finished → ∀ i,¬q.Handling i
 claimed : q.Claimed
 fired : ∀ source ∈ q.fired,source ∈ q.context.sources

variable {phase:Phase} {kind:Kind} {listed':Bool} {i j:ℕ}

section Steps
variable {e:Endpoint} {stopped:Bool} {entry entry':Entry} {q q':Request} {act:Act}

lemma Move.identity (h:Move e stopped entry q act q' entry') :
  q'.streamId=q.streamId∧q'.context=q.context := by
 cases h <;> exact ⟨rfl,rfl⟩

lemma Move.fired_mono (h:Move e stopped entry q act q' entry') {source:Source} (hsource:source∈q.fired) :
  source∈q'.fired := by
 cases h with
 | fired => exact List.mem_cons_of_mem _ hsource
 | _ => exact hsource

lemma Move.fired_sources (h:Move e stopped entry q act q' entry')
  (hfired:∀ source∈q.fired,source∈q.context.sources) : ∀ source∈q'.fired,source∈q'.context.sources := by
 cases h with
 | fired hsource => simpa using ⟨hsource,hfired⟩
 | _ => exact hfired

lemma afterBody_cases (e:Endpoint) :
  afterBody e=.locking∨(afterBody e=.ending∧e.kind=.http∧e.hasResult=false) := by
 grind[afterBody]

lemma bodyDone_cases (e:Endpoint) (q:Request) : (q.bodyDone e).phase=.waiting ∨
  (q.bodyDone e).phase=.locking ∨
   ((q.bodyDone e).phase=.ending∧e.kind=.http∧e.hasResult=false) := by
 grind[bodyDone,afterBody]

lemma rank_of_outside (h:phase.outside=true) : phase.rank=2 := by
 cases phase <;> first | rfl | cases h

def Phase.Forward (phase phase':Phase) : Prop :=
 phase.rank ≤ phase'.rank ∧ (phase'.over → phase.over)

instance (phase phase':Phase) : Decidable (phase.Forward phase') := inferInstanceAs (Decidable (_ ∧ _))

lemma Phase.Forward.refl (phase:Phase) : phase.Forward phase :=
 ⟨Nat.le_refl _,id⟩

lemma forward_of_outside {phase':Phase} (h:phase.outside=true)
  (h':phase'=.waiting∨phase'=.locking∨(phase'=.ending∧e.kind=.http∧e.hasResult=false)) :
  phase.Forward phase' := by
 unfold Phase.Forward Phase.over
 rw[rank_of_outside h]
 rcases h' with rfl | rfl | ⟨rfl,-⟩ <;> decide

lemma Move.forward (h:Move e stopped entry q act q' entry') (hgate:Gate e q) :
  (act=.ended∧q.phase=.ending∧q'.phase.over)∨(act≠ .ended∧q.phase.Forward q'.phase) := by
 cases h with
 | ended hphase => grind[Phase.over,Phase.rank]
 | failed hact hphase =>
  exact .inr ⟨by grind[Act.failing],forward_of_outside hphase (.inr (afterBody_cases e))⟩
 | bodyDone hphase hact => exact .inr ⟨by grind,forward_of_outside hphase (bodyDone_cases e q)⟩
 | left hi hplace hkind =>
  have hleft:=(hgate.guarded hkind).phase_left
  refine .inr ⟨fun hact=>(by cases hact),?_⟩
  rcases hleft _ _ with hnext | ⟨hphase,hnext⟩
  · rw[hnext]
    exact .refl _
  · rw[hnext,hphase]
    decide
 | _ => 
  refine .inr ⟨fun hact=>(by cases hact),?_⟩
  grind[Phase.Forward,Phase.over,Phase.rank,fail,afterBody,waitFails,Request.decide,place,register,Phase.Forward.refl]

lemma Move.rank_le (h:Move e stopped entry q act q' entry') (hgate:Gate e q) :
  q.phase.rank≤q'.phase.rank := by
 rcases h.forward hgate with ⟨-,hphase,hover⟩ | ⟨-,hle,-⟩
 · rw[hphase]
   exact Nat.le_of_succ_le hover
 · exact hle

lemma Move.alone_of_finished (h:Move e stopped entry q act q' entry') (hgate:Gate e q)
  (hfinished:q'.phase=.finished) : q.phase=.finished∨q.phase.hold e.kind=.alone := by
 have hforward:=h.forward hgate
 cases hphase:q.phase <;> simp_all[Phase.Forward,Phase.over,Phase.rank,Phase.hold]

lemma Shape.of_phase (h:Shape kind q) (hphase:q'.phase=q.phase)
  (hinserted:q'.pendingInserted=q.pendingInserted) (hsent:q.doneSent=true→ q'.doneSent=true) :
  Shape kind q' := by
 obtain ⟨⟩:=h
 constructor <;> grind

lemma Shape.move (h:Shape e.kind q) (hgate:Gate e q) (hmove:Move e stopped entry q act q' entry') :
  Shape e.kind q' := by
 cases hmove with
 | left hi hplace hkind =>
  rcases (hgate.guarded hkind).phase_left _ _ with hnext | ⟨-,hnext⟩
  · exact h.of_phase hnext rfl id
  · refine ⟨?_,?_,?_,?_,?_⟩ <;> rw[hnext] <;> nofun
 | fired | signalled | waked | doneStarted | doneStored | doneLost | doneSends | responded | registers | passed
 | late | counting | entered | blocked | admitted | rejected | uncounting | identified
 | called => exact h.of_phase rfl rfl id
 | _ =>
  obtain ⟨⟩:=h
  constructor <;> first | assumption | grind[fail,bodyDone,afterBody,waitFails,Request.decide,Kind.grpc]

inductive EntryChange (act:Act) (entry:Entry) (listed:Bool) : Entry → Bool → Prop
 | same : EntryChange act entry listed entry listed
 | inserted (hact:act = .run) (hentry:entry = .free) : EntryChange act entry listed .own true
 | removed (hact:act = .run) (hlisted:listed = true) : EntryChange act entry listed .free false

lemma EntryChange.of_eq {listed:Bool} (h:listed'=listed) :
  EntryChange act entry listed entry listed' :=
 h▸ .same

lemma EntryChange.of_flag {listed flag:Bool} (h:listed=flag) (h':listed'=false) :
  EntryChange .run entry listed (if flag then .free else entry) listed' := by
 grind[EntryChange]

lemma EntryChange.own_iff {listed:Bool} (h:EntryChange act entry listed entry' listed')
  (hlisted:entry=.own↔listed=true) : entry'=.own↔listed'=true := by
 cases h <;> grind

lemma listed_of_outside (h:q.phase.outside=true) : q.listed kind=q.pendingInserted := by
 unfold Request.listed
 cases hphase:q.phase <;> rw[hphase] at h <;> first | rfl | cases h

lemma listed_afterBody (hgate:Gate e q) (q':Request) (hinserted:q'.pendingInserted=q.pendingInserted)
  (hphase:q'.phase=.waiting∨q'.phase=.locking ∨
   (q'.phase=.ending∧e.kind=.http∧e.hasResult=false)) :
  q'.listed e.kind=q.pendingInserted := by
 unfold Request.listed
 rcases hphase with hphase | hphase | ⟨hphase,hkind,hno⟩ <;> rw[hphase]
 · exact hinserted
 · exact hinserted
 · rw[(hgate.plain hkind hno).pendingInserted,hkind]
   exact Bool.and_false _

lemma Move.entryChange (h:Move e stopped entry q act q' entry') (hgate:Gate e q) (hshape:Shape e.kind q) :
  EntryChange act entry (q.listed e.kind) entry' (q'.listed e.kind) := by
 have hplain:=hgate.plain
 obtain ⟨⟩:=hshape
 cases h with
 | inserted hphase hentry => cases hgrpc : e.kind.grpc <;> exact .inserted rfl hentry
 | duplicate hphase =>
  refine .of_eq ((listed_afterBody hgate (q.fail e _) rfl (.inr (afterBody_cases e))).trans ?_)
  grind[Request.listed]
 | failed _ hphase =>
  exact .of_eq ((listed_afterBody hgate (q.fail e _) rfl (.inr (afterBody_cases e))).trans (listed_of_outside hphase).symm)
 | bodyDone hphase =>
  exact .of_eq ((listed_afterBody hgate (q.bodyDone e) rfl (bodyDone_cases e q)).trans (listed_of_outside hphase).symm)
 | popped hphase | resolvedCustom hphase hkind | closed hphase =>
  refine .of_flag ?_ ?_ <;> cases hkind : e.kind <;> grind[Request.listed,Kind.custom,Kind.grpc]
 | left hi hplace hkind =>
  refine .of_eq ?_
  rw[Request.listed,Request.listed]
  rcases (hgate.guarded hkind).phase_left _ _ with hnext | ⟨hphase,hnext⟩
  · rw[hnext]
    rfl
  · rw[hnext,hphase]
    rfl
 | fired | signalled | cancelling | waked | doneStarted | doneStored | doneLost | doneWon | doneSends | responded
 | registers | passed | late | counting | entered | blocked | admitted | rejected | uncounting | identified
 | called => exact .same
 | _ =>
  refine .of_eq ?_
  first
  | simp only [Request.listed, *]; done
  | cases hkind:e.kind <;> grind[Request.listed,waitFails,Request.decide,Kind.grpc]

lemma Request.Handling.inside (h:q.Handling i) : q.Inside i := by
 obtain ⟨delivery,hi,hplace⟩:=h
 refine ⟨delivery,hi,?_⟩
 cases hnext:delivery.place <;> rw[hnext] at hplace <;> first | rfl | cases hplace

lemma handling_place {delivery:Delivery} {next:Place} (hi:q.deliveries[i]?=some delivery)
  (h:(q.place i delivery next).Handling j) : (j=i∧next.handling=true)∨q.Handling j := by
 grind[Request.Handling,getElem?_place]

lemma handling_grant {granted:List (Waiter (Option ℕ))} (h:(q.grant granted).Handling j) :
  q.Handling j := by
 grind[Request.Handling,getElem?_grant,Place.handling]

lemma Move.handling (h:Move e stopped entry q act q' entry') (hj:q'.Handling j) :
  q.Handling j∨(entry=.own∧q'.phase=q.phase) := by
 cases h with
 | admitted hi _ hentry => exact .inr ⟨hentry,rfl⟩
 | identified hi hplace =>
  refine .inl ((handling_place hi hj).elim ?_ id)
  rintro ⟨rfl,-⟩
  exact ⟨_,hi,by rw[hplace]; rfl⟩
 | passed hi | late hi | rejected hi | counting hi | entered hi | blocked hi | uncounting hi | called hi =>
  refine .inl ((handling_place hi hj).elim ?_ id)
  rintro ⟨-,hnext⟩
  cases hnext
 | left hi =>
  refine .inl ((handling_place hi (handling_grant hj)).elim ?_ id)
  rintro ⟨-,hnext⟩
  cases hnext
 | released => exact .inl (handling_grant hj)
 | _ => exact .inl hj

lemma Request.Claimed.frame (h:q.Claimed) (hsent:q'.doneSent=q.doneSent) (hready:q'.ready=q.ready)
  (hwaking:q'.waking=q.waking) (hdones:q'.dones=q.dones) (hrank:q.phase.rank≤q'.phase.rank) :
  q'.Claimed := by
 unfold Request.Claimed
 rw[hsent,hready,hwaking,hdones]
 exact fun hdone hpast=>h hdone fun hq=>hpast (Nat.le_trans hq hrank)

lemma sending_set {place next:DonePlace} (hj:q.dones[j]?=some place) (hplace:place≠ .sending)
  (h:∃ i : ℕ,q.dones[i]?=some .sending) : ∃ i : ℕ,(q.dones.set j next)[i]?=some .sending := by
 obtain ⟨i,hi⟩:=h
 exact ⟨i,by grind⟩

lemma Request.Claimed.move (h:q.Claimed) (hgate:Gate e q) (hmove:Move e stopped entry q act q' entry') :
  q'.Claimed := by
 have hrank:=hmove.rank_le hgate
 cases hmove with
 | expired | cancelling | waked | doneSends => grind[Request.Claimed,Phase.past,Phase.rank,waitFails]
 | doneStarted =>
  intro hsent hpast
  refine (h hsent hpast).imp_right fun hclaim=>hclaim.imp_right ?_
  rintro ⟨j,hj⟩
  exact ⟨j,by grind⟩
 | doneStored hj | doneLost hj hplace =>
  intro hsent hpast
  exact (h hsent hpast).imp_right fun hclaim=>hclaim.imp_right (sending_set hj (by grind))
 | @doneWon j place hj => exact fun _ _=>.inr (.inr ⟨j,by grind⟩)
 | _ => exact h.frame rfl rfl rfl rfl hrank

lemma Sound.move (h:Sound e entry q) (hmove:Move e stopped entry q act q' entry') : Sound e entry' q' := by
 refine ⟨h.gate.move hmove,h.shape.move h.gate hmove,?_,?_,h.claimed.move h.gate hmove,
  hmove.fired_sources h.fired⟩
 · exact (hmove.entryChange h.gate h.shape).own_iff h.listed
 · intro hfinished i hi
   rcases hmove.handling hi with hold | ⟨hentry,hphase⟩
   · rcases hmove.alone_of_finished h.gate hfinished with hphase | halone
     · exact h.quiet hphase i hold
     · exact h.gate.not_inside halone i hold.inside
   · have hlisted:=h.listed.mp hentry
     rw[Request.listed,← hphase,hfinished] at hlisted
     cases hlisted

lemma Sound.of_own (h:Sound e entry q) (hown:entry'=.own↔entry=.own) : Sound e entry' q :=
 ⟨h.gate,h.shape,hown.trans h.listed,h.quiet,h.claimed,h.fired⟩

lemma gate_of_nil (hdeliveries:q.deliveries=[]) (hmutex:q.lifetimeMutex={}) (hreaders:q.readers=0)
  (hnotified:q.notified=false) (hinserted:q.pendingInserted=false)
  (hphase:(q.phase=.inserting∧(e.kind=.http→ e.hasResult=true))∨q.phase=.consuming) : Gate e q := by
 have hinside:∀ i,¬q.Inside i:=by grind[Inside]
 have hqueued:∀ i,¬q.Queued i:=by grind[Request.Queued]
 have hfree:∀ kind,q.phase.hold kind=.free:=by grind[Phase.hold]
 refine ⟨fun _ _=>⟨⟨[],?_⟩,?_,?_,?_,?_,?_,?_⟩,fun _=>⟨⟨[],none,hmutex▸valid_empty,?_⟩,?_,?_⟩,
  fun hkind hno=>⟨hdeliveries,hinserted,?_⟩⟩ <;> grind[Phase.late,Phase.plain]

lemma sound_fresh (streamId:String) (context:Context) (hentry:entry≠ .own)
  (hphase:(phase=.inserting∧(e.kind=.http→ e.hasResult=true))∨phase=.consuming) :
  Sound e entry { streamId := streamId,context := context,phase := phase } := by
 refine ⟨gate_of_nil rfl rfl rfl rfl rfl hphase,?_,?_,?_,nofun,nofun⟩
 · constructor <;> grind
 · grind[Request.listed]
 · grind

lemma exists_arrive {parent:Option (ℕ×ℕ)} {P:Place→ Prop} (hfound:¬P .found)
  (hlocking:¬P .locking) :
  (∃ delivery,(q.arrive kind parent).deliveries[i]?=some delivery∧P delivery.place) ↔
   ∃ delivery,q.deliveries[i]?=some delivery∧P delivery.place := by
 have hnew:¬P (if kind.grpc then .found else .locking):=by grind
 grind[arrive]

lemma sameGate_arrive (kind:Kind) (parent:Option (ℕ×ℕ)) (q:Request) :
  SameGate kind q (q.arrive kind parent) :=
 ⟨rfl,rfl,rfl,rfl,fun _=>exists_arrive (P := fun place=>place.inside=true) nofun nofun,
  fun _=>exists_arrive (P := fun place=>place=.queued) nofun nofun,rfl,fun _ h=>h⟩

lemma Plain.not_listed (h:Plain q) : q.listed .http=false := by
 obtain ⟨⟩:=h
 grind[Request.listed,Phase.plain,Kind.grpc]

lemma Sound.arrive (h:Sound e .own q) (parent:Option (ℕ×ℕ)) : Sound e .own (q.arrive e.kind parent) := by
 have hsame:=sameGate_arrive e.kind parent q
 have hlisted:=h.listed.mp rfl
 refine ⟨⟨fun hkind hresult=>?_,fun hkind=>?_,fun hkind hno=>?_⟩,h.shape.of_phase rfl rfl id,h.listed,
  fun hfinished i hi=>?_,h.claimed,h.fired⟩
 · rw[hkind] at hsame ⊢
   exact hsame.counted (h.gate.counted hkind hresult)
 · exact hsame.guarded (h.gate.guarded hkind)
 · rw[hkind,(h.gate.plain hkind hno).not_listed] at hlisted
   cases hlisted
 · exact h.quiet hfinished i ((exists_arrive (P := fun place=>place.handling=true) nofun nofun).mp hi)

end Steps

end ServiceLib.SourceRequest
