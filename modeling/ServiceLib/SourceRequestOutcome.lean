import ServiceLib.SourceRequestRetirement

set_option autoImplicit false
attribute [-instance] instBooleanRingBool

/-!
# The outcome of a source request
-/
namespace ServiceLib.SourceRequest
open SharedMutex Request List

/-- The fiber is about to read the completion flag: the request is retired. -/
def Phase.deciding (kind:Kind) (phase:Phase) : Prop :=
 (phase = .retired ∧ kind ≠ .http) ∨ phase = .popped

def Kind.unary : Kind → Bool
 | .grpcUnary _ => true
 | _ => false

variable {kind:Kind} {source:Source} {place:DonePlace}

lemma Kind.resultReady_eq (h:kind.unary=false) (q:Request) : q.resultReady kind=q.ready := by
 cases kind <;> first | rfl | cases h

lemma Kind.custom_of_not_async (h:kind.unary=false) (hasync:kind.async=false) :
  kind.custom=true := by
 cases kind with
 | http | grpcStreaming => cases hasync
 | grpcUnary => cases h
 | localSource | kafka => rfl

lemma ne_endpoint_of_mem_sources {context:Context} (h:source∈context.sources) :
  source≠ .endpoint := by
 rintro rfl
 simp[Context.sources] at h

lemma mem_sources_of_subscriptions {context:Context} (hkind:kind.custom=false)
  (h:source∈subscriptions kind context) : source∈context.sources := by
 rcases kind with _ | ⟨_ | _⟩ | _ | _ | _ <;> grind[subscriptions,Kind.custom]

lemma cancelled_of_fired {q:Request} (hsource:source∈q.context.sources)
  (hfired:source∈q.fired) : q.cancelled=true := by
 refine any_eq_true.mpr ⟨source,hfired,?_⟩
 simpa using ne_endpoint_of_mem_sources hsource

/-- The request or its endpoint has been stopped, and its kind listens to that by `done`. -/
def Request.Stopped (kind:Kind) (stopped:Bool) (q:Request) : Prop :=
 kind.custom = true ∧ (q.cancelled = true ∨ stopped = true)

structure Signals (kind:Kind) (stopped:Bool) (q:Request) : Prop where
 signalled : q.signalled = true → q.cancelled = true
 waking : q.waking = true → q.Stopped kind stopped
 ready : q.ready = true → q.dones ≠ [] ∨ q.Stopped kind stopped
 sent : kind.custom = false → q.doneSent = true → q.dones ≠ []
 completed : q.completed = true → q.dones ≠ []
 stored : kind.custom = true → ∀ place ∈ q.dones,place ≠ .entered → q.completed = true

def Request.flags (q:Request) : Bool × Bool × Bool × List Source × Bool × Bool × List DonePlace :=
 (q.signalled,q.waking,q.ready,q.fired,q.doneSent,q.completed,q.dones)

structure Waits (kind:Kind) (q:Request) : Prop where
 early : ¬q.phase.past → q.error = none ∧ q.resultWaitFailed = false
 expired : q.phase = .expired ∨ q.phase = .joining → kind.custom = true
 woken : q.phase = .woken → q.resultReady kind = true ∨ q.cancelled = true

section Flags
variable {e:Endpoint} {kind:Kind} {stopped stopped':Bool} {entry entry':Entry} {q q':Request} {act:Act}

lemma Request.Stopped.mono (h:q.Stopped kind stopped) (hstopped:stopped=true→ stopped'=true)
  (hcancelled:q.cancelled=true→ q'.cancelled=true) : q'.Stopped kind stopped' :=
 ⟨h.1,h.2.imp hcancelled hstopped⟩

lemma Move.cancelled_mono (h:Move e stopped entry q act q' entry') (hcancelled:q.cancelled=true) :
  q'.cancelled=true := by
 obtain ⟨source,hfired,hsource⟩:=any_eq_true.mp hcancelled
 exact any_eq_true.mpr ⟨source,h.fired_mono hfired,hsource⟩

lemma Move.ready_mono (h:Move e stopped entry q act q' entry') (hready:q.ready=true) : q'.ready=true := by
 cases h with
 | waked | doneSends => rfl
 | _ => exact hready

lemma Move.responded_mono (h:Move e stopped entry q act q' entry') (hresponded:q.responded=true) :
  q'.responded=true := by
 cases h with
 | responded => rfl
 | _ => exact hresponded

lemma Move.resultReady_mono (h:Move e stopped entry q act q' entry') (kind:Kind)
  (hready:q.resultReady kind=true) : q'.resultReady kind=true := by
 cases kind with
 | grpcUnary => exact h.responded_mono hready
 | http | grpcStreaming | localSource | kafka => exact h.ready_mono hready

lemma Signals.mono (h:Signals kind stopped q) (hstopped:stopped=true→ stopped'=true) :
  Signals kind stopped' q :=
 ⟨h.signalled,fun hw=>(h.waking hw).mono hstopped id,fun hr=>(h.ready hr).imp_right fun hs=>hs.mono hstopped id,
  h.sent,h.completed,h.stored⟩

lemma Signals.frame (h:Signals kind stopped q) (hflags:q'.flags=q.flags) : Signals kind stopped q' := by
 grind[Signals,Request.flags,Request.cancelled,Request.Stopped]

lemma Signals.done_step (h:Signals kind stopped q) {j:ℕ} {next:DonePlace} (hj:q.dones[j]?=some place)
  (hdones:q'.dones=q.dones.set j next) (hsignalled:q'.signalled=q.signalled) (hwaking:q'.waking=q.waking)
  (hfired:q'.fired=q.fired) (hstored:kind.custom=true→ next≠ .entered→ q'.completed=true)
  (hcompleted:q.completed=true→ q'.completed=true) : Signals kind stopped q' := by
 have hne:q'.dones≠[]:=by cases hq:q.dones <;> cases j <;> grind
 obtain ⟨⟩:=h
 constructor <;> grind[Request.cancelled,Request.Stopped]

lemma Signals.move (h:Signals e.kind stopped q) (hsources:∀ source∈q.fired,source∈q.context.sources)
  (hwaits:q.phase=.expired∨q.phase=.joining→ e.kind.custom=true)
  (hmove:Move e stopped entry q act q' entry') : Signals e.kind stopped q' := by
 have hcancelled:=hmove.cancelled_mono
 cases hmove with
 | fired =>
  obtain ⟨⟩:=h
  constructor <;> grind[Request.Stopped]
 | signalled hkind hsource hfired =>
  have hmem:=mem_sources_of_subscriptions hkind hsource
  obtain ⟨⟩:=h
  constructor <;> grind[cancelled_of_fired,ne_endpoint_of_mem_sources,Request.Stopped,Request.cancelled]
 | cancelling hkind hsource hfired =>
  have hstopped:q.Stopped e.kind stopped:=by
   refine ⟨hkind,hfired.imp (fun hf=>cancelled_of_fired (hsources _ hf) hf) And.right⟩
  obtain ⟨⟩:=h
  constructor <;> grind[Request.Stopped,Request.cancelled]
 | waked hwaking | expired hphase =>
  obtain ⟨⟩:=h
  constructor <;> grind[Request.Stopped,Request.cancelled,waitFails]
 | doneStarted =>
  have hne:q.dones++[.entered]≠[]:=by simp
  obtain ⟨⟩:=h
  constructor <;> grind[Request.Stopped,Request.cancelled]
 | doneStored hj => exact h.done_step hj rfl rfl rfl rfl (fun _ _=>rfl) fun _=>rfl
 | doneLost hj | doneWon hj | doneSends hj =>
  have hstored:=h.stored
  have hmem:=mem_of_getElem? hj
  exact h.done_step hj rfl rfl rfl rfl (by grind) id
 | _ => exact h.frame rfl

lemma Waits.of_past (h:q'.phase.past) : Waits kind q' := by
 constructor <;> grind[Phase.past,Phase.rank]

lemma Waits.of_phase (h:Waits kind q) (hphase:q'.phase=q.phase) (herror:q'.error=q.error)
  (hfailed:q'.resultWaitFailed=q.resultWaitFailed)
  (hresult:q.resultReady kind=true→ q'.resultReady kind=true)
  (hcancelled:q.cancelled=true→ q'.cancelled=true) : Waits kind q' := by
 obtain ⟨⟩:=h
 constructor <;> grind

lemma Waits.of_rank (h:Waits kind q) (hrank:q'.phase.rank≤3) (hpast:¬q.phase.past)
  (herror:q'.error=q.error) (hfailed:q'.resultWaitFailed=q.resultWaitFailed) : Waits kind q' := by
 obtain ⟨⟩:=h
 constructor <;> grind[Phase.rank]

lemma not_past_of_outside {phase:Phase} (h:phase.outside=true) : ¬phase.past := by
 unfold Phase.past
 rw[rank_of_outside h]
 decide

lemma past_afterBody (e:Endpoint) : (afterBody e).past := by
 grind[afterBody,Phase.past,Phase.rank]

lemma Waits.move (h:Waits e.kind q) (hsignals:Signals e.kind stopped q) (hgate:Gate e q)
  (hmove:Move e stopped entry q act q' entry') : Waits e.kind q' := by
 have hcancelled:=hmove.cancelled_mono
 have hresult:=hmove.resultReady_mono e.kind
 have hrank:=hmove.rank_le hgate
 cases hmove with
 | inserted | registered | reading | readMore | readEnd => refine h.of_rank ?_ ?_ rfl rfl <;> grind[Phase.past,Phase.rank]
 | bodyDone hphase =>
  rcases bodyDone_cases e q with hnext | hnext
  · exact h.of_rank (by rw[hnext]; decide) (not_past_of_outside hphase) rfl rfl
  · exact .of_past (by grind[Phase.past,Phase.rank])
 | duplicate | failed => exact .of_past (past_afterBody e)
 | woke hphase hwake =>
  have hsignalled:=hsignals.signalled
  obtain ⟨⟩:=h
  constructor <;> grind[Phase.past,Phase.rank,Request.resultReady,Request.cancelled]
 | overdue | outrun => 
  obtain ⟨⟩:=h
  constructor <;> grind[Phase.past,Phase.rank]
 | left hi hplace hkind =>
  rcases (hgate.guarded hkind).phase_left _ _ with hphase | ⟨-,hphase⟩
  · exact h.of_phase hphase rfl rfl id id
  · exact .of_past (by rw[hphase]; decide)
 | fired => exact h.of_phase rfl rfl rfl id hcancelled
 | waked | doneSends | responded => exact h.of_phase rfl rfl rfl hresult id
 | signalled | cancelling | doneStarted | doneStored | doneLost | doneWon | registers | passed | late | counting
 | entered | blocked | admitted | rejected | uncounting | identified | called =>
  exact h.of_phase rfl rfl rfl id id
 | _ => exact .of_past (by grind[Phase.past,Phase.rank,waitFails,Request.decide])

/-- The fiber is past its wait and has not read the completion flag. -/
def Phase.undecided (phase:Phase) : Prop :=
 phase.past ∧ phase.rank < 10

/-- Between the wait and the reading of the completion flag: the wait has failed, or a
`done` call has ended it. -/
def Settled (kind:Kind) (q:Request) : Prop :=
 q.phase.undecided → (q.resultWaitFailed = true ∧ q.error ≠ none) ∨
  (q.error = none ∧ q.dones ≠ [] ∧ (kind.custom = false → q.ready = true))

lemma Move.dones_mono (h:Move e stopped entry q act q' entry') (hdones:q.dones≠[]) : q'.dones≠[] := by
 cases h with
 | doneStarted => simp
 | doneStored | doneLost | doneWon | doneSends => simpa using hdones
 | _ => exact hdones

lemma Settled.frame (h:Settled kind q) (hphase:q'.phase.undecided→ q.phase.undecided)
  (hfailed:q'.resultWaitFailed=q.resultWaitFailed) (herror:q'.error=q.error)
  (hdones:q.dones≠[]→ q'.dones≠[]) (hready:q.ready=true→ q'.ready=true) : Settled kind q' := by
 grind[Settled]

lemma Signals.ready_of_waited (h:Signals kind stopped q) (hkind:kind.unary=false)
  (hwoken:q.resultReady kind=true∨q.cancelled=true)
  (hasync:kind.async=true→ q.cancelled=true→ q.resultReady kind=true)
  (hcustom:kind.custom=true→ q.cancelled=false∧stopped=false) : q.ready=true∧q.dones≠[] := by
 have hready:=h.ready
 grind[Kind.resultReady_eq,Kind.custom_of_not_async,Request.Stopped]

lemma Settled.move (h:Settled e.kind q) (hkind:e.kind.unary=false) (hresult:e.hasResult=true)
  (hsignals:Signals e.kind stopped q) (hwaits:Waits e.kind q) (hgate:Gate e q)
  (hmove:Move e stopped entry q act q' entry') (hact:act.failing=false) (hphase:2≤q.phase.rank) :
  Settled e.kind q' := by
 have hdones:=hmove.dones_mono
 have hready:=hmove.ready_mono
 have hrank:=hmove.rank_le hgate
 cases hmove with
 | expired | joined | waitFailed => exact fun _=>.inl ⟨rfl,nofun⟩
 | waited hwoken hasync hcustom =>
  obtain ⟨hready,hdones⟩:=hsignals.ready_of_waited hkind (hwaits.woken hwoken) hasync hcustom
  exact fun _=>.inr ⟨(hwaits.early (by rw[hwoken]; decide)).1,hdones,fun _=>hready⟩
 | left hi hplace hhttp =>
  refine h.frame (fun hundecided=>?_) rfl rfl id id
  rcases (hgate.guarded hhttp).phase_left _ _ with hnext | ⟨hqueued,-⟩
  · rwa[hnext] at hundecided
  · rw[hqueued]
    exact ⟨by decide,by decide⟩
 | fired | signalled | cancelling | waked | doneStarted | doneStored | doneLost | doneWon | doneSends | responded
 | registers | passed | late | counting | entered | blocked | admitted | rejected | uncounting | identified
 | called => exact h.frame id rfl rfl hdones hready
 | _ => grind[Settled,Phase.undecided,Phase.past,Phase.rank,Request.decide,bodyDone]

structure Succeeds (kind:Kind) (q:Request) : Prop where
 rank : 10 ≤ q.phase.rank
 error : q.error = none
 ready : kind = .http → q.ready = true

structure Fails (q:Request) : Prop where
 rank : 10 ≤ q.phase.rank
 error : q.error ≠ none

lemma Move.error_eq (h:Move e stopped entry q act q' entry') (hrank:10≤q.phase.rank) :
  q'.error=q.error∨(e.kind=.http∧q'.error=if q.ready=false∧q.error=none then
   some (cancelledError .http) else q.error) := by
 cases h with
 | resolvedHttp _ hkind => exact .inr ⟨hkind,rfl⟩
 | duplicate | expired | joined | waitFailed | decided | failed => grind[Phase.rank,rank_of_outside]
 | _ => exact .inl rfl

lemma Succeeds.move (h:Succeeds e.kind q) (hgate:Gate e q) (hmove:Move e stopped entry q act q' entry') :
  Succeeds e.kind q' := by
 have hrank:=hmove.rank_le hgate
 have herror:=hmove.error_eq h.rank
 have hready:=hmove.ready_mono
 obtain ⟨⟩:=h
 constructor <;> grind

lemma Fails.move (h:Fails q) (hgate:Gate e q) (hmove:Move e stopped entry q act q' entry') : Fails q' := by
 have hrank:=hmove.rank_le hgate
 have herror:=hmove.error_eq h.rank
 obtain ⟨⟩:=h
 constructor <;> grind

structure Separated (q:Request) : Prop where
 unique : ∀ (i j:ℕ) (p p':DonePlace),q.dones[i]? = some p → q.dones[j]? = some p' → p ≠ .returned →
  p' ≠ .returned → i = j
 returned : .returned ∈ q.dones → q.ready = true
 claimed : q.doneSent = true → q.ready = true ∨ .sending ∈ q.dones
 sent : q.ready = true ∨ .sending ∈ q.dones → q.doneSent = true

lemma Separated.frame (h:Separated q) (hdones:q'.dones=q.dones) (hready:q'.ready=q.ready)
  (hsent:q'.doneSent=q.doneSent) : Separated q' := by
 obtain ⟨⟩:=h
 constructor <;> grind

lemma Separated.started (h:Separated q) (hreturned:∀ place∈q.dones,place=.returned) :
  Separated { q with dones := q.dones++[.entered] } := by
 have hlast:∀ (i:ℕ) (p:DonePlace),(q.dones++[.entered])[i]?=some p→ p≠ .returned →
  i=q.dones.length:=by
  intro i p hi hp
  have hget:=fun h : q.dones[i]?=some p => hreturned p (mem_of_getElem? h)
  grind
 obtain ⟨⟩:=h
 constructor <;> grind

lemma Separated.unique_set (h:Separated q) {j:ℕ} {next:DonePlace} (hj:q.dones[j]?=some place)
  (hplace:place≠ .returned) (i i':ℕ) (p p':DonePlace) (hi:(q.dones.set j next)[i]?=some p)
  (hi':(q.dones.set j next)[i']?=some p') (hp:p≠ .returned) (hp':p'≠ .returned) : i=i' := by
 grind[Separated]

lemma place_of_claim {P:Prop} (h:(place=.entered∧P)∨place=.stored) :
  place≠ .sending∧place≠ .returned := by
 rcases h with ⟨rfl,-⟩ | rfl <;> exact ⟨nofun,nofun⟩

lemma Separated.move (h:Separated q) (hcustom:e.kind.custom=false) (hsignals:Signals e.kind stopped q)
  (hwaits:Waits e.kind q) (hmove:Move e stopped entry q act q' entry')
  (hact:act=.done→∀ place∈q.dones,place=.returned) : Separated q' := by
 have hexpired:=hwaits.expired
 have hwaking:=hsignals.waking
 cases hmove with
 | expired | cancelling | waked | doneStored => grind[Request.Stopped]
 | doneStarted => exact h.started (hact rfl)
 | doneLost hj hplace hsent =>
  obtain ⟨hunsent,hunreturned⟩:=place_of_claim hplace
  have hready:q.ready=true:=by
   refine (h.claimed hsent).resolve_right fun hsending=>?_
   obtain ⟨i,hi⟩:=mem_iff_getElem?.mp hsending
   obtain rfl:=h.unique _ _ _ _ hi hj nofun hunreturned
   exact hunsent (Option.some.inj (hj.symm.trans hi))
  exact ⟨h.unique_set hj hunreturned,fun _=>hready,fun _=>.inl hready,fun _=>hsent⟩
 | doneWon hj hplace hsent =>
  have hlt:=(List.getElem?_eq_some_iff.mp hj).1
  refine ⟨h.unique_set hj (place_of_claim hplace).2,fun hmem=>?_,fun _=>.inr (mem_set hlt _),fun _=>rfl⟩
  exact h.returned ((mem_or_eq_of_mem_set hmem).resolve_right nofun)
 | doneSends hj =>
  have hsent:=h.sent (.inr (mem_of_getElem? hj))
  exact ⟨h.unique_set hj nofun,fun _=>rfl,fun _=>.inl rfl,fun _=>hsent⟩
 | _ => exact h.frame rfl rfl rfl

lemma completionReady_of_returned (hkind:kind.unary=false) (hsignals:Signals kind stopped q)
  (hseparated:kind.custom=false→ Separated q) (hreturned:.returned∈q.dones) :
  q.completionReady kind=true := by
 have hstored:=hsignals.stored
 cases kind <;> grind[Request.completionReady,Separated,Kind.custom,Kind.unary]

lemma dones_of_completionReady (hkind:kind.unary=false) (hsignals:Signals kind stopped q)
  (hready:q.completionReady kind=true) : q.dones≠[] := by
 obtain ⟨⟩:=hsignals
 cases kind <;> grind[Request.completionReady,Kind.custom,Kind.unary,Request.Stopped]

lemma Settled.succeeds (h:Settled kind q) (hkind:kind.unary=false) (hphase:q.phase.undecided)
  (hsignals:Signals kind stopped q) (hseparated:kind.custom=false→ Separated q)
  (hreturned:.returned∈q.dones) : Succeeds kind (q.decide kind) := by
 have hready:=completionReady_of_returned hkind hsignals hseparated hreturned
 have hundecided:=h hphase
 constructor <;> grind[Request.decide,Phase.rank,Separated,Kind.custom]

lemma Settled.fails (h:Settled kind q) (hkind:kind.unary=false) (hphase:q.phase.undecided)
  (hsignals:Signals kind stopped q) (hdones:q.dones=[]) : Fails (q.decide kind) := by
 have hready:=dones_of_completionReady hkind hsignals
 have hundecided:=h hphase
 constructor <;> grind[Request.decide,Phase.rank]

lemma Phase.deciding.undecided {phase:Phase} (h:phase.deciding kind) : phase.undecided := by
 rcases h with ⟨rfl,-⟩ | rfl <;> exact ⟨by decide,by decide⟩

end Flags

end ServiceLib.SourceRequest
