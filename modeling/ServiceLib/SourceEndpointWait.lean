import ServiceLib.SourceEndpointRuns

set_option autoImplicit false

/-!
# The end of the wait for a result

The local and the Kafka endpoint do not listen to the external stop tokens of a context, and the
blocking wait of the unary gRPC endpoint listens to nothing.
-/
namespace ServiceLib.SourceRequest
open SharedMutex Request Transition List

def Kind.hears (kind:Kind) : Source → Bool
 | .external _ => kind.async
 | _ => kind.async || kind.custom

lemma mem_subscriptions {kind:Kind} {context:Context} {source:Source} (h:source∈context.sources) :
  source∈subscriptions kind context↔kind.hears source=true := by
 cases kind with
 | http | grpcStreaming => cases source <;> exact iff_of_true h rfl
 | grpcUnary cooperative =>
  cases cooperative with
  | true => cases source <;> exact iff_of_true h rfl
  | false => cases source <;> exact iff_of_false not_mem_nil Bool.false_ne_true
 | localSource | kafka =>
  cases source with
  | stopToken | endpoint => exact iff_of_true (by simp[subscriptions]) rfl
  | external => exact iff_of_false (by simp[subscriptions]) Bool.false_ne_true
  | deadline =>
   refine iff_of_true ?_ rfl
   have hdeadline:context.deadline=true:=by simpa[Context.sources] using h
   simp[subscriptions,hdeadline]

structure Request.Unassisted (kind:Kind) (q:Request) : Prop where
 unready : q.resultReady kind = false
 dones : q.dones = []
 doneSent : q.doneSent = false
 waking : q.waking = false
 signalled : q.signalled = false

def Returns (e:Endpoint) (s:State) (r:ℕ) : Prop :=
 (∀ rest s',(∀ l ∈ rest,l.Internal) → exec (step e) s rest = some s' →
  rest.length ≤ s.work ∧ (Idle e s' → (s'.requests r).phase.past)) ∧
 ∃ rest s',(∀ l ∈ rest,l.Internal) ∧ exec (step e) s rest = some s' ∧ Idle e s'

structure Heard (e:Endpoint) (r:ℕ) (source:Source) (s:State) : Prop where
 consistent : Consistent e s
 known : r < s.next
 rank : 3 ≤ (s.requests r).phase.rank
 fired : source ∈ (s.requests r).fired

section Heard
variable {e:Endpoint} {r:ℕ} {source:Source} {s s':State} {l:Label}

lemma Heard.after (h:Heard e r source s) (hstep:step e s l=some s') : Heard e r source s' := by
 have hconsistent:=h.consistent.after hstep
 have hknown:r < s'.next:=Nat.lt_of_lt_of_le h.known (next_le_of_step hstep)
 have hchange:=requestChange_of_step hstep h.known
 generalize hq' : s'.requests r=q' at hchange
 suffices hnext:3≤q'.phase.rank∧source∈q'.fired by
  rw[← hq'] at hnext
  exact ⟨hconsistent,hknown,hnext.1,hnext.2⟩
 cases hchange with
 | same | arrived => exact ⟨h.rank,h.fired⟩
 | moved _ hmove =>
  have hgate:=(h.consistent.sound r h.known).gate
  exact ⟨Nat.le_trans h.rank (hmove.rank_le hgate),hmove.fired_mono h.fired⟩

lemma Heard.past (h:Heard e r source s) (hhears:e.kind.hears source=true) (hidle:Idle e s) :
  (s.requests r).phase.past := by
 have hsound:=h.consistent.sound r h.known
 have hrank:=h.rank
 cases hidle.standing h.consistent h.known with
 | finished hphase | ending hphase | queued hphase =>
  rw[hphase]
  decide
 | outside hphase =>
  rw[rank_of_outside hphase] at hrank
  omega
 | waiting _ hwait =>
  have hsource:=hsound.fired source h.fired
  exact absurd h.fired (hwait.uncancelled source ((mem_subscriptions hsource).mpr hhears)).1

lemma Heard.returns (h:Heard e r source s) (hhears:e.kind.hears source=true) : Returns e s r := by
 have hwork:∀ (u:State) l u',Heard e r source u→ l.Internal→ step e u l=some u'→ u'.work < u.work:=
  fun u l u' hu hl hstep=>hu.consistent.work_lt hl hstep
 refine ⟨fun rest s' hinternal hrest=>?_,exists_exec_idle (fun u l u' hu hstep=>hu.after hstep) hwork h⟩
 have hlength:=exec_work (fun u l u' hu hstep=>hu.after hstep) hwork h hinternal hrest
 have hlast:=exec_invariant (I:=Heard e r source) (fun u l u' hu hstep=>hu.after hstep) h hrest
 exact ⟨by omega,hlast.past hhears⟩

end Heard

structure Request.Unheard (e:Endpoint) (q:Request) : Prop where
 waiting : q.phase = .waiting
 unassisted : q.Unassisted e.kind
 deaf : ∀ source ∈ q.fired,e.kind.hears source = false

lemma Request.Unheard.move {e:Endpoint} {entry entry':Entry} {q q':Request} {act:Act}
  (h:q.Unheard e) (hsound:Sound e entry q) (hact:act.internal=true)
  (hmove:Move e false entry q act q' entry') : q'.Unheard e := by
 have hphases:=h.waiting
 have hdones:=h.unassisted.dones
 have hquiet:∀ source∈q.fired,source∉subscriptions e.kind q.context:=by
  intro source hfired hsource
  have hhears:=(mem_subscriptions (hsound.fired source hfired)).mp hsource
  rw[h.deaf source hfired] at hhears
  cases hhears
 cases hmove with
 | woke _ hwake =>
  rcases hwake with hready | ⟨-,hsignalled⟩
  · rw[h.unassisted.unready] at hready
    cases hready
  · rw[h.unassisted.signalled] at hsignalled
    cases hsignalled
 | overdue _ hkind _ hdeadline =>
  have hdeaf:=h.deaf .deadline hdeadline
  simp[Kind.hears,hkind] at hdeaf
 | signalled _ hsource hfired | cancelling _ hsource hfired =>
  rcases hfired with hfired | ⟨-,hstopped⟩
  · exact absurd hsource (hquiet _ hfired)
  · cases hstopped
 | waked hwaking =>
  rw[h.unassisted.waking] at hwaking
  cases hwaking
 | doneStored hj | doneLost hj | doneWon hj | doneSends hj =>
  rw[hdones] at hj
  cases hj
 | left hi hplace hkind =>
  refine ⟨?_,⟨h.unassisted.unready,hdones,h.unassisted.doneSent,h.unassisted.waking,h.unassisted.signalled⟩,
   h.deaf⟩
  rcases (hsound.gate.guarded hkind).phase_left _ _ with hphase | ⟨hphase,-⟩
  · exact hphase.trans h.waiting
  · rw[hphases] at hphase
    cases hphase
 | passed | late | counting | entered | blocked | admitted | rejected | uncounting =>
  exact ⟨h.waiting,⟨h.unassisted.unready,hdones,h.unassisted.doneSent,h.unassisted.waking,
   h.unassisted.signalled⟩,h.deaf⟩
 | inserted hphase | duplicate hphase | registered hphase | outrun hphase | expired hphase | joined hphase
 | waitFailed hphase | waited hphase | counted hphase | sealed hphase | enqueued hphase | drained hphase
 | popped hphase | resolvedHttp hphase | resolvedGrpc hphase | resolvedCustom hphase | closed hphase
 | released hphase =>
  rw[hphases] at hphase
  cases hphase
 | decided hphase =>
  rw[hphases] at hphase
  rcases hphase with ⟨hphase,-⟩ | hphase <;> cases hphase
 | failed _ hphase | bodyDone hphase =>
  rw[hphases] at hphase
  cases hphase
 | reading | readMore | readEnd | ended | fired | doneStarted | responded | registers | identified | called =>
  cases hact

structure Stranded (e:Endpoint) (r:ℕ) (s:State) : Prop where
 consistent : Consistent e s
 known : r < s.next
 running : s.stopped = false
 unheard : (s.requests r).Unheard e

section Stranded
variable {e:Endpoint} {r:ℕ} {s s':State} {l:Label}

lemma Stranded.after (h:Stranded e r s) (hl:l.Internal) (hstep:step e s l=some s') : Stranded e r s' := by
 have hconsistent:=h.consistent.after hstep
 have hknown:r < s'.next:=Nat.lt_of_lt_of_le h.known (next_le_of_step hstep)
 have hrunning:s'.stopped=false:=by
  cases change_of_step hstep with
  | moved => exact h.running
  | began | stopped | ignored | arrived => cases hl
 refine ⟨hconsistent,hknown,hrunning,?_⟩
 have hchange:=requestChange_of_step hstep h.known
 generalize s'.requests r=q' at hchange
 cases hchange with
 | same => exact h.unheard
 | arrived heq =>
  subst heq
  cases hl
 | moved heq hmove =>
  subst heq
  rw[h.running] at hmove
  exact h.unheard.move (h.consistent.sound r h.known) hl hmove

lemma Stranded.waiting (h:Stranded e r s) {rest:List Label} (hinternal:∀ l∈rest,l.Internal)
  (hrest:exec (step e) s rest=some s') : (s'.requests r).phase=.waiting := by
 induction rest generalizing s with
 | nil =>
  obtain rfl:=Option.some.inj hrest
  exact h.unheard.waiting
 | cons l rest ih =>
  obtain ⟨m,hm,hrest⟩:=exec_cons.mp hrest
  have hnext:=h.after (hinternal l mem_cons_self) hm
  exact ih hnext (fun l' hl'=>hinternal l' (mem_cons_of_mem l hl')) hrest

lemma Stranded.not_returns (h:Stranded e r s) : ¬Returns e s r := by
 rintro ⟨hall,rest,s',hinternal,hrest,hidle⟩
 have hpast:=(hall rest s' hinternal hrest).2 hidle
 rw[h.waiting hinternal hrest] at hpast
 exact absurd hpast (by decide)

end Stranded

/-- A waiting request comes past its wait by the library's own steps as soon as a source
that the wait listens to has fired; and if nothing else can end the wait, only then. -/
theorem wait_returns_iff {e : Endpoint} {s : State} {labels : List Label}
  (hrun : exec (step e) {} labels = some s) {r : ℕ} (hr : r < s.next)
  (hwaiting : (s.requests r).phase = .waiting) :
  ((∃ source ∈ (s.requests r).fired, e.kind.hears source = true) → Returns e s r) ∧
  (s.stopped = false → (s.requests r).Unassisted e.kind →
   (Returns e s r ↔ ∃ source ∈ (s.requests r).fired, e.kind.hears source = true)) := by
 have hconsistent:=consistent_exec hrun
 have hreturns:(∃ source∈(s.requests r).fired,e.kind.hears source=true)→ Returns e s r:=by
  rintro ⟨source,hfired,hhears⟩
  have hrank:3≤(s.requests r).phase.rank:=by
   rw[hwaiting]
   decide
  exact Heard.returns ⟨hconsistent,hr,hrank,hfired⟩ hhears
 refine ⟨hreturns,fun hrunning hunassisted=>⟨fun hret=>?_,hreturns⟩⟩
 by_contra hnone
 refine Stranded.not_returns ⟨hconsistent,hr,hrunning,hwaiting,hunassisted,fun source hfired=>?_⟩ hret
 by_contra hhears
 exact hnone ⟨source,hfired,by simpa using hhears⟩

/-- A request comes to its wait, and an external stop token of its context fires. -/
def externalRun : List Label :=
 [.beginRequest "a" { externalStopTokens := 1 },.act 0 .run,.act 0 (.consumed false),.act 0 (.fire (.external 0))]

theorem externalRun_returns : ∃ s, exec (step ⟨.http, true⟩) {} externalRun = some s ∧
  (s.requests 0).phase = .waiting ∧ Returns ⟨.http, true⟩ s 0 := by
 have hrun:exec (step ⟨.http,true⟩) {} externalRun=some _:=rfl
 refine ⟨_,hrun,rfl,(wait_returns_iff hrun (Nat.zero_lt_one) rfl).1 ⟨.external 0,?_,rfl⟩⟩
 exact mem_singleton.mpr rfl

theorem externalRun_waits :
  (∃ s, exec (step ⟨.localSource, true⟩) {} externalRun = some s ∧ (s.requests 0).phase = .waiting ∧
   (s.requests 0).cancelled = true ∧ ¬Returns ⟨.localSource, true⟩ s 0) ∧
  ∃ s, exec (step ⟨.kafka, true⟩) {} externalRun = some s ∧ (s.requests 0).phase = .waiting ∧
   (s.requests 0).cancelled = true ∧ ¬Returns ⟨.kafka, true⟩ s 0 := by
 have hdeaf:∀ kind : Kind,kind.async=false→∀ source∈[Source.external 0],kind.hears source=false:=by
  intro kind hasync source hsource
  rw[mem_singleton.mp hsource]
  exact hasync
 constructor
 · have hrun:exec (step ⟨.localSource,true⟩) {} externalRun=some _:=rfl
   exact ⟨_,hrun,rfl,rfl,Stranded.not_returns ⟨consistent_exec hrun,Nat.zero_lt_one,rfl,rfl,
    ⟨rfl,rfl,rfl,rfl,rfl⟩,hdeaf .localSource rfl⟩⟩
 · have hrun:exec (step ⟨.kafka,true⟩) {} externalRun=some _:=rfl
   exact ⟨_,hrun,rfl,rfl,Stranded.not_returns ⟨consistent_exec hrun,Nat.zero_lt_one,rfl,rfl,
    ⟨rfl,rfl,rfl,rfl,rfl⟩,hdeaf .kafka rfl⟩⟩

end ServiceLib.SourceRequest
