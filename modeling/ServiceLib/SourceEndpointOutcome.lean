import ServiceLib.SourceEndpointRuns
import ServiceLib.SourceRequestOutcome

set_option autoImplicit false
attribute [-instance] instBooleanRingBool

/-!
# Completion against cancellation
-/
namespace ServiceLib.SourceRequest
open SharedMutex Request Transition List

structure Told (e:Endpoint) (stopped:Bool) (r:ℕ) (q:Request) (seen:List Label) : Prop where
 signals : Signals e.kind stopped q
 waits : Waits e.kind q
 unread : q.phase.rank < 2 → ∀ threw,.act r (.consumed threw) ∉ seen
 settled : .act r (.consumed false) ∈ seen → (∀ act : Act,act.failing = true → .act r act ∉ seen) →
  Settled e.kind q

structure Informed (e:Endpoint) (r:ℕ) (s:State) (seen:List Label) : Prop where
 consistent : Consistent e s
 unknown : s.next ≤ r → ∀ act,.act r act ∉ seen
 told : r < s.next → Told e s.stopped r (s.requests r) seen

variable {act:Act} {stopped:Bool} {q q':Request} {entry entry':Entry} {labels:List Label}

section Informed
variable {e:Endpoint} {r:ℕ} {s s':State} {l:Label} {seen:List Label}

lemma stopped_of_step (h:step e s l=some s') (hstopped:s.stopped=true) : s'.stopped=true := by
 cases change_of_step h with
 | stopped => rfl
 | began | ignored | arrived | moved => exact hstopped

lemma mem_snoc (h:.act r act∈seen++[l]) : .act r act∈seen∨l=.act r act :=
 (mem_append.mp h).imp_right fun hl=>(mem_singleton.mp hl).symm

lemma Told.frame {stopped':Bool} (h:Told e stopped r q seen)
  (hl:∀ act,l≠ .act r act) (hstopped:stopped=true→ stopped'=true) (hflags:q'.flags=q.flags)
  (hresponded:q'.responded=q.responded) (hphase:q'.phase=q.phase) (herror:q'.error=q.error)
  (hfailed:q'.resultWaitFailed=q.resultWaitFailed) : Told e stopped' r q' (seen++[l]) := by
 have hsignals:=(h.signals.mono hstopped).frame hflags
 have hunread:=h.unread
 have hsettled:=h.settled
 simp only[Request.flags,Prod.mk.injEq] at hflags
 have hready:q'.resultReady e.kind=q.resultReady e.kind:=by
  simp only[Request.resultReady,hflags,hresponded]
 refine ⟨hsignals,h.waits.of_phase hphase herror hfailed ?_ ?_,?_,?_⟩ <;> grind[Request.cancelled,Settled]

lemma Move.rank_of_consumed {threw:Bool}
  (h:Move e stopped entry q (.consumed threw) q' entry') : q.phase.rank=2 := by
 cases h <;> grind[rank_of_outside,Phase.rank]

lemma Told.moved (hkind:e.kind.unary=false)
  (hresult:e.hasResult=true) (h:Told e stopped r q seen) (hsound:Sound e entry q)
  (hmove:Move e stopped entry q act q' entry') : Told e stopped r q' (seen++[.act r act]) := by
 refine ⟨h.signals.move hsound.fired h.waits.expired hmove,h.waits.move h.signals hsound.gate hmove,?_,?_⟩
 · intro hrank threw hmem
   have hbefore:q.phase.rank < 2:=Nat.lt_of_le_of_lt (hmove.rank_le hsound.gate) hrank
   rcases mem_snoc hmem with hmem | heq
   · exact h.unread hbefore threw hmem
   · obtain ⟨-,rfl⟩:=Label.act.inj heq
     rw[hmove.rank_of_consumed] at hbefore
     exact Nat.lt_irrefl _ hbefore
 · intro hmem hnone
   have hact:act.failing=false:=by
    by_contra hfailing
    exact hnone act (by simpa using hfailing) (by simp)
   have hstart:2≤q.phase.rank∧Settled e.kind q:=by
    rcases mem_snoc hmem with hmem | heq
    · refine ⟨?_,h.settled hmem fun act hact hin=>hnone act hact (mem_append_left _ hin)⟩
      by_contra hrank
      exact h.unread (Nat.lt_of_not_le hrank) false hmem
    · -- the message has just been consumed: the wait is still to come
      obtain ⟨-,rfl⟩:=Label.act.inj heq
      have hrank:=hmove.rank_of_consumed
      refine ⟨Nat.le_of_eq hrank.symm,fun hundecided=>?_⟩
      have hpast:6≤q.phase.rank:=hundecided.1
      omega
   exact hstart.2.move hkind hresult h.signals h.waits hsound.gate hmove hact hstart.1

lemma told_fresh (streamId:String) (context:Context) {phase:Phase}
  (hphase:phase=.inserting∨phase=.consuming) (hseen:∀ act,.act r act∉seen) :
  Told e stopped r { streamId := streamId,context := context,phase := phase } seen := by
 refine ⟨⟨nofun,nofun,nofun,nofun,nofun,nofun⟩,⟨?_,?_,?_⟩,?_,?_⟩ <;> grind

lemma Informed.after (hkind:e.kind.unary=false) (hresult:e.hasResult=true) (h:Informed e r s seen)
  (hstep:step e s l=some s') : Informed e r s' (seen++[l]) := by
 have hconsistent:=h.consistent.after hstep
 by_cases hr:r < s.next
 · have hknown:r < s'.next:=Nat.lt_of_lt_of_le hr (next_le_of_step hstep)
   refine ⟨hconsistent,fun hle=>absurd hle (Nat.not_le.mpr hknown),fun _=>?_⟩
   have hchange:=requestChange_of_step hstep hr
   have hstopped:=stopped_of_step hstep
   generalize hq' : s'.requests r=q' at hchange
   cases hchange with
   | same hl => exact (h.told hr).frame hl hstopped rfl rfl rfl rfl rfl
   | arrived hl => exact (h.told hr).frame (hl▸nofun) hstopped rfl rfl rfl rfl rfl
   | moved hl hmove =>
    subst hl
    have hsame:s'.stopped=s.stopped:=by
     cases change_of_step hstep with
     | moved => rfl
    rw[hsame]
    exact (h.told hr).moved hkind hresult (h.consistent.sound r hr) hmove
 · have hunknown:=h.unknown (Nat.le_of_not_lt hr)
   have hold:∀ act,.act r act∉seen++[l]:=by
    cases change_of_step hstep <;> grind
   refine ⟨hconsistent,fun _=>hold,fun hlt=>?_⟩
   cases change_of_step hstep with
   | began streamId context =>
    obtain rfl:r=s.next:=Nat.le_antisymm (Nat.le_of_lt_succ hlt) (Nat.le_of_not_lt hr)
    rw[requests_beginRequest,if_pos rfl]
    exact told_fresh streamId context (by grind) hold
   | stopped | ignored | arrived | moved => exact absurd hlt hr

lemma informed_exec (hkind:e.kind.unary=false) (hresult:e.hasResult=true) (r:ℕ)
  (hrun:exec (step e) {} labels=some s) : Informed e r s labels := by
 have hinitial:Informed e r {} []:=
  ⟨consistent_initial,fun _ _=>not_mem_nil,fun hr=>absurd hr (Nat.not_lt_zero r)⟩
 exact exec_history (I := Informed e r) (fun _ _ _ _ h hstep=>h.after hkind hresult hstep) hinitial hrun

end Informed

/-- A `done` call of an HTTP or gRPC request starts when those before it have returned. -/
def apart (e:Endpoint) (s:State) : Label → Bool
 | .act r .done => e.kind.custom || (s.requests r).dones.all fun place=>place = .returned
 | _ => true

/-- No two `done` calls of an HTTP or gRPC request overlap in the run. -/
def Apart (e:Endpoint) (labels:List Label) : Prop :=
 Along (step e) (fun s l=>apart e s l = true) {} labels

instance (e:Endpoint) (labels:List Label) : Decidable (Apart e labels) :=
 inferInstanceAs (Decidable (Along (step e) _ {} labels))

variable {s s':State}

lemma separated_exec {e:Endpoint} {r:ℕ} (hkind:e.kind.unary=false)
  (hresult:e.hasResult=true) (hcustom:e.kind.custom=false)
  (hapart:Apart e labels) (hrun:exec (step e) {} labels=some s) (hr:r < s.next) :
  Separated (s.requests r) := by
 have hstep:∀ (s:State) (l:Label) (s':State) (seen:List Label),
  (Informed e r s seen∧(r < s.next→ Separated (s.requests r)))→ apart e s l=true→ step e s l=some s' →
  Informed e r s' (seen++[l])∧(r < s'.next→ Separated (s'.requests r)):=by
  rintro s l s' seen ⟨hinformed,h⟩ hapart hstep
  refine ⟨hinformed.after hkind hresult hstep,fun hlt=>?_⟩
  by_cases hr:r < s.next
  · have htold:=hinformed.told hr
    have hchange:=requestChange_of_step hstep hr
    generalize s'.requests r=q' at hchange
    cases hchange with
    | same | arrived => exact (h hr).frame rfl rfl rfl
    | moved hl hmove =>
     subst hl
     refine (h hr).move hcustom htold.signals htold.waits hmove ?_
     rintro rfl
     simpa[apart,hcustom] using hapart
  · cases change_of_step hstep with
    | began streamId context =>
     obtain rfl:r=s.next:=Nat.le_antisymm (Nat.le_of_lt_succ hlt) (Nat.le_of_not_lt hr)
     have hself:(s.beginRequest e streamId context).requests s.next=_:=Function.update_self ..
     rw[hself]
     exact ⟨nofun,nofun,nofun,nofun⟩
    | stopped | ignored | arrived | moved => exact absurd hlt hr
 have hinitial:Informed e r {} []∧(r < ({} : State).next→ Separated (({} : State).requests r)):=
  ⟨informed_exec hkind hresult r rfl,fun hlt=>absurd hlt (Nat.not_lt_zero r)⟩
 exact (exec_observe_along (fun _ l _=>[l]) hstep hinitial hapart hrun).2 hr

section Retiring
variable {e:Endpoint} {r:ℕ}

lemma Move.decides (hresult:e.hasResult=true)
  (hgate:Gate e q) (h:Move e stopped entry q act q' entry') (hbefore:q.phase.rank < 10)
  (hafter:10≤q'.phase.rank) : act=.run∧q.phase.deciding e.kind∧q'=q.decide e.kind := by
 cases h with
 | decided hphase => exact ⟨rfl,hphase,rfl⟩
 | left hi hplace hkind =>
  have hnext:=(hgate.guarded hkind).phase_left
  rcases hnext _ _ with hnext | ⟨-,hnext⟩
  · rw[hnext] at hafter
    exact absurd hafter (Nat.not_le.mpr hbefore)
  · rw[hnext] at hafter
    exact absurd hafter (by decide)
 | _ => grind[Phase.rank,fail,afterBody,Request.bodyDone,waitFails,place,register]

/-- The run of `labels` to `s` retires the request in the state `s₀` that `before` leads to. -/
structure Retires (e:Endpoint) (r:ℕ) (labels:List Label) (s:State) (before:List Label) (s₀:State) : Prop where
 run : exec (step e) {} before = some s₀
 known : r < s₀.next
 deciding : (s₀.requests r).phase.deciding e.kind
 rest : ∃ after s₁,labels = before ++ .act r .run :: after ∧ step e s₀ (.act r .run) = some s₁ ∧
  s₁.requests r = (s₀.requests r).decide e.kind ∧ exec (step e) s₁ after = some s

lemma Retires.snoc {before:List Label} {s₀:State} {l:Label} (h:Retires e r labels s before s₀)
  (hstep:step e s l=some s') : Retires e r (labels++[l]) s' before s₀ := by
 obtain ⟨after,s₁,hlabels,hdecide,hrequest,hafter⟩:=h.rest
 refine ⟨h.run,h.known,h.deciding,after++[l],s₁,?_,hdecide,hrequest,?_⟩
 · rw[hlabels,append_assoc,cons_append]
 · exact exec_append hafter (exec_singleton.trans hstep)

lemma exists_retires (hresult:e.hasResult=true)
  (hrun:exec (step e) {} labels=some s) (hr:r < s.next) (hrank:10≤(s.requests r).phase.rank) :
  ∃ before s₀,Retires e r labels s before s₀ := by
 have hstep:∀ (s:State) (l:Label) (s':State) (seen:List Label),
  (exec (step e) {} seen=some s ∧
   (r < s.next→10≤(s.requests r).phase.rank→∃ before s₀,Retires e r seen s before s₀)) →
  step e s l=some s'→ exec (step e) {} (seen++[l])=some s' ∧
   (r < s'.next→10≤(s'.requests r).phase.rank→∃ before s₀,Retires e r (seen++[l]) s' before s₀):=by
  rintro s l s' seen ⟨hrun,h⟩ hstep
  refine ⟨exec_append hrun (exec_singleton.trans hstep),fun hlt hrank=>?_⟩
  have hconsistent:=consistent_exec hrun
  by_cases hr:r < s.next
  · by_cases hbefore:10≤(s.requests r).phase.rank
    · obtain ⟨before,s₀,hretires⟩:=h hr hbefore
      exact ⟨before,s₀,hretires.snoc hstep⟩
    · have hchange:=requestChange_of_step hstep hr
      generalize hq' : s'.requests r=q' at hchange hrank
      cases hchange with
      | same | arrived => exact absurd hrank hbefore
      | moved hl hmove =>
       obtain ⟨rfl,hdeciding,rfl⟩:=hmove.decides hresult (hconsistent.sound r hr).gate
        (Nat.lt_of_not_le hbefore) hrank
       subst hl
       exact ⟨seen,s,hrun,hr,hdeciding,[],s',rfl,hstep,hq',rfl⟩
  · cases change_of_step hstep with
    | began streamId context =>
     obtain rfl:r=s.next:=Nat.le_antisymm (Nat.le_of_lt_succ hlt) (Nat.le_of_not_lt hr)
     have hself:(s.beginRequest e streamId context).requests s.next=_:=Function.update_self ..
     rw[hself] at hrank
     dsimp only at hrank
     split at hrank <;> exact absurd hrank (by decide)
    | stopped | ignored | arrived | moved => exact absurd hlt hr
 have hinitial:exec (step e) {} []=some ({} : State)∧(r < ({} : State).next →
  10≤(({} : State).requests r).phase.rank→∃ before s₀,Retires e r [] {} before s₀) :=
  ⟨rfl,fun hlt=>absurd hlt (Nat.not_lt_zero r)⟩
 exact (exec_history hstep hinitial hrun).2 hr hrank

lemma not_consumed_of_rank (hconsistent:Consistent e s) (hr:r < s.next)
  (hrank:3≤(s.requests r).phase.rank) (hrun:exec (step e) s labels=some s') (threw:Bool) :
  .act r (.consumed threw)∉labels := by
 induction labels generalizing s with
 | nil => exact not_mem_nil
 | cons l labels ih =>
  obtain ⟨m,hm,hrest⟩:=exec_cons.mp hrun
  have hchange:=requestChange_of_step hm hr
  generalize hq' : m.requests r=q' at hchange
  have hnext:3≤q'.phase.rank∧l≠ .act r (.consumed threw):=by
   cases hchange with
   | same hl => exact ⟨hrank,hl _⟩
   | arrived hl => exact ⟨hrank,hl▸nofun⟩
   | moved hl hmove =>
    subst hl
    refine ⟨Nat.le_trans hrank (hmove.rank_le (hconsistent.sound r hr).gate),fun heq=>?_⟩
    obtain ⟨-,rfl⟩:=Label.act.inj heq
    rw[hmove.rank_of_consumed] at hrank
    exact absurd hrank (by decide)
  rw[mem_cons,not_or]
  refine ⟨hnext.2.symm,ih (hconsistent.after hm) (Nat.lt_of_lt_of_le hr (next_le_of_step hm)) ?_ hrest⟩
  rw[hq']
  exact hnext.1

end Retiring

section Outcome
variable {e:Endpoint} {r:ℕ}

lemma succeeds_exec (hconsistent:Consistent e s) (hr:r < s.next)
  (h:Succeeds e.kind (s.requests r)) (hrun:exec (step e) s labels=some s') :
  Succeeds e.kind (s'.requests r) :=
 request_exec (fun _ _ h=>⟨h.rank,h.error,h.ready⟩)
  (fun _ _ _ _ _ _ hsound h hmove=>h.move hsound.gate hmove) hconsistent hr h hrun

lemma fails_exec (hconsistent:Consistent e s) (hr:r < s.next)
  (h:Fails (s.requests r)) (hrun:exec (step e) s labels=some s') : Fails (s'.requests r) :=
 request_exec (fun _ _ h=>⟨h.rank,h.error⟩)
  (fun _ _ _ _ _ _ hsound h hmove=>h.move hsound.gate hmove) hconsistent hr h hrun

/-- For every run of an endpoint with results, the unary gRPC endpoint apart, and every
request whose `endRequest` has begun and whose handler and transport did not throw: the
run has retired the request in some state `s₀`. If a `done` call had returned there, and
the `done` calls of an HTTP or gRPC request did not overlap, `endRequest` gets no error;
if no `done` call had started there, it gets one. -/
theorem done_outcome {e : Endpoint} (hresult : e.hasResult = true) (hkind : e.kind.unary = false)
  {labels : List Label} {s : State} (hrun : exec (step e) {} labels = some s) {r : ℕ} (hr : r < s.next)
  (hended : (s.requests r).phase.ended) (hconsumed : .act r (.consumed false) ∈ labels)
  (hfailing : ∀ act : Act, act.failing = true → .act r act ∉ labels) :
  ∃ before s₀, Retires e r labels s before s₀ ∧
   (Apart e labels → .returned ∈ (s₀.requests r).dones → (s.requests r).error = none) ∧
   ((s₀.requests r).dones = [] → (s.requests r).error ≠ none) := by
 obtain ⟨before,s₀,hretires⟩:=exists_retires hresult hrun hr (Nat.le_of_succ_le hended)
 obtain ⟨after,s₁,hlabels,hdecide,hrequest,hafter⟩:=hretires.rest
 have hconsistent:=consistent_exec hretires.run
 have hconsistent₁:=hconsistent.after hdecide
 have hr₁:r < s₁.next:=Nat.lt_of_lt_of_le hretires.known (next_le_of_step hdecide)
 have hrank:3≤(s₁.requests r).phase.rank:=by
  rw[hrequest]
  exact (by decide:3≤Phase.resolved.rank)
 have hbefore:.act r (.consumed false)∈before:=by
  rw[hlabels] at hconsumed
  refine (mem_append.mp hconsumed).resolve_right fun hmem=>?_
  rcases mem_cons.mp hmem with heq | hmem
  · cases heq
  · exact not_consumed_of_rank hconsistent₁ hr₁ hrank hafter false hmem
 have hclean:∀ act : Act,act.failing=true→ .act r act∉before:=fun act hact hmem =>
  hfailing act hact (hlabels▸mem_append_left _ hmem)
 have htold:=(informed_exec hkind hresult r hretires.run).told hretires.known
 have hsettled:=htold.settled hbefore hclean
 have hundecided:=hretires.deciding.undecided
 refine ⟨before,s₀,hretires,fun hapart hreturned=>?_,fun hdones=>?_⟩
 · have hseparated:e.kind.custom=false→ Separated (s₀.requests r):=fun hcustom =>
    separated_exec hkind hresult hcustom (along_append (hlabels▸hapart :)) hretires.run hretires.known
   have hsucceeds:=hsettled.succeeds hkind hundecided htold.signals hseparated hreturned
   rw[← hrequest] at hsucceeds
   exact (succeeds_exec hconsistent₁ hr₁ hsucceeds hafter).error
 · have hfails:=hsettled.fails hkind hundecided htold.signals hdones
   rw[← hrequest] at hfails
   exact (fails_exec hconsistent₁ hr₁ hfails hafter).error

/-- `done` returns, and the context is cancelled before the fiber leaves its wait. -/
def racedRun : List Label :=
 [.beginRequest "a" { stopPossible := true },.act 0 .run,.act 0 (.consumed false),.act 0 .done,
  .act 0 (.doneStep 0),.act 0 (.fire .stopToken),.act 0 (.notify .stopToken),.act 0 .run,.act 0 .run,
  .act 0 (.doneStep 0),.act 0 .run,.act 0 .run,.act 0 .run,.act 0 .run]

theorem racedRun_outcome : ∃ s, exec (step ⟨.http, true⟩) {} racedRun = some s ∧ (s.requests 0).phase = .ending ∧
  ∃ before s₀, Retires ⟨.http, true⟩ 0 racedRun s before s₀ ∧
   (.returned ∈ (s₀.requests 0).dones → (s.requests 0).error = none) := by
 have hrun:(exec (step ⟨.http,true⟩) {} racedRun).map (fun s=>(s.next,(s.requests 0).phase)) =
  some (1,.ending) := by decide +kernel
 obtain ⟨s,hrun,hs⟩:=Option.map_eq_some_iff.mp hrun
 obtain ⟨hnext,hphase⟩:=Prod.mk.inj hs
 have hclean:∀ act : Act,act.failing=true→ .act 0 act∉racedRun:=by
  intro act hact hmem
  simp only[racedRun,mem_cons,Label.act.injEq,true_and,reduceCtorEq,false_or,not_mem_nil,or_false] at hmem
  rcases hmem with rfl | rfl | rfl | rfl | rfl | rfl | rfl | rfl | rfl | rfl | rfl | rfl | rfl <;> cases hact
 obtain ⟨before,s₀,hretires,hreturned,-⟩:=done_outcome rfl rfl hrun (by omega) (by rw[hphase]; decide)
  (by decide) hclean
 exact ⟨s,hrun,hphase,before,s₀,hretires,hreturned (by decide +kernel)⟩

/-- Two `done` calls overlap: the second returns while the first has not sent the event, and
the request is retired in between. -/
def overlapRun : List Label :=
 [.beginRequest "a" { stopPossible := true },.act 0 .run,.act 0 (.consumed false),.act 0 .done,.act 0 .done,
  .act 0 (.doneStep 0),.act 0 (.doneStep 1),.act 0 (.fire .stopToken),.act 0 (.notify .stopToken),.act 0 .run,
  .act 0 .run,.act 0 .run,.act 0 .run]

theorem overlapRun_fails : ∃ s₀ s, exec (step ⟨.http, true⟩) {} overlapRun = some s₀ ∧
  (s₀.requests 0).phase = .popped ∧ (s₀.requests 0).dones = [.sending, .returned] ∧
  exec (step ⟨.http, true⟩) s₀ [.act 0 .run, .act 0 .run] = some s ∧ (s.requests 0).phase = .ending ∧
  (s.requests 0).error = some (cancelledError .http) := by
 have hrun:(exec (step ⟨.http,true⟩) {} overlapRun).bind (fun s₀ =>
  (exec (step ⟨.http,true⟩) s₀ [.act 0 .run,.act 0 .run]).map fun s =>
   ((s₀.requests 0).phase,(s₀.requests 0).dones,(s.requests 0).phase,(s.requests 0).error)) =
  some (.popped,[.sending,.returned],.ending,some (cancelledError .http)) := by decide +kernel
 obtain ⟨s₀,hbefore,hafter⟩:=Option.bind_eq_some_iff.mp hrun
 obtain ⟨s,hafter,hs⟩:=Option.map_eq_some_iff.mp hafter
 simp only[Prod.mk.injEq] at hs
 exact ⟨s₀,s,hbefore,hs.1,hs.2.1,hafter,hs.2.2.1,hs.2.2.2⟩

end Outcome

end ServiceLib.SourceRequest
