import ServiceLib.ClientStreamingSinkReentry
import ServiceLib.SourceEndpointReentry

set_option autoImplicit false

/-!
# Callbacks that reenter their own request or session

A queued end of a request or session keeps out the inner call of a fiber whose outer call keeps
the end waiting.
-/
namespace ServiceLib.CallbackReentry
open Transition CallNesting Option

/-- In every run no fiber waits for a lock that it holds, exactly when no reentrant call asks
for the lock while the retirement of the request, or a response of the session, is queued. -/
theorem reentrant_calls_unblocked_iff (e : SourceRequest.Endpoint) (labels : List SourceRequest.Label)
  (s : SourceRequest.State) (calls : List ClientStreamingSink.Label) (t : ClientStreamingSink.State) :
  (e.kind ≠ .http → exec (SourceRequest.step e) {} labels = some s →
   (Along (SourceRequest.step e) SourceRequest.Unhindered {} labels ↔ ¬∃ r i, s.SelfBlocked r i)) ∧
  (exec ClientStreamingSink.step {} calls = some t →
   (Along ClientStreamingSink.step ClientStreamingSink.Unhindered {} calls ↔ ¬∃ c i, t.SelfBlocked c i)) :=
 ⟨fun hkind hrun=>SourceRequest.along_unhindered_iff hkind hrun,
  fun hrun=>ClientStreamingSink.along_unhindered_iff hrun⟩

def callbackRun : List SourceRequest.Label :=
 [.beginRequest "a" {},.act 0 .run,.act 0 (.register "m" 0),.act 0 (.consumed false),.result "a" none,
  .act 0 (.advance 0),.act 0 (.advance 0),.act 0 (.identify 0 (some "m"))]

/-- `done` is called and the fiber of the request queues to retire it. -/
def retirement : List SourceRequest.Label :=
 [.act 0 .done,.act 0 (.doneStep 0),.act 0 (.doneStep 0),.act 0 (.doneStep 0),.act 0 .run,.act 0 .run,
  .act 0 .run]

def reentry : List SourceRequest.Label :=
 [.result "a" (some (0,0)),.act 0 (.advance 1)]

def messageRun : List ClientStreamingSink.Label :=
 [.consume "a" none,.act 0 (.began 0 false),.act 0 (.started 0 false),.act 0 (.call 0),.act 0 (.call 0),
  .act 0 (.call 0),.act 0 (.call 0),.act 0 (.call 0)]

def queuedResponse : List ClientStreamingSink.Label :=
 [.act 0 .response,.act 0 (.respond 0),.act 0 (.respond 0)]

/-- `consumeMessage` consumes another message for its own stream id. -/
def reconsumption : List ClientStreamingSink.Label :=
 [.consume "a" (some (0,.call 0)),.act 0 (.call 1),.act 0 (.call 1),.act 0 (.call 1),.act 0 (.call 1)]

theorem reentry_unblocked :
  (∃ s, exec (SourceRequest.step ⟨.localSource, true⟩) {} (callbackRun ++ reentry) = some s ∧ s.Reenters 0 1 ∧
   Along (SourceRequest.step ⟨.localSource, true⟩) SourceRequest.Unhindered {} (callbackRun ++ reentry)) ∧
  ∃ s, exec ClientStreamingSink.step {} (messageRun ++ reconsumption) = some s ∧ s.Reenters 0 1 ∧
   Along ClientStreamingSink.step ClientStreamingSink.Unhindered {} (messageRun ++ reconsumption) := by
 constructor
 · have hrun:(exec (SourceRequest.step ⟨.localSource,true⟩) {} (callbackRun++reentry)).map (fun s =>
    (s.next,(s.requests 0).deliveries)) =
    some (1,[⟨none,.calling "m" 0⟩,⟨some (0,0),.checking⟩]) := by decide +kernel
   obtain ⟨s,hrun,hs⟩:=map_eq_some_iff.mp hrun
   simp only[Prod.mk.injEq] at hs
   obtain ⟨hnext,hdeliveries⟩:=hs
   refine ⟨s,hrun,⟨0,.single ?_⟩,((reentrant_calls_unblocked_iff _ _ s [] {}).1 (by decide) hrun).mpr ?_⟩
   · simp[SourceRequest.State.parent,SourceRequest.State.delivery?,hdeliveries]
   · rintro ⟨r,i,⟨delivery,hi,hplace⟩,-⟩
     by_cases hr:r < s.next
     · obtain rfl:r=0:=by omega
       rw[hdeliveries] at hi
       rcases List.mem_pair.mp (List.mem_of_getElem? hi) with rfl | rfl <;> cases hplace
     · rw[(SourceRequest.stacked_exec hrun).fresh r hr] at hi
       cases hi
 · have hrun:(exec ClientStreamingSink.step {} (messageRun++reconsumption)).map (fun s =>
    (s.next,(s.sessions 0).calls)) =
    some (1,[⟨none,.consuming⟩,⟨some (0,.call 0),.checking⟩]) := by decide +kernel
   obtain ⟨s,hrun,hs⟩:=map_eq_some_iff.mp hrun
   simp only[Prod.mk.injEq] at hs
   obtain ⟨hnext,hcalls⟩:=hs
   refine ⟨s,hrun,⟨0,.single ?_⟩,((reentrant_calls_unblocked_iff ⟨.localSource,true⟩ [] {} _ s).2 hrun).mpr ?_⟩
   · simp[ClientStreamingSink.State.parent,hcalls]
   · rintro ⟨c,i,hqueued,-⟩
     by_cases hc:c < s.next
     · obtain rfl:c=0:=by omega
       cases hi:(s.sessions 0).calls[i]? with
       | none => simp[ClientStreamingSink.Session.side,hi] at hqueued
       | some call =>
        rw[ClientStreamingSink.side_call hi] at hqueued
        rw[hcalls] at hi
        rcases List.mem_pair.mp (List.mem_of_getElem? hi) with rfl | rfl <;> cases hqueued
     · rw[(ClientStreamingSink.stacked_exec hrun).fresh c hc] at hqueued
       cases hqueued

/-- With the end queued in between, the inner call waits for ever. -/
theorem reentry_blocked :
  (∃ s, exec (SourceRequest.step ⟨.localSource, true⟩) {} (callbackRun ++ retirement ++ reentry) = some s ∧
   (s.requests 0).phase = .queued ∧ s.SelfBlocked 0 1 ∧
   ∀ rest s', exec (SourceRequest.step ⟨.localSource, true⟩) s rest = some s' → s'.SelfBlocked 0 1) ∧
  ∃ s, exec ClientStreamingSink.step {} (messageRun ++ queuedResponse ++ reconsumption) = some s ∧
   (s.sessions 0).responses = [.queued] ∧ s.SelfBlocked 0 1 ∧
   ∀ rest s', exec ClientStreamingSink.step s rest = some s' → s'.SelfBlocked 0 1 := by
 constructor
 · have hrun:(exec (SourceRequest.step ⟨.localSource,true⟩) {} (callbackRun++retirement++reentry)).map (fun s =>
    ((s.requests 0).phase,(s.requests 0).deliveries)) =
    some (.queued,[⟨none,.calling "m" 0⟩,⟨some (0,0),.queued⟩]) := by decide +kernel
   obtain ⟨s,hrun,hs⟩:=map_eq_some_iff.mp hrun
   simp only[Prod.mk.injEq] at hs
   obtain ⟨hphase,hdeliveries⟩:=hs
   have hblocked:s.SelfBlocked 0 1:=by
    refine ⟨⟨⟨some (0,0),.queued⟩,by rw[hdeliveries]; rfl,rfl⟩,0,.single ?_⟩
    simp[SourceRequest.State.parent,SourceRequest.State.delivery?,hdeliveries]
   exact ⟨s,hrun,hphase,hblocked,fun rest s' hrest =>
    (SourceRequest.stacked_exec hrun).selfBlocked_exec hblocked hrest⟩
 · have hrun:(exec ClientStreamingSink.step {} (messageRun++queuedResponse++reconsumption)).map (fun s =>
    ((s.sessions 0).responses,(s.sessions 0).calls)) =
    some ([.queued],[⟨none,.consuming⟩,⟨some (0,.call 0),.queued⟩]) := by decide +kernel
   obtain ⟨s,hrun,hs⟩:=map_eq_some_iff.mp hrun
   simp only[Prod.mk.injEq] at hs
   obtain ⟨hresponses,hcalls⟩:=hs
   have hblocked:s.SelfBlocked 0 1:=by
    refine ⟨by simp[ClientStreamingSink.Session.side,hcalls,ClientStreamingSink.CallPlace.side],0,.single ?_⟩
    simp[ClientStreamingSink.State.parent,hcalls]
   exact ⟨s,hrun,hresponses,hblocked,fun rest s' hrest =>
    (ClientStreamingSink.stacked_exec hrun).selfBlocked_exec hblocked hrest⟩

end ServiceLib.CallbackReentry
