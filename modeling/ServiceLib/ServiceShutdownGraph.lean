import ServiceLib.ServiceShutdownRuns

set_option autoImplicit false
attribute [-instance] instBooleanRingBool

/-!
# The graph during a shutdown
-/
namespace ServiceLib.ServiceShutdown
open ServiceLifecycle (Entry Registry)
open Transition List

/-- The call of `drainExecutionRuntime` that the stopping thread is in. -/
def Control.call : Control → Option ℕ
 | .draining _ d | .joining d => some d
 | _ => none

/-- The places after the admission was closed, the runtime released, the pools dropped. -/
def Control.isClosed : Control → Bool
 | .releasing | .dropping | .notifying | .finished => true
 | _ => false

def Control.isReleased : Control → Bool
 | .dropping | .notifying | .finished => true
 | _ => false

def Control.isDropped : Control → Bool
 | .notifying | .finished => true
 | _ => false

section Moves
variable {service:Service} {s s':State} {l:Label}

inductive GateChange (service:Service) (s s':State) : Label → Prop
 | kept {l:Label} (hgate:s'.gate = s.gate) (hcall:s'.control.call = none)
   (hbefore:∀ d,s.control.call = some d → ∃ context drained,s.gate.drains[d]? = some ⟨context,.returned drained⟩) :
   GateChange service s s' l
 | untouched {l:Label} (hgate:s'.gate = s.gate) (hcontrol:s'.control = s.control) : GateChange service s s' l
 | graph {l:GraphGate.Label} (hl:ofGraph l = true) (hgate:GraphGate.Move service.contexts s.gate l s'.gate)
   (hcontrol:s'.control = s.control) : GateChange service s s' (.graph l)
 | drain {l:Label} {context:ℕ} (hbefore:s.control.call = none) (hreleased:s.control.isReleased = false)
   (hgate:s'.gate = s.gate.drainExecutionRuntime context)
   (hcall:s'.control.call = some s.gate.drains.length) : GateChange service s s' l
 | close {l:Label} (hbefore:s.control = .closing) (hgate:s'.gate = { s.gate with parallelAccepting := false })
   (hcontrol:s'.control = .releasing) : GateChange service s s' l
 | release {l:Label} (hbefore:s.control = .releasing) (hgate:s'.gate = { s.gate with activeRuntime := false })
   (hcontrol:s'.control = .dropping) : GateChange service s s' l

/-- Only the call that the stopping thread is in has not returned, and that call exists. -/
structure Using (s:State) : Prop where
 ongoing : ∀ d,GraphGate.Ongoing s.gate d → s.control.call = some d
 known : ∀ d,s.control.call = some d → d < s.gate.drains.length

/-- The runtime is active and the callers are kept until they are released, the pools until
they are dropped, and the event is sent by the last step. -/
structure Flags (s:State) : Prop where
 active : s.gate.activeRuntime = !s.control.isReleased
 accepting : s.control.isClosed = true → s.gate.parallelAccepting = false
 callers : s.callersOwned = !s.control.isReleased
 pools : s.poolsOwned = !s.control.isDropped
 completed : s.completed = (decide (s.control = .finished)).toNat

structure Graph (s:State) : Prop where
 sound : GraphGate.Sound s.gate
 heard : GraphGate.Heard s.gate
 entered : GraphGate.Entered s.gate

structure Sound (service:Service) (s:State) : Prop where
 staged : Staged service s
 recorded : Recorded service s
 collected : Collected s
 drains : Using s
 flags : Flags s
 graph : Graph s

lemma reportStop_gate (s:State) (i:ℕ) (pending:PendingStop) (error:Option String) :
  (s.reportStop i pending error).gate=s.gate := by
 unfold State.reportStop
 split
 · rfl
 · cases error <;> rfl

lemma call_eq_none {control:Control} (h:s.control=control) (hnone:control.call=none) {P:ℕ→ Prop} :
  ∀ d,s.control.call=some d→ P d := by
 intro d hd
 rw[h,hnone] at hd
 cases hd

lemma Move.gateChange (hmove:Move service s l s') : GateChange service s s' l := by
 cases hmove with
 | stop hcontrol | launch hcontrol | launched hcontrol | deferPending hcontrol | drop hcontrol | notify hcontrol =>
  exact .kept rfl rfl (call_eq_none hcontrol rfl)
 | awaited hcontrol | collected hcontrol => exact .kept (reportStop_gate _ _ _ _) rfl (call_eq_none hcontrol rfl)
 | timedOut hcontrol => exact .kept (timedOut_frame _ _).2.2 rfl (call_eq_none hcontrol rfl)
 | @phaseDone phase i hcontrol =>
  cases phase with
  | admission | sinks => exact .kept rfl rfl (call_eq_none hcontrol rfl)
  | executors => exact .drain (by rw[hcontrol]; rfl) (by rw[hcontrol]; rfl) rfl rfl
 | drainedFirst => exact .kept (by grind[State.stopPhase,State.warn]) rfl (by grind[Control.call])
 | settle hcontrol => exact .kept rfl (by grind[Control.call]) (call_eq_none hcontrol rfl)
 | @clear caller i hcontrol =>
  cases caller with
  | sinkPhase => exact .kept rfl rfl (call_eq_none hcontrol rfl)
  | inline | deferred => exact .drain (by rw[hcontrol]; rfl) (by rw[hcontrol]; rfl) rfl rfl
 | drainAgain hcontrol => exact .drain (by rw[hcontrol]; rfl) (by rw[hcontrol]; rfl) rfl rfl
 | drainedSecond | deferDrain | joined => exact .kept rfl rfl (by grind[Control.call])
 | close hcontrol => exact .close hcontrol rfl rfl
 | release hcontrol => exact .release hcontrol rfl rfl
 | «begin» | ret => exact .untouched rfl rfl
 | graph hl hgate => exact .graph hl hgate rfl

lemma ongoing_of_graph {contexts:ℕ→ GraphGate.Context} {gate gate':GraphGate.State} {l:GraphGate.Label}
  (hl:ofGraph l=true) (hmove:GraphGate.Move contexts gate l gate') {d:ℕ}
  (h:GraphGate.Ongoing gate' d) : GraphGate.Ongoing gate d := by
 obtain ⟨drain,hdrain,hongoing⟩:=h
 cases hmove.drainChange with
 | kept heq => exact ⟨drain,heq▸hdrain,hongoing⟩
 | called => cases hl
 | moved hold heq hnext =>
  rw[heq,List.getElem?_set] at hdrain
  split at hdrain
  · next hd => exact hd▸⟨_,hold,hnext.before⟩
  · exact ⟨drain,hdrain,hongoing⟩

lemma drains_length {contexts:ℕ→ GraphGate.Context} {gate gate':GraphGate.State} {l:GraphGate.Label}
  (hmove:GraphGate.Move contexts gate l gate') : gate.drains.length≤gate'.drains.length := by
 cases hmove.drainChange with
 | kept heq => rw[heq]
 | called heq => rw[heq,length_append]; exact Nat.le_add_right _ _
 | moved hold heq hnext => rw[heq,length_set]

lemma Using.move (h:Using s) (hmove:Move service s l s') : Using s' := by
 cases hmove.gateChange with
 | kept hgate hcall hbefore =>
  refine ⟨?_,by grind⟩
  rintro d ⟨drain,hdrain,hongoing⟩
  rw[hgate] at hdrain
  obtain ⟨context,drained,hreturned⟩:=hbefore d (h.ongoing d ⟨drain,hdrain,hongoing⟩)
  obtain rfl:=Option.some.inj (hreturned.symm.trans hdrain)
  cases hongoing
 | untouched hgate hcontrol => exact ⟨by rw[hgate,hcontrol]; exact h.ongoing,by rw[hgate,hcontrol]; exact h.known⟩
 | graph hl hgate hcontrol =>
  exact ⟨fun d hd=>hcontrol▸h.ongoing d (ongoing_of_graph hl hgate hd),
   fun d hd=>Nat.lt_of_lt_of_le (h.known d (hcontrol▸hd)) (drains_length hgate)⟩
 | drain hbefore hreleased hgate hcall =>
  have hdrains:s'.gate.drains.length=s.gate.drains.length+1:=by
   rw[hgate,GraphGate.State.drainExecutionRuntime,length_append]
   rfl
  refine ⟨?_,by grind⟩
  rintro d ⟨drain,hdrain,hongoing⟩
  have hlt:=(List.getElem?_eq_some_iff.mp hdrain).1
  -- an earlier call has returned
  have hle:¬d < s.gate.drains.length:=by
   intro hd
   rw[hgate,GraphGate.State.drainExecutionRuntime,List.getElem?_append_left hd] at hdrain
   cases hbefore.symm.trans (h.ongoing d ⟨drain,hdrain,hongoing⟩)
  rw[hcall]
  congr 1
  omega
 | close hbefore hgate hcontrol | release hbefore hgate hcontrol =>
  refine ⟨fun d hd=>?_,by grind[Control.call]⟩
  rw[hgate] at hd
  have hnone:=h.ongoing d hd
  rw[hbefore] at hnone
  cases hnone

attribute [grind =] Control.isClosed Control.isReleased Control.isDropped

lemma Flags.move (h:Flags s) (hmove:Move service s l s') : Flags s' := by
 obtain ⟨hactive,haccepting,hcallers,hpools,hcompleted⟩:=h
 cases hmove with
 | @graph l gate hl hgate =>
  have hclose:l≠ .closeAdmission:=by
   rintro rfl
   cases hl
  have hrelease:l≠ .releaseRuntime:=by
   rintro rfl
   cases hl
  obtain ⟨hactive',haccepting'⟩:=hgate.runtime hclose hrelease
  exact ⟨hactive'.trans hactive,fun hclosed=>haccepting'.trans (haccepting hclosed),hcallers,hpools,hcompleted⟩
 | @phaseDone phase =>
  cases phase <;> constructor <;>
   grind[State.afterPhase,State.stopPhase,State.drain,GraphGate.State.drainExecutionRuntime]
 | @clear caller =>
  cases caller <;> constructor <;> grind[State.clear,State.drain,GraphGate.State.drainExecutionRuntime]
 | _ =>
  constructor <;>
   grind[State.reportStop,State.timedOut,State.warn,State.stopPhase,State.defer,State.drain,
    GraphGate.State.drainExecutionRuntime]

lemma Move.gateMove (hmove:Move service s l s') : s'.gate=s.gate ∨
  ∃ g,GraphGate.Move service.contexts s.gate g s'.gate ∧
   (∀ context,g=.drain context→ s.control.isReleased=false) ∧ (g=.parallel→ l=.graph .parallel) := by
 cases hmove.gateChange with
 | kept hgate => exact .inl hgate
 | untouched hgate => exact .inl hgate
 | @graph g hl hgate =>
  exact .inr ⟨g,hgate,fun context heq=>(by rw[heq] at hl; cases hl),fun heq=>heq▸rfl⟩
 | @drain _ context hbefore hreleased hgate =>
  refine .inr ⟨.drain context,?_,fun _ _=>hreleased,fun heq=>nomatch heq⟩
  rw[hgate]
  exact .drain
 | close hbefore hgate =>
  refine .inr ⟨.closeAdmission,?_,fun _ heq=>(nomatch heq),fun heq=>nomatch heq⟩
  rw[hgate]
  exact .closeAdmission
 | release hbefore hgate =>
  refine .inr ⟨.releaseRuntime,?_,fun _ heq=>(nomatch heq),fun heq=>nomatch heq⟩
  rw[hgate]
  exact .releaseRuntime

lemma Using.single (h:Using s) : GraphGate.Single s.gate :=
 fun i j hi hj=>Option.some.inj ((h.ongoing i hi).symm.trans (h.ongoing j hj))

lemma Graph.move (h:Graph s) (husing:Using s) (hflags:Flags s) (hmove:Move service s l s') : Graph s' := by
 rcases hmove.gateMove with hgate | ⟨g,hgate,hdrain,-⟩
 · exact ⟨hgate▸h.sound,hgate▸h.heard,hgate▸h.entered⟩
 · refine ⟨h.sound.move hgate,h.heard.move hgate (husing.single.keeps g),h.entered.move hgate fun context heq=>?_⟩
   rw[hflags.active,hdrain context heq]
   rfl

lemma sound_initial (service:Service) : Sound service {} where
 staged := .running
 recorded := ⟨fun _ _=>rfl,fun _ _=>rfl,fun h=>nomatch h⟩
 collected := fun _ _ h=>nomatch h
 drains := ⟨fun _ ⟨_,h,_⟩=>(nomatch h),fun _ h=>nomatch h⟩
 flags := ⟨rfl,fun h=>(nomatch h),rfl,rfl,rfl⟩
 graph := ⟨GraphGate.sound_initial,fun _ h=>absurd h not_mem_nil,fun _ h=>absurd h not_mem_nil⟩

lemma Sound.move (h:Sound service s) (hmove:Move service s l s') : Sound service s' where
 staged := h.staged.move hmove
 recorded := h.recorded.move h.staged h.collected hmove
 collected := h.collected.move hmove
 drains := h.drains.move hmove
 flags := h.flags.move hmove
 graph := h.graph.move h.drains h.flags hmove

lemma sound_exec {ls:List Label} (hrun:exec (step service) {} ls=some s) : Sound service s :=
 exec_invariant (fun _ _ _ h hstep=>h.move (move_of_step hstep)) (sound_initial service) hrun

end Moves

end ServiceLib.ServiceShutdown
