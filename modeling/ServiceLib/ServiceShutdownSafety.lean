import ServiceLib.ServiceShutdownGraph
import ServiceLib.Tokens

set_option autoImplicit false
attribute [-instance] instBooleanRingBool

/-!
# When a service gives up what it owns

The graph has drained when the callers and pools go, but nothing waits for it before the entries
go.
-/
namespace ServiceLib.ServiceShutdown
open ServiceLifecycle (Entry Registry)
open Transition List Option

def State.hasDrained (s:State) : Bool :=
 s.gate.drains.any fun drain=>drain.place = .returned true

/-- No task is admitted after a drain that has found the graph at rest. -/
def settled (s:State) : Label → Bool
 | .graph .parallel => !s.hasDrained
 | _ => true

section Moves
variable {service:Service} {s s':State} {l:Label}

lemma Sound.returned_of_cleared (h:Sound service s) (howned:s.owned=false) {entry:Entry}
  (hentry:entry∈service.registry.entries entry.kind) : entry∈s.returned := by
 have hcount:=(h.recorded.cleared howned entry).2
 rw[stopOrder_count,if_pos hentry] at hcount
 exact count_pos_iff.mp (by omega)

lemma Sound.cleared_of_closed (h:Sound service s) (hlast:s.control.last=true) : s.owned=false :=
 (h.staged.of_last hlast).1

lemma upTo_initial (registry:Registry) (phase:Phase) : upTo registry phase <+: stopOrder registry := by
 cases phase with
 | admission => grind[stopOrder,upTo,before]
 | executors => exact ⟨Phase.sinks.entries registry,rfl⟩
 | sinks => exact prefix_rfl

lemma Staged.entries_initial (h:Staged service s) : s.entries <+: stopOrder service.registry := by
 grind[Staged,prefix_append,upTo_initial]

lemma begunFor_le (pending:List PendingStop) (entry:Entry) :
  pending.countP (PendingStop.begunFor entry)≤(pending.map PendingStop.entry).count entry := by
 rw[List.count,countP_map]
 refine countP_mono_left fun p _ hp=>?_
 exact (Bool.and_eq_true_iff.mp hp).2

lemma Sound.called_le (h:Sound service s) (entry:Entry) :
  s.called.count entry≤(stopOrder service.registry).count entry := by
 cases howned:s.owned with
 | false => exact Nat.le_of_eq (h.recorded.cleared howned entry).1
 | true =>
  calc s.called.count entry=s.pending.countP (PendingStop.begunFor entry) := h.recorded.called howned entry
   _≤ s.entries.count entry := begunFor_le s.pending entry
   _≤(stopOrder service.registry).count entry := h.staged.entries_initial.sublist.count_le entry

/-- The graph stays at rest, with its input closed, from the first drain that found it so. -/
def AtRest (s:State) : Prop :=
 s.hasDrained = true → s.gate.isDrained = true ∧ s.gate.inputClosed = true

lemma rest_of_drained {gate gate':GraphGate.State} {g:GraphGate.Label} {drain:GraphGate.Drain}
  (hactive:∀ context,g=.drain context→ gate.activeRuntime=true)
  (hmove:GraphGate.Move service.contexts gate g gate') (hbefore:∀ old∈gate.drains,old.place≠ .returned true)
  (hdrain:drain∈gate'.drains) (hplace:drain.place=.returned true) : gate'.isDrained=true := by
 cases hmove.drainChange with
 | kept heq => exact absurd hplace (hbefore drain (heq▸hdrain))
 | @called context heq =>
  rw[heq,hactive context rfl] at hdrain
  rcases mem_append.mp hdrain with hdrain | hdrain
  · exact absurd hplace (hbefore drain hdrain)
  · rw[mem_singleton.mp hdrain] at hplace
    cases hplace
 | moved hold heq hnext =>
  rw[heq] at hdrain
  rcases mem_or_eq_of_mem_set hdrain with hdrain | rfl
  · exact absurd hplace (hbefore drain hdrain)
  · cases hnext with
    | drained _ _ hdrained => exact hdrained
    | gaveUp => exact GraphGate.Place.returned.inj hplace
    | registered | read | subscribed | skipped | woken | timedOut => cases hplace

lemma AtRest.move (h:AtRest s) (hsound:Sound service s) (hsettled:settled s l=true)
  (hmove:Move service s l s') : AtRest s' := by
 intro hafter
 rcases hmove.gateMove with hgate | ⟨g,hgate,hdrain,hparallel⟩
 · rw[hgate]
   exact h (by rw[State.hasDrained,hgate] at hafter; exact hafter)
 · by_cases hbefore:s.hasDrained=true
   · obtain ⟨hdrained,hclosed⟩:=h hbefore
     have hg:g≠ .parallel:=by
      intro heq
      rw[hparallel heq,settled,hbefore] at hsettled
      cases hsettled
     exact ⟨GraphGate.isDrained_quiet hsound.graph.sound.counted hdrained hclosed hg hgate,hgate.inputClosed hclosed⟩
   · -- this step is the return of the drain
     obtain ⟨drain,hmem,hplace⟩:=any_eq_true.mp hafter
     have hplace:=of_decide_eq_true hplace
     have hactive:∀ context,g=.drain context→ s.gate.activeRuntime=true:=by
      intro context heq
      rw[hsound.flags.active,hdrain context heq]
      rfl
     have hnone:∀ old∈s.gate.drains,old.place≠ .returned true:=
      fun old hold heq=>hbefore (any_eq_true.mpr ⟨old,hold,decide_eq_true heq⟩)
     refine ⟨rest_of_drained hactive hgate hnone hmem hplace,(hsound.move hmove).graph.entered drain hmem ?_⟩
     rw[hplace]
     exact fun heq=>nomatch heq

lemma atRest_exec {ls:List Label} (hsettled:Along (step service) (fun s l=>settled s l=true) {} ls)
  (hrun:exec (step service) {} ls=some s) : AtRest s := by
 have hinitial:Sound service {}∧AtRest {}:=⟨sound_initial service,fun h=>nomatch h⟩
 have hend:Sound service s∧AtRest s:=
  exec_invariant_along (I := fun s=>Sound service s∧AtRest s)
   (fun _ _ _ h hok hstep=>⟨h.1.move (move_of_step hstep),h.2.move h.1 hok (move_of_step hstep)⟩)
   hinitial hsettled hrun
 exact hend.2

def Drops (s s':State) : Prop :=
 s.owned = true ∧ s'.owned = false ∨ s.callersOwned = true ∧ s'.callersOwned = false ∨
  s.poolsOwned = true ∧ s'.poolsOwned = false

lemma Move.drop_cases (hmove:Move service s l s') (hdrops:Drops s s') :
  l=.advance∧s'.gate.isDrained=s.gate.isDrained∧s'.gate.inputs=s.gate.inputs ∧
  s'.gate.tasks=s.gate.tasks ∧
  ((∃ caller i,s.control=.collecting caller i∧s.pending[i]?=none∧s.owned=true∧s'.owned=false) ∨
   s.control=.releasing∧s'.control=.dropping∨s.control=.dropping∧s'.control=.notifying) := by
 cases hmove with
 | @clear caller i hcontrol hi =>
  have howned:s.owned=true:=by
   rcases hdrops with ⟨hbefore,_⟩ | ⟨hbefore,hafter⟩ | ⟨hbefore,hafter⟩
   · exact hbefore
   · cases caller <;> cases hbefore.symm.trans hafter
   · cases caller <;> cases hbefore.symm.trans hafter
  cases caller <;> exact ⟨rfl,rfl,rfl,rfl,.inl ⟨_,i,hcontrol,hi,howned,rfl⟩⟩
 | release hcontrol => exact ⟨rfl,rfl,rfl,rfl,.inr (.inl ⟨hcontrol,rfl⟩)⟩
 | drop hcontrol => exact ⟨rfl,rfl,rfl,rfl,.inr (.inr ⟨hcontrol,rfl⟩)⟩
 | @phaseDone phase => cases phase <;> grind[Drops,State.afterPhase,State.stopPhase,State.drain]
 | _ => grind[Drops,State.reportStop,State.timedOut,State.warn,State.stopPhase,State.defer,State.drain]

lemma Sound.drop_returned (h:Sound service s) (hmove:Move service s l s') (hdrops:Drops s s')
  {entry:Entry} (hentry:entry∈service.registry.entries entry.kind) : entry∈s'.returned := by
 have hnext:=h.move hmove
 obtain ⟨-,-,-,-,hplace⟩:=hmove.drop_cases hdrops
 refine hnext.returned_of_cleared ?_ hentry
 rcases hplace with ⟨_,_,_,_,_,howned⟩ | ⟨_,hcontrol⟩ | ⟨_,hcontrol⟩
 · exact howned
 · exact hnext.cleared_of_closed (by rw[hcontrol]; rfl)
 · exact hnext.cleared_of_closed (by rw[hcontrol]; rfl)

def Label.internal : Label → Prop
 | .advance | .begin _ => True
 | .graph g => g.internal
 | .stop | .ret _ _ => False

def Phase.rest (n:ℕ) : Phase → ℕ
 | .admission => 19 + 8 * n
 | .executors => 17 + 5 * n
 | .sinks => 13 + 2 * n

def Control.rank (n pending:ℕ) : Control → ℕ
 | .running => 0
 | .launching phase rest _ => phase.rest n + 1 + n + 2 * rest.length
 | .awaiting phase i => phase.rest n + (pending - i)
 | .draining .first _ => 15 + 5 * n
 | .settling => 12 + 2 * n
 | .collecting .sinkPhase i => 11 + n + (pending - i)
 | .deciding => 10 + n
 | .draining .second _ => 8 + n
 | .collecting .inline i => 7 + (pending - i)
 | .collecting .deferred i => 7 + (pending - i)
 | .joining _ => 5
 | .closing => 4
 | .releasing => 3
 | .dropping => 2
 | .notifying => 1
 | .finished => 0

def PendingStop.isLaunched (pending:PendingStop) : Bool :=
 !pending.place.hasBegun

def work (service:Service) (s:State) : ℕ :=
 s.control.rank (stopOrder service.registry).length s.pending.length +
  s.pending.countP PendingStop.isLaunched + GraphGate.work s.gate

lemma work_drain (gate:GraphGate.State) (context:ℕ) :
  GraphGate.work (gate.drainExecutionRuntime context)≤GraphGate.work gate+1 := by
 unfold GraphGate.work GraphGate.State.drainExecutionRuntime
 rw[Tokens.total_append,Tokens.total_cons,Tokens.total_nil]
 have hrank:GraphGate.Drain.rank gate ⟨context,if gate.activeRuntime then .entering else .returned true⟩≤1:=by
  cases gate.activeRuntime with
  | false => exact Nat.zero_le 1
  | true => exact Nat.le_refl 1
 change Tokens.total (GraphGate.Drain.rank gate) gate.drains+(GraphGate.Drain.rank gate _+0) +
  gate.sends.length≤Tokens.total (GraphGate.Drain.rank gate) gate.drains+gate.sends.length+1
 omega

lemma Staged.pending_length (h:Staged service s) : s.pending.length≤(stopOrder service.registry).length := by
 have hle:=h.entries_initial.length_le
 unfold State.entries at hle
 rwa[length_map] at hle

lemma entries_length (registry:Registry) (phase:Phase) :
  (phase.entries registry).length≤(stopOrder registry).length := by
 have hle:=(upTo_initial registry phase).length_le
 rw[upTo,length_append] at hle
 omega

lemma reportStop_pending (s:State) (i:ℕ) {pending:PendingStop} (hi:s.pending[i]?=some pending)
  (error:Option String) : (s.reportStop i pending error).pending.length=s.pending.length ∧
   (s.reportStop i pending error).pending.countP PendingStop.isLaunched =
    s.pending.countP PendingStop.isLaunched := by
 grind[PendingStop.isLaunched,State.reportStop,StopPlace.hasBegun,State.warn,Function.update_apply]

lemma work_move (h:Sound service s) (hinternal:l.internal) (hdrained:s.gate.isDrained=true)
  (hmove:Move service s l s') : work service s' < work service s := by
 have hlength:=h.staged.pending_length
 unfold work
 cases hmove with
 | stop => exact hinternal.elim
 | ret => exact hinternal.elim
 | graph hl hgate =>
  have hlt:=GraphGate.work_move hinternal hdrained hgate
  dsimp only
  omega
 | launch => grind[Control.rank,PendingStop.isLaunched]
 | @awaited phase i pending error hcontrol hi =>
  obtain ⟨hsame,hlaunched⟩:=reportStop_pending s i hi error
  grind[Control.rank,reportStop_gate]
 | @timedOut phase i pending hcontrol hi =>
  obtain ⟨hsame,-,hgate⟩:=timedOut_frame s pending.entry
  grind[Control.rank]
 | @phaseDone phase i hcontrol hi =>
  have hnext:=entries_length service.registry .executors
  cases phase <;> grind[work_drain,State.afterPhase,State.stopPhase,State.drain,Control.rank,Phase.rest]
 | drainedFirst => grind[entries_length,State.stopPhase,Control.rank,Phase.rest,State.warn]
 | @collected caller i pending error hcontrol hi =>
  obtain ⟨hsame,hlaunched⟩:=reportStop_pending s i hi error
  cases caller <;> grind[Control.rank,reportStop_gate]
 | @clear caller i hcontrol hi =>
  have hcall:=work_drain s.gate 1
  cases caller <;> grind[State.clear,State.drain,Control.rank]
 | close hcontrol =>
  rw[hcontrol]
  change 3+s.pending.countP _+GraphGate.work s.gate < 4+s.pending.countP _+GraphGate.work s.gate
  omega
 | release hcontrol =>
  rw[hcontrol]
  change 2+s.pending.countP _+GraphGate.work s.gate < 3+s.pending.countP _+GraphGate.work s.gate
  omega
 | @«begin» i entry reported hi =>
  have hset:=countP_set hi ⟨entry,.stopping,reported⟩ PendingStop.isLaunched
  change _+1=_+0 at hset
  dsimp only
  rw[length_set]
  omega
 | launched | settle | drainAgain | deferPending | deferDrain | drainedSecond | joined | drop | notify =>
  grind[work_drain,State.defer,State.drain,Control.rank]

lemma isDrained_internal (hinternal:l.internal) (hdrained:s.gate.isDrained=true)
  (hmove:Move service s l s') : s'.gate.isDrained=true := by
 cases hmove.gateChange with
 | graph hl hgate => exact GraphGate.isDrained_move hinternal hdrained hgate
 | kept hgate | untouched hgate | drain _ _ hgate | close _ hgate | release _ hgate =>
  rw[hgate]
  exact hdrained

/-- The stopping thread can go on unless it waits for a stop that was called and has not returned. -/
lemma finished_of_idle (h:Sound service s) (hdrained:s.gate.isDrained=true)
  (hidle:∀ l,l.internal→ step service s l=none) (hrunning:s.control≠ .running)
  (hstops:∀ pending∈s.pending,pending.place≠ .stopping) : s.control=.finished := by
 have hstuck:advance service s=none:=hidle .advance trivial
 have hgate:∀ g,g.internal→ GraphGate.step service.contexts s.gate g=none:=by
  intro g hg
  have hnone:=hidle (.graph g) hg
  have hl:ofGraph g=true:=by
   cases g with
   | send | advance | callback | timeout => rfl
   | beginInput | finishInput | parallel | post | finishTask | drain | expire | requestStop | closeAdmission
   | releaseRuntime => exact hg.elim
  rw[step,if_pos hl] at hnone
  exact map_eq_none_iff.mp hnone
 have hcall:∀ d,s.control.call=some d→∃ context drained,
  s.gate.drains[d]?=some ⟨context,.returned drained⟩:=by
  intro d hd
  have hlt:=h.drains.known d hd
  obtain ⟨drained,hplace⟩:=GraphGate.returned_of_idle h.graph.sound.pending h.graph.heard hdrained hgate
   (getElem_mem hlt)
  refine ⟨s.gate.drains[d].context,drained,?_⟩
  rw[List.getElem?_eq_getElem hlt,← hplace]
 -- a task whose stop was not called yet can call it
 have hreturned:∀ (i:ℕ) (pending:PendingStop),s.pending[i]?=some pending →
  ∃ error,pending.place=.returned error:=by
  intro i pending hi
  obtain ⟨entry,place,reported⟩:=pending
  cases place with
  | launched =>
   have hnone:=hidle (.begin i) trivial
   simp only[step,hi] at hnone
   cases hnone
  | stopping => exact absurd rfl (hstops _ (mem_of_getElem? hi))
  | returned error => exact ⟨error,rfl⟩
 cases hcontrol:s.control with
 | finished => rfl
 | running => exact absurd hcontrol hrunning
 | draining round d =>
  obtain ⟨context,drained,hd⟩:=hcall d (by rw[hcontrol]; rfl)
  cases drained <;> cases round <;> grind[advance]
 | joining d =>
  obtain ⟨context,drained,hd⟩:=hcall d (by rw[hcontrol]; rfl)
  grind[advance]
 | _ => grind[advance]

lemma started_move (hmove:Move service s l s') (h:s.control≠ .running) : s'.control≠ .running := by
 intro heq
 cases hmove with
 | «begin» | ret | graph => exact h heq
 | @phaseDone phase => cases phase <;> cases heq
 | @clear caller => cases caller <;> cases heq
 | _ => grind[State.stopPhase,State.defer,State.drain]

structure Ending (service:Service) (s:State) : Prop where
 sound : Sound service s
 started : s.control ≠ .running
 drained : s.gate.isDrained = true

lemma Ending.move (h:Ending service s) (hl:l.internal) (hmove:Move service s l s') :
  Ending service s' :=
 ⟨h.sound.move hmove,started_move hmove h.started,isDrained_internal hl h.drained hmove⟩

lemma ending_exec {ls:List Label} (h:Ending service s) (hinternal:∀ l∈ls,l.internal)
  (hrun:exec (step service) s ls=some s') : Ending service s'∧ls.length+work service s'≤work service s := by
 have hinv:∀ s l s',Ending service s→ l.internal→ step service s l=some s'→ Ending service s':=
  fun _ _ _ h hl hstep=>h.move hl (move_of_step hstep)
 refine ⟨exec_invariant_along hinv h (along_of_forall hinternal) hrun,?_⟩
 exact exec_work_along hinv
  (fun _ _ _ h hl hstep=>work_move h.sound hl h.drained (move_of_step hstep)) h
  (along_of_forall hinternal) hrun

end Moves

/-- Whatever a shutdown drops, it drops when every stop has returned; and no accepted
invocation or task is running then if a drain has found the graph at rest before and no
task was admitted after it. Every stop is called at most once and, when the
shutdown-complete event is sent, was called. The event is sent at most once, and it is
sent once the graph has drained and the stops return. -/
theorem deferred_shutdown {service : Service} {s : State} {ls : List Label}
  (hrun : exec (step service) {} ls = some s) :
  (∀ l s', step service s l = some s' → Drops s s' →
   (∀ entry ∈ service.registry.startOrder, entry ∈ s'.returned) ∧
   (s.hasDrained = true → Along (step service) (fun s l => settled s l = true) {} ls →
    s'.gate.inputs.count .active = 0 ∧ s'.gate.tasks.countP GraphGate.Task.unfinished = 0)) ∧
  (∀ entry, s.called.count entry ≤ if entry ∈ service.registry.startOrder then 1 else 0) ∧
  (s.completed = 0 ∨ s.completed = 1 ∧
   ∀ entry, s.called.count entry = if entry ∈ service.registry.startOrder then 1 else 0) ∧
  (s.control ≠ .running → s.gate.inputInvocations = 0 → s.gate.parallelActive = 0 →
   ∀ ls' s', (∀ l ∈ ls', l.internal) → exec (step service) s ls' = some s' →
    ls'.length ≤ work service s ∧
    ((∀ l, l.internal → step service s' l = none) → (∀ pending ∈ s'.pending, pending.place ≠ .stopping) →
     s'.completed = 1)) := by
 have hsound:=sound_exec hrun
 have hidle:∀ {t:State},Sound service t→(t.gate.isDrained=true ↔
  t.gate.inputs.count .active=0∧t.gate.tasks.countP GraphGate.Task.unfinished=0):=by
  intro t ht
  rw[GraphGate.isDrained_iff,ht.graph.sound.counted.inputs,ht.graph.sound.counted.tasks]
 have hcount:∀ entry,(stopOrder service.registry).count entry =
  if entry∈service.registry.startOrder then 1 else 0:=by
  intro entry
  simp only[stopOrder_count,Registry.mem_startOrder]
 refine ⟨fun l s' hstep hdrops=>?_,fun entry=>?_,?_,?_⟩
 · have hmove:=move_of_step hstep
   refine ⟨fun entry hentry=>?_,fun hdrained hsettled=>?_⟩
   · exact hsound.drop_returned hmove hdrops (Registry.mem_startOrder.mp hentry)
   · obtain ⟨-,hgate,-⟩:=hmove.drop_cases hdrops
     refine (hidle (hsound.move hmove)).mp ?_
     rw[hgate]
     exact (atRest_exec hsettled hrun hdrained).1
 · rw[← hcount]
   exact hsound.called_le entry
 · by_cases hfinished:s.control=.finished
   · refine .inr ⟨?_,fun entry=>?_⟩
     · rw[hsound.flags.completed,decide_eq_true hfinished]
       rfl
     · have howned:=hsound.cleared_of_closed (by rw[hfinished]; rfl)
       rw[← hcount]
       exact (hsound.recorded.cleared howned entry).1
   · refine .inl ?_
     rw[hsound.flags.completed,decide_eq_false hfinished]
     rfl
 · intro hstarted hinputs htasks ls' s' hinternal hrun'
   have hending:Ending service s:=⟨hsound,hstarted,GraphGate.isDrained_iff.mpr ⟨hinputs,htasks⟩⟩
   obtain ⟨hend,hlength⟩:=ending_exec hending hinternal hrun'
   refine ⟨by omega,fun hidle hstops=>?_⟩
   rw[hend.sound.flags.completed,finished_of_idle hend.sound hend.drained hidle hend.started hstops]
   rfl

/-- One data sink, and a `stop` that may take as long as it needs. -/
def sinkEntry : Entry := ⟨.dataSink, "datasink:0",1,none⟩

def sinkService : Service where
 registry := Registry.empty.push sinkEntry not_mem_nil
 context := ⟨false,false⟩
 lifetime := false

def toSinkStop : List Label :=
 [.stop,.advance,.advance,.advance,.advance,.graph (.advance 0),.advance,.advance,.advance,.begin 0]

/-- From the return of the sink's stop to the end of the loop of `finishShutdown`. -/
def toClear : List Label :=
 [.ret 0 none,.advance,.advance,.advance,.advance]

/-- A sink that leaves nothing behind: its entry is dropped with the graph at rest. -/
theorem deferred_shutdown_sink : ∃ s s', exec (step sinkService) {} (toSinkStop ++ toClear) = some s ∧
  step sinkService s .advance = some s' ∧ Drops s s' ∧ sinkEntry ∈ s'.returned ∧
  s'.gate.tasks.countP GraphGate.Task.unfinished = 0 := by
 obtain ⟨s,hrun,hfacts⟩ : ∃ s,exec (step sinkService) {} (toSinkStop++toClear)=some s ∧
  ((step sinkService s .advance).isSome,s.owned,((step sinkService s .advance).map State.owned),
   s.hasDrained)=(true,true,some false,true) :=
  map_eq_some_iff.mp (by decide +kernel :
   (exec (step sinkService) {} (toSinkStop++toClear)).map (fun s =>
    ((step sinkService s .advance).isSome,s.owned,((step sinkService s .advance).map State.owned),
     s.hasDrained))=some (true,true,some false,true))
 simp only[Prod.mk.injEq] at hfacts
 obtain ⟨hsome,howned,hafter,hdrained⟩:=hfacts
 obtain ⟨s',hstep⟩:=isSome_iff_exists.mp hsome
 rw[hstep] at hafter
 have hdrops:Drops s s':=.inl ⟨howned,some.inj hafter⟩
 obtain ⟨hreturned,hrest⟩:=(deferred_shutdown hrun).1 .advance s' hstep hdrops
 have halong:Along (step sinkService) (fun s l=>settled s l=true) {} (toSinkStop++toClear):=by
  decide +kernel
 exact ⟨s,s',hrun,hstep,hdrops,hreturned sinkEntry (by decide),(hrest hdrained halong).2⟩

/-- A sink whose stop hands a last value to the graph, as a parallel task that is still running
when the lifecycle drops its entries. -/
theorem entries_dropped_in_running_graph :
  ∃ s s', exec (step sinkService) {}
    (toSinkStop ++ [.graph .parallel, .graph (.post 0 true)] ++ toClear) = some s ∧
   step sinkService s .advance = some s' ∧ s.owned = true ∧ s'.owned = false ∧
   s'.gate.tasks.countP GraphGate.Task.unfinished = 1 := by
 obtain ⟨s,hrun,hfacts⟩ : ∃ s,exec (step sinkService) {}
  (toSinkStop++[.graph .parallel,.graph (.post 0 true)]++toClear)=some s ∧
  (s.owned,(step sinkService s .advance).map fun s' =>
   (s'.owned,s'.gate.tasks.countP GraphGate.Task.unfinished))=(true,some (false,1)) :=
  map_eq_some_iff.mp (by decide +kernel :
   (exec (step sinkService) {} (toSinkStop++[.graph .parallel,.graph (.post 0 true)]++toClear)).map (fun s =>
    (s.owned,(step sinkService s .advance).map fun s' =>
     (s'.owned,s'.gate.tasks.countP GraphGate.Task.unfinished)))=some (true,some (false,1)))
 simp only[Prod.mk.injEq] at hfacts
 obtain ⟨s',hstep,hafter⟩:=map_eq_some_iff.mp hfacts.2
 simp only[Prod.mk.injEq] at hafter
 exact ⟨s,s',hrun,hstep,hfacts.1,hafter.1,hafter.2⟩

end ServiceLib.ServiceShutdown
