import ServiceLib.ServiceShutdownSafety

set_option autoImplicit false
attribute [-instance] instBooleanRingBool

/-!
# The order of the stops, and the work of the pools

Pools and storages are stopped in one phase, so a task that a pool still has to run may find a
storage that has already stopped.
-/
namespace ServiceLib.ServiceShutdown
open ServiceLifecycle (Entry Registry ServiceComponentKind)
open Transition List Option

section Phases
variable {service:Service} {s s':State} {l:Label}

/-- How many tasks, from the first, the stopping thread has seen complete. -/
def Control.passed (pending:ℕ) : Control → ℕ
 | .running => 0
 | .launching _ _ first => first
 | .awaiting _ i => i
 | _ => pending

structure Passed (s:State) : Prop where
 endless : s.gate.cancelled 0 = false
 bound : s.control.passed s.pending.length ≤ s.pending.length
 returned : ∀ j < s.control.passed s.pending.length,∀ pending,s.pending[j]? = some pending →
  pending.place.isReturned = true

def Complete (s:State) : Prop :=
 ∀ (j:ℕ) (pending:PendingStop),s.pending[j]? = some pending → pending.place.isReturned = true

lemma Passed.complete (h:Passed s) (hpassed:s.pending.length≤ s.control.passed s.pending.length) :
  Complete s := by
 intro j pending hj
 have hlt:=(List.getElem?_eq_some_iff.mp hj).1
 exact h.returned j (by omega) pending hj

lemma Passed.of_complete {next:State} (hendless:next.gate.cancelled 0=false) (h:Complete next)
  (hpassed:next.control.passed next.pending.length≤next.pending.length) : Passed next :=
 ⟨hendless,hpassed,fun j _ pending hj=>h j pending hj⟩

lemma reportStop_complete {i:ℕ} {pending:PendingStop} {error:Option String} {control:Control}
  (hi:s.pending[i]?=some pending) (h:Complete s) :
  Complete { s.reportStop i pending error with control := control } :=
 fun j _ hj=>reportStop_returned hi (h j) hj

lemma Passed.move (h:Passed s) (hstaged:Staged service s) (hcontext:service.context=⟨false,false⟩)
  (hmove:Move service s l s') : Passed s' := by
 have hendless:s'.gate.cancelled 0=false:=by
  rcases hmove.gateMove with hgate | ⟨g,hgate,_⟩
  · rw[hgate]
    exact h.endless
  · have hzero:service.contexts 0=⟨false,false⟩:=hcontext
    rw[hgate.cancelled_endless hzero]
    exact h.endless
 -- where the thread has seen every task complete, it may go anywhere
 have hdone:∀ {control:Control},s.control=control→(∀ n,control.passed n=n)→ Complete s:=by
  intro control hcontrol hpassed
  refine h.complete ?_
  rw[hcontrol,hpassed]
 obtain ⟨hlasting,hbound,hreturned⟩:=h
 cases hmove with
 | stop hcontrol =>
  have hnil:s.pending=[]:=map_eq_nil_iff.mp (by grind[Staged] : s.entries=[])
  refine .of_complete hendless (fun j pending hj=>?_) (Nat.le_refl _)
  change s.pending[j]?=some pending at hj
  rw[hnil] at hj
  cases hj
 | launch | launched => exact ⟨hendless,by grind[Control.passed],by grind[Control.passed]⟩
 | @awaited phase i pending error hcontrol hi hplace =>
  rw[hcontrol] at hreturned
  refine ⟨hendless,?_,fun j hj found hfound=>reportStop_returned hi (fun other hother=>?_) hfound⟩
  · change i+1≤(s.reportStop i pending error).pending.length
    rw[(reportStop_pending s i hi error).1]
    exact (List.getElem?_eq_some_iff.mp hi).1
  · rcases Nat.lt_succ_iff_lt_or_eq.mp hj with hj | rfl
    · exact hreturned j hj other hother
    · obtain rfl:=some.inj (hi.symm.trans hother)
      rw[hplace]
      rfl
 | timedOut hcontrol hi hplace hcancelled => cases hlasting.symm.trans hcancelled
 | @phaseDone phase i hcontrol hi =>
  have hcomplete:Complete s:=by
   refine Passed.complete ⟨hlasting,hbound,hreturned⟩ ?_
   rw[hcontrol]
   exact List.getElem?_eq_none_iff.mp hi
  cases phase <;> exact .of_complete hendless hcomplete (Nat.le_refl _)
 | @drainedFirst d context drained hcontrol hd =>
  have hcomplete:=hdone hcontrol fun _=>rfl
  refine .of_complete hendless (fun j pending hj=>hcomplete j pending ?_) (Nat.le_refl _)
  cases drained <;> exact hj
 | settle hcontrol =>
  refine .of_complete hendless (hdone hcontrol fun _=>rfl) ?_
  cases hpending:s.hasPendingShutdown <;> exact Nat.le_refl _
 | collected hcontrol hi =>
  exact .of_complete hendless (reportStop_complete hi (hdone hcontrol fun _=>rfl)) (Nat.le_refl _)
 | @clear caller i hcontrol hi =>
  cases caller <;> exact .of_complete hendless (fun j pending hj=>by cases hj) (Nat.le_refl _)
 | deferPending hcontrol | drainAgain hcontrol | drainedSecond hcontrol | deferDrain hcontrol | joined hcontrol
 | close hcontrol | release hcontrol | drop hcontrol | notify hcontrol =>
  exact .of_complete hendless (hdone hcontrol fun _=>rfl) (Nat.le_refl _)
 | «begin» hi | ret hi =>
  refine ⟨hendless,by grind,fun j hj found hfound=>?_⟩
  dsimp only at hj
  rw[length_set] at hj
  exact returned_set hi (fun hnot=>by cases hnot) (hreturned j hj) hfound
 | graph => exact ⟨hendless,hbound,hreturned⟩

lemma before_initial (registry:Registry) (phase:Phase) : before registry phase <+: stopOrder registry :=
 (prefix_append _ _).trans (upTo_initial registry phase)

lemma before_or (registry:Registry) (phase other:Phase) :
  before registry phase <+: before registry other∨upTo registry other <+: before registry phase := by
 grind[Phase,before,upTo]

lemma not_mem_before {registry:Registry} {phase:Phase} {entry:Entry}
  (hentry:entry∈phase.entries registry) : entry∉before registry phase := by
 have hnodup:(upTo registry phase).Nodup:=(stopOrder_nodup registry).sublist (upTo_initial registry phase).sublist
 exact fun hbefore=>(nodup_append.mp hnodup).2.2 entry hbefore entry hentry rfl

lemma Staged.passed_before (h:Staged service s) {phase:Phase} {entry:Entry}
  (hentry:entry∈phase.entries service.registry) (hmem:entry∈s.entries) :
  before service.registry phase <+: s.entries ∧
   (before service.registry phase).length≤ s.control.passed s.pending.length := by
 have hnot:=not_mem_before hentry
 have hinitial:before service.registry phase <+: s.entries:=by
  rcases prefix_or_prefix_of_prefix (before_initial service.registry phase) h.entries_initial with hle | hle
  · exact hle
  · exact absurd (hle.subset hmem) hnot
 refine ⟨hinitial,?_⟩
 have hlength:(before service.registry phase).length≤ s.pending.length:=by
  have hle:=hinitial.length_le
  unfold State.entries at hle
  rwa[length_map] at hle
 have hphase:∀ other,s.entries <+: upTo service.registry other →
  (before service.registry phase).length≤(before service.registry other).length:=by
  intro other hupTo
  rcases before_or service.registry phase other with hle | hle
  · exact hle.length_le
  · exact absurd (hle.subset (hupTo.subset hmem)) hnot
 unfold Staged at h
 cases hcontrol:s.control with
 | running =>
  have hnil:s.entries=[]:=by grind
  rw[hnil] at hmem
  cases hmem
 | launching other rest first =>
  rw[hcontrol] at h
  obtain ⟨-,hentries,rfl⟩:=h.of_launching
  exact hphase other ⟨rest,hentries⟩
 | awaiting other i =>
  rw[hcontrol] at h
  obtain ⟨-,hentries,hi⟩:=h.of_awaiting
  exact (hphase other (hentries▸prefix_rfl)).trans hi
 | draining | settling | collecting | deciding | joining | closing | releasing | dropping | notifying | finished =>
  exact hlength

lemma Sound.mem_entries (h:Sound service s) (howned:s.owned=true) {entry:Entry} (hcalled:entry∈s.called) :
  entry∈s.entries := by
 have hpos:=count_pos_iff.mpr hcalled
 rw[h.recorded.called howned entry] at hpos
 obtain ⟨pending,hpending,hbegun⟩:=countP_pos_iff.mp hpos
 exact mem_map.mpr ⟨pending,hpending,LawfulBEq.eq_of_beq (Bool.and_eq_true_iff.mp hbegun).2⟩

lemma Sound.phase_order (h:Sound service s) (hpassed:Passed s) {phase:Phase} {entry earlier:Entry}
  (hentry:entry∈phase.entries service.registry) (hcalled:entry∈s.called)
  (hearlier:earlier∈before service.registry phase) : earlier∈s.returned := by
 cases howned:s.owned with
 | false =>
  have hmem:=(before_initial service.registry phase).subset hearlier
  exact h.returned_of_cleared howned ((mem_stopOrder service.registry).mp hmem)
 | true =>
  obtain ⟨hinitial,hle⟩:=h.staged.passed_before hentry (h.mem_entries howned hcalled)
  obtain ⟨j,hj⟩:=mem_iff_getElem?.mp hearlier
  have hlt:=(List.getElem?_eq_some_iff.mp hj).1
  have hget:s.entries[j]?=some earlier:=by
   obtain ⟨rest,hrest⟩:=hinitial
   rw[← hrest,List.getElem?_append_left hlt]
   exact hj
  unfold State.entries at hget
  rw[List.getElem?_map] at hget
  obtain ⟨pending,hpending,rfl⟩:=map_eq_some_iff.mp hget
  have hreturned:=hpassed.returned j (Nat.lt_of_lt_of_le hlt hle) pending hpending
  have hpos:0 < s.returned.count pending.entry:=by
   rw[h.recorded.returned howned]
   exact countP_pos_iff.mpr ⟨pending,mem_of_getElem? hpending,
    Bool.and_eq_true_iff.mpr ⟨hreturned,beq_self_eq_true _⟩⟩
  exact count_pos_iff.mp hpos

inductive RecordChange (s s':State) : Label → Prop
 | kept {l:Label} (hl:∀ i,l ≠ .begin i) (hcalled:s'.called = s.called)
   (hreturned:s'.returned = s.returned) : RecordChange s s' l
 | began {i:ℕ} {pending:PendingStop} (hi:s.pending[i]? = some pending)
   (hcalled:s'.called = s.called ++ [pending.entry]) (hreturned:s'.returned = s.returned) :
   RecordChange s s' (.begin i)
 | ended {i:ℕ} {error:Option String} {pending:PendingStop} (hi:s.pending[i]? = some pending)
   (hcalled:s'.called = s.called) (hreturned:s'.returned = s.returned ++ [pending.entry]) :
   RecordChange s s' (.ret i error)

lemma Move.recordChange (hmove:Move service s l s') : RecordChange s s' l := by
 cases hmove with
 | «begin» hi => exact .began hi rfl rfl
 | ret hi => exact .ended hi rfl rfl
 | @phaseDone phase => cases phase <;> exact .kept (fun _ hl=>by cases hl) rfl rfl
 | @clear caller => cases caller <;> exact .kept (fun _ hl=>by cases hl) rfl rfl
 | awaited | collected | timedOut | drainedFirst =>
  exact .kept (fun _ hl=>by cases hl) (by grind[State.reportStop,State.timedOut,State.stopPhase,State.warn])
   (by grind[State.reportStop,State.timedOut,State.stopPhase,State.warn])
 | stop | launch | launched | settle | deferPending | drainAgain | drainedSecond | deferDrain | joined | close
 | release | drop | notify | graph => exact .kept (fun _ hl=>by cases hl) rfl rfl

lemma RecordChange.called_subset (h:RecordChange s s' l) {entry:Entry} (hentry:entry∈s.called) :
  entry∈s'.called := by
 cases h with
 | kept _ hcalled _ | ended _ hcalled _ => exact hcalled▸hentry
 | began _ hcalled _ => exact hcalled▸mem_append_left _ hentry

end Phases

def isPool : ServiceComponentKind → Bool
 | .priorityTaskPool | .taskPool | .delayPool => true
 | _ => false

structure Job where
 pool : Entry
 finished : Bool
 refused : Bool
deriving DecidableEq

/-- `stopped` are the storages whose flag of that name is set. -/
structure Work where
 shutdown : State := {}
 jobs : List Job := []
 stopped : List Entry := []

/-- The stop of a pool returns when the pool has run what it accepted, that of a storage when
it has set its flag. -/
def Work.mayReturn (w:Work) (entry:Entry) : Bool :=
 if isPool entry.kind then w.jobs.all fun job=>job.pool != entry || job.finished
 else if entry.kind = .storage then decide (entry ∈ w.stopped)
 else true

def Work.allows (w:Work) : Label → Bool
 | .ret i _ =>
  match w.shutdown.pending[i]? with
  | some pending => w.mayReturn pending.entry
  | none => true
 | _ => true

inductive WorkLabel where
 | shutdown (l:Label)
 | accept (pool:Entry)
 | joinValue (job:ℕ) (storage:Entry)
 | finish (job:ℕ)
 | setStopped (storage:Entry)
deriving DecidableEq

/-- A pool accepts tasks up to the return of its stop at the latest; a task that has not
finished may call `joinValue` on any storage. -/
def workStep (service:Service) (w:Work) : WorkLabel → Option Work
 | .shutdown l =>
  if w.allows l then (step service w.shutdown l).map fun shutdown=>{ w with shutdown := shutdown } else none
 | .accept pool =>
  if isPool pool.kind ∧ pool ∈ service.registry.startOrder ∧ pool ∉ w.shutdown.returned then
   some { w with jobs := w.jobs ++ [⟨pool,false,false⟩] }
  else none
 | .joinValue job storage =>
  match w.jobs[job]? with
  | some ⟨pool,false,refused⟩ =>
   if storage.kind = .storage ∧ storage ∈ service.registry.startOrder then
    some { w with jobs := w.jobs.set job ⟨pool,false,refused || decide (storage ∈ w.stopped)⟩ }
   else none
  | _ => none
 | .finish job =>
  match w.jobs[job]? with
  | some ⟨pool,false,refused⟩ => some { w with jobs := w.jobs.set job ⟨pool,true,refused⟩ }
  | _ => none
 | .setStopped storage =>
  if storage.kind = .storage ∧ storage ∈ w.shutdown.called ∧ storage ∉ w.shutdown.returned then
   some { w with stopped := storage :: w.stopped }
  else none

def PoolsReturned (service:Service) (s:State) : Prop :=
 ∀ pool ∈ service.registry.startOrder,isPool pool.kind = true → pool ∈ s.returned

/-- No stop of a storage is called before the stops of the pools have returned. -/
def PoolsFirst (service:Service) (s:State) : Prop :=
 ∀ storage ∈ s.called,storage.kind = .storage → PoolsReturned service s

inductive WorkMove (service:Service) (w:Work) : WorkLabel → Work → Prop
 | shutdown {l:Label} {shutdown:State} (hallows:w.allows l = true) (h:Move service w.shutdown l shutdown) :
   WorkMove service w (.shutdown l) { w with shutdown := shutdown }
 | accept {pool:Entry} (hpool:isPool pool.kind = true) (hmem:pool ∈ service.registry.startOrder)
   (hreturned:pool ∉ w.shutdown.returned) :
   WorkMove service w (.accept pool) { w with jobs := w.jobs ++ [⟨pool,false,false⟩] }
 | joinValue {job:ℕ} {storage pool:Entry} {refused:Bool} (hjob:w.jobs[job]? = some ⟨pool,false,refused⟩)
   (hkind:storage.kind = .storage) :
   WorkMove service w (.joinValue job storage)
    { w with jobs := w.jobs.set job ⟨pool,false,refused || decide (storage ∈ w.stopped)⟩ }
 | finish {job:ℕ} {pool:Entry} {refused:Bool} (hjob:w.jobs[job]? = some ⟨pool,false,refused⟩) :
   WorkMove service w (.finish job) { w with jobs := w.jobs.set job ⟨pool,true,refused⟩ }
 | setStopped {storage:Entry} (hkind:storage.kind = .storage) (hcalled:storage ∈ w.shutdown.called) :
   WorkMove service w (.setStopped storage) { w with stopped := storage :: w.stopped }

section Works
variable {service:Service} {w w':Work} {l:WorkLabel}

lemma workMove_of_step (h:workStep service w l=some w') : WorkMove service w l w' := by
 cases l with
 | shutdown l =>
  obtain ⟨hallows,h⟩:=ite_none_right_eq_some.mp h
  obtain ⟨shutdown,hstep,rfl⟩:=map_eq_some_iff.mp h
  exact .shutdown hallows (move_of_step hstep)
 | accept pool | joinValue job storage | finish job | setStopped storage => grind[workStep,WorkMove]

structure Working (service:Service) (w:Work) : Prop where
 sound : Sound service w.shutdown
 passed : Passed w.shutdown
 pool : ∀ job ∈ w.jobs,isPool job.pool.kind = true ∧ job.pool ∈ service.registry.startOrder
 running : ∀ job ∈ w.jobs,job.finished = false → job.pool ∉ w.shutdown.returned
 stopped : ∀ storage ∈ w.stopped,storage.kind = .storage ∧ storage ∈ w.shutdown.called

lemma working_initial (service:Service) : Working service {} where
 sound := sound_initial service
 passed := ⟨rfl,Nat.le_refl _,fun _ hj=>absurd hj (Nat.not_lt_zero _)⟩
 pool _ h := nomatch h
 running _ h := nomatch h
 stopped _ h := nomatch h

lemma Working.move (h:Working service w) (hcontext:service.context=⟨false,false⟩)
  (hmove:WorkMove service w l w') : Working service w' := by
 cases hmove with
 | @shutdown l shutdown hallows hmove =>
  have hchange:=hmove.recordChange
  refine ⟨h.sound.move hmove,h.passed.move h.sound.staged hcontext hmove,h.pool,?_,
   fun storage hstorage=>⟨(h.stopped storage hstorage).1,hchange.called_subset (h.stopped storage hstorage).2⟩⟩
  intro job hjob hfinished
  have hrunning:=h.running job hjob hfinished
  cases hchange with
  | kept _ _ hreturned | began _ _ hreturned => exact hreturned▸hrunning
  | @ended i error pending hi _ hreturned =>
   change job.pool∉shutdown.returned
   rw[hreturned]
   -- the stop of a pool with an unfinished task does not return
   intro hmem
   rcases mem_append.mp hmem with hmem | hmem
   · exact hrunning hmem
   · have hentry:=mem_singleton.mp hmem
     simp only[Work.allows,hi,Work.mayReturn,← hentry,(h.pool job hjob).1,if_true] at hallows
     have hdone:=all_eq_true.mp hallows job hjob
     rw[hfinished,Bool.or_false] at hdone
     exact bne_iff_ne.mp hdone rfl
 | accept | setStopped =>
  obtain ⟨hsound,hpassed,hpool,hrunning,hstopped⟩:=h
  exact ⟨hsound,hpassed,by grind,by grind,by grind⟩
 | joinValue hjob | finish hjob =>
  have hold:=mem_of_getElem? hjob
  have hpool:=h.pool _ hold
  have hrunning:=h.running _ hold
  refine ⟨h.sound,h.passed,fun other hother=>?_,fun other hother=>?_,h.stopped⟩ <;>
   rcases mem_or_eq_of_mem_set hother with hother | rfl
  · exact h.pool other hother
  · exact hpool
  · exact h.running other hother
  · first | exact hrunning | exact fun hfinished=>nomatch hfinished

lemma mem_before_executors {registry:Registry} {entry:Entry} (hentry:entry∈registry.startOrder)
  (hkind:entry.kind=.dataSource∨entry.kind=.component) : entry∈before registry .executors := by
 have hmem:=Registry.mem_startOrder.mp hentry
 change entry∈Phase.admission.entries registry
 simp only[Phase.entries,appendReverse,nil_append,mem_append,mem_reverse]
 rcases hkind with hkind | hkind
 · exact .inl (hkind▸hmem)
 · exact .inr (hkind▸hmem)

lemma mem_executors {registry:Registry} {entry:Entry} (hentry:entry∈registry.startOrder)
  (hkind:isPool entry.kind=true∨entry.kind=.storage) : entry∈Phase.executors.entries registry := by
 have hmem:=Registry.mem_startOrder.mp hentry
 simp only[Phase.entries,appendReverse,nil_append,mem_append,mem_reverse]
 cases h:entry.kind with
 | priorityTaskPool => exact .inl (.inl (.inl (h▸hmem)))
 | taskPool => exact .inl (.inl (.inr (h▸hmem)))
 | delayPool => exact .inl (.inr (h▸hmem))
 | storage => exact .inr (h▸hmem)
 | dataSource | dataSink | component =>
  rw[h] at hkind
  rcases hkind with hkind | hkind <;> cases hkind

lemma mem_sinks {registry:Registry} {entry:Entry} (hentry:entry∈registry.startOrder)
  (hkind:entry.kind=.dataSink) : entry∈Phase.sinks.entries registry := by
 have hmem:=Registry.mem_startOrder.mp hentry
 simp only[Phase.entries,appendReverse,nil_append,mem_reverse]
 exact hkind▸hmem

lemma Sound.called_registered {s:State} (h:Sound service s) {entry:Entry} (hcalled:entry∈s.called) :
  entry∈service.registry.startOrder := by
 have hle:=h.called_le entry
 have hpos:=count_pos_iff.mpr hcalled
 have hmem:entry∈stopOrder service.registry:=count_pos_iff.mp (by omega)
 exact Registry.mem_startOrder.mpr ((mem_stopOrder service.registry).mp hmem)

lemma Working.spared_move (h:Working service w)
  (hnone:∀ entry∈service.registry.startOrder,entry.kind≠ .storage)
  (hspared:∀ job∈w.jobs,job.refused=false) (hmove:WorkMove service w l w') :
  ∀ job∈w'.jobs,job.refused=false := by
 have hstopped:∀ storage,storage∉w.stopped:=by
  intro storage hmem
  obtain ⟨hkind,hcalled⟩:=h.stopped storage hmem
  exact hnone storage (h.sound.called_registered hcalled) hkind
 cases hmove with
 | shutdown | setStopped => exact hspared
 | accept => grind
 | joinValue hjob | finish hjob =>
  have hold:=hspared _ (mem_of_getElem? hjob)
  intro other hother
  rcases mem_or_eq_of_mem_set hother with hother | rfl
  · exact hspared other hother
  · simpa[hstopped] using hold

lemma working_exec {ls:List WorkLabel} (hcontext:service.context=⟨false,false⟩)
  (hrun:exec (workStep service) {} ls=some w) : Working service w :=
 exec_invariant (fun _ _ _ h hstep=>h.move hcontext (workMove_of_step hstep)) (working_initial service) hrun

/-- Without a storage, or without a pool, there is nothing to get into the wrong order. -/
lemma spared_exec {ls:List WorkLabel} (hcontext:service.context=⟨false,false⟩)
  (hnone:(∀ entry∈service.registry.startOrder,entry.kind≠ .storage) ∨
   ∀ entry∈service.registry.startOrder,isPool entry.kind=false)
  (hrun:exec (workStep service) {} ls=some w) :
  PoolsFirst service w.shutdown∧∀ job∈w.jobs,job.refused=false := by
 have hworking:=working_exec hcontext hrun
 rcases hnone with hnone | hnone
 · refine ⟨fun storage hcalled hkind=>absurd hkind (hnone storage (hworking.sound.called_registered hcalled)),?_⟩
   have hend:Working service w∧∀ job∈w.jobs,job.refused=false:=
    exec_invariant (I := fun w=>Working service w∧∀ job∈w.jobs,job.refused=false)
     (fun _ _ _ h hstep=>⟨h.1.move hcontext (workMove_of_step hstep),h.1.spared_move hnone h.2 (workMove_of_step hstep)⟩)
     ⟨working_initial service,fun _ h=>nomatch h⟩ hrun
   exact hend.2
 · refine ⟨fun _ _ _ pool hpool hisPool=>(nomatch (hnone pool hpool).symm.trans hisPool),fun job hjob=>?_⟩
   obtain ⟨hisPool,hpool⟩:=hworking.pool job hjob
   cases (hnone _ hpool).symm.trans hisPool

lemma exec_launch {phase:Phase} {first:ℕ} (entries:List Entry) {w:Work}
  (h:w.shutdown.control=.launching phase entries first) :
  exec (workStep service) w (List.replicate entries.length (.shutdown .advance)) =
   some { w with shutdown := { w.shutdown with
    pending := w.shutdown.pending++entries.map (⟨·,.launched,false⟩),control := .launching phase [] first } } := by
 induction entries generalizing w with
 | nil => simp[exec,← h]
 | cons entry entries ih =>
  have hstep:workStep service w (.shutdown .advance)=some { w with shutdown:={ w.shutdown with
   pending := w.shutdown.pending++[⟨entry,.launched,false⟩],control := .launching phase entries first } }:=by
   simp[workStep,Work.allows,step,advance,h]
  rw[length_cons,replicate_succ,exec,hstep,bind_some,ih rfl]
  simp

lemma exec_begin {w:Work} {i:ℕ} {entry:Entry} (hi:w.shutdown.pending[i]?=some ⟨entry,.launched,false⟩) :
  exec (workStep service) w [.shutdown (.begin i)]=some { w with shutdown := { w.shutdown with
   pending := w.shutdown.pending.set i ⟨entry,.stopping,false⟩,called := w.shutdown.called++[entry] } } := by
 simp[exec,workStep,Work.allows,step,hi]

lemma exists_exec_await {phase:Phase} (n:ℕ) {w:Work} {i:ℕ} (hn:w.shutdown.pending.length=i+n)
  (h:w.shutdown.control=.awaiting phase i)
  (hnew:∀ j≥i,∀ pending,w.shutdown.pending[j]?=some pending →
   ∃ entry,pending=⟨entry,.launched,false⟩∧isPool entry.kind=false∧entry.kind≠ .storage) :
  ∃ ls w',exec (workStep service) w ls=some w'∧w'.shutdown.control=.awaiting phase w'.shutdown.pending.length ∧
   ∀ pool,isPool pool.kind=true→ pool∉w.shutdown.returned→ pool∉w'.shutdown.returned := by
 induction n generalizing w i with
 | zero => exact ⟨[],w,rfl,by rw[h,hn]; rfl,fun _ _ h=>h⟩
 | succ n ih =>
  have hlt:i < w.shutdown.pending.length:=by omega
  have hi:=List.getElem?_eq_getElem hlt
  obtain ⟨entry,heq,hpool,hstorage⟩:=hnew i (Nat.le_refl i) _ hi
  rw[heq] at hi
  have hrun:exec (workStep service) w [.shutdown (.begin i),.shutdown (.ret i none),.shutdown .advance] =
   some { w with shutdown := { w.shutdown with
    pending := w.shutdown.pending.set i ⟨entry,.returned none,true⟩,called := w.shutdown.called++[entry],
    returned := w.shutdown.returned++[entry],control := .awaiting phase (i+1) } }:=by
   simp[exec,workStep,Work.allows,Work.mayReturn,step,advance,State.reportStop,heq,hlt,hpool,hstorage,h]
  obtain ⟨ls,w',hls,hcontrol,hkept⟩:=@ih { w with shutdown := { w.shutdown with
    pending := w.shutdown.pending.set i ⟨entry,.returned none,true⟩,called := w.shutdown.called++[entry],
    returned := w.shutdown.returned++[entry],control := .awaiting phase (i+1) } } (i+1)
   (by simp only[length_set]; omega) rfl (fun j hj pending hget=>hnew j (by omega) pending (by grind))
  refine ⟨_,w',exec_append hrun hls,hcontrol,fun pool hisPool hmem=>hkept pool hisPool ?_⟩
  simp only[mem_append,mem_singleton,not_or]
  refine ⟨hmem,?_⟩
  rintro rfl
  cases hisPool.symm.trans hpool

lemma exists_exec_storage_first {pool storage:Entry} (hcontext:service.context=⟨false,false⟩)
  (hisPool:isPool pool.kind=true) (hstorage:storage∈service.registry.startOrder) (hkind:storage.kind=.storage) :
  ∃ ls w,exec (workStep service) {} ls=some w∧storage∈w.shutdown.called∧pool∉w.shutdown.returned := by
 have hstop:exec (workStep service) {} [.shutdown .stop] =
  some { shutdown := { control := .launching .admission (Phase.admission.entries service.registry) 0 } }:=by
  simp[exec,workStep,Work.allows,step,State.stopPhase,hcontext]
 have hlaunch:=exec_append (exec_append hstop (exec_launch _ rfl))
  (show exec (workStep service) _ [.shutdown .advance]=some { shutdown := {
    pending := (Phase.admission.entries service.registry).map (⟨·,.launched,false⟩),
    control := .awaiting .admission 0 } } by simp[exec,workStep,Work.allows,step,advance])
 obtain ⟨ls,w,hawait,hcontrol,hkept⟩:=@exists_exec_await service .admission _
  { shutdown := { pending := (Phase.admission.entries service.registry).map (⟨·,.launched,false⟩),
                  control := .awaiting .admission 0 } } 0 (Nat.zero_add _).symm rfl fun j _ pending hget=>by
   obtain ⟨entry,hentry,rfl⟩:=mem_map.mp (mem_of_getElem? hget)
   simp only[Phase.entries,appendReverse,nil_append,mem_append,mem_reverse] at hentry
   rcases hentry with hentry | hentry <;> exact ⟨entry,rfl,by rw[service.registry.kind_eq _ _ hentry]; decide⟩
 have hphase:exec (workStep service) w [.shutdown .advance]=some { w with shutdown:={ w.shutdown with
  control := .launching .executors (Phase.executors.entries service.registry) w.shutdown.pending.length } }:=by
  simp[exec,workStep,Work.allows,step,advance,hcontrol,State.afterPhase,State.stopPhase]
 have hexecutors:=exec_append (exec_append (exec_append hlaunch hawait) hphase) (exec_launch _ rfl)
 obtain ⟨i,hi⟩:=mem_iff_getElem?.mp (mem_executors hstorage (.inr hkind))
 have hbegin:=@exec_begin service { w with shutdown:={ w.shutdown with
   pending := w.shutdown.pending++(Phase.executors.entries service.registry).map (⟨·,.launched,false⟩),
   control := .launching .executors [] w.shutdown.pending.length } } (w.shutdown.pending.length+i) storage (by
   rw[List.getElem?_append_right (Nat.le_add_right _ _),Nat.add_sub_cancel_left,List.getElem?_map,hi]
   rfl)
 exact ⟨_,_,exec_append hexecutors hbegin,mem_append_right _ mem_cons_self,hkept pool hisPool not_mem_nil⟩

end Works

/-- With a context that cannot end, the sources and components have stopped when the stop of
a pool is called, and the storages when that of a sink is, in every run. That the pools
have stopped when the stop of a storage is called, and no task of a pool gets
`StoreStoppedError`, holds in every run exactly for a service without storages or
without pools. -/
theorem shutdown_order {service : Service} (hcontext : service.context = ⟨false, false⟩) :
  (∀ ls w, exec (workStep service) {} ls = some w →
   (∀ pool ∈ w.shutdown.called, isPool pool.kind = true → ∀ entry ∈ service.registry.startOrder,
    entry.kind = .dataSource ∨ entry.kind = .component → entry ∈ w.shutdown.returned) ∧
   ∀ sink ∈ w.shutdown.called, sink.kind = .dataSink → ∀ entry ∈ service.registry.startOrder,
    entry.kind = .storage → entry ∈ w.shutdown.returned) ∧
  ((∀ ls w, exec (workStep service) {} ls = some w →
    PoolsFirst service w.shutdown ∧ ∀ job ∈ w.jobs, job.refused = false) ↔
   (∀ entry ∈ service.registry.startOrder, entry.kind ≠ .storage) ∨
    ∀ entry ∈ service.registry.startOrder, isPool entry.kind = false) := by
 refine ⟨fun ls w hrun=>?_,fun horder=>?_,fun hnone ls w hrun=>spared_exec hcontext hnone hrun⟩
 · have h:=working_exec hcontext hrun
   refine ⟨fun pool hcalled hpool entry hentry hkind=>?_,fun sink hcalled hsink entry hentry hkind=>?_⟩
   · have hphase:=mem_executors (h.sound.called_registered hcalled) (.inl hpool)
     exact h.sound.phase_order h.passed hphase hcalled (mem_before_executors hentry hkind)
   · have hphase:=mem_sinks (h.sound.called_registered hcalled) hsink
     have hbefore:entry∈before service.registry .sinks:=
      mem_append_right _ (mem_executors hentry (.inr hkind))
     exact h.sound.phase_order h.passed hphase hcalled hbefore
 · by_contra hboth
   obtain ⟨hstorages,hpools⟩:=not_or.mp hboth
   push Not at hstorages hpools
   obtain ⟨storage,hstorage,hkind⟩:=hstorages
   obtain ⟨pool,hpool,hisPool⟩:=hpools
   rw[Bool.ne_false_iff] at hisPool
   obtain ⟨ls,w,hrun,hcalled,hreturned⟩:=exists_exec_storage_first hcontext hisPool hstorage hkind
   exact hreturned ((horder ls w hrun).1 storage hcalled hkind pool hpool hisPool)

def sourceEntry : Entry := ⟨.dataSource, "datasource:0",3,none⟩

def poolEntry : Entry := ⟨.taskPool, "task_pool:0",1,none⟩

def relayService : Service where
 registry := ((Registry.empty.push sourceEntry not_mem_nil).push poolEntry (by decide)).push sinkEntry (by decide)
 context := ⟨false,false⟩
 lifetime := false

def relayRun : List WorkLabel :=
 [.accept poolEntry,.shutdown .stop,.shutdown .advance,.shutdown .advance,.shutdown (.begin 0),.shutdown (.ret 0 none),
  .shutdown .advance,.shutdown .advance,.shutdown .advance,.shutdown .advance,.shutdown (.begin 1),.finish 0,
  .shutdown (.ret 1 none),.shutdown .advance,.shutdown .advance,.shutdown (.graph (.advance 0)),.shutdown .advance,
  .shutdown .advance,.shutdown .advance,.shutdown (.begin 2)]

theorem shutdown_order_relay : ∃ w, exec (workStep relayService) {} relayRun = some w ∧
  w.shutdown.called = [sourceEntry, poolEntry, sinkEntry] ∧ sourceEntry ∈ w.shutdown.returned ∧
  PoolsFirst relayService w.shutdown ∧ ∀ job ∈ w.jobs, job.refused = false := by
 obtain ⟨w,hrun,hcalled⟩ : ∃ w,exec (workStep relayService) {} relayRun=some w ∧
  w.shutdown.called=[sourceEntry,poolEntry,sinkEntry] :=
  map_eq_some_iff.mp (by decide +kernel :
   (exec (workStep relayService) {} relayRun).map (fun w=>w.shutdown.called)=some [sourceEntry,poolEntry,sinkEntry])
 obtain ⟨hphases,horder⟩:=@shutdown_order relayService rfl
 refine ⟨w,hrun,hcalled,?_,horder.mpr (.inl (by decide)) _ w hrun⟩
 exact (hphases _ w hrun).1 poolEntry (by rw[hcalled]; decide) rfl sourceEntry (by decide) (.inl rfl)

def storageEntry : Entry := ⟨.storage, "storage:0",2,none⟩

def joinService : Service where
 registry := (Registry.empty.push poolEntry not_mem_nil).push storageEntry (by decide)
 context := ⟨false,false⟩
 lifetime := false

/-- A task is accepted, then the stops of the pool and of the storage are launched, and the
thread of the storage's stop runs while the pool still has the task. -/
def storageFirst : List WorkLabel :=
 [.accept poolEntry,.shutdown .stop,.shutdown .advance,.shutdown .advance,.shutdown .advance,
  .shutdown .advance,.shutdown .advance,.shutdown (.begin 0),.shutdown (.begin 1),.setStopped storageEntry,
  .joinValue 0 storageEntry]

theorem accepted_task_refused : ∃ w, exec (workStep joinService) {} storageFirst = some w ∧
  storageEntry ∈ w.shutdown.called ∧ poolEntry ∉ w.shutdown.returned ∧ w.jobs = [⟨poolEntry, false, true⟩] := by
 obtain ⟨w,hrun,hfacts⟩ : ∃ w,exec (workStep joinService) {} storageFirst=some w ∧
  (w.shutdown.called,w.shutdown.returned,w.jobs) =
   ([poolEntry,storageEntry],[],[⟨poolEntry,false,true⟩]) :=
  map_eq_some_iff.mp (by decide +kernel :
   (exec (workStep joinService) {} storageFirst).map (fun w=>(w.shutdown.called,w.shutdown.returned,w.jobs)) =
    some ([poolEntry,storageEntry],[],[⟨poolEntry,false,true⟩]))
 simp only[Prod.mk.injEq] at hfacts
 obtain ⟨hcalled,hreturned,hjobs⟩:=hfacts
 refine ⟨w,hrun,?_,?_,hjobs⟩
 · rw[hcalled]
   decide
 · rw[hreturned]
   exact not_mem_nil

end ServiceLib.ServiceShutdown
