import ServiceLib.QueuedPoolRuns

set_option autoImplicit false

/-!
# A queued pool keeps its executors busy

Between two dispatches the queue, the busy count and the target stay, except that a `start` which
lost the race against `stop` stores its count without one.
-/
namespace ServiceLib.QueuedPool
open State List Tokens Transition Loop Option

def Served (s:State) : Prop :=
 s.started = true → s.queue ≠ [] → s.target ≤ s.busy

lemma served_dispatch (s:State) : Served s.dispatch := by
 have hsame:=sameControl_dispatch s
 have hdispatched:=dispatched_dispatch s
 unfold Served
 rw[hsame.started,hsame.target]
 generalize s.dispatch=s' at hdispatched
 obtain ⟨hqueue,hrest⟩:=hdispatched
 rw[checkDrain_queue,checkDrain_busy]
 exact hrest

lemma dispatch_of_full {s:State} (h:s.target≤ s.busy) : s.dispatch=s.armDeadline.checkDrain := by
 have hfull:s.canDispatch=false:=by
  have : ¬ s.busy < s.target:=by omega
  simp[canDispatch,this]
 rw[State.dispatch,loop_of_exit hfull]

lemma armDeadline_eq (s:State) : ∃ armedAt generation waits,s.armDeadline={ s with
  armedAt := armedAt
  deadlineGeneration := generation
  deadlineWaits := waits } := by
 unfold armDeadline
 split
 · exact ⟨_,_,_,rfl⟩
 · exact ⟨_,_,_,rfl⟩

lemma dispatch_bounded (s:State) : s.dispatch.spawned=s.spawned∨s.dispatch.busy≤ s.target := by
 have hloop:let u:=loop canDispatch dispatchFront s.queue.length s
  u.target=s.target∧(u.spawned=s.spawned∨u.busy≤ s.target):=by
  refine loop_invariant (I := fun u : State=>u.target=s.target∧(u.spawned=s.spawned∨u.busy≤ s.target))
   (fun u hu hg=>?_) _ ⟨rfl,.inl rfl⟩
  have hroom:u.busy < u.target:=by
   simp only[canDispatch,Bool.and_eq_true,decide_eq_true_eq] at hg
   exact hg.1.2
  unfold dispatchFront
  split
  · exact hu
  next node rest _ =>
  obtain ⟨tasks,deadlines,heq⟩:=removeDeadline_eq ({ u with
   queue := rest
   busy := u.busy+1
   spawned := u.spawned++[node.task] }.setTask node.task
   { u.tasks node.task with position := none }) node.task
  rw[heq]
  refine ⟨hu.1,.inr ?_⟩
  have:=hu.1
  change u.busy+1≤ s.target
  omega
 unfold State.dispatch
 generalize loop canDispatch dispatchFront s.queue.length s=u at hloop
 obtain ⟨armedAt,generation,waits,harm⟩:=armDeadline_eq u
 obtain ⟨completed,drained,hcheck⟩:=checkDrain_eq u.armDeadline
 rw[hcheck,harm]
 exact hloop.2

lemma bounded_of_move {byPriority:Bool} {s s':State} {l:Label} (h:Move byPriority s l s') :
  s'.spawned.length≤ s.spawned.length∨s'.busy≤ s'.target := by
 have hdispatch:∀ core : State,core.spawned=s.spawned →
  core.dispatch.spawned.length≤ s.spawned.length∨core.dispatch.busy≤core.dispatch.target:=by
  intro core hcore
  rw[(sameControl_dispatch core).target,← hcore]
  exact (dispatch_bounded core).imp_left fun heq=>(congrArg List.length heq).le
 have hrearranged:∀ {u core:State},Rearranged byPriority u core→ u.spawned=s.spawned →
  core.spawned=s.spawned:=by
  intro u core hu heq
  cases hu
  exact heq
 cases h with
 | @inserted core t moment hh hcore =>
  refine hdispatch _ (hrearranged hcore ?_)
  obtain ⟨queue,tasks,sequence,heq⟩:=
   enqueue_eq byPriority { s with posted := s.posted.erase (.insert t) } t
  rw[heq]
 | promoted moment hh hcore => exact hdispatch _ (hrearranged hcore rfl)
 | expired wait now hcore => exact hdispatch _ (hrearranged hcore rfl)
 | started | stopped | completed | resized => exact hdispatch _ rfl
 | checked moment hh =>
  obtain ⟨completed,drained,heq⟩:=checkDrain_eq { s with posted := s.posted.erase .checkDrain }
  rw[heq]
  exact .inl (Nat.le_refl _)
 | invoked => exact .inl erase_sublist.length_le
 | _ => exact .inl (Nat.le_refl _)

def dispatches (s:State) : Label → Bool
 | .strand (.start _) _ => !s.stopping
 | .strand .stop _ | .strand (.insert _) _ | .strand .complete _ => true
 | .strand (.promote t) _ => (s.tasks t).position.isSome
 | .managerTimer error _ => !error && s.managerActive && !s.stopping
 | .deadlineTimer wait error _ => !error && wait.1 == s.deadlineGeneration
 | _ => false

section Step
variable {byPriority:Bool} {hardware:ℕ} {s s':State} {l:Label}

lemma served_of_dispatches (hstep:step byPriority hardware s l=some s')
  (h:dispatches s l=true) : Served s' := by
 cases l with
 | strand handler moment =>
  simp only[step] at hstep
  split at hstep
  · obtain rfl:=some.inj hstep
    cases handler with
    | start context =>
     have hs:s.stopping=false:=by simpa[dispatches] using h
     simp only[handle,hs,Bool.false_eq_true,if_false]
     split
     · exact served_dispatch _
     · exact served_dispatch _
    | stop | insert | complete => exact served_dispatch _
    | promote t =>
     simp only[dispatches] at h
     simp only[handle,h,if_true]
     exact served_dispatch _
    | checkDrain | stopManager => cases h
  · cases hstep
 | managerTimer error config =>
  simp only[dispatches,Bool.and_eq_true,Bool.not_eq_true'] at h
  simp only[step,h,Bool.false_eq_true,false_or,or_false] at hstep
  split at hstep
  · cases hstep
  · obtain rfl:=some.inj hstep
    exact served_dispatch _
 | deadlineTimer wait error now =>
  simp only[dispatches,Bool.and_eq_true,Bool.not_eq_true',beq_iff_eq] at h
  simp only[step,h,Bool.false_eq_true,false_or,ne_eq,not_true,if_false] at hstep
  split at hstep
  · obtain rfl:=some.inj hstep
    exact served_dispatch _
  · cases hstep
 | _ => cases h

lemma served_of_move (hs:Served s) (hmove:Move byPriority s l s')
  (hl:∀ executors context,l≠ .advance (.store executors context)) : Served s' := by
 cases hmove with
 | stored => exact absurd rfl (hl _ _)
 | started | stopped | inserted | promoted | completed | resized | expired => exact served_dispatch _
 | checked moment hh =>
  obtain ⟨completed,drained,heq⟩:=checkDrain_eq { s with posted := s.posted.erase .checkDrain }
  rw[heq]
  exact hs
 | _ => exact hs

end Step

structure Single (s:State) : Prop where
 fresh : ¬ Started s.activity → s.weigh pendingStart = 0
 one : s.weigh pendingStart ≤ 1
 started : s.started = true → s.stopping = true ∨ Started s.activity ∧ s.weigh pendingStart = 0

section Single
variable {byPriority:Bool} {hardware:ℕ} {s s':State} {l:Label} {seen:List Label}

lemma start_new {config:Option ℤ} {context:Context}
  (hstep:step byPriority hardware s (.start config context)=some s') :
  s'=s∨¬ Started s.activity := by
 obtain rfl:=some.inj hstep
 by_cases hs:Started s.activity
 · left
   unfold State.start
   cases s.configuredExecutors hardware config with
   | error e => rfl
   | ok executors =>
    change unlessThrown s (if s.activity &&& kClosed≠0 then _ else _)=s
    rw[if_pos (c := s.activity &&& kStarted≠0) hs]
    split
    · rfl
    · rfl
 · exact .inr hs

lemma Change.pendingStart_eq {taken given:List Token} {next:ℕ} (h:Change s l taken given next)
  (hstart:∀ config context,l≠ .start config context)
  (hl:∀ context moment,l≠ .strand (.start context) moment) :
  total pendingStart taken=total pendingStart given := by
 cases h with
 | handled handler moment _ =>
  cases handler with
  | start context => exact absurd rfl (hl context moment)
  | _ => rfl
 | opened config context => exact absurd rfl (hstart config context)
 | _ => rfl

lemma Single.still (h:Single s) (hflow:Flow s l s')
  (hstart:∀ config context,l≠ .start config context)
  (hl:∀ context moment,l≠ .strand (.start context) moment)
  (hactivity:Started s'.activity↔Started s.activity)
  (hstarted:s'.started=true→ s'.stopping=true∨s.started=true∧s'.stopping=s.stopping) :
  Single s' := by
 obtain ⟨taken,given,next,change,-,heq⟩:=hflow.trade pendingStart fun _=>rfl
 have hweigh:s'.weigh pendingStart=s.weigh pendingStart:=by
  have:=change.pendingStart_eq hstart hl
  omega
 refine ⟨?_,?_,fun hs=>?_⟩
 · rw[hactivity,hweigh]
   exact h.fresh
 · rw[hweigh]
   exact h.one
 · rcases hstarted hs with hstop | ⟨hs,hstop⟩
   · exact .inl hstop
   · rw[hactivity,hweigh,hstop]
     exact h.started hs

lemma Single.dispatched {core:State} (h:Single s) (hflow:Flow s l core.dispatch)
  (hstart:∀ config context,l≠ .start config context)
  (hl:∀ context moment,l≠ .strand (.start context) moment)
  (hactivity:Started core.activity↔Started s.activity)
  (hstarted:core.started=true→ core.stopping=true∨s.started=true∧core.stopping=s.stopping) :
  Single core.dispatch := by
 have hsame:=sameControl_dispatch core
 refine h.still hflow hstart hl ?_ ?_
 · rw[hsame.activity]
   exact hactivity
 · rw[hsame.started,hsame.stopping]
   exact hstarted

lemma Single.handled {core:State} {context:Context} (h:Single s) (hh:.start context∈s.posted)
  (hcore:SameTokens { s with posted := s.posted.erase (.start context) } core)
  (hactivity:core.activity=s.activity) : Single core.dispatch := by
 have hsame:=sameControl_dispatch core
 have hunpost:=weigh_unpost (w:=pendingStart) hh
 simp only[pendingStart] at hunpost
 have hzero:core.dispatch.weigh pendingStart=0:=by
  rw[weigh_dispatch_eq pendingStart fun _=>rfl,hcore.weigh]
  have:=h.one
  omega
 have hstarted:Started core.dispatch.activity:=by
  rw[hsame.activity,hactivity]
  by_contra hnew
  have:=h.fresh hnew
  omega
 exact ⟨fun _=>hzero,hzero.le.trans (Nat.zero_le 1),fun _=>.inr ⟨hstarted,hzero⟩⟩

lemma Single.not_started (h:Single s) (hready:Ready s) (hopen:¬ Closed s.activity)
  (hnew:¬ Started s.activity) : s.started=false := by
 by_contra hs
 rcases h.started (by simpa using hs) with hstop | hstarted
 · rw[hready.not_stopping hopen] at hstop
   cases hstop
 · exact hnew hstarted.1

lemma single_step (htracked:Tracked byPriority s seen) (h:Single s)
  (hstep:step byPriority hardware s l=some s') : Single s' := by
 have hflow:=htracked.flow hstep
 have hmove:=move_of_step hstep
 cases hmove with
 | unchanged => exact h
 | entered | refused | accepted | rechecked | cancelled | stored | launched | stopPosted | stopReturned
  | promotedLate | managerStopped | invoked | finished =>
  exact h.still hflow (by simp) (by simp) .rfl fun hs=>.inr ⟨hs,rfl⟩
 | waited hl =>
  refine h.still hflow ?_ ?_ .rfl fun hs=>.inr ⟨hs,rfl⟩
  · rintro config context rfl
    exact hl
  · rintro context moment rfl
    exact hl
 | released hl =>
  refine h.still hflow ?_ ?_ .rfl fun hs=>.inr ⟨hs,rfl⟩
  · rintro config context rfl
    exact hl
  · rintro context moment rfl
    exact hl
 | reserved ht hopen hroom =>
  exact h.still hflow (by simp) (by simp) (started_reserve hroom) fun hs=>.inr ⟨hs,rfl⟩
 | failed ht =>
  exact h.still hflow (by simp) (by simp) (started_release (htracked.accounts.count_ne_zero_of_admitted ht))
   fun hs=>.inr ⟨hs,rfl⟩
 | closed | joined =>
  exact h.still hflow (by simp) (by simp) (started_close _) fun hs=>.inr ⟨hs,rfl⟩
 | @opened executors config context hpos hopen =>
  rcases start_new hstep with heq | hnew
  · rw[heq]
    exact h
  have hweigh:=(trade_start s executors context).weigh pendingStart
  simp only[total_cons,total_nil,pendingStart,h.fresh hnew] at hweigh
  have hstarted:=h.not_started htracked.steady.toReady hopen hnew
  refine ⟨fun hs=>absurd (started_start _) hs,hweigh.le,fun hs=>?_⟩
  rw[hstarted] at hs
  cases hs
 | startedLate moment hh hstopping =>
  have hweigh:=weigh_unpost (w:=pendingStart) hh
  simp only[pendingStart] at hweigh
  have hone:=h.one
  refine ⟨fun hs=>?_,by omega,fun _=>.inl hstopping⟩
  have:=h.fresh hs
  omega
 | started moment hh =>
  exact h.handled hh ⟨rfl,rfl,rfl,rfl,rfl,rfl,rfl,rfl,rfl,rfl⟩ rfl
 | stopped => exact h.dispatched hflow (by simp) (by simp) .rfl fun _=>.inl rfl
 | @inserted core t moment hh hcore =>
  obtain ⟨queue,tasks,sequence,heq⟩:=
   enqueue_eq byPriority { s with posted := s.posted.erase (.insert t) } t
  rw[heq] at hcore
  cases hcore
  exact h.dispatched hflow (by simp) (by simp) .rfl fun hs=>.inr ⟨hs,rfl⟩
 | promoted moment hh hcore =>
  cases hcore
  exact h.dispatched hflow (by simp) (by simp) .rfl fun hs=>.inr ⟨hs,rfl⟩
 | expired wait now hcore =>
  cases hcore
  exact h.dispatched hflow (by simp) (by simp) .rfl fun hs=>.inr ⟨hs,rfl⟩
 | completed moment hh =>
  exact h.dispatched hflow (by simp) (by simp)
   (started_release (htracked.accounts.count_ne_zero_of_complete hh)) fun hs=>.inr ⟨hs,rfl⟩
 | checked moment hh =>
  have hsame:=sameControl_checkDrain { s with posted:=s.posted.erase .checkDrain }
  refine h.still hflow (by simp) (by simp) ?_ ?_
  · rw[hsame.activity]
  · rw[hsame.started,hsame.stopping]
    exact fun hs=>.inr ⟨hs,rfl⟩
 | @resized target waits config htarget =>
  have hsame:=sameControl_dispatch { s with managerWaits:=waits,target := target }
  refine h.still hflow (by simp) (by simp) ?_ ?_
  · change Started (State.dispatch _).activity↔_
    rw[hsame.activity]
  · change (State.dispatch _).started=true→(State.dispatch _).stopping=true∨_
    rw[hsame.started]
    exact fun hs=>.inr ⟨hs,hsame.stopping⟩

end Single

/-- The last dispatch was before a `start` stored its count into a pool that was already
stopping. -/
def StoredLate (byPriority:Bool) (hardware:ℕ) (init:State) (labels:List Label) : Prop :=
 ∃ before executors context after u u',
  labels = before ++ .advance (.store executors context) :: after ∧
  exec (step byPriority hardware) init before = some u ∧ u.stopping = true ∧
  step byPriority hardware u (.advance (.store executors context)) = some u' ∧
  Along (step byPriority hardware) (fun v l=>dispatches v l = false) u' after

section Runs
variable {byPriority:Bool} {hardware:ℕ} {init s s':State} {l:Label} {seen:List Label}

lemma single_initial (target:ℕ) (fallback:ℤ) :
  Single { target := target,fallbackExecutors := fallback } := by
 have hweigh:State.weigh pendingStart { target:=target,fallbackExecutors := fallback }=0:=by
  rw[weigh_eq]
  simp
 refine ⟨fun _=>hweigh,hweigh.le.trans (Nat.zero_le 1),fun hs=>?_⟩
 cases hs

lemma StoredLate.extend (h:StoredLate byPriority hardware init seen)
  (hrun:exec (step byPriority hardware) init seen=some s) (hl:dispatches s l=false) :
  StoredLate byPriority hardware init (seen++[l]) := by
 obtain ⟨before,executors,context,after,u,u',rfl,hbefore,hstopping,hstore,halong⟩:=h
 have hafter:exec (step byPriority hardware) u' after=some s:=by
  rw[exec_append_eq hbefore] at hrun
  obtain ⟨m,hm,hrest⟩:=exec_cons.mp hrun
  rwa[← some.inj (hstore.symm.trans hm)] at hrest
 refine ⟨before,executors,context,after++[l],u,u',?_,hbefore,hstopping,hstore,
  along_snoc halong hafter hl⟩
 rw[append_assoc,cons_append]

lemma Single.stored_late {executors:ℕ} {context:Context} (h:Single s) (hstarted:s.started=true)
  (hstep:step byPriority hardware s (.advance (.store executors context))=some s') :
  s.stopping=true := by
 have hmem:StartCall.store executors context∈s.starting:=by
  by_contra hne
  simp[step,hne] at hstep
 have hsum:=sum_map_erase (fun call=>pendingStart (.starting call)) hmem
 rcases h.started hstarted with hstop | ⟨-,hzero⟩
 · exact hstop
 · rw[weigh_eq] at hzero
   simp only[pendingStart] at hsum hzero
   omega

lemma served_or_storedLate_step (hrun:exec (step byPriority hardware) init seen=some s)
  (hsingle:Single s) (h:Served s∨StoredLate byPriority hardware init seen)
  (hstep:step byPriority hardware s l=some s') :
  Served s'∨StoredLate byPriority hardware init (seen++[l]) := by
 by_cases hdispatches:dispatches s l=true
 · exact .inl (served_of_dispatches hstep hdispatches)
 have hquiet:dispatches s l=false:=by simpa using hdispatches
 rcases h with hs | hlate
 · by_cases hstore:∃ executors context,l=.advance (.store executors context)
   · obtain ⟨executors,context,rfl⟩:=hstore
     by_cases hstarted:s.started=true
     · have hstopping:=hsingle.stored_late hstarted hstep
       exact .inr ⟨seen,executors,context,[],s,s',rfl,hrun,hstopping,hstep,trivial⟩
     · left
       intro hs'
       cases move_of_step hstep with
       | unchanged hl => exact hl.elim
       | stored => exact absurd hs' hstarted
       | waited hl => exact hl.elim
       | released hl => exact hl.elim
   · refine .inl (served_of_move hs (move_of_step hstep) fun executors context heq=>?_)
     exact hstore ⟨executors,context,heq⟩
 · exact .inr (hlate.extend hrun hquiet)

lemma served_or_storedLate {name:String} {config:Option ℤ} {labels:List Label}
  (hnew:create hardware name config=.ok init)
  (hrun:exec (step byPriority hardware) init labels=some s) :
  Served s∨StoredLate byPriority hardware init labels := by
 have hinit:Single init∧(Served init∨StoredLate byPriority hardware init []):=by
  obtain ⟨target,fallback,-,rfl⟩:=create_eq hnew
  exact ⟨single_initial target fallback,.inl fun hs=>by cases hs⟩
 have htracked:∀ seen u,exec (step byPriority hardware) init seen=some u→ Tracked byPriority u seen:=
  fun _ _=>tracked_exec hnew
 have hhistory:=exec_history (I:=fun u seen=>exec (step byPriority hardware) init seen=some u ∧
  Single u∧(Served u∨StoredLate byPriority hardware init seen)) ?_ ⟨rfl,hinit⟩ hrun
 · exact hhistory.2.2
 rintro u l u' seen ⟨hu,hsingle,hserved⟩ hstep
 refine ⟨exec_append hu (exec_singleton.trans hstep),single_step (htracked seen u hu) hsingle hstep,?_⟩
 exact served_or_storedLate_step hu hsingle hserved hstep

end Runs

lemma resolveExecutors_of_nonneg (hardware:ℕ) {configured:ℤ} (h:0≤configured) :
  ∃ executors,resolveExecutors hardware configured=.ok executors∧1≤executors := by
 have hok:resolveExecutors hardware configured=.ok _:=if_neg (not_lt.mpr h)
 exact ⟨_,hok,resolveExecutors_pos hok⟩

/-- Work waits only while every executor is busy, unless the last dispatch was before a
late `start` stored its count; and no callback is started beyond the target. -/
theorem work_conserving_bounded {byPriority : Bool} {hardware : ℕ} {name : String} {config : Option ℤ}
  {init s : State} {labels : List Label} (hnew : create hardware name config = .ok init)
  (hrun : exec (step byPriority hardware) init labels = some s) :
  ((s.started = true → s.queue ≠ [] → s.target ≤ s.busy) ∨ StoredLate byPriority hardware init labels) ∧
  (∀ l s', step byPriority hardware s l = some s' → s.spawned.length < s'.spawned.length →
   s'.busy ≤ s'.target) ∧
  (∀ u : State, u.target ≤ u.busy → u.dispatch = u.armDeadline.checkDrain) ∧
  1 ≤ s.target ∧
  ∀ configured : ℤ, 0 ≤ configured → ∃ executors,
   resolveExecutors hardware configured = .ok executors ∧ 1 ≤ executors := by
 refine ⟨served_or_storedLate hnew hrun,fun l s' hstep hlt=>?_,fun u=>dispatch_of_full,
  (tracked_exec hnew hrun).steady.target,fun configured=>resolveExecutors_of_nonneg hardware⟩
 rcases bounded_of_move (move_of_step hstep) with hle | hbusy
 · omega
 · exact hbusy

/-- `start` passes its mutex section with five executors configured, and stores them after
the handler of `stop` has dispatched to the one the pool was created with. -/
def overtakenRun : List Label :=
 let moment : Moment:=⟨0,false⟩
 let context : Context:=⟨0,none⟩
 [.addTask false context 0,.addTask false context 0,.reserve 0,.post 0,.reserve 1,.post 1,
  .strand (.insert 0) moment,.strand (.insert 1) moment,.start (some 5) context,.stop false,.postStop,
  .strand .stop moment,.advance (.store 5 context),.advance (.post context),
  .strand (.start context) moment]

theorem overtakenRun_work_conserving : ∃ init s, create 4 "tasks" (some 1) = .ok init ∧
  exec (step false 4) init overtakenRun = some s ∧
  ((s.started = true → s.queue ≠ [] → s.target ≤ s.busy) ∨ StoredLate false 4 init overtakenRun) ∧
  1 ≤ s.target := by
 have hnew:create 4 "tasks" (some 1)=.ok _ := rfl
 have hrun:exec (step false 4) { target:=1,fallbackExecutors := 1 } overtakenRun=some _ := rfl
 obtain ⟨hserved,-,-,hpos,-⟩:=work_conserving_bounded hnew hrun
 exact ⟨_,_,hnew,hrun,hserved,hpos⟩

/-- After the last handler of the run a task waits although four executors are idle. -/
theorem overtakenRun_starves : ∃ init s, create 4 "tasks" (some 1) = .ok init ∧
  exec (step false 4) init overtakenRun = some s ∧
  s.started = true ∧ s.queue ≠ [] ∧ s.busy = 1 ∧ s.target = 5 :=
 ⟨_,_,rfl,rfl,rfl,cons_ne_nil _ _,rfl,rfl⟩

end ServiceLib.QueuedPool
