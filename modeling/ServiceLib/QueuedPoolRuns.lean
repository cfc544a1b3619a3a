import ServiceLib.QueuedPoolDrain

set_option autoImplicit false
attribute [-instance] instBooleanRingBool

/-!
# Runs of a queued pool

The steps a pool owes come to an end by themselves, and a started or closed pool that owes none
has run every accepted task.
-/
namespace ServiceLib.QueuedPool
open State List Tokens Transition

def unrunToken (t:ℕ) : Token → ℕ
 | .posted handler => if handler = .insert t then 1 else 0
 | .queued u | .spawned u => if u = t then 1 else 0
 | _ => 0

def enteringToken (t:ℕ) : Token → ℕ
 | .adding u | .admitted u => if u = t then 1 else 0
 | _ => 0

def admittedToken (t:ℕ) : Token → ℕ
 | .admitted u => if u = t then 1 else 0
 | _ => 0

def effort : Token → ℕ
 | .adding _ => 7
 | .admitted _ => 6
 | .posted (.insert _) => 5
 | .queued _ => 4
 | .spawned _ => 3
 | .running _ => 2
 | .rolledBack => 2
 | .starting (.store _ _) => 3
 | .starting (.post _) => 2
 | .stop => 3
 | .waiting => 1
 | .posted _ => 1

def Label.Internal : Label → Prop
 | .reserve _ | .post _ | .postFails _ | .recheck | .advance _ | .postStop | .stopReturns
 | .strand _ _ | .invoke _ | .finish _ => True
 | _ => False

section Change
variable {s:State} {l:Label} {taken given:List Token} {next:ℕ}

lemma Change.unrun_eq (h:Change s l taken given next) (t:ℕ) :
  [l].count (.invoke t)+total (unrunToken t) given =
   total (unrunToken t) taken+[l].count (.post t) := by
 grind[Change,total,unrunToken,Label.Quiet,Label.Timer,Label.Lifecycle]

lemma Change.entering_le (h:Change s l taken given next) (t:ℕ) :
  [l].count (.post t)+total (enteringToken t) given+(if t < s.next then 1 else 0) ≤
   total (enteringToken t) taken+(if t < next then 1 else 0) := by
 cases h with
 | none hl =>
  cases l with
  | post => exact absurd hl (by simp[Label.Quiet,Label.Timer])
  | _ => simp
 | released hl =>
  cases l with
  | post => exact absurd hl (by simp[Label.Lifecycle])
  | _ => simp[enteringToken]
 | entered context priority =>
  have hpost:[Label.addTask false context priority].count (.post t)=0:=by simp
  simp only[total_cons,total_nil,enteringToken,hpost]
  split <;> split <;> split <;> omega
 | _ => simp[enteringToken,count_singleton]

lemma Change.admitted_le (h:Change s l taken given next) (hclosed:Closed s.activity) (t:ℕ) :
  [l].count (.post t)+total (admittedToken t) given≤total (admittedToken t) taken := by
 cases h with
 | none hl =>
  cases l with
  | post => exact absurd hl (by simp[Label.Quiet,Label.Timer])
  | _ => simp
 | released hl =>
  cases l with
  | post => exact absurd hl (by simp[Label.Lifecycle])
  | _ => simp[admittedToken]
 | reserved u hopen => exact absurd hclosed hopen
 | _ => simp[admittedToken,count_singleton]

lemma Change.effort_lt (h:Change s l taken given next) (hl:l.Internal) :
  total effort given < total effort taken := by
 cases h with
 | none hq =>
  cases l with
  | reserve | post | postFails | recheck | advance | postStop | stopReturns | strand | invoke | finish =>
   exact absurd hq (by simp[Label.Quiet,Label.Timer])
  | _ => exact hl.elim
 | released hq =>
  cases l with
  | lifecycleTimer | lifecycleCancel => exact hl.elim
  | _ => exact hq.elim
 | entered | cancelled | opened | closed | joined => exact hl.elim
 | handled handler moment hne =>
  cases handler with
  | insert t => exact absurd rfl (hne t)
  | _ => exact Nat.zero_lt_one
 | _ => simp[effort]

end Change

structure Tracked (byPriority:Bool) (s:State) (seen:List Label) : Prop where
 ordered : s.Ordered byPriority
 accounts : Accounts s
 steady : Steady s
 unrun : ∀ t,seen.count (.invoke t) + s.weigh (unrunToken t) = seen.count (.post t)
 entering : ∀ t,seen.count (.post t) + s.weigh (enteringToken t) ≤ if t < s.next then 1 else 0

section Run
variable {byPriority:Bool} {hardware:ℕ} {s s':State} {l:Label} {seen:List Label}

lemma Tracked.flow (h:Tracked byPriority s seen) (hstep:step byPriority hardware s l=some s') :
  Flow s l s' :=
 flow_of_move h.ordered h.accounts (move_of_step hstep)

lemma Tracked.step (h:Tracked byPriority s seen) (hstep:step byPriority hardware s l=some s') :
  Tracked byPriority s' (seen++[l]) := by
 have hmove:=move_of_step hstep
 have hflow:=h.flow hstep
 refine ⟨ordered_of_move h.ordered hmove,hflow.accounts h.accounts,
  steady_of_move h.ordered h.accounts h.steady hmove,fun t=>?_,fun t=>?_⟩
 · obtain ⟨taken,given,next,change,-,heq⟩:=hflow.trade (unrunToken t) fun _=>rfl
   have hbefore:=h.unrun t
   have hchange:=change.unrun_eq t
   rw[count_append,count_append]
   omega
 · obtain ⟨taken,given,next,change,hnext,heq⟩:=hflow.trade (enteringToken t) fun _=>rfl
   have hbefore:=h.entering t
   have hchange:=change.entering_le t
   rw[count_append,hnext]
   omega

lemma create_eq {name:String} {config:Option ℤ} {init:State}
  (h:create hardware name config=.ok init) : ∃ target fallback,0 < target ∧
   init={ target := target,fallbackExecutors := fallback } := by
 cases config with
 | none => cases h
 | some configured =>
  simp only[create] at h
  cases hresolved:resolveExecutors hardware configured with
  | error e =>
   rw[hresolved] at h
   cases h
  | ok executors =>
   rw[hresolved] at h
   cases h
   exact ⟨executors,configured,resolveExecutors_pos hresolved,rfl⟩

lemma tracked_initial (byPriority:Bool) {target:ℕ} (hpos:0 < target) (fallback:ℤ) :
  Tracked byPriority { target := target,fallbackExecutors := fallback } [] := by
 have hweigh:∀ w,State.weigh w { target:=target,fallbackExecutors := fallback }=0:=by
  intro w
  rw[weigh_eq]
  simp
 have hopen:¬ Closed 0:=fun h=>h (by decide)
 have hnew:¬ Started 0:=fun h=>h (by decide)
 have hcount:count 0=0:=by decide
 refine ⟨fun _=>⟨nodup_nil,fun _ he=>absurd he not_mem_nil⟩,⟨?_,?_⟩,⟨⟨hpos,?_,?_,?_,
  fun hs=>absurd hs hnew,?_,rfl⟩,?_,?_⟩,fun t=>?_,fun t=>?_⟩
 · rw[hweigh]
   exact hcount
 · rw[hweigh]
 · exact fun _ _ hc=>absurd hc not_mem_nil
 · rw[hweigh]
   exact ⟨fun hc=>absurd hc hopen,fun h=>by simp at h⟩
 · exact fun hs=>by cases hs
 · exact fun hc=>by cases hc
 · exact fun hs=>by cases hs
 · exact fun hs=>by cases hs
 · rw[hweigh]
   rfl
 · rw[hweigh]
   simp

lemma tracked_exec {name:String} {config:Option ℤ} {init:State} {labels:List Label}
  (hnew:create hardware name config=.ok init)
  (hrun:exec (QueuedPool.step byPriority hardware) init labels=some s) :
  Tracked byPriority s labels := by
 obtain ⟨target,fallback,hpos,rfl⟩:=create_eq hnew
 exact exec_history (fun s l s' seen h hstep=>h.step hstep) (tracked_initial byPriority hpos fallback) hrun

lemma Tracked.effort_lt (h:Tracked byPriority s seen) (hl:l.Internal)
  (hstep:QueuedPool.step byPriority hardware s l=some s') : s'.weigh effort < s.weigh effort := by
 obtain ⟨moved,change,weigh,-,-,-⟩:=h.flow hstep
 have heq:=weigh effort
 have hlt:=change.effort_lt hl
 rw[total_map_const effort (c := 4) (fun _=>rfl),total_map_const effort (c := 3) (fun _=>rfl)] at heq
 omega

def Idle (byPriority:Bool) (hardware:ℕ) (s:State) : Prop :=
 ∀ l,l.Internal → step byPriority hardware s l = none

lemma Idle.empty (h:Idle byPriority hardware s) : s.adding=[]∧s.admitted=[] ∧
  s.rolledBack=0∧s.starting=[]∧s.stops=0∧s.posted=[]∧s.spawned=[]∧s.running=[] := by
 refine ⟨?_,?_,?_,?_,?_,?_,?_,?_⟩
 all_goals by_contra hne
 · obtain ⟨t,rest,heq⟩:=exists_cons_of_ne_nil hne
   have:=h (.reserve t) trivial
   simp only[QueuedPool.step,heq,mem_cons_self,if_true] at this
   split at this <;> cases this
 · obtain ⟨t,rest,heq⟩:=exists_cons_of_ne_nil hne
   have:=h (.post t) trivial
   simp[QueuedPool.step,heq] at this
 · have:=h .recheck trivial
   simp[QueuedPool.step,hne] at this
 · obtain ⟨call,rest,heq⟩:=exists_cons_of_ne_nil hne
   have:=h (.advance call) trivial
   cases call <;> simp[QueuedPool.step,heq] at this
 · have:=h .postStop trivial
   simp[QueuedPool.step,hne] at this
 · obtain ⟨handler,rest,heq⟩:=exists_cons_of_ne_nil hne
   have:=h (.strand handler ⟨0,false⟩) trivial
   simp[QueuedPool.step,heq] at this
 · obtain ⟨t,rest,heq⟩:=exists_cons_of_ne_nil hne
   have:=h (.invoke t) trivial
   simp[QueuedPool.step,heq] at this
 · obtain ⟨t,rest,heq⟩:=exists_cons_of_ne_nil hne
   have:=h (.finish t) trivial
   simp[QueuedPool.step,heq] at this

lemma Idle.weigh (h:Idle byPriority hardware s) {w:Token→ℕ} (hw:w .waiting=0) :
  s.weigh w=(s.queue.map fun node=>w (.queued node.task)).sum := by
 obtain ⟨hadding,hadmitted,hrolled,hstarting,hstops,hposted,hspawned,hrunning⟩:=h.empty
 rw[weigh_eq,hadding,hadmitted,hrolled,hstarting,hstops,hposted,hspawned,hrunning,hw]
 simp

lemma Idle.weigh_zero (h:Idle byPriority hardware s) {w:Token→ℕ} (hw:w .waiting=0)
  (hqueued:∀ t,w (.queued t)=0) : s.weigh w=0 := by
 rw[h.weigh hw]
 simp[hqueued]

lemma Tracked.idle_queue (h:Tracked byPriority s seen) (hidle:Idle byPriority hardware s)
  (hlive:Started s.activity∨Closed s.activity) : s.queue=[] := by
 have hstop:=hidle.weigh_zero (w:=pendingStop) rfl fun _=>rfl
 have hstart:=hidle.weigh_zero (w:=pendingStart) rfl fun _=>rfl
 have hbusy:=h.accounts.busy
 rw[hidle.weigh_zero rfl fun _=>rfl] at hbusy
 have hstarted:s.started=true:=by
  rcases hlive with hs | hc
  · exact (h.steady.started hs).resolve_right (by omega)
  · exact h.steady.stopping ((h.steady.closed.mp hc).resolve_right (by omega))
 by_contra hne
 have:=h.steady.busy hstarted hne
 omega

lemma Tracked.idle_weigh (h:Tracked byPriority s seen) (hidle:Idle byPriority hardware s)
  (hlive:Started s.activity∨Closed s.activity) {w:Token→ℕ} (hw:w .waiting=0) :
  s.weigh w=0 := by
 rw[hidle.weigh hw,h.idle_queue hidle hlive]
 rfl

lemma Tracked.idle_runs (h:Tracked byPriority s seen) (hidle:Idle byPriority hardware s)
  (hlive:Started s.activity∨Closed s.activity) (t:ℕ) :
  seen.count (.invoke t)=seen.count (.post t) := by
 have:=h.unrun t
 rw[h.idle_weigh hidle hlive rfl] at this
 exact this

lemma Tracked.idle_drained (h:Tracked byPriority s seen) (hidle:Idle byPriority hardware s)
  (hclosed:Closed s.activity) : s.drained=1 := by
 have hcheck:=hidle.weigh_zero (w:=pendingCheck) rfl fun _=>rfl
 have hstop:=hidle.weigh_zero (w:=pendingStop) rfl fun _=>rfl
 have hcount:=h.accounts.activity
 rw[h.idle_weigh hidle (.inr hclosed) rfl] at hcount
 have hstopping:s.stopping=true:=(h.steady.closed.mp hclosed).resolve_right (by omega)
 have hcompleted:s.completed=true:=by
  rcases h.steady.draining hstopping with hc | hne | hpos
  · exact hc
  · exact absurd hcount hne
  · omega
 rw[h.steady.drained,hcompleted]
 rfl

lemma Tracked.after_close (h:Tracked byPriority s seen) (hclosed:Closed s.activity)
  {rest:List Label} (hrun:exec (QueuedPool.step byPriority hardware) s rest=some s') (t:ℕ) :
  Closed s'.activity∧rest.count (.post t)+s'.weigh (admittedToken t)≤ s.weigh (admittedToken t) := by
 have hempty:([] : List Label).count (.post t)+s.weigh (admittedToken t)≤ s.weigh (admittedToken t):=
  Nat.le_of_eq (Nat.zero_add _)
 have hhistory:=exec_history (I:=fun u (later:List Label)=>(∃ seen,Tracked byPriority u seen) ∧
  Closed u.activity∧later.count (.post t)+u.weigh (admittedToken t)≤ s.weigh (admittedToken t))
  ?_ ⟨⟨seen,h⟩,hclosed,hempty⟩ hrun
 · exact hhistory.2
 rintro u l u' later ⟨⟨seen,hu⟩,hc,hle⟩ hstep
 have hflow:=hu.flow hstep
 obtain ⟨taken,given,next,change,-,heq⟩:=hflow.trade (admittedToken t) fun _=>rfl
 have hchange:=change.admitted_le hc t
 refine ⟨⟨_,hu.step hstep⟩,hflow.closed hc,?_⟩
 rw[count_append]
 omega

end Run

def Handler.isInsert : Handler → Bool
 | .insert _ => true
 | _ => false

def State.uninserted (s:State) : ℕ :=
 s.admitted.length + s.posted.countP Handler.isInsert

def State.unrun (s:State) (t:ℕ) : ℕ :=
 s.posted.count (.insert t) + (s.queue.map Node.task).count t + s.spawned.count t

lemma sum_map_ite {α:Type} (p:α→ Bool) (l:List α) :
  (l.map fun a=>if p a=true then 1 else 0).sum=l.countP p := by
 induction l with
 | nil => rfl
 | cons a l ih =>
  rw[map_cons,sum_cons,ih,countP_cons]
  omega

lemma sum_map_ite_eq {α:Type} [DecidableEq α] (a:α) (l:List α) :
  (l.map fun b=>if b=a then 1 else 0).sum=l.count a := by
 have:=sum_map_ite (fun b=>b == a) l
 simpa only[beq_iff_eq,List.count] using this

lemma weigh_unrunToken (s:State) (t:ℕ) : s.weigh (unrunToken t)=s.unrun t := by
 have hqueue:=sum_map_ite_eq t (s.queue.map Node.task)
 rw[map_map] at hqueue
 rw[weigh_eq,State.unrun,← hqueue,← sum_map_ite_eq,← sum_map_ite_eq]
 simp[unrunToken,Function.comp_def]

lemma weigh_admittedToken (s:State) (t:ℕ) : s.weigh (admittedToken t)=s.admitted.count t := by
 rw[weigh_eq,← sum_map_ite_eq]
 simp[admittedToken]

lemma held_posted (handler:Handler) :
  held (.posted handler)=(if handler.isInsert=true then 1 else 0)+occupied (.posted handler) := by
 cases handler <;> rfl

lemma Accounts.count_eq {s:State} (h:Accounts s) :
  count s.activity=s.uninserted+s.queue.length+s.busy := by
 have hposted:(s.posted.map fun handler=>held (.posted handler)).sum =
  s.posted.countP Handler.isInsert+(s.posted.map fun handler=>occupied (.posted handler)).sum:=by
  simp only[held_posted,sum_map_add,sum_map_ite]
 rw[h.activity,h.busy,weigh_eq,weigh_eq,hposted,State.uninserted]
 simp[held,occupied]
 omega

/-- In every run of a new pool an accepted task runs at most once, and it has run or is on its way.
The activity counts what is on its way, and the pool drains at most once, when it is closed and
nothing is. A closed pool accepts only what it had admitted. The pool's own steps end, and when
they have, a pool that was started or closed has run all it accepted. -/
theorem accepted_run_once {byPriority : Bool} {hardware : ℕ} {name : String} {config : Option ℤ}
  {init s : State} {labels : List Label} (hnew : create hardware name config = .ok init)
  (hrun : exec (step byPriority hardware) init labels = some s) :
  (∀ t, labels.count (.post t) ≤ 1 ∧ labels.count (.invoke t) + s.unrun t = labels.count (.post t)) ∧
  count s.activity = s.uninserted + s.queue.length + s.busy ∧
  s.drained ≤ 1 ∧ (s.drained = 1 → Closed s.activity ∧ count s.activity = 0) ∧
  (Closed s.activity → ∀ rest s', exec (step byPriority hardware) s rest = some s' →
   Closed s'.activity ∧ ∀ t, rest.count (.post t) ≤ s.admitted.count t) ∧
  (∀ rest s', (∀ l ∈ rest, l.Internal) → exec (step byPriority hardware) s rest = some s' →
   rest.length ≤ s.weigh effort ∧
   (Idle byPriority hardware s' →
    (Started s'.activity ∨ Closed s'.activity → ∀ t,
     (labels ++ rest).count (.invoke t) = (labels ++ rest).count (.post t)) ∧
    (Closed s'.activity → s'.drained = 1))) ∧
  ∃ rest s', (∀ l ∈ rest, l.Internal) ∧ exec (step byPriority hardware) s rest = some s' ∧
   Idle byPriority hardware s' := by
 have h:=tracked_exec hnew hrun
 have hinv:∀ u l u',(∃ seen,Tracked byPriority u seen)→ step byPriority hardware u l=some u' →
  ∃ seen,Tracked byPriority u' seen:=by
  rintro u l u' ⟨seen,hu⟩ hstep
  exact ⟨_,hu.step hstep⟩
 have hwork:∀ u l u',(∃ seen,Tracked byPriority u seen)→ l.Internal →
  step byPriority hardware u l=some u'→ u'.weigh effort < u.weigh effort:=by
  rintro u l u' ⟨seen,hu⟩ hl hstep
  exact hu.effort_lt hl hstep
 refine ⟨fun t=>⟨?_,?_⟩,h.accounts.count_eq,?_,?_,?_,?_,exists_exec_idle hinv hwork ⟨_,h⟩⟩
 · have hentering:=h.entering t
   split at hentering <;> omega
 · rw[← weigh_unrunToken]
   exact h.unrun t
 · rw[h.steady.drained]
   split <;> omega
 · intro hdrained
   have hcompleted:s.completed=true:=by
    by_contra hne
    rw[h.steady.drained,if_neg hne] at hdrained
    cases hdrained
   obtain ⟨hstopping,hcount⟩:=h.steady.completed hcompleted
   exact ⟨h.steady.closed.mpr (.inl hstopping),hcount⟩
 · intro hclosed rest s' hrest
   refine ⟨(h.after_close hclosed hrest 0).1,fun t=>?_⟩
   have hle:=(h.after_close hclosed hrest t).2
   rw[weigh_admittedToken s] at hle
   omega
 · intro rest s' hinternal hrest
   have hlength:=exec_work hinv hwork ⟨_,h⟩ hinternal hrest
   have h':=tracked_exec hnew (exec_append hrun hrest)
   exact ⟨by omega,fun hidle=>⟨fun hlive=>h'.idle_runs hidle hlive,h'.idle_drained hidle⟩⟩

/-- Two tasks are added before `start`; the first is cancelled before it is inserted. -/
def drainingRun : List Label :=
 let moment : Moment:=⟨0,false⟩
 let context : Context:=⟨1,some 9⟩
 [.addTask false context 2,.addTask false context 1,.reserve 0,.reserve 1,.post 1,.post 0,
  .start none context,.advance (.store 1 context),.strand (.insert 1) moment,.cancel 0,
  .strand (.promote 0) moment,.strand (.insert 0) moment,.advance (.post context),
  .strand (.start context) moment,.invoke 0,.stop false,.postStop,.strand .stop moment,.finish 0,
  .strand .complete moment,.invoke 1,.finish 1,.strand .complete moment,.stopReturns]

theorem drainingRun_run_once : ∃ init s, create 4 "tasks" (some 1) = .ok init ∧
  exec (step true 4) init drainingRun = some s ∧
  (∀ t, drainingRun.count (.invoke t) + s.unrun t = drainingRun.count (.post t)) ∧
  s.drained = 1 ∧ Closed s.activity ∧ count s.activity = 0 := by
 have hnew:create 4 "tasks" (some 1)=.ok _ := rfl
 have hrun:exec (step true 4) { target:=1,fallbackExecutors := 1 } drainingRun=some _ := rfl
 obtain ⟨honce,-,-,hdrained,-⟩:=accepted_run_once hnew hrun
 exact ⟨_,_,hnew,hrun,fun t=>(honce t).2,rfl,hdrained rfl⟩

end ServiceLib.QueuedPool
