import ServiceLib.QueuedPoolMoves
import ServiceLib.Tokens

set_option autoImplicit false

/-!
# The flow of work through a queued pool

Everything that is still to happen in a pool is a token, and the counters are weights of the
tokens. `Change` has the tokens each step takes and gives; besides, a dispatch turns queued tasks
into spawned callbacks.
-/
namespace ServiceLib.QueuedPool
open State List Tokens

inductive Token where
 | adding (task:ℕ)
 | admitted (task:ℕ)
 | rolledBack
 | starting (call:StartCall)
 | stop
 | waiting
 | posted (handler:Handler)
 | queued (task:ℕ)
 | spawned (task:ℕ)
 | running (task:ℕ)

inductive Change (s:State) : Label → List Token → List Token → ℕ → Prop
 | none {l:Label} (hl:l.Quiet ∨ l.Timer) : Change s l [] [] s.next
 | entered (context:Context) (priority:ℤ) :
  Change s (.addTask false context priority) [] [.adding s.next] (s.next + 1)
 | refused (t:ℕ) : Change s (.reserve t) [.adding t] [] s.next
 | reserved (t:ℕ) (h:¬ Closed s.activity) :
  Change s (.reserve t) [.adding t] [.admitted t] s.next
 | accepted (t:ℕ) : Change s (.post t) [.admitted t] [.posted (.insert t)] s.next
 | failed (t:ℕ) : Change s (.postFails t) [.admitted t] [.rolledBack] s.next
 | rechecked : Change s .recheck [.rolledBack] [.posted .checkDrain] s.next
 | cancelled (t:ℕ) : Change s (.cancel t) [] [.posted (.promote t)] s.next
 | opened (config:Option ℤ) (context:Context) (executors:ℕ) :
  Change s (.start config context) [] [.starting (.store executors context)] s.next
 | stored (executors:ℕ) (context:Context) : Change s (.advance (.store executors context))
   [.starting (.store executors context)] [.starting (.post context)] s.next
 | launched (context:Context) : Change s (.advance (.post context))
   [.starting (.post context)] [.posted (.start context)] s.next
 | closed : Change s (.stop false) [] [.stop] s.next
 | joined : Change s (.stop false) [] [.waiting] s.next
 | stopPosted : Change s .postStop [.stop] [.posted .stop,.waiting] s.next
 | stopReturned : Change s .stopReturns [.waiting] [] s.next
 | inserted (t:ℕ) (moment:Moment) :
  Change s (.strand (.insert t) moment) [.posted (.insert t)] [.queued t] s.next
 | handled (handler:Handler) (moment:Moment) (h:∀ t,handler ≠ .insert t) :
  Change s (.strand handler moment) [.posted handler] [] s.next
 | released {l:Label} (hl:l.Lifecycle) : Change s l [] [.posted .stopManager] s.next
 | invoked (t:ℕ) : Change s (.invoke t) [.spawned t] [.running t] s.next
 | finished (t:ℕ) : Change s (.finish t) [.running t] [.posted .complete] s.next

lemma total_map_congr {w:Token→ℕ} {f g:ℕ→ Token} (h:∀ t,w (f t)=w (g t)) (l:List ℕ) :
  total w (l.map f)=total w (l.map g) := by
 simp only[total,map_map,Function.comp_def,h]

variable {s u s':State} {byPriority:Bool}

namespace State

def tokens (s:State) : List Token :=
 s.adding.map .adding ++ s.admitted.map .admitted ++ replicate s.rolledBack .rolledBack ++
  s.starting.map .starting ++ replicate s.stops .stop ++ replicate s.waiting .waiting ++
  s.posted.map .posted ++ s.queue.map (fun node=>.queued node.task) ++ s.spawned.map .spawned ++
  s.running.map .running

@[irreducible] def weigh (w:Token → ℕ) (s:State) : ℕ :=
 total w s.tokens

lemma weigh_eq (w:Token→ℕ) (s:State) : s.weigh w =
  (s.adding.map fun t=>w (.adding t)).sum+(s.admitted.map fun t=>w (.admitted t)).sum +
   s.rolledBack * w .rolledBack+(s.starting.map fun call=>w (.starting call)).sum +
   s.stops * w .stop+s.waiting * w .waiting+(s.posted.map fun h=>w (.posted h)).sum +
   (s.queue.map fun node=>w (.queued node.task)).sum+(s.spawned.map fun t=>w (.spawned t)).sum +
   (s.running.map fun t=>w (.running t)).sum := by
 simp[weigh,total,tokens,Function.comp_def,Nat.add_assoc]

structure SameTokens (s u:State) : Prop where
 adding : u.adding = s.adding
 admitted : u.admitted = s.admitted
 rolledBack : u.rolledBack = s.rolledBack
 starting : u.starting = s.starting
 stops : u.stops = s.stops
 waiting : u.waiting = s.waiting
 posted : u.posted = s.posted
 queue : u.queue = s.queue
 spawned : u.spawned = s.spawned
 running : u.running = s.running

lemma SameTokens.weigh (h:SameTokens s u) (w:Token→ℕ) : u.weigh w=s.weigh w := by
 rw[weigh_eq,weigh_eq,h.adding,h.admitted,h.rolledBack,h.starting,h.stops,h.waiting,h.posted,
  h.queue,h.spawned,h.running]

lemma weigh_checkDrain (w:Token→ℕ) (s:State) : s.checkDrain.weigh w=s.weigh w := by
 obtain ⟨completed,drained,heq⟩:=checkDrain_eq s
 have hsame:SameTokens s { s with completed:=completed,drained := drained } :=
  ⟨rfl,rfl,rfl,rfl,rfl,rfl,rfl,rfl,rfl,rfl⟩
 rw[heq,hsame.weigh]

lemma weigh_dispatch (s:State) : ∃ moved : List ℕ,s.dispatch.busy=s.busy+moved.length ∧
  ∀ w,s.dispatch.weigh w+total w (moved.map .queued)=s.weigh w+total w (moved.map .spawned) := by
 have hdispatched:=dispatched_dispatch s
 generalize s.dispatch=s' at hdispatched
 obtain @⟨front,rest,tasks,deadlines,armedAt,generation,waits,hqueue,hrest⟩:=hdispatched
 refine ⟨front.map Node.task,?_,fun w=>?_⟩
 · rw[checkDrain_busy,length_map]
 · rw[weigh_checkDrain,weigh_eq,weigh_eq w s,hqueue]
   simp only[total,map_append,sum_append,map_map,Function.comp_def]
   omega

lemma weigh_dispatch_eq (w:Token→ℕ) (hw:∀ t,w (.queued t)=w (.spawned t)) (s:State) :
  s.dispatch.weigh w=s.weigh w := by
 obtain ⟨moved,_,hmoved⟩:=weigh_dispatch s
 have:=hmoved w
 rw[total_map_congr hw] at this
 omega

lemma Rearranged.weigh (h:Rearranged byPriority s s')
  (hs:s.Ordered byPriority) (w:Token→ℕ) : s'.weigh w=s.weigh w := by
 obtain @⟨queue,tasks,deadlines,h⟩:=h
 have hqueue:=((h hs).map fun entry=>w (.queued entry.2)).sum_eq
 simp only[tickets,map_map,Function.comp_def] at hqueue
 rw[weigh_eq,weigh_eq]
 simp only
 omega

end State

lemma weigh_enqueue (hs:s.Ordered byPriority) (t:ℕ) (w:Token→ℕ) :
  (s.enqueue byPriority t).weigh w=s.weigh w+w (.queued t) := by
 obtain ⟨sequence,hperm⟩:=tickets_enqueue hs t
 have hqueue:=(hperm.map fun entry=>w (.queued entry.2)).sum_eq
 simp only[tickets,map_map,Function.comp_def,map_cons,sum_cons] at hqueue
 unfold enqueue at hqueue ⊢
 split at hqueue
 · next hb =>
   rw[if_pos hb,weigh_eq,weigh_eq]
   simp only[setTask] at hqueue ⊢
   omega
 · next hb =>
   rw[if_neg hb,weigh_eq,weigh_eq]
   simp only[setTask] at hqueue ⊢
   omega

def held : Token → ℕ
 | .admitted _ | .posted (.insert _) | .queued _ | .spawned _ | .running _ | .posted .complete => 1
 | _ => 0

def occupied : Token → ℕ
 | .spawned _ | .running _ | .posted .complete => 1
 | _ => 0

structure Accounts (s:State) : Prop where
 activity : count s.activity = s.weigh held
 busy : s.busy = s.weigh occupied

lemma sum_map_snoc {α:Type} (f:α→ℕ) (l:List α) (a:α) :
  ((l++[a]).map f).sum=(l.map f).sum+f a := by
 simp

lemma pred_mul_add {n c:ℕ} (h:n≠0) : (n - 1) * c+c=n * c := by
 obtain ⟨m,rfl⟩:=Nat.exists_eq_succ_of_ne_zero h
 rw[Nat.succ_mul]
 rfl

structure Trade (s:State) (taken given:List Token) (u:State) : Prop where
 weigh : ∀ w,u.weigh w + total w taken = s.weigh w + total w given
 activity : count u.activity + total held taken = count s.activity + total held given
 busy : u.busy + total occupied taken = s.busy + total occupied given
 closed : Closed s.activity → Closed u.activity

section Posted
variable {s u:State} {w:Token → ℕ} {handler:Handler}

lemma weigh_unpost (h:handler∈s.posted) :
  { s with posted := s.posted.erase handler }.weigh w+w (.posted handler)=s.weigh w := by
 have:=sum_map_erase (fun handler=>w (.posted handler)) h
 rw[weigh_eq,weigh_eq]
 simp only
 omega

lemma weigh_post : (s.post handler).weigh w=s.weigh w+w (.posted handler) := by
 rw[weigh_eq,weigh_eq]
 simp only[State.post,sum_map_snoc]
 omega

lemma le_weigh_posted (h:handler∈s.posted) : w (.posted handler)≤ s.weigh w := by
 have:=weigh_unpost (w := w) h
 omega

lemma Accounts.count_ne_zero_of_complete (hs:Accounts s) (h:.complete∈s.posted) :
  count s.activity≠0 := by
 rw[hs.activity]
 exact Nat.ne_of_gt (le_weigh_posted (w := held) h)

lemma Accounts.busy_ne_zero_of_complete (hs:Accounts s) (h:.complete∈s.posted) :
  s.busy≠0 := by
 rw[hs.busy]
 exact Nat.ne_of_gt (le_weigh_posted (w := occupied) h)

lemma Accounts.count_ne_zero_of_admitted (hs:Accounts s) {t:ℕ} (ht:t∈s.admitted) :
  count s.activity≠0 := by
 have:=sum_map_erase (fun t=>held (.admitted t)) ht
 rw[hs.activity,weigh_eq]
 simp only[held] at this ⊢
 omega

lemma trade_none (hu:SameTokens s u) (activity:u.activity=s.activity) (busy:u.busy=s.busy) :
    Trade s [] [] u where
 weigh w := by rw[hu.weigh]
 activity := by rw[activity]
 busy := by rw[busy]
 closed:=by
  rw[activity]
  exact id

lemma trade_post (hu:SameTokens s u) (activity:u.activity=s.activity) (busy:u.busy=s.busy)
    (hheld:held (.posted handler)=0) (hoccupied:occupied (.posted handler)=0) :
    Trade s [] [.posted handler] (u.post handler) where
 weigh w := by rw[weigh_post,hu.weigh,total_cons,total_nil,Nat.add_zero,Nat.add_zero]
 activity:=by
  rw[total_cons,hheld]
  exact congrArg count activity
 busy:=by
  rw[total_cons,hoccupied]
  exact busy
 closed hc:=by
  change Closed u.activity
  rw[activity]
  exact hc

lemma trade_unpost (h:handler∈s.posted)
    (hu:SameTokens { s with posted := s.posted.erase handler } u) (activity:u.activity=s.activity)
    (busy:u.busy=s.busy) (hheld:held (.posted handler)=0)
    (hoccupied:occupied (.posted handler)=0) : Trade s [.posted handler] [] u where
 weigh w := by rw[hu.weigh,total_cons,total_nil,Nat.add_zero,weigh_unpost h,Nat.add_zero]
 activity := by rw[total_cons,hheld,activity,total_nil]
 busy := by rw[total_cons,hoccupied,busy,total_nil]
 closed:=by
  rw[activity]
  exact id

lemma trade_complete (hs:Accounts s) (h:.complete∈s.posted) :
    Trade s [.posted .complete] [] { s with
      posted := s.posted.erase .complete
      busy := s.busy - 1
      activity := s.activity - 1#64 } where
 weigh w := by
  have hu:SameTokens { s with posted:=s.posted.erase .complete } { s with
   posted := s.posted.erase .complete
   busy := s.busy - 1
   activity := s.activity - 1#64 } := ⟨rfl,rfl,rfl,rfl,rfl,rfl,rfl,rfl,rfl,rfl⟩
  rw[hu.weigh,total_cons,total_nil,Nat.add_zero,weigh_unpost h,Nat.add_zero]
 activity := count_release (hs.count_ne_zero_of_complete h)
 busy := Nat.succ_pred (hs.busy_ne_zero_of_complete h)
 closed := (closed_release (hs.count_ne_zero_of_complete h)).mpr

end Posted

section Calls
variable {s:State} {t:ℕ}

lemma trade_enter (s:State) (context:Context) (priority:ℤ) :
    Trade s [] [.adding s.next] (s.addTask context priority) where
 weigh w := by
  rw[weigh_eq,weigh_eq]
  simp only[State.addTask,setTask,sum_map_snoc,total_cons,total_nil]
  omega
 activity := rfl
 busy := rfl
 closed := id

lemma trade_refuse (ht:t∈s.adding) :
    Trade s [.adding t] [] ({ s with adding := s.adding.erase t }.discard t) where
 weigh w := by
  have:=sum_map_erase (fun t=>w (.adding t)) ht
  rw[weigh_eq,weigh_eq]
  simp only[State.discard,setTask,total_cons,total_nil]
  omega
 activity := rfl
 busy := rfl
 closed := id

lemma trade_reserve (ht:t∈s.adding) (hroom:s.activity &&& kCount≠kCount) :
    Trade s [.adding t] [.admitted t] { s with
      adding := s.adding.erase t
      activity := s.activity+1#64
      admitted := s.admitted++[t] } where
 weigh w := by
  have:=sum_map_erase (fun t=>w (.adding t)) ht
  rw[weigh_eq,weigh_eq]
  simp only[sum_map_snoc,total_cons,total_nil]
  omega
 activity := count_reserve hroom
 busy := rfl
 closed := (closed_reserve hroom).mpr

lemma trade_accept (ht:t∈s.admitted) :
    Trade s [.admitted t] [.posted (.insert t)]
      ({ s with admitted := s.admitted.erase t }.post (.insert t)) where
 weigh w := by
  have:=sum_map_erase (fun t=>w (.admitted t)) ht
  rw[weigh_post,weigh_eq,weigh_eq]
  simp only[total_cons,total_nil]
  omega
 activity := rfl
 busy := rfl
 closed := id

lemma trade_fail (hs:Accounts s) (ht:t∈s.admitted) :
    Trade s [.admitted t] [.rolledBack] ({ s with
      admitted := s.admitted.erase t
      activity := s.activity - 1#64
      rolledBack := s.rolledBack+1 }.discard t) where
 weigh w := by
  have:=sum_map_erase (fun t=>w (.admitted t)) ht
  rw[weigh_eq,weigh_eq]
  simp only[State.discard,setTask,total_cons,total_nil,Nat.succ_mul]
  omega
 activity := count_release (hs.count_ne_zero_of_admitted ht)
 busy := rfl
 closed := (closed_release (hs.count_ne_zero_of_admitted ht)).mpr

lemma trade_recheck (h:s.rolledBack≠0) :
    Trade s [.rolledBack] [.posted .checkDrain]
      ({ s with rolledBack := s.rolledBack - 1 }.post .checkDrain) where
 weigh w := by
  have:=pred_mul_add (c := w .rolledBack) h
  rw[weigh_post,weigh_eq,weigh_eq]
  simp only[total_cons,total_nil]
  omega
 activity := rfl
 busy := rfl
 closed := id

lemma trade_start (s:State) (executors:ℕ) (context:Context) :
    Trade s [] [.starting (.store executors context)] { s with
      activity := s.activity ||| kStarted
      starting := s.starting++[.store executors context] } where
 weigh w := by
  rw[weigh_eq,weigh_eq]
  simp only[sum_map_snoc,total_cons,total_nil]
  omega
 activity := count_start _
 busy := rfl
 closed := (closed_start _).mpr

lemma trade_store {executors:ℕ} {context:Context}
    (h:StartCall.store executors context∈s.starting) :
    Trade s [.starting (.store executors context)] [.starting (.post context)] { s with
      target := executors
      starting := s.starting.erase (.store executors context)++[.post context] } where
 weigh w := by
  have:=sum_map_erase (fun call=>w (.starting call)) h
  rw[weigh_eq,weigh_eq]
  simp only[sum_map_snoc,total_cons,total_nil]
  omega
 activity := rfl
 busy := rfl
 closed := id

lemma trade_launch {context:Context} (h:StartCall.post context∈s.starting) :
    Trade s [.starting (.post context)] [.posted (.start context)]
      ({ s with starting := s.starting.erase (.post context) }.post (.start context)) where
 weigh w := by
  have:=sum_map_erase (fun call=>w (.starting call)) h
  rw[weigh_post,weigh_eq,weigh_eq]
  simp only[total_cons,total_nil]
  omega
 activity := rfl
 busy := rfl
 closed := id

lemma trade_close (s:State) :
    Trade s [] [.stop] { s with activity := s.activity ||| kClosed,stops := s.stops+1 } where
 weigh w := by
  rw[weigh_eq,weigh_eq]
  simp only[total_cons,total_nil,Nat.succ_mul]
  omega
 activity := count_close _
 busy := rfl
 closed := fun _=>closed_close _

lemma trade_join (s:State) :
    Trade s [] [.waiting] { s with activity := s.activity ||| kClosed,waiting := s.waiting+1 } where
 weigh w := by
  rw[weigh_eq,weigh_eq]
  simp only[total_cons,total_nil,Nat.succ_mul]
  omega
 activity := count_close _
 busy := rfl
 closed := fun _=>closed_close _

lemma trade_postStop (h:s.stops≠0) : Trade s [.stop] [.posted .stop,.waiting]
    ({ s with stops := s.stops - 1,waiting := s.waiting+1 }.post .stop) where
 weigh w := by
  have:=pred_mul_add (c := w .stop) h
  rw[weigh_post,weigh_eq,weigh_eq]
  simp only[total_cons,total_nil,Nat.succ_mul]
  omega
 activity := rfl
 busy := rfl
 closed := id

lemma trade_stopReturns (h:s.waiting≠0) :
    Trade s [.waiting] [] { s with waiting := s.waiting - 1 } where
 weigh w := by
  have:=pred_mul_add (c := w .waiting) h
  rw[weigh_eq,weigh_eq]
  simp only[total_cons,total_nil]
  omega
 activity := rfl
 busy := rfl
 closed := id

lemma trade_invoke (ht:t∈s.spawned) : Trade s [.spawned t] [.running t]
    ({ s with spawned := s.spawned.erase t,running := s.running++[t] }.discard t) where
 weigh w := by
  have:=sum_map_erase (fun t=>w (.spawned t)) ht
  rw[weigh_eq,weigh_eq]
  simp only[State.discard,setTask,sum_map_snoc,total_cons,total_nil]
  omega
 activity := rfl
 busy := rfl
 closed := id

lemma trade_finish (ht:t∈s.running) : Trade s [.running t] [.posted .complete]
    ({ s with running := s.running.erase t }.post .complete) where
 weigh w := by
  have:=sum_map_erase (fun t=>w (.running t)) ht
  rw[weigh_post,weigh_eq,weigh_eq]
  simp only[total_cons,total_nil]
  omega
 activity := rfl
 busy := rfl
 closed := id

end Calls

variable {taken given:List Token}

section Queue
variable {byPriority:Bool} {s core:State} {t:ℕ}

lemma trade_insert (hs:s.Ordered byPriority) (h:.insert t∈s.posted)
  (hcore:Rearranged byPriority
   ({ s with posted := s.posted.erase (.insert t) }.enqueue byPriority t) core) :
  core.next=s.next∧Trade s [.posted (.insert t)] [.queued t] core := by
 have hbase:{ s with posted:=s.posted.erase (.insert t) }.Ordered byPriority := hs
 have hweigh:∀ w,core.weigh w+total w [.posted (.insert t)]=s.weigh w+total w [.queued t]:=by
  intro w
  rw[hcore.weigh (ordered_enqueue hbase t) w,weigh_enqueue hbase t w,← weigh_unpost h]
  simp only[total_cons,total_nil]
  omega
 obtain ⟨queue,tasks,sequence,heq⟩:=
  enqueue_eq byPriority { s with posted := s.posted.erase (.insert t) } t
 rw[heq] at hcore
 cases hcore
 exact ⟨rfl,hweigh,rfl,rfl,id⟩

lemma trade_rearranged (hu:Trade s taken [] u)
  (hordered:u.Ordered byPriority) (hcore:Rearranged byPriority u core) :
  core.next=u.next∧Trade s taken [] core := by
 have hweigh:=hcore.weigh hordered
 cases hcore
 refine ⟨rfl,fun w=>?_,hu.activity,hu.busy,hu.closed⟩
 rw[hweigh w]
 exact hu.weigh w

lemma trade_checkDrain (hu:Trade s taken given u) :
  u.checkDrain.next=u.next∧Trade s taken given u.checkDrain := by
 have hsame:=sameControl_checkDrain u
 refine ⟨hsame.next,fun w=>?_,?_,?_,?_⟩
 · rw[weigh_checkDrain]
   exact hu.weigh w
 · rw[hsame.activity]
   exact hu.activity
 · rw[checkDrain_busy]
   exact hu.busy
 · rw[hsame.activity]
   exact hu.closed

end Queue

inductive Flow (s:State) (l:Label) (s':State) : Prop
 | intro {taken given:List Token} (moved:List ℕ) (change:Change s l taken given s'.next)
  (weigh:∀ w,s'.weigh w + total w taken + total w (moved.map .queued) =
   s.weigh w + total w given + total w (moved.map .spawned))
  (activity:count s'.activity + total held taken = count s.activity + total held given)
  (busy:s'.busy + total occupied taken = s.busy + total occupied given + moved.length)
  (closed:Closed s.activity → Closed s'.activity)

variable {l:Label}

lemma Flow.still
  (change:Change s l taken given s'.next) (trade:Trade s taken given s') : Flow s l s' := by
 refine .intro [] change (fun w=>?_) trade.activity trade.busy trade.closed
 rw[map_nil,map_nil,total_nil,Nat.add_zero,Nat.add_zero]
 exact trade.weigh w

lemma Flow.dispatch {core:State}
  (change:Change s l taken given core.next) (trade:Trade s taken given core) :
  Flow s l core.dispatch := by
 obtain ⟨moved,hbusy,hmoved⟩:=weigh_dispatch core
 have hchange:Change s l taken given core.dispatch.next:=by
  rw[(sameControl_dispatch core).next]
  exact change
 refine .intro moved hchange (fun w=>?_) ?_ ?_ ?_
 · have:=hmoved w
   have:=trade.weigh w
   omega
 · rw[(sameControl_dispatch core).activity]
   exact trade.activity
 · have:=trade.busy
   omega
 · rw[(sameControl_dispatch core).activity]
   exact trade.closed

lemma Flow.schedule (h:Flow s l u) : Flow s l u.scheduleManager := by
 obtain ⟨moved,change,weigh,activity,busy,closed⟩:=h
 have hsame:SameTokens u u.scheduleManager:=⟨rfl,rfl,rfl,rfl,rfl,rfl,rfl,rfl,rfl,rfl⟩
 refine .intro moved change (fun w=>?_) activity busy closed
 rw[hsame.weigh]
 exact weigh w

lemma Flow.accounts (h:Flow s l s') (hs:Accounts s) : Accounts s' := by
 obtain ⟨moved,change,weigh,activity,busy,closed⟩:=h
 have hheld:=weigh held
 have hoccupied:=weigh occupied
 rw[total_map_const held (c := 1) (fun _=>rfl),total_map_const held (c := 1) (fun _=>rfl)] at hheld
 rw[total_map_const occupied (c := 0) (fun _=>rfl),total_map_const occupied (c := 1) (fun _=>rfl)] at hoccupied
 have:=hs.activity
 have:=hs.busy
 exact ⟨by omega,by omega⟩

lemma Flow.closed (h:Flow s l s') :
  Closed s.activity→ Closed s'.activity := by
 obtain ⟨moved,change,weigh,activity,busy,closed⟩:=h
 exact closed

lemma Flow.trade (h:Flow s l s') (w:Token→ℕ)
  (hw:∀ t,w (.queued t)=w (.spawned t)) : ∃ taken given next,Change s l taken given next ∧
   s'.next=next∧s'.weigh w+total w taken=s.weigh w+total w given := by
 obtain ⟨moved,change,weigh,activity,busy,closed⟩:=h
 have heq:=weigh w
 rw[total_map_congr hw] at heq
 exact ⟨_,_,_,change,rfl,Nat.add_right_cancel heq⟩

lemma flow_of_move (hordered:s.Ordered byPriority)
  (hs:Accounts s) (h:Move byPriority s l s') : Flow s l s' := by
 have hsame:SameTokens s s:=⟨rfl,rfl,rfl,rfl,rfl,rfl,rfl,rfl,rfl,rfl⟩
 cases h with
 | unchanged hl => exact .still (.none (.inl hl)) (trade_none hsame rfl rfl)
 | waited hl =>
  exact .still (.none (.inr hl))
   (trade_none ⟨rfl,rfl,rfl,rfl,rfl,rfl,rfl,rfl,rfl,rfl⟩ rfl rfl)
 | entered context priority => exact .still (.entered context priority) (trade_enter s context priority)
 | refused ht => exact .still (.refused _) (trade_refuse ht)
 | reserved ht hopen hroom => exact .still (.reserved _ hopen) (trade_reserve ht hroom)
 | accepted ht => exact .still (.accepted _) (trade_accept ht)
 | failed ht => exact .still (.failed _) (trade_fail hs ht)
 | rechecked hr => exact .still .rechecked (trade_recheck hr)
 | cancelled t task =>
  exact .still (.cancelled t)
   (trade_post ⟨rfl,rfl,rfl,rfl,rfl,rfl,rfl,rfl,rfl,rfl⟩ rfl rfl rfl rfl)
 | @opened executors config context _ _ =>
  exact .still (.opened config context executors) (trade_start s executors context)
 | stored hc => exact .still (.stored _ _) (trade_store hc)
 | launched hc => exact .still (.launched _) (trade_launch hc)
 | closed _ => exact .still .closed (trade_close s)
 | joined _ => exact .still .joined (trade_join s)
 | stopPosted hstops => exact .still .stopPosted (trade_postStop hstops)
 | stopReturned hw => exact .still .stopReturned (trade_stopReturns hw)
 | startedLate moment hh _ | promotedLate moment hh | managerStopped moment hh =>
  exact .still (.handled _ moment (by simp))
   (trade_unpost hh ⟨rfl,rfl,rfl,rfl,rfl,rfl,rfl,rfl,rfl,rfl⟩ rfl rfl rfl rfl)
 | started moment hh _ | stopped moment hh =>
  exact .dispatch (.handled _ moment (by simp))
   (trade_unpost hh ⟨rfl,rfl,rfl,rfl,rfl,rfl,rfl,rfl,rfl,rfl⟩ rfl rfl rfl rfl)
 | inserted moment hh hcore =>
  obtain ⟨hnext,htrade⟩:=trade_insert hordered hh hcore
  exact .dispatch (hnext▸ .inserted _ moment) htrade
 | promoted moment hh hcore =>
  have hu:=trade_unpost hh ⟨rfl,rfl,rfl,rfl,rfl,rfl,rfl,rfl,rfl,rfl⟩ rfl rfl rfl rfl
  obtain ⟨hnext,htrade⟩:=trade_rearranged hu hordered hcore
  exact .dispatch (hnext▸ .handled _ moment (by simp)) htrade
 | completed moment hh => exact .dispatch (.handled _ moment (by simp)) (trade_complete hs hh)
 | checked moment hh =>
  have hu:=trade_unpost hh ⟨rfl,rfl,rfl,rfl,rfl,rfl,rfl,rfl,rfl,rfl⟩ rfl rfl rfl rfl
  obtain ⟨hnext,htrade⟩:=trade_checkDrain hu
  refine .still ?_ htrade
  rw[hnext]
  exact .handled .checkDrain moment (by simp)
 | resized config _ =>
  exact Flow.schedule (.dispatch (.none (.inr trivial))
   (trade_none ⟨rfl,rfl,rfl,rfl,rfl,rfl,rfl,rfl,rfl,rfl⟩ rfl rfl))
 | @expired waits core wait now hcore =>
  have hu:Trade s [] [] { s with deadlineWaits:=waits,armedAt := none } :=
   trade_none ⟨rfl,rfl,rfl,rfl,rfl,rfl,rfl,rfl,rfl,rfl⟩ rfl rfl
  obtain ⟨hnext,htrade⟩:=trade_rearranged hu hordered hcore
  exact .dispatch (hnext▸ .none (.inr trivial)) htrade
 | released hl =>
  exact .still (.released hl)
   (trade_post ⟨rfl,rfl,rfl,rfl,rfl,rfl,rfl,rfl,rfl,rfl⟩ rfl rfl rfl rfl)
 | invoked ht => exact .still (.invoked _) (trade_invoke ht)
 | finished ht => exact .still (.finished _) (trade_finish ht)

end ServiceLib.QueuedPool
