import ServiceLib.KafkaLanesRuns
import ServiceLib.KafkaLanesWork

set_option autoImplicit false
attribute [-instance] instBooleanRingBool

/-!
# Stopping the Kafka endpoint

The request to stop is kept unless it comes before the consumer's `start` has set `running`; when
it is kept, the poll loop polls at most once more and `stop` returns.
-/
namespace ServiceLib.KafkaStop
open Transition List Option

inductive Thread
 | none
 | created
 | running
 | ended
deriving DecidableEq

inductive Stopping
 | idle
 | exchanged
 | flagged
 | cancelled
 | joining
 | joined
deriving DecidableEq

/-- `stopped` is what the endpoint's `acquire` reads, `requestStopped` the stop state of
its request stop source. -/
structure State where
 client : KafkaLanes.State
 started : Bool := false
 stopped : Bool := true
 requestStopped : Bool := false
 thread : Thread := .none
 stopping : Stopping := .idle

def State.initial (tracingEnabled:Bool) : State :=
 { client := .initial tracingEnabled }

/-- `begin` is the call of the consumer's `start` by the thread, up to the end of
`initialize`; `refuse` is such a call on a consumer that was started before. -/
inductive Label
 | start (threadCreated:Bool)
 | begin (initialized:Bool)
 | refuse
 | client (l:KafkaLanes.Label)
 | leave
 | stop
 | advance
deriving DecidableEq

namespace State

def start (s:State) (threadCreated:Bool) : State :=
 if threadCreated then
  { s with started := true,requestStopped := false,stopped := false,thread := .created }
 else { s with requestStopped := false,stopped := false }

def advance (s:State) : Option State :=
 match s.stopping with
 | .idle => none
 | .exchanged => some { s with stopped := true,stopping := .flagged }
 | .flagged => some { s with requestStopped := true,stopping := .cancelled }
 | .cancelled =>
  some { s with client := { s.client with running := false },stopping := .joining }
 | .joining =>
  match s.thread with
  | .none | .ended => some { s with thread := .none,stopping := .joined }
  | _ => none
 | .joined => some { s with stopping := .idle }

end State

/-- A `start` of the endpoint is not called while a `stop` is under way. A `stop` that
finds `started` cleared returns at once. -/
def step (s:State) : Label → Option State
 | .start threadCreated =>
  if !s.started ∧ s.stopping = .idle then some (s.start threadCreated) else none
 | .begin initialized =>
  if s.thread = .created ∧ !s.client.started then
   (KafkaLanes.step s.client (.start initialized)).map fun client =>
    { s with client := client,thread := if initialized then .running else .ended }
  else none
 | .refuse =>
  if s.thread = .created ∧ s.client.started then some { s with thread := .ended } else none
 | .client (.start _) => none
 | .client l => (KafkaLanes.step s.client l).map fun client=>{ s with client := client }
 | .leave =>
  if s.thread = .running ∧ s.client.main.ended then some { s with thread := .ended } else none
 | .stop =>
  if s.stopping = .idle ∧ s.started then some { s with started := false,stopping := .exchanged }
  else some s
 | .advance => s.advance

def internal : Label → Bool
 | .begin _ | .refuse | .leave | .advance => true
 | .client l => l.internal
 | .start _ | .stop => false

def isPoll : Label → Bool
 | .client (.poll _) => true
 | _ => false

def isStart : Label → Bool
 | .start _ => true
 | _ => false

def early (s:State) : Bool :=
 match s.thread,s.client.main with
 | .created,.idle | .running,.initialized | .running,.claimed => true
 | _,_ => false

def begun : KafkaLanes.Main → Bool
 | .idle | .initialized => false
 | _ => true

structure Linked (s:State) : Prop where
 shape : KafkaLanes.Shape s.client
 started : s.client.started = begun s.client.main
 running : s.thread = .running → s.client.main ≠ .idle
 resting : s.thread ≠ .running → s.client.main = .idle ∨ s.client.main.ended = true
 free : s.started = false → s.stopping = .idle ∨ s.stopping = .joined → s.thread = .none

inductive MainStep (s s':KafkaLanes.State) : Prop
 | same (hmain:s'.main = s.main) (hstarted:s'.started = s.started)
 | claims (h:s.main = .initialized) (hmain:s'.main = .claimed) (hstarted:s'.started = true)
 | goes (h:begun s.main = true) (hended:s.main.ended = false) (hpast:s'.main.past = true)
  (hstarted:s'.started = s.started)

attribute [grind =] begun early

lemma mainStep_move {s s':KafkaLanes.State} {l:KafkaLanes.Label} (h:KafkaLanes.Move s l s')
  (hl:∀ b,l≠ .start b) : MainStep s s' := by
 grind[MainStep,KafkaLanes.State.goto,KafkaLanes.State.notify,KafkaLanes.State.setLane,
  KafkaLanes.State.rememberError,KafkaLanes.State.setWorker]

lemma MainStep.started {s s':KafkaLanes.State} (h:MainStep s s') (hs:s.started=begun s.main) :
  s'.started=begun s'.main := by
 cases h with
 | goes h hended hpast hstarted =>
  rw[hstarted,hs,h]
  cases hmain:s'.main <;> grind
 | _ => grind

inductive Move (s:State) : Label → State → Prop
 | starts {threadCreated:Bool} (hstarted:s.started = false) (h:s.stopping = .idle) :
  Move s (.start threadCreated) (s.start threadCreated)
 | begins {client:KafkaLanes.State} {initialized:Bool} (h:s.thread = .created)
  (hnew:s.client.started = false)
  (hclient:KafkaLanes.step s.client (.start initialized) = some client) :
  Move s (.begin initialized)
   { s with client := client,thread := if initialized then .running else .ended }
 | refuses (h:s.thread = .created) (hstarted:s.client.started = true) :
  Move s .refuse { s with thread := .ended }
 | client {l:KafkaLanes.Label} {client:KafkaLanes.State} (hl:∀ b,l ≠ .start b)
  (h:KafkaLanes.step s.client l = some client) : Move s (.client l) { s with client := client }
 | leaves (h:s.thread = .running) (hended:s.client.main.ended = true) :
  Move s .leave { s with thread := .ended }
 | stops (h:s.stopping = .idle) (hstarted:s.started = true) :
  Move s .stop { s with started := false,stopping := .exchanged }
 | stopReturns : Move s .stop s
 | flags (h:s.stopping = .exchanged) : Move s .advance { s with stopped := true,stopping := .flagged }
 | cancels (h:s.stopping = .flagged) :
  Move s .advance { s with requestStopped := true,stopping := .cancelled }
 | requests (h:s.stopping = .cancelled) :
  Move s .advance { s with client := { s.client with running := false },stopping := .joining }
 | joins (h:s.stopping = .joining) (hthread:s.thread = .none ∨ s.thread = .ended) :
  Move s .advance { s with thread := .none,stopping := .joined }
 | returns (h:s.stopping = .joined) : Move s .advance { s with stopping := .idle }

attribute [grind cases] Move MainStep
attribute [grind =] State.start

variable {s s' t:State} {l:Label} {ls:List Label}

lemma move_of_step (hstep:step s l=some s') : Move s l s' := by
 cases l with
 | client l =>
  cases l with
  | start b => cases hstep
  | stop =>
   cases hstep
   exact .client (fun _ hl=>by cases hl) rfl
  | _ =>
   obtain ⟨client,hclient,rfl⟩:=map_eq_some_iff.mp hstep
   exact .client (fun _ hl=>by cases hl) hclient
 | begin initialized =>
  simp only[step] at hstep
  split at hstep
  · next h =>
    obtain ⟨client,hclient,rfl⟩:=map_eq_some_iff.mp hstep
    exact .begins h.1 (by simpa using h.2) hclient
  · cases hstep
 | advance =>
  simp only[step,State.advance] at hstep
  split at hstep <;> grind[Move]
 | _ => grind[step,Move]

lemma shape_clear {s:KafkaLanes.State} (hs:KafkaLanes.Shape s) :
  KafkaLanes.Shape { s with running := false } :=
 KafkaLanes.shape_move hs .stop

lemma Linked.idle (hs:Linked s) (h:s.thread=.created) (hnew:s.client.started=false) :
  s.client.main=.idle := by
 have:=hs.resting
 have:=hs.started
 cases hmain:s.client.main <;> grind

lemma Linked.client {client:KafkaLanes.State} {l:KafkaLanes.Label} (hs:Linked s)
  (hl:∀ b,l≠ .start b) (hmove:KafkaLanes.Move s.client l client) : Linked { s with client := client } := by
 have hmain:=mainStep_move hmove hl
 have:=hs.running
 have:=hs.resting
 refine ⟨KafkaLanes.shape_move hs.shape hmove,hmain.started hs.started,fun hr=>?_,fun hr=>?_,hs.free⟩
 · cases hmain <;> grind
 · cases hmain <;> grind

lemma linked_move (hs:Linked s) (h:Move s l s') : Linked s' := by
 cases h with
 | @begins client initialized h hnew hclient =>
  have hidle:=hs.idle h hnew
  have hshape:=KafkaLanes.shape_move hs.shape (KafkaLanes.move_of_step hclient)
  have:=hs.started
  have:=hs.free
  simp only[KafkaLanes.step,hidle,KafkaLanes.State.goto] at hclient
  constructor <;> grind
 | client hl h => exact hs.client hl (KafkaLanes.move_of_step h)
 | requests h => exact ⟨shape_clear hs.shape,hs.started,hs.running,hs.resting,by grind⟩
 | _ =>
  obtain ⟨hshape,hstarted,hrunning,hresting,hfree⟩:=hs
  constructor <;> grind

lemma linked_initial (tracingEnabled:Bool) : Linked (.initial tracingEnabled) :=
 ⟨KafkaLanes.shape_initial tracingEnabled,rfl,fun h=>(by cases h),fun _=>.inl rfl,fun _ _=>rfl⟩

structure Kept (s:State) : Prop where
 linked : Linked s
 clear : s.client.running = false
 late : early s = false

lemma Kept.main (hs:Kept s) :
  s.client.main≠ .initialized∧s.client.main≠ .claimed := by
 have:=hs.late
 have:=hs.linked.resting
 grind

lemma Kept.begin_impossible (hs:Kept s) (h:s.thread=.created)
  (hnew:s.client.started=false) : False := by
 have:=hs.linked.idle h hnew
 have:=hs.late
 grind

lemma kept_move (hs:Kept s) (h:Move s l s')
  (hl:isStart l=false) : Kept s' := by
 refine ⟨linked_move hs.linked h,?_,?_⟩
 · have:=hs.clear
   cases h with
   | begins h hnew hclient => exact (hs.begin_impossible h hnew).elim
   | client hl' h => exact KafkaLanes.running_move (KafkaLanes.move_of_step h) hs.main.2 hs.clear
   | _ => grind
 · have:=hs.late
   cases h with
   | starts => cases hl
   | begins h hnew hclient => exact (hs.begin_impossible h hnew).elim
   | client hl' h =>
    have:=hs.main
    have:=mainStep_move (KafkaLanes.move_of_step h) hl'
    grind
   | _ => grind

lemma kept_exec (hs:Kept s) (hls:∀ l∈ls,isStart l=false)
  (hrun:exec step s ls=some t) : Kept t := by
 refine exec_invariant_along ?_ hs (along_of_forall hls) hrun
 exact fun _ _ _ hs hl hstep=>kept_move hs (move_of_step hstep) hl

def polling (s:State) : ℕ :=
 if s.client.main = .polling then 1 else 0

lemma polling_client {s s':KafkaLanes.State} {l:KafkaLanes.Label} (h:KafkaLanes.Move s l s')
  (hclear:s.running=false) (hpoll:s'.main=.polling∨∃ result,l=.poll result) :
  s.main=.polling∧(s'.main=.polling→∀ result,l≠ .poll result) := by
 cases h with
 | _ =>
  try simp only[KafkaLanes.State.setWorker,KafkaLanes.State.setLane,KafkaLanes.State.goto,
   KafkaLanes.State.rememberError] at hpoll ⊢
  grind

attribute [grind =] isPoll polling

lemma polling_move (hs:Kept s) (h:Move s l s')
  (hl:isStart l=false) : [l].countP isPoll+polling s'≤polling s := by
 rw[countP_singleton]
 cases h with
 | starts => cases hl
 | begins h hnew hclient => exact (hs.begin_impossible h hnew).elim
 | @client l client hl' h =>
  have:=polling_client (KafkaLanes.move_of_step h) hs.clear
  cases l <;> grind
 | _ => grind

lemma polls_bounded (hs:Kept s)
  (hls:∀ l∈ls,isStart l=false) (hrun:exec step s ls=some t) :
  ls.countP isPoll+polling t≤polling s := by
 refine exec_count_along ?_ ?_ hs (along_of_forall hls) hrun
 · exact fun _ _ _ hs hl hstep=>kept_move hs (move_of_step hstep) hl
 · exact fun _ _ _ hs hl hstep=>polling_move hs (move_of_step hstep) hl

def Thread.work : Thread → ℕ
 | .none | .ended => 0
 | .created | .running => 1

def Stopping.work : Stopping → ℕ
 | .idle => 0
 | .joined => 1
 | .joining => 2
 | .cancelled => 3
 | .flagged => 4
 | .exchanged => 5

def work (s:State) : ℕ :=
 s.client.remaining + s.thread.work + s.stopping.work

attribute [grind =] internal Thread.work Stopping.work

lemma work_move (hs:Kept s) (h:Move s l s')
  (hl:internal l=true) : work s' < work s := by
 unfold work
 cases h with
 | begins h hnew hclient => exact (hs.begin_impossible h hnew).elim
 | client hl' h =>
  have:=KafkaLanes.remaining_move hs.linked.shape (KafkaLanes.move_of_step h) hl hs.main.1 hs.main.2 hs.clear
  grind
 | requests h =>
  have : KafkaLanes.State.remaining { s.client with running:=false }=s.client.remaining := rfl
  grind
 | _ => grind

lemma not_start_of_internal (h:internal l=true) : isStart l=false := by
 cases l with
 | start threadCreated => cases h
 | _ => rfl

lemma steps_bounded (hs:Kept s)
  (hls:∀ l∈ls,internal l=true) (hrun:exec step s ls=some t) :
  ls.length+work t≤work s := by
 refine exec_work_along (I := Kept) ?_ ?_ hs (along_of_forall hls) hrun
 · exact fun _ _ _ hs hl hstep=>kept_move hs (move_of_step hstep) (not_start_of_internal hl)
 · exact fun _ _ _ hs hl hstep=>work_move hs (move_of_step hstep) hl

lemma idle_of_stuck (hs:Kept s) (hstuck:∀ l,internal l=true→ step s l=none) :
  s.stopping=.idle := by
 have hstep:∀ {l:Label},internal l=true→(step s l).isSome→ False:=by
  intro l hl hsome
  rw[hstuck l hl] at hsome
  cases hsome
 have hthread:s.thread=.none∨s.thread=.ended:=by
  cases h:s.thread with
  | none => exact .inl rfl
  | ended => exact .inr rfl
  | created =>
   cases hstarted:s.client.started with
   | true => exact (hstep (l := .refuse) rfl (by simp[step,h,hstarted])).elim
   | false => exact (hs.begin_impossible h hstarted).elim
  | running =>
   cases hended:s.client.main.ended with
   | true => exact (hstep (l := .leave) rfl (by simp[step,h,hended])).elim
   | false =>
    have hpast:s.client.main.past=true:=by
     have hidle:=hs.linked.running h
     have hmain:=hs.main
     cases hm:s.client.main with
     | idle => exact absurd hm hidle
     | initialized => exact absurd hm hmain.1
     | claimed => exact absurd hm hmain.2
     | _ => rfl
    obtain ⟨l,hl,hsome⟩:=KafkaLanes.exists_internal_step hs.linked.shape hpast hended
    refine (hstep (l := .client l) hl ?_).elim
    cases l with
    | start b => cases hl
    | _ =>
     simp only[step,isSome_map]
     exact hsome
 cases h:s.stopping with
 | idle => rfl
 | exchanged | flagged | cancelled | joined =>
  exact (hstep (l := .advance) rfl (by simp[step,State.advance,h])).elim
 | joining =>
  refine (hstep (l := .advance) rfl ?_).elim
  rcases hthread with hthread | hthread <;> simp[step,State.advance,h,hthread]

lemma exec_rounds (hmain:s.client.main=.looping) (hrun:s.client.running=true)
  (n:ℕ) : exec step s (List.replicate n [Label.client .advance,Label.client (.poll none)]).flatten =
   some s := by
 have hround:exec step s [Label.client .advance,Label.client (.poll none)]=some s:=by
  have hclient:s.client.goto .looping=s.client:=by
   rw[← hmain]
   rfl
  simp only[exec,step,KafkaLanes.step,KafkaLanes.State.advance,hmain,hrun,if_true,
   map_some,bind_some,KafkaLanes.State.goto,KafkaLanes.State.polled] at hclient ⊢
  rw[hclient]
 induction n with
 | zero => rfl
 | succ n ih =>
  rw[replicate_succ,flatten_cons]
  exact exec_append hround ih

lemma countP_rounds (n:ℕ) :
  (List.replicate n [Label.client .advance,Label.client (.poll none)]).flatten.countP isPoll=n := by
 induction n with
 | zero => rfl
 | succ n ih =>
  rw[replicate_succ,flatten_cons,countP_append,ih]
  exact Nat.add_comm 1 n

def Looping (s t:State) : Prop :=
 t.client.main = .looping ∧ t.client.running = true ∧ t.stopping = s.stopping

lemma exec_claimed (hmain:s.client.main=.claimed) :
  ∃ t,exec step s [.client .advance]=some t∧Looping s t := by
 refine ⟨{ s with client := { s.client with running := true,main := .looping } },?_,rfl,rfl,rfl⟩
 simp only[exec,step,KafkaLanes.step,KafkaLanes.State.advance,hmain]
 rfl

lemma exec_initialized (hmain:s.client.main=.initialized) :
  ∃ t,exec step s [.client .advance,.client .advance]=some t∧Looping s t := by
 have hclaim:step s (.client .advance) =
  some { s with client := { s.client with started := true,main := .claimed } }:=by
  simp only[step,KafkaLanes.step,KafkaLanes.State.advance,hmain]
  rfl
 obtain ⟨t,ht,hloop⟩:=exec_claimed
  (s := { s with client := { s.client with started := true,main := .claimed } }) rfl
 exact ⟨t,exec_cons.mpr ⟨_,hclaim,ht⟩,hloop⟩

lemma exec_created (hthread:s.thread=.created) (hmain:s.client.main=.idle)
  (hstarted:s.client.started=false) :
  ∃ t,exec step s [.begin true,.client .advance,.client .advance]=some t∧Looping s t := by
 have hbegin:step s (.begin true) =
  some { s with client := { s.client with main := .initialized },thread := .running }:=by
  simp[step,hthread,hstarted,KafkaLanes.step,hmain,KafkaLanes.State.goto]
 obtain ⟨t,ht,hloop⟩:=exec_initialized
  (s := { s with client := { s.client with main := .initialized },thread := .running }) rfl
 exact ⟨t,exec_cons.mpr ⟨_,hbegin,ht⟩,hloop⟩

lemma exec_early (hs:Linked s) (hearly:early s=true) :
  ∃ ls t,exec step s ls=some t∧(∀ l∈ls,isStart l=false)∧Looping s t := by
 unfold early at hearly
 split at hearly
 · next hthread hmain =>
   have hstarted:=hs.started
   rw[hmain] at hstarted
   obtain ⟨t,ht,hloop⟩:=exec_created hthread hmain hstarted
   exact ⟨_,t,ht,by decide,hloop⟩
 · next hthread hmain =>
   obtain ⟨t,ht,hloop⟩:=exec_initialized hmain
   exact ⟨_,t,ht,by decide,hloop⟩
 · next hthread hmain =>
   obtain ⟨t,ht,hloop⟩:=exec_claimed hmain
   exact ⟨_,t,ht,by decide,hloop⟩
 · cases hearly

/-- After a request that came too early the poll loop polls as often as it likes, and the
call of `stop` goes on joining. -/
lemma polls_without_bound (hs:Linked s) (hearly:early s=true) (n:ℕ) :
  ∃ more t,exec step s more=some t∧(∀ l∈more,isStart l=false) ∧
   n≤ more.countP isPoll∧t.stopping=s.stopping := by
 obtain ⟨ls,t,ht,hls,hmain,hrun,hstopping⟩:=exec_early hs hearly
 refine ⟨ls++(List.replicate n [Label.client .advance,Label.client (.poll none)]).flatten,t,
  exec_append ht (exec_rounds hmain hrun n),fun l hl=>?_,?_,hstopping⟩
 · rcases mem_append.mp hl with hl | hl
   · exact hls l hl
   · obtain ⟨round,hround,hl⟩:=mem_flatten.mp hl
     rw[eq_of_mem_replicate hround] at hl
     rcases mem_cons.mp hl with rfl | hl
     · rfl
     · rw[mem_singleton.mp hl]
       rfl
 · rw[countP_append,countP_rounds]
   exact Nat.le_add_left n _

lemma run_linked {tracingEnabled:Bool} {labels:List Label}
  (hrun:exec step (.initial tracingEnabled) labels=some s) : Linked s :=
 exec_invariant (fun _ _ _ hs hstep=>linked_move hs (move_of_step hstep))
  (linked_initial tracingEnabled) hrun

/-- For every run up to the moment at which the endpoint's `stop` requests the stop of the
consumer: the number of further polls is bounded if and only if the consumer's `start`
is not between the creation of its thread and its store to `running`. In that case there
is at most one further poll, the threads can take only a bounded number of steps by
themselves, and when they have none left `stop` has returned. -/
theorem stop_kept_iff (tracingEnabled : Bool) (labels : List Label) (s s' : State)
  (hrun : exec step (.initial tracingEnabled) labels = some s) (hstop : s.stopping = .cancelled)
  (hstep : step s .advance = some s') :
  ((∃ n, ∀ more t, (∀ l ∈ more, isStart l = false) → exec step s' more = some t →
   more.countP isPoll ≤ n) ↔ early s = false) ∧
  (early s = false →
   (∀ more t, (∀ l ∈ more, isStart l = false) → exec step s' more = some t →
    more.countP isPoll ≤ 1) ∧
   (∀ ls t, (∀ l ∈ ls, internal l = true) → exec step s' ls = some t → ls.length ≤ work s') ∧
   ∀ more t, (∀ l ∈ more, isStart l = false) → exec step s' more = some t →
    (∀ l, internal l = true → step t l = none) → t.stopping = .idle) := by
 have hs:=run_linked hrun
 have hs':=linked_move hs (move_of_step hstep)
 obtain rfl:s'={ s with client:={ s.client with running := false },stopping := .joining }:=by
  simp only[step,State.advance,hstop] at hstep
  exact (some.inj hstep).symm
 have hkept:early s=false →
  Kept { s with client := { s.client with running := false },stopping := .joining } :=
  fun hlate=>⟨hs',rfl,hlate⟩
 have hpolls:early s=false→∀ more t,(∀ l∈more,isStart l=false) →
  exec step { s with client := { s.client with running := false },stopping := .joining } more =
   some t→ more.countP isPoll≤1:=by
  intro hlate more t hmore ht
  have hbound:=polls_bounded (hkept hlate) hmore ht
  have hone:polling { s with client:={ s.client with running := false },stopping := .joining } ≤
   1:=by
   unfold polling
   split <;> omega
  omega
 refine ⟨⟨fun ⟨n,hn⟩=>?_,fun hlate=>⟨1,hpolls hlate⟩⟩,fun hlate =>
  ⟨hpolls hlate,fun ls t hls ht=>?_,fun more t hmore ht hstuck=>?_⟩⟩
 · by_contra hearly
   obtain ⟨more,t,ht,hmore,hcount,-⟩:=polls_without_bound hs'
    (show early { s with client := { s.client with running := false },stopping := .joining }=true
     from Bool.not_eq_false _▸hearly) (n+1)
   have hle:=hn more t hmore ht
   omega
 · have hbound:=steps_bounded (hkept hlate) hls ht
   omega
 · exact idle_of_stuck (kept_exec (hkept hlate) hmore ht) hstuck

def stoppedLate : List Label :=
 [.start true,.begin true,.client .advance,.client .advance,.stop,.advance,.advance]

theorem stop_kept_late : ∃ s s', exec step (.initial false) stoppedLate = some s ∧
  step s .advance = some s' ∧ early s = false ∧
  ∀ more t, (∀ l ∈ more, isStart l = false) → exec step s' more = some t → more.countP isPoll ≤ 1 :=
 ⟨_,_,rfl,rfl,rfl,((stop_kept_iff false stoppedLate _ _ rfl rfl rfl).2 rfl).1⟩

def stoppedAtOnce : List Label :=
 [.start true,.stop,.advance,.advance]

theorem stop_lost : ∃ s s', exec step (.initial false) stoppedAtOnce = some s ∧
  step s .advance = some s' ∧ s'.stopping = .joining ∧
  ∀ n, ∃ more t, exec step s' more = some t ∧ (∀ l ∈ more, isStart l = false) ∧
   n ≤ more.countP isPoll ∧ t.stopping = .joining := by
 have hrun:∃ s s',exec step (.initial false) stoppedAtOnce=some s ∧
  step s .advance=some s'∧s'.stopping=.joining∧early s'=true :=
  ⟨_,_,rfl,rfl,rfl,rfl⟩
 obtain ⟨s,s',hs,hs',hjoining,hearly⟩:=hrun
 refine ⟨s,s',hs,hs',hjoining,fun n=>?_⟩
 obtain ⟨more,t,ht,hmore,hcount,hstopping⟩:=
  polls_without_bound (linked_move (run_linked hs) (move_of_step hs')) hearly n
 exact ⟨more,t,ht,hmore,hcount,hstopping.trans hjoining⟩

end ServiceLib.KafkaStop
