import ServiceLib.KafkaLanesMoves

set_option autoImplicit false
attribute [-instance] instBooleanRingBool

/-!
# What the lanes hand to the handler

`Flow` says where the polled messages of a partition are, `Turns` that its handler calls do not
overlap, and `quota` bounds what a lane can still begin after the consumer was halted.
-/
namespace ServiceLib.KafkaLanes
open Transition Function List

lemma polledOf_append (p:UInt32) (es new:List Event) :
  polledOf p (es++new)=polledOf p es++polledOf p new :=
 filterMap_append

lemma begunOf_append (p:UInt32) (es new:List Event) :
  begunOf p (es++new)=begunOf p es++begunOf p new :=
 filterMap_append

lemma callsOf_append (p:UInt32) (es new:List Event) :
  callsOf p (es++new)=callsOf p es++callsOf p new :=
 filter_append ..

lemma polledOf_singleton (p:UInt32) (e:Event) :
  polledOf p [e]=match e with | .polled m => if m.partition=p then [m] else [] | _ => [] := by
 cases e <;> grind[polledOf]

lemma begunOf_singleton (p:UInt32) (e:Event) :
  begunOf p [e]=match e with | .begun q m => if q=p then [m] else [] | _ => [] := by
 cases e <;> grind[begunOf]

lemma callsOf_singleton (p:UInt32) (e:Event) :
  callsOf p [e]=match e with | .begun q _ | .finished q _ => if q=p then [e] else [] | .polled _ => [] := by
 cases e <;> grind[callsOf]

lemma of_nil (p:UInt32) : polledOf p []=[]∧begunOf p []=[]∧callsOf p []=[] :=
 ⟨rfl,rfl,rfl⟩

attribute [grind =] polledOf_singleton begunOf_singleton callsOf_singleton events

def Worker.holds : Worker → List QueuedMessage
 | .taken m => [m]
 | _ => []

def Main.carries (p:UInt32) : Main → List QueuedMessage
 | .enqueuing m | .pushing m => if m.partition = p then [m] else []
 | _ => []

def Main.keeps : Main → Bool
 | .idle | .initialized | .claimed | .looping | .polling | .enqueuing _ | .pushing _ | .notifying _ =>
  true
 | _ => false

def held (s:State) (p:UInt32) : List QueuedMessage :=
 (s.lane p).worker.holds ++ (s.lane p).messages ++ s.main.carries p

def Flow (s:State) (es:List Event) : Prop :=
 ∀ p,∃ dropped,(polledOf p es).map dispatch = begunOf p es ++ (held s p ++ dropped).map dispatch ∧
  (s.main.keeps = true → dropped = [])
attribute [grind =] held Worker.holds Main.carries Main.keeps

variable {s s':State} {l:Label}

/-- What a step does to the messages of a partition: those it held and those polled are handed
over, held or lost. -/
lemma held_move (hshape:Shape s) (h:Move s l s') (q:UInt32) :
  ∃ lost,(held s q++polledOf q (events s l s')).map dispatch =
    begunOf q (events s l s')++(held s' q++lost).map dispatch ∧
   (s'.main.keeps=true→ lost=[]∧s.main.keeps=true) ∧
   (s.main.keeps=true∨polledOf q (events s l s')=[]) := by
 have ⟨hpolled,hbegun,_⟩:=of_nil q
 cases h with
 | @creates m exception worker main h hnew hcreated =>
  have hblank:s.lane m.partition={}:=hshape.blank (by rw[h]; rfl) _ hnew
  simp only[State.setLane,State.goto]
  cases hcreated with
  | ready => exact ⟨[],by grind[update_apply]⟩
  | threw what => exact ⟨(Main.enqueuing m).carries q,by grind[update_apply]⟩
 | @stops p ps h =>
  simp only[State.setLane,State.goto]
  exact ⟨if q=p then (s.lane p).messages else [],by grind[update_apply]⟩
 | @notifies p h | @notifiesAll p ps h =>
  have:=notify_lane s p q
  simp only[State.goto]
  exact ⟨[],by grind⟩
 | goes h =>
  simp only[State.goto]
  cases h with
  | @skipped result => cases result <;> exact ⟨[],by grind⟩
  | _ => exact ⟨[],by grind⟩
 | _ =>
  refine ⟨[],?_⟩
  try simp only[State.setWorker,State.setLane,State.goto,State.rememberError]
  have : s.main.keeps=true∨s.main.keeps=false:=by cases s.main.keeps <;> simp
  grind[update_apply]

lemma flow_move {es:List Event} (hshape:Shape s) (hs:Flow s es)
  (h:Move s l s') : Flow s' (es++events s l s') := by
 intro q
 obtain ⟨dropped,hflow,hnone⟩:=hs q
 obtain ⟨lost,hmoved,hkeeps,hpolled⟩:=held_move hshape h q
 refine ⟨lost++dropped,?_,fun h=>by simp[(hkeeps h).1,hnone (hkeeps h).2]⟩
 rw[polledOf_append,begunOf_append,map_append,hflow]
 rcases hpolled with hall | hnew
 · simp only[hnone hall,append_nil,map_append,append_assoc] at hmoved ⊢
   rw[hmoved]
 · simp only[hnew,append_nil,map_append,map_nil,append_assoc] at hmoved ⊢
   rw[hmoved,append_assoc,append_assoc]

def Worker.handles : Worker → List QueuedMessage
 | .handling m => [m]
 | _ => []

/-- The handler calls of a lane follow each other; the last one may still run. -/
def Turns (s:State) (es:List Event) : Prop :=
 ∀ p,∃ done : List ConsumerMessage,
  callsOf p es = done.flatMap (fun m=>[.begun p m,.finished p m]) ++
   (s.lane p).worker.handles.map fun m=>.begun p (dispatch m)

attribute [grind =] Worker.handles

lemma calls_move (hshape:Shape s) (h:Move s l s') (q:UInt32) :
  ∃ done : List ConsumerMessage,
   ((s.lane q).worker.handles.map fun m=>Event.begun q (dispatch m))++callsOf q (events s l s') =
    done.flatMap (fun m=>[.begun q m,.finished q m]) ++
     (s'.lane q).worker.handles.map fun m=>.begun q (dispatch m) := by
 have ⟨_,_,hcalls⟩:=of_nil q
 cases h with
 | @creates m exception worker main h hnew hcreated =>
  have hblank:s.lane m.partition={}:=hshape.blank (by rw[h]; rfl) _ hnew
  simp only[State.setLane,State.goto]
  exact ⟨[],by grind[update_apply]⟩
 | @notifies p h | @notifiesAll p ps h =>
  have:=notify_lane s p q
  simp only[State.goto]
  exact ⟨[],by grind⟩
 | goes h =>
  simp only[State.goto]
  cases h with
  | @skipped result => cases result <;> exact ⟨[],by grind⟩
  | _ => exact ⟨[],by grind⟩
 | @works p l worker h =>
  simp only[State.setWorker,State.setLane]
  cases h with
  | @finishes m | @throws m => exact ⟨if q=p then [dispatch m] else [],by grind[update_apply]⟩
  | _ => exact ⟨[],by grind[update_apply]⟩
 | _ =>
  refine ⟨[],?_⟩
  try simp only[State.setWorker,State.setLane,State.goto,State.rememberError]
  grind[update_apply]

lemma turns_move {es:List Event} (hshape:Shape s) (hs:Turns s es)
  (hmove:Move s l s') : Turns s' (es++events s l s') := by
 intro q
 obtain ⟨done,hdone⟩:=hs q
 obtain ⟨new,hnew⟩:=calls_move hshape hmove q
 exact ⟨done++new,by rw[callsOf_append,hdone,append_assoc,hnew,flatMap_append,append_assoc]⟩

def halted (s:State) : Prop :=
 s.running = false ∧ s.main.past = true

/-- The handler of a lane has thrown, and its worker has not cleared `running` yet. -/
def throwing (s:State) : Prop :=
 ∃ p,(∃ what,(s.lane p).worker = .caught what) ∨ (s.lane p).worker = .remembered

/-- A stop is requested only when `start` has set `running`, and no handler call begins
between an exception of a handler and the store that it leads to. -/
def prompt (s:State) : Label → Prop
 | .stop => s.main.past = true
 | .work p => (∃ m,(s.lane p).worker = .taken m) → ¬ throwing s
 | _ => True

/-- How many handler calls a worker can still begin when `running` is clear. -/
def Worker.quota : Worker → ℕ
 | .absent | .ready | .waiting | .taken _ => 1
 | .handling _ | .handled | .caught _ | .remembered | .ended => 0

def quota (s:State) (p:UInt32) : ℕ :=
 if s.running then 1 else (s.lane p).worker.quota

attribute [grind =] Worker.quota

lemma Worker.quota_le_one (worker:Worker) : worker.quota≤1 := by
 cases worker <;> simp[Worker.quota]

lemma quota_le_one (s:State) (p:UInt32) : quota s p≤1 := by
 grind[quota,Worker.quota_le_one]

lemma past_move (h:Move s l s') (hpast:s.main.past=true) :
  s'.main.past=true := by
 cases h with
 | _ =>
  try simp only[State.setWorker,State.setLane,State.goto,State.rememberError]
  grind[State.notify]

lemma running_move (h:Move s l s') (hclaimed:s.main≠ .claimed)
  (hrun:s.running=false) : s'.running=false := by
 cases h with
 | stores h => exact absurd h hclaimed
 | notifies h | notifiesAll h => exact (notify_running s _).trans hrun
 | stop | workerClears h => rfl
 | _ => exact hrun

lemma halted_move (h:Move s l s') (hs:halted s) : halted s' :=
 ⟨running_move h (by grind[halted]) hs.1,past_move h hs.2⟩

lemma throwing_past (hshape:Shape s) (hs:throwing s) : s.main.past=true := by
 obtain ⟨p,hp⟩:=hs
 have:=hshape.early
 have:=hshape.live p
 grind

lemma throwing_move (hshape:Shape s) (hmove:Move s l s')
  (hs:throwing s) : halted s'∨throwing s' := by
 have hpast:=past_move hmove (throwing_past hshape hs)
 obtain ⟨p,hp⟩:=hs
 suffices s'.running=false∨(∃ what,(s'.lane p).worker=.caught what)∨(s'.lane p).worker=.remembered from
  this.imp (⟨·,hpast⟩) (⟨p,·⟩)
 cases hmove with
 | @creates m exception worker main h hnew hcreated =>
  have hblank:s.lane m.partition={}:=hshape.blank (by rw[h]; rfl) _ hnew
  simp only[State.setLane,State.goto]
  grind[update_apply]
 | @notifies q h | @notifiesAll q ps h =>
  have:=notify_lane s q p
  simp only[State.goto]
  grind
 | _ =>
  try simp only[State.setWorker,State.setLane,State.goto,State.rememberError]
  grind[update_apply]

lemma quota_move (hshape:Shape s) (hmove:Move s l s')
  (hok:prompt s l) (hs:halted s∨throwing s) (p:UInt32) :
  (begunOf p (events s l s')).length+quota s' p≤quota s p := by
 have hpast:s.main.past=true:=hs.elim (·.2) (throwing_past hshape)
 have hwait:s.running=true→∀ m,(s.lane p).worker=.taken m→ l≠ .work p:=by
  rintro hrun m hm rfl
  exact hok ⟨m,hm⟩ (hs.resolve_left fun h=>by simp[h.1] at hrun)
 have ⟨_,hbegun,_⟩:=of_nil p
 have hle:=quota_le_one s' p
 clear hok hs
 cases hmove with
 | @creates m exception worker main h hnew hcreated =>
  have hblank:s.lane m.partition={}:=hshape.blank (by rw[h]; rfl) _ hnew
  simp only[quota,State.setLane,State.goto] at hle ⊢
  grind[update_apply]
 | @notifies q h | @notifiesAll q ps h =>
  have:=notify_lane s q p
  simp only[quota,State.goto,notify_running] at hle ⊢
  grind
 | @goes l main h =>
  simp only[quota,State.goto] at hle ⊢
  cases h with
  | @skipped result => cases result <;> grind
  | _ => grind
 | _ =>
  simp only[quota] at hle ⊢
  try simp only[State.setWorker,State.setLane,State.goto,State.rememberError] at hle ⊢
  grind[update_apply]

lemma run_lanes {tracingEnabled:Bool} {labels:List Label}
  (hrun:exec step (.initial tracingEnabled) labels=some s) :
  Shape s∧Flow s (observe step events (.initial tracingEnabled) labels) ∧
   Turns s (observe step events (.initial tracingEnabled) labels) :=
 exec_observe events (I := fun s es=>Shape s∧Flow s es∧Turns s es)
  (fun _ _ _ _ hs hstep=>⟨shape_move hs.1 (move_of_step hstep),
   flow_move hs.1 hs.2.1 (move_of_step hstep),turns_move hs.1 hs.2.2 (move_of_step hstep)⟩)
  ⟨shape_initial tracingEnabled,fun _=>⟨[],rfl,fun _=>rfl⟩,fun _=>⟨[],rfl⟩⟩ hrun

lemma halted_of_request {labels:List Label} (hshape:Shape s)
  (hok:Along step prompt s labels) (hrun:exec step s labels=some s')
  (hrequest:Label.stop∈labels∨∃ p what,Label.finish p (some what)∈labels) :
  halted s'∨throwing s' := by
 induction labels generalizing s with
 | nil => rcases hrequest with h | ⟨p,what,h⟩ <;> cases h
 | cons l labels ih =>
  obtain ⟨m,hm,hrest⟩:=exec_cons.mp hrun
  have hmove:=move_of_step hm
  have hshape':=shape_move hshape hmove
  have hstays:halted m∨throwing m→ halted s'∨throwing s':=by
   intro hm
   refine (exec_invariant (I := fun t=>Shape t∧(halted t∨throwing t)) ?_ ⟨hshape',hm⟩ hrest).2
   intro t l t' ht hstep
   refine ⟨shape_move ht.1 (move_of_step hstep),?_⟩
   rcases ht.2 with ht' | ht'
   · exact .inl (halted_move (move_of_step hstep) ht')
   · exact throwing_move ht.1 (move_of_step hstep) ht'
  have hsplit:(l=.stop∨∃ p what,l=.finish p (some what)) ∨
   (Label.stop∈labels∨∃ p what,Label.finish p (some what)∈labels):=by
   rcases hrequest with h | ⟨p,what,h⟩
   · grind
   · grind
  rcases hsplit with (rfl | ⟨p,what,rfl⟩) | hlater
  · refine hstays (.inl ?_)
    cases hm
    exact ⟨rfl,hok.1⟩
  · refine hstays (.inr ⟨p,.inl ⟨what,?_⟩⟩)
    simp only[step] at hm
    split at hm <;> cases hm
    change (update s.lane p _ p).worker=_
    rw[update_self]
  · exact ih hshape' (hok.2 m hm) hrest hlater

/-- In every run: what a lane has handed to the handler is a prefix of what was polled for
its partition, and its handler calls follow each other without overlap. After a stop
request or an exception of a handler each lane begins at most one further call,
provided every step is `prompt`. When `start` has ended, so has every worker. A worker
that waits while its queue is not empty is woken by the next step of `start`. -/
theorem lanes_hand_over (tracingEnabled : Bool) (labels : List Label) (s : State)
  (hrun : exec step (.initial tracingEnabled) labels = some s) :
  (∀ p, begunOf p (observe step events (.initial tracingEnabled) labels) <+:
    (polledOf p (observe step events (.initial tracingEnabled) labels)).map dispatch) ∧
  (∀ p, ∃ done current : List ConsumerMessage, current.length ≤ 1 ∧
   callsOf p (observe step events (.initial tracingEnabled) labels) =
    done.flatMap (fun m => [.begun p m, .finished p m]) ++ current.map (.begun p)) ∧
  (Along step prompt (.initial tracingEnabled) labels →
   ∀ before after m, labels = before ++ after →
    exec step (.initial tracingEnabled) before = some m →
    (Label.stop ∈ before ∨ ∃ p what, Label.finish p (some what) ∈ before) →
    ∀ p, (begunOf p (observe step events m after)).length ≤ 1) ∧
  (s.main = .returned ∨ (∃ what, s.main = .threw what) →
   ∀ p, (s.lane p).worker = .absent ∨ (s.lane p).worker = .ended) ∧
  (∀ p, (s.lane p).worker = .waiting →
   (s.lane p).messages ≠ [] ∨ (s.lane p).stopped = true →
   ∃ s', step s .advance = some s' ∧ (s'.lane p).worker = .ready) := by
 obtain ⟨hshape,hflow,hturns⟩:=run_lanes hrun
 refine ⟨fun p=>?_,fun p=>?_,fun hok before after m hlabels hbefore hrequest p=>?_,
  fun hended p=>?_,fun p hw hm=>?_⟩
 · obtain ⟨dropped,heq,-⟩:=hflow p
   rw[heq]
   exact prefix_append _ _
 · obtain ⟨done,hdone⟩:=hturns p
   refine ⟨done,(s.lane p).worker.handles.map dispatch,?_,?_⟩
   · cases (s.lane p).worker <;> simp[Worker.handles]
   · rw[hdone,map_map]
     rfl
 · subst hlabels
   have hafter:exec step m after=some s:=(exec_append_eq hbefore).symm.trans hrun
   have hshapes:=(run_lanes hbefore).1
   have hhalted:=halted_of_request (shape_initial tracingEnabled) (along_append hok) hbefore hrequest
   have hinv:=exec_observe_along events
    (I := fun t es=>Shape t∧(halted t∨throwing t)∧(begunOf p es).length+quota t p≤1)
    (fun t l t' es ht hl hstep=>by
     have hmove:=move_of_step hstep
     refine ⟨shape_move ht.1 hmove,?_,?_⟩
     · grind[halted_move,throwing_move]
     · have hle:=quota_move ht.1 hmove hl ht.2.1 p
       rw[begunOf_append,length_append]
       have hbound:=ht.2.2
       omega)
    ⟨hshapes,hhalted,by simpa[begunOf] using quota_le_one m p⟩ (along_drop hok hbefore) hafter
   have hbound:=hinv.2.2
   omega
 · have hunjoined:s.main.unjoined=some []:=by
    rcases hended with h | ⟨what,h⟩ <;> rw[h] <;> rfl
   have hdead:(s.lane p).worker.live≠true:=fun hlive =>
    not_mem_nil (hshape.joined [] hunjoined p hlive)
   cases hw:(s.lane p).worker with
   | absent => exact .inl rfl
   | ended => exact .inr rfl
   | _ =>
    rw[hw] at hdead
    exact absurd rfl hdead
 · have hdue:=hshape.awake p hw hm
   have hnotified:∀ main,(((s.notify p).goto main).lane p).worker=.ready:=by
    intro main
    change ((s.notify p).lane p).worker=.ready
    unfold State.notify
    rw[hw]
    change (update s.lane p _ p).worker=_
    rw[update_self]
   cases hmain:s.main with
   | notifying q =>
    rw[hmain] at hdue
    cases hdue
    exact ⟨_,by simp only[step,State.advance,hmain],hnotified .looping⟩
   | notifyingAll q ps =>
    rw[hmain] at hdue
    cases hdue
    exact ⟨_,by simp only[step,State.advance,hmain],hnotified (.stopping ps)⟩
   | _ =>
    rw[hmain] at hdue
    cases hdue

lemma throwing_of_move (hmove:Move s l s') (h:throwing s') :
  throwing s∨∃ p what,l=.finish p (some what) := by
 obtain ⟨p,hp⟩:=h
 suffices ((∃ what,(s.lane p).worker=.caught what)∨(s.lane p).worker=.remembered) ∨
  ∃ p what,l=.finish p (some what) from this.imp_left (⟨p,·⟩)
 cases hmove with
 | @notifies q h | @notifiesAll q ps h =>
  have:=notify_lane s q p
  simp only[State.goto] at hp
  grind
 | _ =>
  try simp only[State.setWorker,State.setLane,State.goto,State.rememberError] at hp
  grind[update_apply]

lemma along_prompt {labels:List Label} (hs:¬throwing s)
  (hcalm:∀ l∈labels,∀ p what,l≠ .finish p (some what))
  (hstop:Along step (fun s l=>l=.stop→ s.main.past=true) s labels) : Along step prompt s labels := by
 induction labels generalizing s with
 | nil => trivial
 | cons l labels ih =>
  refine ⟨?_,fun m hm=>ih (fun hthrowing=>?_) (fun l' hl'=>hcalm l' (mem_cons_of_mem l hl')) (hstop.2 m hm)⟩
  · cases l with
    | stop => exact hstop.1 rfl
    | work p => exact fun _=>hs
    | _ => trivial
  · obtain h | ⟨p,what,h⟩:=throwing_of_move (move_of_step hm) hthrowing
    · exact hs h
    · exact hcalm l mem_cons_self p what h

/-- Two messages of partition 0 are polled, the first is taken, and the consumer is stopped. -/
def stoppedTaken : List Label :=
 [.start true,.advance,.advance,.advance,.poll (some { offset := 4 }),.emplace none,.advance,
  .advance,.advance,.poll (some { offset := 5 }),.emplace none,.advance,.advance,.work 0,.stop]

def handsOver : List Label :=
 [.work 0,.finish 0 none,.work 0,.advance,.advance,.advance,.advance,.advance,.advance,.advance]

theorem lanes_hand_over_stoppedTaken : ∃ m s,
  exec step (.initial false) stoppedTaken = some m ∧ exec step m handsOver = some s ∧
  begunOf 0 (observe step events m handsOver) = [dispatch ({ offset := 4 : Message }.queued false)] ∧
  (∀ p, (begunOf p (observe step events m handsOver)).length ≤ 1) ∧ s.main = .returned ∧
  ∀ p, (s.lane p).worker = .absent ∨ (s.lane p).worker = .ended := by
 have hrun:∃ m s,exec step (.initial false) stoppedTaken=some m∧exec step m handsOver=some s ∧
  begunOf 0 (observe step events m handsOver)=[dispatch ({ offset := 4 : Message }.queued false)] ∧
  s.main=.returned := ⟨_,_,rfl,rfl,by decide +kernel,rfl⟩
 obtain ⟨m,s,hm,hs,hbegun,hmain⟩:=hrun
 have hprompt:Along step prompt (.initial false) (stoppedTaken++handsOver):=by
  refine along_prompt ?_ ?_ (by decide +kernel)
  · rintro ⟨p,⟨what,h⟩ | h⟩ <;> cases h
  · simp[stoppedTaken,handsOver]
 obtain ⟨-,-,hafter,hended,-⟩:=lanes_hand_over false (stoppedTaken++handsOver) s (exec_append hm hs)
 exact ⟨m,s,hm,hs,hbegun,hafter hprompt _ _ m rfl hm (.inl (by decide)),hmain,hended (.inl hmain)⟩

/-- The consumer is stopped when `start` has claimed it and not yet set `running`. -/
def stoppedEarly : List Label :=
 [.start true,.advance,.stop]

def goesOn : List Label :=
 [.advance,.advance,.poll (some { offset := 4 }),.emplace none,.advance,
  .advance,.advance,.poll (some { offset := 5 }),.emplace none,.advance,.advance,
  .work 0,.work 0,.finish 0 none,.work 0,.work 0,.work 0]

theorem stop_lost_between_claim_and_store : ∃ m s,
  exec step (.initial false) stoppedEarly = some m ∧ Label.stop ∈ stoppedEarly ∧
  exec step m goesOn = some s ∧ (begunOf 0 (observe step events m goesOn)).length = 2 :=
 ⟨_,_,rfl,by decide,rfl,by decide +kernel⟩

end ServiceLib.KafkaLanes
