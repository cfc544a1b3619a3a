import ServiceLib.Cron
import ServiceLib.Tokens

set_option autoImplicit false
attribute [-instance] instBooleanRingBool

/-!
# Activations of a cron endpoint

Firings, activations, deliveries and calls of `stop` interleave; a step is a critical section, a
notification, or the end of a call of the pipeline. The stream ids are drawn from a counter, so an
activation's id is its place in the order of admission.
-/
namespace ServiceLib.CronActivations
open Transition Tokens Cron List Option

/-- `rejected` is an activation that the executor did not take, `leaving` one at the end of
the scope of its `ActiveGuard`, `notifying` one that has given its count back. -/
inductive Phase
 | admitted
 | rejected
 | queued
 | running
 | waiting
 | leaving
 | notifying
 | ended
deriving DecidableEq

/-- An activation with its `Pending`: whether it is in the table of the waiter, marked as
done, and its event sent. -/
structure Activation where
 phase : Phase := .admitted
 registered : Bool := false
 done : Bool := false
 completed : Bool := false

/-- Where a call of `ResultWaiter::complete` is that has found the activation. -/
inductive Delivery
 | found (streamId:ℕ)
 | marked (streamId:ℕ)
 | reported
deriving DecidableEq

inductive Wait
 | blocked
 | woken
 | returned
deriving DecidableEq

structure StopCall where
 deadline : Bool
 wait : Wait

structure State where
 overlapPolicy : ScheduleOverlapPolicy
 hasResult : Bool
 active : ℕ := 0
 stopping : Bool := false
 activations : List Activation := []
 deliveries : List Delivery := []
 stops : List StopCall := []

/-- `fire` is a firing past its check for missed runs; `function i throws` the end of the
pipeline's call, or an exception on the way to it; `wake c` a wait that ends without a
notification; `expire c` the end of a wait at its deadline. -/
inductive Label
 | fire
 | post (i:ℕ) (accepted:Bool)
 | advance (i:ℕ)
 | function (i:ℕ) (throws:Bool)
 | deliver (streamId:ℕ)
 | mark (d:ℕ)
 | send (d:ℕ)
 | stop (deadline:Bool)
 | wake (c:ℕ)
 | check (c:ℕ)
 | expire (c:ℕ)
deriving DecidableEq

def StopCall.notified (call:StopCall) : StopCall :=
 { call with wait := if call.wait = .blocked then .woken else call.wait }

namespace State

def set (s:State) (i:ℕ) (a:Activation) : State :=
 { s with activations := s.activations.set i a }

def setStop (s:State) (c:ℕ) (call:StopCall) (wait:Wait) : State :=
 { s with stops := s.stops.set c { call with wait := wait } }

def launch (s:State) : State :=
 { s with active := s.active + 1,activations := s.activations ++ [{}] }

/-- The critical section of `ActiveGuard`'s destructor, and of the handler around `Post`. -/
def leave (s:State) (i:ℕ) (a:Activation) : State :=
 { s with active := s.active - 1,activations := s.activations.set i { a with phase := .notifying } }

def notifyAll (s:State) : State :=
 { s with stops := s.stops.map StopCall.notified }

def advance (s:State) (i:ℕ) (a:Activation) : Option State :=
 match a.phase with
 | .queued => some (s.set i { a with phase := .running,registered := s.hasResult })
 | .waiting => if a.completed then some (s.set i { a with phase := .leaving,registered := false }) else none
 | .rejected | .leaving => some (s.leave i a)
 | .notifying => some (s.notifyAll.set i { a with phase := .ended })
 | .admitted | .running | .ended => none

end State

def step (s:State) : Label → Option State
 | .fire => some (if s.stopping ∨ s.overlapPolicy = .skip ∧ s.active ≠ 0 then s else s.launch)
 | .post i accepted => s.activations[i]?.bind fun a =>
  if a.phase = .admitted then some (s.set i { a with phase := if accepted then .queued else .rejected }) else none
 | .advance i => s.activations[i]?.bind (s.advance i)
 | .function i throws => s.activations[i]?.bind fun a =>
  if a.phase = .running ∨ a.phase = .queued ∧ throws then
   some (s.set i (if throws then { a with phase := .leaving,registered := false }
    else { a with phase := if s.hasResult then .waiting else .leaving }))
  else none
 | .deliver streamId =>
  some (if s.activations[streamId]?.map Activation.registered = some true then
   { s with deliveries := s.deliveries ++ [.found streamId] } else s)
 | .mark d =>
  match s.deliveries[d]? with
  | some (.found streamId) => s.activations[streamId]?.map fun a =>
   if a.done then { s with deliveries := s.deliveries.set d .reported }
   else { s with deliveries := s.deliveries.set d (.marked streamId) }.set streamId { a with done := true }
  | _ => none
 | .send d =>
  match s.deliveries[d]? with
  | some (.marked streamId) => s.activations[streamId]?.map fun a =>
   { s with deliveries := s.deliveries.set d .reported }.set streamId { a with completed := true }
  | _ => none
 | .stop deadline =>
  some { s with stopping := true,stops := s.stops ++ [⟨deadline,if s.active = 0 then .returned else .blocked⟩] }
 | .wake c => s.stops[c]?.bind fun call=>if call.wait = .blocked then some (s.setStop c call .woken) else none
 | .check c => s.stops[c]?.bind fun call =>
  if call.wait = .woken then some (s.setStop c call (if s.active = 0 then .returned else .blocked)) else none
 | .expire c => s.stops[c]?.bind fun call =>
  if call.deadline ∧ call.wait ≠ .returned then some (s.setStop c call .returned) else none

inductive Report
 | completed (streamId:ℕ)
 | duplicate (streamId:ℕ)
 | late (streamId:ℕ)
deriving DecidableEq

def reports (s:State) (l:Label) (_:State) : List Report :=
 match l with
 | .deliver streamId =>
  if s.activations[streamId]?.map Activation.registered = some true then [] else [.late streamId]
 | .mark d =>
  match s.deliveries[d]? with
  | some (.found streamId) =>
   if s.activations[streamId]?.map Activation.done = some true then [.duplicate streamId] else [.completed streamId]
  | _ => []
 | _ => []

set_option autoImplicit true in
inductive Move (s:State) : Label → State → Prop
 | same (hl:l = .fire ∨ ∃ streamId,l = .deliver streamId) : Move s l s
 | admits (hstop:s.stopping = false) (hskip:s.overlapPolicy = .skip → s.active = 0) : Move s .fire s.launch
 | goes (ha:s.activations[i]? = some a)
  (hl:l = .advance i ∨ (∃ b,l = .post i b) ∨ ∃ b,l = .function i b)
  (hphase:a.phase = .admitted ∧ (phase = .queued ∨ phase = .rejected) ∨ a.phase = .queued ∧ phase = .running ∨
   (a.phase = .running ∨ a.phase = .queued) ∧ (phase = .waiting ∧ a.phase = .running ∨ phase = .leaving) ∨
   a.phase = .waiting ∧ a.completed = true ∧ phase = .leaving)
  (hregistered:phase = .running ∧ registered = s.hasResult ∨
   phase = .waiting ∧ registered = a.registered ∧ s.hasResult = true ∨ phase ≠ .running ∧ phase ≠ .waiting) :
  Move s l (s.set i { a with phase := phase,registered := registered })
 | leaves (ha:s.activations[i]? = some a) (hphase:a.phase = .rejected ∨ a.phase = .leaving) :
  Move s (.advance i) (s.leave i a)
 | notifies (ha:s.activations[i]? = some a) (hphase:a.phase = .notifying) :
  Move s (.advance i) (s.notifyAll.set i { a with phase := .ended })
 | finds (ha:s.activations[streamId]? = some a) :
  Move s (.deliver streamId) { s with deliveries := s.deliveries ++ [.found streamId] }
 | repeats (hd:s.deliveries[d]? = some (.found streamId))
  (ha:s.activations[streamId]? = some a) (hdone:a.done = true) :
  Move s (.mark d) { s with deliveries := s.deliveries.set d .reported }
 | marks (hd:s.deliveries[d]? = some (.found streamId))
  (ha:s.activations[streamId]? = some a) (hdone:a.done = false) :
  Move s (.mark d)
   ({ s with deliveries := s.deliveries.set d (.marked streamId) }.set streamId { a with done := true })
 | sends (hd:s.deliveries[d]? = some (.marked streamId))
  (ha:s.activations[streamId]? = some a) :
  Move s (.send d) ({ s with deliveries := s.deliveries.set d .reported }.set streamId { a with completed := true })
 | stops : Move s (.stop deadline)
  { s with stopping := true,stops := s.stops ++ [⟨deadline,if s.active = 0 then .returned else .blocked⟩] }
 | wakes (hc:s.stops[c]? = some call) (hwait:call.wait = .blocked) :
  Move s (.wake c) (s.setStop c call .woken)
 | checks (hc:s.stops[c]? = some call) (hwait:call.wait = .woken) :
  Move s (.check c) (s.setStop c call (if s.active = 0 then .returned else .blocked))
 | expires (hc:s.stops[c]? = some call) (hdeadline:call.deadline = true)
  (hwait:call.wait ≠ .returned) : Move s (.expire c) (s.setStop c call .returned)

lemma move_of_step {s s':State} {l:Label} (hstep:step s l=some s') : Move s l s' := by
 grind[Label,step,Move,State.advance]

def Phase.counts : Phase → ℕ
 | .notifying => 0
 | .ended => 0
 | .admitted | .rejected | .queued | .running | .waiting | .leaving => 1

def Activation.notifies (a:Activation) : ℕ :=
 if a.phase = .notifying then 1 else 0

def Delivery.marks (streamId:ℕ) : Delivery → ℕ
 | .marked other => if other = streamId then 1 else 0
 | .found _ => 0
 | .reported => 0

structure Inv (s:State) : Prop where
 counted : s.active = total (fun a=>a.phase.counts) s.activations
 single : s.overlapPolicy = .skip → s.active ≤ 1
 awake : ∀ (c:ℕ) (call:StopCall),s.stops[c]? = some call → call.wait = .blocked →
  s.active ≠ 0 ∨ 0 < total Activation.notifies s.activations
 stopping : ∀ (c:ℕ) (call:StopCall),s.stops[c]? = some call → s.stopping = true ∧
  (call.deadline = false → call.wait = .returned → s.active = 0)
 done : ∀ (i:ℕ) (a:Activation),s.activations[i]? = some a → a.done = true ∨ a.completed = true →
  a.done = true ∧ (a.completed = true ∨ 0 < total (Delivery.marks i) s.deliveries)
 marked : ∀ (d i:ℕ),s.deliveries[d]? = some (.marked i) → s.activations[i]?.map Activation.done = some true
 registered : ∀ (i:ℕ) (a:Activation),s.activations[i]? = some a →
  (a.phase = .running → a.registered = s.hasResult) ∧ (a.phase = .waiting → a.registered = true)
 known : ∀ (d i:ℕ),s.deliveries[d]? = some (.found i) → i < s.activations.length

attribute [grind =] State.set State.setStop State.launch State.leave State.notifyAll StopCall.notified
  Phase.counts Activation.notifies Delivery.marks total_append total_cons total_nil
attribute [grind =>] total_set
attribute [grind cases] Move

section
variable {s s':State} {l:Label}

lemma awake_move (hs:Inv s) (h:Move s l s') : ∀ (c:ℕ) (call:StopCall),s'.stops[c]?=some call→
  call.wait=.blocked→ s'.active≠0∨0 < total Activation.notifies s'.activations := by
 have hcounted:=hs.counted
 have:=hs.awake
 cases h <;> grind

lemma stopping_move (hs:Inv s) (h:Move s l s') : ∀ (c:ℕ) (call:StopCall),s'.stops[c]?=some call→
  s'.stopping=true∧(call.deadline=false→ call.wait=.returned→ s'.active=0) := by
 have hcounted:=hs.counted
 have:=hs.stopping
 cases h <;> first | exact this | grind

lemma done_move (hs:Inv s) (h:Move s l s') : ∀ (i:ℕ) (a:Activation),s'.activations[i]?=some a→
  a.done=true∨a.completed=true→ a.done=true∧(a.completed=true∨0 < total (Delivery.marks i) s'.deliveries) := by
 have:=hs.marked
 have:=hs.done
 cases h <;> first | exact this | grind

lemma marked_move (hs:Inv s) (h:Move s l s') : ∀ (d i:ℕ),s'.deliveries[d]?=some (.marked i)→
  s'.activations[i]?.map Activation.done=some true := by
 have:=hs.marked
 cases h <;> first | exact this | grind

lemma registered_move (hs:Inv s) (h:Move s l s') : ∀ (i:ℕ) (a:Activation),s'.activations[i]?=some a→
  (a.phase=.running→ a.registered=s'.hasResult)∧(a.phase=.waiting→ a.registered=true) := by
 have:=hs.registered
 cases h <;> first | exact this | grind

lemma inv_move (hs:Inv s) (h:Move s l s') : Inv s' := by
 have hcounted:=hs.counted
 refine ⟨?_,?_,awake_move hs h,stopping_move hs h,done_move hs h,marked_move hs h,registered_move hs h,?_⟩
 · cases h <;> grind
 · have:=hs.single
   cases h <;> first | exact this | grind
 · have:=hs.known
   cases h <;> first | exact this | grind

end

lemma inv_exec {policy:ScheduleOverlapPolicy} {hasResult:Bool} {labels:List Label} {s:State}
  (hrun:exec step { overlapPolicy := policy,hasResult := hasResult } labels=some s) : Inv s :=
 exec_invariant (fun _ _ _ hs hstep=>inv_move hs (move_of_step hstep)) (by constructor <;> simp) hrun

/-- A result was accepted for the activation just when it is marked as done. -/
def Reported (policy:ScheduleOverlapPolicy) (s:State) (rs:List Report) : Prop :=
 s.overlapPolicy = policy ∧ ∀ i,
  rs.count (.completed i) = if s.activations[i]?.map Activation.done = some true then 1 else 0

lemma reported_move {policy:ScheduleOverlapPolicy} {s s':State} {l:Label} {rs:List Report}
  (hs:Reported policy s rs) (h:Move s l s') : Reported policy s' (rs++reports s l s') := by
 refine ⟨?_,fun i=>?_⟩
 · have:=hs.1
   cases h <;> grind
 · have:=hs.2 i
   rw[count_append]
   cases h <;> grind[reports]

/-- How often an accepted or a refused result with the stream id was reported. -/
def accepted (rs:List Report) (streamId:ℕ) : ℕ := rs.count (.completed streamId)

def refused (rs:List Report) (streamId:ℕ) : ℕ := rs.count (.duplicate streamId) + rs.count (.late streamId)

def Report.about (streamId:ℕ) (r:Report) : Bool :=
 r = .completed streamId ∨ r = .duplicate streamId ∨ r = .late streamId

lemma countP_about (rs:List Report) (i:ℕ) : rs.countP (Report.about i)=accepted rs i+refused rs i := by
 induction rs with
 | nil => rfl
 | cons r rs ih => grind[Report.about,accepted,refused]

lemma delivered_step {s s':State} {l:Label} (h:step s l=some s') (i:ℕ) :
  [l].countP (· == .deliver i)+s.deliveries.count (.found i) =
   (reports s l s').countP (Report.about i)+s'.deliveries.count (.found i) := by
 cases l <;> grind[step,reports,Report.about,State.advance]

def internal : Label → Bool
 | .post _ _ => true
 | .advance _ => true
 | .function _ _ => true
 | .mark _ => true
 | .send _ => true
 | .check _ => true
 | .fire | .deliver _ | .stop _ | .wake _ | .expire _ => false

def Phase.work : Phase → ℕ
 | .admitted => 6
 | .queued => 5
 | .running => 4
 | .waiting => 3
 | .rejected => 2
 | .leaving => 2
 | .notifying => 1
 | .ended => 0

def Delivery.work : Delivery → ℕ
 | .found _ => 2
 | .marked _ => 1
 | .reported => 0

def StopCall.work (call:StopCall) : ℕ :=
 if call.wait = .woken then 1 else 0

def remaining (s:State) : ℕ :=
 total (fun a=>a.phase.work * (s.stops.length + 1)) s.activations + total Delivery.work s.deliveries +
  total StopCall.work s.stops

attribute [grind =] internal Phase.work Delivery.work StopCall.work remaining

lemma total_notified (stops:List StopCall) :
  total StopCall.work (stops.map StopCall.notified)≤ stops.length := by
 induction stops with
 | nil => exact Nat.le_refl 0
 | cons call stops ih => grind

lemma remaining_move {s s':State} {l:Label} (h:Move s l s') (hl:internal l=true) :
  remaining s' < remaining s := by
 have:=total_notified s.stops
 cases h <;> grind

def touches : Label → Bool
 | .post _ _ => true
 | .advance _ => true
 | .function _ _ => true
 | _ => false

lemma advance_isSome {s:State} {i:ℕ} {a:Activation} (ha:s.activations[i]?=some a)
  (h:a.phase≠ .ended) (hwaits:a.phase=.waiting→ a.completed=true) :
  ∃ l,touches l=true∧(step s l).isSome := by
 cases hphase:a.phase with
 | admitted => exact ⟨.post i true,rfl,by simp[step,ha,hphase]⟩
 | running => exact ⟨.function i false,rfl,by simp[step,ha,hphase]⟩
 | ended => exact absurd hphase h
 | queued | waiting | rejected | leaving | notifying =>
  exact ⟨.advance i,rfl,by simp_all[step,State.advance]⟩

/-- When nothing more happens by itself, every delivery is reported, the activations that have
not ended wait for results that were not delivered, and if there are none every call of
`stop` has returned. -/
lemma stuck {s:State} (hs:Inv s) (hstuck:∀ l,internal l=true→ step s l=none) :
  (∀ d∈s.deliveries,d=.reported)∧(∀ a∈s.activations,a.phase=.ended∨a.phase=.waiting∧a.done=false) ∧
   (s.active=0→∀ call∈s.stops,call.wait=.returned) := by
 have hnone:∀ {l},internal l=true→¬(step s l).isSome:=fun hl=>by simp[hstuck _ hl]
 have hdeliveries:∀ d∈s.deliveries,d=.reported:=by
  intro delivery hmem
  obtain ⟨d,hd⟩:=mem_iff_getElem?.mp hmem
  cases delivery with
  | reported => rfl
  | found i =>
   have hi:=hs.known d i hd
   exact (hnone (l := .mark d) rfl (by simp[step,hd,hi])).elim
  | marked i =>
   obtain ⟨a,ha,-⟩:=map_eq_some_iff.mp (hs.marked d i hd)
   exact (hnone (l := .send d) rfl (by simp[step,hd,ha])).elim
 have hmarks:∀ i,total (Delivery.marks i) s.deliveries=0:=by
  intro i
  have hall:∀ d∈s.deliveries,Delivery.marks i d≤(fun _=>0) d:=fun d hd=>by rw[hdeliveries d hd]; rfl
  have hle:=total_mono hall
  have hzero:total (fun _:Delivery=>0) s.deliveries=0:=by simp[total]
  omega
 have hphases:∀ a∈s.activations,a.phase=.ended∨a.phase=.waiting∧a.done=false:=by
  intro a hmem
  obtain ⟨i,ha⟩:=mem_iff_getElem?.mp hmem
  by_contra hneither
  obtain ⟨l,hl,hsome⟩:=advance_isSome ha (by grind) (by grind[hs.done i a ha,hmarks i])
  exact hnone (by cases l <;> first | rfl | cases hl) hsome
 refine ⟨hdeliveries,hphases,fun hactive call hmem=>?_⟩
 obtain ⟨c,hc⟩:=mem_iff_getElem?.mp hmem
 cases hwait:call.wait with
 | returned => rfl
 | woken => exact (hnone (l := .check c) rfl (by simp[step,hc,hwait])).elim
 | blocked =>
  have hall:∀ a∈s.activations,a.notifies≤(fun _=>0) a:=fun a ha=>by grind
  have hle:=total_mono hall
  have hzero:total (fun _:Activation=>0) s.activations=0:=by simp[total]
  have hawake:=hs.awake c call hc hwait
  omega

def Activation.unfinished (a:Activation) : Bool :=
 a.phase ≠ .notifying ∧ a.phase ≠ .ended

lemma total_counts (activations:List Activation) :
  total (fun a=>a.phase.counts) activations=activations.countP Activation.unfinished := by
 induction activations with
 | nil => rfl
 | cons a activations ih => cases hphase : a.phase <;> grind[Activation.unfinished]

lemma remaining_exec {s t:State} {ls:List Label} (hls:∀ l∈ls,internal l=true)
  (h:exec step s ls=some t) : ls.length≤remaining s := by
 have hwork:∀ s l s',True→ internal l=true→ step s l=some s'→ remaining s' < remaining s:=
  fun _ _ _ _ hl hstep=>remaining_move (move_of_step hstep) hl
 have:=exec_work (fun _ _ _ _ _=>trivial) hwork trivial hls h
 omega

/-- In every interleaving: the active count is that of the admitted activations that have not
given it back, which is at most one when overlapping runs are skipped; none is admitted
once a stop has begun, a stop without a deadline has returned only if none is active, and
when none is active every stop returns after finitely many steps. An activation leaves its
wait only after a result was accepted for it. For each id at most one delivery is
accepted, and every other one is refused as a duplicate or late unless its call is still
at work, which none is once the endpoint's threads are done. -/
theorem activations_contract (policy : ScheduleOverlapPolicy) (hasResult : Bool) (labels : List Label) (s : State)
  (hrun : exec step { overlapPolicy := policy, hasResult := hasResult } labels = some s) :
  s.active = s.activations.countP Activation.unfinished ∧
  (policy = .skip → s.active ≤ 1) ∧
  (s.stopping = true → ∀ l s', step s l = some s' →
   s'.stopping = true ∧ s'.activations.length = s.activations.length) ∧
  (∀ call ∈ s.stops, s.stopping = true ∧ (call.deadline = false → call.wait = .returned → s.active = 0)) ∧
  (∀ ls t, (∀ l ∈ ls, internal l = true) → exec step s ls = some t → ls.length ≤ remaining s) ∧
  ((∀ l, internal l = true → step s l = none) → s.active = 0 → ∀ call ∈ s.stops, call.wait = .returned) ∧
  (∀ i a l s' a', s.activations[i]? = some a → a.phase = .waiting → step s l = some s' →
   s'.activations[i]? = some a' → a'.phase ≠ .waiting →
   .completed i ∈ observe step reports { overlapPolicy := policy, hasResult := hasResult } labels) ∧
  ∀ i, let rs := observe step reports { overlapPolicy := policy, hasResult := hasResult } labels
   accepted rs i ≤ 1 ∧
   labels.count (.deliver i) = accepted rs i + refused rs i + s.deliveries.count (.found i) ∧
   ((∀ l, internal l = true → step s l = none) → s.deliveries.count (.found i) = 0) := by
 have hs:=inv_exec hrun
 have hreported:Reported policy s (observe step reports _ labels):=
  exec_observe reports (fun _ _ _ _ hs hstep=>reported_move hs (move_of_step hstep)) ⟨rfl,by simp⟩ hrun
 refine ⟨hs.counted.trans (total_counts _),fun hskip=>hs.single (hreported.1.trans hskip),?_,?_,
  fun ls t hls ht=>remaining_exec hls ht,fun hstuck=>(stuck hs hstuck).2.2,?_,fun i=>⟨?_,?_,fun hstuck=>?_⟩⟩
 · intro hstopping l s' hstep
   have hmove:=move_of_step hstep
   cases hmove <;> grind
 · intro call hmem
   obtain ⟨c,hc⟩:=mem_iff_getElem?.mp hmem
   exact hs.stopping c call hc
 · intro i a l s' a' ha hphase hstep ha' hphase'
   have hdone:a.completed=true:=by
    have hmove:=move_of_step hstep
    cases hmove <;> grind
   have hcount:=hreported.2 i
   have hmarked:=(hs.done i a ha (.inr hdone)).1
   exact one_le_count_iff.mp (by simp[hcount,ha,hmarked])
 · rw[accepted,hreported.2 i]
   split <;> omega
 · have hledger:=exec_ledger (fun _ _ _ hstep=>delivered_step hstep i) hrun
   rwa[countP_about] at hledger
 · exact count_eq_zero.mpr fun hmem=>by cases (stuck hs hstuck).1 _ hmem

/-- One activation waits while a stop is called, and gets its result twice. -/
def stoppedWaiting : List Label :=
 [.fire,.post 0 true,.advance 0,.function 0 false,.fire,.stop false,.deliver 0,.deliver 0,.mark 0,.mark 1,
  .send 0,.advance 0,.advance 0,.advance 0,.check 0,.deliver 0]

theorem activations_contract_stoppedWaiting : ∃ s,
  exec step { overlapPolicy := .skip, hasResult := true } stoppedWaiting = some s ∧
  s.stops.map StopCall.wait = [.returned] ∧ s.active = s.activations.countP Activation.unfinished ∧
  observe step reports { overlapPolicy := .skip, hasResult := true } stoppedWaiting =
   [.completed 0, .duplicate 0, .late 0] :=
 ⟨_,rfl,rfl,(activations_contract .skip true stoppedWaiting _ rfl).1,by decide +kernel⟩

lemma touch_of_marked {s:State} {i d:ℕ} {a:Activation} (ha:s.activations[i]?=some a)
  (hphase:a.phase=.waiting) (hd:s.deliveries[d]?=some (.marked i)) :
  ∃ t,exec step s [.send d,.advance i]=some t := by
 have hsend:step s (.send d) =
  some ({ s with deliveries := s.deliveries.set d .reported }.set i { a with completed := true }):=by
  simp only[step,hd,ha,map_some]
 have hset:(s.activations.set i { a with completed:=true })[i]?=some { a with completed := true }:=by
  rw[List.getElem?_set_self (List.getElem?_eq_some_iff.mp ha).1]
 suffices hadvance:∃ t,step ({ s with deliveries := s.deliveries.set d .reported }.set i
  { a with completed := true }) (.advance i)=some t by
  obtain ⟨t,ht⟩:=hadvance
  exact ⟨t,exec_cons.mpr ⟨_,hsend,exec_singleton.trans ht⟩⟩
 simp only[step,State.set,hset,bind_some]
 simp only[State.advance,hphase]
 exact ⟨_,rfl⟩

lemma exists_touch {s:State} (hs:Inv s) {i:ℕ} {a:Activation} (ha:s.activations[i]?=some a)
  (h:a.phase≠ .ended) : ∃ ls t,exec step s ls=some t∧∃ l∈ls,touches l=true := by
 by_cases hwaits:a.phase=.waiting∧a.completed=false
 · cases hdone:a.done with
   | false =>
    have hdeliver:step s (.deliver i)=some { s with deliveries:=s.deliveries++[.found i] }:=by
     simp[step,map_eq_some_iff.mpr ⟨a,ha,(hs.registered i a ha).2 hwaits.1⟩]
    have hmark:step { s with deliveries:=s.deliveries++[.found i] } (.mark s.deliveries.length) =
     some ({ s with deliveries := (s.deliveries++[Delivery.found i]).set s.deliveries.length (.marked i) }.set i
      { a with done := true }):=by
     simp only[step,List.getElem?_concat_length,ha,map_some,hdone]
     rfl
    obtain ⟨t,ht⟩:=@touch_of_marked ({ s with
     deliveries := (s.deliveries++[Delivery.found i]).set s.deliveries.length (.marked i) }.set i { a with done := true })
     i s.deliveries.length { a with done := true } (by grind) hwaits.1 (by grind)
    exact ⟨_,t,exec_cons.mpr ⟨_,hdeliver,exec_cons.mpr ⟨_,hmark,ht⟩⟩,.advance i,by simp,rfl⟩
   | true =>
    obtain ⟨d,hd⟩ : ∃ d : ℕ,s.deliveries[d]?=some (.marked i):=by
     by_contra hnone
     have hall:∀ d∈s.deliveries,Delivery.marks i d≤(fun _=>0) d:=by
      intro delivery hmem
      obtain ⟨d,hd⟩:=mem_iff_getElem?.mp hmem
      cases delivery <;> grind
     have hle:=total_mono hall
     have hzero:total (fun _:Delivery=>0) s.deliveries=0:=by simp[total]
     grind[hs.done i a ha]
    obtain ⟨t,ht⟩:=touch_of_marked ha hwaits.1 hd
    exact ⟨_,t,ht,.advance i,by simp,rfl⟩
 · obtain ⟨l,hl,hsome⟩:=advance_isSome ha h (by grind)
   obtain ⟨t,ht⟩:=isSome_iff_exists.mp hsome
   exact ⟨[l],t,by rw[exec_singleton,ht],l,by simp,hl⟩

/-- For every state reached: when the endpoint's threads have nothing left to do, a stop
without a deadline has returned if and only if no activation waits for a result that was
not delivered; and when a stop has returned, no activation uses the endpoint from then on
if and only if every one has ended. -/
theorem stop_releases_iff (policy : ScheduleOverlapPolicy) (hasResult : Bool) (labels : List Label) (s : State)
  (hrun : exec step { overlapPolicy := policy, hasResult := hasResult } labels = some s) (call : StopCall)
  (hcall : call ∈ s.stops) :
  (∀ ls t, (∀ l ∈ ls, internal l = true) → exec step s ls = some t → ls.length ≤ remaining s) ∧
  ((∀ l, internal l = true → step s l = none) → call.deadline = false →
   (call.wait = .returned ↔ ∀ a ∈ s.activations, a.phase = .waiting → a.done = true)) ∧
  (call.wait = .returned →
   ((∀ ls t, exec step s ls = some t → ∀ l ∈ ls, touches l = false) ↔
    ∀ a ∈ s.activations, a.phase = .ended)) := by
 have hs:=inv_exec hrun
 refine ⟨fun ls t hls ht=>remaining_exec hls ht,fun hstuck hdeadline=>?_,fun hreturned=>⟨fun h a ha=>?_,?_⟩⟩
 · obtain ⟨-,hphases,hreturns⟩:=stuck hs hstuck
   obtain ⟨c,hc⟩:=mem_iff_getElem?.mp hcall
   constructor
   · intro hreturned a ha hwaiting
     have hzero:=(hs.stopping c call hc).2 hdeadline hreturned
     rw[hs.counted,total_counts] at hzero
     have:=countP_eq_zero.mp hzero a ha
     simp[Activation.unfinished,hwaiting] at this
   · intro hall
     refine hreturns ?_ call hcall
     rw[hs.counted,total_counts,countP_eq_zero]
     intro a ha
     rcases hphases a ha with h | ⟨h,hnot⟩
     · simp[Activation.unfinished,h]
     · simp[hall a ha h] at hnot
 · by_contra hphase
   obtain ⟨i,hi⟩:=mem_iff_getElem?.mp ha
   obtain ⟨ls,t,ht,l,hl,htouches⟩:=exists_touch hs hi hphase
   simp[h ls t ht l hl] at htouches
 · intro hended ls t ht l hl
   obtain ⟨c,hc⟩:=mem_iff_getElem?.mp hcall
   have hstopping:=(hs.stopping c call hc).1
   clear hs hcall hc hrun hreturned
   induction ls generalizing s with
   | nil => cases hl
   | cons first ls ih =>
    obtain ⟨m,hm,hrest⟩:=exec_cons.mp ht
    have hmove:=move_of_step hm
    have hfirst:touches first=false∧m.stopping=true∧∀ a∈m.activations,a.phase=.ended:=by
     have hat:∀ (i:ℕ) (a:Activation),s.activations[i]?=some a→ a.phase=.ended:=
      fun i a hi=>hended a (mem_of_getElem? hi)
     refine ⟨by cases hmove <;> grind[touches],by cases hmove <;> grind,?_⟩
     cases hmove <;> grind
    rcases mem_cons.mp hl with rfl | hl
    · exact hfirst.1
    · exact ih m hfirst.2.2 hrest hl hfirst.2.1

theorem stop_releases_stoppedWaiting : ∃ s call,
  exec step { overlapPolicy := .skip, hasResult := true } stoppedWaiting = some s ∧ call ∈ s.stops ∧
  call.wait = .returned ∧ ∀ ls t, exec step s ls = some t → ∀ l ∈ ls, touches l = false := by
 have hrun:exec step { overlapPolicy:=.skip,hasResult := true } stoppedWaiting =
  some ⟨.skip,true,0,true,[⟨.ended,false,true,true⟩],[.reported,.reported],[⟨false,.returned⟩]⟩ := rfl
 exact ⟨_,_,hrun,mem_cons_self,rfl,
  ((stop_releases_iff .skip true stoppedWaiting _ hrun _ mem_cons_self).2.2 rfl).mpr (by simp)⟩

def resultMissing (deadline:Bool) : List Label :=
 [.fire,.post 0 true,.advance 0,.function 0 false,.stop deadline]

/-- Without a deadline the stop waits with it; with one it returns, and the activation goes on
when its result comes. -/
theorem resultMissing_not_released :
  (∃ s, exec step { overlapPolicy := .skip, hasResult := true } (resultMissing false) = some s ∧
   s.stops.map StopCall.wait = [.blocked] ∧ ∀ l, internal l = true → step s l = none) ∧
  ∃ s t, exec step { overlapPolicy := .skip, hasResult := true } (resultMissing true ++ [.expire 0]) = some s ∧
   s.stops.map StopCall.wait = [.returned] ∧
   exec step s [.deliver 0, .mark 0, .send 0, .advance 0, .advance 0, .advance 0] = some t := by
 refine ⟨⟨⟨.skip,true,1,true,[⟨.waiting,true,false,false⟩],[],[⟨false,.blocked⟩]⟩,rfl,rfl,
  fun l hl=>?_⟩,_,_,rfl,rfl,rfl⟩
 cases l with
 | fire | deliver | stop | wake | expire => cases hl
 | mark d | send d => rfl
 | post i accepted | advance i | function i throws | check i =>
  rcases i with _ | i <;> simp[step,State.advance]

end ServiceLib.CronActivations
