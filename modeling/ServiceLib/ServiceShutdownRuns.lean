import ServiceLib.GraphGateDrain
import ServiceLib.ServiceShutdown

set_option autoImplicit false
attribute [-instance] instBooleanRingBool

/-!
# What holds in every run of a shutdown
-/
namespace ServiceLib.ServiceShutdown
open ServiceLifecycle (Entry Registry ServiceComponentKind)
open Transition List

def kStopOrder : List ServiceComponentKind :=
 [.dataSource,.component,.priorityTaskPool,.taskPool,.delayPool,.storage,.dataSink]

def before (registry:Registry) : Phase → List Entry
 | .admission => []
 | .executors => Phase.admission.entries registry
 | .sinks => Phase.admission.entries registry ++ Phase.executors.entries registry

def upTo (registry:Registry) (phase:Phase) : List Entry :=
 before registry phase ++ phase.entries registry

def stopOrder (registry:Registry) : List Entry :=
 upTo registry .sinks

section Order
variable (registry:Registry)

lemma stopOrder_eq : stopOrder registry=kStopOrder.flatMap fun kind=>(registry.entries kind).reverse := by
 simp[stopOrder,upTo,before,Phase.entries,appendReverse,kStopOrder]

lemma stopOrder_nodup : (stopOrder registry).Nodup := by
 rw[stopOrder_eq]
 have hkinds:kStopOrder.Nodup:=by decide
 refine nodup_flatMap.mpr ⟨fun kind _=>nodup_reverse.mpr (registry.entries_nodup kind),
  hkinds.imp fun hne=>?_⟩
 intro entry hleft hright
 exact hne ((registry.kind_eq _ entry (mem_reverse.mp hleft)).symm.trans
  (registry.kind_eq _ entry (mem_reverse.mp hright)))

lemma mem_stopOrder {entry:Entry} :
  entry∈stopOrder registry↔entry∈registry.entries entry.kind := by
 rw[stopOrder_eq]
 refine mem_flatMap.trans ⟨?_,fun hentry=>⟨entry.kind,?_,mem_reverse.mpr hentry⟩⟩
 · rintro ⟨kind,_,hentry⟩
   have hmem:=mem_reverse.mp hentry
   rw[registry.kind_eq kind entry hmem]
   exact hmem
 · cases entry.kind <;> decide

lemma stopOrder_count (entry:Entry) :
  (stopOrder registry).count entry=if entry∈registry.entries entry.kind then 1 else 0 := by
 split
 · next hmem => exact count_eq_one_of_mem (stopOrder_nodup registry) ((mem_stopOrder registry).mpr hmem)
 · next hmem => exact count_eq_zero.mpr fun h=>hmem ((mem_stopOrder registry).mp h)

end Order

def State.entries (s:State) : List Entry :=
 s.pending.map PendingStop.entry

section Moves
variable {service:Service} {s s':State} {l:Label}

inductive PendingChange (s s':State) : Prop
 | kept (hpending:s'.pending = s.pending) (howned:s'.owned = s.owned) (hcalled:s'.called = s.called)
   (hreturned:s'.returned = s.returned)
 | launched (entry:Entry) (hpending:s'.pending = s.pending ++ [⟨entry,.launched,false⟩])
   (howned:s'.owned = s.owned) (hcalled:s'.called = s.called) (hreturned:s'.returned = s.returned)
 | reported (i:ℕ) (pending:PendingStop) (hi:s.pending[i]? = some pending)
   (hpending:s'.pending = s.pending.set i { pending with reported := true }) (howned:s'.owned = s.owned)
   (hcalled:s'.called = s.called) (hreturned:s'.returned = s.returned)
 | began (i:ℕ) (entry:Entry) (reported:Bool) (hi:s.pending[i]? = some ⟨entry,.launched,reported⟩)
   (hpending:s'.pending = s.pending.set i ⟨entry,.stopping,reported⟩) (howned:s'.owned = s.owned)
   (hcalled:s'.called = s.called ++ [entry]) (hreturned:s'.returned = s.returned)
 | ended (i:ℕ) (entry:Entry) (reported:Bool) (error:Option String)
   (hi:s.pending[i]? = some ⟨entry,.stopping,reported⟩)
   (hpending:s'.pending = s.pending.set i ⟨entry,.returned error,reported⟩) (howned:s'.owned = s.owned)
   (hcalled:s'.called = s.called) (hreturned:s'.returned = s.returned ++ [entry])
 | cleared (caller:Caller) (i:ℕ) (hcontrol:s.control = .collecting caller i) (hi:s.pending[i]? = none)
   (hpending:s'.pending = []) (howned:s'.owned = false) (hcalled:s'.called = s.called)
   (hreturned:s'.returned = s.returned)

lemma reportStop_change {i:ℕ} {pending:PendingStop} {error:Option String} {control:Control}
  (hi:s.pending[i]?=some pending) :
  PendingChange s { s.reportStop i pending error with control := control } := by
 unfold State.reportStop
 split
 · exact .kept rfl rfl rfl rfl
 · cases error with
   | none => exact .reported i pending hi rfl rfl rfl rfl
   | some error => exact .reported i pending hi rfl rfl rfl rfl

lemma Move.pendingChange (hmove:Move service s l s') : PendingChange s s' := by
 cases hmove with
 | launch => exact .launched _ rfl rfl rfl rfl
 | awaited _ hi _ => exact reportStop_change hi
 | timedOut =>
  dsimp only[State.timedOut]
  split <;> exact .kept rfl rfl rfl rfl
 | @phaseDone phase => cases phase <;> exact .kept rfl rfl rfl rfl
 | drainedFirst =>
  dsimp only[State.stopPhase]
  split <;> exact .kept rfl rfl rfl rfl
 | collected _ hi _ => exact reportStop_change hi
 | @clear caller i h hi => cases caller <;> exact .cleared _ i h hi rfl rfl rfl rfl
 | «begin» hi => exact .began _ _ _ hi rfl rfl rfl rfl
 | ret hi => exact .ended _ _ _ _ hi rfl rfl rfl rfl
 | stop | launched | settle | deferPending | drainAgain | drainedSecond | deferDrain | joined | close | release
 | drop | notify | graph => exact .kept rfl rfl rfl rfl

lemma map_entry_set {pending:List PendingStop} {i:ℕ} {old new:PendingStop} (hi:pending[i]?=some old)
  (hentry:new.entry=old.entry) :
  (pending.set i new).map PendingStop.entry=pending.map PendingStop.entry := by
 grind[ext_getElem,length_map]

/-- The places that are reached with the entries still owned, or after they were given up. -/
def Control.late : Control → Bool
 | .deciding | .draining .second _ | .collecting .inline _ | .collecting .deferred _ => true
 | _ => false

/-- The places after the entries were given up for the last time. -/
def Control.last : Control → Bool
 | .joining _ | .closing | .releasing | .dropping | .notifying | .finished => true
 | _ => false

inductive Stage (registry:Registry) : Control → Bool → List Entry → Prop
 | running : Stage registry .running true []
 | launching {phase:Phase} {rest launched:List Entry} (h:launched ++ rest = upTo registry phase) :
   Stage registry (.launching phase rest (before registry phase).length) true launched
 | awaiting {phase:Phase} {i:ℕ} (hi:(before registry phase).length ≤ i) :
   Stage registry (.awaiting phase i) true (upTo registry phase)
 | drainingFirst {d:ℕ} : Stage registry (.draining .first d) true (upTo registry .executors)
 | settling : Stage registry .settling true (stopOrder registry)
 | collectingSinks {i:ℕ} : Stage registry (.collecting .sinkPhase i) true (stopOrder registry)
 | late {control:Control} (h:control.late = true) : Stage registry control true (stopOrder registry)
 | cleared {control:Control} (h:control.late = true ∨ control.last = true) : Stage registry control false []

attribute [grind cases] Stage
attribute [grind =] Control.late Control.last

section Stage
variable {registry:Registry} {owned:Bool} {entries:List Entry}

lemma Stage.of_launching {phase:Phase} {rest:List Entry} {first:ℕ}
  (h:Stage registry (.launching phase rest first) owned entries) :
  owned=true∧entries++rest=upTo registry phase∧first=(before registry phase).length := by
 grind

lemma Stage.of_awaiting {phase:Phase} {i:ℕ} (h:Stage registry (.awaiting phase i) owned entries) :
  owned=true∧entries=upTo registry phase∧(before registry phase).length≤ i := by
 grind

lemma Stage.of_last {control:Control} (hlast:control.last=true)
  (h:Stage registry control owned entries) : owned=false∧entries=[] := by
 cases control <;> grind

end Stage

lemma reportStop_frame {i:ℕ} {pending:PendingStop} (hi:s.pending[i]?=some pending)
  (error:Option String) :
  (s.reportStop i pending error).entries=s.entries∧(s.reportStop i pending error).owned=s.owned ∧
   (s.reportStop i pending error).gate=s.gate := by
 unfold State.reportStop State.entries
 split
 · exact ⟨rfl,rfl,rfl⟩
 · cases error <;> exact ⟨map_entry_set hi rfl,rfl,rfl⟩

lemma timedOut_frame (s:State) (entry:Entry) :
  (s.timedOut entry).pending=s.pending∧(s.timedOut entry).owned=s.owned ∧
   (s.timedOut entry).gate=s.gate := by
 unfold State.timedOut
 split <;> exact ⟨rfl,rfl,rfl⟩

def Staged (service:Service) (s:State) : Prop :=
 Stage service.registry s.control s.owned s.entries

lemma Staged.enter {next:Phase} (howned:s.owned=true) (hentries:s.entries=before service.registry next) :
  Staged service (s.stopPhase service next) := by
 have hlength:s.pending.length=(before service.registry next).length:=by
  rw[← hentries]
  exact (length_map PendingStop.entry).symm
 change Stage service.registry (.launching next _ s.pending.length) s.owned s.entries
 rw[howned,hentries,hlength]
 exact .launching rfl

lemma Staged.move (h:Staged service s) (hmove:Move service s l s') : Staged service s' := by
 cases hmove with
 | stop => exact .enter (by grind[Staged]) (by grind[Staged,before])
 | @launch phase entry rest first hcontrol =>
  unfold Staged at h
  rw[hcontrol] at h
  obtain ⟨howned,hentries,rfl⟩:=h.of_launching
  simp only[Staged,State.entries,howned,map_append,map_cons,map_nil]
  refine .launching ?_
  rw[append_assoc]
  exact hentries
 | launched => grind[Staged,Stage,State.entries]
 | awaited _ hi =>
  have hframe:=reportStop_frame hi
  grind[Staged,Stage,State.entries]
 | @collected caller _ _ _ _ hi =>
  have hframe:=reportStop_frame hi
  cases caller <;> grind[Staged,Stage,State.entries]
 | timedOut => grind[Staged,Stage,timedOut_frame,State.entries]
 | @phaseDone phase i hcontrol =>
  unfold Staged at h
  rw[hcontrol] at h
  obtain ⟨howned,hentries,_⟩:=h.of_awaiting
  cases phase with
  | admission => exact .enter howned hentries
  | executors =>
   change Stage service.registry (.draining .first _) s.owned s.entries
   rw[howned,hentries]
   exact .drainingFirst
  | sinks =>
   change Stage service.registry .settling s.owned s.entries
   rw[howned,hentries]
   exact .settling
 | @drainedFirst d context drained hcontrol =>
  refine .enter ?_ ?_ <;> grind[Staged,State.entries,State.warn,before,upTo]
 | «begin» hi | ret hi =>
  have hsame:=fun new=>@map_entry_set _ _ _ new hi
  grind[Staged,State.entries]
 | @clear caller =>
  cases caller with
  | sinkPhase => exact .cleared (.inl rfl)
  | inline | deferred => exact .cleared (.inr rfl)
 | settle | deferPending | drainAgain | drainedSecond | deferDrain | joined | close | release | drop
 | notify | graph => grind[Staged,Stage,State.entries,State.defer,State.drain]

def PendingStop.begunFor (entry:Entry) (pending:PendingStop) : Bool :=
 pending.place.hasBegun && pending.entry == entry

def PendingStop.returnedFor (entry:Entry) (pending:PendingStop) : Bool :=
 pending.place.isReturned && pending.entry == entry

structure Recorded (service:Service) (s:State) : Prop where
 called : s.owned = true → ∀ entry,s.called.count entry = s.pending.countP (PendingStop.begunFor entry)
 returned : s.owned = true → ∀ entry,s.returned.count entry = s.pending.countP (PendingStop.returnedFor entry)
 cleared : s.owned = false → ∀ entry,s.called.count entry = (stopOrder service.registry).count entry ∧
  s.returned.count entry = (stopOrder service.registry).count entry

/-- In the loop of `finishShutdown` the tasks before the loop's index have completed. -/
def Collected (s:State) : Prop :=
 ∀ caller i,s.control = .collecting caller i → ∀ j < i,∀ pending,s.pending[j]? = some pending →
  pending.place.isReturned = true

lemma countP_set {pending:List PendingStop} {i:ℕ} {old:PendingStop} (hi:pending[i]?=some old)
  (new:PendingStop) (p:PendingStop→ Bool) :
  (pending.set i new).countP p+(p old).toNat=pending.countP p+(p new).toNat := by
 grind

lemma countP_of_returned {pending:List PendingStop} (h:∀ p∈pending,p.place.isReturned=true)
  (entry:Entry) :
  pending.countP (PendingStop.begunFor entry)=(pending.map PendingStop.entry).count entry ∧
   pending.countP (PendingStop.returnedFor entry)=(pending.map PendingStop.entry).count entry := by
 induction pending with
 | nil => exact ⟨rfl,rfl⟩
 | cons first pending ih =>
  have hrest:=ih fun p hp=>h p (mem_cons_of_mem first hp)
  have hfirst:=h first mem_cons_self
  have hbegun:first.place.hasBegun=true:=by
   cases hplace:first.place with
   | launched =>
    rw[hplace] at hfirst
    cases hfirst
   | stopping | returned => rfl
  simp only[countP_cons,map_cons,count_cons,PendingStop.begunFor,PendingStop.returnedFor,
   hbegun,hfirst,Bool.true_and]
  exact ⟨congrArg (·+_) hrest.1,congrArg (·+_) hrest.2⟩

lemma returned_set {pending:List PendingStop} {i j:ℕ} {old new found:PendingStop}
  (hi:pending[i]?=some old) (hnew:old.place.isReturned=true→ new.place.isReturned=true)
  (h:∀ found,pending[j]?=some found→ found.place.isReturned=true)
  (hj:(pending.set i new)[j]?=some found) : found.place.isReturned=true := by
 rw[List.getElem?_set] at hj
 split at hj
 · next hij =>
   split at hj
   · obtain rfl:=Option.some.inj hj
     exact hnew (h old (hij▸hi))
   · cases hj
 · exact h found hj

lemma reportStop_returned {i j:ℕ} {pending found:PendingStop} {error:Option String}
  (hi:s.pending[i]?=some pending)
  (h:∀ found,s.pending[j]?=some found→ found.place.isReturned=true)
  (hj:(s.reportStop i pending error).pending[j]?=some found) : found.place.isReturned=true := by
 grind[State.reportStop,State.warn]

lemma Collected.move (h:Collected s) (hmove:Move service s l s') : Collected s' := by
 intro caller i hcontrol j hj found hfound
 cases hmove with
 | @collected caller' i' pending error hcollecting hi hplace =>
  cases hcontrol
  refine reportStop_returned hi (fun other hother=>?_) hfound
  rcases Nat.lt_succ_iff_lt_or_eq.mp hj with hj | rfl
  · exact h caller i' hcollecting j hj other hother
  · obtain rfl:=Option.some.inj (hi.symm.trans hother)
    rw[hplace]
    rfl
 | «begin» hi | ret hi => exact returned_set hi (fun hreturned=>nomatch hreturned) (h caller i hcontrol j hj) hfound
 | graph => exact h caller i hcontrol j hj found hfound
 | @phaseDone phase => cases phase <;> cases hcontrol
 | @clear caller' => cases caller' <;> cases hcontrol
 | settle | deferPending | deferDrain | drainedSecond => grind[State.defer]
 | stop | launch | launched | awaited | timedOut | drainedFirst | drainAgain | joined | close | release | drop
 | notify => cases hcontrol

lemma Staged.owned_of_pending (h:Staged service s) {i:ℕ} {pending:PendingStop}
  (hi:s.pending[i]?=some pending) : s.owned=true := by
 have hlength:s.entries.length=s.pending.length:=length_map _
 grind[Staged]

lemma Recorded.replace (h:Recorded service s) (howned:s.owned=true) (howned':s'.owned=s.owned) {i:ℕ}
  {old new:PendingStop} (hi:s.pending[i]?=some old) (hpending:s'.pending=s.pending.set i new)
  (hcalled:∀ entry,s'.called.count entry+(PendingStop.begunFor entry old).toNat =
   s.called.count entry+(PendingStop.begunFor entry new).toNat)
  (hreturned:∀ entry,s'.returned.count entry+(PendingStop.returnedFor entry old).toNat =
   s.returned.count entry+(PendingStop.returnedFor entry new).toNat) : Recorded service s' := by
 constructor <;> grind[Recorded]

lemma count_append_singleton (entries:List Entry) (added entry:Entry) :
  (entries++[added]).count entry=entries.count entry+(added == entry).toNat := by
 rw[count_append,count_singleton]
 cases added == entry <;> rfl

lemma Recorded.move (h:Recorded service s) (hstaged:Staged service s) (hcollected:Collected s)
  (hmove:Move service s l s') : Recorded service s' := by
 cases hmove.pendingChange with
 | kept => exact ⟨by grind[h.called],by grind[h.returned],by grind[h.cleared]⟩
 | launched entry hpending howned hcalled hreturned =>
  have hlast:∀ p : PendingStop→ Bool,p ⟨entry,.launched,false⟩=false→ s'.pending.countP p=s.pending.countP p:=by
   intro p hp
   rw[hpending,countP_append,countP_singleton,hp]
   rfl
  refine ⟨fun how other=>?_,fun how other=>?_,?_⟩
  · rw[hcalled,hlast _ rfl]
    exact h.called (howned▸how) other
  · rw[hreturned,hlast _ rfl]
    exact h.returned (howned▸how) other
  · rw[howned,hcalled,hreturned]
    exact h.cleared
 | reported i pending hi hpending howned hcalled hreturned =>
  refine h.replace (hstaged.owned_of_pending hi) howned hi hpending (fun entry=>?_) (fun entry=>?_)
  · rw[hcalled]
    rfl
  · rw[hreturned]
    rfl
 | began i entry reported hi hpending howned hcalled hreturned =>
  refine h.replace (hstaged.owned_of_pending hi) howned hi hpending (fun other=>?_) (fun other=>?_)
  · rw[hcalled,count_append_singleton]
    rfl
  · rw[hreturned]
    rfl
 | ended i entry reported error hi hpending howned hcalled hreturned =>
  refine h.replace (hstaged.owned_of_pending hi) howned hi hpending (fun other=>?_) (fun other=>?_)
  · rw[hcalled]
    rfl
  · rw[hreturned,count_append_singleton]
    rfl
 | cleared caller i hcontrol hi hpending howned hcalled hreturned =>
  refine ⟨fun how=>?_,fun how=>?_,fun _ entry=>?_⟩
  · cases howned.symm.trans how
  · cases howned.symm.trans how
  · rw[hcalled,hreturned]
    cases hbefore:s.owned with
    | false => exact h.cleared hbefore entry
    | true =>
     have hall:∀ p∈s.pending,p.place.isReturned=true:=by
      intro p hp
      obtain ⟨j,hj⟩:=mem_iff_getElem?.mp hp
      have hlt:=(List.getElem?_eq_some_iff.mp hj).1
      have hle:=List.getElem?_eq_none_iff.mp hi
      exact hcollected caller i hcontrol j (by omega) p hj
     have hentries:s.pending.map PendingStop.entry=stopOrder service.registry:=by
      change s.entries=_
      grind[Staged]
     obtain ⟨hbegun,hdone⟩:=countP_of_returned hall entry
     rw[h.called hbefore entry,h.returned hbefore entry,hbegun,hdone,hentries]
     exact ⟨rfl,rfl⟩

end Moves

end ServiceLib.ServiceShutdown
