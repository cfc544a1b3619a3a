import ServiceLib.CooperativeSharedMutex

set_option autoImplicit false
attribute [-instance] instBooleanRingBool

/-!
# Runs of the cooperative shared mutex

A fiber that was handed the mutex holds it from then on: exactly one fiber has still to send its
event or, once it has registered, to wake it.
-/
namespace ServiceLib.CooperativeSharedMutex
open SharedMutex Transition Tokens List

def Fiber.mode : Fiber → Bool
 | .acquiring w | .waiting w _ | .registering w _ | .blocked w _ | .inside w | .releasing w => w
 | .idle | .sending _ | .waking _ _ => false

def Fiber.waits : Fiber → Option Bool
 | .waiting _ sent | .registering _ sent | .blocked _ sent => some sent
 | .idle | .acquiring _ | .inside _ | .releasing _ | .sending _ | .waking _ _ => none

def Fiber.holds : Fiber → Bool
 | .inside _ | .releasing _ => true
 | .idle | .acquiring _ | .waiting _ _ | .registering _ _ | .blocked _ _ | .sending _ | .waking _ _ => false

def Fiber.ready : Fiber → List ℕ
 | .sending ready | .waking _ ready => ready
 | .idle | .acquiring _ | .waiting _ _ | .registering _ _ | .blocked _ _ | .inside _ | .releasing _ => []

def Fiber.wakes : Fiber → Option ℕ
 | .waking g _ => some g
 | .idle | .acquiring _ | .waiting _ _ | .registering _ _ | .blocked _ _ | .inside _ | .releasing _
 | .sending _ => none

def Fiber.asleep : Fiber → Bool
 | .blocked _ sent => sent
 | .idle | .acquiring _ | .waiting _ _ | .registering _ _ | .inside _ | .releasing _ | .sending _ | .waking _ _ =>
  false

namespace State

def queued (s:State) (f:ℕ) : Prop :=
 f ∈ s.mutex.waiters.map Waiter.id

instance (s:State) (f:ℕ) : Decidable (s.queued f) :=
 inferInstanceAs (Decidable (f ∈ s.mutex.waiters.map Waiter.id))

def writer (s:State) (f:ℕ) : Bool :=
 (s.fibers[f]?.map Fiber.mode).getD false

/-- A fiber that was handed the mutex is inside, whether it was woken or not. -/
def side (s:State) (f:ℕ) : Side :=
 if s.fibers[f]?.map Fiber.holds = some true then .inside
 else if s.fibers[f]?.bind Fiber.waits = none then .outside
 else if s.queued f then .queued else .inside

def owed (s:State) (f:ℕ) : ℕ :=
 if s.fibers[f]?.bind Fiber.waits = some false ∧ ¬s.queued f then 1 else 0

def taken (s:State) (f:ℕ) : ℕ :=
 if s.fibers[f]?.map Fiber.asleep = some true then 1 else 0

end State

structure Inv (s:State) : Prop where
 tracks : Tracks s.mutex s.writer s.side
 sent : ∀ f,s.fibers[f]?.bind Fiber.waits = some true → ¬s.queued f
 owes : ∀ g,total (fun fiber=>fiber.ready.count g) s.fibers = s.owed g
 wakes : ∀ g,total (fun fiber=>if fiber.wakes = some g then 1 else 0) s.fibers = s.taken g

inductive Event
 | taken (fiber:Waiter ℕ)
 | queued (fiber:Waiter ℕ)
 | handed (fiber:Waiter ℕ)
 | sent (fiber:ℕ)
 | woken (fiber:ℕ)
 deriving DecidableEq

def events (s:State) (l:Label) (_:State) : List Event :=
 match l with
 | .lock _ _ | .unlock _ => []
 | .run f =>
  match s.fibers[f]? with
  | some (.acquiring writer) => if s.mutex.admits writer then [.taken ⟨f,writer⟩] else [.queued ⟨f,writer⟩]
  | some (.waiting _ true) | some (.registering _ true) => [.woken f]
  | some (.releasing writer) => (release s.mutex writer).2.map .handed
  | some (.sending (g :: _)) => [.sent g]
  | some (.waking g _) => [.woken g]
  | _ => []

def arrivedOf (es:List Event) : List (Waiter ℕ) :=
 es.filterMap fun
  | .taken fiber | .queued fiber => some fiber
  | .handed _ | .sent _ | .woken _ => none

def grantedOf (es:List Event) : List (Waiter ℕ) :=
 es.filterMap fun
  | .taken fiber | .handed fiber => some fiber
  | .queued _ | .sent _ | .woken _ => none

def Event.queues (f:ℕ) : Event → Bool
 | .queued fiber => fiber.id == f
 | .taken _ | .handed _ | .sent _ | .woken _ => false

def Event.hands (f:ℕ) : Event → Bool
 | .handed fiber => fiber.id == f
 | .taken _ | .queued _ | .sent _ | .woken _ => false

structure History (s:State) (es:List Event) : Prop where
 order : grantedOf es ++ s.mutex.waiters = arrivedOf es
 handed : ∀ f,es.countP (Event.queues f) = es.countP (Event.hands f) + if s.queued f then 1 else 0
 sent : ∀ f,es.countP (Event.hands f) = es.count (.sent f) + s.owed f
 woken : ∀ f,es.count (.sent f) = es.count (.woken f) +
  if s.fibers[f]?.bind Fiber.waits = some true then 1 else 0

structure Emits (s s':State) (es:List Event) : Prop where
 order : grantedOf es ++ s'.mutex.waiters = s.mutex.waiters ++ arrivedOf es
 handed : ∀ f,(if s.queued f then 1 else 0) + es.countP (Event.queues f) =
  es.countP (Event.hands f) + if s'.queued f then 1 else 0
 sent : ∀ f,s.owed f + es.countP (Event.hands f) = es.count (.sent f) + s'.owed f
 woken : ∀ f,(if s.fibers[f]?.bind Fiber.waits = some true then 1 else 0) + es.count (.sent f) =
  es.count (.woken f) + if s'.fibers[f]?.bind Fiber.waits = some true then 1 else 0

attribute [grind =] Fiber.asleep Fiber.mode Fiber.waits Fiber.holds Fiber.ready Fiber.wakes State.goto State.writer State.side
  State.owed State.taken State.queued

variable {s s':State} {l:Label}

variable {f:ℕ} {fiber:Fiber}

lemma Inv.owed_of_ready (hs:Inv s) {g:ℕ} (h:s.fibers[f]?=some fiber)
  (hg:g∈fiber.ready) : s.owed g=1 := by
 have hle:=le_total (fun fiber:Fiber=>fiber.ready.count g) (mem_of_getElem? h)
 have hpos:=count_pos_iff.mpr hg
 have howes:=hs.owes g
 have : s.owed g≤1:=by grind
 omega

lemma Inv.taken_of_wakes (hs:Inv s) {g:ℕ} (h:s.fibers[f]?=some fiber)
  (hg:fiber.wakes=some g) : s.taken g=1 := by
 have hle:=le_total (fun fiber:Fiber=>if fiber.wakes=some g then 1 else 0) (mem_of_getElem? h)
 have hwakes:=hs.wakes g
 have : s.taken g≤1:=by grind
 simp only[hg,if_true] at hle
 omega

lemma Tracks.goto {old new:Fiber} (ht:Tracks s.mutex s.writer s.side)
  (h:s.fibers[f]?=some old) (hside:(s.goto f new).side f=s.side f)
  (hmode:s.side f=.outside∨new.mode=old.mode) :
  Tracks (s.goto f new).mutex (s.goto f new).writer (s.goto f new).side := by
 refine SharedMutex.Tracks.congr ht (fun g=>?_) fun g hg=>?_
 · by_cases hg:g=f
   · rw[hg,hside]
   · grind
 · grind

lemma Inv.granted (hs:Inv s) {writer:Bool} (h:s.fibers[f]?=some (.releasing writer)) (g:ℕ) :
  (g∈(s.mutex.release writer).2.map Waiter.id↔⟨g,s.writer g⟩∈(s.mutex.release writer).2) ∧
   (g∈(s.mutex.release writer).2.map Waiter.id →
    s.side g=.queued∧g∉(s.mutex.release writer).1.waiters.map Waiter.id) ∧
   (s.queued g↔g∈(s.mutex.release writer).2.map Waiter.id ∨
    g∈(s.mutex.release writer).1.waiters.map Waiter.id) ∧
   ((s.mutex.release writer).2.map Waiter.id).Nodup := by
 have hw:s.writer f=writer:=by grind
 have hsplit:=congrArg (List.map Waiter.id) (hs.tracks.release_split (show s.side f=.inside by grind))
 rw[hw,map_append] at hsplit
 have hnodup:=hs.tracks.nodup
 rw[← hsplit] at hnodup
 have hmem:∀ w,⟨g,w⟩∈(s.mutex.release writer).2→ w=s.writer g∧s.side g=.queued:=
  fun w=>hs.tracks.queued_of_granted
 refine ⟨⟨fun hg=>?_,fun hg=>mem_map_of_mem hg⟩,fun hg=>⟨?_,fun hg'=>?_⟩,?_,hnodup.of_append_left⟩
 · obtain ⟨⟨_,w⟩,hw',rfl⟩:=mem_map.mp hg
   exact (hmem w hw').1▸hw'
 · obtain ⟨⟨_,w⟩,hw',rfl⟩:=mem_map.mp hg
   exact (hmem w hw').2
 · exact disjoint_of_nodup_append hnodup hg hg'
 · rw[State.queued,← hsplit,mem_append]

lemma Inv.unsent (hs:Inv s) (h:s.side f=.queued) :
  s.fibers[f]?.bind Fiber.waits=some false∧s.queued f := by
 have:=hs.sent f
 rcases hwaits:s.fibers[f]?.bind Fiber.waits with _ | _ | _ <;> grind

lemma Inv.queued_iff (hs:Inv s) (f:ℕ) : s.queued f↔s.side f=.queued := by
 have:=hs.tracks.waits f
 constructor
 · intro h
   obtain ⟨⟨_,w⟩,hw,rfl⟩:=mem_map.mp h
   exact ((this w).mp hw).2
 · grind

lemma tracks_move (hs:Inv s) (hmove:Move s l s') : Tracks s'.mutex s'.writer s'.side := by
 have ⟨htracks,hsent,howes,hwakes⟩:=hs
 cases hmove with
 | locks h | unlocks h | looks h | registers h | ends h => exact Tracks.goto htracks h (by grind) (by grind)
 | returns h => rcases h with h | h <;> exact Tracks.goto htracks h (by grind) (by grind)
 | @takes f writer h hadmits =>
  have hw:s.writer f=writer:=by grind
  have ht:Tracks _ _ fun g=>if g=f then .inside else s.side g:=
   htracks.take (by grind) (hw▸hadmits) (if_pos rfl) (by grind)
  rw[hw] at ht
  have hwaiters:(s.mutex.take writer).waiters=s.mutex.waiters:=by cases writer <;> rfl
  exact ht.congr (by grind) (by grind)
 | @queues f writer h hadmits =>
  have hw:s.writer f=writer:=by grind
  have ht:Tracks _ _ fun g=>if g=f then .queued else s.side g:=
   htracks.enqueue (by grind) (hw▸hadmits) (if_pos rfl) (by grind)
  rw[hw] at ht
  exact ht.congr (by grind[Mutex.enqueue]) (by grind)
 | @releases f writer h =>
  have hw:s.writer f=writer:=by grind
  have hinside:s.side f=.inside:=by grind
  have hgranted:=hs.granted h
  have ht:Tracks _ _ ({ s with mutex:=(s.mutex.release writer).1 }.goto f
   (.sending ((s.mutex.release writer).2.map Waiter.id))).side :=
   htracks.release hinside (by grind) (by grind) (by grind)
  rw[hw] at ht
  exact ht.congr (fun g=>rfl) (fun g _=>by grind)
 | @sends f g old new rest h hg hold =>
  have:=hs.owed_of_ready h (g := g) mem_cons_self
  have ht:Tracks (s.goto g new).mutex _ _:=Tracks.goto htracks hg (by grind) (by grind)
  exact Tracks.goto ht (show _=some (Fiber.sending (g::rest)) by grind) (by grind) (by grind)
 | @sendsBlocked f g writer rest sent h hg =>
  have:=hs.owed_of_ready h (g := g) mem_cons_self
  have ht:Tracks (s.goto g (.blocked writer true)).mutex _ _:=Tracks.goto htracks hg (by grind) (by grind)
  exact Tracks.goto ht (show _=some (Fiber.sending (g::rest)) by grind) (by grind) (by grind)
 | @wakes f g writer rest sent h hg =>
  have:=hs.taken_of_wakes h rfl
  have ht:Tracks (s.goto g (.inside writer)).mutex _ _:=Tracks.goto htracks hg (by grind) (by grind)
  exact Tracks.goto ht (show _=some (Fiber.waking g rest) by grind) (by grind) (by grind)

lemma sent_move (hs:Inv s) (hmove:Move s l s') :
  ∀ f,s'.fibers[f]?.bind Fiber.waits=some true→ ¬s'.queued f := by
 have ⟨htracks,hsent,howes,hwakes⟩:=hs
 cases hmove with
 | takes h hadmits =>
  have : ∀ w,(s.mutex.take w).waiters=s.mutex.waiters:=by intro w; cases w <;> rfl
  grind
 | queues h hadmits => grind[Mutex.enqueue]
 | releases h =>
  have:=hs.granted h
  grind
 | sends h hg hold =>
  have:=hs.owed_of_ready h mem_cons_self
  grind
 | sendsBlocked h hg =>
  have:=hs.owed_of_ready h mem_cons_self
  grind
 | _ => grind

lemma owes_move (hs:Inv s) (hmove:Move s l s') (k:ℕ) :
  total (fun fiber=>fiber.ready.count k) s'.fibers=s'.owed k := by
 have howes:=hs.owes k
 cases hmove with
 | takes h hadmits =>
  have : ∀ w,(s.mutex.take w).waiters=s.mutex.waiters:=by intro w; cases w <;> rfl
  grind[total_set]
 | queues h hadmits => grind[Mutex.enqueue,total_set]
 | releases h =>
  have hgranted:=hs.granted h k
  have:=fun hside=>hs.unsent (f := k) hside
  have:=hgranted.2.2.2.count (a := k)
  grind[total_set]
 | sends h hg hold =>
  have:=hs.owed_of_ready h mem_cons_self
  grind[total_set]
 | sendsBlocked h hg =>
  have:=hs.owed_of_ready h mem_cons_self
  grind[total_set]
 | wakes h hg =>
  have:=hs.taken_of_wakes h rfl
  grind[total_set]
 | _ => grind[total_set]

lemma wakes_move (hs:Inv s) (hmove:Move s l s') (k:ℕ) :
  total (fun fiber=>if fiber.wakes=some k then 1 else 0) s'.fibers=s'.taken k := by
 have hwakes:=hs.wakes k
 cases hmove with
 | sendsBlocked h hg =>
  have:=hs.owed_of_ready h mem_cons_self
  grind[total_set]
 | wakes h hg =>
  have:=hs.taken_of_wakes h rfl
  grind[total_set]
 | _ => grind[total_set]

lemma Inv.move (hs:Inv s) (hmove:Move s l s') : Inv s' :=
 ⟨tracks_move hs hmove,sent_move hs hmove,owes_move hs hmove,wakes_move hs hmove⟩

lemma inv_initial (n:ℕ) : Inv (initial n) := by
 have hidle:∀ (f:ℕ) fiber,(initial n).fibers[f]?=some fiber→ fiber=Fiber.idle:=by
  intro f fiber h
  exact eq_of_mem_replicate (mem_of_getElem? h)
 have htotal:∀ weight : Fiber→ℕ,weight .idle=0→ total weight (initial n).fibers=0:=by
  intro weight h
  simp[total,initial,h]
 refine ⟨tracks_empty fun f=>?_,fun f h=>?_,fun g=>?_,fun g=>?_⟩
 · grind
 · grind
 · rw[htotal _ rfl]
   grind
 · rw[htotal _ rfl]
   grind

attribute [grind =] arrivedOf grantedOf Event.queues Event.hands

lemma handed_events (ws:List (Waiter ℕ)) (f:ℕ) :
  grantedOf (ws.map .handed)=ws∧arrivedOf (ws.map .handed)=[] ∧
   (ws.map Event.handed).countP (Event.queues f)=0 ∧
   (ws.map Event.handed).countP (Event.hands f)=(ws.map Waiter.id).count f ∧
   (ws.map Event.handed).count (.sent f)=0∧(ws.map Event.handed).count (.woken f)=0 := by
 have hmap:∀ (p:Event→ Bool),(ws.map Event.handed).countP p=ws.countP fun w=>p (.handed w):=
  fun p=>countP_map
 refine ⟨?_,?_,?_,?_,?_,?_⟩
 · simp[grantedOf]
 · simp[arrivedOf]
 · simp[hmap,Event.queues]
 · rw[hmap,List.count,countP_map]
   rfl
 · simp[List.count,hmap]
 · simp[List.count,hmap]

lemma emits_release (hs:Inv s) {writer:Bool} (h:s.fibers[f]?=some (.releasing writer)) :
  Emits s ({ s with mutex := (s.mutex.release writer).1 }.goto f
   (.sending ((s.mutex.release writer).2.map Waiter.id))) ((s.mutex.release writer).2.map .handed) := by
 have hsplit:=hs.tracks.release_split (show s.side f=.inside by grind)
 rw[show s.writer f=writer by grind] at hsplit
 refine ⟨?_,fun g=>?_,fun g=>?_,fun g=>?_⟩
 · rw[(handed_events _ 0).1,(handed_events _ 0).2.1,append_nil]
   exact hsplit
 all_goals
  obtain ⟨-,hqueued,hiff,hnodup⟩:=hs.granted h g
  obtain ⟨-,-,hqueues,hhands,hsent,hwoken⟩:=handed_events (s.mutex.release writer).2 g
  have hcount:=hnodup.count (a:=g)
  have hunsent:=fun hside=>hs.unsent (f:=g) hside
  have hfiber:(s.fibers.set f (.sending ((s.mutex.release writer).2.map Waiter.id)))[g]?.bind Fiber.waits =
   s.fibers[g]?.bind Fiber.waits := by grind
  simp only[hqueues,hhands,hsent,hwoken,hcount,hfiber,State.owed,State.queued,State.goto] at hiff hunsent ⊢
  grind only

lemma emits_move (hs:Inv s) (hmove:Move s l s') : Emits s s' (events s l s') := by
 have hsent:=hs.sent
 cases hmove with
 | locks h => constructor <;> grind[events]
 | unlocks h => constructor <;> grind[events]
 | @takes f writer h hadmits =>
  have hempty:s.mutex.waiters=[]:=by simp[Mutex.admits] at hadmits; grind
  have : (s.mutex.take writer).waiters=s.mutex.waiters:=by cases writer <;> rfl
  simp only[events,h,hadmits]
  constructor <;> grind
 | @queues f writer h hadmits =>
  have:=hs.queued_iff f
  simp only[events,h,hadmits,Mutex.enqueue]
  constructor <;> grind
 | releases h =>
  simp only[events,h,release_eq]
  exact emits_release hs h
 | sends h hg hold =>
  have:=hs.owed_of_ready h mem_cons_self
  simp only[events,h]
  constructor <;> grind
 | sendsBlocked h hg =>
  have:=hs.owed_of_ready h mem_cons_self
  simp only[events,h]
  constructor <;> grind
 | wakes h hg =>
  have:=hs.taken_of_wakes h rfl
  simp only[events,h]
  constructor <;> grind
 | returns h =>
  rcases h with h | h <;> simp only[events,h] <;> constructor <;> grind
 | looks h | registers h | ends h =>
  simp only[events,h]
  constructor <;> grind

lemma History.append {es es':List Event} (hs:History s es) (h:Emits s s' es') : History s' (es++es') := by
 grind[History,Emits]

lemma run_invariants {n:ℕ} {labels:List Label} (h:exec step (initial n) labels=some s) :
  Inv s∧History s (observe step events (initial n) labels) := by
 refine exec_observe events (I := fun s es=>Inv s∧History s es) ?_ ⟨inv_initial n,?_⟩ h
 · rintro s l s' es ⟨hs,hes⟩ hstep
   have hmove:=move_of_step hstep
   exact ⟨hs.move hmove,hes.append (emits_move hs hmove)⟩
 · have:=(inv_initial n).owes
   constructor <;> grind[initial]

def Fiber.work : Fiber → ℕ
 | .idle | .inside _ => 0
 | .blocked _ _ => 1
 | .registering _ _ => 2
 | .waiting _ _ => 3
 | .acquiring _ => 6
 | .sending ready => 2 * ready.length + 1
 | .waking _ ready => 2 * ready.length + 2
 | .releasing _ => 2

def State.remaining (s:State) : ℕ :=
 total Fiber.work s.fibers + 2 * s.mutex.waiters.length

def Label.internal : Label → Prop
 | .run _ => True
 | .lock _ _ | .unlock _ => False

attribute [grind =] Fiber.work State.remaining

lemma remaining_move (hs:Inv s) (hl:l.internal) (hmove:Move s l s') : s'.remaining < s.remaining := by
 cases hmove with
 | locks | unlocks => cases hl
 | @takes f writer h hadmits =>
  have : (s.mutex.take writer).waiters=s.mutex.waiters:=by cases writer <;> rfl
  grind[total_set]
 | queues h hadmits => grind[total_set,Mutex.enqueue]
 | @releases f writer h =>
  have hsplit:=congrArg List.length (hs.tracks.release_split (show s.side f=.inside by grind))
  rw[show s.writer f=writer by grind,length_append] at hsplit
  grind[total_set]
 | _ => grind[total_set]

lemma quiet_of_stuck (hs:Inv s) (hstuck:∀ f,step s (.run f)=none)
  (h:s.fibers[f]?=some fiber) : fiber.ready=[]∧fiber.wakes=none := by
 have hnone:=hstuck f
 have howed:=fun g=>hs.owed_of_ready (g:=g) h
 have htaken:=fun g=>hs.taken_of_wakes (g:=g) h
 simp only[step,State.run,State.send,h] at hnone
 cases fiber with
 | sending ready =>
  cases ready with
  | nil => cases hnone
  | cons g rest =>
   have hwaits:=howed g mem_cons_self
   rcases hg:s.fibers[g]? with _ | old
   · grind
   · cases old <;> grind
 | waking g rest =>
  have htaken:=htaken g rfl
  rcases hg:s.fibers[g]? with _ | old
  · grind
  · cases old <;> grind
 | _ => exact ⟨rfl,rfl⟩

lemma fibers_of_stuck (hs:Inv s) (hstuck:∀ f,step s (.run f)=none)
  (h:s.fibers[f]?=some fiber) :
  fiber=.idle∨(∃ writer,fiber=.inside writer)∨(∃ writer,fiber=.blocked writer false)∧s.queued f := by
 have hzero:∀ weight : Fiber→ℕ,(∀ fiber,fiber.ready=[]→ fiber.wakes=none→ weight fiber=0) →
  total weight s.fibers=0:=by
  intro weight hweight
  have hle:total weight s.fibers≤total (fun _=>0) s.fibers:=by
   refine total_mono fun fiber hmem=>Nat.le_of_eq ?_
   obtain ⟨g,hg⟩:=List.getElem?_of_mem hmem
   exact hweight fiber (quiet_of_stuck hs hstuck hg).1 (quiet_of_stuck hs hstuck hg).2
  simpa[total] using hle
 have howes:=hs.owes f
 rw[hzero _ fun fiber hready _=>by rw[hready,count_nil]] at howes
 have hwakes:=hs.wakes f
 rw[hzero _ fun fiber _ hwakes=>by rw[hwakes]; rfl] at hwakes
 have hquiet:=quiet_of_stuck hs hstuck h
 have hnone:=hstuck f
 simp only[step,State.run,h] at hnone
 cases fiber with
 | idle => exact .inl rfl
 | inside writer => exact .inr (.inl ⟨writer,rfl⟩)
 | blocked writer sent => cases sent <;> grind
 | _ => grind

lemma inside_of_stuck (hs:Inv s) (hstuck:∀ f,step s (.run f)=none) (hf:s.queued f) :
  ∃ (g:ℕ) (writer:Bool),s.fibers[g]?=some (.inside writer) := by
 obtain ⟨g,hg⟩:=hs.tracks.exists_inside ((hs.queued_iff f).mp hf)
 cases h:s.fibers[g]? with
 | none => grind
 | some fiber =>
  have:=fibers_of_stuck hs hstuck h
  grind

lemma waiters_of_free (hs:Inv s) (hwriter:s.mutex.writer=false) (hreaders:s.mutex.readers=0) :
  s.mutex.waiters=[] := by
 obtain ⟨readers,owner,hvalid,-,-⟩:=hs.tracks.held
 by_contra hne
 have:=hvalid.busy hne
 have:=hvalid.owner_none hwriter
 have:=hvalid.count
 grind

/-- In every run: a writer that holds the mutex holds it alone; it is granted in the order in
which the fibers arrived, so that nobody passes a fiber that is queued; nobody is queued
while it is free; and each time a fiber queues it is handed the mutex, then sent its event
and then woken, once each. What the fibers do between a call and its return comes to an
end, and then a fiber sleeps only while another is inside. -/
theorem shared_mutex_contract {n : ℕ} {labels : List Label} (h : exec step (initial n) labels = some s) :
    let es:=observe step events (initial n) labels
    (∀ f g, s.side f = .inside → s.writer f = true → s.side g = .inside → g = f) ∧
      grantedOf es ++ s.mutex.waiters = arrivedOf es ∧
      (s.mutex.writer = false → s.mutex.readers = 0 → s.mutex.waiters = []) ∧
      (∀ f, es.countP (Event.queues f) = es.countP (Event.hands f) + (if s.queued f then 1 else 0) ∧
        es.countP (Event.hands f) = es.count (.sent f) + s.owed f ∧
        es.count (.sent f) = es.count (.woken f) +
          if s.fibers[f]?.bind Fiber.waits = some true then 1 else 0) ∧
      (∀ labels' s', (∀ l ∈ labels', l.internal) → exec step s labels' = some s' →
        labels'.length ≤ s.remaining) ∧
      ((∀ f, step s (.run f) = none) → ∀ f,
        es.count (.woken f) = es.countP (Event.hands f) ∧
        (s.queued f → ∃ (g : ℕ) (writer : Bool), s.fibers[g]? = some (.inside writer))) := by
 intro es
 obtain ⟨hs,hes⟩:=run_invariants h
 refine ⟨fun f g hf hw hg=>hs.tracks.alone hf hw hg,hes.order,waiters_of_free hs,
  fun f=>⟨hes.handed f,hes.sent f,hes.woken f⟩,fun labels' s' hinternal hrun=>?_,
  fun hstuck f=>⟨?_,inside_of_stuck hs hstuck⟩⟩
 · have hinv:∀ s l s',Inv s→ step s l=some s'→ Inv s' :=
    fun s l s' hs hstep=>hs.move (move_of_step hstep)
   have hwork:∀ s (l:Label) s',Inv s→ l.internal→ step s l=some s'→ s'.remaining < s.remaining:=
    fun s l s' hs hl hstep=>remaining_move hs hl (move_of_step hstep)
   have hbound:=exec_work hinv hwork hs hinternal hrun
   omega
 · have hsent:=hes.sent f
   have hwoken:=hes.woken f
   cases hf:s.fibers[f]? with
   | none => grind
   | some fiber =>
    have:=fibers_of_stuck hs hstuck hf
    grind

/-- A reader sleeps behind a writer, which leaves and wakes it. -/
def readerBehindWriter : List Label :=
 [.lock 0 true,.run 0,.lock 1 false,.run 1,.run 1,.run 1,.unlock 0,.run 0,.run 0,.run 0]

theorem shared_mutex_contract_readerBehindWriter : ∃ s, exec step (initial 2) readerBehindWriter = some s ∧
  s.fibers = [.sending [], .inside false] ∧
  grantedOf (observe step events (initial 2) readerBehindWriter) = [⟨0, true⟩, ⟨1, false⟩] ∧
  (observe step events (initial 2) readerBehindWriter).count (.sent 1) =
   (observe step events (initial 2) readerBehindWriter).count (.woken 1) := by
 refine ⟨_,rfl,rfl,?_,?_⟩
 · have hcontract:=@shared_mutex_contract _ 2 readerBehindWriter rfl
   exact (append_nil _).symm.trans hcontract.2.1
 · have hcontract:=@shared_mutex_contract _ 2 readerBehindWriter rfl
   exact (hcontract.2.2.2.1 1).2.2

end ServiceLib.CooperativeSharedMutex
