import ServiceLib.JoinStorage

set_option autoImplicit false
attribute [-instance] instBooleanRingBool

/-!
# What a step of the join storage does
-/
namespace ServiceLib.JoinStorage
open Generations

variable {K V F:Type}

def Label.Quiet : Label K V F → Prop
 | .start | .advance _ | .cancellation _ | .rotationTimer | .rearm => True
 | _ => False

variable [DecidableEq K]

set_option autoImplicit true in
/-- The quiet steps change the clock, the rotation timer, the handlers and, at a start,
`running`. -/
inductive Move (s:State K V F) : Label K V F → State K V F → Prop
 | quiet {rotation:Rotation} (hl:l.Quiet)
  (hrun:running = true → s.running = true ∨ s.stopped = false)
  (hstill:s.running = true → running = true)
  (hhandlers:∀ e,e ∈ posted ∨ e ∈ cancellations → e ∈ s.posted ∨ e ∈ s.cancellations) :
  Move s l { s with
   running := running
   rotation := rotation
   posted := posted
   cancellations := cancellations
   clock := clock }
 | rotate (h:stored = s.stored ∨ stored = ⟨∅,absorb s.stored.current s.stored.previous.entries⟩) :
  Move s .rotate { s with
   highWaterMark := highWaterMark
   stored := stored
   rotation := .rotated }
 | timer (h:(s.items i).timer = some (due,e)) :
  Move s (.timer i) ({ s with posted := s.posted ++ [e] }.setItem i { s.items i with timer := none })
 | refused (h:s.calls c = .idle) :
  Move s (.joinValue c context key index value none) (s.setCall c (.failed .callbackRequired))
 | begun (h:s.calls c = .idle) :
  Move s (.joinValue c context key index value (some f))
   (s.setCall c (.find ⟨context,key,index,value,f,s.effectiveDeadline context⟩))
 | notRunning (e:StoreError) (h:s.calls c = .find j)
  (hrun:s.running = false) : Move s (.find c) (s.setCall c (.failed e))
 | found (h:s.calls c = .find j) (hrun:s.running = true)
  (hi:s.stored.Bound j.key i) : Move s (.find c) (s.setCall c (.lock j i false))
 | created (h:s.calls c = .find j) (hrun:s.running = true)
  (hcur:s.stored.current.lookup j.key = none) (hprev:s.stored.previous.lookup j.key = none) :
  Move s (.find c) (({ s with
   next := s.next + 1
   stored := s.stored.emplace j.key s.next
   count := if s.metricsEnabled then s.count + 1 else s.count }.setItem s.next
   { key := some j.key
     values := resize [] (j.index + 1)
     callback := some j.callback }).setCall c (.lock j s.next true))
 | retried (h:s.calls c = .lock j i created)
  (hp:(s.items i).processed = true) : Move s (.lock c) (s.setCall c (.find j))
 | expires (h:s.calls c = .lock j i created)
  (hfree:(s.items i).locked = none) (hp:(s.items i).processed = false)
  (hdue:(s.items i).expired s.clock = true) :
  Move s (.lock c) ((s.setItem i { s.items i with processed := true }).setCall c (.expiry j i))
 | evaluates (h:s.calls c = .lock j i created)
  (hfree:(s.items i).locked = none) (hp:(s.items i).processed = false) :
  Move s (.lock c) (s.evaluate c j i (s.items i))
 | arms (deadline:ℤ)
  (h:s.calls c = .lock j i created) (hfree:(s.items i).locked = none)
  (hp:(s.items i).processed = false) :
  Move s (.lock c) ((s.addCancellations j i).evaluate c j i ((s.items i).arm j.key i deadline))
 | renews (deadline:ℤ)
  (h:s.calls c = .lock j i created) (hfree:(s.items i).locked = none)
  (hp:(s.items i).processed = false) :
  Move s (.lock c) (((s.addCancellations j i).setItem i
   { (s.items i).arm j.key i deadline with locked := some c }).setCall c (.moveToCurrent j i))
 | moved (h:s.calls c = .moveToCurrent j i) :
  Move s (.moveToCurrent c)
   ({ s with stored := s.stored.promote j.key i }.evaluate c j i (s.items i))
 | joined (values:List (List V)) (h:s.calls c = .callback j i) :
  Move s (.callback c (.returned true values)) ((s.setItem i { s.items i with
   values := values
   processed := true
   generation := (s.items i).generation + 1
   timer := none
   locked := none }).setCall c (.removeJoined j i))
 | kept (values:List (List V)) (h:s.calls c = .callback j i) :
  Move s (.callback c (.returned false values))
   ((s.setItem i { s.items i with values := values,locked := none }).setCall c (.returned j))
 | threw (values:List (List V)) (h:s.calls c = .callback j i) :
  Move s (.callback c (.threw values))
   ((s.setItem i { s.items i with values := values,locked := none }).setCall c .callbackThrew)
 | expiryReturned (result:Bool) (values:List (List V))
  (h:s.calls c = .expiry j i) :
  Move s (.expiry c (.returned result values))
   ((s.setItem i { s.items i with values := values }).setCall c (.removeExpired j i))
 | expiryThrew (values:List (List V))
  (h:s.calls c = .expiry j i) :
  Move s (.expiry c (.threw values))
   ((s.setItem i { s.items i with values := values }).setCall c .callbackThrew)
 | expireReturned (outcome:Outcome V) (h:s.calls c = .expireCallback e) :
  Move s (.expiry c outcome)
   ((s.setItem e.item { s.items e.item with values := outcome.values }).setCall c (.removeEvicted e))
 | removedJoined (h:s.calls c = .removeJoined j i) :
  Move s (.remove c) ((s.removeIfSame j.key i false).setCall c (.returned j))
 | removedExpired (h:s.calls c = .removeExpired j i) :
  Move s (.remove c) ((s.removeIfSame j.key i true).setCall c (.find j))
 | removedEvicted (h:s.calls c = .removeEvicted e) :
  Move s (.remove c) ((s.removeIfSame e.key e.item true).setCall c .expireDone)
 | expire (h:s.calls c = .idle) (he:s.posted[n]? = some e) :
  Move s (.expire c n) ({ s with posted := s.posted.eraseIdx n }.setCall c (.expire e))
 | stale (h:s.calls c = .expire e) :
  Move s (.expireLock c) (s.setCall c .expireDone)
 | evicts (h:s.calls c = .expire e) (hfree:(s.items e.item).locked = none)
  (hp:(s.items e.item).processed = false) :
  Move s (.expireLock c)
   ((s.setItem e.item { s.items e.item with processed := true }).setCall c (.expireCallback e))
 | stopped (h:s.calls c = .idle) (hs:s.stopped = false) :
  Move s (.stop c) ({ s with
   running := false
   stopped := true
   rotation := s.rotation.cancel
   stored := {}
   count := if s.metricsEnabled ∧ s.stored.total ≠ 0 then s.count - s.stored.total else s.count
   }.setCall c (.marking s.storedItems))
 | stoppedAgain (h:s.calls c = .idle) (hs:s.stopped = true) :
  Move s (.stop c) (s.setCall c (.marking []))
 | marked (h:s.calls c = .marking items) (hi:i ∈ items)
  (hfree:(s.items i).locked = none) :
  Move s (.mark c i) ((s.setItem i { s.items i with
   processed := true
   generation := (s.items i).generation + 1
   timer := none }).setCall c (.marking (items.erase i)))

variable {s s':State K V F} {c i:ℕ} {j:Join K V F}

lemma move_start {started:State K V F} (h:s.start=.ok started) : Move s .start started := by
 unfold State.start at h
 split at h
 · cases h
 split at h
 · cases h
 next hrun hstopped =>
 have hstopped:s.stopped=false:=by simpa using hstopped
 cases h
 split <;> exact .quiet trivial (fun _=>.inr hstopped) (fun _=>rfl) (fun _ he=>he)

lemma move_find (h:s.calls c=.find j) :
  Move s (.find c) (s.findOrCreate c j) := by
 unfold State.findOrCreate
 split
 · next hrun => exact .notRunning _ h (by simpa using hrun)
 next hrun =>
 have hrun:s.running=true:=by simpa using hrun
 split
 · next i hi => exact .found h hrun (.inl hi)
 next hcur =>
 split
 · next i hi => exact .found h hrun (.inr hi)
 · next hprev => exact .created h hrun hcur hprev

lemma move_lock {created:Bool}
  (h:s.calls c=.lock j i created) (hs:s.lock c j i created=some s') :
  Move s (.lock c) s' := by
 simp only[State.lock] at hs
 split at hs
 · cases hs
 next hfree =>
 have hfree:(s.items i).locked=none:=by simpa using hfree
 split at hs
 · next hp =>
   cases hs
   exact .retried h hp
 next hp =>
 have hp:(s.items i).processed=false:=by simpa using hp
 split at hs
 · next hdue =>
   cases hs
   exact .expires h hfree hp hdue
 split at hs
 · cases hs
   exact .evaluates h hfree hp
 split at hs
 · cases hs
   exact .arms _ h hfree hp
 split at hs
 · cases hs
   exact .renews _ h hfree hp
 · cases hs
   exact .evaluates h hfree hp

lemma move_callback (h:s.calls c=.callback j i)
  (outcome:Outcome V) : Move s (.callback c outcome) (s.callbackDone c j i outcome) := by
 cases outcome with
 | threw values => exact .threw values h
 | returned result values =>
  cases result with
  | true => exact .joined values h
  | false => exact .kept values h

lemma move_expiry (h:s.calls c=.expiry j i)
  (outcome:Outcome V) : Move s (.expiry c outcome) (s.expiryDone c j i outcome) := by
 cases outcome with
 | threw values => exact .expiryThrew values h
 | returned result values => exact .expiryReturned result values h

lemma move_expireLock {e:Expiry K} (h:s.calls c=.expire e)
  (hs:s.expireLock c e=some s') : Move s (.expireLock c) s' := by
 simp only[State.expireLock] at hs
 split at hs
 · cases hs
 next hfree =>
 split at hs
 · cases hs
   exact .stale h
 next hlive =>
 obtain ⟨hp,-⟩:=not_or.mp hlive
 cases hs
 exact .evicts h (by simpa using hfree) (by simpa using hp)

lemma move_stop (h:s.calls c=.idle) : Move s (.stop c) (s.stop c) := by
 unfold State.stop
 split
 · next hs => exact .stoppedAgain h hs
 · next hs => exact .stopped h (by simpa using hs)

lemma move_rotate (s:State K V F) : Move s .rotate { s.rotate with rotation := .rotated } := by
 simp only[State.rotate]
 split
 · exact .rotate (.inr rfl)
 · exact .rotate (.inl rfl)

lemma move_of_step {l:Label K V F} (hstep:step s l=some s') :
  Move s l s' := by
 cases l with
 | mark c i => grind[step,State.mark,Move]
 | joinValue c context key index value callback =>
  simp only[step] at hstep
  split at hstep <;> cases hstep
  next h =>
  cases callback with
  | none => exact .refused h
  | some f => exact .begun h
 | timer i => grind[step,State.timerFires,Move]
 | cancellation n =>
  simp only[step] at hstep
  split at hstep <;> cases hstep
  next e he =>
  refine .quiet trivial .inl id (fun x hx=>?_)
  rcases hx with hx | hx
  · rcases List.mem_append.mp hx with hx | hx
    · exact .inl hx
    · rw[List.mem_singleton.mp hx]
      exact .inr (List.mem_of_getElem? he)
  · exact .inr (List.mem_of_mem_eraseIdx hx)
 | start =>
  simp only[step] at hstep
  split at hstep <;> cases hstep
  · next h => exact move_start h
  · exact .quiet trivial .inl id (fun _ he=>he)
 | advance d =>
  cases hstep
  exact .quiet trivial .inl id (fun _ he=>he)
 | expiry c outcome =>
  simp only[step] at hstep
  split at hstep <;> cases hstep
  · next h => exact move_expiry h outcome
  · next h => exact .expireReturned outcome h
 | rotationTimer =>
  simp only[step] at hstep
  split at hstep
  · split at hstep <;> cases hstep
    exact .quiet trivial .inl id (fun _ he=>he)
  · cases hstep
 | rearm =>
  simp only[step] at hstep
  split at hstep <;> cases hstep
  split <;> exact .quiet trivial .inl id (fun _ he=>he)
 | _ => grind[step,Move,move_stop,move_find,move_lock,move_callback,move_expireLock,move_rotate]

end ServiceLib.JoinStorage
