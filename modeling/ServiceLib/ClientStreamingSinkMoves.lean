import ServiceLib.ClientStreamingSink

set_option autoImplicit false
attribute [-instance] instBooleanRingBool

/-!
# The outcomes of a step of a client-streaming session
-/
namespace ServiceLib.ClientStreamingSink
open SharedMutex Session

set_option autoImplicit true in
inductive Move (own:Bool) (q:Session) : Act → Session → Bool → Prop
 -- the call that creates the session
 | beginFailed (hi:q.calls[i]? = some call) (hplace:call.place = .beginning) :
  Move own q (.began i true) ({ q with error := true,ready := true }.place i call .dropping) false
 | began (hi:q.calls[i]? = some call) (hplace:call.place = .beginning) :
  Move own q (.began i false) ({ q with opened := true,active := q.active + 1 }.place i call .starting) false
 | dropped (hi:q.calls[i]? = some call) (hplace:call.place = .dropping) :
  Move own q (.call i) (q.place i call .finished) own
 | startFailed (hi:q.calls[i]? = some call) (hplace:call.place = .starting) :
  Move own q (.started i true) ({ q with error := true,ready := true }.place i call .failing) false
 | started (hi:q.calls[i]? = some call) (hplace:call.place = .starting) :
  Move own q (.started i false) ({ q with ready := true }.place i call .initialized) false
 | failing (hi:q.calls[i]? = some call) (hplace:call.place = .failing) :
  Move own q (.call i) ({ q with terminalStarted := true }.place i call .closing) false
 | closing (hi:q.calls[i]? = some call) (hplace:call.place = .closing) :
  Move own q (.call i) ((q.finishAsync true).place i call .releasing) false
 | initialized (hi:q.calls[i]? = some call) (hplace:call.place = .initialized) :
  Move own q (.call i) (q.release.place i call .waiting) false
 -- every call
 | rejected (hi:q.calls[i]? = some call) (hplace:call.place = .found)
  (hreject:q.rejectCompletingSession = true) : Move own q (.call i) (q.place i call .finished) false
 | passed (hi:q.calls[i]? = some call) (hplace:call.place = .found)
  (hreject:q.rejectCompletingSession = false) : Move own q (.call i) (q.place i call .waiting) false
 | abandoned (hi:q.calls[i]? = some call) (hplace:call.place = .waiting)
  (hready:q.ready = true) (herror:q.error = true) : Move own q (.call i) (q.place i call .finished) false
 | roused (hi:q.calls[i]? = some call) (hplace:call.place = .waiting)
  (hready:q.ready = true) (herror:q.error = false) : Move own q (.call i) (q.place i call .acquiring) false
 | refused (hi:q.calls[i]? = some call) (hplace:call.place = .acquiring)
  (hclosed:q.closed = true) : Move own q (.call i) (q.place i call .finished) false
 | acquired (hi:q.calls[i]? = some call) (hplace:call.place = .acquiring)
  (hclosed:q.closed = false) :
  Move own q (.call i) ({ q with active := q.active + 1 }.place i call .locking) false
 | entered (hi:q.calls[i]? = some call) (hplace:call.place = .locking)
  (hadmits:q.handlerMutex.admits false = true) :
  Move own q (.call i) ({ q with handlerMutex := q.handlerMutex.take false }.place i call .checking) false
 | blocked (hi:q.calls[i]? = some call) (hplace:call.place = .locking)
  (hadmits:q.handlerMutex.admits false = false) :
  Move own q (.call i)
   ({ q with handlerMutex := q.handlerMutex.enqueue (.call i) false }.place i call .queued) false
 | admitted (hi:q.calls[i]? = some call) (hplace:call.place = .checking)
  (hown:own = true) : Move own q (.call i) (q.place i call .consuming) false
 | late (hi:q.calls[i]? = some call) (hplace:call.place = .checking)
  (hown:own = false) : Move own q (.call i) (q.place i call .unlocking) false
 | consumed (hi:q.calls[i]? = some call) (hplace:call.place = .consuming) :
  Move own q (.consumed i) (q.place i call .unlocking) false
 | left (hi:q.calls[i]? = some call) (hplace:call.place = .unlocking) :
  Move own q (.call i) ((q.place i call .releasing).releaseHandler false) false
 | released (hi:q.calls[i]? = some call) (hplace:call.place = .releasing) :
  Move own q (.call i) (q.release.place i call .finished) false
 -- responses
 | unheard (hopened:q.opened = true) (hclosed:q.closed = true) : Move own q .response q false
 | responded (hopened:q.opened = true) (hclosed:q.closed = false) :
  Move own q .response { q with active := q.active + 1,responses := q.responses ++ [.waiting] } false
 | skipped (hj:q.responses[j]? = some .waiting) (hready:q.ready = true) (herror:q.error = true) :
  Move own q (.respond j) (q.placeResponse j .releasing) false
 | answering (hj:q.responses[j]? = some .waiting) (hready:q.ready = true) (herror:q.error = false) :
  Move own q (.respond j) (q.placeResponse j .locking) false
 | sealed (hj:q.responses[j]? = some .locking) (hadmits:q.handlerMutex.admits true = true) :
  Move own q (.respond j) ({ q with handlerMutex := q.handlerMutex.take true }.placeResponse j .checking) false
 | enqueued (hj:q.responses[j]? = some .locking) (hadmits:q.handlerMutex.admits true = false) :
  Move own q (.respond j)
   ({ q with handlerMutex := q.handlerMutex.enqueue (.response j) true }.placeResponse j .queued) false
 | duplicate (hj:q.responses[j]? = some .checking) (hhandled:q.responseHandled = true) :
  Move own q (.respond j) (q.placeResponse j (.unlocking false)) false
 | handling (hj:q.responses[j]? = some .checking) (hhandled:q.responseHandled = false) :
  Move own q (.respond j)
   ({ q with terminalStarted := true,responseHandled := true }.placeResponse j .handling) false
 | handled (hj:q.responses[j]? = some .handling) :
  Move own q (.handled j threw)
   ({ q with responseError := q.responseError || threw }.placeResponse j (.unlocking threw)) false
 | opened (hj:q.responses[j]? = some (.unlocking threw)) :
  Move own q (.respond j)
   ((q.placeResponse j (if threw then .failing else .releasing)).releaseHandler true) false
 | responseFailing (hj:q.responses[j]? = some .failing) :
  Move own q (.respond j) ({ q with terminalStarted := true }.placeResponse j .closing) false
 | responseClosing (hj:q.responses[j]? = some .closing) :
  Move own q (.respond j) ((q.finishAsync true).placeResponse j .releasing) false
 | responseReleased (hj:q.responses[j]? = some .releasing) :
  Move own q (.respond j) (q.release.placeResponse j .finished) false
 -- the end
 | completed {failed:Bool} (hopened:q.opened = true) :
  Move own q (.complete failed) { q with terminalStarted := true,completions := q.completions ++ [failed] } false
 | closed {k:ℕ} {failed:Bool} (hk:q.completions[k]? = some failed) :
  Move own q (.close k) ({ q with completions := q.completions.eraseIdx k }.finishAsync failed) false
 | drained (hending:q.ending = .draining) (hactive:q.active = 0) :
  Move own q .finalize { q with ending := .ending } false
 | ended (hending:q.ending = .ending) : Move own q .ended { q with ending := .popping } false
 | popped (hending:q.ending = .popping) : Move own q .finalize { q with ending := .finished } true

section Inversion
variable {own pop:Bool} {q q':Session}

lemma move_of_advance {i:ℕ} (h:q.advance own i=some (q',pop)) : Move own q (.call i) q' pop := by
 unfold advance at h
 cases hi:q.calls[i]? with
 | none => simp[hi] at h
 | some call =>
  simp only[hi] at h
  cases hplace:call.place <;> grind[Move,enter]

lemma move_of_respond {j:ℕ} (h:q.respond j=some q') : Move own q (.respond j) q' false := by
 grind[Move,respond,enterResponse]

lemma move_of_finalize (h:q.finalize=some (q',pop)) : Move own q .finalize q' pop := by
 grind[Move,finalize]

lemma move_of_step {act:Act} (h:q.step own act=some (q',pop)) : Move own q act q' pop := by
 have hmap:∀ {o:Option Session},o.map (fun q''=>(q'',false))=some (q',pop) →
  o=some q'∧pop=false:=by
  intro o ho
  obtain ⟨q'',hq,heq⟩:=Option.map_eq_some_iff.mp ho
  cases heq
  exact ⟨hq,rfl⟩
 cases act with
 | call i => exact move_of_advance h
 | finalize => exact move_of_finalize h
 | _ =>
  obtain ⟨hq,rfl⟩:=hmap h
  grind[Move,move_of_respond,Session.began,Session.started,Session.consumed,Session.response,Session.handled,
   Session.complete,Session.close,Session.ended]

end Inversion

end ServiceLib.ClientStreamingSink
