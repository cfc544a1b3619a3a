import ServiceLib.ClientWriteQueue

set_option autoImplicit false
attribute [-instance] instBooleanRingBool

/-!
# What a step of the write queue does
-/
namespace ServiceLib.ClientWriteQueue

variable {T E:Type}

def Label.spawned : Label T E → Option (Call T E)
 | .push value => some (.pushing value)
 | .fail error => some (.failing error)
 | .close => some .closing
 | _ => none

set_option autoImplicit true in
inductive CallGoes (s:State T E) (c:ℕ) : Call T E → Prop
 | refused (h:s.calls[c]? = some (.pushing value))
  (hfailure:s.failure = some e) : CallGoes s c (.threw none e)
 | closedBefore (h:s.calls[c]? = some (.pushing value)) (hfailure:s.failure = none)
  (hclosed:s.closed = true) : CallGoes s c (.threw none .alreadyClosed)
 | returns (h:s.calls[c]? = some (.waiting w))
  (hw:s.writes[w]? = some write) (hdone:write.done = true) (hfailure:write.failure = none) :
  CallGoes s c (.returned w)
 | throws (h:s.calls[c]? = some (.waiting w))
  (hw:s.writes[w]? = some write) (hdone:write.done = true) (hfailure:write.failure = some e) :
  CallGoes s c (.threw (some w) e)
 | skips (h:s.calls[c]? = some (.completing error (w :: ws) available))
  (hw:s.completeWrite w (some error) = none) : CallGoes s c (.completing error ws available)
 | closes (h:s.calls[c]? = some .closing) (hclosed:s.closed = true) : CallGoes s c .closed

set_option autoImplicit true in
inductive Signals (s:State T E) (c:ℕ) : Option ℕ → Call T E → Prop
 | pushed (h:s.calls[c]? = some (.signalling w available)) :
  Signals s c available (.waiting w)
 | failed (h:s.calls[c]? = some (.completing error [] available)) : Signals s c available .failed
 | closed (h:s.calls[c]? = some (.closeSignalling available)) :
  Signals s c available .closed

inductive WriterGoes (s:State T E) : Label T E → Writer → Prop
 | pops (h:s.writer = .idle) : WriterGoes s .pop .checking
 | goesOn (h:s.writer = .checking) (hcancelled:s.cancelled = false) : WriterGoes s .work .locking
 | ends (h:s.writer = .locking) (hvalues:s.values = []) (hclosed:s.closed = true) :
  WriterGoes s .work .ended
 | waits {event:ℕ} (h:s.writer = .locking) (hvalues:s.values = [])
  (hclosed:s.closed = false) (havailable:s.available = some event) :
  WriterGoes s .work (.waiting event)
 | wakes {event:ℕ} (h:s.writer = .waiting event)
  (hwake:s.events[event]? = some true ∨ s.cancelled = true) : WriterGoes s .work .checking
 | failed {c:ℕ} (h:s.writer = .cancelling c) (hc:s.calls[c]? = some .failed) :
  WriterGoes s .work .ended
 | skips {w:ℕ} (h:s.writer = .completing w) (hw:s.completeWrite w none = none) :
  WriterGoes s .work (.resetting w)
 | written {w:ℕ} (h:s.writer = .holding w) : WriterGoes s .written (.completing w)
 | abandons {w:ℕ} (h:s.writer = .holding w) : WriterGoes s .abandon .left

attribute [grind =] State.call State.goto State.send State.spawn State.sendDone State.fail Label.spawned

@[grind →] lemma spawned_some {l:Label T E} {call:Call T E} (h:l.spawned=some call) :
    (∃ value,l=.push value∧call=.pushing value)∨(∃ error,l=.fail error∧call=.failing error)∨
     l=.close∧call=.closing := by
 cases l <;> simp_all[Label.spawned]

attribute [grind cases] CallGoes Signals WriterGoes

set_option autoImplicit true in
inductive Move (s:State T E) : Label T E → State T E → Prop
 | spawns (hl:l.spawned = some call) : Move s l (s.spawn call)
 | cancels : Move s .cancel { s with cancelled := true }
 | goes (h:CallGoes s c next) : Move s (.advance c) (s.call c next)
 | signals (h:Signals s c available next) :
  Move s (.advance c) ((s.send available).call c next)
 | accepts (h:s.calls[c]? = some (.pushing value)) (hfailure:s.failure = none)
  (hclosed:s.closed = false) :
  Move s (.advance c) { s with
   writes := s.writes ++ [{ value := value }]
   values := s.values ++ [s.writes.length]
   available := none
   calls := s.calls.set c (.signalling s.writes.length s.available) }
 | fails (h:s.calls[c]? = some (.failing error)) :
  Move s (.advance c) (s.fail c error)
 | completes (h:s.calls[c]? = some (.completing error (w :: ws) available))
  (hw:s.writes[w]? = some write) (hcompleted:write.completed = false) :
  Move s (.advance c) ({ s with
   writes := s.writes.set w { write with completed := true,failure := some error } }.call c
    (.sending error w ws available))
 | sends (h:s.calls[c]? = some (.sending error w ws available)) :
  Move s (.advance c) ((s.sendDone w).call c (.completing error ws available))
 | closes (h:s.calls[c]? = some .closing) (hclosed:s.closed = false) :
  Move s (.advance c) { s with
   closed := true
   available := none
   calls := s.calls.set c (.closeSignalling s.available) }
 | works (h:WriterGoes s l writer) : Move s l (s.goto writer)
 | stops (h:s.writer = .checking) (hcancelled:s.cancelled = true) :
  Move s .work ((s.spawn (.failing .cancelled)).goto (.cancelling s.calls.length))
 | takes (h:s.writer = .locking) (hvalues:s.values = w :: ws) :
  Move s .work { s with active := some w,values := ws,writer := .holding w }
 | creates (h:s.writer = .locking) (hvalues:s.values = []) (hclosed:s.closed = false)
  (havailable:s.available = none) :
  Move s .work { s with
   events := s.events ++ [false]
   available := some s.events.length
   writer := .waiting s.events.length }
 | writerCompletes (h:s.writer = .completing w)
  (hw:s.writes[w]? = some write) (hcompleted:write.completed = false) :
  Move s .work ({ s with
   writes := s.writes.set w { write with completed := true,failure := none } }.goto (.sending w))
 | writerSends (h:s.writer = .sending w) :
  Move s .work ((s.sendDone w).goto (.resetting w))
 | resets (h:s.writer = .resetting w) :
  Move s .work ({ s with active := if s.active = some w then none else s.active }.goto .idle)

variable {s s':State T E}

lemma completeWrite_eq_some {w:ℕ} {error:Option (Failure E)}
  (h:s.completeWrite w error=some s') : ∃ write,s.writes[w]?=some write ∧
   write.completed=false ∧
   s'={ s with writes := s.writes.set w { write with completed := true,failure := error } } := by
 unfold State.completeWrite at h
 split at h
 · cases h
 · next write hw =>
   split at h <;> cases h
   next hcompleted => exact ⟨write,hw,Bool.not_eq_true _▸hcompleted,rfl⟩

lemma completed_of_completeWrite {w:ℕ} {error:Option (Failure E)}
  {write:Write T E} (h:s.completeWrite w error=none) (hw:s.writes[w]?=some write) :
  write.completed=true := by
 unfold State.completeWrite at h
 rw[hw] at h
 by_contra hcompleted
 simp only[if_neg hcompleted] at h
 cases h

lemma move_push {c:ℕ} {value:T} (h:s.calls[c]?=some (.pushing value)) :
  Move s (.advance c) (s.push c value) := by
 unfold State.push
 split
 · next e hfailure => exact .goes (.refused h hfailure)
 · next hfailure =>
   split
   · next hclosed => exact .goes (.closedBefore h hfailure hclosed)
   · next hclosed => exact .accepts h hfailure (Bool.not_eq_true _▸hclosed)

lemma move_advance {c:ℕ} (hstep:s.advance c=some s') :
  Move s (.advance c) s' := by
 unfold State.advance at hstep
 split at hstep
 · next value h =>
   cases hstep
   exact move_push h
 · next w available h =>
   cases hstep
   exact .signals (.pushed h)
 · next w h =>
   split at hstep
   · cases hstep
   · next write hw =>
     split at hstep
     · next hdone =>
       split at hstep <;> cases hstep
       · next e hfailure => exact .goes (.throws h hw hdone hfailure)
       · next hfailure => exact .goes (.returns h hw hdone hfailure)
     · cases hstep
 · next error h =>
   cases hstep
   exact .fails h
 · next error w ws available h =>
   split at hstep <;> cases hstep
   · next s' hs' =>
     obtain ⟨write,hw,hcompleted,rfl⟩:=completeWrite_eq_some hs'
     exact .completes h hw hcompleted
   · next hw => exact .goes (.skips h hw)
 · next error available h =>
   cases hstep
   exact .signals (.failed h)
 · next error w ws available h =>
   cases hstep
   exact .sends h
 · next h =>
   cases hstep
   unfold State.close
   split
   · next hclosed => exact .goes (.closes h hclosed)
   · next hclosed => exact .closes h (Bool.not_eq_true _▸hclosed)
 · next available h =>
   cases hstep
   exact .signals (.closed h)
 · cases hstep

lemma move_pop (h:s.writer=.locking) : Move s .work s.pop := by
 unfold State.pop
 split
 · next w ws hvalues => exact .takes h hvalues
 · next hvalues =>
   split
   · next hclosed => exact .works (.ends h hvalues hclosed)
   · next hclosed =>
     have hclosed:s.closed=false:=Bool.not_eq_true _▸hclosed
     split
     · next event havailable => exact .works (.waits h hvalues hclosed havailable)
     · next havailable => exact .creates h hvalues hclosed havailable

lemma move_work (hstep:s.work=some s') : Move s .work s' := by
 unfold State.work at hstep
 split at hstep
 · next h =>
   split at hstep <;> cases hstep
   · next hcancelled => exact .stops h hcancelled
   · next hcancelled => exact .works (.goesOn h (Bool.not_eq_true _▸hcancelled))
 · next h =>
   cases hstep
   exact move_pop h
 · next event h =>
   split at hstep <;> cases hstep
   next hwake => exact .works (.wakes h hwake)
 · next c h =>
   split at hstep <;> cases hstep
   next hc => exact .works (.failed h hc)
 · next w h =>
   split at hstep <;> cases hstep
   · next s' hs' =>
     obtain ⟨write,hw,hcompleted,rfl⟩:=completeWrite_eq_some hs'
     exact .writerCompletes h hw hcompleted
   · next hw => exact .works (.skips h hw)
 · next w h =>
   cases hstep
   exact .writerSends h
 · next w h =>
   cases hstep
   exact .resets h
 · cases hstep

lemma move_of_step {l:Label T E} (hstep:step s l=some s') : Move s l s' := by
 cases l with
 | push value =>
  cases hstep
  exact .spawns rfl
 | fail error =>
  cases hstep
  exact .spawns rfl
 | close =>
  cases hstep
  exact .spawns rfl
 | cancel =>
  cases hstep
  exact .cancels
 | advance c => exact move_advance hstep
 | pop =>
  simp only[step] at hstep
  split at hstep <;> cases hstep
  next h => exact .works (.pops h)
 | work => exact move_work hstep
 | written =>
  simp only[step] at hstep
  split at hstep <;> cases hstep
  next w h => exact .works (.written h)
 | abandon =>
  simp only[step] at hstep
  split at hstep <;> cases hstep
  next w h => exact .works (.abandons h)

end ServiceLib.ClientWriteQueue
