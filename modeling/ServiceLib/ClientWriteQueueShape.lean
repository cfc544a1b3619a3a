import ServiceLib.ClientWriteQueueMoves

set_option autoImplicit false
attribute [-instance] instBooleanRingBool

/-!
# What the queue keeps
-/
namespace ServiceLib.ClientWriteQueue

open Tokens

variable {T E:Type}

def Call.signal : Call T E → Option ℕ
 | .signalling _ available => available
 | .completing _ _ available => available
 | .sending _ _ _ available => available
 | .closeSignalling available => available
 | .pushing _ | .waiting _ | .returned _ | .threw _ _ | .failing _ | .failed | .closing | .closed => none

def Call.closes : Call T E → Bool
 | .completing _ _ _ => true
 | .sending _ _ _ _ => true
 | .failed => true
 | .closeSignalling _ => true
 | .closed => true
 | _ => false

def Call.isFail : Call T E → Bool
 | .failing _ => true
 | .completing _ _ _ => true
 | .sending _ _ _ _ => true
 | .failed => true
 | .pushing _ | .signalling _ _ | .waiting _ | .returned _ | .threw _ _ | .closing | .closeSignalling _ | .closed =>
  false

def Call.pending : Call T E → List ℕ
 | .completing _ ws _ => ws
 | .sending _ _ ws _ => ws
 | .pushing _ | .signalling _ _ | .waiting _ | .returned _ | .threw _ _ | .failing _ | .failed | .closing
 | .closeSignalling _ | .closed => []

def Call.notifies : Call T E → Option ℕ
 | .sending _ w _ _ => some w
 | .completing _ _ _ | .pushing _ | .signalling _ _ | .waiting _ | .returned _ | .threw _ _ | .failing _ | .failed
 | .closing | .closeSignalling _ | .closed => none

def Writer.holds : Writer → ℕ → Prop
 | .holding w',w => w' = w
 | .completing w',w => w' = w
 | .sending w',w => w' = w
 | .resetting w',w => w' = w
 | .left,_ => True
 | .idle,_ | .checking,_ | .locking,_ | .waiting _,_ | .cancelling _,_ | .ended,_ => False

def Write.outcome (write:Write T E) : Option (Option (Failure E)) :=
 if write.completed then some write.failure else none

namespace State

def outcome (s:State T E) (w:ℕ) : Option (Option (Failure E)) :=
 s.writes[w]?.bind Write.outcome

def signals (s:State T E) (event:ℕ) : ℕ :=
 total (fun call=>if call.signal = some event then 1 else 0) s.calls

def notifiers (s:State T E) (w:ℕ) : ℕ :=
 total (fun call=>if call.notifies = some w then 1 else 0) s.calls

def owed (s:State T E) (w:ℕ) : Prop :=
 w ∈ s.values ∨ s.active = some w ∨ 0 < total (fun call=>call.pending.count w) s.calls

end State

def State.took (s:State T E) (available:Option ℕ) : Prop :=
 ∀ event,available = some event → s.available ≠ some event ∧ event < s.events.length

def Call.Sound (s:State T E) : Call T E → Prop
 | .pushing _ | .failing _ | .closing => True
 | .signalling w available => w < s.writes.length ∧ s.took available
 | .waiting w => w < s.writes.length
 | .returned w => s.outcome w = some none
 | .threw w e => ∀ w',w = some w' → s.outcome w' = some (some e)
 | .completing error _ available => s.failure = some error ∧ s.closed = true ∧ s.took available
 | .sending error w _ available =>
  s.failure = some error ∧ s.closed = true ∧ s.took available ∧ s.outcome w ≠ none
 | .closeSignalling available => s.closed = true ∧ s.took available
 | .failed | .closed => s.closed = true

structure Inv (s:State T E) : Prop where
 sound : ∀ (c:ℕ) (call:Call T E),s.calls[c]? = some call → call.Sound s
 drained : s.failure ≠ none → s.values = [] ∧ s.active = none ∧ s.closed = true
 quiet : ∀ event,s.available = some event →
  s.values = [] ∧ s.closed = false ∧ s.events[event]? = some false
 held : ∀ w,s.active = some w → s.writer.holds w
 awake : ∀ event,s.writer = .waiting event → s.events[event]? = some true ∨
  s.available = some event ∨ 0 < s.signals event
 cancelling : ∀ c,s.writer = .cancelling c → s.calls[c]?.map Call.isFail = some true ∧ s.cancelled = true
 ended : s.writer = .ended → s.values = [] ∧ s.closed = true ∨ s.cancelled = true
 known : ∀ w,s.owed w ∨ s.writer = .holding w ∨ s.writer = .completing w → w < s.writes.length
 pending : ∀ (w:ℕ) (write:Write T E),s.writes[w]? = some write → write.completed = false →
  s.owed w ∧ write.done = false ∧ write.failure = none
 notified : ∀ (w:ℕ) (write:Write T E),s.writes[w]? = some write → write.completed = true →
  write.done = false → s.writer = .sending w ∨ 0 < s.notifiers w
 reset : ∀ w,s.writer = .sending w ∨ s.writer = .resetting w → s.outcome w ≠ none
 error : ∀ (w:ℕ) (write:Write T E),s.writes[w]? = some write →
  write.failure = none ∨ write.failure = s.failure

structure History (s:State T E) (es:List (Event E)) : Prop where
 accepted : acceptedOf es = List.range s.writes.length
 popped : poppedOf es ++ s.values <+: List.range s.writes.length
 kept : s.failure = none → poppedOf es ++ s.values = List.range s.writes.length
 outcomes : ∀ w,outcomesOf w es = (s.outcome w).toList
 recorded : recordedOf es = s.failure.toList

attribute [grind =] Call.signal Call.isFail Call.pending Call.notifies Call.Sound Writer.holds Write.outcome
  State.outcome State.signals State.notifiers State.owed State.took total_append total_cons total_nil
attribute [grind =>] total_set
attribute [grind →] completed_of_completeWrite

@[grind =] lemma count_toList (active:Option ℕ) (w:ℕ) :
  active.toList.count w=if active=some w then 1 else 0 := by
 cases active <;> simp[List.count_singleton]

@[grind =] lemma getElem?_send (s:State T E) (available:Option ℕ) (event:ℕ) :
  (s.send available).events[event]? =
   if available=some event∧event < s.events.length then some true else s.events[event]? := by
 cases available <;> grind

@[grind =] lemma length_send (s:State T E) (available:Option ℕ) :
  (s.send available).events.length=s.events.length := by
 cases available <;> grind

section Move
variable {s s':State T E} {l:Label T E}

structure Grows (s s':State T E) : Prop where
 writes : s.writes.length ≤ s'.writes.length
 outcome : ∀ w,s.outcome w ≠ none → s'.outcome w = s.outcome w
 failure : ∀ e,s.failure = some e → s'.failure = some e
 closed : s.closed = true → s'.closed = true
 events : s.events.length ≤ s'.events.length
 available : ∀ event,s'.available = some event → s.available = some event ∨ s.events.length ≤ event

lemma grows_move (hmove:Move s l s') : Grows s s' := by
 constructor
 · cases hmove <;> grind
 · cases hmove <;> grind
 · cases hmove <;> grind
 · cases hmove <;> grind
 · cases hmove <;> grind
 · cases hmove <;> grind

lemma Call.Sound.mono (hgrows:Grows s s') {call:Call T E} (h:call.Sound s) : call.Sound s' := by
 have ⟨h1,h2,h3,h4,h5,h6⟩:=hgrows
 cases call <;> grind

lemma sound_move (hs:Inv s) (hmove:Move s l s') (c:ℕ) (call:Call T E) (hc:s'.calls[c]?=some call) :
  call.Sound s' := by
 have hsound:∀ (c:ℕ) (call:Call T E),s.calls[c]?=some call→ call.Sound s':=
  fun c call hc=>(hs.sound c call hc).mono (grows_move hmove)
 have:=hs.sound
 have:=hs.quiet
 have:=hs.pending
 cases hmove <;> first | exact hsound c call hc | grind

lemma awake_move (hs:Inv s) (hmove:Move s l s') : ∀ event,s'.writer=.waiting event→
  s'.events[event]?=some true∨s'.available=some event∨0 < s'.signals event := by
 have:=hs.sound
 have:=hs.awake
 cases hmove <;> first | exact this | grind

lemma cancelling_move (hs:Inv s) (hmove:Move s l s') : ∀ c,s'.writer=.cancelling c→
  s'.calls[c]?.map Call.isFail=some true∧s'.cancelled=true := by
 have:=hs.cancelling
 cases hmove <;> first | exact this | grind

lemma known_move (hs:Inv s) (hmove:Move s l s') :
  ∀ w,s'.owed w∨s'.writer=.holding w∨s'.writer=.completing w→ w < s'.writes.length := by
 have:=hs.known
 cases hmove <;> first | exact this | grind

lemma pending_move (hs:Inv s) (hmove:Move s l s') :
    ∀ (w:ℕ) (write:Write T E),s'.writes[w]?=some write→ write.completed=false→
     s'.owed w∧write.done=false∧write.failure=none := by
 have:=hs.known
 have:=hs.sound
 have:=hs.reset
 have:=hs.held
 have:=hs.pending
 cases hmove <;> first | exact this | grind

lemma notified_move (hs:Inv s) (hmove:Move s l s') :
    ∀ (w:ℕ) (write:Write T E),s'.writes[w]?=some write→ write.completed=true→ write.done=false→
     s'.writer=.sending w∨0 < s'.notifiers w := by
 have:=hs.notified
 cases hmove <;> first | exact this | grind

lemma Inv.move (hs:Inv s) (hmove:Move s l s') : Inv s' where
 sound := sound_move hs hmove
 drained:=by
  have:=hs.drained
  cases hmove <;> first | exact this | grind
 quiet:=by
  have:=hs.quiet
  have:=hs.sound
  cases hmove <;> first | exact hs.quiet | grind
 held:=by
  have:=hs.held
  cases hmove <;> first | exact this | grind
 awake := awake_move hs hmove
 cancelling := cancelling_move hs hmove
 ended:=by
  have:=hs.cancelling
  have:=hs.ended
  cases hmove <;> first | exact this | grind
 known := known_move hs hmove
 pending := pending_move hs hmove
 notified := notified_move hs hmove
 reset:=by
  have:=hs.known
  have:=hs.reset
  cases hmove <;> first | exact this | grind
 error:=by
  have:=hs.sound
  have:=hs.error
  cases hmove with
  | fails h => cases hfailure : s.failure <;> grind
  | _ => first | exact this | grind

lemma inv_initial : Inv ({} : State T E) := by
 constructor <;> grind

end Move
end ServiceLib.ClientWriteQueue
