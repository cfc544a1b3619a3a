import ServiceLib.Tokens

set_option autoImplicit false
attribute [-instance] instBooleanRingBool

/-!
# Completion frames and their tokens

The release of the last lease on a frame runs its completion function and then gives up the lease
on its parent. `release` is several steps of the thread that calls it, and gives up the parent's
lease by a nested call.
-/
namespace ServiceLib.AsyncCompletion
open Option
open Tokens (total)

/-- A frame: `parent` is the token behind the shared handle `parent_`, `parentToken` the
frame that the token `parentToken_` leases. `under` records the frame that this one
was created under, `started` and `finished` the calls of the completion function. -/
structure Frame where
 pending : ℕ := 1
 parent : Option ℕ := none
 parentToken : Option ℕ := none
 under : Option ℕ := none
 started : ℕ := 0
 finished : ℕ := 0
deriving DecidableEq

/-- A token object, with the handles to it outside of the frames. -/
structure Token where
 state : Option ℕ
 shared : Bool
 handles : ℕ := 1
deriving DecidableEq

inductive Phase where
 | entering
 | completing
 | running
 | resetParent
 | resetParentToken
deriving DecidableEq

structure Activation where
 frame : ℕ
 phase : Phase
deriving DecidableEq

/-- Each thread that is in a `release` has a stack of such calls. -/
structure State where
 frames : List Frame := []
 tokens : List Token := []
 threads : List (List Activation) := []
deriving DecidableEq

inductive Label where
 | make (parent:Option ℕ)
 | initializeCompletion (parent:Option ℕ)
 | retain (frame:ℕ) (shared:Bool)
 | share (token:ℕ)
 | drop (token:ℕ)
 | reset (token:ℕ)
 | move (token:ℕ)
 | assign (destination source:ℕ)
 | run (thread:ℕ)
 | finish (thread:ℕ)
deriving DecidableEq

namespace State

def token (s:State) (t:ℕ) : Option Token :=
 s.tokens[t]?.filter fun token=>0 < token.handles

def isHeld (s:State) (t:ℕ) : Bool :=
 s.frames.any fun frame=>frame.parent = some t

def enter (state:Option ℕ) : List Activation :=
 match state with
 | some frame => [⟨frame,.entering⟩]
 | none => []

def call (s:State) (state:Option ℕ) : State :=
 { s with threads := s.threads ++ [enter state] }

def setState (s:State) (t:ℕ) (token:Token) (state:Option ℕ) : State :=
 { s with tokens := s.tokens.set t { token with state := state } }

def create (s:State) (frame:Frame) : State :=
 { s with frames := s.frames ++ [frame],tokens := s.tokens ++ [⟨some s.frames.length,false,1⟩] }

end State

/-- The next step of a thread in `release`; the completion function returns by `finish`. -/
def run (s:State) (i:ℕ) : Option State :=
 match s.threads[i]? with
 | some (⟨f,.entering⟩ :: rest) => do
  let frame ← s.frames[f]?
  some { s with
   frames := s.frames.set f { frame with pending := frame.pending - 1 }
   threads := s.threads.set i (if frame.pending - 1 ≠ 0 then rest else ⟨f,.completing⟩ :: rest) }
 | some (⟨f,.completing⟩ :: rest) => do
  let frame ← s.frames[f]?
  some { s with
   frames := s.frames.set f { frame with started := frame.started + 1 }
   threads := s.threads.set i (⟨f,.running⟩ :: rest) }
 | some (⟨f,.resetParent⟩ :: rest) => do
  let frame ← s.frames[f]?
  let next : State:={ s with
   frames := s.frames.set f { frame with parent := none }
   threads := s.threads.set i (⟨f,.resetParentToken⟩ :: rest) }
  match frame.parent with
  | none => some next
  | some t => do
   let token ← s.tokens[t]?
   if token.handles = 0 ∧ next.isHeld t = false then
    -- the last handle: the destructor of the token releases its lease
    some { next.setState t token none with
     threads := s.threads.set i (State.enter token.state ++ ⟨f,.resetParentToken⟩ :: rest) }
   else some next
 | some (⟨f,.resetParentToken⟩ :: rest) => do
  let frame ← s.frames[f]?
  some { s with
   frames := s.frames.set f { frame with parentToken := none }
   threads := s.threads.set i (State.enter frame.parentToken ++ rest) }
 | _ => none

def step (s:State) : Label → Option State
 | .make none => some (s.create {})
 | .make (some t) => do
  let token ← s.token t
  if token.shared then some (s.create { parent := some t,under := token.state }) else none
 | .initializeCompletion none => some (s.create {})
 | .initializeCompletion (some t) => do
  let token ← s.token t
  some ((s.setState t token none).create { parentToken := token.state,under := token.state })
 | .retain f shared => do
  let frame ← s.frames[f]?
  if frame.pending ≠ 0 then
   some { s with
    frames := s.frames.set f { frame with pending := frame.pending + 1 }
    tokens := s.tokens ++ [⟨some f,shared,1⟩] }
  else if shared then some s
  else some { s with tokens := s.tokens ++ [⟨none,false,1⟩] }
 | .share t => do
  let token ← s.token t
  if token.shared then some { s with tokens := s.tokens.set t { token with handles := token.handles + 1 } } else none
 | .drop t => do
  let token ← s.token t
  if token.handles = 1 ∧ s.isHeld t = false then
   some ({ s with tokens := s.tokens.set t { token with state := none,handles := 0 } }.call token.state)
  else some { s with tokens := s.tokens.set t { token with handles := token.handles - 1 } }
 | .reset t => do
  let token ← s.token t
  some ((s.setState t token none).call token.state)
 | .move t => do
  let token ← s.token t
  some { s.setState t token none with
   tokens := (s.setState t token none).tokens ++ [⟨token.state,false,1⟩] }
 | .assign destination source => do
  let target ← s.token destination
  let token ← s.token source
  if destination = source then some s
  else some (((s.setState destination target token.state).setState source token none).call target.state)
 | .run i => run s i
 | .finish i =>
  match s.threads[i]? with
  | some (⟨f,.running⟩ :: rest) => do
   let frame ← s.frames[f]?
   some { s with
    frames := s.frames.set f { frame with finished := frame.finished + 1 }
    threads := s.threads.set i (⟨f,.resetParent⟩ :: rest) }
  | _ => none

set_option autoImplicit true in
inductive Move (s:State) : Label → State → Prop
 | makeRoot (hl:l = .make none ∨ l = .initializeCompletion none) : Move s l (s.create {})
 | makeShared (ht:s.tokens[t]? = some token) (hhandles:0 < token.handles) :
   Move s (.make (some t)) (s.create { parent := some t,under := token.state })
 | makeInline (ht:s.tokens[t]? = some token) :
   Move s (.initializeCompletion (some t))
    ((s.setState t token none).create { parentToken := token.state,under := token.state })
 | retain (hf:s.frames[f]? = some frame) (hpending:frame.pending ≠ 0) :
   Move s (.retain f shared)
    { s with
      frames := s.frames.set f { frame with pending := frame.pending + 1 }
      tokens := s.tokens ++ [⟨some f,shared,1⟩] }
 | retainNull : Move s (.retain f true) s
 | retainEmpty : Move s (.retain f false) { s with tokens := s.tokens ++ [⟨none,false,1⟩] }
 | share (ht:s.tokens[t]? = some token) :
   Move s (.share t) { s with tokens := s.tokens.set t { token with handles := token.handles + 1 } }
 | dropLast (ht:s.tokens[t]? = some token) (hheld:s.isHeld t = false) :
   Move s (.drop t)
    ({ s with tokens := s.tokens.set t { token with state := none,handles := 0 } }.call token.state)
 | drop (ht:s.tokens[t]? = some token) :
   Move s (.drop t) { s with tokens := s.tokens.set t { token with handles := token.handles - 1 } }
 | reset (ht:s.tokens[t]? = some token) :
   Move s (.reset t) ((s.setState t token none).call token.state)
 | move (ht:s.tokens[t]? = some token) :
   Move s (.move t)
    { s.setState t token none with
      tokens := (s.setState t token none).tokens ++ [⟨token.state,false,1⟩] }
 | assignSelf : Move s (.assign t t) s
 | assign (hne:destination ≠ source)
   (hd:s.tokens[destination]? = some target) (hs:s.tokens[source]? = some token) :
   Move s (.assign destination source)
    (((s.setState destination target token.state).setState source token none).call target.state)
 | release (hi:s.threads[i]? = some (⟨f,.entering⟩ :: rest))
   (hf:s.frames[f]? = some frame) (hpending:frame.pending - 1 ≠ 0) :
   Move s (.run i)
    { s with
      frames := s.frames.set f { frame with pending := frame.pending - 1 }
      threads := s.threads.set i rest }
 | releaseLast
   (hi:s.threads[i]? = some (⟨f,.entering⟩ :: rest)) (hf:s.frames[f]? = some frame)
   (hpending:frame.pending - 1 = 0) :
   Move s (.run i)
    { s with
      frames := s.frames.set f { frame with pending := frame.pending - 1 }
      threads := s.threads.set i (⟨f,.completing⟩ :: rest) }
 | complete
   (hi:s.threads[i]? = some (⟨f,.completing⟩ :: rest)) (hf:s.frames[f]? = some frame) :
   Move s (.run i)
    { s with
      frames := s.frames.set f { frame with started := frame.started + 1 }
      threads := s.threads.set i (⟨f,.running⟩ :: rest) }
 | resetParent
   (hi:s.threads[i]? = some (⟨f,.resetParent⟩ :: rest)) (hf:s.frames[f]? = some frame) :
   Move s (.run i)
    { s with
      frames := s.frames.set f { frame with parent := none }
      threads := s.threads.set i (⟨f,.resetParentToken⟩ :: rest) }
 | resetLast
   (hi:s.threads[i]? = some (⟨f,.resetParent⟩ :: rest)) (hf:s.frames[f]? = some frame)
   (hparent:frame.parent = some t) (ht:s.tokens[t]? = some token)
   (hheld:(s.frames.set f { frame with parent := none }).any (fun frame=>frame.parent = some t) = false) :
   Move s (.run i)
    { s with
      frames := s.frames.set f { frame with parent := none }
      tokens := s.tokens.set t { token with state := none }
      threads := s.threads.set i (State.enter token.state ++ ⟨f,.resetParentToken⟩ :: rest) }
 | resetParentToken
   (hi:s.threads[i]? = some (⟨f,.resetParentToken⟩ :: rest)) (hf:s.frames[f]? = some frame) :
   Move s (.run i)
    { s with
      frames := s.frames.set f { frame with parentToken := none }
      threads := s.threads.set i (State.enter frame.parentToken ++ rest) }
 | finish (hi:s.threads[i]? = some (⟨f,.running⟩ :: rest))
   (hf:s.frames[f]? = some frame) :
   Move s (.finish i)
    { s with
      frames := s.frames.set f { frame with finished := frame.finished + 1 }
      threads := s.threads.set i (⟨f,.resetParent⟩ :: rest) }

section Inversion
variable {s s':State}

lemma token_eq_some {t:ℕ} {token:Token} (h:s.token t=some token) :
  s.tokens[t]?=some token∧0 < token.handles := by
 obtain ⟨ht,hhandles⟩:=filter_eq_some_iff.mp h
 exact ⟨ht,of_decide_eq_true hhandles⟩

lemma move_of_run {i:ℕ} (h:run s i=some s') : Move s (.run i) s' := by
 unfold run at h
 split at h
 · next hi =>
   obtain ⟨frame,hf,h⟩:=bind_eq_some_iff.mp h
   obtain rfl:=some.inj h
   split
   · next hpending => exact .release hi hf hpending
   · next hpending => exact .releaseLast hi hf (not_not.mp hpending)
 · next hi =>
   obtain ⟨frame,hf,h⟩:=bind_eq_some_iff.mp h
   obtain rfl:=some.inj h
   exact .complete hi hf
 · next hi =>
   obtain ⟨frame,hf,h⟩:=bind_eq_some_iff.mp h
   dsimp only at h
   split at h
   · obtain rfl:=some.inj h
     exact .resetParent hi hf
   · next hparent =>
     obtain ⟨token,ht,h⟩:=bind_eq_some_iff.mp h
     split at h
     · next hlast =>
       obtain rfl:=some.inj h
       exact .resetLast hi hf hparent ht hlast.2
     · obtain rfl:=some.inj h
       exact .resetParent hi hf
 · next hi =>
   obtain ⟨frame,hf,h⟩:=bind_eq_some_iff.mp h
   obtain rfl:=some.inj h
   exact .resetParentToken hi hf
 · cases h

lemma move_of_step {l:Label} (h:step s l=some s') : Move s l s' := by
 cases l with
 | make parent =>
  cases parent <;> simp only[step,bind_eq_bind,bind_eq_some_iff] at h <;> grind[Move,token_eq_some]
 | initializeCompletion parent =>
  cases parent <;> simp only[step,bind_eq_bind,bind_eq_some_iff] at h <;> grind[Move,token_eq_some]
 | run i => exact move_of_run h
 | _ =>
  simp only[step,bind_eq_bind,bind_eq_some_iff] at h
  grind[Move,token_eq_some]

end Inversion

end ServiceLib.AsyncCompletion
