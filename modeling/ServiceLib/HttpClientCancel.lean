import ServiceLib.HttpClientStop

set_option autoImplicit false
attribute [-instance] instBooleanRingBool

/-!
# The cancellation of an HTTP request

A cancel handler holds the lease of its request; the one of `Interrupt` does not, but no lease is
granted after the handler that calls it.
-/
namespace ServiceLib.HttpClientCancel
open HttpClient HttpClientLease HttpClientStop Transition

/-- A function on the connection's strand that cancels the socket operation if the generation is still its own. -/
structure Handler where
 request : ℕ
 generation : ℕ
 leased : Bool
deriving DecidableEq,Repr

inductive Phase
 | free | leased | entered | installed | uninstalled
deriving DecidableEq,Repr

/-- `request` counts the leases. `running` is the handler on the strand, and whether it has
found its generation. A pending operation is known by the request that issued it, and
`cancels` pairs the request a cancellation was for with that one. -/
structure Socket where
 request : ℕ := 0
 phase : Phase := .free
 cancellationGeneration : ℕ := 0
 own : ℕ := 0
 pending : Option ℕ := none
 posted : List Handler := []
 running : Option (Handler × Bool) := none
 stopped : Bool := false
 handled : Bool := false
 cancels : List (ℕ × ℕ) := []
deriving DecidableEq,Repr

namespace Socket

def fetchAdd (s:Socket) : ℕ := (s.cancellationGeneration + 1) % 2 ^ 64

def cancel (s:Socket) : Socket :=
 { s with posted := s.posted ++ [⟨s.request,s.own,true⟩] }

def install (s:Socket) : Socket :=
 let installed:={ s with phase := .installed,cancellationGeneration := s.fetchAdd,own := s.fetchAdd }
 if s.stopped then installed.cancel else installed

def interrupt (s:Socket) : Socket :=
 { s with posted := s.posted ++ [⟨s.request,s.cancellationGeneration,false⟩] }

/-- `socket().cancel`: the pending operation ends with an error. -/
def strike (s:Socket) (h:Handler) : Socket :=
 match s.pending with
 | some r => { s with running := none,pending := none,cancels := s.cancels ++ [(h.request,r)] }
 | none => { s with running := none }

end Socket

/-- `callback` is a stop token that calls `cancel`, on any thread; it may do so until the
callbacks are gone, after the generation has been bumped. -/
inductive Event
 | lease | abandon | resume | install | issue | completed | uninstall | release
 | callback | stop | stopHandler | begin (h:Handler) | load | strike

def Socket.step (s:Socket) : Event → Option Socket
 | .lease =>
  if s.phase = .free ∧ s.handled = false then some { s with request := s.request + 1,phase := .leased } else none
 | .abandon => if s.phase = .leased ∨ s.phase = .entered then some { s with phase := .free } else none
 -- the `dispatch` of `Send` passes through the strand
 | .resume => if s.phase = .leased ∧ s.running = none then some { s with phase := .entered } else none
 | .install => if s.phase = .entered then some s.install else none
 | .issue => if s.phase = .installed ∧ s.pending = none then some { s with pending := some s.request } else none
 | .completed => if s.pending.isSome then some { s with pending := none } else none
 | .uninstall =>
  if s.phase = .installed ∧ s.pending = none then
   some { s with phase := .uninstalled,cancellationGeneration := s.fetchAdd }
  else none
 -- the last copy of the lease is gone
 | .release =>
  if s.phase = .uninstalled ∧ (∀ h ∈ s.posted,h.leased = false) ∧ (∀ r ∈ s.running,r.1.leased = false) then
   some { s with phase := .free }
  else none
 | .callback => if s.phase = .installed ∨ s.phase = .uninstalled then some s.cancel else none
 | .stop => some { s with stopped := true }
 | .stopHandler =>
  if s.stopped = true ∧ s.handled = false then
   some (if s.phase = .free then { s with handled := true } else ({ s with handled := true } : Socket).interrupt)
  else none
 | .begin h =>
  if s.running = none ∧ h ∈ s.posted then some { s with posted := s.posted.erase h,running := some (h,false) }
  else none
 | .load =>
  match s.running with
  | some (h,false) =>
   some { s with running := if s.cancellationGeneration = h.generation then some (h,true) else none }
  | _ => none
 | .strike =>
  match s.running with
  | some (h,true) => some (s.strike h)
  | _ => none

def Held (s:Socket) (h:Handler) : Prop :=
 h.request = s.request ∧ if h.leased then s.phase = .installed ∨ s.phase = .uninstalled else s.handled = true

structure Isolated (s:Socket) : Prop where
 posted : ∀ h ∈ s.posted,Held s h
 running : ∀ h b,s.running = some (h,b) → Held s h
 pending : ∀ r,s.pending = some r → r = s.request ∧ s.phase = .installed
 cancels : ∀ p ∈ s.cancels,p.1 = p.2

/-- What `ThrowIfCancelled` reads of a call; `due` is the deadline of `Send` itself. -/
structure Flags where
 closed : Bool
 cancelled : Bool
 deadline : Option ℤ
 due : ℤ
 now : ℤ

def flags (s:State) (i:ℕ) : Flags :=
 ⟨s.closed,(s.sends i).cancelled,(s.sends i).contextDeadline,(s.sends i).deadline,s.now⟩

def Flags.InTime (f:Flags) : Prop :=
 ∀ d ∈ f.deadline,f.due ≤ d

def Flagged (s:State) (i:ℕ) : Prop :=
 (flags s i).closed = true ∨ (flags s i).cancelled = true ∨
  (s.sends i).pc ≠ .idle ∧ ∃ d ∈ (flags s i).deadline,d ≤ (flags s i).now

def uninstalled : Pc → Bool
 | .idle | .acquiring | .waiting | .leased _ | .entered _ => true
 | _ => false

def Failed (pc:Pc) : Prop :=
 ∃ error,pc = .leaving (.error error) ∨ pc = .finished (.error error)

structure Later (l:Label) (s s':State) (i:ℕ) : Prop where
 closed : (flags s i).closed = true → (flags s' i).closed = true
 cancelled : (flags s i).cancelled = true → (flags s' i).cancelled = true
 cancels : (flags s' i).cancelled = true → (flags s i).cancelled = true ∨ l = .cancel i
 deadline : (s.sends i).pc ≠ .idle →
  (flags s' i).deadline = (flags s i).deadline ∧ (s'.sends i).pc ≠ .idle
 due : (flags s i).InTime → (flags s' i).InTime
 now : (flags s i).now ≤ (flags s' i).now

lemma isolated_step {s s':Socket} {l:Event} (hs:Isolated s) (h:s.step l=some s') : Isolated s' := by
 obtain ⟨hposted,hrunning,hpending,hcancels⟩:=hs
 cases l with
 | lease => constructor <;> grind[Socket.step,Held]
 | abandon => constructor <;> grind[Socket.step,Held]
 | resume => constructor <;> grind[Socket.step,Held]
 | install => constructor <;> grind[Socket.step,Held,Socket.install,Socket.cancel]
 | issue => constructor <;> grind[Socket.step,Held]
 | completed => constructor <;> grind[Socket.step,Held]
 | uninstall => constructor <;> grind[Socket.step,Held]
 | release =>
  simp only[Socket.step,Option.mem_def] at h
  constructor <;> grind[Held]
 | callback => constructor <;> grind[Socket.step,Held,Socket.cancel]
 | stop => constructor <;> grind[Socket.step,Held]
 | stopHandler => constructor <;> grind[Socket.step,Held,Socket.interrupt]
 | begin _ => constructor <;> grind[Socket.step,Held,List.mem_of_mem_erase]
 | load => constructor <;> grind[Socket.step,Held]
 | strike => constructor <;> grind[Socket.step,Held,Socket.strike,List.mem_singleton]

variable {o:PoolOptions} {s s':State} {i j c:ℕ}

@[grind =] lemma flags_setPc (s:State) (i:ℕ) (pc:Pc) (j:ℕ) : flags (s.setPc i pc) j=flags s j := by
 grind[State.setPc,flags,State.setSend]

@[grind =] lemma flags_setMailbox (s:State) (i:ℕ) (m:Mailbox) (j:ℕ) :
  flags (s.setMailbox i m) j=flags s j := by
 grind[State.setMailbox,flags,State.setSend]

@[grind =] lemma now_setSend (s:State) (i:ℕ) (send:Send) : (s.setSend i send).now=s.now := rfl

@[grind =] lemma now_setConnection (s:State) (c:ℕ) (connection:Connection) :
  (s.setConnection c connection).now=s.now := rfl

@[grind =] lemma flags_setConnection (s:State) (c:ℕ) (connection:Connection) (j:ℕ) :
  flags (s.setConnection c connection) j=flags s j := rfl

@[grind =] lemma flags_close (s:State) (c j:ℕ) : flags (s.close c) j=flags s j := rfl

@[grind =] lemma flags_release (s:State) (c j:ℕ) : flags (s.release c) j=flags s j := rfl

@[grind =] lemma flags_exit (s:State) (i:ℕ) (outcome:Outcome) (j:ℕ) :
  flags (s.exit i outcome) j=flags s j := by
 unfold State.exit
 split <;> grind

@[grind =] lemma flags_wake (s:State) (i j:ℕ) : flags (wake s i) j=flags s j := by
 unfold wake
 split <;> grind

@[grind =] lemma flags_pump (o:PoolOptions) (s:State) (j:ℕ) : flags (pump o s) j=flags s j := by
 refine pump_rule (P := fun u=>flags u j=flags s j) (fun u hu _=>hu) (fun u w c hu _ _ _ _=>?_)
  (fun u _ hu _=>hu) rfl
 unfold grant
 split <;> grind

@[grind =] lemma flags_enqueue (o:PoolOptions) (s:State) (i j:ℕ) : flags (enqueue o s i) j=flags s j := by
 refine (flags_pump o _ j).trans ?_
 change flags (register s i) j=flags s j
 unfold register
 split <;> grind[flags,State.setSend]

@[grind =] lemma flags_removeWaiter (o:PoolOptions) (s:State) (i j:ℕ) :
  flags (removeWaiter o s i) j=flags s j :=
 flags_pump o _ j

lemma flags_foldl_wake (waiters:List ℕ) (s:State) (i:ℕ) : flags (waiters.foldl wake s) i=flags s i := by
 induction waiters generalizing s with
 | nil => rfl
 | cons w waiters ih => exact (ih _).trans (flags_wake s w i)

@[grind =] lemma flags_finish (s:State) (i:ℕ) : flags (finish s) i=flags s i := by
 unfold finish
 split_ifs <;> rfl

@[grind =] lemma sends_finish (s:State) : (finish s).sends=s.sends := by
 unfold finish
 split_ifs <;> rfl

lemma later_step {l:Label} (h:step o s l=some s') (i:ℕ) : Later l s s' i := by
 cases l with
 | tick now => constructor <;> grind[step,flags,Flags.InTime]
 | cancel j => constructor <;> grind[step,flags,Flags.InTime]
 | signal j => constructor <;> grind[step,flags,Flags.InTime]
 | send j host port method d =>
  cases d <;> constructor <;> grind[step,flags,beginSend,effectiveDeadline,Flags.InTime]
 | acquire j => constructor <;> grind[step,acquire]
 | timer j => constructor <;> grind[step]
 | received j =>
  rcases hmessage:(s.sends j).mailbox.delivered with _ | _ | c <;> constructor <;> grind[step,received]
 | receiveAborted j => constructor <;> grind[step,receiveAborted]
 | dropMailbox j => constructor <;> grind[step,dropMailbox]
 | resume j => constructor <;> grind[step,coAwait]
 | admission j => constructor <;> grind[step,admission,coAwait]
 | resolved j error => cases error <;> constructor <;> grind[step,resolved,ioFailed,coAwait]
 | connected j error => cases error <;> constructor <;> grind[step,connected,ioFailed]
 | startWrite j => constructor <;> grind[step,startWrite]
 | wrote j error => cases error <;> constructor <;> grind[step,wrote,ioFailed]
 | startRead j => constructor <;> grind[step,startRead,coAwait]
 | gotResponse j bodySize keepAlive =>
  simp only[step,gotResponse] at h
  cases keepAlive <;> constructor <;> grind
 | readFailed j error => constructor <;> grind[step,ioFailed]
 | released c => constructor <;> grind[step,released,flags,Flags.InTime]
 | leave j => constructor <;> grind[step,leave,flags,Flags.InTime]
 | stop => constructor <;> grind[step,beginStop,completeStop,closeAll,flags,Flags.InTime]
 | stopHandler =>
  have hwake:=flags_foldl_wake s.waiters s i
  have hpc:=foldl_wake_pc s.waiters s i
  constructor <;> grind[step,stopHandler,flags,Flags.InTime]
 | finish => constructor <;> grind[step,flags,Flags.InTime]
 | closeHandler c => constructor <;> grind[step,closeHandler,flags,Flags.InTime]
 | closedHandler => constructor <;> grind[step,closedHandler,completeStop,flags,Flags.InTime]

lemma Flagged.later {l:Label} (hs:Flagged s i) (h:Later l s s' i) : Flagged s' i := by
 obtain ⟨hclosed,hcancelled,-,hdeadline,-,hnow⟩:=h
 rcases hs with hs | hs | ⟨hidle,d,hd,hle⟩
 · exact .inl (hclosed hs)
 · exact .inr (.inl (hcancelled hs))
 · obtain ⟨heq,hidle'⟩:=hdeadline hidle
   exact .inr (.inr ⟨hidle',d,heq▸hd,Int.le_trans hle hnow⟩)

lemma Flagged.throws (hs:Flagged s i) (operation:String) :
  ∃ error,throwIfCancelled s i operation=some error := by
 unfold throwIfCancelled
 rcases hs with hs | hs | ⟨-,hd⟩ <;> simp only[flags] at * <;> split_ifs <;> simp_all

/-- Either the object is not installed yet, and `ThrowIfCancelled` is still to come, or the call has failed. -/
def Doomed (s:State) (i:ℕ) : Prop :=
 Flagged s i ∧ (uninstalled (s.sends i).pc = true ∨ Failed (s.sends i).pc)

def stage : Pc → ℕ
 | .acquiring => 5
 | .waiting => 4
 | .leased _ => 3
 | .entered _ => 2
 | .leaving _ => 1
 | _ => 0

lemma doomed_pc {l:Label} (hs:Doomed s i) (h:step o s l=some s') :
  (uninstalled (s'.sends i).pc=true∨Failed (s'.sends i).pc) ∧
   ((s.sends i).pc≠ .idle→ stage (s'.sends i).pc≤ stage (s.sends i).pc) := by
 obtain ⟨hflag,hpc⟩:=hs
 cases l with
 | tick now => grind[step]
 | cancel j => grind[step]
 | signal j => grind[step]
 | send j host port method d => grind[step,beginSend,uninstalled,Failed,stage]
 | acquire j => grind[step,acquire,uninstalled,Failed,stage]
 | timer j => grind[step]
 | received j =>
  rcases hmessage:(s.sends j).mailbox.delivered with _ | _ | c <;> grind[step,received,uninstalled,Failed,stage]
 | receiveAborted j => grind[step,receiveAborted,uninstalled,Failed,stage]
 | dropMailbox j => grind[step,dropMailbox]
 | resume j => grind[step,coAwait,uninstalled,Failed,stage]
 | admission j =>
  obtain ⟨error,herror⟩:=hflag.throws "HTTP request admission"
  grind[step,admission,coAwait,uninstalled,Failed,stage]
 | resolved j error => cases error <;> grind[step,resolved,ioFailed,coAwait,uninstalled,Failed,stage]
 | connected j error => cases error <;> grind[step,connected,ioFailed,uninstalled,Failed,stage]
 | startWrite j => grind[step,startWrite,uninstalled,Failed,stage]
 | wrote j error => cases error <;> grind[step,wrote,ioFailed,uninstalled,Failed,stage]
 | startRead j => grind[step,startRead,coAwait,uninstalled,Failed,stage]
 | gotResponse j bodySize keepAlive =>
  simp only[step,gotResponse] at h
  cases keepAlive <;> grind[uninstalled,Failed,stage]
 | readFailed j error => grind[step,ioFailed,uninstalled,Failed,stage]
 | released c => grind[step,released]
 | leave j => grind[step,leave,uninstalled,Failed,stage]
 | stop => grind[step,beginStop,completeStop,closeAll]
 | stopHandler =>
  have hpc:=foldl_wake_pc s.waiters s i
  grind[step,stopHandler]
 | finish => grind[step]
 | closeHandler c => grind[step,closeHandler]
 | closedHandler => grind[step,closedHandler,completeStop]

lemma doomed_step (s:State) (l:Label) (s':State) (hs:Doomed s i) (h:step o s l=some s') : Doomed s' i :=
 ⟨hs.1.later (later_step h i),(doomed_pc hs h).1⟩

lemma waited_step {l:Label} (h:step o s l=some s') (hi:(s'.sends i).pc=.waiting) :
  l=.acquire i∨(s.sends i).pc=.waiting∧((s.sends i).mailbox.delivered≠none→(s'.sends i).mailbox.delivered≠none) := by
 by_cases hacquire:∃ j,l=.acquire j
 · obtain ⟨j,rfl⟩:=hacquire
   by_cases hj:i=j
   · exact .inl (hj▸rfl)
   have hothers:=(enqueue_mail (o:=o) s j).2.2.2 i hj
   have hremove:=(mailed_pump (o:=o) { (enqueue o s j).exit j (.error .operationAborted) with
    waiters := ((enqueue o s j).exit j (.error .operationAborted)).waiters.erase j } i).1
   right
   have hpc:(s.sends i).pc=.waiting:=by grind[step,acquire]
   refine ⟨hpc,fun hd=>?_⟩
   have henqueue:=(hothers hpc).mailed.delivered hd
   have hafter:=hremove.delivered
   grind[step,acquire,removeWaiter]
 by_cases hstop:l=.stopHandler
 · subst hstop
   have hmail:=(foldl_wake_woken s.waiters s i).1.delivered
   have hpc:=foldl_wake_pc s.waiters s i
   grind[step,stopHandler]
 have hkept:=kept_step h (fun j heq=>hacquire ⟨j,heq⟩) hstop i hi
 exact .inr ⟨hkept.waited,hkept.mailed.delivered⟩

/-- What the progress of a call rests on: a waiter whose token is signalled has its message. -/
structure Ready (s:State) : Prop where
 shutdown : Shutdown s
 told : ∀ i,(s.sends i).pc = .waiting → (flags s i).cancelled = true → (s.sends i).mailbox.delivered ≠ none
 inTime : ∀ i,(flags s i).InTime

lemma told_acquire (hcancelled:(flags s i).cancelled=true) (hpc:((acquire o s i).sends i).pc=.waiting) :
  ((acquire o s i).sends i).mailbox.delivered≠none := by
 have hregister:((register s i).sends i).mailbox.slot≠none:=by
  change (s.sends i).cancelled=true at hcancelled
  unfold register
  rw[if_pos hcancelled]
  grind[wake,Mailbox.trySend]
 obtain ⟨hmailed,-⟩:=mailed_pump (o := o) { register s i with waiters := (register s i).waiters++[i] } i
 have hfull:Full ((enqueue o s i).sends i).mailbox:=hmailed.full (.inr hregister)
 have hnone:=(enqueue_mail (o:=o) s i).2.1
 grind[acquire,Mailbox.asyncReceive,Full]

lemma Ready.step {l:Label} (h:Ready s) (hstep:HttpClient.step o s l=some s') : Ready s' := by
 refine ⟨⟨h.shutdown.stopping.step hstep,h.shutdown.waits.step h.shutdown.stopping.counts hstep⟩,fun i hi hcancelled=>?_,
  fun i=>(later_step hstep i).due (h.inTime i)⟩
 rcases waited_step hstep hi with rfl | ⟨hpc,hkept⟩
 · have heq:s'=acquire o s i:=by grind[HttpClient.step]
   subst heq
   rcases (later_step hstep i).cancels hcancelled with hbefore | hlabel
   · exact told_acquire hbefore hi
   · cases hlabel
 · rcases (later_step hstep i).cancels hcancelled with hbefore | rfl
   · exact hkept (h.told i hpc hbefore)
   · have hwaiting:=(h.shutdown.waits i hpc).receiving
     grind[HttpClient.step,wake,Mailbox.trySend]

lemma ready_exec {ls:List Label} (hrun:exec (step o) {} ls=some s) : Ready s := by
 have hinitial:Shutdown {}:=shutdown_exec (show exec (step o) {} []=some {} from rfl)
 refine exec_invariant (I := Ready) (fun _ _ _ h hstep=>h.step hstep) ⟨hinitial,?_,?_⟩ hrun
 · exact fun i hi=>nomatch hi
 · exact fun i d hd=>nomatch hd

/-- The steps the call has still to take, and one for the message it waits for. -/
def left (send:Send) : ℕ :=
 match send.pc,send.mailbox.delivered with
 | .waiting,none => 2 * stage .waiting + 1
 | pc,_ => 2 * stage pc

/-- What the call's own code, its timer and the handler of `BeginStop` do. -/
def duties (i:ℕ) : List Label :=
 [.acquire i,.timer i,.stopHandler,.received i,.resume i,.admission i,.leave i]

lemma left_step {l:Label} (hs:Doomed s i) (hidle:(s.sends i).pc≠ .idle) (h:step o s l=some s') :
  left (s'.sends i)≤left (s.sends i) := by
 have hstage:=(doomed_pc hs h).2 hidle
 have hwaited:=@waited_step o s s' i l h
 have hacquire:l=.acquire i→ (s.sends i).pc=.acquiring:=by grind[step]
 unfold left
 grind[stage]

lemma told_duty (hs:Doomed s i) (hr:Ready s) (hpc:(s.sends i).pc=.waiting) (hnone:(s.sends i).mailbox.delivered=none) :
  ∃ l∈duties i,∃ s',step o s l=some s'∧(s'.sends i).pc=.waiting∧(s'.sends i).mailbox.delivered≠none := by
 have hwaiting:=hr.shutdown.waits i hpc
 rcases hs.1 with hclosed | hcancelled | ⟨-,d,hd,hnow⟩
 · have hposted:s.stopPosted=true:=by
    by_contra hposted
    exact hwaiting.woken hclosed (by simpa using hposted) hnone
   have hstep:step o s .stopHandler=some (stopHandler s):=if_pos hposted
   have hpc':((stopHandler s).sends i).pc=.waiting:=by
    rw[stopHandler,sends_finish]
    exact (foldl_wake_pc s.waiters s i).trans hpc
   have hcleared:(stopHandler s).stopPosted=false:=by grind[stopHandler,finish,completeStop]
   have hclosed':=(later_step hstep i).closed hclosed
   exact ⟨_,by simp[duties],_,hstep,hpc',((hr.step hstep).shutdown.waits i hpc').woken hclosed' hcleared⟩
 · exact absurd hnone (hr.told i hpc hcancelled)
 · have hdue:(s.sends i).deadline≤ s.now:=Int.le_trans (hr.inTime i d hd) hnow
   have hstep:step o s (.timer i)=some (wake s i):=by simp only[step,hpc,hdue,if_true]
   have hreceiving:=hwaiting.receiving
   refine ⟨_,by simp[duties],_,hstep,(pc_wake s i i).trans hpc,?_⟩
   grind[wake,Mailbox.trySend]

/-- Until the call has ended one of its duties is enabled and brings it nearer to its end. -/
lemma exists_duty (hs:Doomed s i) (hr:Ready s) (hleft:left (s.sends i)≠0) :
  ∃ l∈duties i,∃ s',step o s l=some s'∧left (s'.sends i) < left (s.sends i) := by
 cases hpc:(s.sends i).pc with
 | acquiring =>
  refine ⟨.acquire i,by simp[duties],acquire o s i,by simp only[step,hpc],?_⟩
  grind[acquire,left,stage]
 | waiting =>
  rcases hmessage:(s.sends i).mailbox.delivered with _ | message
  · obtain ⟨l,hl,s',hstep,hpc',hd⟩:=told_duty (o := o) hs hr hpc hmessage
    exact ⟨l,hl,s',hstep,by simp[left,hpc,hpc',hmessage,hd]⟩
  · refine ⟨.received i,by simp[duties],received o s i message,by simp only[step,hpc,hmessage],?_⟩
    cases message <;> grind[received,left,stage]
 | leased c =>
  refine ⟨.resume i,by simp[duties],coAwait s i (.entered c),by simp only[step,hpc],?_⟩
  grind[coAwait,left,stage]
 | entered c =>
  obtain ⟨error,herror⟩:=hs.1.throws "HTTP request admission"
  refine ⟨.admission i,by simp[duties],admission s i c,by simp only[step,hpc],?_⟩
  grind[admission,left,stage]
 | leaving outcome =>
  refine ⟨.leave i,by simp[duties],leave s i outcome,by simp only[step,hpc],?_⟩
  grind[leave,left,stage]
 | _ => exact absurd (by simp[left,stage,hpc]) hleft

lemma Doomed.over (hs:Doomed s i) (hidle:(s.sends i).pc≠ .idle) (hleft:left (s.sends i)=0) :
  ∃ error,(s.sends i).pc=.finished (.error error) := by
 obtain ⟨-,hpc | ⟨error,hpc | hpc⟩⟩:=hs
 · cases heq:(s.sends i).pc <;> grind[left,stage,uninstalled]
 · simp[left,stage,hpc] at hleft
 · exact ⟨error,hpc⟩

/-- For every run on a connection, a socket operation is cancelled only on behalf of the
request that issued it. In every run of the client, a call whose context is cancelled or
whose client is stopped before it has installed its cancellation object does not pass the
admission later on, and ends with an error: no step brings it further from its end, and
until it has ended there one of its own steps, its timer or the handler of `BeginStop` is
enabled and brings it nearer. -/
theorem cancellation_isolated :
  (∀ (events : List Event) (s : Socket), exec Socket.step {} events = some s → ∀ p ∈ s.cancels, p.1 = p.2) ∧
  ∀ (o : PoolOptions) (ls ls' : List Label) (s s' : State) (i : ℕ),
   exec (step o) {} ls = some s → uninstalled (s.sends i).pc = true → Flagged s i →
   exec (step o) s ls' = some s' →
   (uninstalled (s'.sends i).pc = true ∨ Failed (s'.sends i).pc) ∧
   (∀ c, (s'.sends i).pc = .entered c → ∃ error, step o s' (.admission i) = some (s'.exit i (.error error))) ∧
   ((s'.sends i).pc ≠ .idle →
    (∀ l s'', step o s' l = some s'' → left (s''.sends i) ≤ left (s'.sends i)) ∧
    (left (s'.sends i) ≠ 0 →
     ∃ l ∈ duties i, ∃ s'', step o s' l = some s'' ∧ left (s''.sends i) < left (s'.sends i)) ∧
    (left (s'.sends i) = 0 → ∃ error, (s'.sends i).pc = .finished (.error error))) := by
 refine ⟨fun events s hrun=>?_,fun o ls ls' s s' i hrun hpc hflag hexec=>?_⟩
 · exact (exec_invariant (I := Isolated) (fun _ _ _=>isolated_step) (by constructor <;> simp) hrun).cancels
 · have hdoomed:=exec_invariant (I:=fun u=>Doomed u i) doomed_step ⟨hflag,.inl hpc⟩ hexec
   refine ⟨hdoomed.2,fun c hc=>?_,fun hidle=>⟨fun l s'' hstep=>left_step hdoomed hidle hstep,fun hleft=>?_,
    hdoomed.over hidle⟩⟩
   · obtain ⟨error,herror⟩:=hdoomed.1.throws "HTTP request admission"
     exact ⟨error,by simp only[step,hc,admission,herror]⟩
   · exact exists_duty hdoomed (ready_exec (exec_append hrun hexec)) hleft

def cancelledEvents : List Event :=
 [.lease,.resume,.install,.issue,.callback,.begin ⟨1,1,true⟩,.load,.strike]

/-- The second call waits for the only connection when its token is signalled. -/
def cancelledRun : List Label :=
 [.send 0 "a" "80" "GET" none,.acquire 0,.received 0,.send 1 "b" "80" "GET" none,.acquire 1,.cancel 1]

theorem cancelledRun_isolated :
  (∃ s, exec Socket.step {} cancelledEvents = some s ∧ s.cancels = [(1, 1)] ∧ ∀ p ∈ s.cancels, p.1 = p.2) ∧
  ∃ s s', exec (step ⟨{ connections := 1 }, by decide⟩) {} cancelledRun = some s ∧ s.waiters = [1] ∧
   (s.sends 1).pc = .waiting ∧
   exec (step ⟨{ connections := 1 }, by decide⟩) s [.received 1, .leave 1] = some s' ∧
   ∃ error, (s'.sends 1).pc = .finished (.error error) := by
 have hevents:exec Socket.step {} cancelledEvents=some _:=rfl
 have hrun:exec (step ⟨{ connections:=1 },by decide⟩) {} cancelledRun=some _ := rfl
 refine ⟨⟨_,hevents,rfl,cancellation_isolated.1 _ _ hevents⟩,_,_,hrun,rfl,rfl,rfl,?_⟩
 obtain ⟨-,-,hends⟩:=cancellation_isolated.2 _ _ [.received 1,.leave 1] _ _ 1 hrun rfl (.inr (.inl rfl)) rfl
 exact (hends Pc.noConfusion).2.2 rfl

end ServiceLib.HttpClientCancel
