import ServiceLib.HttpClientLease

set_option autoImplicit false
attribute [-instance] instBooleanRingBool

/-!
# The shutdown of an HTTP client

The drain promise is fulfilled by the stopping thread, by the last close handler or by a `Finish`
that finds no connection.
-/
namespace ServiceLib.HttpClientStop
open HttpClient HttpClientLease Transition List Option

def active : Pc → Bool
 | .idle | .finished _ => false
 | _ => true

structure Control where
 closed : Bool
 operations : ℕ
 stopPosted : Bool
 finishPosted : ℕ
 finishing : Bool
 closing : ℕ
 closePosted : List ℕ
 closedPosted : ℕ
 drained : ℕ

def control (s:State) : Control :=
 ⟨s.closed,s.operations,s.stopPosted,s.finishPosted,s.finishing,s.closing,s.closePosted,s.closedPosted,
  s.drained⟩

/-- A step of no account for the shutdown. -/
structure Aloof (s s':State) : Prop where
 control : control s' = control s
 active : ∀ i,active (s'.sends i).pc = active (s.sends i).pc

def Counts (s:State) : Prop :=
 ∃ calls : List ℕ,calls.Nodup ∧ (∀ i,i ∈ calls ↔ active (s.sends i).pc = true) ∧ calls.length = s.operations

/-- Before `Finish` or a `Stop` of an idle client has begun to close the connections
nothing is promised; afterwards `closing` counts the handlers that are left. -/
structure Finishable (s:State) : Prop where
 counts : Counts s
 before : s.finishing = false → s.drained = 0 ∧ s.closing = 0 ∧ s.closePosted = [] ∧ s.closedPosted = 0
 after : s.finishing = true → s.closed = true ∧ s.operations = 0 ∧
  s.closing = s.closePosted.length + s.closedPosted ∧ (s.drained = if s.closing = 0 then 1 else 0) ∧
  ∀ c < s.size,c ∉ s.closePosted → (s.connections c).isOpen = false

/-- Where no call is left, a posted handler will call `Finish`. -/
structure Stopping (s:State) : Prop extends Finishable s where
 posted : s.closed = true → s.operations = 0 → s.finishing = false → s.stopPosted = true ∨ 0 < s.finishPosted

variable {o:PoolOptions} {s s':State} {i c:ℕ}

@[grind =] lemma control_setSend (s:State) (i:ℕ) (send:Send) : control (s.setSend i send)=control s := rfl

@[grind =] lemma control_setConnection (s:State) (c:ℕ) (connection:Connection) :
  control (s.setConnection c connection)=control s := rfl

@[grind =] lemma control_release (s:State) (c:ℕ) : control (s.release c)=control s := rfl

@[grind =] lemma control_exit (s:State) (i:ℕ) (outcome:Outcome) : control (s.exit i outcome)=control s := by
 unfold State.exit
 split <;> rfl

@[grind =] lemma pc_exit (s:State) (i:ℕ) (outcome:Outcome) (j:ℕ) :
  ((s.exit i outcome).sends j).pc=if j=i then .leaving outcome else (s.sends j).pc := by
 rw[exit_sends,Function.update_apply]
 split <;> rfl

@[grind =] lemma control_wake (s:State) (i:ℕ) : control (wake s i)=control s := by
 unfold wake
 split <;> rfl

@[grind =] lemma pc_wake (s:State) (i j:ℕ) : ((wake s i).sends j).pc=(s.sends j).pc :=
 (sameCalls_wake s i).pc j

@[grind =] lemma control_pump (o:PoolOptions) (s:State) : control (pump o s)=control s := by
 refine pump_rule (P := fun u=>control u=control s) (fun u hu _=>hu) (fun u w c hu _ _ _ _=>?_)
  (fun u _ hu _=>hu) rfl
 unfold grant
 split <;> exact hu

@[grind =] lemma pc_pump (o:PoolOptions) (s:State) (j:ℕ) : ((pump o s).sends j).pc=(s.sends j).pc :=
 (sameCalls_pump o s).pc j

lemma control_register (s:State) (i:ℕ) : control (register s i)=control s := by
 unfold register
 split
 · exact control_wake _ i
 · rfl

lemma pc_register (s:State) (i j:ℕ) :
  ((register s i).sends j).pc=if j=i then .waiting else (s.sends j).pc := by
 unfold register
 split <;> grind

@[grind =] lemma control_enqueue (o:PoolOptions) (s:State) (i:ℕ) : control (enqueue o s i)=control s :=
 (control_pump o _).trans (control_register s i)

@[grind =] lemma pc_enqueue (o:PoolOptions) (s:State) (i j:ℕ) :
  ((enqueue o s i).sends j).pc=if j=i then .waiting else (s.sends j).pc :=
 (pc_pump o _ j).trans (pc_register s i j)

@[grind =] lemma control_removeWaiter (o:PoolOptions) (s:State) (i:ℕ) :
  control (removeWaiter o s i)=control s :=
 control_pump o _

@[grind =] lemma pc_removeWaiter (o:PoolOptions) (s:State) (i j:ℕ) :
  ((removeWaiter o s i).sends j).pc=(s.sends j).pc :=
 pc_pump o _ j

@[grind =] lemma control_setPc (s:State) (i:ℕ) (pc:Pc) : control (s.setPc i pc)=control s := rfl

@[grind =] lemma pc_setPc (s:State) (i:ℕ) (pc:Pc) (j:ℕ) :
  ((s.setPc i pc).sends j).pc=if j=i then pc else (s.sends j).pc := by
 grind[State.setPc]

@[grind =] lemma control_close (s:State) (c:ℕ) : control (s.close c)=control s := rfl

@[grind =] lemma sends_close (s:State) (c j:ℕ) : (s.close c).sends j=s.sends j := rfl

@[grind =] lemma control_setMailbox (s:State) (i:ℕ) (m:Mailbox) : control (s.setMailbox i m)=control s := rfl

@[grind =] lemma pc_setMailbox (s:State) (i:ℕ) (m:Mailbox) (j:ℕ) :
  ((s.setMailbox i m).sends j).pc=(s.sends j).pc := by
 grind[State.setMailbox]

def Label.stops : Label → Bool
 | .send .. | .leave _ | .stop | .stopHandler | .finish | .closeHandler _ | .closedHandler => true
 | _ => false

lemma aloof_step {l:Label} (h:step o s l=some s') (hl:Label.stops l=false) : Aloof s s' := by
 cases l with
 | send | leave | stop | stopHandler | finish | closeHandler | closedHandler => cases hl
 | tick now => constructor <;> grind[step,control]
 | cancel i => constructor <;> grind[step]
 | signal i => constructor <;> grind[step]
 | acquire i => constructor <;> grind[step,acquire,active]
 | timer i => constructor <;> grind[step]
 | received i =>
  rcases hmessage:(s.sends i).mailbox.delivered with _ | _ | c <;> constructor <;> grind[step,received,active]
 | receiveAborted i => constructor <;> grind[step,receiveAborted,active]
 | dropMailbox i => constructor <;> grind[step,dropMailbox]
 | resume i => constructor <;> grind[step,coAwait,active]
 | admission i => constructor <;> grind[step,admission,coAwait,active]
 | resolved i error => cases error <;> constructor <;> grind[step,resolved,ioFailed,coAwait,active]
 | connected i error => cases error <;> constructor <;> grind[step,connected,ioFailed,active]
 | startWrite i => constructor <;> grind[step,startWrite,active]
 | wrote i error => cases error <;> constructor <;> grind[step,wrote,ioFailed,active]
 | startRead i => constructor <;> grind[step,startRead,coAwait,active]
 | gotResponse i bodySize keepAlive =>
  simp only[step,gotResponse] at h
  cases keepAlive <;> constructor <;> grind[active]
 | readFailed i error => constructor <;> grind[step,ioFailed,active]
 | released c =>
  obtain ⟨-,heq⟩:=ite_none_right_eq_some.mp h
  cases heq
  exact ⟨control_pump o _,fun j=>by rw[released,pc_pump]; rfl⟩

lemma Counts.idle (h:Counts s) (hops:s.operations=0) (i:ℕ) : active (s.sends i).pc=false := by
 obtain ⟨calls,-,hcalls,hlength⟩:=h
 obtain rfl:=eq_nil_of_length_eq_zero (hlength.trans hops)
 exact Bool.eq_false_iff.mpr fun hactive=>nomatch (hcalls i).mpr hactive

lemma Counts.aloof (h:Counts s) (haloof:Aloof s s') : Counts s' := by
 obtain ⟨calls,hnodup,hcalls,hlength⟩:=h
 have hops:s'.operations=s.operations:=congrArg Control.operations haloof.control
 exact ⟨calls,hnodup,fun i=>by rw[haloof.active,hcalls],hlength.trans hops.symm⟩

lemma Counts.enter (h:Counts s) (hi:active (s.sends i).pc=false) (hops:s'.operations=s.operations+1)
  (hsends:∀ j,active (s'.sends j).pc=if j=i then true else active (s.sends j).pc) : Counts s' := by
 obtain ⟨calls,hnodup,hcalls,hlength⟩:=h
 refine ⟨i::calls,nodup_cons.mpr ⟨fun hmem=>?_,hnodup⟩,fun j=>?_,by rw[length_cons,hlength,hops]⟩
 · rw[(hcalls i).mp hmem] at hi
   cases hi
 · grind

lemma Counts.leave (h:Counts s) (hi:active (s.sends i).pc=true) (hops:s'.operations=s.operations - 1)
  (hsends:∀ j,active (s'.sends j).pc=if j=i then false else active (s.sends j).pc) : Counts s' := by
 obtain ⟨calls,hnodup,hcalls,hlength⟩:=h
 refine ⟨calls.erase i,hnodup.erase i,fun j=>?_,?_⟩
 · rw[hnodup.mem_erase_iff,hcalls,hsends]
   grind
 · rw[length_erase_of_mem ((hcalls i).mpr hi),hlength,hops]

lemma Counts.pos (h:Counts s) (hi:active (s.sends i).pc=true) : 0 < s.operations := by
 refine Nat.pos_of_ne_zero fun hops=>?_
 rw[h.idle hops i] at hi
 cases hi

lemma opens_of_aloof {l:Label} (h:step o s l=some s') (hl:Label.stops l=false)
  (hidle:∀ i,active (s.sends i).pc=false) (hclosed:s.closed=true) :
  s'.size=s.size∧∀ c,(s'.connections c).isOpen=(s.connections c).isOpen := by
 cases l with
 | send | leave | stop | stopHandler | finish | closeHandler | closedHandler => cases hl
 | tick | signal => grind[step,State.setSend]
 | cancel i | timer i => grind[step,wake,State.setSend,State.setMailbox]
 | dropMailbox i => grind[step,dropMailbox,State.setSend,State.setMailbox,State.release]
 | released c =>
  obtain ⟨-,heq⟩:=ite_none_right_eq_some.mp h
  cases heq
  have hpump:released o s c={ s.setConnection c { s.connections c with busy:=false } with
   releases := s.releases.erase c } := if_pos hclosed
  rw[hpump]
  refine ⟨rfl,fun d=>?_⟩
  change ((s.setConnection c _).connections d).isOpen=_
  grind
 | acquire i | received i | receiveAborted i | resume i | admission i | resolved i | connected i | startWrite i
  | wrote i | startRead i | gotResponse i | readFailed i =>
  have hi:=hidle i
  grind[step,active]

lemma Stopping.aloof {l:Label} (h:Stopping s) (hstep:step o s l=some s') (hl:Label.stops l=false) :
  Stopping s' := by
 have haloof:=aloof_step hstep hl
 have hopens:=opens_of_aloof hstep hl
 have hidle:=h.counts.idle
 refine ⟨⟨h.counts.aloof haloof,?_,?_⟩,?_⟩
 all_goals obtain ⟨⟨-,hbefore,hafter⟩,hposted⟩ := h
 all_goals have hcontrol:=haloof.control
 all_goals simp only[control,Control.mk.injEq] at hcontrol
 all_goals grind

lemma Finishable.finish (h:Finishable s) : Stopping (finish s) := by
 obtain ⟨hcounts,hbefore,hafter⟩:=h
 unfold HttpClient.finish completeStop
 split_ifs with hactive hfinishing hempty
 · exact ⟨⟨hcounts,hbefore,hafter⟩,by grind⟩
 · exact ⟨⟨hcounts,hbefore,hafter⟩,by grind⟩
 · exact ⟨⟨hcounts,nofun,fun _=>by grind⟩,nofun⟩
 · have hnone:=hbefore (by simpa using hfinishing)
   exact ⟨⟨hcounts,nofun,fun _=>by grind⟩,nofun⟩

lemma foldl_wake_frame (waiters:List ℕ) (s:State) : Aloof s (waiters.foldl wake s) ∧
  (waiters.foldl wake s).size=s.size∧(waiters.foldl wake s).connections=s.connections := by
 induction waiters generalizing s with
 | nil => exact ⟨⟨rfl,fun _=>rfl⟩,rfl,rfl⟩
 | cons w waiters ih =>
  obtain ⟨haloof,hsize,hconnections⟩:=ih (wake s w)
  have hwake:(wake s w).size=s.size∧(wake s w).connections=s.connections:=by
   unfold wake
   split <;> exact ⟨rfl,rfl⟩
  refine ⟨⟨haloof.control.trans (control_wake s w),fun i=>(haloof.active i).trans (by rw[pc_wake])⟩,?_,?_⟩
  · exact hsize.trans hwake.1
  · exact hconnections.trans hwake.2

lemma Stopping.step {l:Label} (h:Stopping s) (hstep:step o s l=some s') : Stopping s' := by
 cases hl:Label.stops l with
 | false => exact h.aloof hstep hl
 | true =>
  obtain ⟨⟨hcounts,hbefore,hafter⟩,hposted⟩:=h
  cases l with
  | send i host port method deadline =>
   simp only[HttpClient.step] at hstep
   split at hstep <;> cases hstep
   next hi =>
   unfold beginSend
   split
   · next hclosed =>
     have haloof:Aloof s (s.setSend i { s.sends i with
      host := host,port := port,method := method
      pc := .finished (.error (.client ⟨.stopped,"HTTP client is stopped"⟩)) }) :=
      ⟨rfl,fun j=>by grind[active]⟩
     exact ⟨⟨hcounts.aloof haloof,hbefore,hafter⟩,hposted⟩
   · next hopen =>
     refine ⟨⟨hcounts.enter (i := i) (by rw[hi]; rfl) rfl (fun j=>?_),hbefore,fun hfinishing=>?_⟩,
      fun hclosed=>absurd hclosed hopen⟩
     · rw[sends_setSend]
       split <;> rfl
     · exact absurd (hafter hfinishing).1 hopen
  | leave i =>
   simp only[HttpClient.step] at hstep
   split at hstep <;> cases hstep
   next outcome hi =>
   have hpos:=hcounts.pos (i:=i) (by rw[hi]; rfl)
   refine ⟨⟨hcounts.leave (i := i) (by rw[hi]; rfl) rfl (fun j=>?_),hbefore,fun hfinishing=>?_⟩,?_⟩
   · grind[leave,active]
   · have hzero:=(hafter hfinishing).2.1
     omega
   · grind[leave,State.setPc,State.setSend]
  | stop =>
   cases hstep
   unfold beginStop
   split_ifs with hclosed hdirect
   · exact ⟨⟨hcounts,hbefore,hafter⟩,hposted⟩
   · obtain ⟨hdrained,hclosing,hclose,hclosedPosted⟩:=hbefore hdirect.2
     refine ⟨⟨hcounts,fun hnot=>(by cases hnot),fun _=>⟨rfl,hdirect.1,?_,?_,fun c hc _=>?_⟩⟩,fun _ _ hnot=>(by cases hnot)⟩
     · change s.closing=s.closePosted.length+s.closedPosted
       rw[hclosing,hclose,hclosedPosted,length_nil]
     · change s.drained+1=if s.closing=0 then 1 else 0
       rw[hdrained,hclosing,if_pos rfl]
     · have hlt:c < s.size:=hc
       simp[completeStop,closeAll,hlt,Connection.close]
   · exact ⟨⟨hcounts,hbefore,fun hfinishing=>absurd (hafter hfinishing).1 hclosed⟩,fun _ _ _=>.inl rfl⟩
  | stopHandler =>
   obtain ⟨-,heq⟩:=ite_none_right_eq_some.mp hstep
   cases heq
   obtain ⟨haloof,hsize,hconnections⟩:=foldl_wake_frame s.waiters s
   have hcontrol:=haloof.control
   simp only[control,Control.mk.injEq] at hcontrol
   have hwoken:=hcounts.aloof haloof
   exact Finishable.finish ⟨hwoken,by grind,by grind⟩
  | finish =>
   obtain ⟨-,heq⟩:=ite_none_right_eq_some.mp hstep
   cases heq
   exact Finishable.finish ⟨hcounts,hbefore,hafter⟩
  | closeHandler c =>
   obtain ⟨hc,heq⟩:=ite_none_right_eq_some.mp hstep
   cases heq
   refine ⟨⟨hcounts,?_,?_⟩,?_⟩ <;> grind[closeHandler,State.close,State.setConnection,Connection.close]
  | closedHandler =>
   obtain ⟨hc,heq⟩:=ite_none_right_eq_some.mp hstep
   cases heq
   unfold closedHandler completeStop
   split_ifs <;> refine ⟨⟨hcounts,?_,?_⟩,?_⟩ <;> grind
  | _ => cases hl

def Full (m:Mailbox) : Prop :=
 m.delivered ≠ none ∨ m.slot ≠ none

structure Mailed (m m':Mailbox) : Prop where
 receiving : m'.receiving = m.receiving
 order : m.receiving = true → (m.delivered = none → m.slot = none) → m'.delivered = none → m'.slot = none
 delivered : m.delivered ≠ none → m'.delivered ≠ none
 full : Full m → Full m'
 unread : m.receiving = false → m'.delivered = m.delivered

lemma Mailed.refl (m:Mailbox) : Mailed m m :=
 ⟨rfl,fun _=>id,id,id,fun _=>rfl⟩

lemma Mailed.trans {m m' m'':Mailbox} (h:Mailed m m') (h':Mailed m' m'') : Mailed m m'' := by
 obtain ⟨⟩:=h
 obtain ⟨⟩:=h'
 constructor <;> grind

lemma mailed_trySend {m m':Mailbox} {message:Message} (h:m.trySend message=some m') :
  Mailed m m'∧Full m' := by
 refine ⟨?_,?_⟩
 · constructor <;> grind[Mailbox.trySend,Full]
 · obtain ⟨-,-,rfl⟩ | ⟨-,rfl⟩:=trySend_cases h <;> simp[Full]

lemma mailed_wake (s:State) (i j:ℕ) : Mailed (s.sends j).mailbox ((wake s i).sends j).mailbox ∧
  Full ((wake s i).sends i).mailbox := by
 have hrefl:=Mailed.refl (s.sends j).mailbox
 have hsent:=@mailed_trySend (s.sends i).mailbox
 unfold wake
 split <;> grind[State.setMailbox,Mailbox.trySend,Full]

lemma mailed_pumpWaiters (waiters:List ℕ) (s:State) (j:ℕ) :
  Mailed (s.sends j).mailbox ((pumpWaiters o waiters s).sends j).mailbox ∧
   (j∈waiters→ j∈(pumpWaiters o waiters s).waiters∨Full ((pumpWaiters o waiters s).sends j).mailbox) := by
 induction waiters generalizing s with
 | nil => exact ⟨.refl _,nofun⟩
 | cons w waiters ih =>
  unfold pumpWaiters
  split
  · exact ⟨.refl _,.inl⟩
  · next c s₁ havailable =>
    have hsends:s₁.sends=s.sends:=by
     obtain ⟨-,-,rfl⟩ | ⟨-,-,rfl⟩:=available_cases havailable <;> rfl
    have hgrant:Mailed (s.sends j).mailbox ((grant s₁ w c).sends j).mailbox ∧
     Full ((grant s₁ w c).sends w).mailbox:=by
     have hrefl:=Mailed.refl (s.sends j).mailbox
     have hsent:=@mailed_trySend (s.sends w).mailbox
     unfold grant
     rw[hsends]
     split <;> grind[State.setMailbox,Mailbox.trySend,Full]
    obtain ⟨hmailed,hserved⟩:=ih (grant s₁ w c)
    refine ⟨hgrant.1.trans hmailed,fun hj=>?_⟩
    rcases mem_cons.mp hj with rfl | hj
    · exact .inr (hmailed.full hgrant.2)
    · exact hserved hj

lemma mailed_pump (s:State) (j:ℕ) : Mailed (s.sends j).mailbox ((pump o s).sends j).mailbox ∧
  (j∈s.waiters→ j∈(pump o s).waiters∨Full ((pump o s).sends j).mailbox) := by
 unfold pump
 split
 · exact ⟨.refl _,.inl⟩
 · exact mailed_pumpWaiters s.waiters s j

structure Waiting (s:State) (i:ℕ) : Prop where
 receiving : (s.sends i).mailbox.receiving = true
 order : (s.sends i).mailbox.delivered = none → (s.sends i).mailbox.slot = none
 queued : i ∈ s.waiters ∨ (s.sends i).mailbox.delivered ≠ none
 woken : s.closed = true → s.stopPosted = false → (s.sends i).mailbox.delivered ≠ none

def Waits (s:State) : Prop :=
 ∀ i,(s.sends i).pc = .waiting → Waiting s i

structure KeptCall (s s':State) (j:ℕ) : Prop where
 waited : (s.sends j).pc = .waiting
 mailed : Mailed (s.sends j).mailbox (s'.sends j).mailbox
 queued : j ∈ s.waiters → j ∈ s'.waiters ∨ Full (s'.sends j).mailbox

def Kept (s s':State) : Prop :=
 ∀ j,(s'.sends j).pc = .waiting → KeptCall s s' j

lemma Waiting.kept (h:Waiting s i) (hkept:KeptCall s s' i)
  (hcontrol:s'.closed=true→ s'.stopPosted=false→ s.closed=true∧s.stopPosted=false) : Waiting s' i := by
 obtain ⟨⟩:=h
 obtain ⟨-,⟨⟩,hkept⟩:=hkept
 constructor <;> grind[Full]

@[grind =] lemma mailbox_exit (s:State) (i:ℕ) (outcome:Outcome) (j:ℕ) :
  ((s.exit i outcome).sends j).mailbox=(s.sends j).mailbox := by
 rw[exit_sends,Function.update_apply]
 split
 · next heq => rw[heq]
 · rfl

@[grind =] lemma mailbox_setPc (s:State) (i:ℕ) (pc:Pc) (j:ℕ) :
  ((s.setPc i pc).sends j).mailbox=(s.sends j).mailbox := by
 grind[State.setPc]

@[grind =] lemma mailbox_setMailbox (s:State) (i:ℕ) (m:Mailbox) (j:ℕ) :
  ((s.setMailbox i m).sends j).mailbox=if j=i then m else (s.sends j).mailbox := by
 grind[State.setMailbox]

@[grind =] lemma waiters_setSend (s:State) (i:ℕ) (send:Send) : (s.setSend i send).waiters=s.waiters := rfl

@[grind =] lemma waiters_setPc (s:State) (i:ℕ) (pc:Pc) : (s.setPc i pc).waiters=s.waiters := rfl

@[grind =] lemma waiters_setMailbox (s:State) (i:ℕ) (m:Mailbox) : (s.setMailbox i m).waiters=s.waiters := rfl

@[grind =] lemma waiters_setConnection (s:State) (c:ℕ) (connection:Connection) :
  (s.setConnection c connection).waiters=s.waiters := rfl

@[grind =] lemma waiters_close (s:State) (c:ℕ) : (s.close c).waiters=s.waiters := rfl

@[grind =] lemma waiters_release (s:State) (c:ℕ) : (s.release c).waiters=s.waiters := rfl

attribute [grind =] exit_waiters wake_waiters

lemma kept_pump {u:State} (hu:∀ j,(u.sends j).pc=.waiting→(s.sends j).pc=.waiting ∧
  (u.sends j).mailbox=(s.sends j).mailbox∧(j∈s.waiters→ j∈u.waiters)) : Kept s (pump o u) := by
 intro j hj
 rw[pc_pump] at hj
 obtain ⟨hwaiting,hmailbox,hqueued⟩:=hu j hj
 obtain ⟨hmailed,hserved⟩:=mailed_pump (o := o) u j
 exact ⟨hwaiting,hmailbox▸hmailed,fun hmem=>hserved (hqueued hmem)⟩

lemma kept_removeWaiter {u:State} (hi:(u.sends i).pc≠ .waiting) (hu:∀ j,(u.sends j).pc=.waiting →
  (s.sends j).pc=.waiting∧(u.sends j).mailbox=(s.sends j).mailbox) (hw:u.waiters=s.waiters) :
  Kept s (removeWaiter o u i) := by
 refine kept_pump fun j hj=>⟨(hu j hj).1,(hu j hj).2,fun hmem=>?_⟩
 have hne:j≠i:=fun heq=>hi (heq▸hj)
 exact (mem_erase_of_ne hne).mpr (hw▸hmem)

lemma kept_step {l:Label} (h:step o s l=some s') (hl:∀ i,l≠ .acquire i) (hstop:l≠ .stopHandler) :
  Kept s s' := by
 have hrefl:=Mailed.refl
 have hwake:=mailed_wake
 cases l with
 | acquire i => exact absurd rfl (hl i)
 | stopHandler => exact absurd rfl hstop
 | tick now =>
  obtain ⟨-,heq⟩:=ite_none_right_eq_some.mp h
  cases heq
  exact fun j hj=>⟨hj,.refl _,.inl⟩
 | received i =>
  simp only[step] at h
  split at h <;> cases h
  next message hi hdelivered =>
  cases message <;> refine kept_removeWaiter ?_ ?_ ?_ <;> grind
 | receiveAborted i =>
  have heq:s'=removeWaiter o (s.exit i (.error .operationAborted)) i:=by grind[step,receiveAborted]
  rw[heq]
  refine kept_removeWaiter ?_ ?_ ?_ <;> grind
 | released c =>
  obtain ⟨-,heq⟩:=ite_none_right_eq_some.mp h
  cases heq
  exact kept_pump fun j hj=>⟨hj,rfl,id⟩
 | cancel i => grind[step,Kept,KeptCall]
 | signal i => grind[step,Kept,KeptCall]
 | send i => grind[step,Kept,KeptCall,beginSend]
 | timer i => grind[step,Kept,KeptCall]
 | dropMailbox i => grind[step,Kept,KeptCall,dropMailbox]
 | resume i => grind[step,Kept,KeptCall,coAwait]
 | admission i => grind[step,Kept,KeptCall,admission,coAwait]
 | resolved i error => cases error <;> grind[step,Kept,KeptCall,resolved,ioFailed,coAwait]
 | connected i error => cases error <;> grind[step,Kept,KeptCall,connected,ioFailed]
 | startWrite i => grind[step,Kept,KeptCall,startWrite]
 | wrote i error => cases error <;> grind[step,Kept,KeptCall,wrote,ioFailed]
 | startRead i => grind[step,Kept,KeptCall,startRead,coAwait]
 | gotResponse i bodySize keepAlive =>
  simp only[step,gotResponse] at h
  cases keepAlive <;> grind[Kept,KeptCall]
 | readFailed i error => grind[step,Kept,KeptCall,ioFailed]
 | leave i => grind[step,Kept,KeptCall,leave]
 | stop => grind[step,Kept,KeptCall,beginStop,completeStop,closeAll]
 | finish => grind[step,Kept,KeptCall,finish,completeStop]
 | closeHandler c => grind[step,Kept,KeptCall,closeHandler]
 | closedHandler => grind[step,Kept,KeptCall,closedHandler,completeStop]

lemma enqueue_mail (s:State) (i:ℕ) : ((enqueue o s i).sends i).mailbox.receiving=false ∧
  ((enqueue o s i).sends i).mailbox.delivered=none ∧
  (i∈(enqueue o s i).waiters∨Full ((enqueue o s i).sends i).mailbox) ∧
  ∀ j,j≠i→(s.sends j).pc=.waiting→ KeptCall s (enqueue o s i) j := by
 have hregister:((register s i).sends i).mailbox.receiving=false ∧
  ((register s i).sends i).mailbox.delivered=none∧(register s i).waiters=s.waiters ∧
  ∀ j,j≠i→((register s i).sends j).mailbox=(s.sends j).mailbox:=by
  unfold register
  split <;> grind[wake,Mailbox.trySend]
 obtain ⟨hreceiving,hdelivered,hwaiters,hother⟩:=hregister
 have hpump:=mailed_pump (o:=o) { register s i with waiters := (register s i).waiters++[i] }
 obtain ⟨hmailed,hqueued⟩:=hpump i
 refine ⟨hmailed.receiving.trans hreceiving,(hmailed.unread hreceiving).trans hdelivered,?_,fun j hj hwaiting=>?_⟩
 · exact hqueued (mem_append_right _ (mem_singleton_self i))
 · refine ⟨hwaiting,hother j hj▸(hpump j).1,fun hmem=>(hpump j).2 ?_⟩
   exact mem_append_left _ (hwaiters▸hmem)

lemma Waits.acquire (h:Waits s) : Waits (acquire o s i) := by
 obtain ⟨hreceiving,hdelivered,hqueued,hothers⟩:=enqueue_mail (o := o) s i
 have hcontrol:=control_enqueue o s i
 simp only[control,Control.mk.injEq] at hcontrol
 unfold HttpClient.acquire
 split_ifs with hclosed hsignalled
 · refine fun j hj=>(h j ?_).kept ⟨?_,?_,?_⟩ ?_ <;> grind[control_exit,control,Mailed.refl]
 · have hexit:=control_exit (enqueue o s i) i (.error .operationAborted)
   have hremove:=control_removeWaiter o ((enqueue o s i).exit i (.error .operationAborted)) i
   simp only[control,Control.mk.injEq] at hexit hremove
   have hkept:Kept (enqueue o s i) (removeWaiter o ((enqueue o s i).exit i (.error .operationAborted)) i):=by
    refine kept_removeWaiter ?_ ?_ ?_ <;> grind
   intro j hj
   have hne:j≠i:=by grind
   have hwaiting:(s.sends j).pc=.waiting:=by grind
   exact ((h j hwaiting).kept (hothers j hne hwaiting) (by grind)).kept (hkept j hj) (by grind)
 · intro j hj
   by_cases hne:j=i
   · subst hne
     constructor <;> grind[Mailbox.asyncReceive,Full,State.setMailbox,State.setSend]
   · have hwaiting:(s.sends j).pc=.waiting:=by grind
     have hkept:=(h j hwaiting).kept (hothers j hne hwaiting) (by grind)
     refine hkept.kept ⟨?_,?_,?_⟩ ?_ <;> grind[Mailed.refl,State.setMailbox,State.setSend]

lemma foldl_wake_woken (waiters:List ℕ) (s:State) (j:ℕ) :
  Mailed (s.sends j).mailbox ((waiters.foldl wake s).sends j).mailbox ∧
   (j∈waiters→ Full ((waiters.foldl wake s).sends j).mailbox) := by
 induction waiters generalizing s with
 | nil => exact ⟨.refl _,nofun⟩
 | cons w waiters ih =>
  obtain ⟨hmailed,hfull⟩:=ih (wake s w)
  refine ⟨(mailed_wake s w j).1.trans hmailed,fun hj=>?_⟩
  rcases mem_cons.mp hj with rfl | hj
  · exact hmailed.full (mailed_wake s j j).2
  · exact hfull hj

lemma foldl_wake_pc (waiters:List ℕ) (s:State) (j:ℕ) :
  ((waiters.foldl wake s).sends j).pc=(s.sends j).pc := by
 induction waiters generalizing s with
 | nil => rfl
 | cons w waiters ih => exact (ih _).trans (pc_wake s w j)

lemma Waits.step {l:Label} (h:Waits s) (hcounts:Counts s) (hstep:HttpClient.step o s l=some s') :
  Waits s' := by
 by_cases hacquire:∃ i,l=.acquire i
 · obtain ⟨i,rfl⟩:=hacquire
   have heq:s'=HttpClient.acquire o s i:=by grind[HttpClient.step]
   exact heq▸h.acquire
 by_cases hstop:l=.stopHandler
 · subst hstop
   obtain ⟨-,heq⟩:=ite_none_right_eq_some.mp hstep
   cases heq
   have hfinish (u:State) : (finish u).sends=u.sends∧(finish u).waiters=u.waiters:=by
    unfold finish
    split_ifs <;> exact ⟨rfl,rfl⟩
   obtain ⟨hsends,hwaiters⟩:=hfinish { s.waiters.foldl wake s with stopPosted := false }
   intro j hj
   have hmail:=foldl_wake_woken s.waiters s j
   have hpc:(s.sends j).pc=.waiting:=by
    rw[stopHandler,hsends] at hj
    exact (foldl_wake_pc s.waiters s j).symm.trans hj
   obtain ⟨hreceiving,horder,hqueued,-⟩:=h j hpc
   obtain ⟨⟨hr,ho,hd,-,-⟩,hfull⟩:=hmail
   constructor <;> grind[stopHandler,Full]
 have hkept:=kept_step hstep (fun i heq=>hacquire ⟨i,heq⟩) hstop
 intro j hj
 refine (h j (hkept j hj).waited).kept (hkept j hj) ?_
 cases hl:Label.stops l with
 | false =>
  have hcontrol:=(aloof_step hstep hl).control
  simp only[control,Control.mk.injEq] at hcontrol
  grind
 | true =>
  have hidle:=hcounts.idle
  have hj':=(hkept j hj).waited
  cases l with
  | send | leave => grind[HttpClient.step,beginSend,leave,State.setSend,State.setPc]
  | stop => grind[HttpClient.step,beginStop,completeStop,active]
  | finish => grind[HttpClient.step,finish,completeStop]
  | closeHandler => grind[HttpClient.step,closeHandler,State.close,State.setConnection]
  | closedHandler => grind[HttpClient.step,closedHandler,completeStop]
  | stopHandler => exact absurd rfl hstop
  | _ => cases hl

def Label.handler : Label → Prop
 | .stopHandler | .finish | .closeHandler _ | .closedHandler => True
 | _ => False

def work (s:State) : ℕ :=
 s.stopPosted.toNat + s.finishPosted + (if s.finishing then 0 else 2 * s.size) + 2 * s.closePosted.length + s.closedPosted

lemma work_finish (s:State) : work (finish s)≤work s := by
 grind[work,finish,completeStop]

lemma work_step {l:Label} (hl:Label.handler l) (hstep:step o s l=some s') : work s' < work s := by
 cases l with
 | stopHandler =>
  obtain ⟨hposted,heq⟩:=ite_none_right_eq_some.mp hstep
  cases heq
  obtain ⟨⟨hcontrol,-⟩,hsize,-⟩:=foldl_wake_frame s.waiters s
  simp only[control,Control.mk.injEq] at hcontrol
  refine Nat.lt_of_le_of_lt (work_finish _) ?_
  grind[work]
 | finish =>
  obtain ⟨hposted,heq⟩:=ite_none_right_eq_some.mp hstep
  cases heq
  refine Nat.lt_of_le_of_lt (work_finish _) ?_
  grind[work]
 | closeHandler c => grind[step,work,closeHandler,State.close,State.setConnection,length_erase_of_mem,length_pos_of_mem]
 | closedHandler => grind[step,work,closedHandler,completeStop]
 | _ => exact hl.elim

lemma Stopping.drained (h:Stopping s) (hclosed:s.closed=true) (hops:s.operations=0)
  (hidle:∀ l,Label.handler l→ HttpClient.step o s l=none) : s.drained=1 := by
 obtain ⟨⟨-,-,hafter⟩,hposted⟩:=h
 have hstop:=hidle .stopHandler trivial
 have hfinish:=hidle .finish trivial
 have hclose:=fun c=>hidle (.closeHandler c) trivial
 have hlast:=hidle .closedHandler trivial
 have hnone:s.closePosted=[]:=eq_nil_iff_forall_not_mem.mpr fun c hc=>
  nomatch (if_pos hc).symm.trans (hclose c)
 grind[HttpClient.step]

lemma Counts.zero (h:Counts s) (hidle:∀ i,active (s.sends i).pc=false) : s.operations=0 := by
 obtain ⟨calls,-,hcalls,hlength⟩:=h
 have hnil:calls=[]:=eq_nil_iff_forall_not_mem.mpr fun i hi=>by grind
 rw[← hlength,hnil,length_nil]

lemma closed_step {l:Label} (hclosed:s.closed=true) (hstep:step o s l=some s') :
  s'.closed=true∧∀ i,active (s'.sends i).pc=true→ active (s.sends i).pc=true := by
 cases hl:Label.stops l with
 | false =>
  have haloof:=aloof_step hstep hl
  have heq:s'.closed=s.closed:=congrArg Control.closed haloof.control
  exact ⟨heq.trans hclosed,fun i hi=>(haloof.active i).symm.trans hi⟩
 | true =>
  cases l with
  | send i => grind[step,beginSend,active]
  | leave i => grind[step,leave,active,State.setPc,State.setSend]
  | stop => grind[step,beginStop]
  | stopHandler =>
   have hframe:=(foldl_wake_frame s.waiters s).1
   have heq:(s.waiters.foldl wake s).closed=s.closed:=congrArg Control.closed hframe.control
   have hactive:=hframe.active
   grind[step,stopHandler,finish,completeStop]
  | finish => grind[step,finish,completeStop]
  | closeHandler c => grind[step,closeHandler,State.close,State.setConnection]
  | closedHandler => grind[step,closedHandler,completeStop]
  | _ => cases hl

structure Shutdown (s:State) : Prop where
 stopping : Stopping s
 waits : Waits s

lemma shutdown_exec {labels:List Label} (hrun:exec (step o) {} labels=some s) : Shutdown s := by
 refine exec_invariant (I := Shutdown)
  (fun s l s' h hstep=>⟨h.stopping.step hstep,h.waits.step h.stopping.counts hstep⟩) ?_ hrun
 refine ⟨⟨⟨⟨[],nodup_nil,fun i=>by simp[active],rfl⟩,fun _=>⟨rfl,rfl,rfl,rfl⟩,nofun⟩,nofun⟩,nofun⟩

/-- For every run: once a `Stop` has closed admission no call begins; the promise is
fulfilled at most once, and only with no call active and every connection closed; when the
stop handler has run, every call that waits for a connection has its message; and when no
call is active the posted handlers run out and have then fulfilled the promise. -/
theorem stop_contract (o:PoolOptions) {labels:List Label} {s:State}
  (hrun:exec (step o) {} labels = some s) :
  (s.closed = true → ∀ l s',step o s l = some s' →
   s'.closed = true ∧ ∀ i,active (s'.sends i).pc = true → active (s.sends i).pc = true) ∧
  s.drained ≤ 1 ∧
  (s.drained = 1 → s.closed = true ∧ (∀ i,active (s.sends i).pc = false) ∧
   ∀ c < s.size,(s.connections c).isOpen = false) ∧
  (s.closed = true → s.stopPosted = false → ∀ i,(s.sends i).pc = .waiting →
   (s.sends i).mailbox.delivered ≠ none) ∧
  (s.closed = true → (∀ i,active (s.sends i).pc = false) → ∀ ls s',(∀ l ∈ ls,Label.handler l) →
   exec (step o) s ls = some s' →
   ls.length ≤ work s ∧ ((∀ l,Label.handler l → step o s' l = none) → s'.drained = 1)) := by
 have h:=shutdown_exec hrun
 obtain ⟨hcounts,hbefore,hafter⟩:=h.stopping.toFinishable
 have hpromise:s.drained≤1∧(s.drained=1→ s.finishing=true∧s.closePosted.length=0):=by
  cases hfinishing:s.finishing with
  | false => simp[hbefore hfinishing]
  | true =>
   obtain ⟨-,-,hclosing,hdrained,-⟩:=hafter hfinishing
   split at hdrained <;> simp only[true_and] <;> omega
 refine ⟨fun hclosed l s' hstep=>closed_step hclosed hstep,hpromise.1,fun hdrained=>?_,
  fun hclosed hposted i hi=>?_,fun hclosed hnone ls s' hls hexec=>⟨?_,fun hdone=>?_⟩⟩
 · obtain ⟨hfinishing,hlength⟩:=hpromise.2 hdrained
   obtain ⟨hclosed,hops,-,-,hopen⟩:=hafter hfinishing
   rw[eq_nil_of_length_eq_zero hlength] at hopen
   exact ⟨hclosed,hcounts.idle hops,fun c hc=>hopen c hc not_mem_nil⟩
 · exact (h.waits i hi).woken hclosed hposted
 · have hwork:=exec_work (I:=fun _=>True) (fun _ _ _ _ _=>trivial) (fun _ _ _ _ hl hstep=>work_step hl hstep)
    trivial hls hexec
   omega
 · have hend:=shutdown_exec (exec_append hrun hexec)
   obtain ⟨hclosed',hnone'⟩:=exec_invariant (I := fun u=>u.closed=true∧∀ i,active (u.sends i).pc=false)
    (fun u l u' hu hstep=>by have hnext:=closed_step hu.1 hstep; grind) ⟨hclosed,hnone⟩ hexec
   exact hend.stopping.drained hclosed' (hend.stopping.counts.zero hnone') hdone

def stoppedRun : List Label :=
 [.send 0 "a" "80" "GET" none,.stop,.acquire 0,.leave 0,.stopHandler]

theorem stoppedRun_drained : ∃ s,exec (step ⟨{},by decide⟩) {} stoppedRun = some s ∧ s.drained = 1 ∧
  s.closed = true ∧ ∀ i,active (s.sends i).pc = false := by
 have hrun:exec (step ⟨{},by decide⟩) {} stoppedRun=some _:=rfl
 obtain ⟨-,-,hdrained,-⟩:=stop_contract _ hrun
 obtain ⟨hclosed,hactive,-⟩:=hdrained rfl
 exact ⟨_,hrun,rfl,hclosed,hactive⟩

end ServiceLib.HttpClientStop
