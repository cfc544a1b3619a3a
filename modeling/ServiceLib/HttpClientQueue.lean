import Mathlib.Algebra.Order.BigOperators.Group.Finset
import ServiceLib.HttpClientStop

set_option autoImplicit false
attribute [-instance] instBooleanRingBool

/-!
# The leases of an HTTP client over a whole run
-/
namespace ServiceLib.HttpClientLease
open HttpClient Transition List Option

inductive Event
 | arrived (i:ℕ)
 | leased (w c:ℕ)
 | returned (c:ℕ)
deriving DecidableEq

def arrivals (seen:List Event) : List ℕ :=
 seen.filterMap fun | .arrived i => some i | _ => none

def served (seen:List Event) : List ℕ :=
 seen.filterMap fun | .leased w _ => some w | _ => none

def created (seen:List Event) : List ℕ :=
 seen.filterMap fun | .leased _ c => some c | _ => none

def pumpLeases (o:PoolOptions) : List ℕ → State → List Event
 | [],_ => []
 | w :: waiters,s =>
  match available o s w with
  | none => []
  | some (c,s') => .leased w c :: pumpLeases o waiters (grant s' w c)

def leases (o:PoolOptions) (s:State) : List Event :=
 if s.closed then [] else pumpLeases o s.waiters s

def without (s:State) (i:ℕ) : State :=
 { s with waiters := s.waiters.erase i }

def arrive (s:State) (i:ℕ) : State :=
 { register s i with waiters := (register s i).waiters ++ [i] }

def free (s:State) (c:ℕ) : State :=
 { s.setConnection c { s.connections c with busy := false } with releases := s.releases.erase c }

def events (o:PoolOptions) (s:State) : Label → List Event
 | .acquire i =>
  if s.closed then []
  else .arrived i :: leases o (arrive s i) ++
   if (s.sends i).signalled then
    leases o (without ((enqueue o s i).exit i (.error .operationAborted)) i)
   else []
 | .received i =>
  let taken:=s.setMailbox i { (s.sends i).mailbox with delivered := none }
  match (s.sends i).mailbox.delivered with
  | some (some c) => leases o (without (taken.setPc i (.leased c)) i)
  | some none => leases o (without (taken.exit i (.error (.client (acquireError s i)))) i)
  | none => []
 | .receiveAborted i => leases o (without (s.exit i (.error .operationAborted)) i)
 | .released c => .returned c :: leases o (free s c)
 | _ => []

def Pc.begun : Pc → Bool
 | .idle | .acquiring => false
 | _ => true

structure Aside (s s':State) : Prop where
 waiters : s'.waiters = s.waiters
 size : s'.size = s.size
 busy : ∀ c,(s'.connections c).busy = (s.connections c).busy
 closed : s'.closed = false → s.closed = false
 begun : ∀ i,Pc.begun (s.sends i).pc = true → Pc.begun (s'.sends i).pc = true

structure Ledger (o:PoolOptions) (s:State) (seen:List Event) : Prop where
 size : s.size ≤ o.val.connections
 fresh : ∀ c,s.size ≤ c → (s.connections c).busy = false
 balance : ∀ c,(created seen).count c = seen.count (.returned c) + (s.connections c).busy.toNat
 order : (served seen ++ s.waiters).Sublist (arrivals seen)
 begun : ∀ i ∈ arrivals seen,Pc.begun (s.sends i).pc = true
 once : (arrivals seen).Nodup

/-- A waiter is left only where every connection there may be is leased. -/
def Stable (o:PoolOptions) (s:State) : Prop :=
 s.closed = false → s.waiters ≠ [] → s.size = o.val.connections ∧ ∀ c < s.size,(s.connections c).busy = true

variable {o:PoolOptions} {s s':State} {i c:ℕ} {seen:List Event}

lemma Aside.trans {u:State} (h:Aside s u) (h':Aside u s') : Aside s s' := by
 obtain ⟨⟩:=h
 obtain ⟨⟩:=h'
 constructor <;> grind

lemma Aside.refl (s:State) : Aside s s :=
 ⟨rfl,rfl,fun _=>rfl,id,fun _=>id⟩

lemma aside_setSend (s:State) {send:Send} (h:Pc.begun (s.sends i).pc=true→ Pc.begun send.pc=true) :
  Aside s (s.setSend i send) :=
 ⟨rfl,rfl,fun _=>rfl,id,fun j=>by grind⟩

lemma aside_setPc (s:State) (i:ℕ) {pc:Pc} (h:Pc.begun pc=true) : Aside s (s.setPc i pc) :=
 aside_setSend s fun _=>h

lemma aside_exit (s:State) (i:ℕ) (outcome:Outcome) : Aside s (s.exit i outcome) := by
 unfold State.exit
 split <;> exact ⟨rfl,rfl,fun _=>rfl,id,(aside_setPc s i rfl).begun⟩

lemma aside_wake (s:State) (i:ℕ) : Aside s (wake s i) := by
 unfold wake
 split
 · exact aside_setSend s id
 · exact .refl s

lemma aside_foldl_wake (waiters:List ℕ) (s:State) : Aside s (waiters.foldl wake s) := by
 induction waiters generalizing s with
 | nil => exact .refl s
 | cons w waiters ih => exact (aside_wake s w).trans (ih _)

lemma aside_register (s:State) (i:ℕ) : Aside s (register s i) := by
 unfold register
 split
 · exact (aside_setSend s fun _=>rfl).trans (aside_wake _ i)
 · exact aside_setSend s fun _=>rfl

lemma aside_close (s:State) (c:ℕ) : Aside s (s.close c) :=
 ⟨rfl,rfl,fun d=>by grind[State.close,Connection.close],id,fun _=>id⟩

lemma aside_setConnection (s:State) {connection:Connection} (h:connection.busy=(s.connections c).busy) :
  Aside s (s.setConnection c connection) :=
 ⟨rfl,rfl,fun d=>by grind,id,fun _=>id⟩

lemma aside_coAwait (s:State) (i:ℕ) {pc:Pc} (h:Pc.begun pc=true) : Aside s (coAwait s i pc) := by
 unfold coAwait
 split
 · exact aside_exit s i _
 · exact aside_setPc s i h

lemma aside_ioFailed (s:State) (i c:ℕ) (code:ClientErrorCode) (operation:String) (error:IoError) :
  Aside s (ioFailed s i c code operation error) :=
 (aside_close s c).trans (aside_exit _ i _)

lemma aside_finish (s:State) : Aside s (finish s) := by
 unfold finish
 split_ifs <;> exact ⟨rfl,rfl,fun _=>rfl,id,fun _=>id⟩

lemma aside_admission (s:State) (i c:ℕ) : Aside s (admission s i c) := by
 have hclosed:=(aside_close s c).trans (@aside_coAwait (s.close c) i (.resolving c) rfl)
 grind[admission,aside_exit,aside_setPc,Pc.begun]

lemma aside_resolved (s:State) (i c:ℕ) (error:Option IoError) : Aside s (resolved s i c error) := by
 cases error <;> grind[resolved,aside_exit,aside_coAwait,aside_ioFailed,Pc.begun]

lemma aside_connected (s:State) (i c:ℕ) (error:Option IoError) : Aside s (connected s i c error) := by
 cases error with
 | some error => exact aside_ioFailed s i c _ _ error
 | none =>
  have hset:Aside s (s.setConnection c { s.connections c with
   isOpen := true,host := (s.sends i).host,port := (s.sends i).port }) := aside_setConnection s rfl
  exact hset.trans (aside_setPc _ i rfl)

lemma aside_startWrite (s:State) (i c:ℕ) : Aside s (startWrite s i c) := by
 have hset:Aside s (s.setConnection c { s.connections c with
  outstanding := (s.connections c).outstanding++[i] }) := aside_setConnection s rfl
 have hwriting:=hset.trans (@aside_setPc _ i (.writing c) rfl)
 grind[startWrite,aside_exit]

lemma aside_wrote (s:State) (i c:ℕ) (error:Option IoError) : Aside s (wrote s i c error) := by
 cases error <;> grind[wrote,aside_setPc,aside_ioFailed,Pc.begun]

lemma aside_startRead (s:State) (i c:ℕ) : Aside s (startRead s i c) := by
 grind[startRead,aside_exit,aside_coAwait,Pc.begun]

lemma aside_gotResponse (s:State) (i c answers:ℕ) (rest:List ℕ) (bodySize:ℕ) (keepAlive:Bool) :
  Aside s (gotResponse o s i c answers rest bodySize keepAlive) := by
 have hpopped:Aside s (s.setConnection c { s.connections c with outstanding:=rest }) :=
  aside_setConnection s rfl
 unfold gotResponse
 split
 · exact (aside_close s c).trans (aside_exit _ i _)
 · refine Aside.trans ?_ (aside_exit _ i _)
   split
   · exact hpopped
   · exact hpopped.trans (aside_close _ c)

lemma aside_beginStop (s:State) : Aside s (beginStop s) := by
 unfold beginStop
 split_ifs
 · exact .refl s
 · refine ⟨rfl,rfl,fun c=>?_,fun hnot=>(by cases hnot),fun _=>id⟩
   by_cases hc:c < s.size <;> simp[completeStop,closeAll,hc,Connection.close]
 · exact ⟨rfl,rfl,fun _=>rfl,fun hnot=>(by cases hnot),fun _=>id⟩

def Label.Pumps : Label → Bool
 | .acquire _ | .received _ | .receiveAborted _ | .released _ => true
 | _ => false

lemma aside_step {l:Label} (h:step o s l=some s') (hl:Label.Pumps l=false) : Aside s s' := by
 cases l with
 | acquire | received | receiveAborted | released => cases hl
 | tick now =>
  obtain ⟨-,heq⟩:=ite_none_right_eq_some.mp h
  cases heq
  exact ⟨rfl,rfl,fun _=>rfl,id,fun _=>id⟩
 | cancel i =>
  have hset:Aside s (s.setSend i { s.sends i with cancelled:=true }) := aside_setSend s id
  have hwake:=hset.trans (aside_wake _ i)
  grind[step]
 | signal i =>
  cases h
  exact aside_setSend s id
 | send i host port method deadline =>
  have hops:Aside s { s with operations:=s.operations+1 } := ⟨rfl,rfl,fun _=>rfl,id,fun _=>id⟩
  have hidle (send:Send) (hi:(s.sends i).pc=.idle) : Aside s (s.setSend i send):=
   aside_setSend s fun hbegun=>by rw[hi] at hbegun; cases hbegun
  have hset (send:Send) (hi:(s.sends i).pc=.idle):=
   hops.trans (@aside_setSend i _ send fun hbegun=>by rw[hi] at hbegun; cases hbegun)
  grind[step,beginSend]
 | timer i => grind[step,aside_wake]
 | dropMailbox i =>
  have hdrop:Aside s (dropMailbox s i):=by
   unfold dropMailbox
   split <;> exact ⟨rfl,rfl,fun _=>rfl,id,fun j=>by grind[State.setMailbox]⟩
  grind[step]
 | resume i => grind[step,aside_coAwait,Pc.begun]
 | admission i => grind[step,aside_admission]
 | resolved i error => grind[step,aside_resolved]
 | connected i error => grind[step,aside_connected]
 | startWrite i => grind[step,aside_startWrite]
 | wrote i error => grind[step,aside_wrote]
 | startRead i => grind[step,aside_startRead]
 | gotResponse i bodySize keepAlive => grind[step,aside_gotResponse]
 | readFailed i error => grind[step,aside_ioFailed]
 | leave i =>
  have hleave (outcome:Outcome) : Aside s (leave s i outcome):=
   ⟨rfl,rfl,fun _=>rfl,id,(aside_setPc s i rfl).begun⟩
  grind[step]
 | stop =>
  cases h
  exact aside_beginStop s
 | stopHandler =>
  have hwoken:=aside_foldl_wake s.waiters s
  have hposted:Aside s { s.waiters.foldl wake s with stopPosted:=false } := ⟨hwoken.1,hwoken.2,hwoken.3,hwoken.4,hwoken.5⟩
  have hfinish:=hposted.trans (aside_finish _)
  grind[step,stopHandler]
 | finish =>
  have hposted:Aside s { s with finishPosted:=s.finishPosted - 1 } :=
   ⟨rfl,rfl,fun _=>rfl,id,fun _=>id⟩
  have hfinish:=hposted.trans (aside_finish _)
  grind[step]
 | closeHandler c =>
  have hclose:Aside s (closeHandler s c):=⟨rfl,rfl,(aside_close s c).busy,id,fun _=>id⟩
  grind[step]
 | closedHandler =>
  have hclosed:Aside s (closedHandler s):=by
   unfold closedHandler
   split <;> exact ⟨rfl,rfl,fun _=>rfl,id,fun _=>id⟩
  grind[step]

lemma Ledger.aside (h:Ledger o s seen) (haside:Aside s s') : Ledger o s' seen := by
 obtain ⟨⟩:=h
 obtain ⟨⟩:=haside
 constructor <;> grind

lemma Stable.aside (h:Stable o s) (haside:Aside s s') : Stable o s' := by
 obtain ⟨⟩:=haside
 grind[Stable]

lemma Ledger.without (h:Ledger o s seen) (i:ℕ) : Ledger o (without s i) seen :=
 { h with order := (List.Sublist.append_left erase_sublist _).trans h.order }

lemma begun_register (s:State) (i:ℕ) : Pc.begun ((register s i).sends i).pc=true := by
 have hcreated (send:Send) (hsend:send.pc=.waiting) : Pc.begun ((s.setSend i send).sends i).pc=true:=by
  grind[Pc.begun]
 unfold register
 split
 · exact (aside_wake _ i).begun i (hcreated _ rfl)
 · exact hcreated _ rfl

lemma busy_free (s:State) (c d:ℕ) :
  ((free s c).connections d).busy=if d=c then false else (s.connections d).busy := by
 change ((s.setConnection c _).connections d).busy=_
 rw[connections_setConnection]
 split <;> rfl

lemma grant_frame (s:State) (w c:ℕ) : (grant s w c).size=s.size ∧
  (∀ d,((grant s w c).connections d).busy=if d=c then true else (s.connections d).busy) ∧
  ∀ j,((grant s w c).sends j).pc=(s.sends j).pc := by
 unfold grant
 split <;> exact ⟨rfl,fun d=>by grind[State.setMailbox],fun j=>by grind[State.setMailbox]⟩

lemma Ledger.arrive (h:Ledger o s seen) (hi:Pc.begun (s.sends i).pc=false) :
  Ledger o (arrive s i) (seen++[.arrived i]) := by
 have hfresh:i∉arrivals seen:=fun hmem=>by rw[h.begun i hmem] at hi; cases hi
 obtain ⟨hsize,hconnections,hbalance,horder,hall,honce⟩:=h.aside (aside_register s i)
 have harrivals:arrivals (seen++[.arrived i])=arrivals seen++[i]:=by simp[arrivals]
 refine ⟨hsize,hconnections,fun c=>?_,?_,fun j hj=>?_,?_⟩
 · rw[count_append]
   simpa[created,HttpClientLease.arrive] using hbalance c
 · have hright:=horder.append_right [i]
   simpa[harrivals,served,HttpClientLease.arrive] using hright
 · rw[harrivals] at hj
   rcases mem_append.mp hj with hj | hj
   · exact hall j hj
   · rw[mem_singleton.mp hj]
     exact begun_register s i
 · rw[harrivals,← concat_eq_append]
   exact honce.concat hfresh

lemma Ledger.free (h:Ledger o s seen) (hc:(s.connections c).busy=true) :
  Ledger o (free s c) (seen++[.returned c]) := by
 obtain ⟨hsize,hfresh,hbalance,horder,hall,honce⟩:=h
 have harrivals:arrivals (seen++[.returned c])=arrivals seen:=by simp[arrivals]
 have hserved:served (seen++[.returned c])=served seen:=by simp[served]
 refine ⟨hsize,fun d hd=>?_,fun d=>?_,?_,harrivals▸hall,harrivals▸honce⟩
 · rw[busy_free,hfresh d hd,ite_self]
 · have hsum:=hbalance d
   rw[busy_free,count_append,count_singleton]
   by_cases hd:d=c
   · subst hd
     simpa[created,hc] using hsum
   · simpa[created,hd,Ne.symm hd] using hsum
 · rw[harrivals,hserved]
   exact horder

lemma Ledger.grant {w:ℕ} {waiters:List ℕ} (h:Ledger o { s with waiters := w::waiters } seen) (hlt:c < s.size)
  (hidle:(s.connections c).busy=false) :
  Ledger o { grant s w c with waiters := waiters } (seen++[.leased w c]) := by
 obtain ⟨hsize,hfresh,hbalance,horder,hall,honce⟩:=h
 obtain ⟨hsize',hbusy,hpc⟩:=grant_frame s w c
 refine ⟨hsize'.symm▸hsize,fun d hd=>(hbusy d).trans ?_,fun d=>?_,by simpa[served,arrivals] using horder,
  fun j hj=>?_,by simpa[arrivals] using honce⟩
 · have hd':s.size≤d:=hsize'▸hd
   rw[if_neg (by omega)]
   exact hfresh d hd'
 · have hsum:=hbalance d
   change _=_+((HttpClient.grant s w c).connections d).busy.toNat
   rw[hbusy]
   by_cases hd:d=c
   · subst hd
     simpa[created,hidle] using hsum
   · simpa[created,hd,Ne.symm hd] using hsum
 · change Pc.begun ((HttpClient.grant s w c).sends j).pc=true
   rw[hpc]
   exact hall j (by simpa[arrivals] using hj)

lemma Ledger.addConnection {waiters:List ℕ} (h:Ledger o { s with waiters := waiters } seen)
  (hroom:s.size < o.val.connections) :
  Ledger o { { s.setConnection s.size {} with size := s.size+1 } with waiters := waiters } seen := by
 have hnot:=h.fresh s.size (Nat.le_refl _)
 have hbusy (d:ℕ) : ((s.setConnection s.size {}).connections d).busy=(s.connections d).busy:=by grind
 exact { h with
  size := hroom
  fresh := fun d hd=>(hbusy d).trans (h.fresh d (Nat.le_of_succ_le hd))
  balance := fun d=>(h.balance d).trans (by rw[hbusy d]) }

lemma Ledger.pumpWaiters {waiters:List ℕ} (h:Ledger o { s with waiters := waiters } seen) :
  Ledger o (pumpWaiters o waiters s) (seen++pumpLeases o waiters s)∧Stable o (pumpWaiters o waiters s) := by
 induction waiters generalizing s seen with
 | nil => exact ⟨by rw[pumpLeases,append_nil]; exact h,fun _ hne=>absurd rfl hne⟩
 | cons w waiters ih =>
  unfold HttpClient.pumpWaiters pumpLeases
  cases havailable:available o s w with
  | none =>
   refine ⟨by simpa using h,fun _ _=>?_⟩
   have hsize:=h.size
   grind[available,idleAny]
  | some found =>
   obtain ⟨c,s₁⟩:=found
   have hgranted:Ledger o { HttpClient.grant s₁ w c with waiters:=waiters } (seen++[.leased w c]):=by
    obtain ⟨hlt,hidle,rfl⟩ | ⟨rfl,hroom,rfl⟩:=available_cases havailable
    · exact h.grant hlt hidle
    · exact (h.addConnection hroom).grant (Nat.lt_succ_self _) (by simp[State.setConnection])
   have hrest:=ih hgranted
   rw[append_assoc] at hrest
   exact hrest

lemma Ledger.pump (h:Ledger o s seen) : Ledger o (pump o s) (seen++leases o s)∧Stable o (pump o s) := by
 unfold HttpClient.pump leases
 cases hclosed:s.closed with
 | true => exact ⟨by simpa using h,fun hopen=>by rw[if_pos rfl,hclosed] at hopen; cases hopen⟩
 | false => exact h.pumpWaiters

structure Leasing (o:PoolOptions) (s:State) (seen:List Event) : Prop where
 pool : Pool s
 ledger : Ledger o s seen
 stable : Stable o s

lemma not_begun_of_acquiring (h:(s.sends i).pc=.acquiring) : Pc.begun (s.sends i).pc=false := by
 rw[h]
 rfl

lemma Ledger.enqueue (h:Ledger o s seen) (hi:Pc.begun (s.sends i).pc=false) :
  Ledger o (enqueue o s i) (seen++ .arrived i::leases o (HttpClientLease.arrive s i))∧Stable o (enqueue o s i) := by
 have hpump:=(h.arrive hi).pump
 rw[append_assoc] at hpump
 exact hpump

lemma Ledger.remove (h:Ledger o s seen) (haside:Aside s s') (i:ℕ) :
  Ledger o (removeWaiter o s' i) (seen++leases o (HttpClientLease.without s' i))∧Stable o (removeWaiter o s' i) :=
 ((h.aside haside).without i).pump

lemma Leasing.step {l:Label} (h:Leasing o s seen) (hstep:HttpClient.step o s l=some s') :
  Leasing o s' (seen++events o s l) := by
 have hpool:=pool_step h.pool hstep
 suffices hsuff:Ledger o s' (seen++events o s l)∧Stable o s' from ⟨hpool,hsuff.1,hsuff.2⟩
 cases hl:Label.Pumps l with
 | false =>
  have haside:=aside_step hstep hl
  have hnone:events o s l=[]:=by cases l <;> first | rfl | cases hl
  rw[hnone,append_nil]
  exact ⟨h.ledger.aside haside,h.stable.aside haside⟩
 | true =>
  cases l with
  | acquire i =>
   simp only[HttpClient.step] at hstep
   split at hstep <;> cases hstep
   next hi =>
   have henqueue:=h.ledger.enqueue (not_begun_of_acquiring hi)
   simp only[acquire,events]
   split_ifs
   · rw[append_nil]
     exact ⟨h.ledger.aside (aside_exit s i _),h.stable.aside (aside_exit s i _)⟩
   · have hremove:=henqueue.1.remove (aside_exit _ i (.error .operationAborted)) i
     rw[append_assoc] at hremove
     exact hremove
   · rw[append_nil]
     exact ⟨henqueue.1.aside (aside_setSend _ id),henqueue.2.aside (aside_setSend _ id)⟩
  | received i =>
   simp only[HttpClient.step] at hstep
   split at hstep <;> cases hstep
   next message hi hdelivered =>
   have htaken:Aside s (s.setMailbox i { (s.sends i).mailbox with delivered:=none }) := aside_setSend s id
   simp only[events,hdelivered]
   cases message with
   | some c => exact h.ledger.remove (htaken.trans (aside_setPc _ i rfl)) i
   | none => exact h.ledger.remove (htaken.trans (aside_exit _ i _)) i
  | receiveAborted i =>
   have heq:s'=removeWaiter o (s.exit i (.error .operationAborted)) i:=by
    grind[HttpClient.step,receiveAborted]
   rw[heq]
   exact h.ledger.remove (aside_exit s i _) i
  | released c =>
   obtain ⟨hc,heq⟩:=ite_none_right_eq_some.mp hstep
   cases heq
   have hpump:=(h.ledger.free (h.pool.1.busy (h:=.posted) hc)).pump
   rw[append_assoc] at hpump
   exact hpump
  | _ => cases hl

lemma Leasing.init (o:PoolOptions) : Leasing o {} [] :=
 ⟨pool_init,⟨Nat.zero_le _,fun _ _=>rfl,fun _=>rfl,.refl [],nofun,nodup_nil⟩,fun _ hne=>absurd rfl hne⟩

/-- The steps that bring on a lease which no running `Send` has: its waiter is resumed, the
channel of a call that has left `Acquire` dies, or its posted return runs. -/
def carries (s:State) : Label → Bool
 | .received i => (s.sends i).mailbox.delivered.join.isSome || (s.sends i).mailbox.slot.join.isSome
 | .dropMailbox i => (s.sends i).mailbox.slot.join.isSome
 | .released _ => true
 | _ => false

/-- The number of these steps until the lease is with a running `Send` or returned. -/
def Holder.left (s:State) : Holder → ℕ
 | .call _ .running => 0
 | .call _ .delivered => 1
 | .call i .slot => match (s.sends i).pc with
  | .waiting => 3
  | _ => 2
 | .posted => 1

lemma Holder.left_le (s:State) (x:Holder) : x.left s≤3 := by
 rcases x with ⟨i,_ | _ | _⟩ | _ <;> grind[Holder.left]

lemma exists_left_le (s:State) (c:ℕ) : ∃ n,∀ x,Holds s x c→ x.left s≤n :=
 ⟨3,fun x _=>x.left_le s⟩

open Classical in
noncomputable def toCarry (s:State) (c:ℕ) : ℕ :=
 Nat.find (exists_left_le s c)

open Classical in
lemma toCarry_le {n:ℕ} (h:∀ x,Holds s x c→ x.left s≤n) : toCarry s c≤n :=
 Nat.find_min' (exists_left_le s c) h

open Classical in
lemma left_le_toCarry {x:Holder} (hx:Holds s x c) : x.left s≤toCarry s c :=
 Nat.find_spec (exists_left_le s c) x hx

noncomputable def burden (s:State) : ℕ :=
 4 * s.waiters.length + (Finset.range s.size).sum (toCarry s)

lemma burden_le (s:State) : burden s≤4 * s.waiters.length+3 * s.size := by
 have hsum:(Finset.range s.size).sum (toCarry s)≤(Finset.range s.size).sum fun _=>3:=
  Finset.sum_le_sum fun c _=>toCarry_le fun x _=>x.left_le s
 rw[Finset.sum_const_nat fun _ _=>rfl,Finset.card_range] at hsum
 unfold burden
 omega

lemma burden_lt (hs:Leased s) (hsize:s'.size=s.size) (hw:s'.waiters.length≤ s.waiters.length)
  {y:Holder} (hy:Holds s y c) (hpos:0 < y.left s)
  (h:∀ x d,Holds s' x d→∃ z,Holds s z d∧x.left s'≤z.left s∧(d=c→ x.left s' < z.left s)) :
  burden s' < burden s := by
 have hle:∀ d,toCarry s' d≤toCarry s d:=fun d=>toCarry_le fun x hx=>by
  obtain ⟨z,hz,hle,-⟩:=h x d hx
  exact Nat.le_trans hle (left_le_toCarry hz)
 have hlt:toCarry s' c < toCarry s c:=by
  have hpos':=Nat.lt_of_lt_of_le hpos (left_le_toCarry hy)
  refine Nat.lt_of_le_of_lt (toCarry_le fun x hx=>?_) (Nat.sub_one_lt (Nat.ne_of_gt hpos'))
  obtain ⟨z,hz,-,hlt⟩:=h x c hx
  exact Nat.le_sub_one_of_lt (Nat.lt_of_lt_of_le (hlt rfl) (left_le_toCarry hz))
 have hmem:c∈Finset.range s.size:=Finset.mem_range.mpr (hs.lt_size (hs.busy hy))
 have hsum:(Finset.range s.size).sum (toCarry s') < (Finset.range s.size).sum (toCarry s):=
  Finset.sum_lt_sum (fun d _=>hle d) ⟨c,hmem,hlt⟩
 unfold burden
 rw[hsize]
 omega

lemma toCarry_grant (s:State) (w c:ℕ) {d:ℕ} (hd:d≠c) : toCarry (grant s w c) d≤toCarry s d := by
 have hpc:∀ i,((grant s w c).sends i).pc=(s.sends i).pc:=by grind[grant,State.setMailbox]
 have hholds:∀ x,Holds (grant s w c) x d↔Holds s x d:=by
  rintro (⟨i,place⟩ | _)
  · cases place <;> grind[Holds,leaseAt,grant,State.setMailbox,Mailbox.trySend]
  · grind[Holds,grant,State.setMailbox]
 have hleft:∀ x,Holder.left (grant s w c) x=Holder.left s x:=by
  rintro (⟨i,_ | _ | _⟩ | _) <;> simp only[Holder.left,hpc]
 exact toCarry_le fun x hx=>hleft x▸left_le_toCarry ((hholds x).mp hx)

lemma burden_pumpWaiters (waiters:List ℕ) (s:State) :
  burden (pumpWaiters o waiters s)≤burden { s with waiters := waiters } := by
 induction waiters generalizing s with
 | nil => exact Nat.le_refl _
 | cons w waiters ih =>
  unfold pumpWaiters
  split
  · exact Nat.le_refl _
  · next c s₁ havailable =>
    have hnew:(∀ d,toCarry s₁ d=toCarry s d)∧c∈Finset.range s₁.size∧(Finset.range s₁.size).erase c ⊆ Finset.range s.size:=by
     obtain ⟨hlt,-,rfl⟩ | ⟨rfl,-,rfl⟩:=available_cases havailable
     · exact ⟨fun _=>rfl,Finset.mem_range.mpr hlt,Finset.erase_subset _ _⟩
     · refine ⟨fun _=>rfl,Finset.mem_range.mpr (Nat.lt_succ_self _),fun d hd=>?_⟩
       simp only[Finset.mem_erase,Finset.mem_range] at hd ⊢
       omega
    obtain ⟨hsame,hmem,hsubset⟩:=hnew
    have hsum:(Finset.range s₁.size).sum (toCarry (grant s₁ w c))≤3+(Finset.range s.size).sum (toCarry s):=by
     rw[← Finset.add_sum_erase _ _ hmem]
     refine Nat.add_le_add (toCarry_le fun x _=>x.left_le _) (Nat.le_trans (Finset.sum_le_sum fun d hd=>?_)
      (Finset.sum_le_sum_of_subset hsubset))
     exact hsame d▸toCarry_grant s₁ w c (Finset.ne_of_mem_erase hd)
    have hsize:=(grant_frame s₁ w c).1
    refine Nat.le_trans (ih (grant s₁ w c)) ?_
    change 4 * waiters.length+(Finset.range (grant s₁ w c).size).sum (toCarry (grant s₁ w c))≤
     4 * (waiters.length+1)+(Finset.range s.size).sum (toCarry s)
    rw[hsize]
    omega

lemma burden_pump (s:State) : burden (pump o s)≤burden s := by
 unfold pump
 split
 · exact Nat.le_refl _
 · exact burden_pumpWaiters s.waiters s

lemma burden_lt_call (hs:Leased s) (hsize:s'.size=s.size) (hw:s'.waiters.length≤ s.waiters.length)
  {p:Place} (hp:leaseAt (s.sends i) p=some c) (hpos:0 < (Holder.call i p).left s)
  (hothers:∀ j,j≠i→ s'.sends j=s.sends j) (hposted:∀ d∈s'.releases,d∈s.releases∨d=c∧1 < (Holder.call i p).left s)
  (hcall:∀ place d,leaseAt (s'.sends i) place=some d→ d=c∧(Holder.call i place).left s' < (Holder.call i p).left s ∨
   leaseAt (s.sends i) place=some d∧place≠p∧(Holder.call i place).left s'≤(Holder.call i place).left s) :
  burden s' < burden s := by
 have honly:∀ x,Holds s x c→ x=.call i p:=fun x hx=>(hs.unique (h := .call i p) hp x hx).symm
 refine burden_lt hs hsize hw (y := .call i p) hp hpos ?_
 rintro (⟨j,place⟩ | _) d hd
 · by_cases hj:j=i
   · subst hj
     rcases hcall place d hd with ⟨rfl,hlt⟩ | ⟨hat,hne,hle⟩
     · exact ⟨.call j p,hp,Nat.le_of_lt hlt,fun _=>hlt⟩
     · refine ⟨.call j place,hat,hle,fun heq=>?_⟩
       cases honly (.call j place) (heq▸hat)
       exact absurd rfl hne
   · have hat:Holds s (.call j place) d:=(congrArg (leaseAt · place) (hothers j hj)).symm.trans hd
     refine ⟨_,hat,?_,fun heq=>?_⟩
     · cases place <;> simp only[Holder.left,hothers j hj,Nat.le_refl]
     · cases honly _ (heq▸hat)
       exact absurd rfl hj
 · rcases hposted d hd with hmem | ⟨rfl,hlt⟩
   · refine ⟨.posted,hmem,Nat.le_refl _,fun heq=>?_⟩
     cases honly .posted (heq▸hmem)
   · exact ⟨.call i p,hp,Nat.le_of_lt hlt,fun _=>hlt⟩

lemma exit_of_unleased (h:(s.sends i).pc.lease=none) (outcome:Outcome) :
  s.exit i outcome=s.setPc i (.leaving outcome) := by
 simp only[State.exit,h]

lemma burden_step {l:Label} (h:Pool s) (hl:carries s l=true) (hstep:step o s l=some s') : burden s' < burden s := by
 cases l with
 | received i =>
  simp only[step] at hstep
  split at hstep <;> cases hstep
  next message hpc hdelivered =>
  have hlength:(s.waiters.erase i).length≤ s.waiters.length:=length_erase_le
  rcases message with _ | c
  · obtain ⟨c,hslot⟩ : ∃ c,(s.sends i).mailbox.slot=some (some c):=by
     rcases hslot:(s.sends i).mailbox.slot with _ | _ | c <;> simp_all[carries]
    have hlease:((s.setMailbox i { (s.sends i).mailbox with delivered:=none }).sends i).pc.lease=none:=by
     simp[State.setMailbox,State.setSend,hpc,Pc.lease]
    rw[received,exit_of_unleased hlease]
    refine Nat.lt_of_le_of_lt (burden_pump _) (burden_lt_call (p := .slot) (i := i) (c := c) h.1 rfl hlength ?_ ?_ ?_ ?_ ?_)
    · simp[leaseAt,hslot]
    · simp[Holder.left,hpc]
    · grind[State.setPc,State.setMailbox,State.setSend]
    · exact fun d hd=>.inl hd
    · intro place d
      cases place <;> simp[leaseAt,Holder.left,hpc,hslot,Pc.lease,State.setPc,State.setMailbox,State.setSend]
      exact Eq.symm
  · refine Nat.lt_of_le_of_lt (burden_pump _) (burden_lt_call (p := .delivered) (i := i) (c := c) h.1 rfl hlength ?_ ?_ ?_ ?_ ?_)
    · simp[leaseAt,hdelivered]
    · exact Nat.one_pos
    · grind[State.setPc,State.setMailbox,State.setSend]
    · exact fun d hd=>.inl hd
    · intro place d
      cases place <;> simp[leaseAt,Holder.left,hpc,Pc.lease,State.setPc,State.setMailbox,State.setSend]
      exact Eq.symm
 | dropMailbox i =>
  obtain ⟨c,hslot⟩ : ∃ c,(s.sends i).mailbox.slot=some (some c):=by
   rcases hslot:(s.sends i).mailbox.slot with _ | _ | c <;> simp_all[carries]
  have heq:s'=(s.setMailbox i { (s.sends i).mailbox with slot:=none }).release c∧(s.sends i).pc≠ .waiting:=by
   grind[step,dropMailbox]
  obtain ⟨rfl,hpc⟩:=heq
  have hleft:(Holder.call i .slot).left s=2:=by grind[Holder.left]
  refine burden_lt_call (p := .slot) (i := i) (c := c) h.1 rfl (Nat.le_refl _) ?_ ?_ ?_ ?_ ?_
  · simp[leaseAt,hslot]
  · simp[hleft]
  · grind[State.setMailbox,State.setSend]
  · grind[State.setMailbox,State.setSend]
  · intro place d
    cases place <;> simp +contextual [leaseAt,Holder.left,State.setMailbox,State.setSend,State.release]
 | released c =>
  obtain ⟨hc,heq⟩:=ite_none_right_eq_some.mp hstep
  cases heq
  refine Nat.lt_of_le_of_lt (burden_pump _) (burden_lt h.1 rfl (Nat.le_refl _) (y := .posted) hc Nat.one_pos ?_)
  rintro (⟨i,place⟩ | _) d hd
  · have hat:Holds s (.call i place) d:=hd
    refine ⟨_,hat,Nat.le_refl _,?_⟩
    rintro rfl
    cases h.1.unique (h := .posted) hc _ hat
  · have hmem:=h.1.nodup.mem_erase_iff.mp hd
    exact ⟨.posted,hmem.2,Nat.le_refl _,fun heq=>absurd heq hmem.1⟩
 | _ => cases hl

lemma running_of_carried (h:Pool s) (hw:HttpClientStop.Waits s) (hnone:∀ l,carries s l=true→ step o s l=none)
  (hbusy:(s.connections c).busy=true) : ∃ i,(s.sends i).pc.lease=some c := by
 obtain ⟨x,hx⟩:=h.1.holder hbusy
 rcases x with ⟨i,_ | _ | _⟩ | _
 · exact ⟨i,hx⟩
 · have hdelivered:(s.sends i).mailbox.delivered=some (some c):=join_eq_some_iff.mp hx
   have hpc:=(h.2.received i (by simp[hdelivered])).2
   have hstuck:=hnone (.received i) (by simp[carries,hdelivered])
   simp[step,hpc,hdelivered] at hstuck
 · have hslot:(s.sends i).mailbox.slot=some (some c):=join_eq_some_iff.mp hx
   have hdrop:=hnone (.dropMailbox i) (by simp[carries,hslot])
   have hreceive:=hnone (.received i) (by simp[carries,hslot])
   have hunused:=h.2.unused i
   have hpc:(s.sends i).pc=.waiting:=by grind[step]
   obtain ⟨message,hdelivered⟩ : ∃ message,(s.sends i).mailbox.delivered=some message:=
    ne_none_iff_exists'.mp fun hd=>by cases hslot.symm.trans ((hw i hpc).order hd)
   simp[step,hpc,hdelivered] at hreceive
 · have hstuck:=hnone (.released c) rfl
   simp[step,show c∈s.releases from hx] at hstuck

/-- For every limit and every run of the pool: at most `connections` connections, each
leased to at most one request; every lease made was returned once, or is still in its one
place; the waiters were served in the order in which they came; and in a pool that is
not stopped a waiter is left only if all connections exist and are leased. A lease that
is not with a running `Send` does not stay there: the steps that bring such leases on, to
a running `Send` or back, are bounded, and when they have run out there is none. -/
theorem leasing_contract (o:PoolOptions) {labels:List Label} {s:State}
    (hrun:exec (step o) {} labels = some s) :
    let seen:=observe (step o) (fun s l _=>events o s l) {} labels
    s.size ≤ o.val.connections ∧
    (∀ c h h',Holds s h c → Holds s h' c → h = h') ∧
    (∀ c,(s.connections c).busy = true ↔ ∃ h,Holds s h c) ∧
    (∀ c,(created seen).count c = seen.count (.returned c) + (s.connections c).busy.toNat) ∧
    (arrivals seen).Nodup ∧ (served seen ++ s.waiters).Sublist (arrivals seen) ∧
    (s.closed = false → s.waiters ≠ [] →
      s.size = o.val.connections ∧ ∀ c < s.size,(s.connections c).busy = true) ∧
    ∀ ls s',Along (step o) (fun u l=>carries u l = true) s ls → exec (step o) s ls = some s' →
      ls.length ≤ 4 * s.waiters.length + 3 * s.size ∧
      ((∀ l,carries s' l = true → step o s' l = none) →
        ∀ c,(s'.connections c).busy = true → ∃ i,(s'.sends i).pc.lease = some c) := by
 have h:Leasing o s _:=exec_observe (I := Leasing o) (fun s l _=>events o s l)
  (fun _ _ _ _ hs hstep=>hs.step hstep) (.init o) hrun
 refine ⟨h.ledger.size,fun c x x' hx hx'=>h.pool.1.unique hx x' hx',fun c=>⟨h.pool.1.holder,?_⟩,h.ledger.balance,
  h.ledger.once,h.ledger.order,h.stable,fun ls s' hls hexec=>⟨?_,fun hnone c hbusy=>?_⟩⟩
 · rintro ⟨x,hx⟩
   exact h.pool.1.busy hx
 · have hwork:=exec_work_along (I:=Pool) (fun _ _ _ hu _ hstep=>pool_step hu hstep)
    (fun _ _ _ hu hl hstep=>burden_step hu hl hstep) h.pool hls hexec
   have hbound:=burden_le s
   omega
 · have hpool:=exec_invariant (I:=Pool) (fun _ _ _ hu hstep=>pool_step hu hstep) h.pool hexec
   exact running_of_carried hpool (HttpClientStop.shutdown_exec (exec_append hrun hexec)).waits hnone hbusy

/-- The second request waits for the only connection when it is cancelled; the lease it is
then given is in its channel, behind the null pointer that wakes it. -/
def discardedRun : List Label :=
 [.send 0 "a" "80" "GET" none,.acquire 0,.received 0,.send 1 "b" "80" "GET" none,.acquire 1,.cancel 1,
  .cancel 0,.resume 0,.admission 0,.released 0]

theorem discardedRun_leases : ∃ s s',exec (step ⟨{ connections := 1 },by decide⟩) {} discardedRun = some s ∧
  Holds s (.call 1 .slot) 0 ∧ (s.connections 0).busy = true ∧
  exec (step ⟨{ connections := 1 },by decide⟩) s [.received 1,.dropMailbox 1,.released 0] = some s' ∧
  (s'.connections 0).busy = false ∧ [Label.received 1,.dropMailbox 1,.released 0].length ≤ 3 * s.size := by
 have hrun:exec (step ⟨{ connections:=1 },by decide⟩) {} discardedRun=some _ := rfl
 obtain ⟨-,-,hbusy,-,-,-,-,hcarried⟩:=leasing_contract _ hrun
 have hlength:=(hcarried [.received 1,.dropMailbox 1,.released 0] _ ⟨rfl,fun _ h=>by cases h; exact ⟨rfl,fun _ h=>by
  cases h; exact ⟨rfl,fun _ _=>trivial⟩⟩⟩ rfl).1
 exact ⟨_,_,hrun,rfl,(hbusy 0).mpr ⟨.call 1 .slot,rfl⟩,rfl,rfl,hlength⟩

end ServiceLib.HttpClientLease
