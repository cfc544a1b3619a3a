import ServiceLib.HttpClient

set_option autoImplicit false
attribute [-instance] instBooleanRingBool

/-!
# Leases of the connection pool

A lease is always in exactly one place: a message in a waiter's channel, a local variable of
`Send`, or a posted return.
-/
namespace ServiceLib.HttpClientLease
open HttpClient Function List Option

inductive Place
 | running
 | delivered
 | slot
deriving DecidableEq

def leaseAt (send:Send) : Place → Option ℕ
 | .running => send.pc.lease
 | .delivered => send.mailbox.delivered.join
 | .slot => send.mailbox.slot.join

inductive Holder
 | call (i:ℕ) (place:Place)
 | posted
deriving DecidableEq

def Holds (s:State) : Holder → ℕ → Prop
 | .call i place,c => leaseAt (s.sends i) place = some c
 | .posted,c => c ∈ s.releases

structure Leases (s:State) (owner:ℕ → Option Holder) : Prop where
 holds : ∀ h c,Holds s h c ↔ owner c = some h
 nodup : s.releases.Nodup
 busy : ∀ c,(s.connections c).busy = (owner c).isSome
 fresh : ∀ c,s.size ≤ c → s.connections c = {}

def Leased (s:State) : Prop := ∃ owner,Leases s owner

variable {s s':State} {c i:ℕ} {send:Send} {m:Mailbox} {message:Message} {o:PoolOptions}

lemma Leased.unique (hs:Leased s) {h:Holder} (hc:Holds s h c)
  (h':Holder) (hc':Holds s h' c) : h=h' := by
 obtain ⟨owner,hs⟩:=hs
 have h₁:=(hs.holds h c).mp hc
 rw[(hs.holds h' c).mp hc'] at h₁
 exact (some.inj h₁).symm

lemma Leased.busy (hs:Leased s) {h:Holder} (hc:Holds s h c) :
  (s.connections c).busy=true := by
 obtain ⟨owner,hs⟩:=hs
 rw[hs.busy,(hs.holds h c).mp hc]
 rfl

lemma Leased.holder (hs:Leased s) (hc:(s.connections c).busy=true) : ∃ h,Holds s h c := by
 obtain ⟨owner,hs⟩:=hs
 rw[hs.busy] at hc
 obtain ⟨h,hh⟩:=isSome_iff_exists.mp hc
 exact ⟨h,(hs.holds h c).mpr hh⟩

lemma Leased.not_holds (hs:Leased s) (hc:(s.connections c).busy=false)
  (h:Holder) : ¬ Holds s h c := by
 intro hh
 rw[hs.busy hh] at hc
 cases hc

lemma Leased.lt_size (hs:Leased s) (hb:(s.connections c).busy=true) :
  c < s.size := by
 obtain ⟨owner,hs⟩:=hs
 by_contra hc
 rw[hs.fresh c (Nat.not_lt.mp hc)] at hb
 cases hb

/-- The lease of `c` moves to `x` and every other lease stays where it was. -/
lemma Leased.move (hs:Leased s) (c:ℕ) (x:Option Holder)
  (hh:∀ h c',Holds s' h c'↔if c'=c then x=some h else Holds s h c')
  (hn:s'.releases.Nodup)
  (hb:∀ c',(s'.connections c').busy=if c'=c then x.isSome else (s.connections c').busy)
  (hf:∀ c',s'.size≤c'→ s'.connections c'={}) : Leased s' := by
 obtain ⟨owner,hs⟩:=hs
 refine ⟨update owner c x,fun h c'=>?_,hn,fun c'=>?_,hf⟩
 · by_cases hc:c'=c
   · simp[hh,hc]
   · simp[hh,hc,hs.holds]
 · by_cases hc:c'=c
   · simp[hb,hc]
   · simp[hb,hc,hs.busy]

lemma Leased.stay (hs:Leased s) (hh:∀ h c,Holds s' h c↔Holds s h c)
  (hn:s'.releases.Nodup) (hb:∀ c,(s'.connections c).busy=(s.connections c).busy)
  (hf:∀ c,s'.size≤c→ s'.connections c={}) : Leased s' := by
 obtain ⟨owner,hs⟩:=hs
 exact ⟨owner,fun h c=>(hh h c).trans (hs.holds h c),hn,fun c=>(hb c).trans (hs.busy c),hf⟩

lemma Leased.nodup (hs:Leased s) : s.releases.Nodup := by
 obtain ⟨owner,hs⟩:=hs
 exact hs.nodup

lemma Leased.fresh (hs:Leased s) (hc:s.size≤c) : s.connections c={} := by
 obtain ⟨owner,hs⟩:=hs
 exact hs.fresh c hc

@[grind =] lemma sends_setSend (s:State) (i:ℕ) (send:Send) (j:ℕ) :
  (s.setSend i send).sends j=if j=i then send else s.sends j :=
 update_apply ..

@[grind =] lemma releases_setSend (s:State) (i:ℕ) (send:Send) :
  (s.setSend i send).releases=s.releases := rfl

@[grind =] lemma closed_setSend (s:State) (i:ℕ) (send:Send) :
  (s.setSend i send).closed=s.closed := rfl

@[grind =] lemma connections_setSend (s:State) (i:ℕ) (send:Send) (c:ℕ) :
  (s.setSend i send).connections c=s.connections c := rfl

@[grind =] lemma sends_release (s:State) (c j:ℕ) : (s.release c).sends j=s.sends j := rfl

@[grind =] lemma releases_release (s:State) (c:ℕ) : (s.release c).releases=s.releases++[c] := rfl

@[grind =] lemma connections_release (s:State) (c d:ℕ) :
  (s.release c).connections d=s.connections d := rfl

@[grind =] lemma closed_release (s:State) (c:ℕ) : (s.release c).closed=s.closed := rfl

@[grind =] lemma closed_setConnection (s:State) (c:ℕ) (connection:Connection) :
  (s.setConnection c connection).closed=s.closed := rfl

@[grind =] lemma sends_setConnection (s:State) (c:ℕ) (connection:Connection) (j:ℕ) :
  (s.setConnection c connection).sends j=s.sends j := rfl

@[grind =] lemma releases_setConnection (s:State) (c:ℕ) (connection:Connection) :
  (s.setConnection c connection).releases=s.releases := rfl

@[grind =] lemma connections_setConnection (s:State) (c:ℕ) (connection:Connection) (d:ℕ) :
  (s.setConnection c connection).connections d=if d=c then connection else s.connections d :=
 update_apply ..

lemma Leased.setSend (hs:Leased s)
  (hsame:∀ place,leaseAt send place=leaseAt (s.sends i) place) : Leased (s.setSend i send) := by
 refine hs.stay (fun h c=>?_) hs.nodup (fun _=>rfl) (fun _ hc=>hs.fresh hc)
 cases h <;> grind[Holds]

lemma Leased.setPc (hs:Leased s) {pc:Pc}
  (hp:pc.lease=(s.sends i).pc.lease) : Leased (s.setPc i pc) := by
 refine hs.setSend fun place=>?_
 cases place with
 | running => exact hp
 | delivered | slot => rfl

lemma Leased.dropLease (hs:Leased s) (place:Place)
  (hat:leaseAt (s.sends i) place=some c) (hnone:leaseAt send place=none)
  (hsame:∀ other,other≠place→ leaseAt send other=leaseAt (s.sends i) other) :
  Leased ((s.setSend i send).release c) := by
 have hheld:Holds s (.call i place) c:=hat
 have hbusy:=hs.busy hheld
 have hnodup:=hs.nodup
 refine hs.move c (some .posted) (fun h c'=>?_) ?_ (fun c'=>?_) (fun _ hc=>hs.fresh hc)
 · have honly:=hs.unique hheld h
   cases h <;> grind[Holds]
 · have honly:=hs.unique hheld .posted
   grind[Holds]
 · grind

lemma Leased.shiftLease (hs:Leased s) (place place':Place)
  (hat:leaseAt (s.sends i) place=some c) (hnone:leaseAt send place=none)
  (hto:leaseAt send place'=some c) (hempty:leaseAt (s.sends i) place'=none)
  (hsame:∀ other,other≠place→ other≠place' →
   leaseAt send other=leaseAt (s.sends i) other) :
  Leased (s.setSend i send) := by
 have hheld:Holds s (.call i place) c:=hat
 have hbusy:=hs.busy hheld
 refine hs.move c (some (.call i place')) (fun h c'=>?_) hs.nodup (fun c'=>?_) (fun _ hc=>hs.fresh hc)
 · have honly:=hs.unique hheld h
   cases h with
   | posted => grind[Holds]
   | call j other =>
    have hother:=hsame other
    grind +splitImp [Holds]
 · grind

lemma Leased.congr (hs:Leased s) (hsends:s'.sends=s.sends)
  (hr:s'.releases=s.releases) (hc:s'.connections=s.connections) (hsize:s'.size=s.size) :
  Leased s' := by
 refine hs.stay (fun h c=>?_) (hr▸hs.nodup) (fun c=>by rw[hc]) (fun c h=>?_)
 · cases h with
   | posted => simp only[Holds,hr]
   | call i place => simp only[Holds,hsends]
 · rw[hc]
   exact hs.fresh (hsize▸h)

lemma Leased.setConnection (hs:Leased s) {connection:Connection}
  (hb:connection.busy=(s.connections c).busy) (hlt:c < s.size) :
  Leased (s.setConnection c connection) := by
 refine hs.stay (fun h c'=>by cases h <;> rfl) hs.nodup (fun c'=>?_) (fun c' hc'=>?_)
 · grind
 · have hfresh:=hs.fresh hc'
   grind[State.setConnection]

lemma Leased.close (hs:Leased s) (c:ℕ) : Leased (s.close c) := by
 refine hs.stay (fun h c'=>by cases h <;> rfl) hs.nodup (fun c'=>?_) (fun c' hc'=>?_)
 · grind[State.close,Connection.close]
 · have hfresh:=hs.fresh hc'
   grind[State.close,Connection.close]

lemma Leased.exit (hs:Leased s) (i:ℕ) (outcome:Outcome) :
  Leased (s.exit i outcome) := by
 unfold State.exit
 split
 next c hl => exact hs.dropLease .running hl rfl fun other=>by cases other <;> simp[leaseAt]
 next hl => exact hs.setPc hl.symm

@[simp] lemma exit_sends (s:State) (i:ℕ) (outcome:Outcome) :
  (s.exit i outcome).sends=update s.sends i { s.sends i with pc := .leaving outcome } := by
 unfold State.exit
 split <;> rfl

@[simp] lemma exit_waiters (s:State) (i:ℕ) (outcome:Outcome) :
  (s.exit i outcome).waiters=s.waiters := by
 unfold State.exit
 split <;> rfl

lemma Leased.dropMailbox (hs:Leased s) (i:ℕ) : Leased (dropMailbox s i) := by
 unfold HttpClient.dropMailbox
 split
 next c hslot =>
  exact hs.dropLease .slot (by simp[leaseAt,hslot]) rfl fun other=>by cases other <;> simp[leaseAt]
 next hslot =>
  refine hs.setSend fun place=>?_
  rcases hm:(s.sends i).mailbox.slot with _ | _ | c
  · cases place <;> simp[leaseAt,hm]
  · cases place <;> simp[leaseAt,hm]
  · exact absurd hm (hslot c)

lemma Leased.released (hs:Leased s) (hc:c∈s.releases) :
  Leased { s.setConnection c { s.connections c with busy := false } with
   releases := s.releases.erase c } := by
 have hheld:Holds s .posted c:=hc
 have hlt:=hs.lt_size (hs.busy hheld)
 have hnodup:=hs.nodup
 refine hs.move c none (fun h c'=>?_) (hnodup.erase c) (fun c'=>?_) (fun c' hc'=>?_)
 · have honly:=hs.unique hheld h
   cases h <;> grind[Holds,State.setConnection,List.Nodup.mem_erase_iff]
 · grind[State.setConnection]
 · have hfresh:=hs.fresh hc'
   grind[State.setConnection]

lemma trySend_cases {m':Mailbox} (h:m.trySend message=some m') :
  (m.receiving=true∧m.delivered=none∧m'={ m with delivered := some message }) ∨
  (m.slot=none∧m'={ m with slot := some message }) := by
 unfold Mailbox.trySend at h
 split at h
 next hr => exact .inl ⟨hr.1,hr.2,(some.inj h).symm⟩
 next =>
  split at h
  next hslot => exact .inr ⟨hslot,(some.inj h).symm⟩
  next => cases h

@[simp] lemma wake_waiters (s:State) (i:ℕ) : (wake s i).waiters=s.waiters := by
 unfold wake
 split <;> rfl

lemma Leased.wake (hs:Leased s) (i:ℕ) : Leased (wake s i) := by
 unfold HttpClient.wake
 split
 next m hm =>
  refine hs.setSend fun place=>?_
  obtain ⟨-,hd,rfl⟩ | ⟨hslot,rfl⟩:=trySend_cases hm <;> cases place <;> simp[leaseAt, *]
 next => exact hs

lemma Leased.giveLease (hs:Leased s) (place:Place)
  (hidle:(s.connections c).busy=false) (hlt:c < s.size)
  (hempty:leaseAt (s.sends i) place=none) (hto:leaseAt send place=some c)
  (hsame:∀ other,other≠place→ leaseAt send other=leaseAt (s.sends i) other) :
  Leased ((s.setConnection c { s.connections c with busy := true }).setSend i send) := by
 refine hs.move c (some (.call i place)) (fun h c'=>?_) hs.nodup (fun c'=>?_) (fun c' hc'=>?_)
 · have hnot:=hs.not_holds hidle h
   cases h <;> grind[Holds]
 · grind
 · have hfresh:=hs.fresh hc'
   grind[State.setSend,State.setConnection]

lemma Leased.grant (hs:Leased s) (w:ℕ)
  (hidle:(s.connections c).busy=false) (hlt:c < s.size) : Leased (grant s w c) := by
 unfold HttpClient.grant
 split
 next m hm =>
  obtain ⟨-,hd,rfl⟩ | ⟨hslot,rfl⟩:=trySend_cases hm
  · exact hs.giveLease .delivered hidle hlt (by simp[leaseAt,hd]) rfl fun other ho=>by
     cases other <;> first | rfl | exact absurd rfl ho
  · exact hs.giveLease .slot hidle hlt (by simp[leaseAt,hslot]) rfl fun other ho=>by
     cases other <;> first | rfl | exact absurd rfl ho
 next =>
  have hnodup:=hs.nodup
  refine hs.move c (some .posted) (fun h c'=>?_) ?_ (fun c'=>?_) (fun c' hc'=>?_)
  · have hnot:=hs.not_holds hidle h
    cases h <;> grind[Holds]
  · have hnot:=hs.not_holds hidle .posted
    grind[Holds]
  · grind
  · have hfresh:=hs.fresh hc'
    grind[State.release,State.setConnection]

lemma available_cases {w:ℕ} (h:available o s w=some (c,s')) :
  (c < s.size∧(s.connections c).busy=false∧s'=s) ∨
  (c=s.size∧s.size < o.val.connections ∧
   s'={ s.setConnection s.size {} with size := s.size+1 }) := by
 grind[available,HttpClient.idleMatching,HttpClient.idleAny]

@[simp] lemma grant_waiters (s:State) (w c:ℕ) : (grant s w c).waiters=s.waiters := by
 unfold grant
 split <;> rfl

@[simp] lemma grant_closed (s:State) (w c:ℕ) : (grant s w c).closed=s.closed := by
 unfold grant
 split <;> rfl

/-- What survives a new connection, the grant of an idle one to a waiter, and the
removal of waiters from the front survives `Pump`. -/
lemma pumpWaiters_rule {P:State→ Prop}
  (hnew:∀ s,P s→ s.closed=false→ P { s.setConnection s.size {} with size := s.size+1 })
  (hgrant:∀ s w c,P s→ s.closed=false→ w∈s.waiters→ c < s.size →
   (s.connections c).busy=false→ P (grant s w c))
  (hpop:∀ s waiters,P s→ waiters <:+ s.waiters→ P { s with waiters := waiters })
  (hs:P s) (hc:s.closed=false) {waiters:List ℕ} (hw:waiters <:+ s.waiters) :
  P (pumpWaiters o waiters s) := by
 induction waiters generalizing s with
 | nil => exact hpop s [] hs hw
 | cons w waiters ih =>
  have hmem:w∈s.waiters:=hw.subset mem_cons_self
  have htail:waiters <:+ s.waiters:=(suffix_cons w waiters).trans hw
  unfold pumpWaiters
  split
  next => exact hpop s _ hs hw
  next c s' h =>
   obtain ⟨hlt,hidle,rfl⟩ | ⟨rfl,-,rfl⟩:=available_cases h
   · exact ih (hgrant _ w c hs hc hmem hlt hidle) (by simpa using hc) (by simpa using htail)
   · refine ih (hgrant _ w s.size (hnew s hs hc) hc hmem ?_ ?_) ?_ ?_
     · exact Nat.lt_succ_self _
     · simp[State.setConnection]
     · simpa[State.setConnection] using hc
     · simpa[State.setConnection] using htail

lemma pump_rule {P:State→ Prop}
  (hnew:∀ s,P s→ s.closed=false→ P { s.setConnection s.size {} with size := s.size+1 })
  (hgrant:∀ s w c,P s→ s.closed=false→ w∈s.waiters→ c < s.size →
   (s.connections c).busy=false→ P (grant s w c))
  (hpop:∀ s waiters,P s→ waiters <:+ s.waiters→ P { s with waiters := waiters })
  (hs:P s) : P (pump o s) := by
 unfold pump
 cases hc:s.closed with
 | true => exact hs
 | false => exact pumpWaiters_rule hnew hgrant hpop hs hc suffix_rfl

lemma Leased.addConnection (hs:Leased s) :
  Leased { s.setConnection s.size {} with size := s.size+1 } := by
 have hfresh:=hs.fresh (Nat.le_refl s.size)
 refine hs.stay (fun h c=>by cases h <;> rfl) hs.nodup (fun c=>?_) (fun c hc=>?_)
 · grind
 · have hnew:=hs.fresh (c:=c)
   grind

/-- The calls that wait for a lease are suspended in `Acquire`, each queued once; a call
that has not come there yet has an unused channel, and only one that waits has a message
for its receive. -/
structure Queue (sends:ℕ → Send) (waiters:List ℕ) : Prop where
 queued : ∀ w ∈ waiters,(sends w).pc = .waiting
 distinct : waiters.Nodup
 unused : ∀ i,(sends i).pc = .idle ∨ (sends i).pc = .acquiring → (sends i).mailbox = {}
 received : ∀ i,(sends i).mailbox.delivered ≠ none → (sends i).mailbox.receiving = true ∧ (sends i).pc = .waiting

namespace Queue

variable {sends:ℕ → Send} {waiters:List ℕ}

lemma update (h:Queue sends waiters) (hq:i∈waiters→ send.pc=.waiting)
  (hu:send.pc=.idle∨send.pc=.acquiring→ send.mailbox={})
  (hr:send.mailbox.delivered≠none→ send.mailbox.receiving=true∧send.pc=.waiting) :
  Queue (update sends i send) waiters := by
 obtain ⟨hqueued,hdistinct,hunused,hreceived⟩:=h
 constructor <;> grind

lemma sublist (h:Queue sends waiters) {waiters':List ℕ} (hs:waiters'.Sublist waiters) :
  Queue sends waiters' :=
 ⟨fun w hw=>h.queued w (hs.subset hw),h.distinct.sublist hs,h.unused,h.received⟩

lemma erase (h:Queue sends waiters)
  (hu:send.pc=.idle∨send.pc=.acquiring→ send.mailbox={})
  (hr:send.mailbox.delivered≠none→ send.mailbox.receiving=true∧send.pc=.waiting) :
  Queue (Function.update sends i send) (waiters.erase i) :=
 (h.sublist erase_sublist).update (fun hi=>absurd hi h.distinct.not_mem_erase) hu hr

lemma append (h:Queue sends waiters) (hi:i∉waiters) (hp:(sends i).pc=.waiting) :
  Queue sends (waiters++[i]) := by
 grind[Queue]

lemma not_mem (h:Queue sends waiters) (hp:(sends i).pc≠ .waiting) : i∉waiters :=
 fun hi=>hp (h.queued i hi)

lemma unreceived (h:Queue sends waiters) (i:ℕ) (hr:(sends i).mailbox.receiving=false) :
  (sends i).mailbox.delivered=none := by
 have hreceived:=h.received i
 grind

end Queue

def Pool (s:State) : Prop := Leased s ∧ Queue s.sends s.waiters

lemma trySend_unreceived {m':Mailbox} (h:m.trySend message=some m')
  (hm:m.receiving=false→ m.delivered=none) :
  m'.receiving=m.receiving∧(m'.receiving=false→ m'.delivered=none) := by
 obtain ⟨hr,-,rfl⟩ | ⟨-,rfl⟩:=trySend_cases h
 · exact ⟨rfl,fun h=>by rw[hr] at h; cases h⟩
 · exact ⟨rfl,hm⟩

lemma Queue.setMailbox (h:Queue s.sends s.waiters)
  (hp:(s.sends i).pc=.waiting) (hm:m.receiving=false→ m.delivered=none) :
  Queue (s.setMailbox i m).sends s.waiters :=
 h.update (fun _=>hp) (fun hpc=>by rw[hp] at hpc; obtain h | h := hpc <;> cases h) fun hd=>⟨by grind,hp⟩

lemma Pool.wake (h:Pool s) (hp:(s.sends i).pc=.waiting) :
  Pool (wake s i) := by
 refine ⟨h.1.wake i,?_⟩
 unfold HttpClient.wake
 split
 next m hm => exact h.2.setMailbox hp (trySend_unreceived hm (h.2.unreceived i)).2
 next => exact h.2

lemma Pool.grant (h:Pool s) {w:ℕ} (hw:w∈s.waiters) (hlt:c < s.size)
  (hidle:(s.connections c).busy=false) : Pool (grant s w c) := by
 refine ⟨h.1.grant w hidle hlt,?_⟩
 unfold HttpClient.grant
 split
 next m hm => exact h.2.setMailbox (h.2.queued w hw) (trySend_unreceived hm (h.2.unreceived w)).2
 next => exact h.2

lemma Pool.pump (h:Pool s) : Pool (pump o s) := by
 refine pump_rule (fun s hs _=>?_) (fun s w c hs _ hw hlt hidle=>hs.grant hw hlt hidle)
  (fun s waiters hs hsuffix=>?_) h
 · exact ⟨hs.1.addConnection,hs.2⟩
 · exact ⟨hs.1.congr rfl rfl rfl rfl,hs.2.sublist hsuffix.sublist⟩

lemma Pool.erased (h:Pool s) (send:Send)
  (hl:Leased s') (hsends:s'.sends=update s.sends i send)
  (hw:s'.waiters=s.waiters)
  (hu:send.pc=.idle∨send.pc=.acquiring→ send.mailbox={})
  (hd:send.mailbox.delivered=none) :
  Pool { s' with waiters := s'.waiters.erase i } := by
 refine ⟨hl.congr rfl rfl rfl rfl,?_⟩
 change Queue s'.sends (s'.waiters.erase i)
 rw[hsends,hw]
 exact h.2.erase hu fun hne=>absurd hd hne

lemma Pool.exitErased (h:Pool s) (hd:(s.sends i).mailbox.delivered=none) (outcome:Outcome) :
  Pool { s.exit i outcome with waiters := (s.exit i outcome).waiters.erase i } :=
 h.erased _ (h.1.exit i outcome) (exit_sends _ _ _) (exit_waiters _ _ _)
  (fun hpc=>by obtain h | h := hpc <;> cases h) hd

def core (send:Send) : Send := { send with mailbox := {} }

lemma core_pc {a b:Send} (h:core a=core b) : a.pc=b.pc := by
 have hpc:(core a).pc=(core b).pc:=by rw[h]
 exact hpc

/-- The pool touches a call only by sending to its channel. -/
def SameCalls (s s':State) : Prop :=
 ∀ i,core (s'.sends i) = core (s.sends i) ∧
  (s'.sends i).mailbox.receiving = (s.sends i).mailbox.receiving

lemma SameCalls.pc (h:SameCalls s s') (i:ℕ) : (s'.sends i).pc=(s.sends i).pc :=
 core_pc (h i).1

lemma SameCalls.trans {s'':State} (h:SameCalls s s') (h':SameCalls s' s'') :
  SameCalls s s'' :=
 fun i=>⟨(h' i).1.trans (h i).1,(h' i).2.trans (h i).2⟩

lemma sameCalls_setMailbox
  (hm:(s.sends i).mailbox.trySend message=some m) : SameCalls s (s.setMailbox i m) := by
 intro j
 by_cases hj:j=i
 · subst hj
   obtain ⟨-,-,rfl⟩ | ⟨-,rfl⟩:=trySend_cases hm <;>
    simp[State.setMailbox,State.setSend,core]
 · simp[State.setMailbox,State.setSend,hj]

lemma sameCalls_wake (s:State) (i:ℕ) : SameCalls s (wake s i) := by
 unfold wake
 split
 next m hm => exact sameCalls_setMailbox hm
 next => exact fun _=>⟨rfl,rfl⟩

lemma sameCalls_pump (o:PoolOptions) (s:State) : SameCalls s (pump o s) := by
 refine pump_rule (P := SameCalls s) (fun s' hs _=>hs) (fun s' w c hs _ _ _ _=>hs.trans ?_)
  (fun s' _ hs _=>hs) (fun _=>⟨rfl,rfl⟩)
 unfold grant
 split
 next m hm => exact sameCalls_setMailbox (s := s'.setConnection c _) hm
 next => exact fun _=>⟨rfl,rfl⟩

lemma Pool.lt_size (h:Pool s) (hl:(s.sends i).pc.lease=some c) :
  c < s.size :=
 h.1.lt_size (h.1.busy (show Holds s (.call i .running) c from hl))

lemma Pool.setSend (h:Pool s)
  (hbox:send.mailbox=(s.sends i).mailbox) (hl:send.pc.lease=(s.sends i).pc.lease)
  (hq:(s.sends i).pc=.waiting→ send.pc=.waiting)
  (hu:send.pc=.idle∨send.pc=.acquiring→(s.sends i).mailbox={}) :
  Pool (s.setSend i send) := by
 refine ⟨h.1.setSend fun place=>?_,h.2.update (fun hi=>hq (h.2.queued i hi)) (fun hpc=>hbox.trans (hu hpc)) ?_⟩
 · cases place with
   | running => exact hl
   | delivered | slot => simp only[leaseAt,hbox]
 · rw[hbox]
   exact fun hd=>⟨(h.2.received i hd).1,hq (h.2.received i hd).2⟩

lemma Pool.setPc (h:Pool s) {pc:Pc} (hp:(s.sends i).pc≠ .waiting)
  (hl:pc.lease=(s.sends i).pc.lease) (hne:pc≠ .idle∧pc≠ .acquiring) : Pool (s.setPc i pc) :=
 h.setSend rfl hl (fun hw=>absurd hw hp)
  (fun hpc=>by obtain h | h := hpc <;> simp_all)

lemma Pool.exit (h:Pool s) (hp:(s.sends i).pc≠ .waiting) (outcome:Outcome) :
  Pool (s.exit i outcome) := by
 refine ⟨h.1.exit i outcome,?_⟩
 rw[exit_sends,exit_waiters]
 exact h.2.update (fun hi=>absurd hi (h.2.not_mem hp))
  (fun hpc=>by obtain h | h := hpc <;> cases h) (fun hd=>absurd (h.2.received i hd).2 hp)

lemma Pool.close (h:Pool s) (c:ℕ) : Pool (s.close c) :=
 ⟨h.1.close c,h.2⟩

lemma Pool.setConnection (h:Pool s) (connection:Connection)
  (hb:connection.busy=(s.connections c).busy) (hlt:c < s.size) :
  Pool (s.setConnection c connection) :=
 ⟨h.1.setConnection hb hlt,h.2⟩

lemma Pool.coAwait (h:Pool s) {pc:Pc} (hp:(s.sends i).pc≠ .waiting)
  (hl:pc.lease=(s.sends i).pc.lease) (hne:pc≠ .idle∧pc≠ .acquiring) :
  Pool (coAwait s i pc) := by
 unfold HttpClient.coAwait
 split
 · exact h.exit hp _
 · exact h.setPc hp hl hne

lemma Pool.ioFailed (h:Pool s) (hp:(s.sends i).pc≠ .waiting)
  (code:ClientErrorCode) (operation:String) (error:IoError) :
  Pool (ioFailed s i c code operation error) :=
 (h.close c).exit hp _

lemma Pool.register (h:Pool s) (hp:(s.sends i).pc=.acquiring) :
  Pool (register s i)∧(register s i).waiters=s.waiters ∧
   ((register s i).sends i).pc=.waiting ∧
   ((register s i).sends i).mailbox.receiving=false := by
 let created:=s.setSend i { s.sends i with mailbox:={},pc := .waiting }
 have hbox:=h.2.unused i (.inr hp)
 have hcreated:Pool created:=by
  refine ⟨h.1.setSend fun place=>?_,h.2.update (fun _=>rfl)
   (fun hpc=>by obtain h | h := hpc <;> cases h) (fun hd=>absurd rfl hd)⟩
  cases place <;> simp[leaseAt,hp,hbox,Pc.lease]
 have hpc:(created.sends i).pc=.waiting:=by simp[created,State.setSend]
 have hrecv:(created.sends i).mailbox.receiving=false:=by simp[created,State.setSend]
 unfold HttpClient.register
 split
 · have hsame:=sameCalls_wake created i
   exact ⟨hcreated.wake hpc,wake_waiters _ _,(hsame.pc i).trans hpc,(hsame i).2.trans hrecv⟩
 · exact ⟨hcreated,rfl,hpc,hrecv⟩

lemma Pool.queued (h:Pool s) (hp:(s.sends i).pc=.acquiring) :
  Pool { HttpClient.register s i with waiters := (HttpClient.register s i).waiters++[i] } := by
 obtain ⟨hr,hw,hpc,-⟩:=h.register hp
 refine ⟨hr.1.congr rfl rfl rfl rfl,hr.2.append ?_ hpc⟩
 rw[hw]
 exact h.2.not_mem (by rw[hp]; exact Pc.noConfusion)

lemma Pool.enqueue (h:Pool s)
  (hp:(s.sends i).pc=.acquiring) :
  Pool (enqueue o s i)∧((enqueue o s i).sends i).pc=.waiting ∧
   ((enqueue o s i).sends i).mailbox.receiving=false := by
 obtain ⟨-,-,hpc,hrecv⟩:=h.register hp
 have hq:=h.queued hp
 have hsame:=sameCalls_pump o
  { HttpClient.register s i with waiters := (HttpClient.register s i).waiters++[i] }
 exact ⟨hq.pump,(hsame.pc i).trans hpc,(hsame i).2.trans hrecv⟩

lemma Leased.asyncReceive (hs:Leased s)
  (hd:(s.sends i).mailbox.delivered=none) :
  Leased (s.setMailbox i (s.sends i).mailbox.asyncReceive) := by
 unfold Mailbox.asyncReceive
 split
 next message hslot =>
  cases message with
  | none =>
   refine hs.setSend fun place=>?_
   cases place <;> simp[leaseAt,hd,hslot]
  | some c =>
   refine hs.shiftLease .slot .delivered (by simp[leaseAt,hslot]) rfl rfl (by simp[leaseAt,hd])
    fun other ho ho'=>?_
   cases other with
   | running => rfl
   | delivered => exact absurd rfl ho'
   | slot => exact absurd rfl ho
 next hslot =>
  refine hs.setSend fun place=>?_
  cases place <;> rfl

lemma Pool.acquire (h:Pool s)
  (hp:(s.sends i).pc=.acquiring) : Pool (acquire o s i) := by
 obtain ⟨hq,hpc,hrecv⟩:=h.enqueue (o := o) hp
 unfold HttpClient.acquire
 split
 · exact h.exit (by rw[hp]; exact Pc.noConfusion) _
 split
 · exact (hq.exitErased (hq.2.unreceived i hrecv) _).pump
 · refine ⟨hq.1.asyncReceive (hq.2.unreceived i hrecv),hq.2.setMailbox hpc fun hr=>?_⟩
   unfold Mailbox.asyncReceive at hr
   split at hr <;> cases hr

lemma Pool.taken (h:Pool s) (hp:(s.sends i).pc=.waiting)
    (hd:(s.sends i).mailbox.delivered=some (some c)) :
    let s':=(s.setMailbox i { (s.sends i).mailbox with delivered := none }).setPc i (.leased c)
    Pool { s' with waiters := s'.waiters.erase i }:=by
 intro s'
 have heq:s'=s.setSend i { s.sends i with
  mailbox := { (s.sends i).mailbox with delivered := none },pc := .leased c }:=by
  simp[s',State.setPc,State.setMailbox,State.setSend]
 have hl:Leased s':=by
  rw[heq]
  refine h.1.shiftLease .delivered .running (by simp[leaseAt,hd]) rfl rfl
   (by simp[leaseAt,hp,Pc.lease]) fun other ho ho'=>?_
  cases other with
  | running => exact absurd rfl ho'
  | delivered => exact absurd rfl ho
  | slot => rfl
 exact h.erased _ hl (by rw[heq]; rfl) rfl (fun hpc=>by obtain h | h := hpc <;> cases h) rfl

lemma Pool.woken (h:Pool s) (hp:(s.sends i).pc=.waiting)
  (hd:(s.sends i).mailbox.delivered=some none) :
  Pool (s.setMailbox i { (s.sends i).mailbox with delivered := none }) := by
 refine ⟨h.1.setSend fun place=>?_,h.2.setMailbox hp fun _=>rfl⟩
 cases place <;> simp[leaseAt,hd]

lemma Pool.received (h:Pool s)
  (hp:(s.sends i).pc=.waiting) (hd:(s.sends i).mailbox.delivered=some message) :
  Pool (received o s i message) := by
 cases message with
 | some c => exact (h.taken hp hd).pump
 | none => exact ((h.woken hp hd).exitErased (by simp[State.setMailbox,State.setSend]) _).pump

lemma Pool.dropMailbox (h:Pool s)
  (hp:(s.sends i).pc≠ .idle∧(s.sends i).pc≠ .acquiring) : Pool (dropMailbox s i) := by
 refine ⟨h.1.dropMailbox i,?_⟩
 have hq:Queue (update s.sends i
  { s.sends i with mailbox := { (s.sends i).mailbox with slot := none } }) s.waiters :=
  h.2.update (fun hi=>h.2.queued i hi) (fun hpc=>by obtain hpc | hpc := hpc <;> simp_all)
   (h.2.received i)
 unfold HttpClient.dropMailbox
 split <;> exact hq

lemma Pool.foldl_wake (h:Pool s) (waiters:List ℕ)
  (hw:∀ w∈waiters,(s.sends w).pc=.waiting) : Pool (waiters.foldl HttpClient.wake s) := by
 induction waiters generalizing s with
 | nil => exact h
 | cons w waiters ih =>
  refine ih (h.wake (hw w mem_cons_self)) fun v hv=>?_
  rw[(sameCalls_wake s w).pc v]
  exact hw v (mem_cons_of_mem w hv)

lemma Pool.congr (h:Pool s) (hsends:s'.sends=s.sends)
  (hr:s'.releases=s.releases) (hc:s'.connections=s.connections) (hsize:s'.size=s.size)
  (hw:s'.waiters=s.waiters) : Pool s' := by
 refine ⟨h.1.congr hsends hr hc hsize,?_⟩
 rw[hsends,hw]
 exact h.2

lemma Pool.finish (h:Pool s) : Pool (finish s) := by
 unfold HttpClient.finish
 split
 · exact h
 split
 · exact h
 split <;> exact h.congr rfl rfl rfl rfl rfl

lemma Pool.closeAll (h:Pool s) : Pool (closeAll s) := by
 refine ⟨h.1.stay (fun x c=>?_) h.1.nodup (fun c=>?_) (fun c hc=>?_),h.2⟩
 · cases x <;> rfl
 · by_cases hc:c < s.size <;> simp[HttpClient.closeAll,hc,Connection.close]
 · have hc':¬ c < s.size:=Nat.not_lt.mpr hc
   simp only[HttpClient.closeAll,hc',↓reduceIte]
   exact h.1.fresh hc

lemma Pool.beginSend (h:Pool s)
  (hp:(s.sends i).pc=.idle) (host port method:String) (contextDeadline:Option ℤ) :
  Pool (beginSend o s i host port method contextDeadline) := by
 have hbox:=h.2.unused i (.inl hp)
 unfold HttpClient.beginSend
 split
 · exact h.setSend rfl (by rw[hp]; rfl) (fun hw=>by rw[hp] at hw; cases hw) (fun _=>hbox)
 · have hops:Pool { s with operations:=s.operations+1 } := h.congr rfl rfl rfl rfl rfl
   exact hops.setSend rfl (by rw[hp]; rfl) (fun hw=>by rw[hp] at hw; cases hw) (fun _=>hbox)

lemma Pool.admission (h:Pool s) (hp:(s.sends i).pc=.entered c) :
  Pool (admission s i c) := by
 grind[HttpClient.admission,Pool.exit,Pool.coAwait,Pool.setPc,Pool.close,State.close,Pc.lease]

lemma Pool.resolved (h:Pool s) (hp:(s.sends i).pc=.resolving c)
  (error:Option IoError) : Pool (resolved s i c error) := by
 cases error <;> grind[HttpClient.resolved,Pool.exit,Pool.coAwait,Pool.ioFailed,Pc.lease]

lemma Pool.connected (h:Pool s) (hp:(s.sends i).pc=.connecting c)
  (error:Option IoError) : Pool (connected s i c error) := by
 have hlt:c < s.size:=h.lt_size (by rw[hp]; rfl)
 cases error <;> grind[HttpClient.connected,Pool.ioFailed,Pool.setPc,Pool.setConnection,Pc.lease]

lemma Pool.startWrite (h:Pool s) (hp:(s.sends i).pc=.ready c) :
  Pool (startWrite s i c) := by
 have hlt:c < s.size:=h.lt_size (by rw[hp]; rfl)
 grind[HttpClient.startWrite,Pool.exit,Pool.setPc,Pool.setConnection,Pc.lease]

lemma Pool.wrote (h:Pool s) (hp:(s.sends i).pc=.writing c)
  (error:Option IoError) : Pool (wrote s i c error) := by
 cases error <;> grind[HttpClient.wrote,Pool.ioFailed,Pool.setPc,Pc.lease]

lemma Pool.startRead (h:Pool s) (hp:(s.sends i).pc=.written c) :
  Pool (startRead s i c) := by
 grind[HttpClient.startRead,Pool.exit,Pool.coAwait,Pc.lease]

lemma Pool.gotResponse (h:Pool s)
  (hp:(s.sends i).pc=.reading c) (answers:ℕ) (rest:List ℕ) (bodySize:ℕ) (keepAlive:Bool) :
  Pool (gotResponse o s i c answers rest bodySize keepAlive) := by
 have hlt:c < s.size:=h.lt_size (by rw[hp]; rfl)
 grind[HttpClient.gotResponse,Pool.exit,Pool.close,Pool.setConnection,State.close,Pc.lease]

lemma Pool.leave (h:Pool s) {outcome:Outcome}
  (hp:(s.sends i).pc=.leaving outcome) : Pool (leave s i outcome) := by
 have hops:Pool { s with
  operations := s.operations - 1
  finishPosted := if s.closed∧s.operations=1 then s.finishPosted+1 else s.finishPosted } :=
  h.congr rfl rfl rfl rfl rfl
 refine hops.setPc ?_ ?_ (by simp)
 · change (s.sends i).pc≠ .waiting
   rw[hp]
   exact Pc.noConfusion
 · change _=(s.sends i).pc.lease
   rw[hp]
   rfl

lemma Pool.beginStop (h:Pool s) : Pool (beginStop s) := by
 unfold HttpClient.beginStop
 split
 · exact h
 split
 · exact h.closeAll.congr rfl rfl rfl rfl rfl
 · exact h.congr rfl rfl rfl rfl rfl

lemma Pool.released (h:Pool s) (hc:c∈s.releases) : Pool (released o s c) :=
 Pool.pump ⟨h.1.released hc,h.2⟩

lemma Pool.stopHandler (h:Pool s) : Pool (stopHandler s) :=
 Pool.finish ((h.foldl_wake s.waiters h.2.queued).congr rfl rfl rfl rfl rfl)

lemma Pool.closedHandler (h:Pool s) : Pool (closedHandler s) := by
 unfold HttpClient.closedHandler
 split <;> exact h.congr rfl rfl rfl rfl rfl

lemma pool_step {l:Label} (h:Pool s)
  (hstep:step o s l=some s') : Pool s' := by
 cases l with
 | tick now =>
  have hnow:Pool { s with now:=now } := h.congr rfl rfl rfl rfl rfl
  grind[step]
 | cancel i | signal i =>
  have hq:=h.2.queued i
  have hu:=h.2.unused i
  grind[step,Pool.wake,Pool.setSend]
 | send i host port method contextDeadline => grind[step,Pool.beginSend]
 | acquire i => grind[step,Pool.acquire]
 | timer i => grind[step,Pool.wake]
 | received i => grind[step,Pool.received]
 | receiveAborted i => grind[step,receiveAborted,removeWaiter,Pool.exitErased,Pool.pump]
 | dropMailbox i => grind[step,Pool.dropMailbox]
 | resume i => grind[step,Pool.coAwait,Pc.lease]
 | admission i => grind[step,Pool.admission]
 | resolved i error => grind[step,Pool.resolved]
 | connected i error => grind[step,Pool.connected]
 | startWrite i => grind[step,Pool.startWrite]
 | wrote i error => grind[step,Pool.wrote]
 | startRead i => grind[step,Pool.startRead]
 | gotResponse i bodySize keepAlive => grind[step,Pool.gotResponse]
 | readFailed i error => grind[step,Pool.ioFailed]
 | leave i => grind[step,Pool.leave]
 | stop => grind[step,Pool.beginStop]
 | released c => grind[step,Pool.released]
 | stopHandler => grind[step,Pool.stopHandler]
 | finish =>
  have hposted:Pool { s with finishPosted:=s.finishPosted - 1 } := h.congr rfl rfl rfl rfl rfl
  grind[step,Pool.finish]
 | closeHandler c =>
  have hclosed:Pool (closeHandler s c):=(h.close c).congr rfl rfl rfl rfl rfl
  grind[step]
 | closedHandler => grind[step,Pool.closedHandler]

lemma pool_init : Pool {} := by
 refine ⟨⟨fun _=>none,fun h c=>?_,nodup_nil,fun _=>rfl,fun _ _=>rfl⟩,
  ⟨fun w hw=>?_,nodup_nil,fun _ _=>rfl,fun _ hd=>absurd rfl hd⟩⟩
 · cases h with
   | posted => simp[Holds]
   | call i place => cases place <;> simp[Holds,leaseAt,Pc.lease]
 · cases hw

end ServiceLib.HttpClientLease
