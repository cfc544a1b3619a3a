import ServiceLib.HttpClientLease

set_option autoImplicit false
attribute [-instance] instBooleanRingBool

/-!
# Whose answer a pooled connection carries

A connection may be leased again only when no request is outstanding on it. One exit of `Send`
breaks this: between the end of the write and the start of the read it leaves the connection open.
-/
namespace ServiceLib.HttpClientWire
open Transition HttpClient HttpClientLease Option

def pending (i:ℕ) : Pc → List ℕ
 | .writing _ | .written _ | .reading _ => [i]
 | .idle | .acquiring | .waiting | .leased _ | .entered _ | .resolving _ | .connecting _ | .ready _
 | .leaving _ | .finished _ => []

structure Wire (s:State) : Prop where
 running : ∀ i c,(s.sends i).pc.lease = some c →
  (s.connections c).outstanding = [] ∨ (s.connections c).outstanding = pending i (s.sends i).pc
 mailed : ∀ i c place,place ≠ .running → leaseAt (s.sends i) place = some c →
  (s.connections c).outstanding = []
 returned : ∀ c,c ∈ s.releases ∨ (s.connections c).busy = false →
  s.closed = true ∨ (s.connections c).outstanding = []
 answers : ∀ i r,(s.sends i).pc = .leaving (.ok r) ∨ (s.sends i).pc = .finished (.ok r) →
  r.answers = i

variable {s:State} {i c:ℕ} {pc:Pc} {o:PoolOptions}

lemma Wire.close (h:Wire s) (c:ℕ) : Wire (s.close c) := by
 obtain ⟨hrun,hmail,hret,hans⟩:=h
 constructor <;> grind[State.close,Connection.close]

lemma Wire.congr {s':State} (h:Wire s) (hsends:s'.sends=s.sends)
  (hr:s'.releases=s.releases) (hc:s'.connections=s.connections)
  (hclosed:s.closed=true→ s'.closed=true) : Wire s' := by
 refine ⟨?_,?_,fun c=>?_,?_⟩ <;> simp only[hsends,hr,hc]
 · exact h.running
 · exact h.mailed
 · exact fun hret=>(h.returned c hret).imp_left hclosed
 · exact h.answers

lemma Wire.setSend (h:Wire s) {send:Send}
  (hrun:∀ c,send.pc.lease=some c →
   (s.connections c).outstanding=[]∨(s.connections c).outstanding=pending i send.pc)
  (hmail:∀ c place,place≠ .running→ leaseAt send place=some c →
   (s.connections c).outstanding=[])
  (hans:∀ r,send.pc=.leaving (.ok r)∨send.pc=.finished (.ok r)→ r.answers=i) :
  Wire (s.setSend i send) := by
 obtain ⟨_,_,hret,_⟩:=h
 constructor <;> grind

lemma Wire.setConnection (hp:Pool s) (h:Wire s) {connection:Connection}
  (hl:(s.sends i).pc.lease=some c) (hb:connection.busy=(s.connections c).busy)
  (ho:connection.outstanding=[]∨connection.outstanding=pending i (s.sends i).pc) :
  Wire (s.setConnection c connection) := by
 have hheld:Holds s (.call i .running) c:=hl
 have hbusy:=hp.1.busy hheld
 have hcall:∀ j place,leaseAt (s.sends j) place=some c→ j=i∧place=.running:=by
  intro j place hj
  cases hp.1.unique hheld (.call j place) hj
  exact ⟨rfl,rfl⟩
 have honly:∀ j,(s.sends j).pc.lease=some c→ j=i:=fun j hj=>(hcall j .running hj).1
 have hposted:c∉s.releases:=fun hc=>nomatch hp.1.unique hheld .posted hc
 obtain ⟨hrun,hmail,hret,hans⟩:=h
 constructor <;> grind

lemma Wire.mailed_of_mailbox (h:Wire s) {send:Send}
  (hm:send.mailbox=(s.sends i).mailbox) (c:ℕ) (place:Place) (hne:place≠ .running)
  (hl:leaseAt send place=some c) : (s.connections c).outstanding=[] := by
 refine h.mailed i c place hne ?_
 cases place with
 | running => exact absurd rfl hne
 | delivered | slot =>
  simp only[leaseAt,hm] at hl
  exact hl

lemma Wire.setPc (h:Wire s)
  (hrun:∀ c,pc.lease=some c →
   (s.connections c).outstanding=[]∨(s.connections c).outstanding=pending i pc)
  (hans:∀ r,pc=.leaving (.ok r)∨pc=.finished (.ok r)→ r.answers=i) :
  Wire (s.setPc i pc) :=
 h.setSend hrun (h.mailed_of_mailbox rfl) hans

lemma Wire.release (h:Wire s) (hclean:s.closed=true∨(s.connections c).outstanding=[]) :
  Wire (s.release c) := by
 obtain ⟨hrun,hmail,hret,hans⟩:=h
 constructor <;> grind

lemma Wire.exit (h:Wire s) {outcome:Outcome}
  (hclean:∀ c,(s.sends i).pc.lease=some c →
   s.closed=true∨(s.connections c).outstanding=[])
  (hans:∀ r,outcome=.ok r→ r.answers=i) : Wire (s.exit i outcome) := by
 have hset:Wire (s.setPc i (.leaving outcome)):=by
  refine h.setPc (fun c hl=>by cases hl) (fun r hr=>?_)
  rcases hr with hr | hr
  · exact hans r (Pc.leaving.inj hr)
  · cases hr
 unfold State.exit
 split
 next c hl => exact hset.release (hclean c hl)
 next => exact hset

lemma Wire.trySend (h:Wire s) {message:Message} {m:Mailbox}
  (hm:(s.sends i).mailbox.trySend message=some m)
  (hclean:∀ c,message=some c→(s.connections c).outstanding=[]) : Wire (s.setMailbox i m) := by
 refine h.setSend (h.running i) (fun c place hne hl=>?_) (h.answers i)
 rcases trySend_cases hm with ⟨-,-,rfl⟩ | ⟨-,rfl⟩
 · cases place with
   | running => exact absurd rfl hne
   | delivered =>
    change (some message).join=some c at hl
    exact hclean c hl
   | slot => exact h.mailed i c .slot hne hl
 · cases place with
   | running => exact absurd rfl hne
   | delivered => exact h.mailed i c .delivered hne hl
   | slot =>
    change (some message).join=some c at hl
    exact hclean c hl

lemma Wire.wake (h:Wire s) (i:ℕ) : Wire (wake s i) := by
 unfold HttpClient.wake
 split
 next m hm => exact h.trySend hm (fun c hc=>by cases hc)
 next => exact h

lemma Wire.foldl_wake (h:Wire s) (waiters:List ℕ) :
  Wire (waiters.foldl HttpClient.wake s) := by
 induction waiters generalizing s with
 | nil => exact h
 | cons w waiters ih => exact ih (h.wake w)

lemma Wire.setBusy (h:Wire s) (c:ℕ) :
  Wire (s.setConnection c { s.connections c with busy := true }) := by
 obtain ⟨hrun,hmail,hret,hans⟩:=h
 constructor <;> grind

lemma Wire.grant (h:Wire s) (hc:s.closed=false) (w:ℕ)
  (hidle:(s.connections c).busy=false) : Wire (grant s w c) := by
 have hclean:(s.connections c).outstanding=[]:=by
  rcases h.returned c (.inr hidle) with hcl | ho
  · rw[hc] at hcl
    cases hcl
  · exact ho
 have hout:((s.setConnection c { s.connections c with busy:=true }).connections c).outstanding=[]:=by
  simpa[State.setConnection] using hclean
 unfold HttpClient.grant
 split
 next m hm =>
  refine (h.setBusy c).trySend hm fun c' hc'=>?_
  obtain rfl:=some.inj hc'
  exact hout
 next => exact (h.setBusy c).release (.inr hout)

lemma Wire.addConnection (hp:Pool s) (h:Wire s) :
  Wire { s.setConnection s.size {} with size := s.size+1 } := by
 have hsame:(s.setConnection s.size {}).connections=s.connections:=by
  funext c
  have hfresh:=hp.1.fresh (Nat.le_refl s.size)
  grind
 exact h.congr rfl rfl hsame id

lemma Wire.pump (hp:Pool s) (h:Wire s) : Wire (pump o s) := by
 have hboth:Pool (HttpClient.pump o s)∧Wire (HttpClient.pump o s):=by
  refine pump_rule (P := fun s=>Pool s∧Wire s) (fun s hs _=>?_) (fun s w c hs hc hw hlt hidle=>?_)
   (fun s waiters hs hsuffix=>?_) ⟨hp,h⟩
  · exact ⟨⟨hs.1.1.addConnection,hs.1.2⟩,Wire.addConnection hs.1 hs.2⟩
  · exact ⟨hs.1.grant hw hlt hidle,hs.2.grant hc w hidle⟩
  · exact ⟨⟨hs.1.1.congr rfl rfl rfl rfl,hs.1.2.sublist hsuffix.sublist⟩,hs.2.congr rfl rfl rfl id⟩
 exact hboth.2

lemma Wire.clean (h:Wire s) (hl:(s.sends i).pc.lease=some c)
  (hp:pending i (s.sends i).pc=[]) : (s.connections c).outstanding=[] := by
 rcases h.running i c hl with ho | ho
 · exact ho
 · exact ho.trans hp

lemma error_answers {failure:Failure} (r:Response)
  (h:(.error failure : Outcome)=.ok r) : r.answers=i := by
 cases h

lemma Wire.exitEarly (h:Wire s) (hp:pending i (s.sends i).pc=[])
  (failure:Failure) : Wire (s.exit i (.error failure)) :=
 h.exit (fun _ hl=>.inr (h.clean hl hp)) error_answers

lemma Wire.closeExit (h:Wire s) (hl:(s.sends i).pc.lease=some c)
  (failure:Failure) : Wire ((s.close c).exit i (.error failure)) := by
 refine (h.close c).exit (fun c' hl'=>.inr ?_) error_answers
 change (s.sends i).pc.lease=some c' at hl'
 obtain rfl:=some.inj (hl.symm.trans hl')
 simp[State.close,State.setConnection,Connection.close]

lemma Wire.coAwait (h:Wire s) (hl:(s.sends i).pc.lease=some c)
  (hl':pc.lease=some c) (hp:pending i (s.sends i).pc=[]) : Wire (coAwait s i pc) := by
 unfold HttpClient.coAwait
 split
 · exact h.exitEarly hp _
 · refine h.setPc (fun c' hc'=>.inl ?_) (fun r hr=>?_)
   · obtain rfl:=some.inj (hl'.symm.trans hc')
     exact h.clean hl hp
   · rcases hr with rfl | rfl <;> cases hl'

lemma Wire.register (h:Wire s) (i:ℕ) : Wire (register s i) := by
 have hcreated:Wire (s.setSend i { s.sends i with mailbox:={},pc := .waiting }):=by
  refine h.setSend (fun c hl=>by cases hl) (fun c place hne hl=>?_) (fun r hr=>?_)
  · cases place with
    | running => exact absurd rfl hne
    | delivered | slot => cases hl
  · rcases hr with hr | hr <;> cases hr
 unfold HttpClient.register
 split
 · exact hcreated.wake i
 · exact hcreated

lemma Wire.acquire (hpool:Pool s) (h:Wire s)
  (hp:(s.sends i).pc=.acquiring) : Wire (acquire o s i) := by
 have hqueued:Wire (enqueue o s i):=
  Wire.pump (hpool.queued hp) ((h.register i).congr rfl rfl rfl id)
 obtain ⟨hq,hpc,hrecv⟩:=hpool.enqueue (o := o) hp
 unfold HttpClient.acquire
 split
 · exact h.exitEarly (by rw[hp]; rfl) _
 split
 · exact Wire.pump (hq.exitErased (hq.2.unreceived i hrecv) _)
    ((hqueued.exitEarly (by rw[hpc]; rfl) _).congr rfl rfl rfl id)
 · -- `async_receive` takes the buffered message.
   refine hqueued.setSend (hqueued.running i) (fun c place hne hl=>?_) (hqueued.answers i)
   unfold Mailbox.asyncReceive at hl
   split at hl
   next message hslot =>
    cases place with
    | running => exact absurd rfl hne
    | delivered => exact hqueued.mailed i c .slot (by decide) (by rw[leaseAt,hslot]; exact hl)
    | slot => cases hl
   next => exact hqueued.mailed i c place hne (by cases place <;> simp_all[leaseAt])

lemma Wire.received (hpool:Pool s) (h:Wire s)
  {message:Message} (hp:(s.sends i).pc=.waiting)
  (hd:(s.sends i).mailbox.delivered=some message) : Wire (received o s i message) := by
 have htaken:Wire (s.setMailbox i { (s.sends i).mailbox with delivered:=none }):=by
  refine h.setSend (h.running i) (fun c place hne hl=>?_) (h.answers i)
  cases place with
  | running => exact absurd rfl hne
  | delivered => cases hl
  | slot => exact h.mailed i c .slot hne hl
 cases message with
 | some c =>
  have hclean:=h.mailed i c .delivered (by decide) (by simp[leaseAt,hd])
  have hleased:Wire ((s.setMailbox i { (s.sends i).mailbox with delivered:=none }).setPc i
   (.leased c)):=by
   refine htaken.setPc (fun c' hc'=>.inl ?_) (fun r hr=>?_)
   · obtain rfl:=some.inj hc'
     exact hclean
   · rcases hr with hr | hr <;> cases hr
  exact Wire.pump (hpool.taken hp hd) (hleased.congr rfl rfl rfl id)
 | none =>
  have hpc:((s.setMailbox i { (s.sends i).mailbox with delivered:=none }).sends i).pc=.waiting:=by
   simpa[State.setMailbox,State.setSend] using hp
  exact Wire.pump ((hpool.woken hp hd).exitErased (by simp[State.setMailbox,State.setSend]) _)
   ((htaken.exitEarly (by rw[hpc]; rfl) _).congr rfl rfl rfl id)

lemma Wire.dropMailbox (h:Wire s) (i:ℕ) : Wire (dropMailbox s i) := by
 have hdropped:Wire (s.setMailbox i { (s.sends i).mailbox with slot:=none }):=by
  refine h.setSend (h.running i) (fun c place hne hl=>?_) (h.answers i)
  cases place with
  | running => exact absurd rfl hne
  | delivered => exact h.mailed i c .delivered hne hl
  | slot => cases hl
 unfold HttpClient.dropMailbox
 split
 next c hslot => exact hdropped.release (.inr (h.mailed i c .slot (by decide) (by simp[leaseAt,hslot])))
 next => exact hdropped

lemma Wire.admission (h:Wire s) (hp:(s.sends i).pc=.entered c) :
  Wire (admission s i c) := by
 have hl:(s.sends i).pc.lease=some c:=by rw[hp]; rfl
 have hpend:pending i (s.sends i).pc=[]:=by rw[hp]; rfl
 unfold HttpClient.admission
 split
 · exact h.exitEarly hpend _
 split
 · exact (h.close c).coAwait hl rfl hpend
 · refine h.setPc (fun c' hc'=>.inl ?_) (fun r hr=>by rcases hr with hr | hr <;> cases hr)
   obtain rfl:=some.inj hc'
   exact h.clean hl hpend

lemma Wire.resolved (h:Wire s) (hp:(s.sends i).pc=.resolving c)
  (error:Option IoError) : Wire (resolved s i c error) := by
 have hl:(s.sends i).pc.lease=some c:=by rw[hp]; rfl
 have hpend:pending i (s.sends i).pc=[]:=by rw[hp]; rfl
 cases error with
 | some error => exact h.closeExit hl _
 | none =>
  simp only[HttpClient.resolved]
  split
  · exact h.exitEarly hpend _
  · exact h.coAwait hl rfl hpend

lemma Wire.advance (hpool:Pool s) (h:Wire s) {connection:Connection}
  (hl:(s.sends i).pc.lease=some c) (hpend:pending i (s.sends i).pc=[])
  (hl':pc.lease=some c) (hw:(s.sends i).pc≠ .waiting)
  (hb:connection.busy=(s.connections c).busy)
  (ho:connection.outstanding=[]∨connection.outstanding=pending i pc) :
  Wire ((s.setConnection c connection).setPc i pc) := by
 have hmoved:Pool (s.setPc i pc):=by
  refine hpool.setPc hw (hl'.trans hl.symm) ⟨?_,?_⟩ <;> rintro rfl <;> cases hl'
 have hset:Wire (s.setPc i pc):=by
  refine h.setPc (fun c' hc'=>.inl ?_) (fun r hr=>by rcases hr with rfl | rfl <;> cases hl')
  obtain rfl:=some.inj (hl'.symm.trans hc')
  exact h.clean hl hpend
 have hpc:((s.setPc i pc).sends i).pc=pc:=by simp[State.setPc,State.setSend]
 exact Wire.setConnection hmoved hset (by rw[hpc]; exact hl') hb (by rw[hpc]; exact ho)

lemma Wire.connected (hpool:Pool s) (h:Wire s)
  (hp:(s.sends i).pc=.connecting c) (error:Option IoError) : Wire (connected s i c error) := by
 have hl:(s.sends i).pc.lease=some c:=by rw[hp]; rfl
 have hpend:pending i (s.sends i).pc=[]:=by rw[hp]; rfl
 cases error with
 | some error => exact h.closeExit hl _
 | none =>
  exact h.advance hpool hl hpend rfl (by rw[hp]; exact Pc.noConfusion) rfl (.inl (h.clean hl hpend))

lemma Wire.startWrite (hpool:Pool s) (h:Wire s)
  (hp:(s.sends i).pc=.ready c) : Wire (startWrite s i c) := by
 have hl:(s.sends i).pc.lease=some c:=by rw[hp]; rfl
 have hpend:pending i (s.sends i).pc=[]:=by rw[hp]; rfl
 unfold HttpClient.startWrite
 split
 · exact h.exitEarly hpend _
 split
 · exact h.exitEarly hpend _
 split
 · exact h.exitEarly hpend _
 · refine h.advance hpool hl hpend rfl (by rw[hp]; exact Pc.noConfusion) rfl (.inr ?_)
   rw[h.clean hl hpend]
   rfl

lemma Wire.wrote (h:Wire s) (hp:(s.sends i).pc=.writing c)
  (error:Option IoError) : Wire (wrote s i c error) := by
 have hl:(s.sends i).pc.lease=some c:=by rw[hp]; rfl
 cases error with
 | some error => exact h.closeExit hl _
 | none =>
  refine h.setPc (fun c' hc'=>?_) (fun r hr=>by rcases hr with hr | hr <;> cases hr)
  obtain rfl:=some.inj hc'
  have hrun:=h.running i c hl
  rw[hp] at hrun
  exact hrun

def readStarted : Label → Option ℕ
 | .startRead i => some i
 | _ => none

def isWritten : Pc → Bool
 | .written _ => true
 | _ => false

/-- The exit that leaves an open connection with an unread answer behind: the request
has been written, the client is running, and the call's time is up or it has been
cancelled before the read starts. -/
def Abandons (s:State) (l:Label) : Prop :=
 ∃ i ∈ readStarted l,isWritten (s.sends i).pc = true ∧ s.closed = false ∧
  ((s.sends i).deadline ≤ s.now ∨ (∃ d ∈ (s.sends i).contextDeadline,d ≤ s.now) ∨
   (s.sends i).cancelled = true ∨ (s.sends i).signalled = true)

instance (s:State) (l:Label) : Decidable (Abandons s l) :=
 inferInstanceAs (Decidable (∃ i ∈ readStarted l,_))

lemma Wire.startRead (h:Wire s) (hp:(s.sends i).pc=.written c)
  (hok:¬ Abandons s (.startRead i)) : Wire (startRead s i c) := by
 have hl:(s.sends i).pc.lease=some c:=by rw[hp]; rfl
 cases hc:s.closed with
 | true =>
  -- Nothing is leased any more, so the connection may stay as it is.
  have hthrow:throwIfCancelled s i "HTTP response read" =
   some (.client ⟨.stopped,"HTTP client stopped during "++ "HTTP response read"⟩):=by
   rw[throwIfCancelled,if_pos hc]
  unfold HttpClient.startRead
  rw[hthrow]
  exact h.exit (fun _ _=>.inl hc) error_answers
 | false =>
  have hwritten:isWritten (s.sends i).pc=true:=by rw[hp]; rfl
  have htime:¬ ((s.sends i).deadline≤ s.now∨∃ d∈(s.sends i).contextDeadline,d≤ s.now):=
   fun ht=>hok ⟨i,rfl,hwritten,hc,ht.imp_right .inl⟩
  have hcancel:¬ (s.sends i).cancelled=true:=
   fun ht=>hok ⟨i,rfl,hwritten,hc,.inr (.inr (.inl ht))⟩
  have hsignal:¬ (s.sends i).signalled=true:=
   fun ht=>hok ⟨i,rfl,hwritten,hc,.inr (.inr (.inr ht))⟩
  have hthrow:throwIfCancelled s i "HTTP response read"=none:=by
   rw[throwIfCancelled,if_neg (by rw[hc]; exact Bool.false_ne_true),if_neg htime,if_neg hcancel]
  unfold HttpClient.startRead
  rw[hthrow]
  simp only[HttpClient.coAwait,if_neg hsignal]
  refine h.setPc (fun c' hc'=>?_) (fun r hr=>by rcases hr with hr | hr <;> cases hr)
  obtain rfl:=some.inj hc'
  have hrun:=h.running i c hl
  rw[hp] at hrun
  exact hrun

lemma Wire.gotResponse (hpool:Pool s) (h:Wire s)
  (hp:(s.sends i).pc=.reading c) {answers:ℕ} {rest:List ℕ}
  (ho:(s.connections c).outstanding=answers::rest) (bodySize:ℕ) (keepAlive:Bool) :
  Wire (gotResponse o s i c answers rest bodySize keepAlive) := by
 have hl:(s.sends i).pc.lease=some c:=by rw[hp]; rfl
 have hone:answers=i∧rest=[]:=by
  rcases h.running i c hl with hr | hr
  · rw[ho] at hr
    cases hr
  · rw[ho,hp] at hr
    exact List.cons.inj hr
 obtain ⟨rfl,rfl⟩:=hone
 have hpopped:Wire (s.setConnection c { s.connections c with outstanding:=[] }) :=
  Wire.setConnection hpool h hl rfl (.inl rfl)
 have hanswers:∀ r,(.ok ⟨answers,bodySize,keepAlive⟩ : Outcome)=.ok r→ r.answers=answers:=by
  intro r hr
  cases hr
  rfl
 unfold HttpClient.gotResponse
 split
 · exact h.closeExit hl _
 · cases keepAlive with
   | true =>
    refine hpopped.exit (fun c' hc'=>.inr ?_) hanswers
    obtain rfl:=some.inj (hl.symm.trans hc')
    simp[State.setConnection]
   | false =>
    refine (hpopped.close c).exit (fun c' hc'=>.inr ?_) hanswers
    obtain rfl:=some.inj (hl.symm.trans hc')
    simp[State.close,State.setConnection,Connection.close]

lemma Wire.released (h:Wire s) (hc:c∈s.releases) :
  Wire { s.setConnection c { s.connections c with busy := false } with
   releases := s.releases.erase c } := by
 obtain ⟨hrun,hmail,hret,hans⟩:=h
 constructor <;> grind[List.mem_of_mem_erase]

lemma Wire.beginStop (h:Wire s) : Wire (beginStop s) := by
 unfold HttpClient.beginStop
 split
 · exact h
 split
 · obtain ⟨hrun,hmail,hret,hans⟩:=h
   have hout:∀ c,((closeAll s).connections c).outstanding=[] ∨
    ((closeAll s).connections c).outstanding=(s.connections c).outstanding:=by
    intro c
    simp only[closeAll]
    split
    · exact .inl rfl
    · exact .inr rfl
   refine ⟨fun i c hl=>?_,fun i c place hne hl=>?_,fun c hr=>.inl rfl,hans⟩
   · exact (hout c).elim .inl fun ho=>(hrun i c hl).imp ho.trans ho.trans
   · exact (hout c).elim id fun ho=>ho.trans (hmail i c place hne hl)
 · exact h.congr rfl rfl rfl fun _=>rfl

lemma Wire.finish (h:Wire s) : Wire (finish s) := by
 unfold HttpClient.finish
 split
 · exact h
 split
 · exact h
 split <;> exact h.congr rfl rfl rfl id

lemma Wire.beginSend (h:Wire s) (host port method:String) (contextDeadline:Option ℤ) :
  Wire (beginSend o s i host port method contextDeadline) := by
 have hops:Wire { s with operations:=s.operations+1 } := h.congr rfl rfl rfl id
 unfold HttpClient.beginSend
 split
 · exact h.setSend (fun c hl=>by cases hl) (h.mailed_of_mailbox rfl)
    (fun r hr=>by rcases hr with hr | hr <;> cases hr)
 · exact hops.setSend (fun c hl=>by cases hl) (hops.mailed_of_mailbox rfl)
    (fun r hr=>by rcases hr with hr | hr <;> cases hr)

lemma Wire.leave (h:Wire s) {outcome:Outcome} (hp:(s.sends i).pc=.leaving outcome) :
  Wire (leave s i outcome) := by
 have hops:Wire { s with
  operations := s.operations - 1
  finishPosted := if s.closed∧s.operations=1 then s.finishPosted+1 else s.finishPosted } :=
  h.congr rfl rfl rfl id
 refine hops.setPc (fun c hl=>by cases hl) (fun r hr=>h.answers i r (.inl ?_))
 rcases hr with hr | hr
 · cases hr
 · rw[hp,Pc.finished.inj hr]

lemma Wire.stopHandler (h:Wire s) : Wire (stopHandler s) :=
 Wire.finish ((h.foldl_wake s.waiters).congr rfl rfl rfl id)

lemma Wire.closedHandler (h:Wire s) : Wire (closedHandler s) := by
 unfold HttpClient.closedHandler
 split <;> exact h.congr rfl rfl rfl id

lemma wire_step {s':State} {l:Label} (hpool:Pool s) (h:Wire s)
  (hok:¬ Abandons s l) (hstep:step o s l=some s') : Wire s' := by
 cases l with
 | tick now =>
  have hnow:Wire { s with now:=now } := h.congr rfl rfl rfl id
  grind[step]
 | cancel i =>
  have hc:Wire (s.setSend i { s.sends i with cancelled:=true }) :=
   h.setSend (h.running i) (h.mailed i) (h.answers i)
  grind[step,Wire.wake]
 | signal i =>
  cases hstep
  exact h.setSend (h.running i) (h.mailed i) (h.answers i)
 | send i host port method contextDeadline => grind[step,Wire.beginSend]
 | acquire i => grind[step,Wire.acquire]
 | timer i => grind[step,Wire.wake]
 | received i => grind[step,Wire.received]
 | receiveAborted i =>
  have haborted:(s.sends i).pc=.waiting→(s.sends i).mailbox.delivered=none →
   Wire (receiveAborted o s i) := fun hp hd =>
   Wire.pump (hpool.exitErased hd _) ((h.exitEarly (by rw[hp]; rfl) _).congr rfl rfl rfl id)
  grind[step]
 | dropMailbox i => grind[step,Wire.dropMailbox]
 | resume i =>
  have hresumed:∀ c,(s.sends i).pc=.leased c→ Wire (coAwait s i (.entered c)):=fun c hp =>
   h.coAwait (by rw[hp]; rfl) rfl (by rw[hp]; rfl)
  grind[step]
 | admission i => grind[step,Wire.admission]
 | resolved i error => grind[step,Wire.resolved]
 | connected i error => grind[step,Wire.connected]
 | startWrite i => grind[step,Wire.startWrite]
 | wrote i error => grind[step,Wire.wrote]
 | startRead i => grind[step,Wire.startRead]
 | gotResponse i bodySize keepAlive => grind[step,Wire.gotResponse]
 | readFailed i error => grind[step,ioFailed,Wire.closeExit,Pc.lease]
 | released c =>
  have hreturned:c∈s.releases→ Wire (released o s c):=fun hc =>
   Wire.pump ⟨hpool.1.released hc,hpool.2⟩ (h.released hc)
  grind[step]
 | leave i => grind[step,Wire.leave]
 | stop => grind[step,Wire.beginStop]
 | stopHandler => grind[step,Wire.stopHandler]
 | finish =>
  have hposted:Wire { s with finishPosted:=s.finishPosted - 1 } := h.congr rfl rfl rfl id
  grind[step,Wire.finish]
 | closeHandler c =>
  have hclosed:Wire (closeHandler s c):=(h.close c).congr rfl rfl rfl id
  grind[step]
 | closedHandler => grind[step,Wire.closedHandler]

lemma wire_init : Wire {} := by
 refine ⟨fun i c hl=>?_,fun i c place hne hl=>?_,fun c hr=>.inr rfl,fun i r hr=>?_⟩
 · cases hl
 · cases place <;> cases hl
 · rcases hr with hr | hr <;> cases hr

/-- Answers and requests stay together: a response is returned to the call that asked
for it, a request is outstanding only on the connection its own running call still
holds (or nothing is leased any more), and a lease that has just been granted is for
a connection without outstanding requests. -/
structure Isolated (s:State) : Prop where
 answers : ∀ i r,(s.sends i).pc = .leaving (.ok r) ∨ (s.sends i).pc = .finished (.ok r) → r.answers = i
 outstanding : ∀ c j,j ∈ (s.connections c).outstanding →
  s.closed = true ∨ (s.sends j).pc.lease = some c
 granted : ∀ i c,(s.sends i).mailbox.delivered = some (some c) ∨
  (s.sends i).mailbox.slot = some (some c) ∨ (s.sends i).pc = .leased c ∨
  (s.sends i).pc = .entered c → (s.connections c).outstanding = []

lemma Wire.isolated (hpool:Pool s) (h:Wire s) : Isolated s := by
 have ⟨hrun,hmail,hret,hans⟩:=h
 refine ⟨hans,fun c j hj=>?_,fun i c hl=>?_⟩
 · cases hb:(s.connections c).busy with
   | false => grind
   | true =>
    -- A busy connection has its lease in exactly one place.
    obtain ⟨⟨owner,hown⟩,-⟩:=hpool
    rw[hown.busy] at hb
    obtain ⟨holder,hholder⟩:=isSome_iff_exists.mp hb
    have hheld:=(hown.holds holder c).mpr hholder
    cases holder with
    | posted => grind[Holds]
    | call i place =>
     cases place with
     | running =>
      have hpending:j∈pending i (s.sends i).pc→ j=i:=by
       cases (s.sends i).pc <;> simp[pending]
      grind[Holds,leaseAt]
     | delivered | slot => grind[Holds]
 · rcases hl with hl | hl | hl | hl
   · exact h.mailed i c .delivered (by decide) (by simp[leaseAt,hl])
   · exact h.mailed i c .slot (by decide) (by simp[leaseAt,hl])
   · exact h.clean (by rw[hl]; rfl) (by rw[hl]; rfl)
   · exact h.clean (by rw[hl]; rfl) (by rw[hl]; rfl)

/-- In every run of the client in which no call is abandoned between its write and its
read, answers and requests stay together in every state reached. -/
theorem responses_isolated (o : PoolOptions) (labels : List Label) (s : State)
  (hok : Along (step o) (fun s l => ¬ Abandons s l) {} labels)
  (hrun : exec (step o) {} labels = some s) : Isolated s := by
 have hinv:Pool s∧Wire s:=
  exec_invariant_along (I := fun s=>Pool s∧Wire s)
   (fun s l s' hs hok hstep=>⟨pool_step hs.1 hstep,wire_step hs.1 hs.2 hok hstep⟩)
   ⟨pool_init,wire_init⟩ hok hrun
 exact hinv.2.isolated hinv.1

def oneConnection : PoolOptions := ⟨{ connections := 1 },by decide⟩

def reusedRun : List Label :=
 [.send 0 "host" "80" "GET" none,.acquire 0,.received 0,.resume 0,.admission 0,.resolved 0 none,
  .connected 0 none,.startWrite 0,.wrote 0 none,.startRead 0,.gotResponse 0 0 true,.released 0,
  .leave 0,.send 1 "host" "80" "GET" none,.acquire 1,.received 1,.resume 1,.admission 1,
  .startWrite 1,.wrote 1 none,.startRead 1,.gotResponse 1 0 true]

theorem responses_isolated_reused : ∃ s, exec (step oneConnection) {} reusedRun = some s ∧
  (s.sends 1).pc = .leaving (.ok ⟨1, 0, true⟩) ∧ Isolated s :=
 ⟨_,rfl,rfl,responses_isolated oneConnection reusedRun _ (by decide +kernel) rfl⟩

/-- One connection. Call 0 is cancelled after its write, call 1 to the same host takes
over the open connection and reads the answer to call 0. -/
def crossedRun : List Label :=
 [.send 0 "host" "80" "GET" none,.acquire 0,.received 0,.resume 0,.admission 0,.resolved 0 none,
  .connected 0 none,.startWrite 0,.wrote 0 none,.cancel 0,.startRead 0,.released 0,.leave 0,
  .send 1 "host" "80" "GET" none,.acquire 1,.received 1,.resume 1,.admission 1,.startWrite 1,
  .wrote 1 none,.startRead 1,.gotResponse 1 0 true]

theorem crossedRun_crosses : ∃ s, exec (step oneConnection) {} crossedRun = some s ∧
  (s.sends 1).pc = .leaving (.ok ⟨0, 0, true⟩) :=
 ⟨_,rfl,rfl⟩

end ServiceLib.HttpClientWire
