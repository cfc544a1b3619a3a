import Mathlib.Data.List.GetD
import ServiceLib.JoinStorageRoles

set_option autoImplicit false
attribute [-instance] instBooleanRingBool

/-!
# The life of an item

Every call that returns accepted its value once, and every item ends once; between the two the
value lists are left alone by everyone but the item's callbacks.
-/
namespace ServiceLib.JoinStorageItems
open Generations JoinStorage Transition Function List

variable {K V F:Type}

structure Acceptance (K V F:Type) where
 call : ℕ
 item : ℕ
 join : Join K V F

def running : Call K V F → Option ℕ
 | .callback _ i | .expiry _ i => some i
 | .expireCallback e => some e.item
 | _ => none

def accepts (c:ℕ) : Call K V F → List (Acceptance K V F)
 | .callback j i => [⟨c,i,j⟩]
 | _ => []

/-- The acceptance a step makes: a call appends its value and enters its callback. -/
def accepted (_:State K V F) (l:Label K V F) (s':State K V F) : List (Acceptance K V F) :=
 match l with
 | .lock c | .moveToCurrent c => accepts c (s'.calls c)
 | _ => []

inductive Ending
 | joined
 | expired
 | stopped

def expires : Call K V F → List (ℕ × Ending)
 | .expiry _ i => [(i,.expired)]
 | .expireCallback e => [(e.item,.expired)]
 | _ => []

/-- The ending a step makes: a join callback returns true, an expiry callback is begun,
or `stop` marks an item that has not ended. -/
def endings (s:State K V F) (l:Label K V F) (s':State K V F) : List (ℕ × Ending) :=
 match l with
 | .callback c (.returned true _) =>
  match s.calls c with
  | .callback _ i => [(i,.joined)]
  | _ => []
 | .lock c | .expireLock c => expires (s'.calls c)
 | .mark _ i => if (s.items i).processed then [] else [(i,.stopped)]
 | _ => []

def ReadsOnly (s:State K V F) : Label K V F → Prop
 | .callback c outcome | .expiry c outcome =>
  ∀ i,running (s.calls c) = some i → outcome.values = (s.items i).values
 | _ => True

def sideValues (seen:List (Acceptance K V F)) (i side:ℕ) : List V :=
 seen.filterMap fun a=>if a.item = i ∧ a.join.index = side then some a.join.value else none

lemma resize_side (values:List (List V)) (n side:ℕ) :
  (resize values n).getD side []=values.getD side [] := by
 grind[resize]

lemma append_side (values:List (List V)) (index:ℕ) (value:V) (side:ℕ) :
  (append values index value).getD side [] =
   values.getD side []++(if side=index then [value] else []) := by
 have hgrown:∃ grown : List (List V),append values index value=grown.modify index (·++[value]) ∧
  index < grown.length∧∀ side,grown.getD side []=values.getD side []:=by
  by_cases hlen:values.length≤ index
  · refine ⟨resize values (index+1),by rw[append,if_pos hlen],?_,resize_side values _⟩
    rw[resize,length_append,length_replicate]
    omega
  · exact ⟨values,by rw[append,if_neg hlen],by omega,fun _=>rfl⟩
 obtain ⟨grown,happend,hindex,hsides⟩:=hgrown
 rw[happend,← hsides side,getD_eq_getElem?_getD,List.getElem?_modify,
  getD_eq_getElem?_getD]
 by_cases hside:side=index
 · subst hside
   simp[List.getElem?_eq_getElem hindex]
 · simp[hside,Ne.symm hside]

inductive Touched (s:State K V F) (l:Label K V F) (s':State K V F) (i:ℕ)
  (after:List (List V)) : Prop
 | same (hacc:∀ a ∈ accepted s l s',a.item ≠ i) (h:after = (s.items i).values)
 | accepted (c:ℕ) (j:Join K V F) (hacc:accepted s l s' = [⟨c,i,j⟩])
  (hp:(s.items i).processed = false) (h:after = append (s.items i).values j.index j.value)
 | joinCallback (c:ℕ) (outcome:Outcome V) (hl:l = .callback c outcome)
  (hrun:running (s.calls c) = some i) (hp:(s.items i).processed = false)
  (h:after = outcome.values)
 | expiryCallback (c:ℕ) (outcome:Outcome V) (hl:l = .expiry c outcome)
  (hrun:running (s.calls c) = some i) (hp:(s.items i).processed = true)
  (h:after = outcome.values)

structure ItemStep (s:State K V F) (l:Label K V F) (s':State K V F) (i:ℕ) : Prop where
 key : (s'.items i).key = (s.items i).key
 processed : (s'.items i).processed = true ↔
  (s.items i).processed = true ∨ i ∈ (endings s l s').map Prod.fst
 touched : Touched s l s' i (s'.items i).values

def EndStep (s:State K V F) (l:Label K V F) (s':State K V F) : Prop :=
 (endings s l s').map Prod.fst = [] ∨
  ∃ i,(endings s l s').map Prod.fst = [i] ∧ (s.items i).processed = false ∧ i < s.next

structure Account (s:State K V F) (l:Label K V F) (s':State K V F) : Prop where
 ending : EndStep s l s'
 acceptance : ∀ a ∈ accepted s l s',a.item < s.next
 items : ∀ i,i < s.next → ItemStep s l s' i

variable {s s':State K V F} {l:Label K V F} {i c:ℕ}

lemma account_goto (hitems:∀ i,i < s.next→ s'.items i=s.items i)
  (hacc:accepted s l s'=[]) (hend:endings s l s'=[]) : Account s l s' := by
 refine ⟨.inl (by rw[hend]; rfl),fun a ha=>?_,fun i hi=>⟨?_,?_,?_⟩⟩
 · rw[hacc] at ha
   cases ha
 · rw[hitems i hi]
 · rw[hitems i hi,hend]
   simp
 · refine .same (fun a ha=>?_) (by rw[hitems i hi])
   rw[hacc] at ha
   cases ha

lemma account_edit {item:Item K V F}
  (hitems:s'.items=update s.items i item) (hkey:item.key=(s.items i).key)
  (hend:(endings s l s').map Prod.fst=[]∧item.processed=(s.items i).processed ∨
   (endings s l s').map Prod.fst=[i]∧item.processed=true∧(s.items i).processed=false ∧
    i < s.next)
  (hacc:∀ a∈accepted s l s',a.item=i∧i < s.next) (htouched:Touched s l s' i item.values) :
  Account s l s' := by
 refine ⟨hend.imp (fun h=>h.1) fun h=>⟨i,h.1,h.2.2⟩,fun a ha=>?_,fun x hx=>?_⟩
 · rw[(hacc a ha).1]
   exact (hacc a ha).2
 by_cases hxi:x=i
 · subst hxi
   have hitem:s'.items x=item:=by rw[hitems,update_self]
   refine ⟨by rw[hitem,hkey],?_,by rw[hitem]; exact htouched⟩
   rw[hitem]
   rcases hend with ⟨hnone,hp⟩ | ⟨hone,hp,-⟩
   · rw[hnone,hp]
     simp
   · simp[hone,hp]
 · have hitem:s'.items x=s.items x:=by rw[hitems,update_of_ne hxi]
   refine ⟨by rw[hitem],?_,.same (fun a ha hx=>?_) (by rw[hitem])⟩
   · rw[hitem]
     rcases hend with ⟨hnone,-⟩ | ⟨hone,-⟩
     · simp[hnone]
     · simp[hone,hxi]
   · exact hxi (hx.symm.trans (hacc a ha).1)

lemma accepted_quiet (hl:l.Quiet) (s s':State K V F) : accepted s l s'=[] := by
 cases l with
 | lock c | moveToCurrent c => exact hl.elim
 | _ => rfl

lemma endings_quiet (hl:l.Quiet) (s s':State K V F) : endings s l s'=[] := by
 cases l with
 | callback c outcome | lock c | expireLock c | mark c i => exact hl.elim
 | _ => rfl

lemma accepted_lock (s s':State K V F) (c:ℕ) (call:Call K V F) :
  accepted s (.lock c) (s'.setCall c call)=accepts c call := by
 simp[accepted]

lemma accepted_moveToCurrent (s s':State K V F) (c:ℕ) (call:Call K V F) :
  accepted s (.moveToCurrent c) (s'.setCall c call)=accepts c call := by
 simp[accepted]

lemma endings_lock (s s':State K V F) (c:ℕ) (call:Call K V F) :
  endings s (.lock c) (s'.setCall c call)=expires call := by
 simp[endings]

lemma endings_expireLock (s s':State K V F) (c:ℕ) (call:Call K V F) :
  endings s (.expireLock c) (s'.setCall c call)=expires call := by
 simp[endings]

lemma account_evaluate {t:State K V F} {j:Join K V F}
  {item:Item K V F} (hl:l=.lock c∨l=.moveToCurrent c) (hitems:t.items=s.items)
  (hkey:item.key=(s.items i).key) (hvalues:item.values=(s.items i).values)
  (hitem:item.processed=(s.items i).processed) (hp:(s.items i).processed=false)
  (hi:i < s.next) : Account s l (t.evaluate c j i item) := by
 have hacc:accepted s l (t.evaluate c j i item)=[⟨c,i,j⟩]:=by
  rcases hl with rfl | rfl
  · exact accepted_lock s _ c (.callback j i)
  · exact accepted_moveToCurrent s _ c (.callback j i)
 have hend:endings s l (t.evaluate c j i item)=[]:=by
  rcases hl with rfl | rfl
  · exact endings_lock s _ c (.callback j i)
  · rfl
 refine account_edit (congrArg (update · i _) hitems) hkey (.inl ⟨by rw[hend]; rfl,hitem⟩)
  (fun a ha=>?_) (.accepted c j hacc hp (by rw[← hvalues]))
 rw[hacc] at ha
 rw[mem_singleton.mp ha]
 exact ⟨rfl,hi⟩

variable [DecidableEq K]

lemma account_move (hn:Named s) (hs:Roles s)
  (h:Move s l s') : Account s l s' := by
 cases h with
 | quiet hl hrun hstill hhandlers =>
  exact account_goto (fun _ _=>rfl) (accepted_quiet hl _ _) (endings_quiet hl _ _)
 | timer h =>
  exact account_edit rfl rfl (.inl ⟨rfl,rfl⟩) (fun a ha=>by cases ha)
   (.same (fun a ha=>by cases ha) rfl)
 | rotate h | refused h | begun h | notRunning e h hrun | found h hrun hi | removedJoined h
 | removedExpired h | removedEvicted h | expire h he | stopped h hstop | stoppedAgain h hstop =>
  exact account_goto (fun _ _=>rfl) rfl rfl
 | created h hrun hcur hprev =>
  exact account_goto (fun i hi=>update_of_ne (Nat.ne_of_lt hi) _ _) rfl rfl
 | retried h hp =>
  exact account_goto (fun _ _=>rfl) (accepted_lock s s _ _) (endings_lock s s _ _)
 | stale h => exact account_goto (fun _ _=>rfl) rfl (endings_expireLock s s _ _)
 | expires h hfree hp hdue =>
  refine account_edit rfl rfl (.inr ⟨?_,rfl,hp,hn.calls_lt h rfl⟩) (fun a ha=>?_) (.same (fun a ha=>?_) rfl)
  · rw[endings_lock]
    rfl
  · rw[accepted_lock] at ha
    cases ha
  · rw[accepted_lock] at ha
    cases ha
 | evicts h hfree hp =>
  refine account_edit rfl rfl (.inr ⟨?_,rfl,hp,hn.calls_lt h rfl⟩) (fun a ha=>by cases ha)
   (.same (fun a ha=>by cases ha) rfl)
  rw[endings_expireLock]
  rfl
 | evaluates h hfree hp | arms deadline h hfree hp =>
  exact account_evaluate (.inl rfl) rfl rfl rfl rfl hp (hn.calls_lt h rfl)
 | renews deadline h hfree hp =>
  refine account_edit rfl rfl (.inl ⟨?_,rfl⟩) (fun a ha=>?_) (.same (fun a ha=>?_) rfl)
  · rw[endings_lock]
    rfl
  · rw[accepted_lock] at ha
    cases ha
  · rw[accepted_lock] at ha
    cases ha
 | moved h =>
  exact account_evaluate (.inr rfl) rfl rfl rfl rfl (hs.held h rfl).2 (hn.calls_lt h rfl)
 | joined values h =>
  have hp:=(hs.held h rfl).2
  refine account_edit rfl rfl (.inr ⟨?_,rfl,hp,hn.calls_lt h rfl⟩) (fun a ha=>by cases ha)
   (.joinCallback _ _ rfl (by rw[h]; rfl) hp rfl)
  simp only[endings,h]
  rfl
 | kept values h | threw values h =>
  exact account_edit rfl rfl (.inl ⟨rfl,rfl⟩) (fun a ha=>by cases ha)
   (.joinCallback _ _ rfl (by rw[h]; rfl) (hs.held h rfl).2 rfl)
 | expiryReturned result values h | expiryThrew values h | expireReturned outcome h =>
  exact account_edit rfl rfl (.inl ⟨rfl,rfl⟩) (fun a ha=>by cases ha)
   (.expiryCallback _ _ rfl (by rw[h]; rfl) (hs.ends _ _ (by rw[h]; rfl)) rfl)
 | @marked c items i h hi hfree =>
  refine account_edit rfl rfl ?_ (fun a ha=>by cases ha) (.same (fun a ha=>by cases ha) rfl)
  cases hp:(s.items i).processed with
  | true => exact .inl ⟨by simp[endings,hp],rfl⟩
  | false => exact .inr ⟨by simp[endings,hp],rfl,rfl,hn.marking c items h i hi⟩

lemma fresh_move (hn:Named s) (h:Move s l s')
  (hi:s.next≤ i) :
  (s'.items i).processed=false∧∀ side,(s'.items i).values.getD side []=[] := by
 by_cases hlt:s'.next≤ i
 · rw[(named_move hn h).fresh i hlt]
   exact ⟨rfl,fun _=>rfl⟩
 cases h with
 | @created c j h hrun hcur hprev =>
  obtain rfl:i=s.next:=Nat.le_antisymm (Nat.lt_succ_iff.mp (Nat.not_le.mp hlt)) hi
  change (update s.items s.next _ s.next).processed=false ∧
   ∀ side,(update s.items s.next _ s.next).values.getD side []=[]
  rw[update_self]
  exact ⟨rfl,resize_side [] (j.index+1)⟩
 | _ => exact absurd hi hlt

def Accounts (c:ℕ) (mine:List (Acceptance K V F)) : Call K V F → Prop
 | .callback j i | .removeJoined j i => mine = [⟨c,i,j⟩]
 | .returned j => ∃ i,mine = [⟨c,i,j⟩]
 | .failed _ | .callbackThrew => True
 | _ => mine = []

structure Accepting (s:State K V F) (seen:List (Acceptance K V F)) : Prop where
 calls : ∀ c,Accounts c (seen.filter fun a=>a.call == c) (s.calls c)
 named : ∀ a ∈ seen,(s.items a.item).key = some a.join.key

variable {seen:List (Acceptance K V F)} {config:JoinStorageConfig} {metricsEnabled:Bool}
  {labels:List (Label K V F)}

omit [DecidableEq K] in
lemma Accepting.goto (hs:Accepting s seen)
  {call:Call K V F} (hcalls:s'.calls=update s.calls c call)
  (hacc:accepted s l s'=[])
  (hcall:∀ mine,Accounts c mine (s.calls c)→ Accounts c mine call)
  (hkeys:∀ i k,(s.items i).key=some k→(s'.items i).key=some k) :
  Accepting s' (seen++accepted s l s') := by
 rw[hacc,append_nil]
 refine ⟨fun d=>?_,fun a ha=>hkeys _ _ (hs.named a ha)⟩
 rw[hcalls,update_apply]
 split
 · next hd =>
   subst hd
   exact hcall _ (hs.calls d)
 · exact hs.calls d

omit [DecidableEq K] in
lemma Accepting.accept (hs:Accepting s seen)
  {j:Join K V F}
  (hcalls:s'.calls=update s.calls c (.callback j i))
  (hacc:accepted s l s'=[⟨c,i,j⟩]) (hnone:∀ mine,Accounts c mine (s.calls c)→ mine=[])
  (hkey:(s.items i).key=some j.key)
  (hkeys:∀ i k,(s.items i).key=some k→(s'.items i).key=some k) :
  Accepting s' (seen++accepted s l s') := by
 rw[hacc]
 refine ⟨fun d=>?_,fun a ha=>?_⟩
 · rw[hcalls,update_apply,filter_append]
   split
   · next hd =>
     subst hd
     rw[hnone _ (hs.calls d)]
     simp[Accounts]
   · next hd =>
     have hother:[(⟨c,i,j⟩ : Acceptance K V F)].filter (fun a=>a.call == d)=[]:=by
      simp[Ne.symm hd]
     rw[hother,append_nil]
     exact hs.calls d
 · rcases mem_append.mp ha with ha | ha
   · exact hkeys _ _ (hs.named a ha)
   · rw[mem_singleton.mp ha]
     exact hkeys _ _ hkey

lemma accepting_move
  (hn:Named s) (hr:Roles s) (hs:Accepting s seen) (h:Move s l s') :
  Accepting s' (seen++accepted s l s') := by
 have hkeys:∀ i k,(s.items i).key=some k→(s'.items i).key=some k:=fun i k hk =>
  ((account_move hn hr h).items i (hn.lt hk)).key.trans hk
 have hidle:s.calls=update s.calls 0 (s.calls 0):=(update_eq_self 0 s.calls).symm
 cases h with
 | quiet hl hrun hstill hhandlers =>
  exact hs.goto hidle (accepted_quiet hl _ _) (fun _ h=>h) hkeys
 | rotate h | timer h => exact hs.goto hidle rfl (fun _ h=>h) hkeys
 | refused h | notRunning e h hrun | threw values h | expiryThrew values h =>
  exact hs.goto rfl rfl (fun _ _=>trivial) hkeys
 | begun h | found h hrun hi | created h hrun hcur hprev | joined values h
 | expiryReturned result values h | expireReturned outcome h | removedExpired h | removedEvicted h
 | expire h he | stale h | evicts h hfree hp | stopped h hstop | stoppedAgain h hstop | marked h hi hfree =>
  refine hs.goto rfl rfl (fun mine hm=>?_) hkeys
  rw[h] at hm
  exact hm
 | retried h hp | expires h hfree hp hdue | renews deadline h hfree hp =>
  refine hs.goto rfl (accepted_lock _ _ _ _) (fun mine hm=>?_) hkeys
  rw[h] at hm
  exact hm
 | kept values h | removedJoined h =>
  refine hs.goto rfl rfl (fun mine hm=>?_) hkeys
  rw[h] at hm
  exact ⟨_,hm⟩
 | evaluates h hfree hp | arms deadline h hfree hp =>
  refine hs.accept rfl (accepted_lock _ _ _ _) (fun mine hm=>?_)
   (hn.calls _ _ _ (by rw[h]; rfl)) hkeys
  rw[h] at hm
  exact hm
 | moved h =>
  refine hs.accept rfl (accepted_moveToCurrent _ _ _ _) (fun mine hm=>?_)
   (hn.calls _ _ _ (by rw[h]; rfl)) hkeys
  rw[h] at hm
  exact hm

omit [DecidableEq K] in
lemma sideValues_append (seen new:List (Acceptance K V F)) (i side:ℕ) :
  sideValues (seen++new) i side=sideValues seen i side++sideValues new i side :=
 filterMap_append

omit [DecidableEq K] in
lemma sideValues_eq_nil (h:∀ a∈seen,a.item≠i)
  (side:ℕ) : sideValues seen i side=[] := by
 refine filterMap_eq_nil_iff.mpr fun a ha=>?_
 simp[h a ha]

/-- As long as callbacks only read, every list is what was accepted for its side. -/
def Sides (s:State K V F) (seen:List (Acceptance K V F)) : Prop :=
 ∀ i side,(s.items i).values.getD side [] = sideValues seen i side

lemma sides_move
  (hn:Named s) (hr:Roles s) (hs:Sides s seen) (hok:ReadsOnly s l)
  (h:Move s l s') : Sides s' (seen++accepted s l s') := by
 intro i side
 have hacc:=account_move hn hr h
 rw[sideValues_append,← hs i side]
 by_cases hi:i < s.next
 · cases (hacc.items i hi).touched with
   | same hother hafter => rw[hafter,sideValues_eq_nil hother,append_nil]
   | accepted c j hone hp hafter =>
    rw[hafter,hone,append_side]
    by_cases hside:side=j.index
    · simp[sideValues,hside]
    · simp[sideValues,hside,Ne.symm hside]
   | joinCallback c outcome hl hrun hp hafter | expiryCallback c outcome hl hrun hp hafter =>
    subst hl
    rw[hafter,hok i hrun]
    exact (append_nil _).symm
 · have hle:s.next≤ i:=Nat.not_lt.mp hi
   have hnew:sideValues (accepted s l s') i side=[]:=
    sideValues_eq_nil (fun a ha (hai:a.item=i) => hi (hai▸hacc.acceptance a ha)) side
   rw[(fresh_move hn h hle).2,hn.fresh i hle,hnew]
   rfl

omit [DecidableEq K] in
lemma running_role {call:Call K V F} (h:running call=some i) :
  call.holds=some i∨call.ends=some i := by
 cases call with
 | callback j x => exact .inl h
 | expiry j x | expireCallback e => exact .inr h
 | _ => cases h

omit [DecidableEq K] in
lemma running_single (hr:Roles s) {c':ℕ} (h:running (s.calls c)=some i)
  (h':running (s.calls c')=some i) : c=c' := by
 have hclash:∀ {d d'},(s.calls d).holds=some i→(s.calls d').ends=some i→ False:=by
  intro d d' hd hd'
  have hfree:=hr.free (hr.ends d' i hd')
  rw[(hr.holds d i).mp hd] at hfree
  cases hfree
 rcases running_role h with hc | hc <;> rcases running_role h' with hc' | hc'
 · have hlock:=(hr.holds c i).mp hc
   rw[(hr.holds c' i).mp hc'] at hlock
   exact (Option.some.inj hlock).symm
 · exact (hclash hc hc').elim
 · exact (hclash hc' hc).elim
 · exact hr.single c c' i hc hc'

structure Ended (s:State K V F) (seen:List (ℕ × Ending)) : Prop where
 nodup : (seen.map Prod.fst).Nodup
 processed : ∀ i,(s.items i).processed = true ↔ i ∈ seen.map Prod.fst

lemma ended_move {seen:List (ℕ×Ending)} (hn:Named s)
  (hr:Roles s) (hs:Ended s seen) (h:Move s l s') : Ended s' (seen++endings s l s') := by
 have hacc:=account_move hn hr h
 refine ⟨?_,fun i=>?_⟩
 · rw[map_append]
   rcases hacc.ending with hnone | ⟨i,hone,hp,-⟩
   · rw[hnone,append_nil]
     exact hs.nodup
   · rw[hone]
     refine List.Nodup.append hs.nodup (nodup_singleton i) fun x hx hxi=>?_
     rw[mem_singleton.mp hxi,← hs.processed,hp] at hx
     cases hx
 · rw[map_append,mem_append,← hs.processed]
   by_cases hi:i < s.next
   · exact (hacc.items i hi).processed
   · have hle:s.next≤ i:=Nat.not_lt.mp hi
     rw[(fresh_move hn h hle).1,hn.fresh i hle]
     refine iff_of_false Bool.false_ne_true fun hmem=>?_
     rcases hmem with hmem | hmem
     · cases hmem
     · rcases hacc.ending with hnone | ⟨x,hone,-,hx⟩
       · rw[hnone] at hmem
         cases hmem
       · rw[hone] at hmem
         exact hi (mem_singleton.mp hmem▸hx)

structure Items (s:State K V F) : Prop where
 named : Named s
 roles : Roles s

lemma items_step (hs:Items s) (hstep:step s l=some s') :
  Items s' :=
 ⟨named_move hs.named (move_of_step hstep),roles_move hs.roles hs.named (move_of_step hstep)⟩

lemma items_initial (config:JoinStorageConfig) (metricsEnabled:Bool) :
  Items (.initial config metricsEnabled : State K V F) :=
 ⟨named_initial config metricsEnabled,roles_initial config metricsEnabled⟩

lemma run_items
  (hrun:exec step (.initial config metricsEnabled) labels=some s) : Items s :=
 exec_invariant (fun _ _ _ hs=>items_step hs) (items_initial config metricsEnabled) hrun

omit [DecidableEq K] in
lemma accepting_initial (config:JoinStorageConfig) (metricsEnabled:Bool) :
  Accepting (.initial config metricsEnabled : State K V F) [] :=
 ⟨fun _=>rfl,fun _ ha=>(by cases ha)⟩

lemma run_accepting
  (hrun:exec step (.initial config metricsEnabled) labels=some s) :
  Accepting s (observe step accepted (.initial config metricsEnabled) labels) := by
 have hinv:=exec_observe accepted (I:=fun s seen=>Items s∧Accepting s seen)
  (fun s l s' seen hs hstep=>⟨items_step hs.1 hstep,
   accepting_move hs.1.named hs.1.roles hs.2 (move_of_step hstep)⟩)
  ⟨items_initial config metricsEnabled,accepting_initial config metricsEnabled⟩ hrun
 exact hinv.2

lemma run_sides
  (hrun:exec step (.initial config metricsEnabled) labels=some s)
  (hreads:Along step ReadsOnly (.initial config metricsEnabled) labels) :
  Sides s (observe step accepted (.initial config metricsEnabled) labels) := by
 have hinv:=exec_observe_along accepted (I:=fun s seen=>Items s∧Sides s seen)
  (fun s l s' seen hs hok hstep=>⟨items_step hs.1 hstep,
   sides_move hs.1.named hs.1.roles hs.2 hok (move_of_step hstep)⟩)
  ⟨items_initial config metricsEnabled,fun _ _=>rfl⟩ hreads hrun
 exact hinv.2

lemma run_ended
  (hrun:exec step (.initial config metricsEnabled) labels=some s) :
  Ended s (observe step endings (.initial config metricsEnabled) labels) := by
 have hinv:=exec_observe endings (I:=fun s seen=>Items s∧Ended s seen)
  (fun s l s' seen hs hstep=>⟨items_step hs.1 hstep,
   ended_move hs.1.named hs.1.roles hs.2 (move_of_step hstep)⟩)
  ⟨items_initial config metricsEnabled,nodup_nil,fun _=>by simp[State.initial]⟩ hrun
 exact hinv.2

/-- In every run: a call that has returned appended its value to one item of its key, and
to no other; a step touches the lists of an item only by an acceptance, which appends
at the end of its side, or by a callback running on the item, so that as long as
callbacks only read, each list holds what was accepted for its side, in order; after
an item is processed only its own expiry callback can still touch its lists; callbacks
of an item do not overlap; and an item ends once. -/
theorem values_accepted_once (config : JoinStorageConfig) (metricsEnabled : Bool)
  (labels : List (Label K V F)) (s : State K V F)
  (hrun : exec step (.initial config metricsEnabled) labels = some s) :
  (∀ c j, s.calls c = .returned j → ∃ i,
   ((observe step accepted (.initial config metricsEnabled) labels).filter fun a => a.call == c) =
    [⟨c, i, j⟩] ∧ (s.items i).key = some j.key) ∧
  (∀ l s' i, step s l = some s' → i < s.next → Touched s l s' i (s'.items i).values) ∧
  (Along step ReadsOnly (.initial config metricsEnabled) labels → ∀ i side,
   (s.items i).values.getD side [] =
    sideValues (observe step accepted (.initial config metricsEnabled) labels) i side) ∧
  (∀ l s' i, step s l = some s' → (s.items i).processed = true →
   (∀ c outcome, l = .expiry c outcome → running (s.calls c) ≠ some i) →
   (s'.items i).values = (s.items i).values) ∧
  (∀ c c' i, running (s.calls c) = some i → running (s.calls c') = some i → c = c') ∧
  ((observe step endings (.initial config metricsEnabled) labels).map Prod.fst).Nodup ∧
  (∀ i, (s.items i).processed = true ↔
   i ∈ (observe step endings (.initial config metricsEnabled) labels).map Prod.fst) := by
 have hitems:=run_items hrun
 have hacc:=run_accepting hrun
 have hended:=run_ended hrun
 have htouched:∀ l s' i,step s l=some s'→ i < s.next→ Touched s l s' i (s'.items i).values:=
  fun l s' i hstep hi =>
   ((account_move hitems.named hitems.roles (move_of_step hstep)).items i hi).touched
 refine ⟨fun c j hc=>?_,htouched,run_sides hrun,fun l s' i hstep hp hnot=>?_,
  fun c c' i=>running_single hitems.roles,hended.nodup,hended.processed⟩
 · have hcall:=hacc.calls c
   rw[hc] at hcall
   obtain ⟨i,hi⟩:=hcall
   have hmem:(⟨c,i,j⟩ : Acceptance K V F) ∈
    observe step accepted (.initial config metricsEnabled) labels:=by
    refine (mem_filter (p := fun a=>a.call == c)).mp ?_ |>.1
    rw[hi]
    exact mem_singleton_self _
   exact ⟨i,hi,hacc.named _ hmem⟩
 · have hi:i < s.next:=by
    by_contra hlt
    rw[hitems.named.fresh i (Nat.not_lt.mp hlt)] at hp
    cases hp
   cases htouched l s' i hstep hi with
   | same hother hafter => exact hafter
   | accepted c j hone hopen hafter | joinCallback c outcome hl hrun hopen hafter =>
    rw[hopen] at hp
    cases hp
   | expiryCallback c outcome hl hrun hopen hafter => exact absurd hrun (hnot c outcome hl)

def oneValue : List (Label ℕ ℕ Unit) :=
 [.start,.joinValue 0 { deadline := some 0 } 7 0 5 (some ()),.find 0,.lock 0,
  .callback 0 (.returned false [[5]])]

theorem values_accepted_once_oneValue : ∃ s j, exec step (.initial {} false) oneValue = some s ∧
  s.calls 0 = .returned j ∧ ∃ i,
   ((observe step accepted (.initial {} false) oneValue).filter fun a => a.call == 0) = [⟨0, i, j⟩] ∧
    (s.items i).key = some j.key :=
 ⟨_,_,rfl,rfl,(values_accepted_once {} false oneValue _ rfl).1 0 _ rfl⟩

def expiringRun : List (Label ℕ ℕ Unit) :=
 oneValue ++ [.timer 0,.expire 1 0,.expireLock 1]

theorem expiringRun_clears : ∃ s s', exec step (.initial {} false) expiringRun = some s ∧
  step s (.expiry 1 (.returned false [])) = some s' ∧ (s.items 0).processed = true ∧
  (s.items 0).values = [[5]] ∧ (s'.items 0).values = [] :=
 ⟨_,_,rfl,rfl,rfl,rfl,rfl⟩

end ServiceLib.JoinStorageItems
