import Mathlib.Data.List.Nodup
import ServiceLib.JoinStorageItems

set_option autoImplicit false

/-!
# The two generations of the join storage and their metrics

The items a step takes out of the generations are read off the states around it.
-/
namespace ServiceLib.JoinStorageMaps
open Generations JoinStorage JoinStorageItems Transition List

variable {K V F:Type} [DecidableEq K]

def left (s s':State K V F) : List ℕ :=
 (List.range s.next).filter fun i=>i ∈ s.storedItems ∧ i ∉ s'.storedItems

def evicting : Call K V F → Bool
 | .removeExpired _ _ | .removeEvicted _ => true
 | _ => false

def evicted (s:State K V F) (l:Label K V F) (s':State K V F) : List ℕ :=
 match l with
 | .remove c => if evicting (s.calls c) then left s s' else []
 | _ => []

variable {l:Label K V F} {s s':State K V F} {seen:List ℕ}

omit [DecidableEq K] in
lemma evicted_quiet (hl:l.Quiet) (s s':State K V F) : evicted s l s'=[] := by
 cases l with
 | remove c => exact hl.elim
 | _ => rfl

lemma bound_move (hn:Named s) (h:Move s l s') {k:K}
  {i:ℕ} (hb:s'.stored.Bound k i) : s.stored.Bound k i∨i=s.next := by
 cases h with
 | rotate h =>
  rcases h with rfl | rfl
  · exact .inl hb
  · exact .inl ((Store.bound_absorb hn.separate k i).mp hb)
 | created h hrun hcur hprev =>
  rcases (Store.bound_emplace hcur _ k i).mp hb with hb | hb
  · exact .inl hb
  · exact .inr hb.2
 | moved h => exact .inl ((Store.bound_promote hn.separate _ _ k i).mp hb)
 | removedJoined h | removedExpired h | removedEvicted h =>
  exact .inl ((Store.bound_removeSame _ _ _ k i).mp hb).1
 | stopped h hstop => exact absurd hb (not_bound_empty k i)
 | _ => exact .inl hb

lemma left_removeSame (hn:Named s) {key:K} {item:ℕ}
  (hkey:(s.items item).key=some key) (hstored:s'.stored=s.stored.removeSame key item) :
  left s s'=if s.stored.Bound key item then [item] else [] := by
 have hleft:∀ i,(i∈s.storedItems∧i∉s'.storedItems)↔i=item∧s.stored.Bound key item:=by
  intro i
  simp only[mem_storedItems,hstored,Store.bound_removeSame]
  constructor
  · rintro ⟨⟨k,hk⟩,hnot⟩
    have hsame:k=key∧i=item:=by
     by_contra hne
     exact hnot ⟨k,hk,hne⟩
    obtain ⟨rfl,rfl⟩:=hsame
    exact ⟨rfl,hk⟩
  · rintro ⟨rfl,hb⟩
    refine ⟨⟨key,hb⟩,?_⟩
    rintro ⟨k,hk,hne⟩
    have hk':=hn.stored k i hk
    rw[hkey] at hk'
    exact hne ⟨(Option.some.inj hk').symm,rfl⟩
 have hfilter:left s s'=(List.range s.next).filter fun i=>i=item∧s.stored.Bound key item:=
  filter_congr fun i _=>decide_eq_decide.mpr (hleft i)
 rw[hfilter]
 by_cases hb:s.stored.Bound key item
 · simp only[hb,and_true]
   rw[filter_eq,count_eq_one_of_mem nodup_range (mem_range.mpr (hn.lt hkey))]
   rfl
 · simp[hb]

structure Counted (s:State K V F) (seen:List ℕ) : Prop where
 count : s.metricsEnabled = true → s.count = s.stored.total
 evictions : s.evictions = seen.length
 evictionsTotal : s.metricsEnabled = true → s.evictionsTotal = seen.length
 nodup : seen.Nodup
 gone : ∀ i ∈ seen,i < s.next ∧ i ∉ s.storedItems

lemma gone_move (hn:Named s) (h:Move s l s') {i:ℕ}
  (hlt:i < s.next) (hgone:i∉s.storedItems) : i < s'.next∧i∉s'.storedItems := by
 refine ⟨?_,fun hi=>?_⟩
 · cases h with
   | created h hrun hcur hprev => exact Nat.lt_succ_of_lt hlt
   | _ => exact hlt
 · obtain ⟨k,hk⟩:=mem_storedItems.mp hi
   rcases bound_move hn h hk with hk | hk
   · exact hgone (mem_storedItems.mpr ⟨k,hk⟩)
   · omega

lemma Counted.same (hs:Counted s seen)
  (hn:Named s) (h:Move s l s') (hevicted:evicted s l s'=[])
  (hmetrics:s'.metricsEnabled=s.metricsEnabled) (hevictions:s'.evictions=s.evictions)
  (hevictionsTotal:s'.evictionsTotal=s.evictionsTotal)
  (hcount:s'.metricsEnabled=true→ s'.count - s.count=s'.stored.total - s.stored.total) :
  Counted s' (seen++evicted s l s') := by
 rw[hevicted,append_nil]
 refine ⟨fun hm=>?_,hevictions.trans hs.evictions,fun hm=>?_,hs.nodup,fun i hi=>?_⟩
 · have hbefore:=hs.count (hmetrics▸hm)
   have hchange:=hcount hm
   omega
 · exact hevictionsTotal.trans (hs.evictionsTotal (hmetrics▸hm))
 · exact gone_move hn h (hs.gone i hi).1 (hs.gone i hi).2

lemma Counted.removed {c:ℕ} {call:Call K V F} {key:K}
  {item:ℕ} {eviction:Bool} (hs:Counted s seen) (hn:Named s)
  (h:Move s (.remove c) ((s.removeIfSame key item eviction).setCall c call))
  (hcall:evicting (s.calls c)=eviction) (hkey:(s.items item).key=some key) :
  Counted ((s.removeIfSame key item eviction).setCall c call)
   (seen++evicted s (.remove c) ((s.removeIfSame key item eviction).setCall c call)) := by
 have htotal:=hn.separate.total_removeSame key item
 have hleft:left s ((s.removeIfSame key item eviction).setCall c call)=_:=
  left_removeSame hn hkey rfl
 have hevicted:evicted s (.remove c) ((s.removeIfSame key item eviction).setCall c call) =
  if s.stored.Bound key item∧eviction=true then [item] else []:=by
  simp only[evicted,hcall,hleft]
  cases eviction <;> simp
 have hcount:s.metricsEnabled=true →
  (if s.stored.Bound key item∧s.metricsEnabled=true then s.count - 1 else s.count) - s.count =
   ((s.stored.removeSame key item).total : ℤ) - s.stored.total:=by
  intro hm
  by_cases hb:s.stored.Bound key item
  · rw[if_pos hb] at htotal
    rw[if_pos ⟨hb,hm⟩]
    omega
  · rw[if_neg hb] at htotal
    rw[if_neg fun h=>hb h.1]
    omega
 by_cases hone:s.stored.Bound key item∧eviction=true
 · rw[if_pos hone] at hevicted
   rw[hevicted]
   refine ⟨fun hm=>?_,?_,fun hm=>?_,?_,fun i hi=>?_⟩
   · have hbefore:=hs.count hm
     have hchange:=hcount hm
     change (if s.stored.Bound key item∧s.metricsEnabled=true then s.count - 1 else s.count) =
      ((s.stored.removeSame key item).total : ℤ)
     omega
   · change (if s.stored.Bound key item∧eviction=true then s.evictions+1 else s.evictions)=_
     rw[if_pos hone,hs.evictions,length_append,length_singleton]
   · change (if s.stored.Bound key item∧eviction=true∧s.metricsEnabled=true then
      s.evictionsTotal+1 else s.evictionsTotal)=_
     rw[if_pos ⟨hone.1,hone.2,hm⟩,hs.evictionsTotal hm,length_append,length_singleton]
   · refine List.Nodup.append hs.nodup (nodup_singleton item) fun i hi hitem=>?_
     rw[mem_singleton.mp hitem] at hi
     exact (hs.gone item hi).2 (mem_storedItems.mpr ⟨key,hone.1⟩)
   · rcases mem_append.mp hi with hi | hi
     · exact gone_move hn h (hs.gone i hi).1 (hs.gone i hi).2
     · have hmem:i∈left s ((s.removeIfSame key item eviction).setCall c call):=by
        rw[hleft,if_pos hone.1]
        exact hi
       obtain ⟨hlt,hgone⟩:=mem_filter.mp hmem
       exact ⟨mem_range.mp hlt,(of_decide_eq_true hgone).2⟩
 · rw[if_neg hone] at hevicted
   refine hs.same hn h hevicted rfl (if_neg hone) (if_neg fun hno=>hone ⟨hno.1,hno.2.1⟩) hcount

lemma counted_move (hn:Named s)
  (hs:Counted s seen) (h:Move s l s') : Counted s' (seen++evicted s l s') := by
 have hmove:=h
 cases h with
 | quiet hl hrun hstill hhandlers =>
  exact hs.same hn hmove (evicted_quiet hl _ _) rfl rfl rfl (fun _=>(Int.sub_self _).trans (Int.sub_self _).symm)
 | rotate h =>
  refine hs.same hn hmove rfl rfl rfl rfl fun _=>?_
  rcases h with rfl | rfl
  · exact (Int.sub_self _).trans (Int.sub_self _).symm
  · change s.count - s.count=((Store.total ⟨∅,_⟩ : ℕ) : ℤ) - s.stored.total
    rw[hn.separate.total_absorb]
    omega
 | @created c j h hrun hcur hprev =>
  refine hs.same hn hmove rfl rfl rfl rfl fun (hm:s.metricsEnabled=true) => ?_
  change (if s.metricsEnabled=true then s.count+1 else s.count) - s.count =
   ((s.stored.emplace j.key s.next).total : ℤ) - s.stored.total
  rw[if_pos hm,Store.total_emplace hcur]
  omega
 | @moved c j i h =>
  refine hs.same hn hmove rfl rfl rfl rfl fun _=>?_
  change s.count - s.count=((s.stored.promote j.key i).total : ℤ) - s.stored.total
  rw[hn.separate.total_promote]
  omega
 | removedJoined h => exact hs.removed hn hmove (by rw[h]; rfl) (hn.calls _ _ _ (by rw[h]; rfl))
 | removedExpired h => exact hs.removed hn hmove (by rw[h]; rfl) (hn.calls _ _ _ (by rw[h]; rfl))
 | removedEvicted h => exact hs.removed hn hmove (by rw[h]; rfl) (hn.calls _ _ _ (by rw[h]; rfl))
 | stopped h hstop =>
  refine hs.same hn hmove rfl rfl rfl rfl fun (hm:s.metricsEnabled=true) => ?_
  change (if s.metricsEnabled=true∧s.stored.total≠0 then s.count - s.stored.total else s.count) -
   s.count=((0 : ℕ) : ℤ) - s.stored.total
  split
  · omega
  · next hnot =>
    have hzero:s.stored.total=0:=by
     by_contra hne
     exact hnot ⟨hm,hne⟩
    omega
 | _ => exact hs.same hn hmove rfl rfl rfl rfl (fun _=>(Int.sub_self _).trans (Int.sub_self _).symm)

lemma metricsEnabled_move (h:Move s l s') :
  s'.metricsEnabled=s.metricsEnabled := by
 cases h <;> rfl

lemma rotate_bound (hn:Named s) (hstep:step s .rotate=some s') (k:K)
  (i:ℕ) : s'.stored.Bound k i↔s.stored.Bound k i := by
 cases move_of_step hstep with
 | quiet hl hrun hstill hhandlers => exact hl.elim
 | rotate h =>
  rcases h with rfl | rfl
  · rfl
  · exact Store.bound_absorb hn.separate k i

/-- In every run no key is in both generations, a rotation keeps every binding, the gauge
is the number of entries, and the eviction counters count the items that expiries took
out of the maps, no item twice. -/
theorem maps_consistent (config : JoinStorageConfig) (metricsEnabled : Bool)
  (labels : List (Label K V F)) (s : State K V F)
  (hrun : exec step (.initial config metricsEnabled) labels = some s) :
  s.stored.current.Disjoint s.stored.previous ∧
  (∀ s', step s .rotate = some s' → ∀ k i, s'.stored.Bound k i ↔ s.stored.Bound k i) ∧
  (metricsEnabled = true → s.count = size s.stored.current + size s.stored.previous) ∧
  s.evictions = (observe step evicted (.initial config metricsEnabled) labels).length ∧
  (metricsEnabled = true →
   s.evictionsTotal = (observe step evicted (.initial config metricsEnabled) labels).length) ∧
  (observe step evicted (.initial config metricsEnabled) labels).Nodup := by
 have hinv:=exec_observe evicted
  (I := fun s seen=>Items s∧Counted s seen∧s.metricsEnabled=metricsEnabled)
  (fun s l s' seen hs hstep=>⟨items_step hs.1 hstep,
   counted_move hs.1.named hs.2.1 (move_of_step hstep),
   (metricsEnabled_move (move_of_step hstep)).trans hs.2.2⟩)
  ⟨items_initial config metricsEnabled,
   ⟨fun _=>rfl,rfl,fun _=>rfl,nodup_nil,fun _ hi=>(by cases hi)⟩,rfl⟩ hrun
 obtain ⟨hitems,hcounted,hmetrics⟩:=hinv
 exact ⟨hitems.named.separate,fun s' hstep=>rotate_bound hitems.named hstep,
  fun hm=>hcounted.count (hmetrics.trans hm),hcounted.evictions,
  fun hm=>hcounted.evictionsTotal (hmetrics.trans hm),hcounted.nodup⟩

def evictingRun : List (Label ℕ ℕ Unit) :=
 expiringRun ++ [.expiry 1 (.returned false [[5]]),.remove 1]

theorem maps_consistent_evicting : ∃ s, exec step (.initial {} true) evictingRun = some s ∧
  s.evictions = 1 ∧ s.evictions = (observe step evicted (.initial {} true) evictingRun).length :=
 ⟨_,rfl,rfl,(maps_consistent {} true evictingRun _ rfl).2.2.2.1⟩

end ServiceLib.JoinStorageMaps
