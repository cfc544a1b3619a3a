import Mathlib.Algebra.BigOperators.Fin
import Mathlib.Data.Finmap
import ServiceLib.RotatingMap
import ServiceLib.Simulation

set_option autoImplicit false

/-!
# The rotating map is a finite map

The specification is one finite map, for which a rotation does nothing.
-/
namespace ServiceLib.RotatingMapRefinement
open Generations RotatingMap Simulation Function List

variable {K V W E:Type} [DecidableEq K]

def specify : Finmap (fun _:K=>V) × W → Op K V W E → Answer V E × (Finmap (fun _:K=>V) × W)
 | (m,w),.set key value =>
  if key ∈ m then (.set (.error {}),(m,w)) else (.set (.ok ()),(m.insert key value,w))
 | (m,w),.getOrCreate key factory =>
  match m.lookup key with
  | some value => (.getOrCreate (.ok (value,true)),(m,w))
  | none =>
   match factory w with
   | (.error error,w') => (.getOrCreate (.error error),(m,w'))
   | (.ok value,w') => (.getOrCreate (.ok (value,false)),(m.insert key value,w'))
 | (m,w),.get key => (.value (m.lookup key),(m,w))
 | (m,w),.pop key => (.value (m.lookup key),(m.erase key,w))
 | (m,w),.size => (.size m.keys.card,(m,w))
 | (m,w),.rotateShard _ | (m,w),.rotate => (.done,(m,w))

structure Refines (hash:K → ℕ) (s:State K V) (m:Finmap fun _ : K=>V) : Prop where
 separate : ∀ i,(s.shards i).stored.Separate
 bound : ∀ i k v,(s.shards i).stored.Bound k v ↔ shardFor hash k = i ∧ m.lookup k = some v

variable {hash:K → ℕ} {s:State K V} {m:Finmap fun _ : K=>V} {key:K}

lemma Refines.lookup (h:Refines hash s m)
  (k:K) : m.lookup k=(((s.shards (shardFor hash k)).stored.current.lookup k).or
   ((s.shards (shardFor hash k)).stored.previous.lookup k)) := by
 refine Option.ext fun v=>?_
 have hb:=h.bound (shardFor hash k) k v
 simp only[true_and] at hb
 rw[← hb,Option.or_eq_some_iff,Store.Bound]
 refine or_congr_right ⟨fun hv=>⟨?_,hv⟩,fun hv=>hv.2⟩
 exact AList.lookup_eq_none.mpr fun hc=>h.separate _ k hc (mem_of_lookup hv)

lemma Refines.setStored {m':Finmap fun _ : K=>V}
  (h:Refines hash s m) {stored:Store K V} (hsep:stored.Separate)
  (hbound:∀ k v,stored.Bound k v↔shardFor hash k=shardFor hash key∧m'.lookup k=some v)
  (hother:∀ k,k≠key→ m'.lookup k=m.lookup k) :
  Refines hash (s.setStored (shardFor hash key) stored) m' := by
 refine ⟨fun i=>?_,fun i k v=>?_⟩
 · change (update s.shards _ _ i).stored.Separate
   rw[update_apply]
   split
   · exact hsep
   · exact h.separate i
 · change (update s.shards _ _ i).stored.Bound k v↔_
   rw[update_apply]
   split
   · next hi =>
     rw[hi]
     exact hbound k v
   · next hi =>
     rw[h.bound]
     refine and_congr_right fun hk=>?_
     rw[hother]
     rintro rfl
     exact hi hk.symm

lemma Refines.insert
  (h:Refines hash s m) (value:V) (hnone:m.lookup key=none) :
  Refines hash (s.setStored (shardFor hash key)
   ((s.shards (shardFor hash key)).stored.emplace key value)) (m.insert key value) := by
 have hlookup:=h.lookup key
 rw[hnone] at hlookup
 obtain ⟨hcur,hprev⟩:=Option.or_eq_none_iff.mp hlookup.symm
 refine h.setStored ((h.separate _).emplace hprev value) (fun k v=>?_)
  (fun k hk=>Finmap.lookup_insert_of_ne m hk)
 rw[Store.bound_emplace hcur,h.bound]
 by_cases hk:k=key
 · subst hk
   simp[hnone,eq_comm]
 · simp[hk,Finmap.lookup_insert_of_ne m hk]

lemma Refines.erase
  (h:Refines hash s m) {stored:Store K V} (hsep:stored.Separate)
  (hbound:∀ k v,stored.Bound k v↔k≠key∧(s.shards (shardFor hash key)).stored.Bound k v) :
  Refines hash (s.setStored (shardFor hash key) stored) (m.erase key) := by
 refine h.setStored hsep (fun k v=>?_) (fun k hk=>Finmap.lookup_erase_ne hk)
 rw[hbound,h.bound]
 by_cases hk:k=key
 · subst hk
   simp[Finmap.lookup_erase]
 · simp[hk,Finmap.lookup_erase_ne hk]

lemma Refines.total (h:Refines hash s m)
  (i:Fin kRotatingMapShardCount) :
  (s.shards i).stored.total=(m.keys.filter fun k=>shardFor hash k=i).card := by
 have hkeys:(s.shards i).stored.keys.toFinset=m.keys.filter fun k=>shardFor hash k=i:=by
  ext k
  rw[mem_toFinset,Store.mem_keys_iff,Finset.mem_filter,Finmap.mem_keys,Finmap.mem_iff]
  simp only[h.bound,exists_and_left]
  exact and_comm
 rw[← hkeys,toFinset_card_of_nodup (h.separate i).nodup_keys,Store.length_keys]

lemma foldl_add_eq_sum {α:Type} (f:α→ℕ) (l:List α) (n:ℕ) :
  l.foldl (fun result a=>result+f a) n=n+(l.map f).sum := by
 induction l generalizing n with
 | nil => rfl
 | cons a l ih =>
  rw[foldl_cons,ih,map_cons,sum_cons]
  omega

lemma Refines.size (h:Refines hash s m) :
  s.size=m.keys.card := by
 calc
  s.size=∑ i,(s.shards i).stored.total:=by
   rw[State.size,foldl_add_eq_sum,Nat.zero_add,Fin.sum_univ_def]
  _=∑ i,(m.keys.filter fun k=>shardFor hash k=i).card := Finset.sum_congr rfl fun i _=>h.total i
  _=m.keys.card := (Finset.card_eq_sum_card_fiberwise fun k _=>Finset.mem_univ (shardFor hash k)).symm

lemma rotate_stored (minCapacity:ℕ) {shard:Shard K V} (hsep:shard.stored.Separate) :
  (shard.rotate minCapacity).stored.Separate ∧
   ∀ k v,(shard.rotate minCapacity).stored.Bound k v↔shard.stored.Bound k v := by
 simp only[Shard.rotate]
 split
 · exact ⟨hsep,fun _ _=>Iff.rfl⟩
 · refine ⟨Store.separate_empty _,Store.bound_gathered hsep fun k=>?_⟩
   rw[lookup_absorb,lookup_absorb_empty]
   rfl

lemma Refines.rotateShard
  (h:Refines hash s m) (i:Fin kRotatingMapShardCount) : Refines hash (s.rotateShard i) m := by
 obtain ⟨hsep,hbound⟩:=rotate_stored s.minCapacity (h.separate i)
 refine ⟨fun x=>?_,fun x k v=>?_⟩
 · change (update s.shards i _ x).stored.Separate
   rw[update_apply]
   split
   · exact hsep
   · exact h.separate x
 · change (update s.shards i _ x).stored.Bound k v↔_
   rw[update_apply]
   split
   · next hx => rw[hbound,hx,h.bound]
   · exact h.bound x k v

lemma Refines.rotate (h:Refines hash s m) :
  Refines hash s.rotate m := by
 have hfold:∀ (l:List (Fin kRotatingMapShardCount)) (s:State K V),Refines hash s m →
  Refines hash (l.foldl State.rotateShard s) m:=by
  intro l
  induction l with
  | nil => exact fun _ hs=>hs
  | cons i l ih => exact fun s hs=>ih _ (hs.rotateShard i)
 exact hfold _ s h

lemma Refines.mem_iff (h:Refines hash s m)
  (k:K) : k∈(s.shards (shardFor hash k)).stored.current ∨
   k∈(s.shards (shardFor hash k)).stored.previous↔k∈m := by
 rw[← Finmap.lookup_isSome,h.lookup,Option.isSome_or,Bool.or_eq_true,AList.lookup_isSome,
  AList.lookup_isSome]

def Related (hash:K → ℕ) (concrete:State K V × W) (abstract:Finmap (fun _:K=>V) × W) : Prop :=
 Refines hash concrete.1 abstract.1 ∧ concrete.2 = abstract.2

lemma simulates_finmap (hash:K→ℕ) :
  Simulates (apply hash:State K V×W→ Op K V W E→_) specify (Related hash) := by
 rintro ⟨s,w⟩ ⟨m,w'⟩ op ⟨h,hw⟩
 change Refines hash s m at h
 change w=w' at hw
 subst hw
 cases op with
 | set key value =>
  by_cases hk:key∈m
  · simp only[apply,State.set,specify,if_pos ((h.mem_iff key).mpr hk),if_pos hk]
    exact ⟨trivial,h,rfl⟩
  · simp only[apply,State.set,specify,if_neg (mt (h.mem_iff key).mp hk),if_neg hk]
    exact ⟨trivial,h.insert value (Finmap.lookup_eq_none.mpr hk),rfl⟩
 | getOrCreate key factory =>
  have hlookup:=h.lookup key
  cases hcur:(s.shards (shardFor hash key)).stored.current.lookup key with
  | some value =>
   rw[hcur,Option.some_or] at hlookup
   simp only[apply,State.getOrCreate,specify,hcur,hlookup]
   exact ⟨trivial,h,rfl⟩
  | none =>
   rw[hcur,Option.none_or] at hlookup
   cases hprev:(s.shards (shardFor hash key)).stored.previous.lookup key with
   | some value =>
    rw[hprev] at hlookup
    simp only[apply,State.getOrCreate,specify,hcur,hprev,hlookup]
    exact ⟨trivial,h,rfl⟩
   | none =>
    rw[hprev] at hlookup
    simp only[apply,State.getOrCreate,specify,hcur,hprev,hlookup]
    rcases factory w with ⟨result,w'⟩
    cases result with
    | error error => exact ⟨rfl,h,rfl⟩
    | ok value => exact ⟨rfl,h.insert value hlookup,rfl⟩
 | get key =>
  refine ⟨congrArg Answer.value ?_,h,rfl⟩
  rw[h.lookup key,State.get]
  cases (s.shards (shardFor hash key)).stored.current.lookup key with
  | some value => rfl
  | none => rfl
 | pop key =>
  have hlookup:=h.lookup key
  cases hcur:(s.shards (shardFor hash key)).stored.current.lookup key with
  | some value =>
   rw[hcur,Option.some_or] at hlookup
   simp only[apply,State.pop,specify,hcur,hlookup]
   exact ⟨trivial,h.erase ((h.separate _).eraseCurrent key)
    ((h.separate _).bound_eraseCurrent (mem_of_lookup hcur)),rfl⟩
  | none =>
   rw[hcur,Option.none_or] at hlookup
   cases hprev:(s.shards (shardFor hash key)).stored.previous.lookup key with
   | some value =>
    rw[hprev] at hlookup
    simp only[apply,State.pop,specify,hcur,hprev,hlookup]
    exact ⟨trivial,h.erase ((h.separate _).erasePrevious key) (Store.bound_erasePrevious hcur),rfl⟩
   | none =>
    rw[hprev] at hlookup
    simp only[apply,State.pop,specify,hcur,hprev,hlookup]
    have herase:m.erase key=m:=by
     refine Finmap.ext_lookup fun k=>?_
     by_cases hk:k=key
     · rw[hk,Finmap.lookup_erase,hlookup]
     · exact Finmap.lookup_erase_ne hk
    rw[herase]
    exact ⟨trivial,h,rfl⟩
 | size => exact ⟨congrArg Answer.size h.size,h,rfl⟩
 | rotateShard i => exact ⟨rfl,h.rotateShard i,rfl⟩
 | rotate => exact ⟨rfl,h.rotate,rfl⟩

lemma refines_empty (hash:K→ℕ) (minCapacity:ℕ) :
  Refines hash { minCapacity := minCapacity } (∅ : Finmap fun _ : K=>V) := by
 refine ⟨fun _=>Store.separate_empty _,fun i k v=>iff_of_false ?_ fun h=>?_⟩
 · rintro (h | h) <;> cases h
 · rw[Finmap.lookup_empty] at h
   cases h.2

/-- Every sequence of operations, with rotations of single shards or of all of them
anywhere between, is answered as by a finite map, and factories act on the world alike. -/
theorem answers_eq_finmap (hash : K → ℕ) (minCapacity : ℕ) (w : W) (ops : List (Op K V W E)) :
  (answers (apply hash) ({ minCapacity := minCapacity }, w) ops).1 =
   (answers specify ((∅ : Finmap fun _ : K => V), w) ops).1 ∧
  (answers (apply hash) ({ minCapacity := minCapacity }, w) ops).2.2 =
   (answers specify ((∅ : Finmap fun _ : K => V), w) ops).2.2 := by
 have hinit:Related hash (({ minCapacity:=minCapacity },w) : State K V×W) (∅,w) :=
  ⟨refines_empty hash minCapacity,rfl⟩
 obtain ⟨hanswers,hrelated⟩:=(simulates_finmap (E := E) hash).answers_eq hinit ops
 exact ⟨hanswers,hrelated.2⟩

end ServiceLib.RotatingMapRefinement
