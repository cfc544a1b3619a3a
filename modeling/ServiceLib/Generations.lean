import Mathlib.Data.List.AList

set_option autoImplicit false

/-!
# Maps kept in two generations

Entries are made in the current generation. From time to time both are gathered into the previous
one, from which entries may be promoted back. As long as no key is in both, the two together are
one map.
-/
namespace ServiceLib.Generations
open List Option

variable {K α:Type} [DecidableEq K]

def size (m:AList fun _ : K=>α) : ℕ :=
 m.entries.length

def tryEmplace (m:AList fun _ : K=>α) (k:K) (a:α) : AList fun _ : K=>α :=
 if k ∈ m then m else m.insert k a

def absorb (m:AList fun _ : K=>α) (entries:List (Sigma fun _:K=>α)) : AList fun _ : K=>α :=
 entries.foldl (fun m e=>tryEmplace m e.1 e.2) m

def eraseSame [DecidableEq α] (m:AList fun _ : K=>α) (k:K) (a:α) : AList fun _ : K=>α :=
 if m.lookup k = some a then m.erase k else m

lemma lookup_insert_eq (m:AList fun _ : K=>α) (k k':K) (a:α) :
  (m.insert k a).lookup k'=if k'=k then some a else m.lookup k' := by
 by_cases h:k'=k
 · rw[h,if_pos rfl,AList.lookup_insert]
 · rw[if_neg h,AList.lookup_insert_ne h]

lemma lookup_erase_eq (m:AList fun _ : K=>α) (k k':K) :
  (m.erase k).lookup k'=if k'=k then none else m.lookup k' := by
 by_cases h:k'=k
 · rw[h,if_pos rfl,AList.lookup_erase]
 · rw[if_neg h,AList.lookup_erase_ne h]

variable {m:AList fun _ : K=>α} {k:K} {a:α}

lemma mem_of_lookup (h:m.lookup k=some a) : k∈m := by
 rw[← AList.lookup_isSome,h]
 rfl

lemma size_insert_of_notMem (h:k∉m) (a:α) :
  size (m.insert k a)=size m+1 := by
 rw[size,AList.entries_insert_of_notMem h,length_cons]
 rfl

omit [DecidableEq K] in
lemma size_eq_keys (m:AList fun _ : K=>α) : size m=m.keys.length :=
 (length_map _).symm

lemma size_erase_of_mem (h:k∈m) :
  size (m.erase k)+1=size m := by
 have hpos:0 < m.keys.length:=length_pos_of_mem h
 rw[size_eq_keys,size_eq_keys,AList.keys_erase,length_erase_of_mem h]
 omega

lemma lookup_eraseSame [DecidableEq α] (m:AList fun _ : K=>α) (k k':K) (a b:α) :
  (eraseSame m k a).lookup k'=some b↔m.lookup k'=some b∧¬ (k'=k∧b=a) := by
 grind[eraseSame,lookup_erase_eq]

lemma size_eraseSame [DecidableEq α] (m:AList fun _ : K=>α) (k:K) (a:α) :
  size (eraseSame m k a)+(if m.lookup k=some a then 1 else 0)=size m := by
 unfold eraseSame
 split
 · next h => exact size_erase_of_mem (mem_of_lookup h)
 · rfl

lemma mem_eraseSame [DecidableEq α] {k':K}
  (h:k'∈eraseSame m k a) : k'∈m := by
 unfold eraseSame at h
 split at h
 · exact (AList.mem_erase.mp h).2
 · exact h

lemma lookup_tryEmplace (m:AList fun _ : K=>α) (k k':K) (a:α) :
  (tryEmplace m k a).lookup k'=(m.lookup k').or (if k'=k then some a else none) := by
 unfold tryEmplace
 split
 · next h =>
   by_cases hk:k'=k
   · subst hk
     obtain ⟨b,hb⟩:=isSome_iff_exists.mp (AList.lookup_isSome.mpr h)
     rw[hb,some_or]
   · rw[if_neg hk,or_none]
 · next h =>
   rw[lookup_insert_eq]
   by_cases hk:k'=k
   · subst hk
     rw[if_pos rfl,if_pos rfl,AList.lookup_eq_none.mpr h,none_or]
   · rw[if_neg hk,if_neg hk,or_none]

lemma lookup_absorb (m:AList fun _ : K=>α) (entries:List (Sigma fun _:K=>α)) (k:K) :
  (absorb m entries).lookup k=(m.lookup k).or (entries.dlookup k) := by
 induction entries generalizing m with
 | nil => exact (or_none).symm
 | cons e entries ih =>
  change (absorb (tryEmplace m e.1 e.2) entries).lookup k=_
  rw[ih,lookup_tryEmplace,Option.or_assoc]
  congr 1
  by_cases hk:k=e.1
  · subst hk
    rw[if_pos rfl,Option.some_or]
    exact (dlookup_cons_eq entries e.1 e.2).symm
  · rw[if_neg hk,Option.none_or,dlookup_cons_ne _ _ hk]

lemma size_absorb (m:AList fun _ : K=>α) (entries:List (Sigma fun _:K=>α))
  (hnodup:entries.NodupKeys) (hdisj:∀ k∈m,k∉entries.keys) :
  size (absorb m entries)=size m+entries.length := by
 induction entries generalizing m with
 | nil => rfl
 | cons e entries ih =>
  obtain ⟨hfresh,hrest⟩:=nodupKeys_cons.mp hnodup
  have hnot:e.1∉m:=fun h=>hdisj e.1 h mem_cons_self
  have hadd:tryEmplace m e.1 e.2=m.insert e.1 e.2:=if_neg hnot
  change size (absorb (tryEmplace m e.1 e.2) entries)=_
  rw[hadd,ih _ hrest,size_insert_of_notMem hnot,length_cons]
  · omega
  · intro k hk
    obtain rfl | hk:=(AList.mem_insert m).mp hk
    · exact hfresh
    · exact fun h=>hdisj k hk (mem_cons_of_mem _ h)

lemma lookup_absorb_empty (m:AList fun _ : K=>α) (k:K) :
  (absorb ∅ m.entries).lookup k=m.lookup k := by
 rw[lookup_absorb,AList.lookup_empty,none_or]
 rfl

structure Store (K α:Type) where
 current : AList fun _ : K=>α := ∅
 previous : AList fun _ : K=>α := ∅

variable {g:Store K α}

namespace Store

def total (g:Store K α) : ℕ :=
 size g.current + size g.previous

def Bound (g:Store K α) (k:K) (a:α) : Prop :=
 g.current.lookup k = some a ∨ g.previous.lookup k = some a

instance decidableBound [DecidableEq α] (g:Store K α) (k:K) (a:α) : Decidable (g.Bound k a) :=
 inferInstanceAs (Decidable (_ ∨ _))

def Separate (g:Store K α) : Prop :=
 g.current.Disjoint g.previous

def emplace (g:Store K α) (k:K) (a:α) : Store K α :=
 { g with current := tryEmplace g.current k a }

def removeSame [DecidableEq α] (g:Store K α) (k:K) (a:α) : Store K α :=
 ⟨eraseSame g.current k a,eraseSame g.previous k a⟩

def promote [DecidableEq α] (g:Store K α) (k:K) (a:α) : Store K α :=
 if g.previous.lookup k = some a then ⟨g.current.insert k a,g.previous.erase k⟩ else g

lemma Separate.unique (hg:g.Separate) {b:α} (ha:g.Bound k a)
  (hb:g.Bound k b) : a=b := by
 have hsep:∀ {x y:α},g.current.lookup k=some x→ g.previous.lookup k=some y→ False:=
  fun hx hy=>hg k (mem_of_lookup hx) (mem_of_lookup hy)
 cases ha with
 | inl ha =>
  cases hb with
  | inl hb => exact some.inj (ha.symm.trans hb)
  | inr hb => exact (hsep ha hb).elim
 | inr ha =>
  cases hb with
  | inl hb => exact (hsep hb ha).elim
  | inr hb => exact some.inj (ha.symm.trans hb)

def keys (g:Store K α) : List K :=
 g.current.keys ++ g.previous.keys

omit [DecidableEq K] in
lemma length_keys (g:Store K α) : g.keys.length=g.total := by
 rw[keys,length_append,total,size_eq_keys,size_eq_keys]

omit [DecidableEq K] in
lemma Separate.nodup_keys (hg:g.Separate) : g.keys.Nodup := by
 refine nodup_append.mpr ⟨g.current.keys_nodup,g.previous.keys_nodup,fun k hk k' hk' heq=>?_⟩
 exact hg k hk (heq▸hk')

lemma mem_keys_iff : k∈g.keys↔∃ a,g.Bound k a := by
 rw[keys,mem_append,← AList.mem_keys,← AList.mem_keys,← AList.lookup_isSome,
  ← AList.lookup_isSome,isSome_iff_exists,isSome_iff_exists,← exists_or]
 rfl

lemma bound_emplace (hcur:g.current.lookup k=none) (a:α) (k':K)
  (b:α) : (g.emplace k a).Bound k' b↔g.Bound k' b∨(k'=k∧b=a) := by
 change (tryEmplace g.current k a).lookup k'=some b∨g.previous.lookup k'=some b↔_
 rw[lookup_tryEmplace,Bound]
 by_cases hk:k'=k
 · subst hk
   rw[hcur,none_or,if_pos rfl,Option.some.injEq,or_comm,eq_comm (a := a)]
   simp
 · simp[hk]

lemma Separate.emplace (hg:g.Separate) (hprev:g.previous.lookup k=none)
  (a:α) : (g.emplace k a).Separate := by
 intro k' hk'
 change k'∈tryEmplace g.current k a at hk'
 unfold tryEmplace at hk'
 split at hk'
 · exact hg k' hk'
 · obtain rfl | hk':=(AList.mem_insert _).mp hk'
   · exact AList.lookup_eq_none.mp hprev
   · exact hg k' hk'

lemma total_emplace (hcur:g.current.lookup k=none) (a:α) :
  (g.emplace k a).total=g.total+1 := by
 have hnot:k∉g.current:=AList.lookup_eq_none.mp hcur
 have hadd:(g.emplace k a).current=g.current.insert k a:=if_neg hnot
 rw[total,hadd,size_insert_of_notMem hnot]
 change _=size g.current+size g.previous+1
 exact Nat.add_right_comm _ _ _

lemma bound_removeSame [DecidableEq α] (g:Store K α) (k:K) (a:α) (k':K) (b:α) :
  (g.removeSame k a).Bound k' b↔g.Bound k' b∧¬ (k'=k∧b=a) := by
 change (eraseSame g.current k a).lookup k'=some b∨(eraseSame g.previous k a).lookup k'=some b↔_
 rw[lookup_eraseSame,lookup_eraseSame,← or_and_right]
 rfl

lemma Separate.removeSame [DecidableEq α] (hg:g.Separate) (k:K) (a:α) :
  (g.removeSame k a).Separate :=
 fun k' hk' h=>hg k' (mem_eraseSame hk') (mem_eraseSame h)

lemma Separate.total_removeSame [DecidableEq α] (hg:g.Separate) (k:K) (a:α) :
  (g.removeSame k a).total+(if g.Bound k a then 1 else 0)=g.total := by
 have hcur:=size_eraseSame g.current k a
 have hprev:=size_eraseSame g.previous k a
 change size (eraseSame g.current k a)+size (eraseSame g.previous k a)+_ =
  size g.current+size g.previous
 by_cases hc:g.current.lookup k=some a
 · have hp:¬ g.previous.lookup k=some a:=fun hp=>hg k (mem_of_lookup hc) (mem_of_lookup hp)
   rw[if_pos hc] at hcur
   rw[if_neg hp] at hprev
   have hb:g.Bound k a:=.inl hc
   rw[if_pos hb]
   omega
 · have hb:g.Bound k a↔g.previous.lookup k=some a:=or_iff_right hc
   rw[if_neg hc] at hcur
   simp only[hb]
   omega

lemma Separate.bound_eraseCurrent (hg:g.Separate) (hk:k∈g.current) (k':K)
  (a:α) : Bound { g with current := g.current.erase k } k' a↔k'≠k∧g.Bound k' a := by
 change (g.current.erase k).lookup k'=some a∨g.previous.lookup k'=some a↔_
 rw[lookup_erase_eq,Bound]
 by_cases hk':k'=k
 · subst hk'
   have hprev:g.previous.lookup k'=none:=AList.lookup_eq_none.mpr (hg k' hk)
   simp[hprev]
 · simp[hk']

lemma bound_erasePrevious (hk:g.current.lookup k=none) (k':K) (a:α) :
  Bound { g with previous := g.previous.erase k } k' a↔k'≠k∧g.Bound k' a := by
 change g.current.lookup k'=some a∨(g.previous.erase k).lookup k'=some a↔_
 rw[lookup_erase_eq,Bound]
 by_cases hk':k'=k
 · subst hk'
   simp[hk]
 · simp[hk']

lemma Separate.eraseCurrent (hg:g.Separate) (k:K) :
  Separate { g with current := g.current.erase k } :=
 fun k' hk'=>hg k' (AList.mem_erase.mp hk').2

lemma Separate.erasePrevious (hg:g.Separate) (k:K) :
  Separate { g with previous := g.previous.erase k } :=
 fun k' hk' h=>hg k' hk' (AList.mem_erase.mp h).2

lemma bound_promote [DecidableEq α] (hg:g.Separate) (k:K) (a:α) (k':K)
  (b:α) : (g.promote k a).Bound k' b↔g.Bound k' b := by
 unfold promote
 split
 · next h =>
   have hcur:g.current.lookup k=none:=
    AList.lookup_eq_none.mpr fun hc=>hg k hc (mem_of_lookup h)
   change (g.current.insert k a).lookup k'=some b∨(g.previous.erase k).lookup k'=some b↔_
   rw[lookup_insert_eq,lookup_erase_eq,Bound]
   by_cases hk:k'=k
   · subst hk
     simp[hcur,h]
   · simp[hk]
 · rfl

lemma Separate.promote [DecidableEq α] (hg:g.Separate) (k:K) (a:α) :
  (g.promote k a).Separate := by
 unfold Store.promote
 split
 · intro k' hk' h
   obtain ⟨hne,hprev⟩:=AList.mem_erase.mp h
   obtain rfl | hk':=(AList.mem_insert _).mp hk'
   · exact hne rfl
   · exact hg k' hk' hprev
 · exact hg

lemma Separate.total_promote [DecidableEq α] (hg:g.Separate) (k:K) (a:α) :
  (g.promote k a).total=g.total := by
 unfold Store.promote
 split
 · next h =>
   have hnot:k∉g.current:=fun hc=>hg k hc (mem_of_lookup h)
   have hprev:=size_erase_of_mem (mem_of_lookup h)
   change size (g.current.insert k a)+size (g.previous.erase k)=size g.current+size g.previous
   rw[size_insert_of_notMem hnot]
   omega
 · rfl

lemma bound_gathered (hg:g.Separate)
  (hm:∀ k,m.lookup k=(g.current.lookup k).or (g.previous.lookup k)) (k:K) (a:α) :
  Bound ⟨∅,m⟩ k a↔g.Bound k a := by
 rw[Bound,AList.lookup_empty,hm,Bound]
 simp only[reduceCtorEq,false_or,or_eq_some_iff]
 refine or_congr_right ⟨fun h=>h.2,fun h=>⟨?_,h⟩⟩
 exact AList.lookup_eq_none.mpr fun hc=>hg k hc (mem_of_lookup h)

lemma bound_absorb (hg:g.Separate) (k:K) (a:α) :
  Bound ⟨∅,absorb g.current g.previous.entries⟩ k a↔g.Bound k a :=
 bound_gathered hg (lookup_absorb g.current g.previous.entries) k a

omit [DecidableEq K] in
lemma separate_empty (m:AList fun _ : K=>α) : Separate ⟨∅,m⟩ :=
 fun k hk=>absurd hk (AList.notMem_empty k)

lemma Separate.total_absorb (hg:g.Separate) :
  total ⟨∅,absorb g.current g.previous.entries⟩=g.total := by
 change 0+size (absorb g.current g.previous.entries)=_
 rw[size_absorb g.current _ g.previous.nodupKeys fun k hk=>hg k hk,Nat.zero_add]
 rfl

end Store

end ServiceLib.Generations
