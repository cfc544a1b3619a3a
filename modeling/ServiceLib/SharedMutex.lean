import Mathlib.Algebra.Ring.BooleanRing
import Mathlib.Data.List.Nodup
import Mathlib.Data.List.TakeWhile
import Mathlib.Data.Nat.Notation

set_option autoImplicit false
attribute [-instance] instBooleanRingBool

/-!
# A shared mutex that hands itself over

Readers are counted, a writer is a flag, and whoever cannot enter at once queues. A queued
writer keeps later readers out. The last holder to leave hands the mutex to the first
waiter: a writer alone, or the readers up to the next writer.
-/
namespace ServiceLib.SharedMutex
open List

structure Waiter (ι:Type) where
 id : ι
 writer : Bool
deriving DecidableEq

structure Mutex (ι:Type) where
 readers : ℕ := 0
 writer : Bool := false
 waiters : List (Waiter ι) := []
deriving DecidableEq

variable {ι:Type}

def Mutex.admits (m:Mutex ι) (writer:Bool) : Bool :=
 m.writer = false && m.waiters.isEmpty && (writer = false || m.readers = 0)

def Mutex.take (m:Mutex ι) (writer:Bool) : Mutex ι :=
 if writer then { m with writer := true } else { m with readers := m.readers + 1 }

def Mutex.enqueue (m:Mutex ι) (id:ι) (writer:Bool) : Mutex ι :=
 { m with waiters := m.waiters ++ [⟨id,writer⟩] }

def Mutex.leave (m:Mutex ι) (writer:Bool) : Mutex ι :=
 if writer then { m with writer := false } else { m with readers := m.readers - 1 }

/-- The waiters that the last holder lets in, and the mutex they hold then. -/
def Mutex.handOver (m:Mutex ι) : Mutex ι × List (Waiter ι) :=
 if m.writer = true ∨ m.readers ≠ 0 then (m,[])
 else match m.waiters with
  | [] => (m,[])
  | first :: rest =>
   if first.writer then ({ m with writer := true,waiters := rest },[first])
   else
    ({ m with
      readers := m.readers + (first :: rest.takeWhile fun w=>!w.writer).length
      waiters := rest.dropWhile fun w=>!w.writer },
     first :: rest.takeWhile fun w=>!w.writer)

def Mutex.release (m:Mutex ι) (writer:Bool) : Mutex ι × List (Waiter ι) :=
 (m.leave writer).handOver

/-- `readers` and `owner` hold the mutex; everyone appears once. -/
structure Held (m:Mutex ι) (readers:List ι) (owner:Option ι) : Prop where
 count : m.readers = readers.length
 writer : m.writer = owner.isSome
 alone : owner.isSome = true → readers = []
 nodup : (readers ++ (owner.toList ++ m.waiters.map Waiter.id)).Nodup

/-- Nobody waits for a mutex that is free. -/
structure Valid (m:Mutex ι) (readers:List ι) (owner:Option ι) : Prop extends Held m readers owner where
 busy : m.waiters ≠ [] → owner.isSome = true ∨ readers ≠ []

@[simp] lemma waiters_leave (m:Mutex ι) (writer:Bool) : (m.leave writer).waiters=m.waiters := by
 cases writer <;> rfl

lemma valid_empty : Valid ({} : Mutex ι) [] none :=
 ⟨⟨rfl,rfl,nofun,nodup_nil⟩,fun h=>absurd rfl h⟩

section Valid
variable {m:Mutex ι} {readers:List ι} {owner:Option ι} {id:ι}

lemma admits_iff {writer:Bool} : m.admits writer=true ↔
  m.writer=false∧m.waiters=[]∧(writer=false∨m.readers=0) := by
 simp[Mutex.admits,and_assoc]

lemma Held.owner_none (h:Held m readers owner) (hw:m.writer=false) : owner=none := by
 have hsome:=h.writer
 rw[hw] at hsome
 exact Option.isNone_iff_eq_none.mp (by simpa using hsome)

lemma Valid.take_reader (h:Valid m readers owner) (ha:m.admits false=true)
  (hid:id∉readers) : Valid (m.take false) (id::readers) none := by
 obtain ⟨hw,hempty,-⟩:=admits_iff.mp ha
 obtain rfl:=h.owner_none hw
 have hnodup:=h.nodup
 rw[hempty] at hnodup
 refine ⟨⟨?_,hw,nofun,?_⟩,fun hne=>absurd hempty hne⟩
 · exact congrArg (·+1) h.count
 · change (id::readers++([]++m.waiters.map Waiter.id)).Nodup
   rw[hempty]
   simp only[map_nil,append_nil,Option.toList_none] at hnodup ⊢
   exact nodup_cons.mpr ⟨hid,hnodup⟩

lemma Valid.take_writer (h:Valid m readers owner) (ha:m.admits true=true) (id:ι) :
  readers=[]∧Valid (m.take true) [] (some id) := by
 obtain ⟨-,hempty,hzero⟩:=admits_iff.mp ha
 have hcount:m.readers=0:=hzero.resolve_left (by simp)
 have hnil:readers=[]:=eq_nil_of_length_eq_zero (h.count.symm.trans hcount)
 refine ⟨hnil,⟨hcount,rfl,fun _=>rfl,?_⟩,fun hne=>absurd hempty hne⟩
 change ([]++([id]++m.waiters.map Waiter.id)).Nodup
 simp[hempty]

lemma Valid.enqueue (h:Valid m readers owner) {writer:Bool} (ha:m.admits writer=false)
  (hid:id∉readers++(owner.toList++m.waiters.map Waiter.id)) :
  Valid (m.enqueue id writer) readers owner := by
 refine ⟨⟨h.count,h.writer,h.alone,?_⟩,fun _=>?_⟩
 · change (readers++(owner.toList++(m.waiters++[(⟨id,writer⟩ : Waiter ι)]).map Waiter.id)).Nodup
   have hsplit:readers++(owner.toList++(m.waiters++[(⟨id,writer⟩ : Waiter ι)]).map Waiter.id) =
    readers++(owner.toList++m.waiters.map Waiter.id)++[id]:=by
    simp
   rw[hsplit]
   refine nodup_append.mpr ⟨h.nodup,nodup_singleton id,fun a ha b hb=>?_⟩
   rw[mem_singleton.mp hb]
   exact fun heq=>hid (heq▸ha)
 · by_contra hfree
   obtain ⟨hnone,hnil⟩:=not_or.mp hfree
   have hw:m.writer=false:=by rw[h.writer]; simpa using hnone
   have hempty:m.waiters=[]:=by
    by_contra hne
    exact hfree (h.busy hne)
   have hcount:m.readers=0:=by rw[h.count,not_not.mp hnil]; rfl
   have hadmits:m.admits writer=true:=admits_iff.mpr ⟨hw,hempty,.inr hcount⟩
   simp[ha] at hadmits

lemma Held.leave_reader (h:Held m readers owner) (hid:id∈readers) : ∃ rest,
  Held (m.leave false) rest owner∧∀ j,j∈rest↔j≠id∧j∈readers := by
 classical
 have hlength:=length_erase_of_mem hid
 refine ⟨readers.erase id,⟨?_,h.writer,fun howner=>?_,?_⟩,fun j=>?_⟩
 · change m.readers - 1=_
   rw[h.count,hlength]
 · rw[h.alone howner] at hid
   cases hid
 · exact List.Nodup.sublist (List.Sublist.append_right erase_sublist _) h.nodup
 · exact h.nodup.of_append_left.mem_erase_iff

lemma Held.leave_writer (h:Held m readers (some id)) : Held (m.leave true) [] none := by
 have hnil:=h.alone rfl
 subst hnil
 refine ⟨h.count,rfl,nofun,?_⟩
 exact List.Nodup.sublist (sublist_append_right _ _) h.nodup

lemma Held.handOver_readers (h:Held m [] none) {first:Waiter ι} {rest:List (Waiter ι)}
  (hwaiters:m.waiters=first::rest) :
  Valid { m with
    readers := m.readers+(first::rest.takeWhile fun w=>!w.writer).length
    waiters := rest.dropWhile fun w=>!w.writer }
   ((first::rest.takeWhile fun w=>!w.writer).map Waiter.id) none := by
 have hsplit:first::rest=(first::rest.takeWhile fun w=>!w.writer)++rest.dropWhile fun w=>!w.writer:=by
  rw[cons_append,takeWhile_append_dropWhile]
 have hnodup:=h.nodup
 rw[hwaiters,hsplit,map_append] at hnodup
 refine ⟨⟨?_,h.writer,nofun,hnodup⟩,fun _=>.inr (by simp)⟩
 rw[h.count,length_map,length_nil,Nat.zero_add]

lemma mem_waiters_of_handOver {w:Waiter ι} (h:w∈m.handOver.2) : w∈m.waiters := by
 grind[Mutex.handOver,takeWhile_sublist]

/-- The mutex passes to whom it is handed, and they leave the front of the queue. -/
lemma Held.handOver (h:Held m readers owner) : ∃ readers' owner',
  Valid m.handOver.1 readers' owner' ∧
  (∀ j,j∈readers'↔j∈readers∨⟨j,false⟩∈m.handOver.2) ∧
  (∀ j,owner'=some j↔owner=some j∨⟨j,true⟩∈m.handOver.2) ∧
  m.handOver.2++m.handOver.1.waiters=m.waiters := by
 unfold Mutex.handOver
 by_cases hheld:m.writer=true∨m.readers≠0
 · rw[if_pos hheld]
   refine ⟨readers,owner,⟨h,fun _=>?_⟩,by simp,by simp,rfl⟩
   rcases hheld with hw | hr
   · exact .inl (h.writer▸hw)
   · refine .inr fun hnil=>hr ?_
     rw[h.count,hnil]
     rfl
 · rw[if_neg hheld]
   obtain ⟨hw,hr⟩:=not_or.mp hheld
   obtain rfl:=h.owner_none (by simpa using hw)
   have hnil:readers=[]:=eq_nil_of_length_eq_zero (h.count.symm.trans (not_not.mp hr))
   subst hnil
   cases hwaiters:m.waiters with
   | nil => exact ⟨[],none,⟨h,fun hne=>absurd hwaiters hne⟩,by simp,by simp,hwaiters⟩
   | cons first rest =>
    cases hfirst:first.writer with
    | true =>
     simp only[hfirst,if_true]
     refine ⟨[],some first.id,⟨⟨h.count,rfl,fun _=>rfl,?_⟩,fun _=>.inl rfl⟩,?_,?_,rfl⟩
     · have hnodup:=h.nodup
       rw[hwaiters] at hnodup
       exact hnodup
     · intro j
       simp only[not_mem_nil,mem_singleton,false_or,false_iff]
       rintro rfl
       cases hfirst
     · intro j
       simp only[Option.some.injEq,reduceCtorEq,mem_singleton,false_or]
       constructor
       · rintro rfl
         cases first
         cases hfirst
         rfl
       · rintro rfl
         rfl
    | false =>
     simp only[hfirst,Bool.false_eq_true,if_false]
     have hflags:∀ w∈first::rest.takeWhile (fun w=>!w.writer),w.writer=false:=by
      intro w hmem
      rcases mem_cons.mp hmem with rfl | hmem
      · exact hfirst
      · simpa using mem_takeWhile_imp hmem
     refine ⟨_,none,h.handOver_readers hwaiters,fun j=>?_,fun j=>?_,?_⟩
     · rw[mem_map]
       constructor
       · rintro ⟨w,hmem,rfl⟩
         have hw:=hflags w hmem
         cases w
         cases hw
         exact .inr hmem
       · rintro (hmem | hmem)
         · cases hmem
         · exact ⟨_,hmem,rfl⟩
     · constructor
       · nofun
       · rintro (hnone | hmem)
         · cases hnone
         · exact absurd (hflags _ hmem) (by simp)
     · rw[cons_append,takeWhile_append_dropWhile]

end Valid

/-! ## The actors of a system

A system that uses the mutex knows of each of its actors whether it takes the shared or the
exclusive side, and whether it is outside, queued or inside. -/

inductive Side where
 | outside
 | queued
 | inside
deriving DecidableEq

structure Tracks (m:Mutex ι) (writer:ι → Bool) (side:ι → Side) : Prop where
 held : ∃ readers owner,Valid m readers owner ∧ (∀ id,id ∈ readers ↔ writer id = false ∧ side id = .inside) ∧
  ∀ id,owner = some id ↔ writer id = true ∧ side id = .inside
 waits : ∀ id w,⟨id,w⟩ ∈ m.waiters ↔ w = writer id ∧ side id = .queued

section Tracks
variable {m:Mutex ι} {writer:ι → Bool} {side side':ι → Side} {id j:ι}

lemma tracks_empty (hside:∀ id,side id=.outside) : Tracks ({} : Mutex ι) writer side where
 held := by
  refine ⟨[],none,valid_empty,fun id=>iff_of_false not_mem_nil ?_,fun id=>iff_of_false nofun ?_⟩ <;>
   simp[hside]
 waits id w := iff_of_false not_mem_nil (by simp[hside])

lemma Tracks.alone (h:Tracks m writer side) (hid:side id=.inside) (hwriter:writer id=true)
  (hj:side j=.inside) : j=id := by
 obtain ⟨readers,owner,hvalid,hreaders,howner⟩:=h.held
 have hsome:owner=some id:=(howner id).mpr ⟨hwriter,hid⟩
 cases hw:writer j with
 | true => exact Option.some.inj (((howner j).mpr ⟨hw,hj⟩).symm.trans hsome)
 | false =>
  have hmem:=(hreaders j).mpr ⟨hw,hj⟩
  rw[hvalid.alone (by rw[hsome]; rfl)] at hmem
  cases hmem

lemma Tracks.exists_inside (h:Tracks m writer side) (hid:side id=.queued) : ∃ j,side j=.inside := by
 obtain ⟨readers,owner,hvalid,hreaders,howner⟩:=h.held
 rcases hvalid.busy (ne_nil_of_mem ((h.waits id (writer id)).mpr ⟨rfl,hid⟩)) with hsome | hne
 · obtain ⟨j,hj⟩:=Option.isSome_iff_exists.mp hsome
   exact ⟨j,((howner j).mp hj).2⟩
 · obtain ⟨j,hj⟩:=exists_mem_of_ne_nil readers hne
   exact ⟨j,((hreaders j).mp hj).2⟩

lemma Tracks.take (h:Tracks m writer side) (hid:side id=.outside) (ha:m.admits (writer id)=true)
  (hself:side' id=.inside) (hother:∀ j,j≠id→ side' j=side j) :
  Tracks (m.take (writer id)) writer side' := by
 obtain ⟨readers,owner,hvalid,hreaders,howner⟩:=h.held
 have hinside:∀ j,side' j=.inside↔j=id∨side j=.inside:=by
  intro j
  by_cases hj:j=id
  · simp[hj,hself]
  · simp[hj,hother j hj]
 have hwaits:∀ j w,⟨j,w⟩∈(m.take (writer id)).waiters↔w=writer j∧side' j=.queued:=by
  intro j w
  have hsame:(m.take (writer id)).waiters=m.waiters:=by cases writer id <;> rfl
  rw[hsame,h.waits]
  by_cases hj:j=id
  · simp[hj,hself,hid]
  · rw[hother j hj]
 obtain rfl:=hvalid.owner_none (admits_iff.mp ha).1
 have hfree:∀ j,writer j=true→ side j≠ .inside:=fun j hw hj=>nomatch (howner j).mpr ⟨hw,hj⟩
 cases hw:writer id with
 | false =>
  rw[hw] at ha hwaits
  have hnew:id∉readers:=fun hmem=>nomatch hid.symm.trans ((hreaders id).mp hmem).2
  refine ⟨⟨id::readers,none,hvalid.take_reader ha hnew,fun j=>?_,fun j=>?_⟩,hwaits⟩
  · rw[mem_cons,hreaders,hinside]
    by_cases hj:j=id
    · simp[hj,hw]
    · simp[hj]
  · refine iff_of_false nofun fun hj=>?_
    rcases (hinside j).mp hj.2 with rfl | hold
    · exact nomatch hw.symm.trans hj.1
    · exact hfree j hj.1 hold
 | true =>
  rw[hw] at ha hwaits
  obtain ⟨rfl,htaken⟩:=hvalid.take_writer ha id
  have hempty:∀ j,side j≠ .inside:=by
   intro j hj
   cases hwj:writer j with
   | true => exact hfree j hwj hj
   | false => exact nomatch (hreaders j).mpr ⟨hwj,hj⟩
  refine ⟨⟨[],some id,htaken,fun j=>?_,fun j=>?_⟩,hwaits⟩
  · refine iff_of_false not_mem_nil fun hj=>?_
    rcases (hinside j).mp hj.2 with rfl | hold
    · exact nomatch hw.symm.trans hj.1
    · exact hempty j hold
  · rw[Option.some.injEq,hinside]
    constructor
    · rintro rfl
      exact ⟨hw,.inl rfl⟩
    · exact fun hj=>(hj.2.resolve_right (hempty j)).symm

lemma Tracks.enqueue (h:Tracks m writer side) (hid:side id=.outside) (ha:m.admits (writer id)=false)
  (hself:side' id=.queued) (hother:∀ j,j≠id→ side' j=side j) :
  Tracks (m.enqueue id (writer id)) writer side' := by
 obtain ⟨readers,owner,hvalid,hreaders,howner⟩:=h.held
 have hnew:id∉readers++(owner.toList++m.waiters.map Waiter.id):=by
  intro hmem
  rcases mem_append.mp hmem with hmem | hmem
  · exact nomatch hid.symm.trans ((hreaders id).mp hmem).2
  rcases mem_append.mp hmem with hmem | hmem
  · exact nomatch hid.symm.trans ((howner id).mp (by simpa using hmem)).2
  · obtain ⟨⟨j,w⟩,hw,rfl⟩:=mem_map.mp hmem
    exact nomatch hid.symm.trans ((h.waits j w).mp hw).2
 have hinside:∀ j,side' j=.inside↔side j=.inside:=by
  intro j
  by_cases hj:j=id
  · simp[hj,hself,hid]
  · rw[hother j hj]
 refine ⟨⟨readers,owner,hvalid.enqueue ha hnew,fun j=>?_,fun j=>?_⟩,fun j w=>?_⟩
 · rw[hreaders,hinside]
 · rw[howner,hinside]
 · change ⟨j,w⟩∈m.waiters++[⟨id,writer id⟩]↔_
   rw[mem_append,h.waits,mem_singleton,Waiter.mk.injEq]
   by_cases hj:j=id
   · simp[hj,hself,hid]
   · simp[hj,hother j hj]

lemma Tracks.queued_of_granted (h:Tracks m writer side) {w w':Bool} (hj:⟨j,w⟩∈(m.release w').2) :
  w=writer j∧side j=.queued := by
 have hwaits:=mem_waiters_of_handOver hj
 rw[waiters_leave] at hwaits
 exact (h.waits j w).mp hwaits

lemma Tracks.leave (h:Tracks m writer side) (hid:side id=.inside) : ∃ readers owner,
  Held (m.leave (writer id)) readers owner ∧
  (∀ j,j∈readers↔j≠id∧writer j=false∧side j=.inside) ∧
  ∀ j,owner=some j↔j≠id∧writer j=true∧side j=.inside := by
 obtain ⟨readers,owner,hvalid,hreaders,howner⟩:=h.held
 cases hw:writer id with
 | false =>
  obtain ⟨rest,hheld,hrest⟩:=hvalid.leave_reader ((hreaders id).mpr ⟨hw,hid⟩)
  refine ⟨rest,owner,hheld,fun j=>(hrest j).trans (and_congr_right fun _=>hreaders j),fun j=>?_⟩
  rw[howner]
  refine ⟨fun hj=>absurd (h.alone hj.2 hj.1 hid) ?_,And.right⟩
  rintro rfl
  exact nomatch hw.symm.trans hj.1
 | true =>
  obtain rfl:owner=some id:=(howner id).mpr ⟨hw,hid⟩
  refine ⟨[],none,hvalid.leave_writer,fun j=>?_,fun j=>?_⟩
  · exact iff_of_false not_mem_nil fun hj=>hj.1 (h.alone hid hw hj.2.2)
  · exact iff_of_false nofun fun hj=>hj.1 (h.alone hid hw hj.2.2)

lemma Tracks.release (h:Tracks m writer side) (hid:side id=.inside) (hself:side' id=.outside)
  (hgranted:∀ j,⟨j,writer j⟩∈(m.release (writer id)).2→ side' j=.inside)
  (hother:∀ j,j≠id→⟨j,writer j⟩∉(m.release (writer id)).2→ side' j=side j) :
  Tracks (m.release (writer id)).1 writer side' := by
 obtain ⟨readers,owner,hheld,hreaders,howner⟩:=h.leave hid
 obtain ⟨readers',owner',hvalid,hreaders',howner',hsplit⟩:=hheld.handOver
 change (m.release (writer id)).2++(m.release (writer id)).1.waiters=_ at hsplit
 have hids:((m.release (writer id)).2++(m.release (writer id)).1.waiters).Nodup:=by
  rw[hsplit]
  exact List.Nodup.of_map _ hheld.nodup.of_append_right.of_append_right
 have hkept:id∉(m.release (writer id)).2.map Waiter.id:=by
  intro hmem
  obtain ⟨⟨j,w⟩,hw,rfl⟩:=mem_map.mp hmem
  exact nomatch hid.symm.trans (h.queued_of_granted hw).2
 have hinside:∀ j,side' j=.inside↔(j≠id∧side j=.inside)∨⟨j,writer j⟩∈(m.release (writer id)).2:=by
  intro j
  by_cases hj:j=id
  · subst hj
    refine iff_of_false (by simp[hself]) ?_
    rintro (hne | hmem)
    · exact hne.1 rfl
    · exact hkept (mem_map_of_mem hmem)
  · by_cases hmem:⟨j,writer j⟩∈(m.release (writer id)).2
    · simp[hgranted j hmem,hmem]
    · simp[hother j hj hmem,hj,hmem]
 have hqueued:∀ j,side' j=.queued↔side j=.queued∧⟨j,writer j⟩∉(m.release (writer id)).2:=by
  intro j
  by_cases hj:j=id
  · simp[hj,hself,hid]
  · by_cases hmem:⟨j,writer j⟩∈(m.release (writer id)).2
    · simp[hgranted j hmem,hmem]
    · simp[hother j hj hmem,hmem]
 have hflag:∀ j w,⟨j,w⟩∈(m.release (writer id)).2→ w=writer j:=fun j w hw=>(h.queued_of_granted hw).1
 refine ⟨⟨readers',owner',hvalid,fun j=>?_,fun j=>?_⟩,fun j w=>?_⟩
 · rw[hreaders',hreaders,hinside]
   change _∨⟨j,false⟩∈(m.release (writer id)).2↔_
   cases hw:writer j with
   | false => simp
   | true => simpa using fun hmem=>nomatch (hflag j false hmem).trans hw
 · rw[howner',howner,hinside]
   change _∨⟨j,true⟩∈(m.release (writer id)).2↔_
   cases hw:writer j with
   | true => simp
   | false => simpa using fun hmem=>nomatch (hflag j true hmem).trans hw
 · have hmem:⟨j,w⟩∈(m.release (writer id)).2++(m.release (writer id)).1.waiters ↔
    w=writer j∧side j=.queued:=by
    rw[hsplit,waiters_leave,h.waits]
   rw[hqueued,← and_assoc,← hmem,mem_append]
   constructor
   · intro hw
     have hnot:⟨j,w⟩∉(m.release (writer id)).2:=fun hg=>disjoint_of_nodup_append hids hg hw
     obtain ⟨rfl,-⟩:=hmem.mp (mem_append.mpr (.inr hw))
     exact ⟨.inr hw,hnot⟩
   · rintro ⟨hw,hnot⟩
     obtain ⟨rfl,-⟩:=hmem.mp (mem_append.mpr hw)
     exact hw.resolve_left hnot

lemma Tracks.congr {writer':ι→ Bool} (h:Tracks m writer side) (hside:∀ id,side' id=side id)
  (hwriter:∀ id,side id≠ .outside→ writer' id=writer id) : Tracks m writer' side' := by
 constructor <;> grind[Tracks]

lemma Tracks.nodup (h:Tracks m writer side) : (m.waiters.map Waiter.id).Nodup := by
 obtain ⟨readers,owner,hvalid,-,-⟩:=h.held
 exact hvalid.nodup.of_append_right.of_append_right

lemma Tracks.release_split (h:Tracks m writer side) (hid:side id=.inside) :
  (m.release (writer id)).2++(m.release (writer id)).1.waiters=m.waiters := by
 obtain ⟨readers,owner,hheld,-,-⟩:=h.leave hid
 obtain ⟨-,-,-,-,-,hsplit⟩:=hheld.handOver
 exact hsplit.trans (waiters_leave m (writer id))

end Tracks

/-- While readers hold the mutex, the queue starts with a writer. -/
def Mutex.Orderly (m:Mutex ι) : Prop :=
 m.readers ≠ 0 → m.writer = false ∧ ∀ w ∈ m.waiters.head?,w.writer = true

section Orderly
variable {m:Mutex ι} {writer:Bool}

lemma orderly_empty : ({} : Mutex ι).Orderly :=
 fun h=>absurd rfl h

lemma Mutex.Orderly.take (ha:m.admits writer=true) : (m.take writer).Orderly := by
 obtain ⟨hw,hempty,hzero⟩:=admits_iff.mp ha
 cases writer with
 | true => exact fun hreaders=>absurd (hzero.resolve_left (by simp)) hreaders
 | false =>
  refine fun _=>⟨hw,fun w hmem=>?_⟩
  change w∈m.waiters.head? at hmem
  rw[hempty] at hmem
  cases hmem

lemma Mutex.Orderly.enqueue (h:m.Orderly) (ha:m.admits writer=false) (id:ι) :
  (m.enqueue id writer).Orderly := by
 intro hreaders
 obtain ⟨hw,hhead⟩:=h hreaders
 refine ⟨hw,fun w hmem=>?_⟩
 change w∈(m.waiters++[(⟨id,writer⟩ : Waiter ι)]).head? at hmem
 cases hwaiters:m.waiters with
 | nil =>
  -- a reader would have been admitted
  rw[hwaiters] at hmem
  obtain rfl:(⟨id,writer⟩ : Waiter ι)=w:=Option.some.inj hmem
  cases writer with
  | true => rfl
  | false => exact absurd (admits_iff.mpr ⟨hw,hwaiters,.inl rfl⟩) (by simp[ha])
 | cons first rest =>
  rw[hwaiters] at hmem hhead
  exact hhead w hmem

lemma Mutex.Orderly.leave (h:m.Orderly) (writer:Bool) : (m.leave writer).Orderly := by
 cases writer with
 | true => exact fun hreaders=>⟨rfl,(h hreaders).2⟩
 | false =>
  intro hreaders
  change m.readers - 1≠0 at hreaders
  exact h (by omega)

lemma Mutex.Orderly.handOver (h:m.Orderly) : m.handOver.1.Orderly := by
 unfold Mutex.handOver
 by_cases hheld:m.writer=true∨m.readers≠0
 · rw[if_pos hheld]
   exact h
 · rw[if_neg hheld]
   obtain ⟨hw,hr⟩:=not_or.mp hheld
   cases hwaiters:m.waiters with
   | nil => exact h
   | cons first rest =>
    cases hfirst:first.writer with
    | true =>
     simp only[hfirst,if_true]
     exact fun hreaders=>absurd (not_not.mp hr) hreaders
    | false =>
     simp only[hfirst,Bool.false_eq_true,if_false]
     refine fun _=>⟨by simpa using hw,fun w hmem=>?_⟩
     change w∈(rest.dropWhile fun w=>!w.writer).head? at hmem
     have hhead:=List.head?_dropWhile_not (fun w:Waiter ι=>!w.writer) rest
     rw[Option.mem_def.mp hmem] at hhead
     simpa using hhead

lemma Mutex.Orderly.release (h:m.Orderly) (writer:Bool) : (m.release writer).1.Orderly :=
 (h.leave writer).handOver

end Orderly

section Beside
variable {m:Mutex ι} {writer:ι → Bool} {side:ι → Side} {id j:ι}

/-- Beside a reader, another one gets in exactly when no writer is queued. -/
lemma Tracks.admits_reader_iff (h:Tracks m writer side) (ho:m.Orderly) (hid:side id=.inside)
  (hreader:writer id=false) : m.admits false=true↔∀ j,writer j=true→ side j≠ .queued := by
 obtain ⟨readers,owner,hvalid,hreaders,-⟩:=h.held
 have hmem:=(hreaders id).mpr ⟨hreader,hid⟩
 have hcount:m.readers≠0:=by
  rw[hvalid.count]
  exact fun hzero=>ne_nil_of_mem hmem (eq_nil_of_length_eq_zero hzero)
 obtain ⟨hw,hhead⟩:=ho hcount
 rw[admits_iff]
 constructor
 · rintro ⟨-,hempty,-⟩ j hwriter hj
   have hwaits:=(h.waits j true).mpr ⟨hwriter.symm,hj⟩
   rw[hempty] at hwaits
   cases hwaits
 · intro hnone
   refine ⟨hw,?_,.inl rfl⟩
   cases hwaiters:m.waiters with
   | nil => rfl
   | cons first rest =>
    rw[hwaiters] at hhead
    have hwaits:⟨first.id,true⟩∈m.waiters:=by
     rw[hwaiters,← hhead first rfl]
     exact mem_cons_self
    obtain ⟨hwriter,hqueued⟩:=(h.waits first.id true).mp hwaits
    exact absurd hqueued (hnone first.id hwriter.symm)

lemma Tracks.granted_eq_nil (h:Tracks m writer side) (hid:side id=.inside) (hj:side j=.inside)
  (hne:j≠id) : (m.release (writer id)).2=[] := by
 obtain ⟨readers,owner,hheld,hreaders,howner⟩:=h.leave hid
 have hbusy:(m.leave (writer id)).writer=true∨(m.leave (writer id)).readers≠0:=by
  cases hw:writer j with
  | true =>
   left
   rw[hheld.writer,(howner j).mpr ⟨hne,hw,hj⟩]
   rfl
  | false =>
   right
   rw[hheld.count]
   have hmem:=(hreaders j).mpr ⟨hne,hw,hj⟩
   exact fun hzero=>ne_nil_of_mem hmem (eq_nil_of_length_eq_zero hzero)
 change (m.leave (writer id)).handOver.2=[]
 rw[Mutex.handOver,if_pos hbusy]

end Beside

end ServiceLib.SharedMutex
