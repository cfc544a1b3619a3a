import ServiceLib.KafkaLanesMoves

set_option autoImplicit false

/-!
# A consumer whose `running` is clear comes to its end
-/
namespace ServiceLib.KafkaLanes
open Function List

def Worker.work : Worker → ℕ
 | .absent | .waiting | .ended => 0
 | .remembered | .handled => 1
 | .caught _ => 2
 | .handling _ => 3
 | .taken _ => 4
 | .ready => 5

def Main.work (lanes:ℕ) : Main → ℕ
 | .returned | .threw _ => 0
 | .clearing => 1
 | .joining ps => 2 + ps.length
 | .stopping ps => 3 + lanes + 8 * ps.length
 | .notifyingAll _ ps => 10 + lanes + 8 * ps.length
 | .looping | .catching _ => 4 + 9 * lanes
 | .notifying _ => 10 + 9 * lanes
 | .pushing _ => 11 + 9 * lanes
 | .enqueuing _ => 26 + 9 * lanes
 | .polling => 27 + 9 * lanes
 | .idle | .initialized | .claimed => 0

def State.remaining (s:State) : ℕ :=
 s.main.work s.lanes.length + (s.lanes.map fun p=>(s.lane p).worker.work).sum

def Label.internal : Label → Bool
 | .advance | .poll _ | .emplace _ | .work _ | .finish _ _ => true
 | _ => false

variable {s s':State} {p:UInt32} {lane:Lane} {l:Label}

lemma sum_work_update (hnodup:s.lanes.Nodup)
  (hp:p∈s.lanes) (hlane:s'.lane=update s.lane p lane) :
  (s.lanes.map fun q=>(s'.lane q).worker.work).sum+(s.lane p).worker.work =
   (s.lanes.map fun q=>(s.lane q).worker.work).sum+lane.worker.work := by
 generalize s.lanes=lanes at hnodup hp
 induction lanes with
 | nil => cases hp
 | cons q lanes ih =>
  obtain ⟨hq,hnodup⟩:=nodup_cons.mp hnodup
  rw[map_cons,sum_cons,map_cons,sum_cons]
  rcases mem_cons.mp hp with rfl | hp
  · have hrest:(lanes.map fun q=>(s'.lane q).worker.work) =
     lanes.map fun q=>(s.lane q).worker.work:=by
     refine map_congr_left fun q hmem=>?_
     rw[hlane,update_of_ne fun heq : q=p => hq (heq▸hmem)]
    rw[hrest,hlane,update_self]
    omega
  · have hne:q≠p:=fun heq=>hq (heq▸hp)
    have hrest:=ih hnodup hp
    rw[show s'.lane q=s.lane q by rw[hlane,update_of_ne hne]]
    omega

lemma work_of_worker (hshape:Shape s)
  (hlive:(s.lane p).worker.live=true) (hlane:s'.lane=update s.lane p lane)
  (hlanes:s'.lanes=s.lanes) (hmain:s'.main=s.main)
  (hless:lane.worker.work < (s.lane p).worker.work) : s'.remaining < s.remaining := by
 have hsum:=sum_work_update hshape.nodup (hshape.live p hlive) hlane
 unfold State.remaining
 rw[hlanes,hmain]
 omega

lemma remaining_of_main (hworker:∀ q,(s'.lane q).worker=(s.lane q).worker)
  (hlanes:s'.lanes=s.lanes)
  (hless:s'.main.work s.lanes.length < s.main.work s.lanes.length) : s'.remaining < s.remaining := by
 unfold State.remaining
 rw[hlanes]
 simp only[hworker]
 exact Nat.add_lt_add_right hless _

lemma worker_update_same
  (h:lane.worker=(s.lane p).worker) (q:UInt32) :
  (update s.lane p lane q).worker=(s.lane q).worker := by
 rw[update_apply]
 split
 · next hq => rw[h,hq]
 · rfl

lemma notify_sum (hshape:Shape s) (hp:p∈s.lanes) :
  (s.lanes.map fun q=>((s.notify p).lane q).worker.work).sum ≤
   (s.lanes.map fun q=>(s.lane q).worker.work).sum+5 := by
 unfold State.notify
 split
 · next hw =>
   have hready:(s.setWorker p .ready).lane =
    update s.lane p { s.lane p with worker := .ready } := rfl
   have hsum:=sum_work_update hshape.nodup hp hready
   change _=_+5 at hsum
   rw[hw] at hsum
   exact Nat.le_of_eq hsum
 · exact Nat.le_add_right _ _

lemma Goes.work {main:Main} (h:Goes s l main)
  (hl:l.internal=true) (hrun:s.running=false) :
  main.work s.lanes.length < s.main.work s.lanes.length := by
 cases h with
 | initialized h => cases hl
 | polls h hyes =>
  rw[hrun] at hyes
  cases hyes
 | leaves h hno | skipped h hnone | failed h herr | message h herr | found h hp | allStopped h
 | joined h hworker | allJoined h =>
  rw[h]
  simp only[Main.work,length_cons,length_nil]
  omega

lemma WorkerGoes.work {worker:Worker}
  (h:WorkerGoes s p l worker) (hl:l.internal=true) (hrun:s.running=false) :
  worker.work < (s.lane p).worker.work := by
 cases h with
 | wakes h => cases hl
 | continues h hyes =>
  rw[hrun] at hyes
  cases hyes
 | waits h hmessages hstopped | returns h hstopped | begins h | leaves h hno | finishes h | throws h =>
  rw[h]
  simp only[Worker.work]
  omega

lemma remaining_move (hshape:Shape s) (hmove:Move s l s')
  (hl:l.internal=true) (hinit:s.main≠ .initialized) (hclaimed:s.main≠ .claimed)
  (hrun:s.running=false) :
  s'.remaining < s.remaining := by
 cases hmove with
 | same hl' => rcases hl' with rfl | rfl <;> cases hl
 | stop => cases hl
 | goes h => exact remaining_of_main (fun _=>rfl) rfl (h.work hl hrun)
 | claims h => exact absurd h hinit
 | stores h => exact absurd h hclaimed
 | @creates m exception worker main h hnew hcreated =>
  have hsum:((s.lanes.orderedInsert (·≤·) m.partition).map fun q =>
   (update s.lane m.partition { worker := worker } q).worker.work).sum =
   worker.work+(s.lanes.map fun q=>(s.lane q).worker.work).sum:=by
   rw[((perm_orderedInsert (·≤·) m.partition s.lanes).map _).sum_nat,map_cons,
    sum_cons,update_self]
   congr 2
   refine map_congr_left fun q hq=>?_
   rw[update_of_ne fun heq : q=m.partition => hnew (heq▸hq)]
  have hlength:(s.lanes.orderedInsert (·≤·) m.partition).length=s.lanes.length+1:=
   orderedInsert_length _ _ _
  change main.work (s.lanes.orderedInsert (·≤·) m.partition).length +
   ((s.lanes.orderedInsert (·≤·) m.partition).map fun q =>
    (update s.lane m.partition { worker := worker } q).worker.work).sum < s.remaining
  rw[hsum,hlength]
  unfold State.remaining
  rw[h]
  cases hcreated with
  | ready | threw what =>
   simp only[Main.work,Worker.work]
   omega
 | pushes h =>
  refine remaining_of_main (worker_update_same rfl) rfl ?_
  rw[h]
  simp only[State.goto,Main.work]
  omega
 | stops h =>
  refine remaining_of_main (worker_update_same rfl) rfl ?_
  rw[h]
  simp only[State.goto,Main.work,length_cons]
  omega
 | @notifies p h =>
  have hle:=notify_sum hshape (hshape.known p (by rw[h]; exact mem_singleton_self _))
  unfold State.remaining
  rw[h]
  change (Main.looping).work (s.notify p).lanes.length+((s.notify p).lanes.map _).sum < _
  rw[notify_lanes]
  change _+(s.lanes.map fun q=>((s.notify p).lane q).worker.work).sum < _
  simp only[Main.work]
  omega
 | @notifiesAll p ps h =>
  have hle:=notify_sum hshape (hshape.known p (by rw[h]; exact mem_cons_self))
  unfold State.remaining
  rw[h]
  change (Main.stopping ps).work (s.notify p).lanes.length+((s.notify p).lanes.map _).sum < _
  rw[notify_lanes]
  change _+(s.lanes.map fun q=>((s.notify p).lane q).worker.work).sum < _
  simp only[Main.work]
  omega
 | remembers h =>
  refine remaining_of_main (fun _=>rfl) rfl ?_
  rw[h]
  simp only[State.goto,Main.work]
  omega
 | clears h hmain =>
  unfold State.remaining
  rw[h]
  rcases hmain with rfl | ⟨what,rfl⟩
  all_goals
   simp only[Main.work,map_nil,sum_nil]
   omega
 | works h => exact work_of_worker hshape h.live rfl rfl rfl (h.work hl hrun)
 | takes h hmessages hstopped =>
  refine work_of_worker hshape (by rw[h]; rfl) rfl rfl rfl ?_
  rw[h]
  simp only[Worker.work]
  omega
 | workerRemembers h | workerClears h =>
  refine work_of_worker hshape (by rw[h]; rfl) rfl rfl rfl ?_
  rw[h]
  simp only[Worker.work]
  omega

lemma exists_worker_step (hlive:(s.lane p).worker.live=true)
  (hwaits:(s.lane p).worker≠ .waiting) : ∃ l,l.internal=true∧(step s l).isSome := by
 cases hw:(s.lane p).worker with
 | absent | ended =>
  rw[hw] at hlive
  cases hlive
 | waiting => exact absurd hw hwaits
 | handling m => exact ⟨.finish p none,rfl,by simp[step,hw]⟩
 | ready | taken m | handled | caught what | remembered =>
  exact ⟨.work p,rfl,by simp[step,State.work,hw]⟩

lemma exists_internal_step (hshape:Shape s) (hpast:s.main.past=true)
  (hended:s.main.ended=false) : ∃ l,l.internal=true∧(step s l).isSome := by
 cases hmain:s.main with
 | idle | initialized | claimed =>
  rw[hmain] at hpast
  cases hpast
 | returned | threw what =>
  rw[hmain] at hended
  cases hended
 | polling => exact ⟨.poll none,rfl,by simp[step,hmain]⟩
 | enqueuing m => exact ⟨.emplace none,rfl,by simp[step,hmain]⟩
 | looping | pushing m | notifying p | catching what | notifyingAll p ps | clearing =>
  exact ⟨.advance,rfl,by simp[step,State.advance,hmain]⟩
 | stopping ps =>
  cases ps with
  | nil | cons p ps => exact ⟨.advance,rfl,by simp[step,State.advance,hmain]⟩
 | joining ps =>
  cases ps with
  | nil => exact ⟨.advance,rfl,by simp[step,State.advance,hmain]⟩
  | cons p ps =>
   cases hlive:(s.lane p).worker.live with
   | true =>
    refine exists_worker_step hlive fun hw=>?_
    have hstopped:=hshape.stopped [] (by rw[hmain]; rfl) p (hshape.live p hlive) not_mem_nil
    have hdue:=hshape.awake p hw (.inr hstopped)
    rw[hmain] at hdue
    cases hdue
   | false =>
    refine ⟨.advance,rfl,?_⟩
    cases hw:(s.lane p).worker with
    | absent | ended => simp[step,State.advance,hmain,hw,State.joinable]
    | _ =>
     rw[hw] at hlive
     cases hlive

end ServiceLib.KafkaLanes
