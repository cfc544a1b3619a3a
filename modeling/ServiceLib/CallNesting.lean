import Mathlib.Logic.Relation

set_option autoImplicit false

/-!
# Nested calls

A host waits for the calls made in its code, so whatever is above a live call is in the middle of
such code.
-/
namespace ServiceLib.CallNesting

variable {κ:Type}

def Above (parent:κ → Option κ) : κ → κ → Prop :=
 Relation.TransGen fun call host=>parent call = some host

structure View (κ:Type) where
 parent : κ → Option κ
 known : κ → Prop
 live : κ → Prop
 hosting : κ → Prop

structure View.Stacked (v:View κ) : Prop where
 known : ∀ call host,v.parent call = some host → v.known host
 hosted : ∀ call host,v.live call → v.parent call = some host → v.hosting host
 live : ∀ call,v.hosting call → v.live call

/-- A step keeps the parents of the calls; a new call has a host that hosts; and a host goes
on hosting until the calls made in its code have returned. -/
structure View.Step (v v':View κ) : Prop where
 known : ∀ call,v.known call → v'.known call ∧ v'.parent call = v.parent call
 live : ∀ call,v.known call → v'.live call → v.live call
 arrival : ∀ call host,¬v.known call → v'.parent call = some host → v.hosting host ∧ v.known host
 hosting : ∀ call host,v.hosting host → v'.live call → v'.parent call = some host → v'.hosting host
 hosting_live : ∀ call,v'.hosting call → v'.live call

variable {v v':View κ} {call above:κ}

lemma View.Stacked.hosting_of_above (h:v.Stacked) (hcall:v.live call) (habove:Above v.parent call above) :
  v.hosting above := by
 induction habove with
 | single hparent => exact h.hosted _ _ hcall hparent
 | tail _ hparent ih => exact h.hosted _ _ (h.live _ ih) hparent

lemma View.Stacked.after (h:v.Stacked) (hstep:v.Step v') : v'.Stacked where
 known call host hparent := by
  by_cases hknown:v.known call
  · rw[(hstep.known call hknown).2] at hparent
    exact (hstep.known host (h.known call host hparent)).1
  · exact (hstep.known host (hstep.arrival call host hknown hparent).2).1
 hosted call host hlive hparent:=by
  by_cases hknown:v.known call
  · have hold:=hparent
    rw[(hstep.known call hknown).2] at hold
    exact hstep.hosting call host (h.hosted call host (hstep.live call hknown hlive) hold) hlive hparent
  · exact hstep.hosting call host (hstep.arrival call host hknown hparent).1 hlive hparent
 live := hstep.hosting_live

lemma View.Stacked.known_of_above (h:v.Stacked) (habove:Above v.parent call above) : v.known above := by
 induction habove with
 | single hparent => exact h.known _ _ hparent
 | tail _ hparent _ => exact h.known _ _ hparent

lemma View.Stacked.above_iff (h:v.Stacked) (hstep:v.Step v') (hcall:v.known call) :
  Above v'.parent call above↔Above v.parent call above := by
 constructor
 · intro habove
   induction habove with
   | single hparent =>
    rw[(hstep.known _ hcall).2] at hparent
    exact .single hparent
   | tail _ hparent ih =>
    rw[(hstep.known _ (h.known_of_above ih)).2] at hparent
    exact ih.tail hparent
 · intro habove
   induction habove with
   | single hparent => exact .single ((hstep.known _ hcall).2.trans hparent)
   | tail hlower hparent ih => exact ih.tail ((hstep.known _ (h.known_of_above hlower)).2.trans hparent)

end ServiceLib.CallNesting
