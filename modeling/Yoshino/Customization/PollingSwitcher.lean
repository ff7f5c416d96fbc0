import Yoshino.Customization.PollingOnce

/-!
# The network switcher polls as its observers do

The phone of the network switcher knows its observers only by what it waits for. Here the answer of
the phone decides a delivery of an observer, and the phone's step for a runnable is read off what the
delivery leaves: a listener that waits, one that was dropped, or one that was called.
-/

namespace Yoshino.Customization

open Yoshino.Library

/-- What the phone says to the question of a class. -/
def PollingClass.answer (telephony : Telephony) : PollingClass → Int → Bool
  | simServiceObserver, subID => telephony.available && telephony.signal subID
  | slotObserver, subID => isSIMLoaded telephony subID

/-- The question returns the answer, or throws where the answer is no. -/
theorem PollingClass.isConnected_answer {L : Type} (c : PollingClass) (telephony : Telephony)
    (subID : Int) (s : PollingObserver L) :
    c.isConnected (.ok telephony) subID s = .ok (c.answer telephony subID) s ∨
      (c.answer telephony subID = false ∧
        c.isConnected (.ok telephony) subID s = .error .exception s) := by
  cases c with
  | slotObserver => exact .inl rfl
  | simServiceObserver =>
    cases havailable : telephony.available with
    | true =>
      refine .inl ?_
      rw [isConnected, PollingObserver.hasService, if_pos havailable, answer, havailable, Bool.true_and]
      rfl
    | false =>
      refine .inr ⟨by rw [answer, havailable, Bool.false_and], ?_⟩
      rw [isConnected, PollingObserver.hasService, if_neg (by simp [havailable])]
      rfl

namespace PollingObserver

variable {L : Type} {s : PollingObserver L}

/-- A delivery to a listener that returns, by the answer of the phone. -/
theorem finalState_run_answer (hhandler : s.mHandler = true) (hlistener : s.mListener.isSome)
    (c : PollingClass) (telephony : Telephony) :
    finalState (run (c.isConnected (.ok telephony)) none) s =
      if s.mSubID == invalidId then s.dropped
      else if c.answer telephony s.mSubID then s.answered.dropped
      else { s with posted := s.posted ++ [2000] } := by
  have hdrop (t : PollingObserver L) (h : t.mHandler = true) (ht : t.mListener.isSome) :
      finalState repost (finalState unregister t) = t.dropped := by
    rw [finalState_unregister fun _ => h, if_pos ht]
    rfl
  have hreturns : onConnected none s = .ok () s.answered := onConnected_of_listener none hlistener
  have hrepost : finalState repost s = { s with posted := s.posted ++ [2000] } :=
    (finalState_repost fun _ => hhandler).trans (if_pos hlistener)
  rw [finalState_run]
  unfold poll
  rw [finalState_get_bind]
  split
  · exact hdrop s hhandler hlistener
  · rw [finalState_get_bind]
    obtain hanswer | ⟨hno, hthrown⟩ := c.isConnected_answer telephony s.mSubID s
    · rw [finalState_bind_of_ok hanswer]
      split
      · rw [finalState_bind_of_ok hreturns]
        exact hdrop s.answered hhandler hlistener
      · exact hrepost
    · rw [finalState_bind_of_error hthrown, hno]
      exact hrepost

/-- A delivery leaves the listener waiting, drops it, or drops it after calling it. -/
theorem run_outcome (hhandler : s.mHandler = true) (hlistener : s.mListener.isSome)
    (c : PollingClass) (telephony : Telephony) {α : Type} (waits drops calls : α) :
    let s' := finalState (run (c.isConnected (.ok telephony)) none) s
    (if s'.mListener.isSome then waits else if s'.completed = s.completed then drops else calls) =
      if s.mSubID == invalidId then drops
      else if c.answer telephony s.mSubID then calls
      else waits := by
  intro s'
  have hs' : s' = _ := finalState_run_answer hhandler hlistener c telephony
  rw [hs']
  split
  · simp [dropped]
  · split
    · simp [dropped, answered]
    · rfl

/-- The phone takes the runnable of `mSimServiceObserver` as the observer does: it waits on, stops
waiting, or has the listener restore the network. -/
theorem simServicePoll_eq_run (hhandler : s.mHandler = true) (hlistener : s.mListener.isSome)
    (p : NetworkPhone) (unlockObserver : Bool) (unregistered : Waiting) :
    let s' := finalState (run (PollingClass.simServiceObserver.isConnected (.ok p.telephony)) none) s
    p.simServicePoll unlockObserver s.mSubID unregistered =
      if s'.mListener.isSome then p
      else if s'.completed = s.completed then p.waitFor unlockObserver unregistered
      else p.restore s.mSubID :=
  (run_outcome hhandler hlistener .simServiceObserver p.telephony _ _ _).symm

/-- And the runnable of `mSlotObserver`, whose listener switches the network down after a while. -/
theorem poll_slot_eq_run (hhandler : s.mHandler = true) (hlistener : s.mListener.isSome)
    (p : NetworkPhone) (unlockObserver : Bool) :
    let s' := finalState (run (PollingClass.slotObserver.isConnected (.ok p.telephony)) none) s
    p.poll unlockObserver (.slot s.mSubID) =
      if s'.mListener.isSome then p
      else if s'.completed = s.completed then p.waitFor unlockObserver .nothing
      else p.waitFor unlockObserver (.switchDown s.mSubID) :=
  (run_outcome hhandler hlistener .slotObserver p.telephony _ _ _).symm

end PollingObserver

end Yoshino.Customization
