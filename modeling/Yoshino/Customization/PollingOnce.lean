import Mathlib.Data.List.Nodup
import Yoshino.Customization.PollingObserver
import Yoshino.Library.Runs

/-!
# A polling observer is posted once

While an observer has a listener its runnable is in the queue of the main looper exactly once, and
otherwise not at all. A listener that has returned from `onConnected` is dropped in the same delivery,
so no registration is answered twice.
-/

namespace Yoshino.Customization

open Yoshino.Library

namespace PollingObserver

variable {L : Type}

/-- What is left when a listener is dropped. -/
def dropped (s : PollingObserver L) : PollingObserver L :=
  { s with posted := [], mSubID := invalidId, mListener := none }

/-- What is left when a listener has returned. -/
def answered (s : PollingObserver L) : PollingObserver L :=
  { s with completed := s.completed ++ [s.registrations] }

theorem finalState_postDelayed {s : PollingObserver L} (hhandler : s.mHandler = true) (delay : Nat) :
    finalState (postDelayed delay) s = { s with posted := s.posted ++ [delay] } := by
  simp [postDelayed, hhandler]

theorem finalState_unregister {s : PollingObserver L}
    (hhandler : s.mListener.isSome → s.mHandler = true) :
    finalState unregister s = if s.mListener.isSome then s.dropped else s := by
  cases hlistener : s.mListener.isSome with
  | false => simp [unregister, hlistener]
  | true =>
    have hremove : removeCallbacks s = .ok () { s with posted := [] } := by
      change (if s.mHandler then modify (fun s => { s with posted := [] }) else throw .exception :
        Code L Unit) s = _
      rw [if_pos (hhandler hlistener)]
      rfl
    simp only [unregister, finalState_get_bind, hlistener, if_true, finalState_bind_of_ok hremove,
      finalState_modify]
    rfl

/-- A question answers or throws, and changes nothing. -/
def Asks (isConnected : Int → Code L Bool) : Prop :=
  ∀ subID s, (∃ b, isConnected subID s = .ok b s) ∨ ∃ t, isConnected subID s = .error t s

theorem isConnected_asks (c : PollingClass) (telephony : Except Throwable Telephony) :
    Asks (L := L) (c.isConnected telephony) := by
  intro subID s
  cases c with
  | simServiceObserver =>
    cases telephony with
    | error t => exact .inr ⟨t, rfl⟩
    | ok t =>
      by_cases havailable : t.available = true
      · exact .inl ⟨t.signal subID, by rw [PollingClass.isConnected, hasService, if_pos havailable]; rfl⟩
      · exact .inr ⟨.exception, by rw [PollingClass.isConnected, hasService, if_neg havailable]; rfl⟩
  | slotObserver =>
    cases telephony with
    | error t => exact .inr ⟨t, rfl⟩
    | ok t => exact .inl ⟨isSIMLoaded t subID, rfl⟩

/-- A listener that is there is called. -/
theorem onConnected_of_listener (thrown : Option Throwable) {s : PollingObserver L}
    (hlistener : s.mListener.isSome) : onConnected thrown s = listenerBody thrown s := by
  obtain ⟨listener, hsome⟩ := Option.isSome_iff_exists.mp hlistener
  change (if s.mListener.isNone then throw .exception else _ : Code L Unit) s = _
  rw [hsome]
  rfl

/-- Calling the listener throws, or answers the registration. -/
theorem onConnected_cases (thrown : Option Throwable) (s : PollingObserver L) :
    (∃ t, onConnected thrown s = .error t s) ∨
      (s.mListener.isSome ∧ onConnected thrown s = .ok () s.answered) := by
  cases hlistener : s.mListener with
  | none =>
    refine .inl ⟨.exception, ?_⟩
    change (if s.mListener.isNone then throw .exception else _ : Code L Unit) s = _
    rw [hlistener]
    rfl
  | some listener =>
    have hcall := onConnected_of_listener thrown (Option.isSome_iff_exists.mpr ⟨listener, hlistener⟩)
    cases thrown with
    | some t => exact .inl ⟨t, hcall⟩
    | none => exact .inr ⟨rfl, hcall⟩

/-- The `try` block changes nothing, drops the listener, or drops it after it has returned. -/
theorem finalState_poll {isConnected : Int → Code L Bool} (hasks : Asks isConnected)
    (thrown : Option Throwable) {s : PollingObserver L}
    (hhandler : s.mListener.isSome → s.mHandler = true) :
    finalState (poll isConnected thrown) s = s ∨
      (s.mListener.isSome ∧ finalState (poll isConnected thrown) s = s.dropped) ∨
      (s.mListener.isSome ∧ finalState (poll isConnected thrown) s = s.answered.dropped) := by
  have hdropped : finalState unregister s = s ∨
      (s.mListener.isSome ∧ finalState unregister s = s.dropped) := by
    rw [finalState_unregister hhandler]
    split
    · exact .inr ⟨‹_›, rfl⟩
    · exact .inl rfl
  unfold poll
  rw [finalState_get_bind]
  split
  · exact hdropped.imp_right .inl
  · rw [finalState_get_bind]
    obtain ⟨b, hanswer⟩ | ⟨t, hthrown⟩ := hasks s.mSubID s
    · rw [finalState_bind_of_ok hanswer]
      cases b with
      | false => exact .inl rfl
      | true =>
        rw [if_pos rfl]
        obtain ⟨t, hcall⟩ | ⟨hlistener, hcall⟩ := onConnected_cases thrown s
        · rw [finalState_bind_of_error hcall]
          exact .inl rfl
        · have hunregister : finalState unregister s.answered = s.answered.dropped :=
            (finalState_unregister (s := s.answered) hhandler).trans (if_pos hlistener)
          rw [finalState_bind_of_ok hcall]
          exact .inr (.inr ⟨hlistener, hunregister⟩)
    · rw [finalState_bind_of_error hthrown]
      exact .inl rfl

/-- A delivery ends with the decision to post the runnable again. -/
theorem finalState_run (isConnected : Int → Code L Bool) (thrown : Option Throwable)
    (s : PollingObserver L) :
    finalState (run isConnected thrown) s =
      finalState repost (finalState (poll isConnected thrown) s) := by
  unfold run
  rw [finalState_tryFinally, finalState_tryCatch]
  intro t s
  split <;> rfl

/-- Posting again puts the runnable into the queue if there is a listener. -/
theorem finalState_repost {s : PollingObserver L} (hhandler : s.mListener.isSome → s.mHandler = true) :
    finalState repost s =
      if s.mListener.isSome then { s with posted := s.posted ++ [2000] } else s := by
  rw [repost, finalState_get_bind]
  split
  · exact finalState_postDelayed (hhandler ‹_›) 2000
  · rfl

/-- Registrations are answered at most once, and the one that has a listener not yet. -/
structure Answers (s : PollingObserver L) : Prop where
  handler : s.mListener.isSome → s.mHandler = true
  earlier : ∀ n ∈ s.completed, n ≤ s.registrations
  unanswered : s.mListener.isSome → s.registrations ∉ s.completed
  nodup : s.completed.Nodup

/-- The runnable is in the queue once if there is a listener, and otherwise not. -/
def PostedOnce (s : PollingObserver L) : Prop :=
  s.posted.length = if s.mListener.isSome then 1 else 0

theorem Answers.dropped {s : PollingObserver L} (h : s.Answers) : s.dropped.Answers where
  handler := by simp [PollingObserver.dropped]
  earlier := h.earlier
  unanswered := by simp [PollingObserver.dropped]
  nodup := h.nodup

theorem Answers.answered_dropped {s : PollingObserver L} (h : s.Answers)
    (hlistener : s.mListener.isSome) : s.answered.dropped.Answers where
  handler := by simp [PollingObserver.dropped]
  earlier n hn := by
    rcases List.mem_append.mp hn with hn | hn
    · exact h.earlier n hn
    · exact (List.mem_singleton.mp hn).le
  unanswered := by simp [PollingObserver.dropped]
  nodup := by
    refine List.nodup_append.mpr ⟨h.nodup, by simp, fun m hm n hn heq => ?_⟩
    rw [heq, List.mem_singleton.mp hn] at hm
    exact h.unanswered hlistener hm

/-- A delivery that has taken the runnable out of the queue puts it back once or not at all. -/
theorem Answers.run {s : PollingObserver L} (h : s.Answers) (hposted : s.posted = [])
    {isConnected : Int → Code L Bool} (hasks : Asks isConnected) (thrown : Option Throwable) :
    (finalState (run isConnected thrown) s).Answers ∧
      (finalState (run isConnected thrown) s).PostedOnce := by
  have hrepost {t : PollingObserver L} (ht : t.Answers) (hempty : t.posted = []) :
      (finalState repost t).Answers ∧ (finalState repost t).PostedOnce := by
    rw [finalState_repost ht.handler, PostedOnce]
    split
    · exact ⟨⟨ht.handler, ht.earlier, ht.unanswered, ht.nodup⟩, by simp_all⟩
    · exact ⟨ht, by simp_all⟩
  rw [finalState_run]
  obtain hpoll | ⟨hlistener, hpoll⟩ | ⟨hlistener, hpoll⟩ := finalState_poll hasks thrown h.handler
  · rw [hpoll]
    exact hrepost h hposted
  · rw [hpoll]
    exact hrepost h.dropped rfl
  · rw [hpoll]
    exact hrepost (h.answered_dropped hlistener) rfl

/-- A listener that is refused changes nothing; one that is accepted is posted for at once. -/
theorem finalState_register (subID : Int) (listener : L) (s : PollingObserver L) :
    finalState (register subID (some listener)) s =
      if s.mListener.isSome then s
      else
        { s with
          mSubID := subID
          mHandler := true
          mListener := some listener
          posted := s.posted ++ [0]
          registrations := s.registrations + 1 } := by
  cases hlistener : s.mListener with
  | some _ => simp [register, hlistener]
  | none =>
    cases hhandler : s.mHandler <;> simp [register, hlistener, hhandler, postDelayed]

/-- An observer between deliveries. -/
structure Idle (s : PollingObserver L) : Prop extends Answers s where
  postedOnce : s.PostedOnce

theorem Idle.register {s : PollingObserver L} (h : s.Idle) (subID : Int) (listener : L) :
    (finalState (register subID (some listener)) s).Idle := by
  rw [finalState_register]
  split
  · exact h
  next hnone =>
    have hposted : s.posted.length = 0 := by simpa [PostedOnce, hnone] using h.postedOnce
    refine ⟨⟨fun _ => rfl, fun n hn => (h.earlier n hn).trans (Nat.le_succ _), fun _ hmem => ?_, h.nodup⟩,
      by simp [PostedOnce, hposted]⟩
    exact absurd (h.earlier _ hmem) (Nat.not_succ_le_self _)

theorem Idle.unregister {s : PollingObserver L} (h : s.Idle) : (finalState unregister s).Idle := by
  rw [finalState_unregister h.handler]
  split
  · exact ⟨h.dropped, rfl⟩
  · exact h

/-- The runnable leaves the queue for its delivery, and the queue is empty until it is posted again. -/
theorem Idle.eraseIdx {s : PollingObserver L} (h : s.Idle) {position : Nat}
    (hposition : position < s.posted.length) : s.posted.eraseIdx position = [] := by
  have hlength : s.posted.length ≤ 1 := by
    rw [h.postedOnce]
    split <;> decide
  rw [← List.length_eq_zero_iff, List.length_eraseIdx_of_lt hposition]
  omega

theorem Idle.step {s : PollingObserver L} (h : s.Idle) (c : PollingClass) (e : PollingEvent L) :
    (s.step c e).Idle := by
  cases e with
  | register subID listener => exact h.register subID listener
  | unregister => exact h.unregister
  | deliver position telephony thrown =>
    unfold PollingObserver.step
    dsimp only
    split
    next hposition =>
      have htaken : Answers { s with posted := s.posted.eraseIdx position } :=
        ⟨h.handler, h.earlier, h.unanswered, h.nodup⟩
      obtain ⟨hanswers, hposted⟩ :=
        htaken.run (h.eraseIdx hposition) (isConnected_asks c telephony) thrown
      exact ⟨hanswers, hposted⟩
    · exact h

/-- An observer as it is constructed. -/
theorem idle_constructed : (({} : PollingObserver L)).Idle where
  handler := by simp
  earlier := by simp
  unanswered := by simp
  nodup := List.nodup_nil
  postedOnce := rfl

end PollingObserver

/-- Between deliveries the runnable of an observer is in the queue exactly once if there is a listener
and otherwise not, and the listener of no registration returns from `onConnected` twice. -/
theorem PollingObserver.posted_once {L : Type} (c : PollingClass) (events : List (PollingEvent L)) :
    let s := Library.run (PollingObserver.step c) {} events
    s.posted.length = (if s.mListener.isSome then 1 else 0) ∧
      ∀ registration, s.completed.count registration ≤ 1 := by
  intro s
  have hidle : s.Idle :=
    run_invariant_of_step Idle (fun s e hs => hs.step c e) {} events idle_constructed
  exact ⟨hidle.postedOnce, fun registration => List.nodup_iff_count_le_one.mp hidle.nodup registration⟩

end Yoshino.Customization
