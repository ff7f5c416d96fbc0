import Yoshino.Customization.NetworkSwitcher
import Yoshino.Library.Exceptions

/-!
# The polling observers

`SimServiceObserver` and `SlotObserver` wait for signal or for a loaded SIM by a runnable that posts
itself to the main looper every two seconds until its listener has been called. The two differ only in
the question they ask the phone. A listener may throw anything; `run` catches exceptions and lets
errors pass, and its `finally` decides whether to go on in both cases.
-/

namespace Yoshino.Customization

open Yoshino.Library

/-- What can be thrown: `run` catches an exception and not an error. -/
inductive Throwable
  | exception
  | error
  deriving DecidableEq, Repr

/-- An observer with what the main looper holds of it. -/
structure PollingObserver (L : Type) where
  mSubID : Int := invalidId
  /-- Whether `mHandler` has been made. -/
  mHandler : Bool := false
  mListener : Option L := none
  /-- The delays in milliseconds with which the runnable is in the queue of the main looper. -/
  posted : List Nat := []
  /-- How many calls of `register` were not refused; the listener belongs to the last of them. -/
  registrations : Nat := 0
  /-- The registrations whose listener has returned from `onConnected`, in order. -/
  completed : List Nat := []

namespace PollingObserver

variable {L : Type}

/-- Code of an observer. -/
abbrev Code (L : Type) := EStateM Throwable (PollingObserver L)

/-- `mHandler.postDelayed(runnable, delay)`; a missing handler is a null pointer. -/
def postDelayed (delay : Nat) : Code L Unit := do
  if (← get).mHandler then
    modify fun s => { s with posted := s.posted ++ [delay] }
  else throw .exception

/-- `mHandler.removeCallbacks(runnable)`. -/
def removeCallbacks : Code L Unit := do
  if (← get).mHandler then
    modify fun s => { s with posted := [] }
  else throw .exception

/-- `register`; the listener may be null. -/
def register (subID : Int) (listener : Option L) : Code L Unit := do
  if (← get).mListener.isNone then
    modify fun s =>
      { s with mSubID := subID, mListener := listener, registrations := s.registrations + 1 }
    if !(← get).mHandler then
      modify fun s => { s with mHandler := true }
    postDelayed 0

/-- `unregister`. -/
def unregister : Code L Unit := do
  if (← get).mListener.isSome then
    removeCallbacks
    modify fun s => { s with mSubID := invalidId, mListener := none }

/-- The body of a listener, which throws if told so. -/
def listenerBody (thrown : Option Throwable) : Code L Unit :=
  match thrown with
  | some t => throw t
  | none => modify fun s => { s with completed := s.completed ++ [s.registrations] }

/-- `mListener.onConnected()`; a missing listener is a null pointer. -/
def onConnected (thrown : Option Throwable) : Code L Unit := do
  if (← get).mListener.isNone then throw .exception
  else listenerBody thrown

/-- The question of `SimServiceObserver`; without a telephony manager it is a null pointer. -/
def hasService (telephony : Except Throwable Telephony) (subID : Int) : Code L Bool :=
  match telephony with
  | .error t => throw t
  | .ok t => if t.available then pure (t.signal subID) else throw .exception

/-- The question of `SlotObserver`. -/
def isSlotLoaded (telephony : Except Throwable Telephony) (subID : Int) : Code L Bool :=
  match telephony with
  | .error t => throw t
  | .ok t => pure (isSIMLoaded t subID)

/-- The `try` block of `runnable.run`, for an observer with a question. -/
def poll (isConnected : Int → Code L Bool) (thrown : Option Throwable) : Code L Unit := do
  if (← get).mSubID == invalidId then unregister
  else if ← isConnected (← get).mSubID then
    onConnected thrown
    unregister

/-- The `finally` block of `runnable.run`. -/
def repost : Code L Unit := do
  if (← get).mListener.isSome then postDelayed 2000

/-- `runnable.run`. -/
def run (isConnected : Int → Code L Bool) (thrown : Option Throwable) : Code L Unit := do
  try poll isConnected thrown
  catch t => if t = .error then throw t
  finally repost

end PollingObserver

/-- The two classes of polling observers. -/
inductive PollingClass
  | simServiceObserver
  | slotObserver

/-- The question of a class. -/
def PollingClass.isConnected {L : Type} (telephony : Except Throwable Telephony) :
    PollingClass → Int → PollingObserver.Code L Bool
  | simServiceObserver => PollingObserver.hasService telephony
  | slotObserver => PollingObserver.isSlotLoaded telephony

/-- What happens to an observer. -/
inductive PollingEvent (L : Type)
  | register (subID : Int) (listener : L)
  | unregister
  /-- The main looper takes a runnable out of its queue and runs it. -/
  | deliver (position : Nat) (telephony : Except Throwable Telephony) (thrown : Option Throwable)

/-- One step of an observer; the looper has nothing to deliver from an empty place of its queue. -/
def PollingObserver.step {L : Type} (c : PollingClass) (s : PollingObserver L) :
    PollingEvent L → PollingObserver L
  | .register subID listener => finalState (register subID (some listener)) s
  | .unregister => finalState unregister s
  | .deliver position telephony thrown =>
    if position < s.posted.length then
      finalState (run (c.isConnected telephony) thrown)
        { s with posted := s.posted.eraseIdx position }
    else s

end Yoshino.Customization
