import Mathlib.Logic.Function.Basic

/-! # Call timers

    The timers of an A leg, from `SBCCallLeg.cpp`.  Until the call is connected they are
    only noted in `call_timers`; `startCallTimers` then sets them all.  Requests of other
    components come as `SBCCallTimerEvent`.

    The timers that `AmSession` runs are a map, in which a timer that is set again
    replaces the one before.  A timeout is a `double` that is never computed with.
-/

namespace Yeti.Call

/-- The values of `m_state`. -/
inductive BBState where
  | BB_Init
  | BB_Dialing
  | BB_Connected
  | BB_Teardown
  deriving DecidableEq, Repr

/-- `SBCCallTimerEvent::TimerAction`. -/
inductive TimerAction where
  | Remove
  | Set
  | Reset
  deriving DecidableEq, Repr

def SBC_TIMER_ID_CALL_TIMERS_START : Int := 10
def SBC_TIMER_ID_CALL_TIMERS_END : Int := 99

def YETI_CALL_DURATION_TIMER : Int := SBC_TIMER_ID_CALL_TIMERS_START
def YETI_RINGING_TIMEOUT_TIMER : Int := SBC_TIMER_ID_CALL_TIMERS_START + 1
def YETI_RADIUS_INTERIM_TIMER : Int := SBC_TIMER_ID_CALL_TIMERS_START + 2
def YETI_FAKE_RINGING_TIMER : Int := SBC_TIMER_ID_CALL_TIMERS_START + 3

/-- The timers of an A leg. -/
structure CallTimers (T : Type) where
  m_state : BBState := .BB_Init
  /-- A map. -/
  call_timers : Int → Option T := fun _ => none
  /-- The timers of `AmSession`. -/
  running : Int → Option T := fun _ => none

namespace CallTimers

variable {T : Type} (t : CallTimers T)

/-! ### Single timers -/

/-- `SBCCallLeg::saveCallTimer`. -/
def saveCallTimer (timer : Int) (timeout : T) : CallTimers T :=
  { t with call_timers := Function.update t.call_timers timer (some timeout) }

/-- `SBCCallLeg::clearCallTimer`. -/
def clearCallTimer (timer : Int) : CallTimers T :=
  { t with call_timers := Function.update t.call_timers timer none }

/-- `AmSession::setTimer`. -/
def setTimer (timer : Int) (timeout : T) : CallTimers T :=
  { t with running := Function.update t.running timer (some timeout) }

/-- `AmSession::removeTimer`. -/
def removeTimer (timer : Int) : CallTimers T :=
  { t with running := Function.update t.running timer none }

/-! ### All timers -/

/-- `SBCCallLeg::startCallTimers`. -/
def startCallTimers : CallTimers T :=
  { t with running := fun timer => (t.call_timers timer).or (t.running timer) }

/-- `SBCCallLeg::stopCallTimers`. -/
def stopCallTimers : CallTimers T :=
  { t with running := fun timer => if (t.call_timers timer).isSome then none else t.running timer }

/-- The end of `SBCCallLeg::onCallConnected`. -/
def onCallConnected : CallTimers T := { t with m_state := .BB_Connected }.startCallTimers

/-- `SBCCallLeg::onStop`. -/
def onStop : CallTimers T :=
  { (if t.m_state = .BB_Connected then t.stopCallTimers else t) with m_state := .BB_Teardown }

/-- An `SBCCallTimerEvent` in `SBCCallLeg::process`. -/
def onCallTimerEvent (timer_action : TimerAction) (timer_id : Int) (timeout : T) : CallTimers T :=
  match t.m_state with
  | .BB_Connected =>
    match timer_action with
    | .Remove => t.removeTimer timer_id
    | .Set => t.setTimer timer_id timeout
    | .Reset => (t.removeTimer timer_id).setTimer timer_id timeout
  | .BB_Init | .BB_Dialing =>
    match timer_action with
    | .Remove => t.clearCallTimer timer_id
    | .Set | .Reset => t.saveCallTimer timer_id timeout
  | .BB_Teardown => t

/-- `if (profile->time_limit) saveCallTimer(...)`, after the timer of an earlier profile was
    cleared. -/
def saveTimeLimit [IntCast T] (time_limit : Int) : CallTimers T :=
  if time_limit ≠ 0 then t.saveCallTimer YETI_CALL_DURATION_TIMER (time_limit : T) else t

/-! ### What is asked for -/

/-- The timers that run, or will run once the call is connected. -/
def pending : Int → Option T :=
  match t.m_state with
  | .BB_Init | .BB_Dialing => t.call_timers
  | .BB_Connected | .BB_Teardown => t.running

end CallTimers

end Yeti.Call
