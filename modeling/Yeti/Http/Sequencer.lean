import Mathlib.Data.List.AList
import Yeti.Framework.System

/-! # The sequencer of HTTP events

    Model of `HttpSequencer`.  A call reports that it has started, was connected and
    has ended; every report is a request to the HTTP client, and the next one may be
    posted only after the reply to the one before.  What cannot be posted yet is
    parked in the state of the call.

    Hooks, replies and `cleanup` run under the mutex of the sequencer and are one
    step each.  The data of a hook is a struct of the call leg and never undefined,
    so that `none` stands for an undefined `AmArg` in the state.
-/

open LTS

namespace Yeti.Http

variable {Data : Type}

/-! ### The sequencer -/

/-- `HttpSequencer::call_stage_type_t`. -/
inductive CallStageType where
  | CallStarted
  | CallConnected
  | CallDisconnected
  deriving DecidableEq, Repr

/-- `HttpSequencer::sequencer_stage_t`. -/
inductive SequencerStage where
  | StartedHookIsQueued
  | StartedHookReplyReceived
  | ConnectedHookIsQueued
  | ConnectedHookReplyReceived
  deriving DecidableEq, Repr

/-- `HttpSequencer::sequencer_state_t`. -/
structure SequencerState (Data : Type) where
  stage : SequencerStage
  invalidated : Bool := false
  connected_data : Option Data := none
  disconnected_data : Option Data := none
  deriving DecidableEq, Repr

/-- `HttpSequencer::states`, by `local_tag`. -/
abbrev States (Data : Type) := AList (fun _ : String => SequencerState Data)

/-- A call of `postHttpRequest`, or of `postHttpRequestNoReply` for `CallDisconnected`. -/
structure Post (Data : Type) where
  type : CallStageType
  data : Data
  /-- The event was posted. -/
  posted : Bool
  deriving DecidableEq, Repr

/-- `HttpSequencer::processHook`; `post` tells which requests can be posted. -/
def processHook (post : CallStageType → Bool) (states : States Data) (type : CallStageType)
    (local_tag : String) (data : Data) : States Data × List (Post Data) :=
  match type with
  | .CallStarted =>
    if post .CallStarted then
      -- `emplace` keeps a state that is there
      (if local_tag ∈ states then states
        else states.insert local_tag { stage := .StartedHookIsQueued },
        [⟨.CallStarted, data, true⟩])
    else (states, [⟨.CallStarted, data, false⟩])
  | .CallConnected =>
    match states.lookup local_tag with
    | none => (states, [])
    | some it =>
      match it.stage with
      | .StartedHookIsQueued =>
        (states.insert local_tag { it with connected_data := some data }, [])
      | .StartedHookReplyReceived =>
        if post .CallConnected then
          (states.insert local_tag { it with stage := .ConnectedHookIsQueued },
            [⟨.CallConnected, data, true⟩])
        else
          (states.insert local_tag { it with stage := .ConnectedHookReplyReceived },
            [⟨.CallConnected, data, false⟩])
      | .ConnectedHookIsQueued | .ConnectedHookReplyReceived => (states, [])
  | .CallDisconnected =>
    match states.lookup local_tag with
    | none => (states, [])
    | some it =>
      match it.stage with
      | .StartedHookIsQueued | .ConnectedHookIsQueued =>
        (states.insert local_tag { it with disconnected_data := some data }, [])
      | .StartedHookReplyReceived | .ConnectedHookReplyReceived =>
        (states.erase local_tag, [⟨.CallDisconnected, data, post .CallDisconnected⟩])

/-- The end of both branches of `processHttpReply`: the parked end of the call is
    posted, else the sequencer waits in the stage `next` for more hooks. -/
def finishReply (post : CallStageType → Bool) (states : States Data) (token : String)
    (it : SequencerState Data) (next : SequencerStage) : States Data × List (Post Data) :=
  match it.disconnected_data with
  | some data => (states.erase token, [⟨.CallDisconnected, data, post .CallDisconnected⟩])
  | none =>
    if it.invalidated then (states.erase token, [])
    else (states.insert token { it with stage := next }, [])

/-- `HttpSequencer::processHttpReply`. -/
def processHttpReply (post : CallStageType → Bool) (states : States Data) (token : String) :
    States Data × List (Post Data) :=
  match states.lookup token with
  | none => (states, [])
  | some it =>
    match it.stage with
    | .StartedHookIsQueued =>
      match it.connected_data with
      | some data =>
        if post .CallConnected then
          (states.insert token { it with stage := .ConnectedHookIsQueued },
            [⟨.CallConnected, data, true⟩])
        else
          let (states, posts) := finishReply post states token
            { it with connected_data := none } .StartedHookReplyReceived
          (states, ⟨.CallConnected, data, false⟩ :: posts)
      | none => finishReply post states token it .StartedHookReplyReceived
    | .ConnectedHookIsQueued => finishReply post states token it .ConnectedHookReplyReceived
    | .StartedHookReplyReceived | .ConnectedHookReplyReceived => (states, [])

/-- `HttpSequencer::cleanup`. -/
def cleanup (states : States Data) (local_tag : String) : States Data :=
  match states.lookup local_tag with
  | none => states
  | some it =>
    match it.stage with
    | .StartedHookIsQueued | .ConnectedHookIsQueued =>
      -- a hint for `processHttpReply`
      states.insert local_tag { it with invalidated := true }
    | .StartedHookReplyReceived | .ConnectedHookReplyReceived => states.erase local_tag

/-! ### Histories -/

/-- What happens for one call. -/
inductive Event (Data : Type) where
  | hook (type : CallStageType) (data : Data)
  | post (p : Post Data)
  | reply
  | cleanup
  deriving DecidableEq, Repr

/-- What a history comes to. -/
structure Summary (Data : Type) where
  /-- The hooks that were called, in order. -/
  called : List (CallStageType × Data) := []
  /-- The requests that were posted, in order. -/
  posted : List (CallStageType × Data) := []
  /-- Some request could not be posted. -/
  failed : Bool := false
  /-- Requests that wait for their reply. -/
  waiting : Nat := 0
  /-- `cleanup` was called. -/
  closed : Bool := false
  deriving DecidableEq, Repr

/-- One more event.  There is no reply to the request for the end of the call. -/
def Summary.add (s : Summary Data) : Event Data → Summary Data
  | .hook type data => { s with called := s.called ++ [(type, data)] }
  | .post p =>
    if p.posted then
      { s with
        posted := s.posted ++ [(p.type, p.data)]
        waiting := if p.type = .CallDisconnected then s.waiting else s.waiting + 1 }
    else { s with failed := true }
  | .reply => { s with waiting := s.waiting - 1 }
  | .cleanup => { s with closed := true }

def summary (history : List (Event Data)) : Summary Data := history.foldl Summary.add {}

/-- The hooks of a call come in their order, and none after `cleanup`. -/
def mayCall (s : Summary Data) (type : CallStageType) : Bool :=
  !s.closed &&
    match type with
    | .CallStarted => s.called.map (·.1) = []
    | .CallConnected => s.called.map (·.1) = [.CallStarted]
    | .CallDisconnected =>
      s.called.map (·.1) = [.CallStarted] ∨ s.called.map (·.1) = [.CallStarted, .CallConnected]

/-! ### Runs -/

/-- The sequencer with the histories of all calls. -/
structure World (Data : Type) where
  states : States Data := ∅
  history : String → List (Event Data) := fun _ => []

/-- The history of one call goes on. -/
def World.record (w : World Data) (local_tag : String) (states : States Data)
    (events : List (Event Data)) : World Data where
  states := states
  history := fun tag => if tag = local_tag then w.history tag ++ events else w.history tag

/-- What can happen; `post` tells which requests can be posted then. -/
inductive Label (Data : Type) where
  | hook (type : CallStageType) (local_tag : String) (data : Data) (post : CallStageType → Bool)
  | reply (local_tag : String) (post : CallStageType → Bool)
  | cleanup (local_tag : String)

/-- One step. -/
def next (w : World Data) : Label Data → Option (World Data)
  | .hook type local_tag data post =>
    if mayCall (summary (w.history local_tag)) type then
      let (states, posts) := processHook post w.states type local_tag data
      some (w.record local_tag states (.hook type data :: posts.map .post))
    else none
  | .reply local_tag post =>
    -- every posted request that wants one gets one reply
    if 0 < (summary (w.history local_tag)).waiting then
      let (states, posts) := processHttpReply post w.states local_tag
      some (w.record local_tag states (.reply :: posts.map .post))
    else none
  | .cleanup local_tag =>
    if (summary (w.history local_tag)).closed then none
    else some (w.record local_tag (cleanup w.states local_tag) [.cleanup])

/-- All runs of the sequencer. -/
def system (Data : Type) : System (World Data) (Label Data) where
  init := fun w => w = {}
  next := next

end Yeti.Http
