import Yeti.Http.Sequencer

/-! # Order of the HTTP events of a call

    For each call the state kept by the sequencer determines what has been called,
    posted and answered so far.  `Phase` lists the possibilities; every step goes
    from one to another, and what is claimed of the requests is read off from them.
-/

open LTS

namespace Yeti.Http

variable {Data : Type}

/-! ### What is claimed of a call -/

/-- The order in which a call reports. -/
def reportOrder : List CallStageType := [.CallStarted, .CallConnected, .CallDisconnected]

/-- A request is posted only when no reply is awaited. -/
def Serial (history : List (Event Data)) : Prop :=
  ∀ past p, past ++ [Event.post p] <+: history → p.posted = true → (summary past).waiting = 0

/-- The sequencing of the requests of a call with this history, whose state in the
    sequencer is `st`. -/
structure Sequenced (st : Option (SequencerState Data)) (history : List (Event Data)) : Prop where
  ordered : ((summary history).posted.map (·.1)).Sublist reportOrder
  serial : Serial history
  complete : (summary history).failed = false → (summary history).waiting = 0 →
    (summary history).posted = (summary history).called
  clean : (summary history).closed = true → (summary history).waiting = 0 → st = none

/-! ### Phases -/

/-- The hooks whose data is parked. -/
def parked (type : CallStageType) (data : Option Data) : List (CallStageType × Data) :=
  (data.map (type, ·)).toList

/-- What the state of a call tells about its history. -/
inductive Phase : Option (SequencerState Data) → Summary Data → Prop
  | unstarted (closed : Bool) : Phase none { closed }
  | ended (called posted : List (CallStageType × Data)) (failed closed : Bool)
      (hstarted : called ≠ []) (hcalled : (called.map (·.1)).Sublist reportOrder)
      (hposted : posted.Sublist called)
      (hend : failed = true ∨ posted = called ∧
        (closed = true ∨ CallStageType.CallDisconnected ∈ called.map (·.1))) :
      Phase none ⟨called, posted, failed, 0, closed⟩
  | startedQueued (s : Data) (c d : Option Data) (closed : Bool) :
      Phase (some ⟨.StartedHookIsQueued, closed, c, d⟩)
        ⟨(.CallStarted, s) :: (parked .CallConnected c ++ parked .CallDisconnected d),
          [(.CallStarted, s)], false, 1, closed⟩
  | startedReplied (s : Data) :
      Phase (some ⟨.StartedHookReplyReceived, false, none, none⟩)
        ⟨[(.CallStarted, s)], [(.CallStarted, s)], false, 0, false⟩
  /-- `CallConnected` was parked and could not be posted with the reply. -/
  | startedFailed (s c : Data) :
      Phase (some ⟨.StartedHookReplyReceived, false, none, none⟩)
        ⟨[(.CallStarted, s), (.CallConnected, c)], [(.CallStarted, s)], true, 0, false⟩
  | connectedQueued (s c : Data) (c' d : Option Data) (closed : Bool) :
      Phase (some ⟨.ConnectedHookIsQueued, closed, c', d⟩)
        ⟨(.CallStarted, s) :: (.CallConnected, c) :: parked .CallDisconnected d,
          [(.CallStarted, s), (.CallConnected, c)], false, 1, closed⟩
  | connectedReplied (s c : Data) (c' : Option Data) :
      Phase (some ⟨.ConnectedHookReplyReceived, false, c', none⟩)
        ⟨[(.CallStarted, s), (.CallConnected, c)], [(.CallStarted, s), (.CallConnected, c)],
          false, 0, false⟩
  | connectedFailed (s c : Data) :
      Phase (some ⟨.ConnectedHookReplyReceived, false, none, none⟩)
        ⟨[(.CallStarted, s), (.CallConnected, c)], [(.CallStarted, s)], true, 0, false⟩

/-- The state of a call and its history belong together. -/
structure Inv (st : Option (SequencerState Data)) (history : List (Event Data)) : Prop where
  phase : Phase st (summary history)
  serial : Serial history

theorem Phase.ordered {st : Option (SequencerState Data)} {s : Summary Data} (h : Phase st s) :
    (s.posted.map (·.1)).Sublist reportOrder := by
  cases h with
  | unstarted => exact List.nil_sublist _
  | ended called posted failed closed hstarted hcalled hposted hend => exact (hposted.map _).trans hcalled
  | _ => simp [reportOrder]

theorem Phase.complete {st : Option (SequencerState Data)} {s : Summary Data} (h : Phase st s)
    (hfailed : s.failed = false) (hwaiting : s.waiting = 0) : s.posted = s.called := by
  cases h with
  | unstarted => rfl
  | ended called posted failed closed hstarted hcalled hposted hend =>
    rcases hend with hend | ⟨hsame, -⟩
    · rw [hend] at hfailed
      cases hfailed
    · exact hsame
  | startedQueued => cases hwaiting
  | startedReplied => rfl
  | startedFailed => cases hfailed
  | connectedQueued => cases hwaiting
  | connectedReplied => rfl
  | connectedFailed => cases hfailed

theorem Phase.clean {st : Option (SequencerState Data)} {s : Summary Data} (h : Phase st s)
    (hclosed : s.closed = true) (hwaiting : s.waiting = 0) : st = none := by
  cases h with
  | unstarted => rfl
  | ended => rfl
  | startedQueued => cases hwaiting
  | connectedQueued => cases hwaiting
  | _ => cases hclosed

/-! ### Histories that go on -/

theorem summary_append (history events : List (Event Data)) :
    summary (history ++ events) = events.foldl Summary.add (summary history) :=
  List.foldl_append

/-- Requests among the events are posted when no reply is awaited. -/
def Allowed (s : Summary Data) : List (Event Data) → Prop
  | [] => True
  | .post p :: events =>
    (p.posted = true → s.waiting = 0) ∧ Allowed (s.add (.post p)) events
  | e :: events => Allowed (s.add e) events

theorem serial_nil : Serial ([] : List (Event Data)) := by
  intro past p hpast
  simp at hpast

theorem Serial.snoc {history : List (Event Data)} (h : Serial history) (e : Event Data)
    (he : ∀ p, e = .post p → p.posted = true → (summary history).waiting = 0) :
    Serial (history ++ [e]) := by
  intro past p hpast hposted
  rcases List.prefix_concat_iff.mp hpast with heq | hpast
  · obtain ⟨hpast, hlast⟩ := List.append_inj' heq rfl
    rw [hpast]
    exact he p (List.singleton_inj.mp hlast).symm hposted
  · exact h past p hpast hposted

theorem Serial.append {history events : List (Event Data)} (h : Serial history)
    (hallowed : Allowed (summary history) events) : Serial (history ++ events) := by
  induction events generalizing history with
  | nil => rw [List.append_nil]; exact h
  | cons e events ih =>
    have hsummary : summary (history ++ [e]) = (summary history).add e :=
      summary_append history [e]
    rw [List.append_cons]
    cases e with
    | post p =>
      apply ih (h.snoc (.post p) ?_) (by rw [hsummary]; exact hallowed.2)
      intro p' hp'
      rw [← Event.post.inj hp']
      exact hallowed.1
    | hook | reply | cleanup =>
      exact ih (h.snoc _ (by simp)) (by rw [hsummary]; exact hallowed)

/-- The events lead from the summary `s` to the state `st`. -/
structure Leads (s : Summary Data) (events : List (Event Data))
    (st : Option (SequencerState Data)) : Prop where
  phase : Phase st (events.foldl Summary.add s)
  allowed : Allowed s events

theorem Inv.extend {st st' : Option (SequencerState Data)} {history events : List (Event Data)}
    (h : Inv st history) (hleads : Leads (summary history) events st') :
    Inv st' (history ++ events) :=
  ⟨by rw [summary_append]; exact hleads.phase, h.serial.append hleads.allowed⟩

/-! ### Hooks -/

section Steps

variable {states : States Data} {local_tag : String} {st : Option (SequencerState Data)}
  {s : Summary Data}

/-- An event and the requests that it tries to post. -/
def eventsOf (e : Event Data) (posts : List (Post Data)) : List (Event Data) :=
  e :: posts.map .post

theorem leads_started (post : CallStageType → Bool) (data : Data)
    (hst : states.lookup local_tag = st) (hphase : Phase st s)
    (hcall : mayCall s .CallStarted = true) :
    Leads s (eventsOf (.hook .CallStarted data)
        (processHook post states .CallStarted local_tag data).2)
      ((processHook post states .CallStarted local_tag data).1.lookup local_tag) := by
  cases hphase with
  | unstarted closed =>
    have hmem : local_tag ∉ states := AList.lookup_eq_none.mp hst
    obtain rfl : closed = false := by simpa [mayCall] using hcall
    cases hpost : post .CallStarted with
    | true =>
      have hhook : processHook post states .CallStarted local_tag data =
          (states.insert local_tag { stage := .StartedHookIsQueued },
            [⟨.CallStarted, data, true⟩]) := by
        simp [processHook, hpost, hmem]
      rw [hhook, AList.lookup_insert]
      exact ⟨.startedQueued data none none false, fun _ => rfl, trivial⟩
    | false =>
      have hhook : processHook post states .CallStarted local_tag data =
          (states, [⟨.CallStarted, data, false⟩]) := by
        simp [processHook, hpost]
      rw [hhook, hst]
      refine ⟨.ended [(.CallStarted, data)] [] true false (by simp) (by simp [reportOrder])
        (List.nil_sublist _) (.inl rfl), ?_, trivial⟩
      simp
  | ended called posted failed closed hstarted hcalled hposted hend =>
    simp [mayCall, hstarted] at hcall
  | _ => simp [mayCall] at hcall

/-- A hook of a call that has failed to report its start does nothing. -/
theorem leads_ended {called posted : List (CallStageType × Data)} {failed closed : Bool}
    {type : CallStageType} {data : Data} (hclosed : closed = false)
    (hopen : CallStageType.CallDisconnected ∉ called.map (·.1))
    (hcalled : ((called ++ [(type, data)]).map (·.1)).Sublist reportOrder)
    (hposted : posted.Sublist called)
    (hend : failed = true ∨ posted = called ∧
      (closed = true ∨ CallStageType.CallDisconnected ∈ called.map (·.1))) :
    Leads ⟨called, posted, failed, 0, closed⟩ [.hook type data] none := by
  have hfailed : failed = true := by
    rcases hend with hend | ⟨-, hend | hend⟩
    · exact hend
    · rw [hclosed] at hend
      cases hend
    · exact absurd hend hopen
  refine ⟨?_, trivial⟩
  exact .ended (called ++ [(type, data)]) posted failed closed (by simp) hcalled
    (hposted.trans (List.sublist_append_left _ _)) (.inl hfailed)

theorem leads_connected (post : CallStageType → Bool) (data : Data)
    (hst : states.lookup local_tag = st) (hphase : Phase st s)
    (hcall : mayCall s .CallConnected = true) :
    Leads s (eventsOf (.hook .CallConnected data)
        (processHook post states .CallConnected local_tag data).2)
      ((processHook post states .CallConnected local_tag data).1.lookup local_tag) := by
  cases hphase with
  | ended called posted failed closed hstarted hcalled hposted hend =>
    have hhook : processHook post states .CallConnected local_tag data = (states, []) := by
      simp [processHook, hst]
    obtain ⟨hclosed, htypes⟩ : closed = false ∧ called.map (·.1) = [.CallStarted] := by
      simpa [mayCall] using hcall
    rw [hhook, hst]
    apply leads_ended hclosed (by simp [htypes]) ?_ hposted hend
    rw [List.map_append, htypes]
    simp [reportOrder]
  | startedQueued s c d closed =>
    obtain ⟨rfl, rfl, rfl⟩ : closed = false ∧ c = none ∧ d = none := by
      cases c <;> cases d <;> simp_all [mayCall, parked]
    have hhook : processHook post states .CallConnected local_tag data =
        (states.insert local_tag ⟨.StartedHookIsQueued, false, some data, none⟩, []) := by
      simp [processHook, hst]
    rw [hhook, AList.lookup_insert]
    exact ⟨.startedQueued s (some data) none false, trivial⟩
  | startedReplied s =>
    cases hpost : post .CallConnected with
    | true =>
      have hhook : processHook post states .CallConnected local_tag data =
          (states.insert local_tag ⟨.ConnectedHookIsQueued, false, none, none⟩,
            [⟨.CallConnected, data, true⟩]) := by
        simp [processHook, hst, hpost]
      rw [hhook, AList.lookup_insert]
      exact ⟨.connectedQueued s data none none false, fun _ => rfl, trivial⟩
    | false =>
      have hhook : processHook post states .CallConnected local_tag data =
          (states.insert local_tag ⟨.ConnectedHookReplyReceived, false, none, none⟩,
            [⟨.CallConnected, data, false⟩]) := by
        simp [processHook, hst, hpost]
      rw [hhook, AList.lookup_insert]
      exact ⟨.connectedFailed s data, by simp, trivial⟩
  | _ => simp [mayCall] at hcall

/-- The end of the call is the last thing to be posted. -/
theorem phase_ended {before posted : List (CallStageType × Data)} {failed : Bool} (closed : Bool)
    (data : Data) (p : Bool)
    (hcalled : ((before ++ [(CallStageType.CallDisconnected, data)]).map (·.1)).Sublist reportOrder)
    (hposted : posted.Sublist before) (hdone : failed = true ∨ posted = before) :
    Phase none (Summary.add ⟨before ++ [(.CallDisconnected, data)], posted, failed, 0, closed⟩
      (.post ⟨.CallDisconnected, data, p⟩)) := by
  cases p with
  | true =>
    show Phase none ⟨before ++ [(.CallDisconnected, data)],
      posted ++ [(.CallDisconnected, data)], failed, 0, closed⟩
    apply Phase.ended _ _ _ _ (by simp) hcalled (hposted.append_right _)
    rcases hdone with hfailed | hsame
    · exact .inl hfailed
    · exact .inr ⟨by rw [hsame], .inr (by simp)⟩
  | false =>
    exact .ended _ _ _ _ (by simp) hcalled (hposted.trans (List.sublist_append_left _ _)) (.inl rfl)

theorem leads_disconnected (post : CallStageType → Bool) (data : Data)
    (hst : states.lookup local_tag = st) (hphase : Phase st s)
    (hcall : mayCall s .CallDisconnected = true) :
    Leads s (eventsOf (.hook .CallDisconnected data)
        (processHook post states .CallDisconnected local_tag data).2)
      ((processHook post states .CallDisconnected local_tag data).1.lookup local_tag) := by
  -- a call whose last reply has come is reported at once
  have hnow (stage : SequencerStage) (c : Option Data)
      (hstage : stage = .StartedHookReplyReceived ∨ stage = .ConnectedHookReplyReceived)
      (hlookup : states.lookup local_tag = some ⟨stage, false, c, none⟩) :
      processHook post states .CallDisconnected local_tag data =
        (states.erase local_tag, [⟨.CallDisconnected, data, post .CallDisconnected⟩]) := by
    rcases hstage with rfl | rfl <;> simp [processHook, hlookup]
  cases hphase with
  | unstarted closed => simp [mayCall] at hcall
  | ended called posted failed closed hstarted hcalled hposted hend =>
    have hhook : processHook post states .CallDisconnected local_tag data = (states, []) := by
      simp [processHook, hst]
    obtain ⟨hclosed, htypes⟩ : closed = false ∧ (called.map (·.1) = [.CallStarted] ∨
        called.map (·.1) = [.CallStarted, .CallConnected]) := by
      simpa [mayCall] using hcall
    rw [hhook, hst]
    apply leads_ended hclosed ?_ ?_ hposted hend
    · rcases htypes with htypes | htypes <;> simp [htypes]
    · rw [List.map_append]
      rcases htypes with htypes | htypes <;> simp [htypes, reportOrder]
  | startedQueued s c d closed =>
    obtain ⟨rfl, rfl⟩ : closed = false ∧ d = none := by
      cases c <;> cases d <;> simp_all [mayCall, parked]
    have hhook : processHook post states .CallDisconnected local_tag data =
        (states.insert local_tag ⟨.StartedHookIsQueued, false, c, some data⟩, []) := by
      simp [processHook, hst]
    rw [hhook, AList.lookup_insert]
    refine ⟨?_, trivial⟩
    have hcalled := Phase.startedQueued s c (some data) false
    simpa [eventsOf, Summary.add, parked] using hcalled
  | connectedQueued s c c' d closed =>
    obtain ⟨rfl, rfl⟩ : closed = false ∧ d = none := by
      cases d <;> simp_all [mayCall, parked]
    have hhook : processHook post states .CallDisconnected local_tag data =
        (states.insert local_tag ⟨.ConnectedHookIsQueued, false, c', some data⟩, []) := by
      simp [processHook, hst]
    rw [hhook, AList.lookup_insert]
    exact ⟨.connectedQueued s c c' (some data) false, trivial⟩
  | startedReplied s =>
    rw [hnow _ _ (.inl rfl) hst, AList.lookup_erase]
    exact ⟨phase_ended false data _ (by simp [reportOrder]) (List.Sublist.refl _) (.inr rfl),
      fun _ => rfl, trivial⟩
  | startedFailed s c =>
    rw [hnow _ _ (.inl rfl) hst, AList.lookup_erase]
    exact ⟨phase_ended false data _ (by simp [reportOrder]) (by simp) (.inl rfl),
      fun _ => rfl, trivial⟩
  | connectedReplied s c c' =>
    rw [hnow _ _ (.inr rfl) hst, AList.lookup_erase]
    exact ⟨phase_ended false data _ (by simp [reportOrder]) (List.Sublist.refl _) (.inr rfl),
      fun _ => rfl, trivial⟩
  | connectedFailed s c =>
    rw [hnow _ _ (.inr rfl) hst, AList.lookup_erase]
    exact ⟨phase_ended false data _ (by simp [reportOrder]) (by simp) (.inl rfl),
      fun _ => rfl, trivial⟩

/-! ### Replies and cleanup -/

/-- What the end of `processHttpReply` does once the reply is counted. -/
theorem leads_finishReply (post : CallStageType → Bool) (states : States Data)
    (local_tag : String) (it : SequencerState Data) (next : SequencerStage)
    (before posted : List (CallStageType × Data)) (failed : Bool) (hbefore : before ≠ [])
    (hcalled : ((before ++ parked .CallDisconnected it.disconnected_data).map (·.1)).Sublist
      reportOrder)
    (hposted : posted.Sublist before) (hdone : failed = true ∨ posted = before)
    (hnext : it.invalidated = false → it.disconnected_data = none →
      Phase (some { it with stage := next }) ⟨before, posted, failed, 0, false⟩) :
    Leads ⟨before ++ parked .CallDisconnected it.disconnected_data, posted, failed, 0,
        it.invalidated⟩ ((finishReply post states local_tag it next).2.map .post)
      ((finishReply post states local_tag it next).1.lookup local_tag) := by
  unfold finishReply
  cases hdata : it.disconnected_data with
  | some data =>
    rw [hdata] at hcalled
    simp only [AList.lookup_erase]
    exact ⟨phase_ended it.invalidated data _ hcalled hposted hdone, fun _ => rfl, trivial⟩
  | none =>
    rw [hdata] at hcalled
    cases hinvalidated : it.invalidated with
    | true =>
      simp only [if_true, AList.lookup_erase]
      refine ⟨?_, trivial⟩
      have hnil : before ++ parked .CallDisconnected none = before := List.append_nil before
      rw [hnil] at hcalled ⊢
      exact .ended before posted failed true hbefore hcalled hposted
        (hdone.imp_right (⟨·, .inl rfl⟩))
    | false =>
      simp only [Bool.false_eq_true, if_false, AList.lookup_insert]
      refine ⟨?_, trivial⟩
      have hnil : before ++ parked .CallDisconnected none = before := List.append_nil before
      rw [hnil]
      have h := hnext hinvalidated hdata
      rw [hdata, hinvalidated] at h
      exact h

theorem leads_reply (post : CallStageType → Bool) (hst : states.lookup local_tag = st)
    (hphase : Phase st s) (hwaiting : 0 < s.waiting) :
    Leads s (eventsOf .reply (processHttpReply post states local_tag).2)
      ((processHttpReply post states local_tag).1.lookup local_tag) := by
  cases hphase with
  | startedQueued s c d closed =>
    cases c with
    | none =>
      have hreply : processHttpReply post states local_tag = finishReply post states local_tag
          ⟨.StartedHookIsQueued, closed, none, d⟩ .StartedHookReplyReceived := by
        simp [processHttpReply, hst]
      rw [hreply]
      have hleads := leads_finishReply post states local_tag
        ⟨.StartedHookIsQueued, closed, none, d⟩ .StartedHookReplyReceived
        [(.CallStarted, s)] [(.CallStarted, s)] false (by simp)
        (by cases d <;> simp [parked, reportOrder]) (List.Sublist.refl _) (.inr rfl)
        (by rintro rfl rfl; exact .startedReplied s)
      exact ⟨hleads.phase, hleads.allowed⟩
    | some c =>
      cases hpost : post .CallConnected with
      | true =>
        have hreply : processHttpReply post states local_tag =
            (states.insert local_tag ⟨.ConnectedHookIsQueued, closed, some c, d⟩,
              [⟨.CallConnected, c, true⟩]) := by
          simp [processHttpReply, hst, hpost]
        rw [hreply, AList.lookup_insert]
        exact ⟨.connectedQueued s c (some c) d closed, fun _ => rfl, trivial⟩
      | false =>
        have hreply : processHttpReply post states local_tag =
            ((finishReply post states local_tag ⟨.StartedHookIsQueued, closed, none, d⟩
                .StartedHookReplyReceived).1,
              ⟨.CallConnected, c, false⟩ :: (finishReply post states local_tag
                ⟨.StartedHookIsQueued, closed, none, d⟩ .StartedHookReplyReceived).2) := by
          simp [processHttpReply, hst, hpost]
        rw [hreply]
        have hleads := leads_finishReply post states local_tag
          ⟨.StartedHookIsQueued, closed, none, d⟩ .StartedHookReplyReceived
          [(.CallStarted, s), (.CallConnected, c)] [(.CallStarted, s)] true (by simp)
          (by cases d <;> simp [parked, reportOrder]) (by simp)
          (.inl rfl) (by rintro rfl rfl; exact .startedFailed s c)
        exact ⟨hleads.phase, by simp, hleads.allowed⟩
  | connectedQueued s c c' d closed =>
    have hreply : processHttpReply post states local_tag = finishReply post states local_tag
        ⟨.ConnectedHookIsQueued, closed, c', d⟩ .ConnectedHookReplyReceived := by
      simp [processHttpReply, hst]
    rw [hreply]
    have hleads := leads_finishReply post states local_tag
      ⟨.ConnectedHookIsQueued, closed, c', d⟩ .ConnectedHookReplyReceived
      [(.CallStarted, s), (.CallConnected, c)] [(.CallStarted, s), (.CallConnected, c)] false
      (by simp)
      (by cases d <;> simp [parked, reportOrder]) (List.Sublist.refl _) (.inr rfl)
      (by rintro rfl rfl; exact .connectedReplied s c c')
    exact ⟨hleads.phase, hleads.allowed⟩
  | _ => exact absurd hwaiting (Nat.lt_irrefl 0)

theorem leads_cleanup (hst : states.lookup local_tag = st) (hphase : Phase st s) :
    Leads s [.cleanup] ((cleanup states local_tag).lookup local_tag) := by
  cases hphase with
  | unstarted closed =>
    have hclean : cleanup states local_tag = states := by simp [cleanup, hst]
    rw [hclean, hst]
    exact ⟨.unstarted true, trivial⟩
  | ended called posted failed closed hstarted hcalled hposted hend =>
    have hclean : cleanup states local_tag = states := by simp [cleanup, hst]
    rw [hclean, hst]
    exact ⟨.ended called posted failed true hstarted hcalled hposted
      (hend.imp_right fun h => ⟨h.1, .inl rfl⟩), trivial⟩
  | startedQueued s c d closed =>
    have hclean : cleanup states local_tag =
        states.insert local_tag ⟨.StartedHookIsQueued, true, c, d⟩ := by simp [cleanup, hst]
    rw [hclean, AList.lookup_insert]
    exact ⟨.startedQueued s c d true, trivial⟩
  | connectedQueued s c c' d closed =>
    have hclean : cleanup states local_tag =
        states.insert local_tag ⟨.ConnectedHookIsQueued, true, c', d⟩ := by simp [cleanup, hst]
    rw [hclean, AList.lookup_insert]
    exact ⟨.connectedQueued s c c' d true, trivial⟩
  | startedReplied s | startedFailed s c | connectedReplied s c c' | connectedFailed s c =>
    -- no hook will come any more
    have hclean : cleanup states local_tag = states.erase local_tag := by simp [cleanup, hst]
    rw [hclean, AList.lookup_erase]
    refine ⟨.ended _ _ _ true (by simp) (by simp [reportOrder]) (by simp) ?_, trivial⟩
    simp

end Steps

/-! ### Other calls -/

theorem lookup_processHook_ne {states : States Data} {local_tag tag : String}
    (hne : tag ≠ local_tag) (post : CallStageType → Bool) (type : CallStageType) (data : Data) :
    (processHook post states type local_tag data).1.lookup tag = states.lookup tag := by
  unfold processHook
  cases type with
  | CallStarted =>
    dsimp only
    split_ifs
    · rfl
    · exact AList.lookup_insert_ne hne
    · rfl
  | CallConnected =>
    dsimp only
    split
    · rfl
    · split
      · exact AList.lookup_insert_ne hne
      · split_ifs
        · exact AList.lookup_insert_ne hne
        · exact AList.lookup_insert_ne hne
      · rfl
      · rfl
  | CallDisconnected =>
    dsimp only
    split
    · rfl
    · split
      · exact AList.lookup_insert_ne hne
      · exact AList.lookup_insert_ne hne
      · exact AList.lookup_erase_ne hne
      · exact AList.lookup_erase_ne hne

theorem lookup_finishReply_ne {states : States Data} {token tag : String}
    (hne : tag ≠ token) (post : CallStageType → Bool) (it : SequencerState Data)
    (next : SequencerStage) :
    (finishReply post states token it next).1.lookup tag = states.lookup tag := by
  unfold finishReply
  split
  · exact AList.lookup_erase_ne hne
  · split
    · exact AList.lookup_erase_ne hne
    · exact AList.lookup_insert_ne hne

theorem lookup_processHttpReply_ne {states : States Data} {token tag : String}
    (hne : tag ≠ token) (post : CallStageType → Bool) :
    (processHttpReply post states token).1.lookup tag = states.lookup tag := by
  unfold processHttpReply
  split
  · rfl
  · split
    · split
      · split
        · exact AList.lookup_insert_ne hne
        · exact lookup_finishReply_ne hne post _ _
      · exact lookup_finishReply_ne hne post _ _
    · exact lookup_finishReply_ne hne post _ _
    · rfl
    · rfl

theorem lookup_cleanup_ne {states : States Data} {local_tag tag : String}
    (hne : tag ≠ local_tag) : (cleanup states local_tag).lookup tag = states.lookup tag := by
  unfold cleanup
  split
  · rfl
  · split
    · exact AList.lookup_insert_ne hne
    · exact AList.lookup_insert_ne hne
    · exact AList.lookup_erase_ne hne
    · exact AList.lookup_erase_ne hne

/-! ### Runs -/

/-- The invariant for all calls. -/
def WorldInv (w : World Data) : Prop := ∀ tag, Inv (w.states.lookup tag) (w.history tag)

/-- A step of one call leaves the others. -/
theorem WorldInv.record {w : World Data} (h : WorldInv w) {local_tag : String}
    {states : States Data} {events : List (Event Data)}
    (hown : Leads (summary (w.history local_tag)) events (states.lookup local_tag))
    (hothers : ∀ tag, tag ≠ local_tag → states.lookup tag = w.states.lookup tag) :
    WorldInv (w.record local_tag states events) := by
  intro tag
  unfold World.record
  by_cases htag : tag = local_tag
  · rw [← htag] at hown
    simp only [if_pos htag]
    exact (h tag).extend hown
  · simp only [if_neg htag]
    rw [hothers tag htag]
    exact h tag

theorem worldInv_next {w w' : World Data} {l : Label Data} (h : WorldInv w)
    (hnext : next w l = some w') : WorldInv w' := by
  unfold next at hnext
  cases l with
  | hook type local_tag data post =>
    simp only [Option.ite_none_right_eq_some, Option.some.injEq] at hnext
    obtain ⟨hcall, rfl⟩ := hnext
    refine h.record ?_ fun tag hne => lookup_processHook_ne hne post type data
    have hphase := (h local_tag).phase
    cases type with
    | CallStarted => exact leads_started post data rfl hphase hcall
    | CallConnected => exact leads_connected post data rfl hphase hcall
    | CallDisconnected => exact leads_disconnected post data rfl hphase hcall
  | reply local_tag post =>
    simp only [Option.ite_none_right_eq_some, Option.some.injEq] at hnext
    obtain ⟨hwaiting, rfl⟩ := hnext
    refine h.record ?_ fun tag hne => lookup_processHttpReply_ne hne post
    exact leads_reply post rfl (h local_tag).phase hwaiting
  | cleanup local_tag =>
    simp only [Option.ite_none_left_eq_some, Option.some.injEq] at hnext
    obtain ⟨-, rfl⟩ := hnext
    refine h.record ?_ fun tag hne => lookup_cleanup_ne hne
    exact leads_cleanup rfl (h local_tag).phase

/-- In every run, for every call: the requests are posted in order and once each, the
    next one after the reply to the one before; without failures all hooks have been
    posted when all replies have come; and after `cleanup` no state stays behind. -/
theorem sequenced_of_reachable {w : World Data} (h : (system Data).Reachable w) (tag : String) :
    Sequenced (w.states.lookup tag) (w.history tag) := by
  have hinv : WorldInv w := by
    refine System.invariant_under WorldInv ?_ ?_ h
    · rintro w rfl tag
      exact ⟨.unstarted false, serial_nil⟩
    · intro w l w' hw _ hnext
      exact worldInv_next hw hnext
  obtain ⟨hphase, hserial⟩ := hinv tag
  exact ⟨hphase.ordered, hserial, hphase.complete, hphase.clean⟩

/-- A call that ends, and is cleaned up, before the first reply comes. -/
theorem sequenced_of_reachable_short_call :
    ∃ w, (system Nat).Reachable w ∧ (summary (w.history "a")).posted =
        [(.CallStarted, 1), (.CallConnected, 2), (.CallDisconnected, 3)] ∧
      Sequenced (w.states.lookup "a") (w.history "a") := by
  obtain ⟨w, hw, hposted⟩ := System.exists_reachableUnder_of_any (system Nat) (fun _ _ => True)
    (fun w => decide ((summary (w.history "a")).posted =
      [(.CallStarted, 1), (.CallConnected, 2), (.CallDisconnected, 3)])) {}
    [.hook .CallStarted "a" 1 fun _ => true, .hook .CallConnected "a" 2 fun _ => true,
      .hook .CallDisconnected "a" 3 fun _ => true, .cleanup "a", .reply "a" fun _ => true,
      .reply "a" fun _ => true] rfl (by decide)
  exact ⟨w, hw, of_decide_eq_true hposted, sequenced_of_reachable hw "a"⟩

end Yeti.Http
