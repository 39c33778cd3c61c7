import SpeedTest.Proofs.WebSocket.Descent

/-! Frames on a WebSocket, event by event. A read passes over pings and pongs and answers for the
first other event, so that a row of reads answers for the events in their order, each once, and no
answer depends on what its neighbours were. -/

namespace SpeedTest

/-- What a source of events says when it is asked for the next one. -/
abbrev Incident : Type := Outcome WebSocket.Error (Option WebSocket.Event)

/-- The answer to a message that is read as a frame. -/
def Outcome.ofDecoded : Except ProtocolError Frame → Outcome ProtocolError Frame
  | .ok f => .done f
  | .error e => .failed e

/-- How a read of a frame answers for an event. Pings and pongs have no answer. -/
def Incident.answer? : Incident → Option (Outcome ProtocolError Frame)
  | .done (some (.binary payload)) => some (.ofDecoded (Frame.decode payload))
  | .done (some (.text _)) => some (.failed .notBinary)
  | .done (some (.ping _)) | .done (some (.pong _)) => none
  | .done (some .close) | .done none => some (.failed .closed)
  | .failed e => some (.failed (.webSocket e))
  | .pending => some .pending

/-- Only something that the peer has sent goes without an answer. -/
theorem Incident.exists_of_answer?_eq_none {incident : Incident} (h : incident.answer? = none) :
    ∃ event, incident = .done (some event) := by
  rcases incident with (_ | event) | e | _
  · cases h
  · exact ⟨event, rfl⟩
  · cases h
  · cases h

namespace Action

variable {σ τ ε α : Type}

/-- The outcomes of an operation that is run over and over, whatever they are, and the state behind
the last of them. -/
def times (x : Action σ ε α) : Nat → σ → List (Outcome ε α) × σ
  | 0, s => ([], s)
  | n + 1, s => ((x s).1 :: (times x n (x s).2).1, (times x n (x s).2).2)

theorem times_succ {x : Action σ ε α} {s s' s'' : σ} {r : Outcome ε α} {n : Nat}
    {rs : List (Outcome ε α)} (h : x s = (r, s')) (hRest : times x n s' = (rs, s'')) :
    times x (n + 1) s = (r :: rs, s'') := by
  simp only [times, h, hRest]

theorem times_add {x : Action σ ε α} {s s' s'' : σ} {m n : Nat} {rs rs' : List (Outcome ε α)}
    (h : times x m s = (rs, s')) (hRest : times x n s' = (rs', s'')) :
    times x (m + n) s = (rs ++ rs', s'') := by
  induction m generalizing s rs with
  | zero =>
      cases h
      rw [Nat.zero_add]
      exact hRest
  | succ m ih =>
      cases h
      rw [Nat.add_right_comm]
      exact times_succ rfl (ih rfl)

/-- Operations that do the same on related states do the same over and over. -/
theorem times_map {x : Action σ ε α} {y : Action τ ε α} (f : σ → τ)
    (h : ∀ s, y (f s) = ((x s).1, f (x s).2)) (n : Nat) (s : σ) :
    times y n (f s) = ((times x n s).1, f (times x n s).2) := by
  induction n generalizing s with
  | zero => rfl
  | succ n ih => simp only [times, h, ih]

end Action

section Source

variable {σ : Type} {left : σ → Nat}
  {next : Action σ WebSocket.Error (Option WebSocket.Event)}

/-- Every event leaves less to come. -/
def Falls (left : σ → Nat) (next : Action σ WebSocket.Error (Option WebSocket.Event)) : Prop :=
  ∀ (s s' : σ) (event : WebSocket.Event), next s = (.done (some event), s') → left s' < left s

/-- A read looks at one event. It answers for it or goes on. -/
theorem frameOfEvents_step (hFalls : Falls left next) (s : σ) :
    frameOfEvents left next s =
      match Incident.answer? (next s).1 with
      | some r => (r, (next s).2)
      | none => frameOfEvents left next (next s).2 := by
  rw [frameOfEvents]
  cases hNext : next s with
  | mk r s' =>
      rcases r with (_ | event) | e | _
      · rfl
      · cases event with
        | binary payload =>
            simp only [Incident.answer?]
            cases Frame.decode payload <;> rfl
        | text payload => rfl
        | close => rfl
        | ping payload => exact if_pos (hFalls s s' _ hNext)
        | pong payload => exact if_pos (hFalls s s' _ hNext)
      · rfl
      · rfl

/-- One read passes over events without an answer and takes the first that has one. -/
theorem frameOfEvents_eq (hFalls : Falls left next) (s : σ) :
    ∃ passed incident r s', next.times (passed.length + 1) s = (passed ++ [incident], s') ∧
      (∀ p ∈ passed, Incident.answer? p = none) ∧ Incident.answer? incident = some r ∧
      frameOfEvents left next s = (r, s') := by
  induction hLeft : left s using Nat.strongRecOn generalizing s with
  | ind bound ih =>
      rw [frameOfEvents_step hFalls]
      cases hAnswer : Incident.answer? (next s).1 with
      | some r => exact ⟨[], (next s).1, r, (next s).2, rfl, by simp, hAnswer, rfl⟩
      | none =>
          obtain ⟨event, hEvent⟩ := Incident.exists_of_answer?_eq_none hAnswer
          have hLess : left (next s).2 < left s := hFalls s _ event (Prod.ext hEvent rfl)
          obtain ⟨passed, incident, r, s', hTimes, hPassed, hLast, hRead⟩ :=
            ih _ (hLeft ▸ hLess) (next s).2 rfl
          refine ⟨(next s).1 :: passed, incident, r, s', Action.times_succ rfl hTimes, ?_, hLast,
            hRead⟩
          intro p hp
          rcases List.mem_cons.mp hp with rfl | hp
          · exact hAnswer
          · exact hPassed p hp

/-- A row of reads answers for a row of events, in order and each once, and takes no event behind
the last one that it answers for. -/
theorem times_frameOfEvents (hFalls : Falls left next) (n : Nat) (s : σ) :
    ∃ m events s', next.times m s = (events, s') ∧
      Action.times (frameOfEvents left next) n s = (events.filterMap Incident.answer?, s') ∧
      ∀ incident, events.getLast? = some incident → Incident.answer? incident ≠ none := by
  induction n generalizing s with
  | zero => exact ⟨0, [], s, rfl, rfl, fun _ h => by cases h⟩
  | succ n ih =>
      obtain ⟨passed, incident, r, s', hTimes, hPassed, hAnswer, hRead⟩ :=
        frameOfEvents_eq hFalls s
      obtain ⟨m, events, s'', hTimes', hReads, hLast⟩ := ih s'
      have hSkip : passed.filterMap Incident.answer? = [] :=
        List.filterMap_eq_nil_iff.mpr hPassed
      refine ⟨passed.length + 1 + m, (passed ++ [incident]) ++ events, s'',
        Action.times_add hTimes hTimes', ?_, ?_⟩
      · rw [Action.times_succ hRead hReads, List.filterMap_append, List.filterMap_append, hSkip,
          List.filterMap_cons_some hAnswer]
        rfl
      · intro last hGet
        rw [List.getLast?_append] at hGet
        cases hEnd : events.getLast? with
        | none =>
            rw [hEnd, Option.none_or, List.getLast?_concat] at hGet
            cases hGet
            rw [hAnswer]
            exact Option.some_ne_none r
        | some e =>
            rw [hEnd] at hGet
            cases hGet
            exact hLast last hEnd

end Source

/-- A source that brings the listed events and then comes to its end. -/
def nextListed : Action (List Incident) WebSocket.Error (Option WebSocket.Event)
  | [] => (.done none, [])
  | incident :: rest => (incident, rest)

theorem falls_nextListed : Falls List.length nextListed := by
  intro s s' event h
  cases s with
  | nil => cases h
  | cons incident rest =>
      cases h
      exact Nat.lt_succ_self _

/-- Whatever is listed, the reads answer for it in its order and then for the end. -/
theorem times_nextListed (n : Nat) (listed : List Incident) :
    (Action.times (frameOfEvents List.length nextListed) n listed).1 =
      (listed.filterMap Incident.answer? ++
        List.replicate n (Outcome.failed ProtocolError.closed)).take n := by
  induction listed generalizing n with
  | nil =>
      induction n with
      | zero => rfl
      | succ n ih =>
          have hStep : frameOfEvents List.length nextListed [] = (.failed .closed, []) :=
            frameOfEvents_step falls_nextListed []
          rw [Action.times, hStep]
          simpa [List.replicate_succ] using ih
  | cons incident rest ih =>
      cases n with
      | zero => rfl
      | succ n =>
          have hStep := frameOfEvents_step falls_nextListed (incident :: rest)
          have hNext : nextListed (incident :: rest) = (incident, rest) := rfl
          rw [hNext] at hStep
          cases hAnswer : Incident.answer? incident with
          | none =>
              rw [hAnswer] at hStep
              rw [List.filterMap_cons_none hAnswer, ← ih, Action.times, hStep]
              rfl
          | some r =>
              rw [hAnswer] at hStep
              rw [List.filterMap_cons_some hAnswer, Action.times, hStep]
              simp only [ih, List.cons_append, List.take_succ_cons, List.take_append,
                List.take_replicate]
              congr 3
              omega

theorem Connection.read_ofLink (l : WebSocket.Link) (peer : Option SocketAddress) :
    read (.ofLink l peer) =
      let (r, l') := frameOfEvents WebSocket.Link.incoming WebSocket.Link.next l
      (r, .ofLink l' peer) := rfl

/-- Reads on an open WebSocket answer for the events that its link brings, in order and each once,
and take none behind the last that they answer for. So they do whatever the events are. -/
theorem Connection.read_answers_each_event (n : Nat) :
    (∀ (l : WebSocket.Link) (peer : Option SocketAddress),
      ∃ m events l', WebSocket.Link.next.times m l = (events, l') ∧
        read.times n (.ofLink l peer) =
          (events.filterMap Incident.answer?, .ofLink l' peer) ∧
        ∀ incident, events.getLast? = some incident → Incident.answer? incident ≠ none) ∧
    ∀ listed : List Incident,
      (Action.times (frameOfEvents List.length nextListed) n listed).1 =
        (listed.filterMap Incident.answer? ++
          List.replicate n (Outcome.failed ProtocolError.closed)).take n := by
  refine ⟨fun l peer => ?_, times_nextListed n⟩
  obtain ⟨m, events, l', hEvents, hReads, hLast⟩ :=
    times_frameOfEvents (fun _ _ _ => WebSocket.Link.incoming_of_next) n l
  refine ⟨m, events, l', hEvents, ?_, hLast⟩
  have hSame := Action.times_map (ofLink · peer) (fun l => read_ofLink l peer) n l
  rw [hSame, hReads]

end SpeedTest
