import SpeedTest.Listener.AcceptLoop

/-! What an accept loop does over any list of events: clients, failures, pauses that run out, and a
shutdown signal that is set to whatever value, as often as one likes, and released. The events are
not assumed to make sense: a client may be offered at any time, and a pause may run out that nobody
has asked for. -/

namespace SpeedTest

namespace AcceptLoop

/-- The shutdown signal as those know it who set it: where it stands, and whether anybody is left to
set it. -/
structure Signal where
  requested : Bool
  held : Bool
deriving Repr, DecidableEq

/-- The signal changes by events. What the loop does has no part in it. -/
def Signal.after (g : Signal) : Event → Signal
  | .set stop => if g.held then { g with requested := stop } else g
  | .release => { g with held := false }
  | .turn _ | .expire => g

/-- No request to stop, and somebody who may still make one. -/
def Signal.Permits (g : Signal) : Prop := g.requested = false ∧ g.held = true

instance (g : Signal) : Decidable g.Permits := inferInstanceAs (Decidable (_ ∧ _))

theorem Signal.not_permits_iff {g : Signal} :
    ¬ g.Permits ↔ g.requested = true ∨ g.held = false := by
  cases hRequested : g.requested <;> cases hHeld : g.held <;> simp [Permits, hRequested, hHeld]

end AcceptLoop

/-- The signal behind what one party knows of it. -/
def Shutdown.signal (s : Shutdown) : AcceptLoop.Signal := ⟨s.requested, s.held⟩

@[simp] theorem Shutdown.signal_seen (s : Shutdown) : s.seen.signal = s.signal := rfl

@[simp] theorem Shutdown.signal_set (s : Shutdown) (stop : Bool) :
    (s.set stop).signal = s.signal.after (.set stop) := by
  cases hHeld : s.held <;> simp [set, signal, AcceptLoop.Signal.after, hHeld]

/-- Nothing to notice: nobody has set the signal since the last look at it, and somebody may. -/
theorem Shutdown.notice?_eq_none_iff {s : Shutdown} :
    s.notice? = none ↔ s.unseen = false ∧ s.held = true := by
  cases hUnseen : s.unseen <;> cases hHeld : s.held <;> simp [notice?, hUnseen, hHeld]

theorem Shutdown.held_of_notice? {s : Shutdown} (h : s.notice? = some .released) :
    s.held = false := by
  cases hUnseen : s.unseen <;> cases hHeld : s.held <;> simp [notice?, hUnseen, hHeld] at h ⊢

namespace AcceptLoop

/-- One event of a run: the signal at the loop's turn before it and at the event itself, and what
the loop does. -/
structure Moment where
  earlier : Signal
  signal : Signal
  event : Event
  deeds : List Deed

/-- The signal at the last turn of a loop, behind an event at which it stands at `g`. Before the
event it was `earlier`. -/
def Event.lastTurn (earlier g : Signal) : Event → Signal
  | .turn _ => g
  | .set _ | .release | .expire => earlier

/-- A run, moment by moment. The loop had its last turn when the signal stood at `earlier`, and the
signal has come to stand at `g`. -/
def moments (l : AcceptLoop) (earlier g : Signal) : List Event → List Moment
  | [] => []
  | e :: rest =>
    ⟨earlier, g, e, (l.react e).1⟩ ::
      moments (l.react e).2 (e.lastTurn earlier g) (g.after e) rest

/-- Those who are accepted, in order. -/
def accepted (deeds : List Deed) : List SocketAddress :=
  deeds.filterMap fun
    | .accept peer => some peer
    | _ => none

/-- Those who are dispatched, in order. -/
def dispatched (deeds : List Deed) : List SocketAddress :=
  deeds.filterMap fun
    | .dispatch peer => some peer
    | _ => none

/-- All that can become of a loop at an event. It comes to try the socket only at a turn at which it
waits and there is nothing to notice, and someone is accepted only at the turn behind that one. A
loop ends only where the signal stands at a request to stop or has been released. -/
inductive Move (l : AcceptLoop) : Event → List Deed → AcceptLoop → Prop
  | quiet {e : Event} {l' : AcceptLoop} (hAddress : l'.address = l.address)
      (hPhase : l'.phase = .ended ↔ l.phase = .ended)
      (hTrying : l'.phase = .trying → l.phase = .trying ∧ ∀ offer, e ≠ .turn offer) : Move l e [] l'
  | attempt {offer : Offer} {l' : AcceptLoop} (hAddress : l'.address = l.address)
      (hPhase : l'.phase = .trying) (hWaiting : l.phase = .waiting)
      (hNotice : l.shutdown.notice? = none) : Move l (.turn offer) [] l'
  | welcome {peer : SocketAddress} {l' : AcceptLoop} (hAddress : l'.address = l.address)
      (hPhase : l'.phase = .looking) (hTrying : l.phase = .trying) :
      Move l (.turn (.client peer))
        [.accept peer, .note (acceptedEntry peer l.address), .dispatch peer] l'
  | rest {e : Event} {entry : Log.Entry} {delay : Nat} {l' : AcceptLoop}
      (hAddress : l'.address = l.address) (hPhase : l'.phase = .pausing)
      (hRunning : l.phase ≠ .ended) : Move l e [.note entry, .pause delay] l'
  | leave {e : Event} {l' : AcceptLoop} (hAddress : l'.address = l.address)
      (hPhase : l'.phase = .ended) (hRunning : l.phase ≠ .ended)
      (hSignal : l.shutdown.requested = true ∨ l.shutdown.held = false) :
      Move l e [.close, .note (closedEntry l.address)] l'

variable {l : AcceptLoop}

theorem move_look (hPhase : l.phase = .looking) (offer : Offer) :
    l.Move (.turn offer) l.look.1 l.look.2 := by
  have hRunning : l.phase ≠ .ended := by simp [hPhase]
  cases hRequested : l.shutdown.requested with
  | true =>
      simp only [look, hRequested, if_true]
      exact .leave rfl rfl hRunning (.inl hRequested)
  | false =>
      simp only [look, hRequested, Bool.false_eq_true, if_false]
      exact .quiet rfl (by simp [hPhase]) nofun

theorem move_take (hPhase : l.phase = .trying) (offer : Offer) :
    l.Move (.turn offer) (take offer l).1 (take offer l).2 := by
  cases offer with
  | nobody => exact .quiet rfl (by simp [take, hPhase]) nofun
  | client peer => exact .welcome rfl rfl hPhase
  | failure cause => exact .quiet rfl (by simp [take, hPhase]) nofun

theorem move_heed {otherwise : AcceptLoop → List Deed × AcceptLoop} {e : Event}
    (hRunning : l.phase ≠ .ended)
    (h : l.shutdown.notice? = none → l.Move e (otherwise l).1 (otherwise l).2) :
    l.Move e (l.heed otherwise).1 (l.heed otherwise).2 := by
  cases hNotice : l.shutdown.notice? with
  | none =>
      simp only [heed, hNotice]
      exact h hNotice
  | some notice =>
      cases notice with
      | set =>
          simp only [heed, hNotice]
          exact .quiet rfl (by simp [hRunning]) nofun
      | released =>
          simp only [heed, hNotice]
          exact .leave rfl rfl hRunning (.inr (Shutdown.held_of_notice? hNotice))

theorem move_retry {cause : IoError} (hPhase : l.phase = .failing cause) (offer : Offer) :
    l.Move (.turn offer) (l.retry cause).1 (l.retry cause).2 := by
  have hRunning : l.phase ≠ .ended := by simp [hPhase]
  cases hRequested : l.shutdown.requested with
  | true =>
      simp only [retry, hRequested, if_true]
      exact .leave rfl rfl hRunning (.inl hRequested)
  | false =>
      simp only [retry, hRequested, Bool.false_eq_true, if_false]
      exact .rest rfl rfl hRunning

theorem move_turn (l : AcceptLoop) (offer : Offer) :
    l.Move (.turn offer) (l.turn offer).1 (l.turn offer).2 := by
  cases hPhase : l.phase with
  | looking =>
      simp only [turn, hPhase]
      exact move_look hPhase offer
  | waiting =>
      simp only [turn, hPhase]
      exact move_heed (by simp [hPhase]) fun hNotice => .attempt rfl rfl hPhase hNotice
  | trying =>
      simp only [turn, hPhase]
      exact move_take hPhase offer
  | failing cause =>
      simp only [turn, hPhase]
      exact move_retry hPhase offer
  | pausing =>
      simp only [turn, hPhase]
      exact move_heed (by simp [hPhase]) fun _ => .quiet rfl Iff.rfl (by simp [hPhase])
  | ended =>
      simp only [turn, hPhase]
      exact .quiet rfl Iff.rfl (by simp [hPhase])

theorem move_react (l : AcceptLoop) (e : Event) : l.Move e (l.react e).1 (l.react e).2 := by
  cases e with
  | set stop => exact .quiet rfl Iff.rfl fun hTrying => ⟨hTrying, nofun⟩
  | release => exact .quiet rfl Iff.rfl fun hTrying => ⟨hTrying, nofun⟩
  | turn offer => exact move_turn l offer
  | expire =>
      by_cases hPausing : l.phase = .pausing
      · exact .quiet (by simp [react, hPausing]) (by simp [react, hPausing])
          (by simp [react, hPausing])
      · simp only [react, if_neg hPausing]
        exact .quiet rfl Iff.rfl fun hTrying => ⟨hTrying, nofun⟩

/-- The loop knows the signal as it stands. -/
theorem signal_react (l : AcceptLoop) (e : Event) :
    (l.react e).2.shutdown.signal = l.shutdown.signal.after e := by
  cases e with
  | set stop => exact l.shutdown.signal_set stop
  | release => rfl
  | expire => simp only [react]; split <;> rfl
  | turn offer =>
      simp only [react, turn]
      split
      · simp only [look]; split <;> rfl
      · simp only [heed]; split <;> rfl
      · cases offer <;> rfl
      · simp only [retry]; split <;> rfl
      · simp only [heed]; split <;> rfl
      · rfl

/-- The phases in which a loop waits for the signal or for a client. -/
def Phase.IsIdle (p : Phase) : Prop := p = .waiting ∨ p = .trying

/-- A loop that waits, and has seen how the signal stands, has not seen a request to stop. -/
def IsAttentive (l : AcceptLoop) : Prop :=
  l.phase.IsIdle → l.shutdown.unseen = false → l.shutdown.requested = false

theorem isAttentive_of_busy (h : ¬ l.phase.IsIdle) : l.IsAttentive := fun hIdle => absurd hIdle h

theorem isAttentive_look (l : AcceptLoop) : l.look.2.IsAttentive := by
  cases hRequested : l.shutdown.requested with
  | true =>
      simp only [look, hRequested, if_true]
      exact isAttentive_of_busy (by simp [finish, Phase.IsIdle])
  | false =>
      simp only [look, hRequested, Bool.false_eq_true, if_false]
      exact fun _ _ => hRequested

theorem isAttentive_heed {otherwise : AcceptLoop → List Deed × AcceptLoop}
    (h : (otherwise l).2.IsAttentive) : (l.heed otherwise).2.IsAttentive := by
  simp only [heed]
  split
  · exact isAttentive_of_busy (by simp [Phase.IsIdle])
  · exact isAttentive_of_busy (by simp [finish, Phase.IsIdle])
  · exact h

theorem isAttentive_turn (h : l.IsAttentive) (offer : Offer) : (l.turn offer).2.IsAttentive := by
  cases hPhase : l.phase with
  | looking =>
      simp only [turn, hPhase]
      exact isAttentive_look l
  | waiting =>
      simp only [turn, hPhase]
      exact isAttentive_heed fun _ => h (.inl hPhase)
  | trying =>
      simp only [turn, hPhase]
      cases offer with
      | nobody => exact fun _ => h (.inr hPhase)
      | client peer | failure cause => exact isAttentive_of_busy (by simp [take, Phase.IsIdle])
  | failing cause =>
      simp only [turn, hPhase, retry]
      split <;> exact isAttentive_of_busy (by simp [finish, Phase.IsIdle])
  | pausing =>
      simp only [turn, hPhase]
      exact isAttentive_heed h
  | ended =>
      simp only [turn, hPhase]
      exact h

theorem isAttentive_react (h : l.IsAttentive) (e : Event) : (l.react e).2.IsAttentive := by
  cases e with
  | release => exact h
  | set stop =>
      -- A value that has just been set is unseen.
      cases hHeld : l.shutdown.held with
      | true => simp [react, Shutdown.set, hHeld, IsAttentive]
      | false => simpa [react, Shutdown.set, hHeld] using h
  | expire =>
      simp only [react]
      split
      · exact isAttentive_of_busy (by simp [Phase.IsIdle])
      · exact h
  | turn offer => exact isAttentive_turn h offer

theorem Move.address_eq {e : Event} {deeds : List Deed} {l' : AcceptLoop}
    (h : l.Move e deeds l') : l'.address = l.address := by
  cases h <;> assumption

/-- A loop in a run on a socket: it knows the signal as it stands, and comes to try the socket only
where the signal has permitted it at the turn before. -/
structure Follows (l : AcceptLoop) (address : SocketAddress) (earlier g : Signal) : Prop where
  address : l.address = address
  signal : l.shutdown.signal = g
  attentive : l.IsAttentive
  permitted : l.phase = .trying → earlier.Permits

section Follows

variable {address : SocketAddress} {earlier g : Signal}

theorem Follows.start (address : SocketAddress) (s : Shutdown) :
    (start address s).Follows address s.signal s.signal :=
  ⟨rfl, rfl, isAttentive_of_busy (by simp [AcceptLoop.start, Phase.IsIdle]), nofun⟩

/-- Where a loop waits and has nothing to notice, the signal permits it to go on. -/
theorem Follows.permits (h : l.Follows address earlier g) (hWaiting : l.phase = .waiting)
    (hNotice : l.shutdown.notice? = none) : g.Permits := by
  obtain ⟨hUnseen, hHeld⟩ := Shutdown.notice?_eq_none_iff.mp hNotice
  rw [← h.signal]
  exact ⟨h.attentive (.inl hWaiting) hUnseen, hHeld⟩

theorem Follows.react (h : l.Follows address earlier g) (e : Event) :
    (l.react e).2.Follows address (e.lastTurn earlier g) (g.after e) where
  address := (move_react l e).address_eq.trans h.address
  signal := by rw [signal_react, h.signal]
  attentive := isAttentive_react h.attentive e
  permitted := by
    intro hTrying
    have hMove := move_react l e
    generalize l.react e = x at hMove hTrying
    obtain ⟨deeds, l'⟩ := x
    dsimp only at hMove hTrying
    cases hMove with
    | quiet _ _ hStays =>
        obtain ⟨hBefore, hNoTurn⟩ := hStays hTrying
        cases e with
        | turn offer => exact absurd rfl (hNoTurn offer)
        | set | release | expire => exact h.permitted hBefore
    | attempt _ _ hWaiting hNotice => exact h.permits hWaiting hNotice
    | welcome _ hPhase _ | rest _ hPhase _ | leave _ hPhase _ _ => simp [hPhase] at hTrying

/-- What holds of whatever a loop may do at an event, as long as it knows the signal, holds at every
moment of a run. -/
theorem forall_moments {P : Moment → Prop}
    (hMove : ∀ {l : AcceptLoop} {earlier g : Signal} {e : Event} {deeds : List Deed}
      {l' : AcceptLoop}, l.Follows address earlier g → l.Move e deeds l' →
        P ⟨earlier, g, e, deeds⟩)
    (h : l.Follows address earlier g) (events : List Event) :
    ∀ m ∈ moments l earlier g events, P m := by
  induction events generalizing l earlier g with
  | nil => simp [moments]
  | cons e rest ih =>
      intro m hm
      rcases List.mem_cons.mp hm with rfl | hLater
      · exact hMove h (move_react l e)
      · exact ih (h.react e) m hLater

/-- The moments from some time on are those of a run that begins then. -/
theorem Follows.rest_of_moments (h : l.Follows address earlier g) {events : List Event}
    {before after : List Moment} (hSplit : moments l earlier g events = before ++ after) :
    ∃ l' earlier' g' events', l'.Follows address earlier' g' ∧
      after = moments l' earlier' g' events' := by
  induction before generalizing l earlier g events with
  | nil => exact ⟨l, earlier, g, events, h, hSplit.symm⟩
  | cons m before ih =>
      cases events with
      | nil => cases hSplit
      | cons e rest => exact ih (h.react e) (List.cons.inj hSplit).2

end Follows

/-- The deeds of a run are those of its moments. -/
theorem run_eq_moments (l : AcceptLoop) (earlier g : Signal) (events : List Event) :
    (l.run events).1 = (moments l earlier g events).flatMap Moment.deeds := by
  induction events generalizing l earlier g with
  | nil => rfl
  | cons e rest ih => simp [run, moments, ← ih (l.react e).2 (e.lastTurn earlier g) (g.after e)]

theorem accepted_append (first second : List Deed) :
    accepted (first ++ second) = accepted first ++ accepted second := by
  simp [accepted]

theorem dispatched_append (first second : List Deed) :
    dispatched (first ++ second) = dispatched first ++ dispatched second := by
  simp [dispatched]

theorem Move.dispatched_eq {e : Event} {deeds : List Deed} {l' : AcceptLoop}
    (h : l.Move e deeds l') : dispatched deeds = accepted deeds := by
  cases h <;> simp [dispatched, accepted]

theorem dispatched_run (l : AcceptLoop) (events : List Event) :
    dispatched (l.run events).1 = accepted (l.run events).1 := by
  induction events generalizing l with
  | nil => rfl
  | cons e rest ih =>
      simp only [run, dispatched_append, accepted_append]
      rw [(move_react l e).dispatched_eq, ih]

/-- How many clients a loop may accept before it notices that the signal does not permit it. -/
def stragglers (l : AcceptLoop) : Nat := if l.phase = .trying then 1 else 0

theorem Move.accepted_le {address : SocketAddress} {earlier g : Signal} {e : Event}
    {deeds : List Deed} {l' : AcceptLoop} (h : l.Move e deeds l')
    (hFollows : l.Follows address earlier g) (hForbids : ¬ g.Permits) :
    (accepted deeds).length + l'.stragglers ≤ l.stragglers := by
  cases h with
  | quiet _ _ hTrying =>
      simp only [accepted, List.filterMap_nil, List.length_nil, Nat.zero_add, stragglers]
      split
      · rename_i hPhase
        exact Nat.le_of_eq (if_pos (hTrying hPhase).1).symm
      · exact Nat.zero_le _
  | attempt _ _ hWaiting hNotice => exact absurd (hFollows.permits hWaiting hNotice) hForbids
  | welcome _ hPhase hTrying => simp [accepted, stragglers, hPhase, hTrying]
  | rest _ hPhase _ | leave _ hPhase _ _ => simp [accepted, stragglers, hPhase]

/-- While the signal does not permit it, a loop accepts nobody, but for the client whom it has come
to try the socket for. -/
theorem Follows.accepted_le {address : SocketAddress} {earlier g : Signal}
    (h : l.Follows address earlier g) (events : List Event)
    (hForbids : ∀ m ∈ moments l earlier g events, ¬ m.signal.Permits) :
    (accepted ((moments l earlier g events).flatMap Moment.deeds)).length ≤ l.stragglers := by
  induction events generalizing l earlier g with
  | nil => exact Nat.zero_le _
  | cons e rest ih =>
      simp only [moments, List.forall_mem_cons] at hForbids
      have hFirst := (move_react l e).accepted_le h hForbids.1
      have hRest := ih (h.react e) hForbids.2
      simp only [moments, List.flatMap_cons, accepted_append, List.length_append]
      omega

/-- A loop that is over does nothing any more. -/
theorem run_of_ended (hEnded : l.phase = .ended) (events : List Event) :
    (l.run events).1 = [] ∧ (l.run events).2.phase = .ended := by
  induction events generalizing l with
  | nil => exact ⟨rfl, hEnded⟩
  | cons e rest ih =>
      have hMove := move_react l e
      simp only [run]
      generalize l.react e = x at hMove
      obtain ⟨deeds, l'⟩ := x
      cases hMove with
      | quiet _ hPhase _ => exact ih (hPhase.mpr hEnded)
      | attempt _ _ hWaiting _ => simp [hEnded] at hWaiting
      | welcome _ _ hTrying => simp [hEnded] at hTrying
      | rest _ _ hRunning => exact absurd hEnded hRunning
      | leave _ _ hRunning _ => exact absurd hEnded hRunning

/-- Either a run has come to its end, and the socket was given up then and not before; or it has
not, and neither was the socket given up. -/
theorem close_run (hRunning : l.phase ≠ .ended) (events : List Event) :
    (l.run events).2.phase = .ended ∧
        (∃ before, (l.run events).1 = before ++ [.close, .note (closedEntry l.address)] ∧
          .close ∉ before) ∨
      (l.run events).2.phase ≠ .ended ∧ .close ∉ (l.run events).1 := by
  induction events generalizing l with
  | nil => simp [run, hRunning]
  | cons e rest ih =>
      have hMove := move_react l e
      simp only [run]
      generalize l.react e = x at hMove
      obtain ⟨deeds, l'⟩ := x
      dsimp only at hMove ⊢
      -- What a loop does before it ends comes in front of all the rest.
      have hGoesOn (hPhase : l'.phase ≠ .ended) (hDeeds : .close ∉ deeds) :
          (l'.run rest).2.phase = .ended ∧
              (∃ before, deeds ++ (l'.run rest).1 =
                before ++ [.close, .note (closedEntry l.address)] ∧ .close ∉ before) ∨
            (l'.run rest).2.phase ≠ .ended ∧ .close ∉ deeds ++ (l'.run rest).1 := by
        rcases ih hPhase with ⟨hEnded, before, hEq, hNone⟩ | ⟨hOpen, hNone⟩
        · refine .inl ⟨hEnded, deeds ++ before, ?_, by simp [hDeeds, hNone]⟩
          rw [hEq, hMove.address_eq, List.append_assoc]
        · exact .inr ⟨hOpen, by simp [hDeeds, hNone]⟩
      cases hMove with
      | quiet _ hPhase _ => exact hGoesOn (by simpa [hPhase]) (by simp)
      | attempt _ hPhase _ _ => exact hGoesOn (by simp [hPhase]) (by simp)
      | welcome _ hPhase _ => exact hGoesOn (by simp [hPhase]) (by simp)
      | rest _ hPhase _ => exact hGoesOn (by simp [hPhase]) (by simp)
      | leave _ hPhase _ _ =>
          obtain ⟨hNothing, hEnded⟩ := run_of_ended hPhase rest
          rw [hNothing]
          exact .inl ⟨hEnded, [], by simp, by simp⟩

/-- A loop that has just begun keeps to the following, whatever happens around it. Someone is
accepted only at a turn at which the socket offers them, and only if at the turn before, at which
the loop has tried the signal, that stood at no request to stop and somebody was left to set it; at
that very moment they are dispatched. A request that comes between the two turns, or the end of
those who may make one, does not keep that client out, but the next one: from the time on from which
the signal does not permit it any more, at most one is accepted. All who are accepted are
dispatched, once each and in order, and nobody else is. The loop ends only at a moment at which the
signal stands at a request to stop or nobody is left to set it, so that failures alone never end it.
When it has ended it has given the socket up, once, and has done nothing since but tell the log;
before that it does not give the socket up.

Nothing is assumed of the signal in front of the run: it may stand at a request to stop already, or
be released. -/
theorem run_is_orderly (address : SocketAddress) (s : Shutdown) (events : List Event) :
    let l := start address s
    let deeds := (l.run events).1
    let run := moments l s.signal s.signal events
    deeds = run.flatMap Moment.deeds ∧
      (∀ m ∈ run, ∀ peer, .accept peer ∈ m.deeds ∨ .dispatch peer ∈ m.deeds →
        m.event = .turn (.client peer) ∧ m.earlier.requested = false ∧ m.earlier.held = true ∧
          m.deeds = [.accept peer, .note (acceptedEntry peer address), .dispatch peer]) ∧
      (∀ before after, run = before ++ after →
        (∀ m ∈ after, m.signal.requested = true ∨ m.signal.held = false) →
          (accepted (after.flatMap Moment.deeds)).length ≤ 1) ∧
      dispatched deeds = accepted deeds ∧
      (∀ m ∈ run, .close ∈ m.deeds → m.signal.requested = true ∨ m.signal.held = false) ∧
      ((l.run events).2.phase = .ended →
        ∃ before, deeds = before ++ [.close, .note (closedEntry address)] ∧ .close ∉ before) ∧
      ((l.run events).2.phase ≠ .ended → .close ∉ deeds) := by
  intro l deeds run
  have hStart : l.Follows address s.signal s.signal := .start address s
  have hClose := close_run (l := l) nofun events
  refine ⟨run_eq_moments l _ _ events, ?_, ?_, dispatched_run l events, ?_, ?_, ?_⟩
  · refine forall_moments (fun {l earlier g e deeds l'} hFollows hMove peer hDeed => ?_)
      hStart events
    cases hMove with
    | @welcome peer' _ _ _ hTrying =>
        obtain rfl : peer = peer' := by simpa using hDeed
        obtain ⟨hRequested, hHeld⟩ := hFollows.permitted hTrying
        exact ⟨rfl, hRequested, hHeld, by rw [hFollows.address]⟩
    | quiet _ _ _ | attempt _ _ _ _ | rest _ _ _ | leave _ _ _ _ => simp at hDeed
  · intro before after hSplit hForbids
    obtain ⟨l', earlier', g', events', hFollows, rfl⟩ := hStart.rest_of_moments hSplit
    have hLe := hFollows.accepted_le events' fun m hm => Signal.not_permits_iff.mpr (hForbids m hm)
    have hOne : l'.stragglers ≤ 1 := by
      unfold stragglers
      split <;> omega
    exact Nat.le_trans hLe hOne
  · refine forall_moments (fun {l earlier g e deeds l'} hFollows hMove hLast => ?_) hStart events
    cases hMove with
    | leave _ _ _ hSignal =>
        rw [← hFollows.signal]
        exact hSignal
    | quiet _ _ _ | attempt _ _ _ _ | welcome _ _ _ | rest _ _ _ => simp at hLast
  · intro hEnded
    rcases hClose with ⟨-, hClosed⟩ | ⟨hOpen, -⟩
    · exact hClosed
    · exact absurd hEnded hOpen
  · intro hOpen
    rcases hClose with ⟨hEnded, -⟩ | ⟨-, hNone⟩
    · exact absurd hEnded hOpen
    · exact hNone

/-- A request to stop, or the end of those who may make one, that comes when the loop has just tried
the signal and is about to try the socket: the client who is there is accepted and dispatched. -/
theorem accepts_behind_late_request :
    let peer : SocketAddress := ⟨.v4 [127, 0, 0, 1], 40000⟩
    let s : Shutdown := .watching false
    ∀ late ∈ [Event.set true, .release],
      ∃ m ∈ moments (start ⟨.v4 [0, 0, 0, 0], 3001⟩ s) s.signal s.signal
          [.turn .nobody, .turn .nobody, late, .turn (.client peer)],
        .accept peer ∈ m.deeds ∧ .dispatch peer ∈ m.deeds ∧
          (m.signal.requested = true ∨ m.signal.held = false) := by
  decide

/-- A signal that is set to the value that it has, and a failure, delay a client and keep nobody
out. -/
example :
    let peer : SocketAddress := ⟨.v4 [127, 0, 0, 1], 40000⟩
    let deeds := ((start ⟨.v4 [0, 0, 0, 0], 3001⟩ (.watching false)).run
      [.turn .nobody, .set false, .turn .nobody, .turn .nobody, .turn .nobody,
        .turn (.failure .earlyEnd), .turn .nobody, .expire, .turn .nobody, .turn .nobody,
        .turn (.client peer), .set true, .turn .nobody]).1
    accepted deeds = [peer] ∧ .pause 5 ∈ deeds ∧ .close ∈ deeds := by
  decide

end AcceptLoop

end SpeedTest
