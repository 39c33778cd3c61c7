import SpeedTest.Splice.Waiting
import SpeedTest.Proofs.Splice.Closing

/-! Splices whose directions may be kept waiting. What holds of the steps of a copy holds of what it
does while it waits as well: it draws on its source, fills its sink and touches nothing else. So the
two directions proceed without regard to each other, and any run of the one goes with any run of the
other. -/

namespace SpeedTest

open Relation (ReflTransGen)

namespace Copy

variable {σ τ : Type} {read : Nat → Action σ IoError Bytes} {read' : Nat → Action τ IoError Bytes}
  {delays : Delays} {c c' : Copy} {source source' : σ} {sink sink' : Stream}

/-- What a copy may do next, be it kept waiting or not. -/
def Advances (delays : Delays) (read : Nat → Action σ IoError Bytes) (c : Copy) (source : σ)
    (sink : Stream) (c' : Copy) (source' : σ) (sink' : Stream) : Prop :=
  Moves read c source sink c' source' sink' ∨ Waits delays read c source sink c' source' sink'

namespace Waits

theorem ne_ended (h : Waits delays read c source sink c' source' sink')
    (result : Except IoError Nat) : c ≠ ended result := by
  rintro rfl
  cases h

theorem draws (h : Waits delays read c source sink c' source' sink') :
    Draws read source source' := by
  cases h with
  | settled | unsettled => exact .inl rfl
  | toppedUp _ _ _ hRead | broken _ _ _ hRead => exact .of_read hRead

theorem fills (h : Waits delays read c source sink c' source' sink') : sink.Fills sink' := by
  cases h with
  | settled _ hFlush | unsettled _ hFlush => exact .of_flush hFlush
  | toppedUp | broken => exact .refl sink

/-- What is done while waiting leaves less to do as well. -/
theorem work_lt (size : σ → Nat)
    (hSize : ∀ {n s s' bs}, read n s = (.done bs, s') → size s' + bs.length = size s)
    (h : Waits delays read c source sink c' source' sink') :
    c'.work (size source') < c.work (size source) := by
  cases h with
  | settled => simp [work]
  | unsettled | broken =>
      simp only [work]
      omega
  | toppedUp _ _ _ hRead hBytes =>
      have hTaken := hSize hRead
      have hPos := List.length_pos_iff.mpr hBytes
      simp only [work, List.length_append]
      omega

end Waits

namespace Advances

theorem ne_ended (h : Advances delays read c source sink c' source' sink')
    (result : Except IoError Nat) : c ≠ ended result :=
  h.elim (Moves.ne_ended · result) (Waits.ne_ended · result)

theorem draws (h : Advances delays read c source sink c' source' sink') :
    Draws read source source' := h.elim Moves.draws Waits.draws

theorem fills (h : Advances delays read c source sink c' source' sink') : sink.Fills sink' :=
  h.elim Moves.fills Waits.fills

theorem work_lt (size : σ → Nat)
    (hSize : ∀ {n s s' bs}, read n s = (.done bs, s') → size s' + bs.length = size s)
    (h : Advances delays read c source sink c' source' sink') :
    c'.work (size source') < c.work (size source) :=
  h.elim (Moves.work_lt size hSize) (Waits.work_lt size hSize)

/-- Without anything to wait for there are the steps alone. -/
theorem moves (h : Advances .none read c source sink c' source' sink') :
    Moves read c source sink c' source' sink' := by
  rcases h with hMoves | hWaits
  · exact hMoves
  · cases hWaits with
    | settled hLate | unsettled hLate => cases hLate
    | toppedUp hFull | broken hFull => cases hFull

end Advances

/-! A copy that proceeds sees the two sides that it touches and nothing else. -/

section Sides

variable (side : σ → τ) (hSide : ∀ n s, read' n (side s) = ((read n s).1, side (read n s).2))
include hSide

theorem Moves.sides (h : Moves read c source sink c' source' sink') :
    Moves read' c (side source) sink.outgoingSide c' (side source') sink'.outgoingSide := by
  apply moves_of_step
  rw [step_sides side hSide, step_of_moves h, Option.map_some]

theorem Moves.of_sides {source' : τ}
    (h : Moves read' c (side source) sink.outgoingSide c' source' sink') :
    ∃ source'' sink'', Moves read c source sink c' source'' sink'' ∧ side source'' = source' ∧
      sink''.outgoingSide = sink' := by
  have hStep := step_of_moves h
  rw [step_sides side hSide] at hStep
  obtain ⟨⟨c'', source'', sink''⟩, hSame, hEq⟩ := Option.map_eq_some_iff.mp hStep
  simp only [Prod.mk.injEq] at hEq
  obtain ⟨rfl, hSource, hSink⟩ := hEq
  exact ⟨source'', sink'', moves_of_step hSame, hSource, hSink⟩

theorem Waits.sides (h : Waits delays read c source sink c' source' sink') :
    Waits delays read' c (side source) sink.outgoingSide c' (side source') sink'.outgoingSide := by
  have hReads {n : Nat} {r : Outcome IoError Bytes} (hRead : read n source = (r, source')) :
      read' n (side source) = (r, side source') := by rw [hSide, hRead]
  have hFlushes {r : Outcome IoError Unit} (hFlush : Stream.flush sink = (r, sink')) :
      Stream.flush sink.outgoingSide = (r, sink'.outgoingSide) := by
    rw [Stream.flush_outgoingSide, hFlush]
  cases h with
  | settled hLate hFlush => exact .settled hLate (hFlushes hFlush)
  | unsettled hLate hFlush => exact .unsettled hLate (hFlushes hFlush)
  | toppedUp hFull hSpace hFits hRead hBytes =>
      exact .toppedUp hFull hSpace hFits (hReads hRead) hBytes
  | broken hFull hSpace hFits hRead => exact .broken hFull hSpace hFits (hReads hRead)

theorem Waits.of_sides {source' : τ}
    (h : Waits delays read' c (side source) sink.outgoingSide c' source' sink') :
    ∃ source'' sink'', Waits delays read c source sink c' source'' sink'' ∧
      side source'' = source' ∧ sink''.outgoingSide = sink' := by
  have hReads {n : Nat} {r : Outcome IoError Bytes}
      (hRead : read' n (side source) = (r, source')) :
      read n source = (r, (read n source).2) ∧ side (read n source).2 = source' := by
    rw [hSide] at hRead
    obtain ⟨hOutcome, hSource⟩ := Prod.mk.inj hRead
    exact ⟨Prod.ext hOutcome rfl, hSource⟩
  have hFlushes {r : Outcome IoError Unit} (hFlush : Stream.flush sink.outgoingSide = (r, sink')) :
      Stream.flush sink = (r, (Stream.flush sink).2) ∧
        (Stream.flush sink).2.outgoingSide = sink' := by
    rw [Stream.flush_outgoingSide] at hFlush
    obtain ⟨hOutcome, hSink⟩ := Prod.mk.inj hFlush
    exact ⟨Prod.ext hOutcome rfl, hSink⟩
  cases h with
  | settled hLate hFlush =>
      obtain ⟨hDone, hSink⟩ := hFlushes hFlush
      exact ⟨source, _, .settled hLate hDone, rfl, hSink⟩
  | unsettled hLate hFlush =>
      obtain ⟨hFailed, hSink⟩ := hFlushes hFlush
      exact ⟨source, _, .unsettled hLate hFailed, rfl, hSink⟩
  | toppedUp hFull hSpace hFits hRead hBytes =>
      obtain ⟨hDone, hSource⟩ := hReads hRead
      exact ⟨_, sink, .toppedUp hFull hSpace hFits hDone hBytes, hSource, rfl⟩
  | broken hFull hSpace hFits hRead =>
      obtain ⟨hFailed, hSource⟩ := hReads hRead
      exact ⟨_, sink, .broken hFull hSpace hFits hFailed, hSource, rfl⟩

theorem Advances.sides (h : Advances delays read c source sink c' source' sink') :
    Advances delays read' c (side source) sink.outgoingSide c' (side source')
      sink'.outgoingSide :=
  h.imp (Moves.sides side hSide) (Waits.sides side hSide)

theorem Advances.of_sides {source' : τ}
    (h : Advances delays read' c (side source) sink.outgoingSide c' source' sink') :
    ∃ source'' sink'', Advances delays read c source sink c' source'' sink'' ∧
      side source'' = source' ∧ sink''.outgoingSide = sink' := by
  rcases h with hMoves | hWaits
  · obtain ⟨source'', sink'', hMoves, hEq⟩ := hMoves.of_sides side hSide
    exact ⟨source'', sink'', .inl hMoves, hEq⟩
  · obtain ⟨source'', sink'', hWaits, hEq⟩ := hWaits.of_sides side hSide
    exact ⟨source'', sink'', .inr hWaits, hEq⟩

end Sides

end Copy

namespace Splice

/-- A direction proceeds, be it kept waiting or not. -/
def Lane.Advances {σ : Type} (delays : Copy.Delays) (read : Nat → Action σ IoError Bytes)
    (l l' : Lane σ) : Prop :=
  Copy.Advances delays read l.copy l.source l.sink l'.copy l'.source l'.sink

namespace State

/-- Any number of turns. -/
abbrev Turns (upDelays downDelays : Copy.Delays) : State → State → Prop :=
  ReflTransGen (Turn upDelays downDelays)

variable {upDelays downDelays : Copy.Delays} {s t : State}

/-- What one turn can be. -/
theorem cases_of_turn (h : Turn upDelays downDelays s t) :
    (∃ up client target, t = { s with up := up, client := client, target := target } ∧
        Copy.Advances upDelays PeekStream.read s.up s.client s.target up client target) ∨
      (∃ down target inner, t = { s with
            down := down
            target := target
            client := { s.client with inner := inner } } ∧
          Copy.Advances downDelays Stream.read s.down s.target s.client.inner down target inner) ∨
        s.stepJoin = some t := by
  cases h with
  | step h =>
      cases h with
      | up h =>
          obtain ⟨up, client, target, rfl, hMoves⟩ := moves_of_stepUp h
          exact .inl ⟨up, client, target, rfl, .inl hMoves⟩
      | down h =>
          obtain ⟨down, target, inner, rfl, hMoves⟩ := moves_of_stepDown h
          exact .inr (.inl ⟨down, target, inner, rfl, .inl hMoves⟩)
      | join h => exact .inr (.inr h)
  | waitUp h => exact .inl ⟨_, _, _, rfl, .inr h⟩
  | waitDown h => exact .inr (.inl ⟨_, _, _, rfl, .inr h⟩)

theorem Turn.up {up : Copy} {client : PeekStream} {target : Stream}
    (h : Copy.Advances upDelays PeekStream.read s.up s.client s.target up client target) :
    Turn upDelays downDelays s { s with up := up, client := client, target := target } := by
  rcases h with hMoves | hWaits
  · refine .step (.up ?_)
    rw [stepUp, Copy.step_of_moves hMoves]
    rfl
  · exact .waitUp hWaits

theorem Turn.down {down : Copy} {target inner : Stream}
    (h : Copy.Advances downDelays Stream.read s.down s.target s.client.inner down target inner) :
    Turn upDelays downDelays s
      { s with down := down, target := target, client := { s.client with inner := inner } } := by
  rcases h with hMoves | hWaits
  · refine .step (.down ?_)
    rw [stepDown, Copy.step_of_moves hMoves]
    rfl
  · exact .waitDown hWaits

theorem turns_of_steps (h : ReflTransGen Step s t) :
    Turns upDelays downDelays s t := ReflTransGen.mono (fun _ _ => Turn.step) _ _ h

theorem work_lt_of_turn (h : Turn upDelays downDelays s t) : t.work < s.work := by
  rcases cases_of_turn h with ⟨up, client, target, rfl, hUp⟩ | ⟨down, target, inner, rfl, hDown⟩ |
    hJoin
  · exact work_lt_of_up (hUp.work_lt PeekStream.pending PeekStream.pending_of_read) hUp.fills
  · exact work_lt_of_down (hDown.work_lt Stream.incoming Stream.incoming_of_read) hDown.fills
  · exact work_lt_of_stepJoin hJoin

/-- Turns are not taken for ever. -/
theorem exists_last_turn (run : Nat → State) :
    ∃ n, ¬ Turn upDelays downDelays (run n) (run (n + 1)) := by
  refine Classical.byContradiction fun hNone => ?_
  have hLess (n : Nat) : (run n).work + n ≤ (run 0).work := by
    induction n with
    | zero => exact Nat.le_refl _
    | succ n ih =>
        have hTurn := work_lt_of_turn (Classical.not_not.mp (not_exists.mp hNone n))
        omega
  have hTooFar := hLess ((run 0).work + 1)
  omega

/-- Where nothing has to be waited for, the turns are the steps. -/
theorem turn_none_iff : Turn .none .none s t ↔ Step s t := by
  refine ⟨fun h => ?_, .step⟩
  rcases cases_of_turn h with ⟨up, client, target, rfl, hUp⟩ | ⟨down, target, inner, rfl, hDown⟩ |
    hJoin
  · refine .up ?_
    rw [stepUp, Copy.step_of_moves hUp.moves]
    rfl
  · refine .down ?_
    rw [stepDown, Copy.step_of_moves hDown.moves]
    rfl
  · exact .join hJoin

/-- A turn of one direction leaves the other where it is, and one of neither leaves both. -/
theorem lanes_of_turn (h : Turn upDelays downDelays s t) :
    (Lane.Advances upDelays PeekStream.read s.upLane t.upLane ∧ t.downLane = s.downLane) ∨
      (Lane.Advances downDelays Stream.read s.downLane t.downLane ∧ t.upLane = s.upLane) ∨
        (t.upLane = s.upLane ∧ t.downLane = s.downLane) := by
  rcases cases_of_turn h with ⟨up, client, target, rfl, hUp⟩ | ⟨down, target, inner, rfl, hDown⟩ |
    hJoin
  · exact .inl ⟨hUp.sides PeekStream.incomingSide PeekStream.read_incomingSide,
      downLane_of_up up hUp.draws hUp.fills⟩
  · exact .inr (.inl ⟨hDown.sides Stream.incomingSide Stream.read_incomingSide,
      upLane_of_down down hDown.draws hDown.fills⟩)
  · exact .inr (.inr (lanes_of_stepJoin hJoin))

/-- An interleaving is a run of each direction by itself. -/
theorem lanes_of_turns (h : Turns upDelays downDelays s t) :
    ReflTransGen (Lane.Advances upDelays PeekStream.read) s.upLane t.upLane ∧
      ReflTransGen (Lane.Advances downDelays Stream.read) s.downLane t.downLane := by
  induction h with
  | refl => exact ⟨.refl, .refl⟩
  | tail _ hTurn ih =>
      obtain ⟨hUp, hDown⟩ := ih
      rcases lanes_of_turn hTurn with ⟨hNext, hSame⟩ | ⟨hNext, hSame⟩ | ⟨hSameUp, hSameDown⟩
      · rw [hSame]
        exact ⟨hUp.tail hNext, hDown⟩
      · rw [hSame]
        exact ⟨hUp, hDown.tail hNext⟩
      · rw [hSameUp, hSameDown]
        exact ⟨hUp, hDown⟩

/-- A direction may take its turns wherever the other one stands. -/
theorem turns_of_upLane {l : Lane PeekStream}
    (h : ReflTransGen (Lane.Advances upDelays PeekStream.read) s.upLane l) :
    ∃ t, Turns upDelays downDelays s t ∧ t.upLane = l ∧
      t.downLane = s.downLane := by
  induction h with
  | refl => exact ⟨s, .refl, rfl, rfl⟩
  | @tail _ l _ hNext ih =>
      obtain ⟨t, hTurns, rfl, hDown⟩ := ih
      obtain ⟨client, target, hAdvances, hClient, hTarget⟩ :=
        Copy.Advances.of_sides PeekStream.incomingSide PeekStream.read_incomingSide hNext
      refine ⟨_, hTurns.tail (.up hAdvances), ?_,
        (downLane_of_up l.copy hAdvances.draws hAdvances.fills).trans hDown⟩
      simp only [upLane, hClient, hTarget]

theorem turns_of_downLane {l : Lane Stream}
    (h : ReflTransGen (Lane.Advances downDelays Stream.read) s.downLane l) :
    ∃ t, Turns upDelays downDelays s t ∧ t.downLane = l ∧ t.upLane = s.upLane := by
  induction h with
  | refl => exact ⟨s, .refl, rfl, rfl⟩
  | @tail _ l _ hNext ih =>
      obtain ⟨t, hTurns, rfl, hUp⟩ := ih
      obtain ⟨target, inner, hAdvances, hTarget, hInner⟩ :=
        Copy.Advances.of_sides Stream.incomingSide Stream.read_incomingSide hNext
      refine ⟨_, hTurns.tail (.down hAdvances), ?_,
        (upLane_of_down l.copy hAdvances.draws hAdvances.fills).trans hUp⟩
      simp only [downLane, hTarget, hInner]

/-- Any run of the one direction goes with any run of the other, and with nothing else. -/
theorem exists_turns_iff {up : Lane PeekStream} {down : Lane Stream} :
    (∃ t, Turns upDelays downDelays s t ∧ t.upLane = up ∧ t.downLane = down) ↔
      ReflTransGen (Lane.Advances upDelays PeekStream.read) s.upLane up ∧
        ReflTransGen (Lane.Advances downDelays Stream.read) s.downLane down := by
  constructor
  · rintro ⟨t, hTurns, rfl, rfl⟩
    exact lanes_of_turns hTurns
  · -- One direction runs to its end before the other begins, which has not moved meanwhile.
    rintro ⟨hUp, hDown⟩
    obtain ⟨r, hFirst, hUpEq, hSame⟩ := turns_of_upLane hUp
    rw [← hSame] at hDown
    obtain ⟨t, hSecond, hDownEq, hSame'⟩ := turns_of_downLane hDown
    exact ⟨t, hFirst.trans hSecond, hSame'.trans hUpEq, hDownEq⟩

/-- The books are kept in order by whatever happens. -/
theorem Kept.turn {client target : Stream} (h : Kept client target s)
    (hTurn : Turn upDelays downDelays s t) : Kept client target t := by
  rcases cases_of_turn hTurn with ⟨up, client', target', rfl, hUp⟩ |
    ⟨down, target', inner, rfl, hDown⟩ | hJoin
  · exact h.up hUp.ne_ended up hUp.draws hUp.fills
  · exact h.down hDown.ne_ended down hDown.draws hDown.fills
  · exact h.stepJoin hJoin

theorem Kept.turns {client target : Stream} (h : Kept client target s)
    (hTurns : Turns upDelays downDelays s t) : Kept client target t := by
  induction hTurns with
  | refl => exact h
  | tail _ hTurn ih => exact ih.turn hTurn

end State

end Splice

end SpeedTest
