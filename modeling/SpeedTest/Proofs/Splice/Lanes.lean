import Mathlib.Logic.Relation
import SpeedTest.Proofs.Splice.Copy
import SpeedTest.Proofs.Stream.Inward

/-! The two directions of a splice. Each reads one side of a stream and writes to the other side of
the other stream, so that neither sees what the other does: every interleaving is two runs of a
machine that takes its steps in one order only. -/

namespace SpeedTest

open Relation (ReflTransGen)

/-- The side of a stream that reads see. -/
def Stream.incomingSide (s : Stream) : Stream := .ofArrivals s.arrivals s.ending

/-- The side of a stream that writes and flushes see. Shutdowns are not counted. -/
def Stream.outgoingSide (s : Stream) : Stream :=
  { s with arrivals := [], ending := .finished, shutdowns := 0 }

/-- The side of a stream with a buffer that reads see. -/
def PeekStream.incomingSide (p : PeekStream) : PeekStream := ⟨p.inner.incomingSide, p.buffered⟩

namespace Stream

theorem read_incomingSide (n : Nat) (s : Stream) :
    read n s.incomingSide = ((read n s).1, (read n s).2.incomingSide) := rfl

theorem write_outgoingSide (bs : Bytes) (s : Stream) :
    write bs s.outgoingSide = ((write bs s).1, (write bs s).2.outgoingSide) := by
  unfold write
  by_cases hRoom : s.room = some 0
  · rw [if_pos hRoom, if_pos (show s.outgoingSide.room = some 0 from hRoom)]
    rfl
  · rw [if_neg hRoom, if_neg (show ¬ s.outgoingSide.room = some 0 from hRoom)]
    rfl

theorem flush_outgoingSide (s : Stream) :
    flush s.outgoingSide = ((flush s).1, (flush s).2.outgoingSide) := by
  have hFault : s.outgoingSide.flushFault s.outgoingSide.flushes = s.flushFault s.flushes := rfl
  simp only [flush, hFault]
  cases s.flushFault s.flushes <;> rfl

theorem Fills.incomingSide_eq {s t : Stream} (h : s.Fills t) : t.incomingSide = s.incomingSide := by
  obtain ⟨room, writes, sent, flushes, rfl⟩ := h
  rfl

end Stream

/-- Reading changes nothing but what is still to arrive. -/
theorem Stream.eq_of_draws {s t : Stream} (h : Copy.Draws read s t) :
    ∃ arrivals, t = { s with arrivals := arrivals } := by
  rcases h with rfl | ⟨n, rfl⟩ <;> exact ⟨_, rfl⟩

theorem PeekStream.inner_of_draws {p q : PeekStream} (h : Copy.Draws read p q) :
    ∃ arrivals, q.inner = { p.inner with arrivals := arrivals } := by
  rcases h with rfl | ⟨n, rfl⟩
  · exact ⟨_, rfl⟩
  · exact ⟨_, (Inward.read n).inner_eq p⟩

theorem PeekStream.read_incomingSide (n : Nat) (p : PeekStream) :
    read n p.incomingSide = ((read n p).1, (read n p).2.incomingSide) := by
  unfold read
  show (if p.buffered.isEmpty then _ else _) = _
  split <;> rfl

namespace Copy

variable {σ τ : Type} {read : Nat → Action σ IoError Bytes} {read' : Nat → Action τ IoError Bytes}

/-- A copy depends on the two sides that it touches and on nothing else. -/
theorem step_sides (side : σ → τ)
    (hRead : ∀ n s, read' n (side s) = ((read n s).1, side (read n s).2)) (c : Copy) (source : σ)
    (sink : Stream) :
    c.step read' (side source) sink.outgoingSide =
      (c.step read source sink).map fun x => (x.1, side x.2.1, x.2.2.outgoingSide) := by
  cases c with
  | reading moved unflushed =>
      simp only [step, hRead]
      generalize read bufferSize source = x
      obtain ⟨r, source'⟩ := x
      cases r with
      | done bs => rfl
      | failed e => rfl
      | pending =>
          cases unflushed with
          | false => rfl
          | true =>
              simp only [if_true, Stream.flush_outgoingSide]
              generalize Stream.flush sink = y
              obtain ⟨r, sink'⟩ := y
              cases r <;> rfl
  | writing left moved =>
      simp only [step, Stream.write_outgoingSide]
      generalize Stream.write left sink = y
      obtain ⟨r, sink'⟩ := y
      cases r with
      | done n =>
          dsimp only
          by_cases hNone : n = 0
          · simp only [if_pos hNone, Option.map_some]
          · simp only [if_neg hNone]
            split <;> rfl
      | failed e => rfl
      | pending => rfl
  | flushing moved =>
      simp only [step, Stream.flush_outgoingSide]
      generalize Stream.flush sink = y
      obtain ⟨r, sink'⟩ := y
      cases r <;> rfl
  | ended result => rfl

end Copy

namespace Splice

/-- One direction of a splice: a copy and the two sides of streams that it touches. -/
structure Lane (σ : Type) where
  copy : Copy
  source : σ
  sink : Stream

namespace Lane

variable {σ : Type}

def step (read : Nat → Action σ IoError Bytes) (l : Lane σ) : Option (Lane σ) :=
  (l.copy.step read l.source l.sink).map fun x => ⟨x.1, x.2.1, x.2.2⟩

/-- A lane takes one step. -/
def Goes (read : Nat → Action σ IoError Bytes) (l l' : Lane σ) : Prop := l.step read = some l'

/-- A lane can come to rest in one state only, since it never has a choice. -/
theorem resting_unique {read : Nat → Action σ IoError Bytes} {l a b : Lane σ}
    (ha : ReflTransGen (Goes read) l a) (hb : ReflTransGen (Goes read) l b)
    (hRestA : a.step read = none) (hRestB : b.step read = none) : a = b := by
  have hUnique : Relator.RightUnique (Goes read) := by
    intro x y z hy hz
    exact Option.some.inj (hy.symm.trans hz)
  have hRest {x y : Lane σ} (hx : x.step read = none) (h : ReflTransGen (Goes read) x y) :
      x = y := by
    cases h using ReflTransGen.head_induction_on with
    | refl => rfl
    | head hStep _ => exact absurd (hx.symm.trans hStep) (by simp)
  rcases ha.total_of_right_unique hUnique hb with h | h
  · exact hRest hRestA h
  · exact (hRest hRestB h).symm

end Lane

namespace State

variable {s t : State}

/-- The direction from the client to the target. -/
def upLane (s : State) : Lane PeekStream := ⟨s.up, s.client.incomingSide, s.target.outgoingSide⟩

/-- The direction from the target to the client. -/
def downLane (s : State) : Lane Stream :=
  ⟨s.down, s.target.incomingSide, s.client.inner.outgoingSide⟩

/-- What a step of the first direction is in terms of its copy. -/
theorem moves_of_stepUp (h : s.stepUp = some t) :
    ∃ up client target, t = { s with up := up, client := client, target := target } ∧
      Copy.Moves PeekStream.read s.up s.client s.target up client target := by
  unfold stepUp at h
  obtain ⟨⟨up, client, target⟩, hStep, hEq⟩ := Option.map_eq_some_iff.mp h
  exact ⟨up, client, target, hEq.symm, Copy.moves_of_step hStep⟩

/-- What a step of the second direction is in terms of its copy. -/
theorem moves_of_stepDown (h : s.stepDown = some t) :
    ∃ down target inner, t = { s with
        down := down
        target := target
        client := { s.client with inner := inner } } ∧
      Copy.Moves Stream.read s.down s.target s.client.inner down target inner := by
  unfold stepDown at h
  obtain ⟨⟨down, target, inner⟩, hStep, hEq⟩ := Option.map_eq_some_iff.mp h
  exact ⟨down, target, inner, hEq.symm, Copy.moves_of_step hStep⟩

theorem upLane_step (s : State) : s.upLane.step PeekStream.read = s.stepUp.map upLane := by
  have hSides := Copy.step_sides PeekStream.incomingSide PeekStream.read_incomingSide s.up s.client
    s.target
  simp only [Lane.step, upLane, hSides, stepUp, Option.map_map]
  rfl

theorem downLane_step (s : State) : s.downLane.step Stream.read = s.stepDown.map downLane := by
  have hSides := Copy.step_sides Stream.incomingSide Stream.read_incomingSide s.down s.target
    s.client.inner
  simp only [Lane.step, downLane, hSides, stepDown, Option.map_map]
  rfl

/-- The first direction does not touch what the second sees. -/
theorem downLane_of_up (up : Copy) {client : PeekStream} {target : Stream}
    (hClient : Copy.Draws PeekStream.read s.client client) (hTarget : s.target.Fills target) :
    downLane { s with up := up, client := client, target := target } = s.downLane := by
  obtain ⟨arrivals, hInner⟩ := PeekStream.inner_of_draws hClient
  simp only [downLane, hTarget.incomingSide_eq, hInner]
  rfl

/-- The second direction does not touch what the first sees. -/
theorem upLane_of_down (down : Copy) {target inner : Stream}
    (hTarget : Copy.Draws Stream.read s.target target) (hInner : s.client.inner.Fills inner) :
    upLane { s with
        down := down
        target := target
        client := { s.client with inner := inner } } = s.upLane := by
  obtain ⟨arrivals, rfl⟩ := Stream.eq_of_draws hTarget
  simp only [upLane, PeekStream.incomingSide, hInner.incomingSide_eq]
  rfl

theorem downLane_of_stepUp (h : s.stepUp = some t) : t.downLane = s.downLane := by
  obtain ⟨up, client, target, rfl, hMoves⟩ := moves_of_stepUp h
  exact downLane_of_up up hMoves.draws hMoves.fills

theorem upLane_of_stepDown (h : s.stepDown = some t) : t.upLane = s.upLane := by
  obtain ⟨down, target, inner, rfl, hMoves⟩ := moves_of_stepDown h
  exact upLane_of_down down hMoves.draws hMoves.fills

/-- What the party that waits for both directions may do. Its steps come in a fixed order. -/
theorem cases_of_stepJoin (h : s.stepJoin = some t) :
    ∃ u d, s.up = .ended u ∧ s.down = .ended d ∧
      ((s.stage = .open ∧
          t = tell (failureEntry "client->target" u ++ failureEntry "target->client" d
              ++ shutdownEntry "client" (Stream.shutdown s.client.inner).1)
            { s with
              client := { s.client with inner := (Stream.shutdown s.client.inner).2 }
              stage := .clientShut }) ∨
        (s.stage = .clientShut ∧
          t = tell (shutdownEntry "target" (Stream.shutdown s.target).1)
            { s with target := (Stream.shutdown s.target).2, stage := .bothShut }) ∨
        (s.stage = .bothShut ∧
          t = tell [finishedEntry ⟨Copy.reported u, Copy.reported d⟩]
            { s with
              stage := .released
              clientDrops := s.clientDrops + 1
              targetDrops := s.targetDrops + 1
              stats := some ⟨Copy.reported u, Copy.reported d⟩ })) := by
  obtain ⟨client, target, up, down, stage, clientDrops, targetDrops, stats, log⟩ := s
  simp only [stepJoin, outcome?, endEntries] at h
  cases up with
  | ended u =>
      cases down with
      | ended d =>
          refine ⟨u, d, rfl, rfl, ?_⟩
          simp only [Copy.result?, Option.bind_some] at h
          cases stage with
          | «open» => exact .inl ⟨rfl, (Option.some.inj h).symm⟩
          | clientShut => exact .inr (.inl ⟨rfl, (Option.some.inj h).symm⟩)
          | bothShut => exact .inr (.inr ⟨rfl, (Option.some.inj h).symm⟩)
          | released => cases h
      | _ => cases h
  | _ => cases h

/-- Shutting the streams down touches neither direction. -/
theorem lanes_of_stepJoin (h : s.stepJoin = some t) :
    t.upLane = s.upLane ∧ t.downLane = s.downLane := by
  have hIn (x : Stream) : (Stream.shutdown x).2.incomingSide = x.incomingSide := by
    rw [Stream.shutdown_state]
    rfl
  have hOut (x : Stream) : (Stream.shutdown x).2.outgoingSide = x.outgoingSide := by
    rw [Stream.shutdown_state]
    rfl
  obtain ⟨u, d, -, -, ⟨-, rfl⟩ | ⟨-, rfl⟩ | ⟨-, rfl⟩⟩ := cases_of_stepJoin h
  all_goals simp only [upLane, downLane, tell, PeekStream.incomingSide, hIn, hOut, and_self]

/-- An interleaving is a run of each direction by itself. -/
theorem lanes_of_reaches (h : ReflTransGen Step s t) :
    ReflTransGen (Lane.Goes PeekStream.read) s.upLane t.upLane ∧
      ReflTransGen (Lane.Goes Stream.read) s.downLane t.downLane := by
  induction h with
  | refl => exact ⟨.refl, .refl⟩
  | @tail r t _ hStep ih =>
      obtain ⟨hUp, hDown⟩ := ih
      cases hStep with
      | up h =>
          have hGoes : Lane.Goes PeekStream.read r.upLane t.upLane := by
            rw [Lane.Goes, upLane_step, h, Option.map_some]
          rw [downLane_of_stepUp h]
          exact ⟨hUp.tail hGoes, hDown⟩
      | down h =>
          have hGoes : Lane.Goes Stream.read r.downLane t.downLane := by
            rw [Lane.Goes, downLane_step, h, Option.map_some]
          rw [upLane_of_stepDown h]
          exact ⟨hUp, hDown.tail hGoes⟩
      | join h =>
          obtain ⟨hUp', hDown'⟩ := lanes_of_stepJoin h
          rw [hUp', hDown']
          exact ⟨hUp, hDown⟩

end State

end Splice

end SpeedTest
