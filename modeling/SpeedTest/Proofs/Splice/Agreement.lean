import SpeedTest.Proofs.Splice.Reach

/-! Splices that come to the same. Two clients that bring the same bytes, in whatever pieces, leave
nothing different behind, and neither does the order of the steps. -/

namespace SpeedTest

open Relation (ReflTransGen)

namespace Splice

/-- Everything that anybody can notice of a splice is the same. Only the pieces in which the target
has received its bytes may differ, and what was never read. -/
structure State.Agree (s t : State) : Prop where
  up : t.up = s.up
  down : t.down = s.down
  client : s.client.inner.SameOutput t.client.inner
  target : ∃ writes sent, t.target = { s.target with writes := writes, sent := sent }
  received : t.target.written = s.target.written
  stage : t.stage = s.stage
  books : t.books = s.books

variable {p q : PeekStream} {target : Stream} {w : Bytes} {s t : State}

/-- A stream is put together from its two sides. -/
theorem sameOutput_of_sides {s t : Stream} (hOut : t.outgoingSide = s.outgoingSide)
    (hEnding : t.ending = s.ending) (hShutdowns : t.shutdowns = s.shutdowns) : s.SameOutput t := by
  refine ⟨t.arrivals, ?_⟩
  obtain ⟨⟩ := s
  obtain ⟨⟩ := t
  simp only [Stream.outgoingSide, Stream.mk.injEq] at *
  simp [hOut, hEnding, hShutdowns]

theorem filled_of_sides {a s t : Stream} (hs : a.Fills s.outgoingSide) (ht : a.Fills t.outgoingSide)
    (hRoom : t.room = s.room) (hFlushes : t.flushes = s.flushes)
    (hIn : t.incomingSide = s.incomingSide) (hShutdowns : t.shutdowns = s.shutdowns) :
    ∃ writes sent, t = { s with writes := writes, sent := sent } := by
  refine ⟨t.writes, t.sent, ?_⟩
  obtain ⟨_, _, _, _, hs⟩ := hs
  obtain ⟨_, _, _, _, ht⟩ := ht
  obtain ⟨⟩ := s
  obtain ⟨⟩ := t
  simp only [Stream.outgoingSide, Stream.incomingSide, Stream.ofArrivals, Stream.mk.injEq] at *
  simp [hRoom, hFlushes, hIn, hShutdowns, hs, ht]

/-- The stage and the books of a splice at rest follow from how its directions stand. -/
theorem closed_of_resting {client : Stream} (h : s.Kept client target) (hRest : s.Resting)
    (h' : t.Kept client target) (hRest' : t.Resting) (hUp : t.up = s.up) (hDown : t.down = s.down) :
    t.stage = s.stage ∧ t.books = s.books := by
  obtain ⟨-, -, u, d, hBooks, hEnded⟩ := h
  obtain ⟨-, -, u', d', hBooks', hEnded'⟩ := h'
  by_cases hOpen : s.stage = .open
  · -- If one had been closed, its directions would have ended, and so would those of the other.
    have hOpen' : t.stage = .open := by
      refine Decidable.byContradiction fun hLater => ?_
      obtain ⟨hUp', hDown'⟩ := hEnded' hLater
      rw [State.stage_of_resting hRest (hUp ▸ hUp') (hDown ▸ hDown')] at hOpen
      cases hOpen
    rw [hBooks, hBooks', hOpen, hOpen']
    exact ⟨rfl, rfl⟩
  · obtain ⟨hUpS, hDownS⟩ := hEnded hOpen
    have hStage := State.stage_of_resting hRest hUpS hDownS
    have hStage' := State.stage_of_resting hRest' (hUp.trans hUpS) (hDown.trans hDownS)
    obtain ⟨hUpT, hDownT⟩ := hEnded' (by simp [hStage'])
    cases (hUp.trans hUpS).symm.trans hUpT
    cases (hDown.trans hDownS).symm.trans hDownT
    rw [hBooks, hBooks', hStage, hStage']
    exact ⟨rfl, rfl⟩

/-- When nothing moves any more, splices with clients that bring the same bytes agree. -/
theorem agree_of_resting (hp : p.Brings w) (hq : q.Brings w) (hClient : p.inner.SameOutput q.inner)
    (hGrant : ∀ n, target.grant n ≠ some 0)
    (hs : ReflTransGen State.Step (start p target) s) (hRest : s.Resting)
    (ht : ReflTransGen State.Step (start q target) t) (hRest' : t.Resting) : s.Agree t := by
  obtain ⟨arrivals, hClient⟩ := hClient
  have hStart : (start q target).downLane = (start p target).downLane := by
    simp only [State.downLane, start, hClient]
    rfl
  have hDown : t.downLane = s.downLane :=
    Lane.resting_unique (hStart ▸ (State.lanes_of_reaches ht).2) (State.lanes_of_reaches hs).2
      (State.lanes_resting hRest').2 (State.lanes_resting hRest).2
  obtain ⟨hEnding, hFills, hUp, hEnd⟩ := State.up_of_resting hp hGrant hs hRest
  obtain ⟨hEnding', hFills', hUp', hEnd'⟩ := State.up_of_resting hq hGrant ht hRest'
  obtain ⟨-, hWritten, hRoom, hFlushes⟩ := Copy.End.mk.inj (hEnd.symm.trans hEnd')
  have hKept : s.Kept p.inner target := (State.Kept.start rfl rfl).reaches hs
  have hKept' : t.Kept p.inner target :=
    (State.Kept.start (by rw [hClient]) (by rw [hClient])).reaches ht
  obtain ⟨hStage, hBooks⟩ := closed_of_resting hKept hRest hKept' hRest' (hUp'.trans hUp.symm)
    (congrArg Lane.copy hDown)
  exact {
    up := hUp'.trans hUp.symm
    down := congrArg Lane.copy hDown
    client := sameOutput_of_sides (congrArg Lane.sink hDown) (hEnding'.trans hEnding.symm)
      (congrArg Books.clientShutdowns hBooks)
    target := filled_of_sides hFills hFills' hRoom.symm hFlushes.symm
      (congrArg Lane.source hDown) (congrArg Books.targetShutdowns hBooks)
    received := hWritten.symm
    stage := hStage
    books := hBooks }

end Splice

end SpeedTest
