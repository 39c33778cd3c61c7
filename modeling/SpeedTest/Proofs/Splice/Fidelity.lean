import SpeedTest.Proofs.Splice.Reach
import SpeedTest.Proofs.Stream.Ahead

/-! What copying puts on a stream. At any time it is a front part of what the source delivers before
it fails, whatever the other direction does and whatever the sink accepts. -/

namespace SpeedTest

open Relation (ReflTransGen)

theorem PeekStream.Brings.ahead_eq {p : PeekStream} {w : Bytes} (h : p.Brings w) : p.ahead = w := by
  obtain ⟨rest, hEnd, front, hSmooth, hContent, hInner⟩ := h
  rw [ahead, Stream.ahead, hInner]
  simp only [hEnd.arrivals, List.append_nil]
  rw [Arrival.untilFailure_of_smooth hSmooth, hContent]

namespace Copy

/-- The bytes that have been read and not yet written. -/
def held : Copy → Bytes
  | writing left _ => left
  | _ => []

variable {σ : Type} {read : Nat → Action σ IoError Bytes} {ahead : σ → Bytes}

/-- Of the bytes `all`, a front part has been written behind `before`. As long as the copy has not
ended, the others are held or still ahead. -/
def Carried (ahead : σ → Bytes) (before all : Bytes) (c : Copy) (source : σ) (sink : Stream) :
    Prop :=
  ∃ front, sink.written = before ++ front ∧ front <+: all ∧
    ((∃ result, c = ended result) ∨ front ++ (c.held ++ ahead source) = all)

theorem Carried.of_rest {before front all : Bytes} {c : Copy} {source : σ} {sink : Stream}
    (hWritten : sink.written = before ++ front)
    (hRest : front ++ (c.held ++ ahead source) = all) :
    Carried ahead before all c source sink :=
  ⟨front, hWritten, ⟨_, hRest⟩, .inr hRest⟩

theorem Carried.of_ended {before front all : Bytes} {result : Except IoError Nat} {source : σ}
    {sink : Stream} (hWritten : sink.written = before ++ front) (hFront : front <+: all) :
    Carried ahead before all (.ended result) source sink :=
  ⟨front, hWritten, hFront, .inl ⟨result, rfl⟩⟩

theorem Moves.carried (hAhead : ∀ {n s s' bs}, read n s = (.done bs, s') → ahead s = bs ++ ahead s')
    {before all : Bytes} {c c' : Copy} {source source' : σ} {sink sink' : Stream}
    (h : Moves read c source sink c' source' sink')
    (hCarried : Carried ahead before all c source sink) :
    Carried ahead before all c' source' sink' := by
  obtain ⟨front, hWritten, hFront, hGoing⟩ := hCarried
  have hRest : front ++ (c.held ++ ahead source) = all :=
    hGoing.resolve_left (not_exists.mpr h.ne_ended)
  have hFlushed {r : Outcome IoError Unit} {t : Stream} (hFlush : Stream.flush sink = (r, t)) :
      t.written = before ++ front := (Stream.written_of_flush hFlush).trans hWritten
  have hMore {left : Bytes} {r : Outcome IoError Nat} {t : Stream}
      (hWrite : Stream.write left sink = (r, t)) :
      ∃ more behind, left = more ++ behind ∧ t.written = before ++ (front ++ more) ∧
        ∀ n, r = .done n → n = more.length := by
    obtain ⟨more, ⟨behind, hSplit⟩, hNow, hLength⟩ := Stream.written_write left sink
    rw [hWrite] at hNow hLength
    exact ⟨more, behind, hSplit.symm, by rw [hNow, hWritten, List.append_assoc], hLength⟩
  cases h with
  | took hRead | finished hRead =>
      rw [hAhead hRead] at hRest
      exact .of_rest hWritten hRest
  | broken => exact .of_ended hWritten hFront
  | settled _ hFlush => exact .of_rest (hFlushed hFlush) hRest
  | unsettled _ hFlush | flushed hFlush | unflushed hFlush =>
      exact .of_ended (hFlushed hFlush) hFront
  | refused hWrite | stalled hWrite =>
      obtain ⟨more, behind, rfl, hNow, -⟩ := hMore hWrite
      refine .of_ended hNow ?_
      rw [← hRest, held, List.append_assoc, ← List.append_assoc]
      exact List.prefix_append _ _
  | wrote hWrite =>
      obtain ⟨more, behind, rfl, hNow, hLength⟩ := hMore hWrite
      obtain rfl := hLength _ rfl
      refine .of_rest hNow ?_
      simp only [held, List.drop_left, List.append_assoc] at hRest ⊢
      exact hRest
  -- Here the write takes everything that was held.
  | drained hWrite hSome hLeft =>
      obtain ⟨more, behind, rfl, hNow, hLength⟩ := hMore hWrite
      obtain rfl := hLength _ rfl
      rw [List.drop_left] at hLeft
      refine .of_rest hNow ?_
      simp only [held, hLeft, List.append_nil, List.nil_append, List.append_assoc] at hRest ⊢
      exact hRest

end Copy

namespace Splice

theorem Lane.carried_of_reaches {σ : Type} {read : Nat → Action σ IoError Bytes} {ahead : σ → Bytes}
    (hAhead : ∀ {n s s' bs}, read n s = (.done bs, s') → ahead s = bs ++ ahead s')
    {before all : Bytes} {l l' : Lane σ} (h : ReflTransGen (Lane.Goes read) l l')
    (hCarried : Copy.Carried ahead before all l.copy l.source l.sink) :
    Copy.Carried ahead before all l'.copy l'.source l'.sink := by
  induction h with
  | refl => exact hCarried
  | tail _ hGoes ih => exact hGoes.moves.carried hAhead ih

/-- At any time, in any order of steps, each party has received a front part of what the other one
sends. Nothing else is written to either of them. -/
theorem written_of_reaches {p : PeekStream} {target : Stream} {t : State}
    (h : ReflTransGen State.Step (start p target) t) :
    (∃ up, up <+: p.ahead ∧ t.target.written = target.written ++ up) ∧
      ∃ down, down <+: target.ahead ∧ t.client.inner.written = p.inner.written ++ down := by
  obtain ⟨hUp, hDown⟩ := State.lanes_of_reaches h
  have hUpStart : Copy.Carried PeekStream.ahead target.written p.ahead (start p target).up
      p.incomingSide target.outgoingSide :=
    .of_rest (List.append_nil _).symm rfl
  have hDownStart : Copy.Carried Stream.ahead p.inner.written target.ahead (start p target).down
      target.incomingSide p.inner.outgoingSide :=
    .of_rest (List.append_nil _).symm rfl
  obtain ⟨up, hUpWritten, hUpFront, -⟩ :=
    Lane.carried_of_reaches PeekStream.ahead_of_read hUp hUpStart
  obtain ⟨down, hDownWritten, hDownFront, -⟩ :=
    Lane.carried_of_reaches Stream.ahead_of_read hDown hDownStart
  exact ⟨⟨up, hUpFront, hUpWritten⟩, down, hDownFront, hDownWritten⟩

end Splice

end SpeedTest
