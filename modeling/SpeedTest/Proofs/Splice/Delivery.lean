import SpeedTest.Proofs.Splice.Fidelity
import SpeedTest.Proofs.Splice.Waiting
import SpeedTest.Proofs.Stream.Conservation

/-! What each party of a splice receives. Nothing but a front part of what the other one sends, and
in the end all of it, if every write is accepted and nothing breaks off a direction that is kept
waiting. Neither direction has a say in what the other does. -/

namespace SpeedTest

open Relation (ReflTransGen)

namespace Arrival

/-- A read that hands over nothing has met a failure, or nothing at all. -/
theorem untilFailure_of_take {n : Nat} (hn : 0 < n) {ending : Ending} {l : List Arrival}
    (h : (take n ending l).1.bytes = []) : (untilFailure l).1 = [] := by
  induction l with
  | nil => rfl
  | cons a l ih =>
      cases a with
      | failure e => rfl
      | chunk bs =>
          by_cases hEmpty : bs = []
          · subst hEmpty
            exact ih h
          · rw [take_chunk n ending hEmpty, Outcome.bytes, List.take_eq_nil_iff] at h
            exact absurd h (not_or.mpr ⟨Nat.ne_of_gt hn, hEmpty⟩)

/-- Where no failure is among the arrivals, none is met and none comes in. -/
theorem Smooth.take {l : List Arrival} (h : Smooth l) (n : Nat) (ending : Ending) :
    Smooth (Arrival.take n ending l).2 ∧ ∀ e, (Arrival.take n ending l).1 ≠ .failed e := by
  induction l with
  | nil => cases ending <;> exact ⟨h, fun e hFailed => by cases hFailed⟩
  | cons a l ih =>
      cases a with
      | failure e => exact absurd rfl (h _ List.mem_cons_self e)
      | chunk bs =>
          by_cases hEmpty : bs = []
          · subst hEmpty
            exact ih h.tail
          · rw [take_chunk n ending hEmpty]
            refine ⟨?_, fun e hFailed => by cases hFailed⟩
            dsimp only
            split
            · exact h.tail
            · exact h.tail.cons

/-- A read waits only where the peer stays silent. -/
theorem ending_of_take {n : Nat} {ending : Ending} {l : List Arrival}
    (h : (take n ending l).1 = .pending) : ending = .silent := by
  induction l with
  | nil =>
      cases ending with
      | finished => cases h
      | silent => rfl
  | cons a l ih =>
      cases a with
      | failure e => cases h
      | chunk bs =>
          by_cases hEmpty : bs = []
          · subst hEmpty
            exact ih h
          · rw [take_chunk n ending hEmpty] at h
            cases h

end Arrival

namespace Copy

/-- What a copy knows of its source: reads take bytes off the front of those ahead, none are left
where a read hands over nothing, and reads fail where a failure is among the arrivals. -/
structure Source {σ : Type} (read : Nat → Action σ IoError Bytes) (ahead : σ → Bytes)
    (stream : σ → Stream) : Prop where
  ahead_of_done : ∀ {n s s' bs}, read n s = (.done bs, s') → ahead s = bs ++ ahead s'
  ahead_of_idle : ∀ {n s}, 0 < n → (read n s).1.bytes = [] → ahead s = []
  smooth : ∀ {s} n, Arrival.Smooth (stream s).arrivals →
    Arrival.Smooth (stream (read n s).2).arrivals ∧ ∀ e, (read n s).1 ≠ .failed e
  silent : ∀ {n s}, (read n s).1 = .pending → (stream s).ending = .silent

end Copy

theorem Stream.source : Copy.Source read ahead id where
  ahead_of_done := ahead_of_read
  ahead_of_idle hn h := Arrival.untilFailure_of_take hn h
  smooth n h := h.take n _
  silent h := Arrival.ending_of_take h

namespace PeekStream

theorem source : Copy.Source read ahead inner where
  ahead_of_done := ahead_of_read
  ahead_of_idle := by
    intro n p hn h
    unfold read at h
    split at h
    · rename_i hBuffer
      rw [List.isEmpty_iff] at hBuffer
      rw [ahead, hBuffer]
      exact Arrival.untilFailure_of_take hn h
    · rename_i hBuffer
      rw [List.isEmpty_iff] at hBuffer
      rw [Outcome.bytes, List.take_eq_nil_iff] at h
      exact absurd h (not_or.mpr ⟨Nat.ne_of_gt hn, hBuffer⟩)
  smooth := by
    intro p n h
    unfold read
    split
    · exact h.take n _
    · exact ⟨h, fun e hFailed => by cases hFailed⟩
  silent := by
    intro n p h
    unfold read at h
    split at h
    · exact Arrival.ending_of_take h
    · cases h

theorem ahead_of_fill {n : Nat} {p q : PeekStream} (h : fill n p = (.done (), q)) :
    q.ahead = p.ahead := by
  fun_induction fill n p with
  | case1 p => cases h; rfl
  | case2 | case3 => cases h
  | case4 p _ bs s hRead hNone =>
      cases h
      rw [ahead, ahead, Stream.ahead_of_read hRead, List.length_eq_zero_iff.mp hNone]
      rfl
  | case5 p _ bs s hRead hSome ih =>
      rw [ih h, ahead, ahead, Stream.ahead_of_read hRead, List.append_assoc]

/-- A look that succeeds leaves what is ahead as it is and shows its front. -/
theorem ahead_of_peek {n : Nat} {p q : PeekStream} {bs : Bytes} (h : peek n p = (.done bs, q)) :
    q.ahead = p.ahead ∧ bs <+: q.ahead := by
  unfold peek at h
  split at h
  · rename_i hFilled
    cases h
    exact ⟨ahead_of_fill hFilled, (List.take_prefix n _).trans (List.prefix_append _ _)⟩
  · cases h
  · cases h

end PeekStream

/-- The stream accepts every write, though perhaps only a part at a time, until it has taken `n`
bytes. Nothing is said about flushes and shutdowns. -/
structure Stream.Takes (n : Nat) (s : Stream) : Prop where
  room : ∀ r, s.room = some r → n ≤ r
  grant : ∀ k, s.grant k ≠ some 0

namespace Stream.Takes

variable {n : Nat} {s t : Stream}

/-- A write takes at least one byte of what it is given. -/
theorem of_write {bs : Bytes} (h : s.Takes (bs.length + n)) (hBytes : bs ≠ [])
    {r : Outcome IoError Nat} (hWrite : write bs s = (r, t)) :
    ∃ front back, front ≠ [] ∧ bs = front ++ back ∧ r = .done front.length ∧
      t.Takes (back.length + n) ∧ t.written = s.written ++ front := by
  rcases write_of_granting h.grant hBytes with
    ⟨hFull, -⟩ | ⟨front, back, hFront, hSplit, hRoom, hDone⟩
  · have hPos := List.length_pos_iff.mpr hBytes
    have hLe := h.room 0 hFull
    omega
  · rw [hDone] at hWrite
    cases hWrite
    refine ⟨front, back, hFront, hSplit, rfl, ⟨?_, h.grant⟩, by simp [written]⟩
    intro r hLeft
    obtain ⟨r', hr', rfl⟩ := Option.map_eq_some_iff.mp hLeft
    have hLe := h.room r' hr'
    rw [hSplit, List.length_append] at hLe
    omega

theorem of_flush (h : s.Takes n) {r : Outcome IoError Unit} (hFlush : flush s = (r, t)) :
    t.Takes n := by
  unfold flush at hFlush
  split at hFlush <;> cases hFlush <;> exact ⟨h.room, h.grant⟩

end Stream.Takes

namespace Copy

variable {σ : Type} {read : Nat → Action σ IoError Bytes} {ahead : σ → Bytes}
  {stream : σ → Stream} {delays : Delays} {c c' : Copy} {source source' : σ}
  {sink sink' : Stream}

/-- Waiting writes nothing, and what is read meanwhile is held behind what was read before. -/
theorem Waits.carried
    (hAhead : ∀ {n s s' bs}, read n s = (.done bs, s') → ahead s = bs ++ ahead s')
    {before all : Bytes} (h : Waits delays read c source sink c' source' sink')
    (hCarried : Carried ahead before all c source sink) :
    Carried ahead before all c' source' sink' := by
  obtain ⟨front, hWritten, hFront, hGoing⟩ := hCarried
  have hRest : front ++ (c.held ++ ahead source) = all :=
    hGoing.resolve_left (not_exists.mpr h.ne_ended)
  have hFlushed {r : Outcome IoError Unit} {t : Stream} (hFlush : Stream.flush sink = (r, t)) :
      t.written = before ++ front := (Stream.written_of_flush hFlush).trans hWritten
  cases h with
  | settled _ hFlush => exact .of_rest (hFlushed hFlush) hRest
  | unsettled _ hFlush => exact .of_ended (hFlushed hFlush) hFront
  | toppedUp _ _ _ hRead =>
      refine .of_rest hWritten ?_
      rw [hAhead hRead] at hRest
      simpa only [held, List.append_assoc] using hRest
  | broken => exact .of_ended hWritten hFront

/-- Waiting does a copy no harm. One that waits for room is broken off by a read that fails, and one
that waits for bytes by a flush that fails; a copy that is not kept waiting has nothing to fear from
either. -/
structure Undisturbed (delays : Delays) (source sink : Stream) : Prop where
  smooth : delays.fullSink → Arrival.Smooth source.arrivals
  settling : delays.lateReads → ∀ n, sink.flushFault n = none

/-- The bytes that a copy has still to write. -/
def rest (ahead : σ → Bytes) (source : σ) : Copy → Bytes
  | reading _ _ => ahead source
  | writing left _ => left ++ ahead source
  | flushing _ => []
  | ended _ => []

/-- The sink lacks only what the copy has still to write, and will take it. -/
structure Owes (ahead : σ → Bytes) (goal : Bytes) (c : Copy) (source : σ) (sink : Stream) :
    Prop where
  held : ∀ left moved, c = writing left moved → left ≠ []
  written : sink.written ++ c.rest ahead source = goal
  takes : sink.Takes (c.rest ahead source).length

namespace Owes

variable {goal : Bytes}

/-- With the same bytes to write and the same written, nothing has changed. -/
theorem of_same (h : Owes ahead goal c source sink)
    (hRest : c'.rest ahead source' = c.rest ahead source)
    (hHeld : ∀ left moved, c' = writing left moved → left ≠ []) :
    Owes ahead goal c' source' sink :=
  ⟨hHeld, by rw [hRest]; exact h.written, by rw [hRest]; exact h.takes⟩

theorem of_flush (h : Owes ahead goal c source sink) {r : Outcome IoError Unit}
    (hFlush : Stream.flush sink = (r, sink')) : Owes ahead goal c source sink' :=
  ⟨h.held, by rw [Stream.written_of_flush hFlush]; exact h.written, h.takes.of_flush hFlush⟩

/-- A write makes progress. -/
theorem of_write {left : Bytes} {moved : Nat} (h : Owes ahead goal (writing left moved) source sink)
    {r : Outcome IoError Nat} (hWrite : Stream.write left sink = (r, sink')) :
    ∃ front back, front ≠ [] ∧ left = front ++ back ∧ r = .done front.length ∧
      sink'.written ++ (back ++ ahead source) = goal ∧
      sink'.Takes (back ++ ahead source).length := by
  obtain ⟨hHeld, hWritten, hTakes⟩ := h
  rw [rest, List.length_append] at hTakes
  obtain ⟨front, back, hFront, rfl, hDone, hStill, hNow⟩ :=
    hTakes.of_write (hHeld left moved rfl) hWrite
  refine ⟨front, back, hFront, rfl, hDone, ?_, by rwa [List.length_append]⟩
  rw [hNow, List.append_assoc, ← List.append_assoc front]
  exact hWritten

end Owes

theorem Moves.owes (hSource : Source read ahead stream) {goal : Bytes}
    (h : Moves read c source sink c' source' sink') (hOwes : Owes ahead goal c source sink) :
    Owes ahead goal c' source' sink' := by
  -- Where a read hands over nothing, what has been written is everything.
  have hNone (hIdle : (read bufferSize source).1.bytes = []) : ahead source = [] :=
    hSource.ahead_of_idle (by decide) hIdle
  cases h with
  | took hRead hBytes =>
      refine hOwes.of_same (hSource.ahead_of_done hRead).symm ?_
      rintro left moved ⟨⟩
      exact hBytes
  | finished hRead | broken hRead =>
      exact hOwes.of_same (hNone (by rw [hRead]; rfl)).symm (by simp)
  | settled _ hFlush => exact (hOwes.of_flush hFlush).of_same rfl (by simp)
  | unsettled hRead hFlush =>
      exact (hOwes.of_flush hFlush).of_same (hNone (by rw [hRead]; rfl)).symm (by simp)
  | refused hWrite =>
      obtain ⟨front, back, -, -, hDone, -⟩ := hOwes.of_write hWrite
      cases hDone
  | stalled hWrite =>
      obtain ⟨front, back, hFront, -, hDone, -⟩ := hOwes.of_write hWrite
      exact absurd (List.length_eq_zero_iff.mp (Outcome.done.inj hDone).symm) hFront
  | wrote hWrite hSome hLeft =>
      obtain ⟨front, back, -, rfl, hDone, hWritten, hTakes⟩ := hOwes.of_write hWrite
      cases hDone
      rw [List.drop_left] at hLeft ⊢
      refine ⟨?_, hWritten, hTakes⟩
      rintro left moved ⟨⟩
      exact hLeft
  | drained hWrite hSome hLeft =>
      obtain ⟨front, back, -, rfl, hDone, hWritten, hTakes⟩ := hOwes.of_write hWrite
      cases hDone
      rw [List.drop_left] at hLeft
      rw [hLeft, List.nil_append] at hWritten hTakes
      exact ⟨by simp, hWritten, hTakes⟩
  | flushed hFlush | unflushed hFlush => exact (hOwes.of_flush hFlush).of_same rfl (by simp)

theorem Waits.owes (hSource : Source read ahead stream)
    (hCalm : Undisturbed delays (stream source) sink) {goal : Bytes}
    (h : Waits delays read c source sink c' source' sink')
    (hOwes : Owes ahead goal c source sink) : Owes ahead goal c' source' sink' := by
  cases h with
  | settled _ hFlush => exact (hOwes.of_flush hFlush).of_same rfl (by simp)
  | unsettled hLate hFlush =>
      have hFault := hCalm.settling hLate sink.flushes
      simp [Stream.flush, hFault] at hFlush
  | @toppedUp left _ _ _ _ _ bs _ _ _ hRead hBytes =>
      refine hOwes.of_same ?_ ?_
      · rw [rest, rest, hSource.ahead_of_done hRead, List.append_assoc]
      · rintro _ _ ⟨⟩
        exact List.append_ne_nil_of_right_ne_nil left hBytes
  | broken hFull _ _ hRead =>
      exact absurd (by rw [hRead]) ((hSource.smooth _ (hCalm.smooth hFull)).2 _)

theorem Advances.undisturbed (hSource : Source read ahead stream)
    (h : Advances delays read c source sink c' source' sink')
    (hCalm : Undisturbed delays (stream source) sink) :
    Undisturbed delays (stream source') sink' := by
  refine ⟨fun hFull => ?_, fun hLate n => ?_⟩
  · rcases h.draws with rfl | ⟨n, rfl⟩
    · exact hCalm.smooth hFull
    · exact (hSource.smooth n (hCalm.smooth hFull)).1
  · obtain ⟨_, _, _, _, rfl⟩ := h.fills
    exact hCalm.settling hLate n

theorem Advances.owes (hSource : Source read ahead stream)
    (hCalm : Undisturbed delays (stream source) sink) {goal : Bytes}
    (h : Advances delays read c source sink c' source' sink')
    (hOwes : Owes ahead goal c source sink) : Owes ahead goal c' source' sink' :=
  h.elim (Moves.owes hSource · hOwes) (Waits.owes hSource hCalm · hOwes)

end Copy

namespace Splice

namespace Lane

variable {σ : Type} {read : Nat → Action σ IoError Bytes} {ahead : σ → Bytes}
  {stream : σ → Stream} {delays : Copy.Delays} {l l' : Lane σ}

/-- At any time a front part of what is ahead has been written. -/
theorem written_of_advances (hSource : Copy.Source read ahead stream) (hFresh : l.copy = .fresh)
    (h : ReflTransGen (Advances delays read) l l') :
    ∃ front, front <+: ahead l.source ∧ l'.sink.written = l.sink.written ++ front := by
  have hCarried : Copy.Carried ahead l.sink.written (ahead l.source) l'.copy l'.source l'.sink := by
    induction h with
    | refl =>
        rw [hFresh]
        exact .of_rest (List.append_nil _).symm rfl
    | tail _ hNext ih =>
        rcases hNext with hMoves | hWaits
        · exact hMoves.carried hSource.ahead_of_done ih
        · exact hWaits.carried hSource.ahead_of_done ih
  obtain ⟨front, hWritten, hFront, -⟩ := hCarried
  exact ⟨front, hFront, hWritten⟩

theorem owes_of_advances (hSource : Copy.Source read ahead stream) (hFresh : l.copy = .fresh)
    (hTakes : l.sink.Takes (ahead l.source).length)
    (hCalm : Copy.Undisturbed delays (stream l.source) l.sink)
    (h : ReflTransGen (Advances delays read) l l') :
    Copy.Undisturbed delays (stream l'.source) l'.sink ∧
      Copy.Owes ahead (l.sink.written ++ ahead l.source) l'.copy l'.source l'.sink := by
  induction h with
  | refl =>
      rw [hFresh]
      exact ⟨hCalm, by simp [Copy.fresh], rfl, hTakes⟩
  | tail _ hNext ih =>
      obtain ⟨hCalm, hOwes⟩ := ih
      exact ⟨hNext.undisturbed hSource hCalm, hNext.owes hSource hCalm hOwes⟩

/-- A direction that nothing hinders has written everything when it stops. -/
theorem whole_of_advances (hSource : Copy.Source read ahead stream) (hFresh : l.copy = .fresh)
    (hTakes : l.sink.Takes (ahead l.source).length)
    (hCalm : Copy.Undisturbed delays (stream l.source) l.sink)
    (h : ReflTransGen (Advances delays read) l l')
    (hStops : (∃ result, l'.copy = .ended result) ∨ l'.step read = none) :
    l'.sink.written = l.sink.written ++ ahead l.source := by
  obtain ⟨-, hOwes⟩ := owes_of_advances hSource hFresh hTakes hCalm h
  have hEnds : (∃ result, l'.copy = .ended result) ∨
      ∃ moved, l'.copy = .reading moved false ∧
        (read Copy.bufferSize l'.source).1 = .pending := by
    rcases hStops with hEnded | hRest
    · exact .inl hEnded
    · exact Copy.of_step_eq_none (Option.map_eq_none_iff.mp hRest)
  -- A copy that waits for good has found nothing ahead.
  have hNone : l'.copy.rest ahead l'.source = [] := by
    rcases hEnds with ⟨result, hEnded⟩ | ⟨moved, hReading, hPending⟩
    · rw [hEnded, Copy.rest]
    · rw [hReading, Copy.rest]
      exact hSource.ahead_of_idle (n := Copy.bufferSize) (by decide) (by rw [hPending]; rfl)
  rw [← hOwes.written, hNone, List.append_nil]

theorem ending_of_advances
    (hEnding : ∀ {s s'}, Copy.Draws read s s' → (stream s').ending = (stream s).ending)
    (h : ReflTransGen (Advances delays read) l l') :
    (stream l'.source).ending = (stream l.source).ending := by
  induction h with
  | refl => rfl
  | tail _ hNext ih => exact (hEnding hNext.draws).trans ih

/-- A direction whose source comes to an end does not stop before it has ended. -/
theorem ended_of_finished (hSource : Copy.Source read ahead stream)
    (hFinished : (stream l.source).ending = .finished) (hRest : l.step read = none) :
    ∃ result, l.copy = .ended result := by
  rcases Copy.of_step_eq_none (Option.map_eq_none_iff.mp hRest) with hEnded | ⟨moved, -, hPending⟩
  · exact hEnded
  · rw [hSource.silent hPending] at hFinished
    cases hFinished

/-- Without anything to wait for a direction has one course and one end. -/
theorem unique_of_advances {a b : Lane σ} (ha : ReflTransGen (Advances .none read) l a)
    (hb : ReflTransGen (Advances .none read) l b) (hRestA : a.step read = none)
    (hRestB : b.step read = none) : a = b := by
  have hGoes : Advances .none read ≤ Goes read := by
    intro x y h
    rw [Goes, step, Copy.step_of_moves h.moves]
    rfl
  exact resting_unique (ReflTransGen.mono hGoes _ _ ha) (ReflTransGen.mono hGoes _ _ hb) hRestA
    hRestB

end Lane

open State

variable {p : PeekStream} {target : Stream} {upDelays downDelays : Copy.Delays} {t : State}

/-- A splice hands on what it receives. In whatever order the directions take their turns, and
however long they are kept waiting:

* at any time each party has received a front part of what the other sends before a read fails, the
  bytes that were looked at first, and nothing else;
* it has received all of that when its direction stops, if it takes so much and waiting does the
  direction no harm;
* this cannot go on for ever, and when nothing moves any more, a direction whose source came to an
  end has ended itself;
* whatever one direction does, it can do beside anything that the other might have to copy and
  however that one ends, and if it is not kept waiting it cannot do anything else.
-/
theorem conveys_both (h : Turns upDelays downDelays (start p target) t) :
    (∀ n q bs, PeekStream.peek n q = (.done bs, p) → p.ahead = q.ahead ∧ bs <+: p.ahead) ∧
    ((∃ front, front <+: p.ahead ∧ t.target.written = target.written ++ front) ∧
      ∃ front, front <+: target.ahead ∧ t.client.inner.written = p.inner.written ++ front) ∧
    ((target.Takes p.ahead.length → Copy.Undisturbed upDelays p.inner target →
        (∃ result, t.up = .ended result) ∨ t.Resting →
        t.target.written = target.written ++ p.ahead) ∧
      (p.inner.Takes target.ahead.length → Copy.Undisturbed downDelays target p.inner →
        (∃ result, t.down = .ended result) ∨ t.Resting →
        t.client.inner.written = p.inner.written ++ target.ahead)) ∧
    (∀ run : Nat → State, ∃ n, ¬ Turn upDelays downDelays (run n) (run (n + 1))) ∧
    (t.Resting → (p.inner.ending = .finished → ∃ result, t.up = .ended result) ∧
      (target.ending = .finished → ∃ result, t.down = .ended result)) ∧
    (∀ q other delays x, q.incomingSide = p.incomingSide →
      other.outgoingSide = target.outgoingSide → Turns upDelays delays (start q other) x →
      (∃ y, Turns upDelays delays (start q other) y ∧ y.upLane = t.upLane ∧
        y.downLane = x.downLane) ∧
      (upDelays = .none → t.stepUp = none → x.stepUp = none → x.upLane = t.upLane)) ∧
    (∀ q other delays x, other.incomingSide = target.incomingSide →
      q.inner.outgoingSide = p.inner.outgoingSide → Turns delays downDelays (start q other) x →
      (∃ y, Turns delays downDelays (start q other) y ∧ y.upLane = x.upLane ∧
        y.downLane = t.downLane) ∧
      (downDelays = .none → t.stepDown = none → x.stepDown = none →
        x.downLane = t.downLane)) := by
  obtain ⟨hUp, hDown⟩ := lanes_of_turns h
  have hUpRest {s : State} (hRest : s.stepUp = none) : s.upLane.step PeekStream.read = none := by
    rw [upLane_step, hRest, Option.map_none]
  have hDownRest {s : State} (hRest : s.stepDown = none) : s.downLane.step Stream.read = none := by
    rw [downLane_step, hRest, Option.map_none]
  refine ⟨?_, ⟨?_, ?_⟩, ⟨?_, ?_⟩, exists_last_turn, ?_, ?_, ?_⟩
  · intro n q bs hPeek
    exact PeekStream.ahead_of_peek hPeek
  · exact Lane.written_of_advances PeekStream.source rfl hUp
  · exact Lane.written_of_advances Stream.source rfl hDown
  · intro hTakes hCalm hStops
    exact Lane.whole_of_advances PeekStream.source rfl ⟨hTakes.room, hTakes.grant⟩
      ⟨hCalm.smooth, hCalm.settling⟩ hUp (hStops.imp_right fun hRest => (lanes_resting hRest).1)
  · intro hTakes hCalm hStops
    exact Lane.whole_of_advances Stream.source rfl ⟨hTakes.room, hTakes.grant⟩
      ⟨hCalm.smooth, hCalm.settling⟩ hDown (hStops.imp_right fun hRest => (lanes_resting hRest).2)
  · intro hRest
    obtain ⟨hUpRest, hDownRest⟩ := lanes_resting hRest
    refine ⟨fun hFinished => ?_, fun hFinished => ?_⟩
    · refine Lane.ended_of_finished PeekStream.source ?_ hUpRest
      refine (Lane.ending_of_advances (fun hDraws => ?_) hUp).trans hFinished
      obtain ⟨arrivals, hInner⟩ := PeekStream.inner_of_draws hDraws
      rw [hInner]
    · refine Lane.ended_of_finished Stream.source ?_ hDownRest
      refine (Lane.ending_of_advances (fun hDraws => ?_) hDown).trans hFinished
      obtain ⟨arrivals, rfl⟩ := Stream.eq_of_draws hDraws
      rfl
  · intro q other delays x hSource hSink hTurns
    have hStart : (start q other).upLane = (start p target).upLane := by
      simp only [upLane, start, hSource, hSink]
    obtain ⟨hUp', hDown'⟩ := lanes_of_turns hTurns
    rw [hStart] at hUp'
    refine ⟨exists_turns_iff.mpr ⟨hStart ▸ hUp, hDown'⟩, fun hNone hRest hRest' => ?_⟩
    subst hNone
    exact Lane.unique_of_advances hUp' hUp (hUpRest hRest') (hUpRest hRest)
  · intro q other delays x hSource hSink hTurns
    have hStart : (start q other).downLane = (start p target).downLane := by
      simp only [downLane, start, hSource, hSink]
    obtain ⟨hUp', hDown'⟩ := lanes_of_turns hTurns
    rw [hStart] at hDown'
    refine ⟨exists_turns_iff.mpr ⟨hUp', hStart ▸ hDown⟩, fun hNone hRest hRest' => ?_⟩
    subst hNone
    exact Lane.unique_of_advances hDown' hDown (hDownRest hRest') (hDownRest hRest)

/-- A client that was looked at and then fails, and a target that stays silent and takes one byte at
a time: each has received what the other one sent. -/
theorem conveys_both_of_failing_client :
    let p : PeekStream := ⟨.ofArrivals [.chunk [3], .failure .earlyEnd] .finished, [1, 2]⟩
    let target := { Stream.ofArrivals [.chunk [9]] .silent with grant := fun _ => some 1 }
    (run (start p target)).target.written = [1, 2, 3] ∧
      (run (start p target)).client.inner.written = [9] := by
  intro p target
  have hTarget : target.Takes p.ahead.length :=
    ⟨fun _ hRoom => (by cases hRoom), fun _ hGrant => (by cases hGrant)⟩
  have hClient : p.inner.Takes target.ahead.length :=
    ⟨fun _ hRoom => (by cases hRoom), fun _ hGrant => (by cases hGrant)⟩
  have hTurns : Turns .none .none (start p target) (run (start p target)) :=
    turns_of_steps (reaches_run _)
  obtain ⟨-, -, ⟨hUp, hDown⟩, -⟩ := conveys_both hTurns
  have hRest := resting_run (start p target)
  exact ⟨hUp hTarget ⟨fun h => (by cases h), fun h => (by cases h)⟩ (.inr hRest),
    hDown hClient ⟨fun h => (by cases h), fun h => (by cases h)⟩ (.inr hRest)⟩

end Splice

end SpeedTest
