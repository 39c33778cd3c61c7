import Mathlib.Algebra.GroupWithZero.Nat
import SpeedTest.SubTest.DataChannel
import SpeedTest.Proofs.Connection.Events
import SpeedTest.Proofs.Stream.Ahead

/-! What is counted while data is received. Both kinds of channel are asked again and again, until
one answer ends the transfer. The count then has grown by the payloads of the answers before it, and
only a failure makes the transfer one. -/

namespace SpeedTest

namespace ByteCount

theorem toNat_add (c : ByteCount) (n : Nat) :
    (c.add n).total.toNat = (c.total.toNat + n) % 2 ^ 64 := by
  rw [add, UInt64.toNat_add, UInt64.toNat_ofNat', Nat.add_mod_mod]

theorem add_add (c : ByteCount) (m n : Nat) : (c.add m).add n = c.add (m + n) := by
  rw [add, add, add, UInt64.add_assoc, UInt64.ofNat_add]

theorem add_zero (c : ByteCount) : c.add 0 = c := by
  exact congrArg ByteCount.mk (UInt64.add_zero c.total)

end ByteCount

namespace Action

variable {σ ε α : Type} {next : Action σ ε α} {gain? : Outcome ε α → Option Nat}

/-- Asked from `s` on, the source gives answers each of which adds bytes or none, and then a last
one that ends the transfer. -/
inductive Serves (next : Action σ ε α) (gain? : Outcome ε α → Option Nat) :
    σ → List (Outcome ε α) → Outcome ε α → σ → Prop
  | last {s : σ} (hEnd : gain? (next s).1 = none) :
    Serves next gain? s [] (next s).1 (next s).2
  | more {s s' : σ} {before : List (Outcome ε α)} {last : Outcome ε α} {n : Nat}
    (hGain : gain? (next s).1 = some n) (rest : Serves next gain? (next s).2 before last s') :
    Serves next gain? s ((next s).1 :: before) last s'

/-- How a transfer ends with the given answer. -/
def verdict (tell : ε → Failure) : Outcome ε α → Except Failure Unit
  | .failed e => .error (tell e)
  | _ => .ok ()

theorem verdict_eq_error_iff {tell : ε → Failure} {answer : Outcome ε α} :
    (∃ e, verdict tell answer = .error e) ↔ ∃ e, answer = .failed e := by
  constructor
  · rintro ⟨e, h⟩
    cases answer with
    | failed e => exact ⟨e, rfl⟩
    | done a => cases h
    | pending => cases h
  · rintro ⟨e, rfl⟩
    exact ⟨tell e, rfl⟩

/-- A source each of whose gains leaves less to come is served to an end. -/
theorem exists_serves {left : σ → Nat}
    (hFalls : ∀ s n, gain? (next s).1 = some n → left (next s).2 < left s) (s : σ) :
    ∃ before last s', Serves next gain? s before last s' := by
  induction hLeft : left s using Nat.strongRecOn generalizing s with
  | ind bound ih =>
      cases hGain : gain? (next s).1 with
      | none => exact ⟨_, _, _, .last hGain⟩
      | some n =>
          obtain ⟨before, last, s', hServes⟩ := ih _ (hLeft ▸ hFalls s n hGain) (next s).2 rfl
          exact ⟨_, _, _, .more hGain hServes⟩

/-- A loop that counts what each answer adds, up to the one that ends the transfer, counts the sum
of what they add. -/
theorem Serves.loop_eq {tell : ε → Failure}
    {loop : ByteCount → σ → (ByteCount × Except Failure Unit) × σ}
    (hLoop : ∀ count s, loop count s =
      match gain? (next s).1 with
      | some n => loop (count.add n) (next s).2
      | none => ((count, verdict tell (next s).1), (next s).2))
    {s s' : σ} {before : List (Outcome ε α)} {last : Outcome ε α}
    (h : Serves next gain? s before last s') (count : ByteCount) :
    loop count s = ((count.add (before.filterMap gain?).sum, verdict tell last), s') := by
  induction h generalizing count with
  | last hEnd => rw [hLoop, hEnd, List.filterMap_nil, List.sum_nil, ByteCount.add_zero]
  | more hGain rest ih =>
      rw [hLoop, hGain, List.filterMap_cons_some hGain, List.sum_cons, ← ByteCount.add_add]
      exact ih _

end Action

namespace DataChannel

/-- What a read of a raw stream adds. Bytes add their number. Where there are none, or none in time,
the transfer ends. -/
def readGain? : Outcome IoError Bytes → Option Nat
  | .done [] => none
  | .done (b :: bs) => some (b :: bs).length
  | .failed _ => none
  | .pending => none

/-- What an event of a link adds. A binary message adds its payload, be it empty or not, and texts,
pings and pongs add nothing. A close, the end of the events, a failure and the deadline end the
transfer. -/
def eventGain? : Incident → Option Nat
  | .done (some (.binary payload)) => some payload.length
  | .done (some (.text _)) => some 0
  | .done (some (.ping _)) => some 0
  | .done (some (.pong _)) => some 0
  | .done (some .close) => none
  | .done none => none
  | .failed _ => none
  | .pending => none

/-- Whether a transfer goes on behind an event. -/
def isPassed (incident : Incident) : Bool := (eventGain? incident).isSome

section Rounds

variable {σ τ ε α : Type} {left : σ → Nat}

/-- What an answer adds to a transfer that a failure ends, and the deadline. -/
def gained (gain : α → Option Nat) : Outcome ε α → Option Nat
  | .done a => gain a
  | .failed _ => none
  | .pending => none

theorem gained_bytes (answer : Outcome IoError Bytes) :
    gained gainOfBytes answer = readGain? answer := by
  rcases answer with (_ | ⟨b, bs⟩) | e | _ <;> rfl

theorem gained_event (incident : Incident) : gained gainOfEvent incident = eventGain? incident := by
  rcases incident with (_ | event) | e | _
  · rfl
  · cases event <;> rfl
  · rfl
  · rfl

theorem countRounds_step (gain : α → Option Nat) (tell : ε → Failure) {next : Action σ ε α}
    (hFalls : ∀ s n, gained gain (next s).1 = some n → left (next s).2 < left s)
    (count : ByteCount) (s : σ) :
    countRounds left (round gain tell next) count s =
      match gained gain (next s).1 with
      | some n => countRounds left (round gain tell next) (count.add n) (next s).2
      | none => ((count, Action.verdict tell (next s).1), (next s).2) := by
  have hLess := hFalls s
  rw [countRounds, round]
  cases hNext : next s with
  | mk answer s' =>
      rw [hNext] at hLess
      cases answer with
      | failed e => rfl
      | pending => rfl
      | done a =>
          cases hGain : gain a with
          | none => simp only [gained, hGain, Outcome.toExcept?, tally, Action.verdict]
          | some n =>
              simp only [gained, hGain, Outcome.toExcept?, tally]
              exact if_pos (hLess n hGain)

/-- Counting over a state that is kept inside another one. -/
theorem countRounds_embed {left' : τ → Nat} {next : Round σ} {next' : Round τ} {embed : σ → τ}
    (hNext : ∀ s, next' (embed s) = ((next s).1, embed (next s).2))
    (hLeft : ∀ s, left' (embed s) = left s) (count : ByteCount) (s : σ) :
    countRounds left' next' count (embed s) =
      ((countRounds left next count s).1, embed (countRounds left next count s).2) := by
  induction hBound : left s using Nat.strongRecOn generalizing count s with
  | ind bound ih =>
      rw [countRounds, countRounds, hNext]
      cases hTally : tally count (next s).1.toExcept? with
      | mk count' outcome =>
          cases outcome with
          | some outcome => simp only [hTally]
          | none =>
              simp only [hTally, hLeft]
              by_cases hLess : left (next s).2 < left s
              · rw [if_pos hLess, if_pos hLess]
                exact ih _ (hBound ▸ hLess) count' (next s).2 rfl
              · rw [if_neg hLess, if_neg hLess]

end Rounds

theorem receive_raw (count : ByteCount) (s : Stream) :
    receive count (.raw s) =
      ((countRounds Stream.incoming readRound count s).1,
        .raw (countRounds Stream.incoming readRound count s).2) :=
  countRounds_embed (fun _ => rfl) (fun _ => rfl) count s

theorem receive_webSocket (count : ByteCount) (l : WebSocket.Link) :
    receive count (.webSocket l) =
      ((receiveEvents WebSocket.Link.incoming WebSocket.Link.next count l).1,
        .webSocket (receiveEvents WebSocket.Link.incoming WebSocket.Link.next count l).2) :=
  countRounds_embed (fun _ => rfl) (fun _ => rfl) count l

section Events

variable {σ : Type} {left : σ → Nat}
  {next : Action σ WebSocket.Error (Option WebSocket.Event)}

theorem exists_event_of_gain {incident : Incident} {n : Nat} (h : eventGain? incident = some n) :
    ∃ event, incident = .done (some event) := by
  rcases incident with (_ | event) | e | _
  · cases h
  · exact ⟨event, rfl⟩
  · cases h
  · cases h

theorem falls_of_gain (hFalls : Falls left next) {s : σ} {n : Nat}
    (h : eventGain? (next s).1 = some n) : left (next s).2 < left s := by
  obtain ⟨event, hEvent⟩ := exists_event_of_gain h
  exact hFalls s _ event (Prod.ext hEvent rfl)

theorem receiveEvents_step (hFalls : Falls left next) (count : ByteCount) (s : σ) :
    receiveEvents left next count s =
      match eventGain? (next s).1 with
      | some n => receiveEvents left next (count.add n) (next s).2
      | none => ((count, Action.verdict linkFailure (next s).1), (next s).2) := by
  have hStep := countRounds_step gainOfEvent linkFailure
    (fun _ _ hGain => falls_of_gain hFalls (gained_event _ ▸ hGain)) count s
  rw [gained_event] at hStep
  exact hStep

theorem exists_serves_events (hFalls : Falls left next) (s : σ) :
    ∃ before last s', next.Serves eventGain? s before last s' :=
  Action.exists_serves (fun _ _ => falls_of_gain hFalls) s

end Events

theorem incoming_of_gain {s : Stream} {n : Nat}
    (h : readGain? (Stream.read chunkSize s).1 = some n) :
    (Stream.read chunkSize s).2.incoming < s.incoming := by
  cases hRead : Stream.read chunkSize s with
  | mk r s' =>
      rw [hRead] at h
      rcases r with (_ | ⟨b, bs⟩) | e | _
      · cases h
      · have hSum := Stream.incoming_of_read hRead
        rw [List.length_cons] at hSum
        show s'.incoming < s.incoming
        omega
      · cases h
      · cases h

theorem countReads_step (count : ByteCount) (s : Stream) :
    countRounds Stream.incoming readRound count s =
      match readGain? (Stream.read chunkSize s).1 with
      | some n => countRounds Stream.incoming readRound (count.add n) (Stream.read chunkSize s).2
      | none =>
        ((count, Action.verdict Failure.ofIo (Stream.read chunkSize s).1),
          (Stream.read chunkSize s).2) := by
  have hStep := countRounds_step gainOfBytes Failure.ofIo
    (fun _ _ hGain => incoming_of_gain (gained_bytes _ ▸ hGain)) count s
  rw [gained_bytes] at hStep
  exact hStep

theorem exists_serves_reads (s : Stream) :
    ∃ before last s', (Stream.read chunkSize).Serves readGain? s before last s' :=
  Action.exists_serves (fun _ _ => incoming_of_gain) s

/-- The reads of a transfer add all bytes that arrive before the first read without any, and that
read ends it. -/
theorem gain_of_reads {s s' : Stream} {before : List (Outcome IoError Bytes)}
    {last : Outcome IoError Bytes}
    (h : (Stream.read chunkSize).Serves readGain? s before last s') :
    (before.filterMap readGain?).sum = s.ahead.length ∧ last = s.lull := by
  have hSize : 0 < chunkSize := by decide
  induction h with
  | @last s hEnd =>
      rcases Stream.read_cases hSize s with ⟨piece, s', hPiece, hRead, -, -⟩ | ⟨hNone, hLull⟩
      · rw [hRead] at hEnd
        cases piece with
        | nil => exact absurd rfl hPiece
        | cons b bs => cases hEnd
      · exact ⟨(congrArg List.length hNone).symm, hLull⟩
  | @more s s'' before last n hGain rest ih =>
      rcases Stream.read_cases hSize s with ⟨piece, s', hPiece, hRead, hAhead, hLull⟩ | ⟨-, hLull⟩
      · rw [hRead] at ih hGain ⊢
        obtain ⟨hSum, hLast⟩ := ih
        have hLength : readGain? (.done piece) = some piece.length := by
          cases piece with
          | nil => exact absurd rfl hPiece
          | cons b bs => rfl
        refine ⟨?_, hLast.trans hLull⟩
        rw [List.filterMap_cons_some hLength, List.sum_cons, hSum, hAhead, List.length_append]
      · rw [hLull, Stream.lull] at hGain
        split at hGain <;> cases hGain

/-- A listed row of incidents is served up to the first that ends the transfer, and if there is
none, up to the end of the list. -/
theorem serves_listed (listed : List Incident) :
    nextListed.Serves eventGain? listed
      (listed.takeWhile isPassed) ((listed.dropWhile isPassed).headD (.done none))
      (listed.dropWhile isPassed).tail := by
  induction listed with
  | nil => exact .last rfl
  | cons incident rest ih =>
      cases hGain : eventGain? incident with
      | none =>
          have hEnd : ¬ isPassed incident := by simp [isPassed, hGain]
          rw [List.takeWhile_cons_of_neg hEnd, List.dropWhile_cons_of_neg hEnd]
          exact .last hGain
      | some n =>
          have hPassed : isPassed incident := by simp [isPassed, hGain]
          rw [List.takeWhile_cons_of_pos hPassed, List.dropWhile_cons_of_pos hPassed]
          have hNext : eventGain? (nextListed (incident :: rest)).1 = some n := hGain
          exact .more hNext ih

/-- What receiving amounts to: the count has grown by what was gained, and wraps around at `2 ^ 64`,
and the transfer has failed exactly if the last answer was a failure. -/
structure Booked {ε α : Type} (count : ByteCount) (gained : Nat) (last : Outcome ε α)
    (result : ByteCount × Except Failure Unit) : Prop where
  total_eq : result.1.total.toNat = (count.total.toNat + gained) % 2 ^ 64
  fails_iff : (∃ e, result.2 = .error e) ↔ ∃ e, last = .failed e

theorem booked {ε α : Type} (count : ByteCount) (gained : Nat) (tell : ε → Failure)
    (last : Outcome ε α) : Booked count gained last (count.add gained, Action.verdict tell last) :=
  ⟨count.toNat_add gained, Action.verdict_eq_error_iff⟩

/-- A channel is asked until an answer ends the transfer. The count grows by exactly the payloads of
the answers before it: on a raw stream by the bytes that arrive before the first read without any,
on a WebSocket by the binary messages before the first event that ends the transfer, whatever the
events are. The transfer fails exactly if that last answer is a failure, and what was counted before
stays counted. -/
theorem receive_counts_payload (count : ByteCount) :
    (∀ s : Stream, ∃ before last s' result,
      (Stream.read chunkSize).Serves readGain? s before last s' ∧
      receive count (.raw s) = (result, .raw s') ∧
      Booked count (before.filterMap readGain?).sum last result ∧
      (before.filterMap readGain?).sum = s.ahead.length ∧ last = s.lull) ∧
    (∀ l : WebSocket.Link, ∃ before last l' result,
      WebSocket.Link.next.Serves eventGain? l before last l' ∧
      receive count (.webSocket l) = (result, .webSocket l') ∧
      Booked count (before.filterMap eventGain?).sum last result) ∧
    ∀ listed : List Incident,
      Booked count ((listed.takeWhile isPassed).filterMap eventGain?).sum
        ((listed.dropWhile isPassed).headD (.done none))
        (receiveEvents List.length nextListed count listed).1 := by
  refine ⟨fun s => ?_, fun l => ?_, fun listed => ?_⟩
  · obtain ⟨before, last, s', hServes⟩ := exists_serves_reads s
    have hLoop := hServes.loop_eq countReads_step count
    refine ⟨before, last, s', _, hServes, ?_, booked count _ Failure.ofIo last,
      gain_of_reads hServes⟩
    rw [receive_raw, hLoop]
  · have hFalls : Falls WebSocket.Link.incoming WebSocket.Link.next :=
      fun _ _ _ => WebSocket.Link.incoming_of_next
    obtain ⟨before, last, l', hServes⟩ := exists_serves_events hFalls l
    have hLoop := hServes.loop_eq (receiveEvents_step hFalls) count
    refine ⟨before, last, l', _, hServes, ?_, booked count _ linkFailure last⟩
    rw [receive_webSocket, hLoop]
  · rw [(serves_listed listed).loop_eq (receiveEvents_step falls_nextListed) count]
    exact booked count _ linkFailure _

end DataChannel

end SpeedTest
