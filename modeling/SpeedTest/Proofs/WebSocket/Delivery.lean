import SpeedTest.Proofs.WebSocket.Framing
import SpeedTest.Proofs.WebSocket.Output

/-! Messages on a link, in both directions. A client may send its messages whole or in fragments,
with pings and pongs anywhere in between, and the bytes may arrive in any pieces: the link delivers
each message once and in order. What it puts out is the messages that it is given to send, in order,
and pongs in between. -/

namespace SpeedTest.WebSocket

/-- The bytes of a client spell messages, behind the fragments of a first one if there are any. What
stands behind the last message does not matter. -/
inductive Spells : Option Bytes → List Bytes → Bytes → Prop
  | rest (trailing : Bytes) : Spells none [] trailing
  | aside {begun : Option Bytes} {messages : List Bytes} {w : Bytes} {opcode : Opcode}
      {key payload : Bytes} (hOpcode : opcode = .ping ∨ opcode = .pong) (hKey : key.length = 4)
      (hSize : payload.length ≤ 125) (next : Spells begun messages w) :
      Spells begun messages (Frame.renderMasked key ⟨true, false, opcode, payload⟩ ++ w)
  | whole {messages : List Bytes} {w key payload : Bytes} (hKey : key.length = 4)
      (next : Spells none messages w) :
      Spells none (payload :: messages)
        (Frame.renderMasked key ⟨true, false, .binary, payload⟩ ++ w)
  | first {messages : List Bytes} {w key piece : Bytes} (hKey : key.length = 4)
      (next : Spells (some piece) messages w) :
      Spells none messages (Frame.renderMasked key ⟨false, false, .binary, piece⟩ ++ w)
  | more {messages : List Bytes} {w key front piece : Bytes} (hKey : key.length = 4)
      (next : Spells (some (front ++ piece)) messages w) :
      Spells (some front) messages
        (Frame.renderMasked key ⟨false, false, .continuation, piece⟩ ++ w)
  | last {messages : List Bytes} {w key front piece : Bytes} (hKey : key.length = 4)
      (next : Spells none messages w) :
      Spells (some front) ((front ++ piece) :: messages)
        (Frame.renderMasked key ⟨true, false, .continuation, piece⟩ ++ w)

/-- The fragments of a message are its front. -/
theorem Spells.front_prefix {front w : Bytes} {messages : List Bytes}
    (h : Spells (some front) messages w) : ∃ m ∈ messages, front <+: m := by
  generalize hBegun : some front = begun at h
  induction h generalizing front with
  | rest => cases hBegun
  | aside _ _ _ _ ih => exact ih hBegun
  | whole => cases hBegun
  | first => cases hBegun
  | more _ _ ih =>
      cases hBegun
      obtain ⟨m, hMem, hFront⟩ := ih rfl
      exact ⟨m, hMem, (List.prefix_append _ _).trans hFront⟩
  | last =>
      cases hBegun
      exact ⟨_, List.mem_cons_self, List.prefix_append _ _⟩

/-- The bytes that a link puts out: messages in order, one a frame, with pongs in between. -/
inductive Utters : List Bytes → Bytes → Prop
  | nothing : Utters [] []
  | pong {messages : List Bytes} {w : Bytes} (payload : Bytes) (next : Utters messages w) :
      Utters messages (Frame.render .pong payload ++ w)
  | message {messages : List Bytes} {w : Bytes} (payload : Bytes) (next : Utters messages w) :
      Utters (payload :: messages) (Frame.render .binary payload ++ w)

theorem Utters.append {messages messages' : List Bytes} {w w' : Bytes} (h : Utters messages w)
    (h' : Utters messages' w') : Utters (messages ++ messages') (w ++ w') := by
  induction h with
  | nothing => exact h'
  | pong payload _ ih =>
      rw [List.append_assoc]
      exact .pong payload ih
  | message payload _ ih =>
      rw [List.append_assoc]
      exact .message payload ih

/-- An event delivers the first of the messages that are to come, or none of them. -/
inductive Event.Takes : Event → List Bytes → List Bytes → Prop
  | message (m : Bytes) (messages : List Bytes) : Takes (.binary m) (m :: messages) messages
  | ping (payload : Bytes) (messages : List Bytes) : Takes (.ping payload) messages messages
  | pong (payload : Bytes) (messages : List Bytes) : Takes (.pong payload) messages messages

/-- The fragments of a binary message that a link has taken in. -/
inductive Holds : Option Partial → Option Bytes → Prop
  | nothing : Holds none none
  | fragments {size : Nat} {pieces : List Bytes} {cursor : Utf8.Cursor} {front : Bytes}
      (hSize : size = front.length) (hPieces : pieces.reverse.flatten = front) :
      Holds (some ⟨false, size, pieces, cursor⟩) (some front)

theorem Holds.eq_none {p : Option Partial} (h : Holds p none) : p = none := by
  cases h
  rfl

theorem Holds.exists_eq {p : Option Partial} {front : Bytes} (h : Holds p (some front)) :
    ∃ pieces cursor, p = some ⟨false, front.length, pieces, cursor⟩ ∧
      pieces.reverse.flatten = front := by
  cases h with
  | fragments hSize hPieces => exact ⟨_, _, by rw [hSize], hPieces⟩

namespace Link

variable {l l' : Link} {w bytes : Bytes} {behind : List Arrival} {begun : Option Bytes}
  {messages : List Bytes} {f : Frame}

/-- What the link has not delivered yet begins with `w`, and no read fails before the end of `w`. -/
def Brings (l : Link) (w : Bytes) (behind : List Arrival) : Prop :=
  ∃ front, Arrival.Smooth front ∧ l.input ++ Arrival.payload front = w ∧
    l.stream.arrivals = front ++ behind

/-- How many rounds the link may need for what it has not delivered yet. -/
def effort (l : Link) : Nat := 2 * l.stream.incoming + l.input.length

/-- What becomes of a frame that has been cut off the input. -/
def takeIn (rounds : Nat) (f : Frame) : Action Link Error Event := fun l =>
  match takeFrame f l with
  | (.error e, l') => (.failed e, l')
  | (.ok (some event), l') => (.done event, l')
  | (.ok none, l') =>
    match settle l' with
    | (.done (), l'') => deliver rounds l''
    | (.failed e, l'') => (.failed e, l'')
    | (.pending, l'') => (.pending, l'')

theorem deliver_of_read? {rounds : Nat} {rest : Bytes}
    (h : Frame.read? l.input = .ok (some (f, rest))) :
    deliver (rounds + 1) l = takeIn rounds f { l with input := rest } := by
  rw [deliver, h]
  rfl

/-- The same link with other bytes in front of it: some have been read, and some cut off. -/
def fed (l : Link) (arrivals : List Arrival) (input : Bytes) : Link :=
  { l with stream := { l.stream with arrivals := arrivals }, input := input }

theorem effort_fed (l : Link) (arrivals : List Arrival) (input : Bytes) :
    (l.fed arrivals input).effort = 2 * (Arrival.payload arrivals).length + input.length := rfl

theorem incoming_fed (l : Link) (arrivals : List Arrival) (input : Bytes) :
    (l.fed arrivals input).incoming = input.length + (Arrival.payload arrivals).length := rfl

/-- A read takes a piece of what the link brings. -/
theorem Brings.read (h : l.Brings w behind) (hMore : l.input ≠ w) :
    ∃ piece arrivals, piece ≠ [] ∧
      Stream.read pieceSize l.stream = (.done piece, { l.stream with arrivals := arrivals }) ∧
      (l.fed arrivals (l.input ++ piece)).Brings w behind := by
  obtain ⟨front, hSmooth, hContent, hArrivals⟩ := h
  have hBytes : Arrival.payload front ≠ [] := by
    intro hNone
    rw [hNone, List.append_nil] at hContent
    exact hMore hContent
  have hSize : 0 < pieceSize := by decide
  obtain ⟨piece, left, hPiece, -, hFront, hLeft, hTake⟩ :=
    Arrival.take_append_of_payload_ne_nil hSize l.stream.ending hSmooth hBytes behind
  refine ⟨piece, left ++ behind, hPiece, ?_, left, hLeft, ?_, rfl⟩
  · rw [Stream.read_eq, hArrivals, hTake]
  · rw [← hContent, hFront, ← List.append_assoc]
    rfl

/-- A frame is taken in as soon as it is there, and nothing behind it is lost. -/
theorem deliver_of_whole (hWhole : Frame.read? bytes = .ok (some (f, [])))
    (h : l.Brings (bytes ++ w) behind) {rounds : Nat} (hRounds : l.effort < rounds) :
    ∃ arrivals input rounds', (l.fed arrivals input).Brings w behind ∧
      (l.fed arrivals input).effort < rounds' ∧ (l.fed arrivals input).incoming < l.incoming ∧
      deliver rounds l = takeIn rounds' f (l.fed arrivals input) := by
  induction hIncoming : l.stream.incoming using Nat.strongRecOn generalizing l rounds with
  | ind incoming ih =>
      have hPos : 0 < bytes.length := by
        apply List.length_pos_iff.mpr
        rintro rfl
        cases hWhole
      obtain ⟨rounds, rfl⟩ : ∃ r, rounds = r + 1 := ⟨rounds - 1, by omega⟩
      by_cases hThere : bytes <+: l.input
      · obtain ⟨rest, hInput⟩ := hThere
        have hRead : Frame.read? l.input = .ok (some (f, rest)) :=
          hInput ▸ Frame.read?_append_of_whole hWhole rest
        have hLength := congrArg List.length hInput
        rw [List.length_append] at hLength
        refine ⟨l.stream.arrivals, rest, rounds, ?_, ?_, ?_, deliver_of_read? hRead⟩
        · obtain ⟨front, hSmooth, hContent, hArrivals⟩ := h
          rw [← hInput, List.append_assoc, List.append_cancel_left_eq] at hContent
          exact ⟨front, hSmooth, hContent, hArrivals⟩
        · rw [effort_fed, ← Stream.incoming]
          rw [effort] at hRounds
          omega
        · rw [incoming_fed, ← Stream.incoming, Link.incoming]
          omega
      · -- The frame is not there yet, so the next round reads a piece of the stream.
        obtain ⟨missing, hMissing, hBytes⟩ :
            ∃ missing, missing ≠ [] ∧ l.input ++ missing = bytes := by
          obtain ⟨front, -, hContent, -⟩ := h
          rcases List.append_eq_append_iff.mp hContent with
            ⟨missing, hBytes, -⟩ | ⟨rest, hInput, -⟩
          · refine ⟨missing, ?_, hBytes.symm⟩
            rintro rfl
            rw [List.append_nil] at hBytes
            exact hThere (hBytes ▸ List.prefix_refl _)
          · exact absurd ⟨rest, hInput.symm⟩ hThere
        have hNone : Frame.read? l.input = .ok none :=
          Frame.read?_of_missing (hBytes.symm ▸ hWhole) hMissing
        have hMore : l.input ≠ bytes ++ w := by
          intro hInput
          exact hThere ⟨w, hInput.symm⟩
        obtain ⟨piece, arrivals, hPiece, hRead, hBrings⟩ := h.read hMore
        have hPiecePos := List.length_pos_iff.mpr hPiece
        have hLess : (Arrival.payload arrivals).length + piece.length = l.stream.incoming :=
          Stream.incoming_of_read hRead
        have hEffort : (l.fed arrivals (l.input ++ piece)).effort < rounds := by
          rw [effort_fed, List.length_append]
          rw [effort] at hRounds
          omega
        have hStream : (l.fed arrivals (l.input ++ piece)).stream.incoming < incoming := by
          change (Arrival.payload arrivals).length < incoming
          omega
        have hSame : (l.fed arrivals (l.input ++ piece)).incoming = l.incoming := by
          rw [incoming_fed, List.length_append, Link.incoming]
          omega
        obtain ⟨arrivals', input', rounds', hBrings', hEffort', hLess', hDeliver⟩ :=
          ih _ hStream hBrings hEffort rfl
        refine ⟨arrivals', input', rounds', hBrings', hEffort', hSame ▸ hLess', ?_⟩
        have hSome : piece.isEmpty = false := List.isEmpty_eq_false_iff.mpr hPiece
        rw [deliver, hNone]
        simp only [hRead, hSome, Bool.false_eq_true, if_false]
        exact hDeliver

/-- A link on which nothing has gone wrong, which has taken in the fragments `begun` of a message
and has written everything but perhaps a pong. -/
structure Ready (l : Link) (begun : Option Bytes) : Prop where
  phase : l.phase = .active
  ended : l.ended = false
  takesAll : l.stream.TakesAll
  output : l.output = []
  answer : ∀ a, l.answer = some a → ∃ payload, a = .pong payload
  begun : Holds l.begun begun

/-- A link that is going to deliver the given messages. -/
def Hears (l : Link) (messages : List Bytes) : Prop :=
  ∃ begun w behind, l.Ready begun ∧ l.Brings w behind ∧ Spells begun messages w ∧
    ∀ m ∈ messages, m.length ≤ maxFrameSize

section TakeFrame

variable (payload piece : Bytes)

theorem takeFrame_whole (hPhase : l.phase = .active) (hBegun : l.begun = none) :
    takeFrame ⟨true, false, .binary, payload⟩ l = (.ok (some (.binary payload)), l) := by
  simp [takeFrame, hPhase, Phase.canRead, Opcode.isControl, takeData, hBegun, single, Except.map]

theorem takeFrame_first (hPhase : l.phase = .active) (hBegun : l.begun = none)
    (hSize : piece.length ≤ maxMessageSize) :
    takeFrame ⟨false, false, .binary, piece⟩ l =
      (.ok none, { l with begun := some ⟨false, piece.length, [piece], .start⟩ }) := by
  simp [takeFrame, hPhase, Phase.canRead, Opcode.isControl, takeData, hBegun, Partial.extend,
    Nat.not_lt.mpr hSize]

variable {size : Nat} {pieces : List Bytes} {cursor : Utf8.Cursor}

theorem takeFrame_more (hPhase : l.phase = .active)
    (hBegun : l.begun = some ⟨false, size, pieces, cursor⟩)
    (hSize : size + piece.length ≤ maxMessageSize) :
    takeFrame ⟨false, false, .continuation, piece⟩ l =
      (.ok none,
        { l with begun := some ⟨false, size + piece.length, piece :: pieces, cursor⟩ }) := by
  simp [takeFrame, hPhase, Phase.canRead, Opcode.isControl, takeData, hBegun, Partial.extend,
    Nat.not_lt.mpr hSize]

theorem takeFrame_last (hPhase : l.phase = .active)
    (hBegun : l.begun = some ⟨false, size, pieces, cursor⟩)
    (hSize : size + piece.length ≤ maxMessageSize) :
    takeFrame ⟨true, false, .continuation, piece⟩ l =
      (.ok (some (.binary (pieces.reverse.flatten ++ piece))), { l with begun := none }) := by
  simp [takeFrame, hPhase, Phase.canRead, Opcode.isControl, takeData, hBegun, Partial.extend,
    Partial.complete, Nat.not_lt.mpr hSize]

theorem takeFrame_ping (hPhase : l.phase = .active) (hAnswer : l.answer = none)
    (hSize : payload.length ≤ 125) :
    takeFrame ⟨true, false, .ping, payload⟩ l =
      (.ok (some (.ping payload)), { l with answer := some (.pong payload) }) := by
  simp [takeFrame, hPhase, Phase.canRead, Opcode.isControl, takeControl, hold, hAnswer,
    Nat.not_lt.mpr hSize]

theorem takeFrame_pong (hPhase : l.phase = .active) (hSize : payload.length ≤ 125) :
    takeFrame ⟨true, false, .pong, payload⟩ l = (.ok (some (.pong payload)), l) := by
  simp [takeFrame, hPhase, Phase.canRead, Opcode.isControl, takeControl, Nat.not_lt.mpr hSize]

end TakeFrame

theorem takeIn_of_event {rounds : Nat} {event : Event}
    (h : takeFrame f l = (.ok (some event), l')) : takeIn rounds f l = (.done event, l') := by
  rw [takeIn, h]

/-- Behind a fragment the link goes on at once, since no answer is held back. -/
theorem takeIn_of_fragment {rounds : Nat} (h : takeFrame f l = (.ok none, l'))
    (hPhase : l'.phase = .active) (hAnswer : l'.answer = none) :
    takeIn rounds f l = deliver rounds l' := by
  rw [takeIn, h]
  simp [settle, hAnswer, hPhase, Phase.canRead]

theorem Ready.fed (h : l.Ready begun) (arrivals : List Arrival) (input : Bytes) :
    (l.fed arrivals input).Ready begun :=
  ⟨h.phase, h.ended, ⟨⟨h.takesAll.accepting.room, h.takesAll.accepting.grant⟩,
    h.takesAll.flushFault⟩, h.output, h.answer, h.begun⟩

theorem Ready.withBegun (h : l.Ready begun) {p : Option Partial} {begun' : Option Bytes}
    (hHolds : Holds p begun') : Ready { l with begun := p } begun' :=
  ⟨h.phase, h.ended, h.takesAll, h.output, h.answer, hHolds⟩

/-- An event that a link may come to with the given messages ahead, and the link behind it. Nothing
is put out, and less is to come. -/
def Comes (l : Link) (messages : List Bytes) (event : Event) (l' : Link) : Prop :=
  ∃ left, event.Takes messages left ∧ l'.Hears left ∧ l'.produced = l.produced ∧
    l'.incoming < l.incoming

theorem Comes.of_fragment {l₁ : Link} {event : Event} (h : l₁.Comes messages event l')
    (hProduced : l₁.produced = l.produced) (hLess : l₁.incoming < l.incoming) :
    l.Comes messages event l' := by
  obtain ⟨left, hTakes, hHears, hSame, hLess'⟩ := h
  exact ⟨left, hTakes, hHears, hSame.trans hProduced, Nat.lt_trans hLess' hLess⟩

/-- A link that holds back no answer delivers what the bytes ahead of it spell. -/
theorem deliver_of_spells (hSpells : Spells begun messages w) (hReady : l.Ready begun)
    (hAnswer : l.answer = none) (hBrings : l.Brings w behind)
    (hFit : ∀ m ∈ messages, m.length ≤ maxFrameSize) (hSome : messages ≠ []) {rounds : Nat}
    (hRounds : l.effort < rounds) :
    ∃ event l', deliver rounds l = (.done event, l') ∧ l.Comes messages event l' := by
  induction hSpells generalizing l rounds with
  | rest => exact absurd rfl hSome
  | @aside begun messages w opcode key payload hOpcode hKey hSize next ih =>
      have hWhole := Frame.read?_renderMasked (f := ⟨true, false, opcode, payload⟩) hKey
        (Nat.le_trans hSize (by decide))
      obtain ⟨arrivals, input, rounds', hBrings', -, hLess, hDeliver⟩ :=
        deliver_of_whole hWhole hBrings hRounds
      have hFed := hReady.fed arrivals input
      rcases hOpcode with rfl | rfl
      · have hTake := takeFrame_ping payload hFed.phase hAnswer hSize
        refine ⟨_, _, hDeliver.trans (takeIn_of_event hTake), _, .ping payload messages,
          ⟨begun, w, behind, ?_, hBrings', next, hFit⟩, rfl, hLess⟩
        refine ⟨hFed.phase, hFed.ended, hFed.takesAll, hFed.output, fun a ha => ?_, hFed.begun⟩
        cases ha
        exact ⟨payload, rfl⟩
      · have hTake := takeFrame_pong payload hFed.phase hSize
        exact ⟨_, _, hDeliver.trans (takeIn_of_event hTake), _, .pong payload messages,
          ⟨begun, w, behind, hFed, hBrings', next, hFit⟩, rfl, hLess⟩
  | @whole messages w key payload hKey next ih =>
      have hSize := hFit payload List.mem_cons_self
      have hWhole := Frame.read?_renderMasked (f := ⟨true, false, .binary, payload⟩) hKey hSize
      obtain ⟨arrivals, input, rounds', hBrings', -, hLess, hDeliver⟩ :=
        deliver_of_whole hWhole hBrings hRounds
      have hFed := hReady.fed arrivals input
      have hTake := takeFrame_whole payload hFed.phase hFed.begun.eq_none
      exact ⟨_, _, hDeliver.trans (takeIn_of_event hTake), _,
        .message payload messages, ⟨none, w, behind, hFed, hBrings', next,
          fun m hm => hFit m (List.mem_cons_of_mem _ hm)⟩, rfl, hLess⟩
  | @first messages w key piece hKey next ih =>
      obtain ⟨m, hMem, hFront⟩ := next.front_prefix
      have hSize := Nat.le_trans hFront.length_le (hFit m hMem)
      have hWhole := Frame.read?_renderMasked (f := ⟨false, false, .binary, piece⟩) hKey hSize
      obtain ⟨arrivals, input, rounds', hBrings', hEffort, hLess, hDeliver⟩ :=
        deliver_of_whole hWhole hBrings hRounds
      have hFed := hReady.fed arrivals input
      have hTake := takeFrame_first piece hFed.phase hFed.begun.eq_none
        (Nat.le_trans hSize (by decide))
      rw [hDeliver, takeIn_of_fragment hTake hFed.phase hAnswer]
      have hHolds : Holds (some ⟨false, piece.length, [piece], .start⟩) (some piece) :=
        .fragments rfl (List.append_nil piece)
      obtain ⟨event, l', hEvent, hComes⟩ :=
        ih (hFed.withBegun hHolds) hAnswer hBrings' hFit hSome hEffort
      exact ⟨event, l', hEvent, hComes.of_fragment rfl hLess⟩
  | @more messages w key front piece hKey next ih =>
      obtain ⟨m, hMem, hFront⟩ := next.front_prefix
      have hSize := Nat.le_trans hFront.length_le (hFit m hMem)
      rw [List.length_append] at hSize
      have hWhole := Frame.read?_renderMasked (f := ⟨false, false, .continuation, piece⟩) hKey
        (Nat.le_trans (Nat.le_add_left _ _) hSize)
      obtain ⟨arrivals, input, rounds', hBrings', hEffort, hLess, hDeliver⟩ :=
        deliver_of_whole hWhole hBrings hRounds
      have hFed := hReady.fed arrivals input
      obtain ⟨pieces, cursor, hBegun, hPieces⟩ := hFed.begun.exists_eq
      have hTake := takeFrame_more piece hFed.phase hBegun (Nat.le_trans hSize (by decide))
      rw [hDeliver, takeIn_of_fragment hTake hFed.phase hAnswer]
      have hHolds : Holds (some ⟨false, front.length + piece.length, piece :: pieces, cursor⟩)
          (some (front ++ piece)) :=
        .fragments (List.length_append ..).symm (by simp [hPieces])
      obtain ⟨event, l', hEvent, hComes⟩ :=
        ih (hFed.withBegun hHolds) hAnswer hBrings' hFit hSome hEffort
      exact ⟨event, l', hEvent, hComes.of_fragment rfl hLess⟩
  | @last messages w key front piece hKey next ih =>
      have hSize := hFit _ List.mem_cons_self
      rw [List.length_append] at hSize
      have hWhole := Frame.read?_renderMasked (f := ⟨true, false, .continuation, piece⟩) hKey
        (Nat.le_trans (Nat.le_add_left _ _) hSize)
      obtain ⟨arrivals, input, rounds', hBrings', -, hLess, hDeliver⟩ :=
        deliver_of_whole hWhole hBrings hRounds
      have hFed := hReady.fed arrivals input
      obtain ⟨pieces, cursor, hBegun, hPieces⟩ := hFed.begun.exists_eq
      have hTake := takeFrame_last piece hFed.phase hBegun (Nat.le_trans hSize (by decide))
      rw [hPieces] at hTake
      exact ⟨_, _, hDeliver.trans (takeIn_of_event hTake), _, .message _ messages,
        ⟨none, w, behind, hFed.withBegun .nothing, hBrings', next,
          fun m hm => hFit m (List.mem_cons_of_mem _ hm)⟩, rfl, hLess⟩

theorem Ready.of_puts (h : l.Ready begun) (hPuts : Puts l.settled bytes l')
    (hOutput : l'.output = []) : l'.Ready begun := by
  have hTakes := hPuts.takesAll h.takesAll
  obtain ⟨writes, sent, flushes, output, -⟩ := hPuts
  exact ⟨h.phase, h.ended, hTakes, hOutput, fun a ha => (by cases ha), h.begun⟩

theorem Brings.of_puts (h : l.Brings w behind) (hPuts : Puts l.settled bytes l') :
    l'.Brings w behind := by
  obtain ⟨writes, sent, flushes, output, -⟩ := hPuts
  exact h

theorem incoming_of_puts (hPuts : Puts l.settled bytes l') : l'.incoming = l.incoming := by
  obtain ⟨writes, sent, flushes, output, -⟩ := hPuts
  rfl

/-- The answer that a link holds back is a pong or none. -/
theorem Ready.utters_owed (h : l.Ready begun) : Utters [] l.owed := by
  cases hAnswer : l.answer with
  | none =>
      rw [owed_of_none hAnswer]
      exact .nothing
  | some a =>
      obtain ⟨payload, rfl⟩ := h.answer a hAnswer
      have hPong := Utters.pong payload .nothing
      rw [List.append_nil] at hPong
      rw [owed, hAnswer]
      exact hPong

/-- The next event of a link with messages ahead. A pong may go out before it. -/
theorem next_of_hears (h : l.Hears messages) (hSome : messages ≠ []) :
    ∃ event l' left bytes, next l = (.done (some event), l') ∧ event.Takes messages left ∧
      l'.Hears left ∧ l'.produced = l.produced ++ bytes ∧ Utters [] bytes ∧
      l'.incoming < l.incoming := by
  obtain ⟨begun, w, behind, hReady, hBrings, hSpells, hFit⟩ := h
  obtain ⟨l₁, hSettle, hPuts, hOutput⟩ :=
    settle_of_takesAll hReady.takesAll hReady.phase hReady.output
  have hRounds : l₁.effort < 2 * l₁.incoming + 1 := by
    rw [effort, Link.incoming]
    omega
  obtain ⟨event, l₂, hDeliver, left, hTakes, hHears, hSame, hLess⟩ :=
    deliver_of_spells hSpells (hReady.of_puts hPuts hOutput) hPuts.answer_eq
      (hBrings.of_puts hPuts) hFit hSome hRounds
  refine ⟨event, l₂, left, l.owed, ?_, hTakes, hHears, hSame.trans hPuts.produced_eq,
    hReady.utters_owed, incoming_of_puts hPuts ▸ hLess⟩
  rw [next, hReady.ended]
  simp [receive, hReady.phase, hSettle, hDeliver]

/-- A message is sent whole, with a pong behind it perhaps, and nothing that is to come is lost. -/
theorem send_of_hears (h : l.Hears messages) (payload : Bytes) :
    ∃ l' bytes, send payload l = (.done (), l') ∧ l'.Hears messages ∧
      l'.produced = l.produced ++ bytes ∧ Utters [payload] bytes := by
  obtain ⟨begun, w, behind, hReady, hBrings, hSpells, hFit⟩ := h
  obtain ⟨l', hSend, hPuts, hOutput⟩ := send_of_takesAll hReady.takesAll hReady.phase payload
  exact ⟨l', _, hSend,
    ⟨begun, w, behind, hReady.of_puts hPuts hOutput, hBrings.of_puts hPuts, hSpells, hFit⟩,
    hPuts.produced_eq, .message payload hReady.utters_owed⟩

/-- What a link has put out has been written. -/
theorem Hears.written_eq (h : l.Hears messages) : l.stream.written = l.produced := by
  obtain ⟨begun, w, behind, hReady, -⟩ := h
  rw [produced, hReady.output, List.append_nil]

end Link

end SpeedTest.WebSocket

namespace SpeedTest

open WebSocket (Link Utters)

/-- The next message is decoded, however many pings and pongs come before it. -/
theorem frameOfEvents_of_hears {l : Link} {m : Bytes} {messages : List Bytes}
    (h : l.Hears (m :: messages)) :
    ∃ l' bytes, frameOfEvents Link.incoming Link.next l = Action.ofExcept (Frame.decode m) l' ∧
      l'.Hears messages ∧ l'.produced = l.produced ++ bytes ∧ Utters [] bytes := by
  induction hIncoming : l.incoming using Nat.strongRecOn generalizing l with
  | ind incoming ih =>
      obtain ⟨event, l₁, left, bytes, hNext, hTakes, hHears, hProduced, hUtters, hLess⟩ :=
        Link.next_of_hears h (List.cons_ne_nil m messages)
      rw [frameOfEvents, hNext]
      cases hTakes with
      | message => exact ⟨l₁, bytes, rfl, hHears, hProduced, hUtters⟩
      | ping payload | pong payload =>
          obtain ⟨l₂, bytes', hFrame, hHears', hProduced', hUtters'⟩ :=
            ih l₁.incoming (hIncoming ▸ hLess) hHears rfl
          refine ⟨l₂, bytes ++ bytes', ?_, hHears', ?_, hUtters.append hUtters'⟩
          · simp only [if_pos hLess]
            exact hFrame
          · rw [hProduced', hProduced, List.append_assoc]

end SpeedTest
