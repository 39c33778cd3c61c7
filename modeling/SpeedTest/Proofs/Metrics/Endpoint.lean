import SpeedTest.Metrics.Endpoint
import SpeedTest.Proofs.Listener.Orderly

/-! When the loop that accepts the clients of the metrics heeds a request to stop. It does not look
at the signal before it waits, so that a request which stood before the run, and was seen then, is
news to nobody. -/

namespace SpeedTest.Metrics.Endpoint

/-- The signal as those know it who never look: once it has been set, it stays unseen. -/
def signalAfter (w : Shutdown) : Event → Shutdown
  | .set stop => w.set stop
  | .release => w.release
  | .turn _ _ => w

variable {l : Endpoint} {w : Shutdown}

/-- All that can become of a loop in its turn. It takes what the socket offers where there is
nothing to notice, and may do so where there is. -/
theorem turn_cases (l : Endpoint) (signalFirst : Bool) (offer : Offer) :
    (l.isOver = true ∧ l.turn signalFirst offer = ([], l)) ∨
      (l.isOver = false ∧ (l.shutdown.notice? = none ∨ signalFirst = false ∧ offer ≠ .nobody) ∧
        l.turn signalFirst offer = l.take offer) ∨
      ∃ n, l.isOver = false ∧ l.shutdown.notice? = some n ∧
        (signalFirst = true ∨ offer = .nobody) ∧ l.turn signalFirst offer = ([], l.heed n) := by
  cases hOver : l.isOver with
  | true => exact .inl ⟨rfl, by simp [turn, hOver]⟩
  | false =>
      cases hNotice : l.shutdown.notice? with
      | none => exact .inr (.inl ⟨rfl, .inl rfl, by simp [turn, hOver, hNotice]⟩)
      | some n =>
          by_cases hFirst : signalFirst = true ∨ offer = .nobody
          · exact .inr (.inr ⟨n, rfl, rfl, hFirst, by simp [turn, hOver, hNotice, hFirst]⟩)
          · refine .inr (.inl ⟨rfl, .inr (by simpa using hFirst), ?_⟩)
            simp [turn, hOver, hNotice, hFirst]

@[simp] theorem shutdown_take (l : Endpoint) (offer : Offer) :
    (l.take offer).2.shutdown = l.shutdown := by
  cases offer <;> rfl

theorem isOver_of_take {offer : Offer} (h : (l.take offer).2.isOver = false) :
    l.isOver = false := by
  cases offer with
  | failure cause => simp [take, isOver] at h
  | nobody => exact h
  | client peer => exact h

/-- A loop in a run: it knows the signal as it stands, and while it goes on with the signal set and
seen, what it saw was no request to stop. -/
structure Follows (l : Endpoint) (w : Shutdown) : Prop where
  signal : l.shutdown.signal = w.signal
  unseen : l.shutdown.unseen = true → w.unseen = true
  attentive : l.isOver = false → w.unseen = true → l.shutdown.unseen = false → w.requested = false

theorem Follows.start (s : Shutdown) : (start s).Follows s :=
  ⟨rfl, id, fun _ hUnseen hSeen => by simp_all [Endpoint.start]⟩

theorem Follows.requested_eq (h : l.Follows w) : l.shutdown.requested = w.requested :=
  congrArg AcceptLoop.Signal.requested h.signal

theorem Follows.held_eq (h : l.Follows w) : l.shutdown.held = w.held :=
  congrArg AcceptLoop.Signal.held h.signal

theorem Follows.set (h : l.Follows w) (stop : Bool) :
    { l with shutdown := l.shutdown.set stop }.Follows (w.set stop) := by
  cases hHeld : w.held with
  | true =>
      -- A value that has just been set is unseen.
      have hHeld' : l.shutdown.held = true := h.held_eq.trans hHeld
      refine ⟨by simp [h.signal], ?_, ?_⟩ <;> simp [Shutdown.set, hHeld, hHeld']
  | false =>
      have hHeld' : l.shutdown.held = false := h.held_eq.trans hHeld
      simpa [Shutdown.set, hHeld, hHeld'] using h

theorem Follows.release (h : l.Follows w) :
    { l with shutdown := l.shutdown.release }.Follows w.release :=
  ⟨by simp [Shutdown.signal, Shutdown.release, h.requested_eq], h.unseen, h.attentive⟩

theorem Follows.take (h : l.Follows w) (offer : Offer) : (l.take offer).2.Follows w where
  signal := by rw [shutdown_take, h.signal]
  unseen := by rw [shutdown_take]; exact h.unseen
  attentive hOpen := by rw [shutdown_take]; exact h.attentive (isOver_of_take hOpen)

theorem Follows.heed (h : l.Follows w) (n : Shutdown.Notice) : (l.heed n).Follows w := by
  cases n with
  | released => exact ⟨h.signal, h.unseen, nofun⟩
  | set =>
      refine ⟨h.signal, nofun, fun hOpen _ _ => ?_⟩
      rw [← h.requested_eq]
      cases hRequested : l.shutdown.requested with
      | true => simp [Endpoint.heed, isOver, hRequested] at hOpen
      | false => rfl

theorem Follows.turn (h : l.Follows w) (signalFirst : Bool) (offer : Offer) :
    (l.turn signalFirst offer).2.Follows w := by
  rcases turn_cases l signalFirst offer with
    ⟨-, hEq⟩ | ⟨-, -, hEq⟩ | ⟨n, -, -, -, hEq⟩
  · rw [hEq]; exact h
  · rw [hEq]; exact h.take offer
  · rw [hEq]; exact h.heed n

theorem Follows.react (h : l.Follows w) (e : Event) : (l.react e).2.Follows (signalAfter w e) := by
  cases e with
  | set stop => exact h.set stop
  | release => exact h.release
  | turn signalFirst offer => exact h.turn signalFirst offer

theorem Follows.run (h : l.Follows w) (events : List Event) :
    (l.run events).2.Follows (events.foldl signalAfter w) := by
  induction events generalizing l w with
  | nil => exact h
  | cons e rest ih => exact ih (h.react e)

/-- Whoever is accepted was on offer, and there was no news of a request or the socket came first.
-/
theorem Follows.of_mem_turn (h : l.Follows w) {signalFirst : Bool} {offer : Offer}
    {peer : SocketAddress} (hPeer : peer ∈ (l.turn signalFirst offer).1) :
    offer = .client peer ∧ l.isOver = false ∧
      (w.requested = true → w.unseen = false ∨ signalFirst = false) := by
  rcases turn_cases l signalFirst offer with
    ⟨-, hEq⟩ | ⟨hOpen, hNews, hEq⟩ | ⟨n, -, -, -, hEq⟩
  · simp [hEq] at hPeer
  · rw [hEq] at hPeer
    have hOffer : offer = .client peer := by
      cases offer <;> simp_all [Endpoint.take]
    refine ⟨hOffer, hOpen, fun hRequested => ?_⟩
    rcases hNews with hNone | ⟨hLast, -⟩
    · have hSeen := (Shutdown.notice?_eq_none_iff.mp hNone).1
      refine .inl (Bool.eq_false_iff.mpr fun hUnseen => ?_)
      simp [h.attentive hOpen hUnseen hSeen] at hRequested
    · exact .inr hLast
  · simp [hEq] at hPeer

/-- News of a request ends the loop, unless there is somebody to accept and the socket comes first.
-/
theorem Follows.turn_of_request (h : l.Follows w) {signalFirst : Bool} {offer : Offer}
    (hRequested : w.requested = true) (hUnseen : w.unseen = true)
    (hFirst : signalFirst = true ∨ offer = .nobody) :
    (l.turn signalFirst offer).1 = [] ∧ (l.turn signalFirst offer).2.isOver = true := by
  rcases turn_cases l signalFirst offer with
    ⟨hOver, hEq⟩ | ⟨hOpen, hNews, hEq⟩ | ⟨n, -, -, -, hEq⟩
  · simp [hEq, hOver]
  · exfalso
    rcases hNews with hNone | ⟨hLast, hSomebody⟩
    · have hSeen := (Shutdown.notice?_eq_none_iff.mp hNone).1
      simp [h.attentive hOpen hUnseen hSeen] at hRequested
    · rcases hFirst with hFirst | hNobody
      · simp [hFirst] at hLast
      · exact hSomebody hNobody
  · have hRequested' : l.shutdown.requested = true := h.requested_eq.trans hRequested
    rw [hEq]
    cases n <;> simp [Endpoint.heed, isOver, hRequested']

/-- The loop ends well only if it is asked to stop, or nobody is left to ask. -/
theorem Follows.of_turn_ended (h : l.Follows w) {signalFirst : Bool} {offer : Offer}
    (hOpen : l.isOver = false) (hEnd : (l.turn signalFirst offer).2.result = some (.ok ())) :
    w.requested = true ∨ w.held = false := by
  have hNone : l.result = none := by simpa [isOver] using hOpen
  rw [← h.requested_eq, ← h.held_eq]
  rcases turn_cases l signalFirst offer with
    ⟨hOver, -⟩ | ⟨-, -, hEq⟩ | ⟨n, -, hNotice, -, hEq⟩
  · simp [hOpen] at hOver
  · rw [hEq] at hEnd
    cases offer <;> simp [Endpoint.take, hNone] at hEnd
  · rw [hEq] at hEnd
    cases n with
    | set =>
        cases hRequested : l.shutdown.requested with
        | true => exact .inl rfl
        | false => simp [Endpoint.heed, hRequested] at hEnd
    | released => exact .inr (Shutdown.held_of_notice? hNotice)

/-- A loop that is over accepts nobody any more. -/
theorem run_of_isOver (hOver : l.isOver = true) (events : List Event) :
    (l.run events).1 = [] ∧ (l.run events).2.result = l.result := by
  induction events generalizing l with
  | nil => exact ⟨rfl, rfl⟩
  | cons e rest ih =>
      cases e with
      | set stop => exact ih (l := { l with shutdown := l.shutdown.set stop }) hOver
      | release => exact ih (l := { l with shutdown := l.shutdown.release }) hOver
      | turn signalFirst offer =>
          have hTurn : l.turn signalFirst offer = ([], l) := by simp [turn, hOver]
          simpa [run, react, hTurn] using ih hOver

/-- What the loop makes of the signal, in any run and whatever it knew of the signal before. Nobody
is accepted in spite of a request to stop, unless the signal has not been set since the loop began
and the request was seen before that, or the socket comes before the signal in that very turn. A
request that was set since the loop began ends it at its next turn, without anybody being accepted,
if the signal comes first or there is nobody to accept. The loop ends well only where the signal
stands at a request or nobody is left to set it, and from then on nobody is accepted. -/
theorem heeds_news_of_request (s : Shutdown) (before : List Event) (signalFirst : Bool)
    (offer : Offer) :
    let w := before.foldl signalAfter s
    let l := ((start s).run before).2
    let x := l.turn signalFirst offer
    (∀ peer ∈ x.1, offer = .client peer ∧ l.isOver = false ∧
        (w.requested = true → w.unseen = false ∨ signalFirst = false)) ∧
      (w.requested = true → w.unseen = true → signalFirst = true ∨ offer = .nobody →
        x.1 = [] ∧ x.2.isOver = true) ∧
      (l.isOver = false → x.2.result = some (.ok ()) → w.requested = true ∨ w.held = false) ∧
      (x.2.isOver = true → ∀ later, (x.2.run later).1 = [] ∧
        (x.2.run later).2.result = x.2.result) := by
  intro w l x
  have hFollows : l.Follows w := (Follows.start s).run before
  exact ⟨fun peer hPeer => hFollows.of_mem_turn hPeer,
    fun hRequested hUnseen hFirst => hFollows.turn_of_request hRequested hUnseen hFirst,
    fun hOpen hEnd => hFollows.of_turn_ended hOpen hEnd,
    fun hOver later => run_of_isOver hOver later⟩

/-- A request that stood before the loop began keeps nobody out and ends nothing. Neither does one
that is set during the run keep out whom the socket has by then, if the socket comes first. -/
theorem accepts_in_spite_of_request :
    let peer : SocketAddress := ⟨.v4 [127, 0, 0, 1], 40000⟩
    (∃ l, (start (.watching true)).run [.turn true (.client peer), .turn true .nobody] =
        ([peer], l) ∧ l.shutdown.requested = true ∧ l.isOver = false) ∧
      ∃ l, (start (.watching false)).run [.set true, .turn false (.client peer)] = ([peer], l) ∧
        l.shutdown.requested = true ∧ l.isOver = false :=
  ⟨⟨⟨⟨true, false, true⟩, none⟩, rfl, rfl, rfl⟩, ⟨⟨⟨true, true, true⟩, none⟩, rfl, rfl, rfl⟩⟩

end SpeedTest.Metrics.Endpoint
