import SpeedTest.Route
import SpeedTest.Proofs.Stream.Inward
import SpeedTest.Proofs.Wire.Framing

/-! Looking at the first bytes of a stream. They choose the route and stay where they are, so that
whoever takes the stream over sees it from its first byte on. -/

namespace SpeedTest.Route

open Program (Answering)

theorem three_le_of_httpLead {w : Bytes} (h : httpLead <+: w) : 3 ≤ w.length := by
  have hLength : httpLead.length = 3 := by decide
  have hLe := h.length_le
  omega

/-- The route of HTTP is for clients that open with `GET`. Fewer bytes than that are not enough. -/
theorem ofLead_take (w : Bytes) :
    ofLead (w.take leadLength) = if httpLead <+: w then .http else .legacy := by
  have hLength : httpLead.length = leadLength := by decide
  have hLead : w.take leadLength = httpLead ↔ httpLead <+: w := by
    rw [List.prefix_iff_eq_take, hLength]
    exact eq_comm
  simp only [ofLead, hLead]

/-- No frame opens like an HTTP request. -/
theorem not_httpLead_of_encode {f : Frame} {bytes : Bytes} (h : f.encode = .ok bytes)
    (behind : Bytes) : ¬ httpLead <+: bytes ++ behind := by
  obtain ⟨-, rfl⟩ := Frame.encode_eq_ok h
  rintro ⟨rest, hEq⟩
  have hFirst : (0x47 : UInt8) = f.kind.byte := (List.cons.inj hEq).1
  cases hKind : f.kind <;> rw [hKind] at hFirst <;> exact absurd hFirst (by decide)

theorem inward_sniff : Inward sniff := by
  apply (Inward.peek leadLength).bind
  intro lead
  exact Inward.pure (ofLead lead)

/-- Looking at the first bytes of a stream that ends behind `w` takes none of them away. -/
theorem sniff_of_delivers {p : PeekStream} {w : Bytes} {rest : Stream} (h : p.Delivers w rest)
    (hEnd : rest.AtEnd) :
    ∃ p', sniff p = (.done (if httpLead <+: w then .http else .legacy), p') ∧
      p'.Delivers w rest := by
  obtain ⟨p', hPeek, hDelivers⟩ := h.peek hEnd leadLength
  refine ⟨p', ?_, hDelivers⟩
  rw [sniff, Action.bind_apply, hPeek]
  simp only [Action.pure_apply, ofLead_take]

variable {X : Type} {R : X → Type} {ξ : Type} (tests : Session.Tests R) (world : Answering X R ξ)
  (uplink : Uplink) (peer : SocketAddress) (outside : ξ)

/-- Once a route has been chosen, all that follows happens on the stream that was looked at. -/
theorem handle_of_sniff {s : Stream} {isHttp : Prop} [Decidable isHttp] {p : PeekStream}
    (h : sniff (.ofStream s) = (.done (if isHttp then .http else .legacy), p)) :
    handle tests world uplink peer s outside =
      if isHttp then forward uplink peer p outside else converse tests world peer p outside := by
  rw [handle, h]
  by_cases hHttp : isHttp
  · simp only [if_pos hHttp]
  · simp only [if_neg hHttp]

/-- A read that fails before three bytes have arrived. -/
theorem handle_of_failure {s : Stream} {front behind : List Arrival} {e : IoError}
    (hArrivals : s.arrivals = front ++ .failure e :: behind) (hFront : Arrival.Smooth front)
    (hShort : (Arrival.payload front).length < leadLength) :
    handle tests world uplink peer s outside =
      ⟨.abandoned, { s with arrivals := behind }, [sniffEntry peer e], [], outside⟩ := by
  have hDelivers : (PeekStream.ofStream s).Delivers (Arrival.payload front)
      { s with arrivals := .failure e :: behind } := .ofStream hFront (by simp [← hArrivals])
  have hPeek := hDelivers.peek_failure rfl hShort
  rw [handle, sniff, Action.bind_apply, hPeek]

end SpeedTest.Route
