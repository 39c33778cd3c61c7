import SpeedTest.Proofs.Http.Target
import SpeedTest.Proofs.WebSocket.Offers
import SpeedTest.Proofs.WebSocket.Output

/-! How the request for a WebSocket connection is answered. Only the served path opens one, and the
answer names the sub-protocol of speed tests exactly if the request offers it. -/

namespace SpeedTest

namespace Base64

theorem le_letter {n : Nat} (h : n < 64) : 0x2B ≤ (letter n).toNat := by
  have hAll : ∀ n < 64, 0x2B ≤ (letter n).toNat := by decide
  exact hAll n h

theorem le_of_mem_letters {n : Nat} {b : UInt8} (h : b ∈ letters n) : 0x2B ≤ b.toNat := by
  simp only [letters, List.mem_cons, List.not_mem_nil, or_false] at h
  rcases h with rfl | rfl | rfl | rfl <;> exact le_letter (Nat.mod_lt _ (by decide))

/-- No byte of a base64 text is a blank or a control character. -/
theorem le_of_mem_encode {bs : Bytes} {b : UInt8} (h : b ∈ encode bs) : 0x2B ≤ b.toNat := by
  have hPadding : 0x2B ≤ padding.toNat := by decide
  fun_induction encode bs with
  | case1 x y z rest ih =>
      rcases List.mem_append.mp h with h | h
      · exact le_of_mem_letters h
      · exact ih h
  | case2 x y =>
      rcases List.mem_append.mp h with h | h
      · exact le_of_mem_letters (List.mem_of_mem_take h)
      · rw [List.mem_singleton] at h
        exact h ▸ hPadding
  | case3 x =>
      rcases List.mem_append.mp h with h | h
      · exact le_of_mem_letters (List.mem_of_mem_take h)
      · simp only [List.mem_cons, List.not_mem_nil, or_false, or_self] at h
        exact h ▸ hPadding
  | case4 => cases h

end Base64

namespace WebSocket

variable {s t : Stream} {r q : Request} {h g : Http.Head}

/-- The field in which a request offers sub-protocols. -/
def protocolField : String := "Sec-WebSocket-Protocol"

/-- The line of an answer that names a sub-protocol. -/
def protocolLine (name : Bytes) : Bytes := Bytes.ofAscii "sec-websocket-protocol: " ++ name

/-- A text of lines, each up to a carriage return and a line feed. -/
structure IsLines (lines : List Bytes) (text : Bytes) : Prop where
  text_eq : text = lines.flatMap (· ++ [0x0D, 0x0A])
  plain : ∀ l ∈ lines, 0x0D ∉ l ∧ 0x0A ∉ l

/-- The stream brings a request with that head, and nothing behind it has been taken in when it is
answered. -/
def Brings (s : Stream) (h : Http.Head) : Prop :=
  ∃ got, Http.Head.read? maxFields (fun t => (Utf8.decodeChars? t).isSome) got =
      .ok (some (h, [])) ∧
    Arrival.payload s.arrivals =
      got ++ Arrival.payload (readRequest maxPieces 0 [] s).2.arrivals

/-- How the attempt to open a connection ends, and what is written in its course. -/
structure Replies (s : Stream) (outcome : Outcome Error Unit) (text : Bytes) : Prop where
  outcome_eq : (upgrade s).1 = outcome
  written_eq : (upgrade s).2.written = s.written ++ text

/-- Two requests whose offers hold visible characters only and have the same elements, however these
are ordered and spread over fields. -/
structure SameOffers (h g : Http.Head) : Prop where
  visible : ∀ value ∈ h.values protocolField, IsVisible value
  visible' : ∀ value ∈ g.values protocolField, IsVisible value
  same : ∀ element, element ∈ (h.values protocolField).flatMap elements ↔
    element ∈ (g.values protocolField).flatMap elements

theorem SameOffers.offersSubProtocol_eq (hSame : SameOffers h g) :
    offersSubProtocol h = offersSubProtocol g := by
  rw [Bool.eq_iff_iff, offersSubProtocol_iff, offersSubProtocol_iff]
  exact lists_congr hSame.visible hSame.visible' hSame.same _

/-- What a request that was found in bytes says about them. -/
theorem requestIn?_eq_some {got : Bytes} (hRequest : requestIn? got = .ok (some r)) :
    ∃ h, Http.Head.read? maxFields (fun t => (Utf8.decodeChars? t).isSome) got =
        .ok (some (h, [])) ∧
      Http.Target.path h.target = .ok r.path ∧ r.offered = offersSubProtocol h := by
  unfold requestIn? at hRequest
  split at hRequest
  · cases hRequest
  · cases hRequest
  · cases hRequest
  · rename_i h behind hHead
    unfold checkHead at hRequest
    split at hRequest
    · cases hRequest
    split at hRequest
    · cases hRequest
    split at hRequest
    · cases hRequest
    · rename_i path hPath
      split at hRequest
      · cases hRequest
      · rename_i hNone
        rw [ne_eq, not_not] at hNone
        subst hNone
        split at hRequest
        · cases hRequest
        · cases hRequest
          exact ⟨h, hHead, hPath, rfl⟩

/-- A request is read by taking its bytes off the stream, and nothing else happens to it. -/
theorem readRequest_spec {left pieces : Nat} {got : Bytes} {s' : Stream}
    (hRequest : readRequest left pieces got s = (.done r, s')) :
    ∃ more, requestIn? (got ++ more) = .ok (some r) ∧
      Arrival.payload s.arrivals = more ++ Arrival.payload s'.arrivals ∧
      ∃ arrivals, s' = { s with arrivals := arrivals } := by
  have hTaken {s s₁ : Stream} {bs : Bytes}
      (hRead : Stream.read requestPieceSize s = (.done bs, s₁)) :
      Arrival.payload s.arrivals = bs ++ Arrival.payload s₁.arrivals ∧
        ∃ arrivals, s₁ = { s with arrivals := arrivals } := by
    have hFront := Stream.front_of_read Arrival.payload Arrival.payload_chunk hRead
    rw [Stream.read_eq] at hRead
    exact ⟨hFront, _, (Prod.mk.inj hRead).2.symm⟩
  fun_induction readRequest left pieces got s with
  | case1 | case2 | case3 | case4 | case5 | case7 => cases hRequest
  | case6 left pieces got s bs s₁ hRead _ _ _ q hFound =>
      cases hRequest
      obtain ⟨hFront, hState⟩ := hTaken hRead
      exact ⟨bs, hFound, hFront, hState⟩
  | case8 pieces got s bs s₁ hRead _ _ _ left _ ih =>
      obtain ⟨more, hFound, hFront, arrivals, rfl⟩ := ih hRequest
      obtain ⟨hFirst, arrivals', rfl⟩ := hTaken hRead
      refine ⟨bs ++ more, ?_, ?_, arrivals, rfl⟩
      · rw [← List.append_assoc]
        exact hFound
      · rw [hFirst, hFront, List.append_assoc]

theorem exists_brings {s' : Stream} (hRequest : readRequest maxPieces 0 [] s = (.done r, s')) :
    ∃ h, Brings s h ∧ Http.Target.Names h.target r.path ∧ r.offered = offersSubProtocol h := by
  obtain ⟨got, hGot, hPayload, -⟩ := readRequest_spec hRequest
  obtain ⟨h, hHead, hPath, hOffered⟩ := requestIn?_eq_some hGot
  refine ⟨h, ⟨got, hHead, ?_⟩, Http.Target.names_of_path hPath, hOffered⟩
  rw [hRequest, hPayload]

/-- A stream brings one request at most. -/
theorem Brings.unique (hFirst : Brings s h) (hSecond : Brings s g) : h = g := by
  obtain ⟨got, hHead, hPayload⟩ := hFirst
  obtain ⟨got', hHead', hPayload'⟩ := hSecond
  obtain rfl := List.append_cancel_right (hPayload.symm.trans hPayload')
  rw [hHead] at hHead'
  cases hHead'
  rfl

theorem answer_of_takesAll (hTakes : s.TakesAll) (text : Bytes) :
    ∃ s', answer text s = (.done (), s') ∧ s'.written = s.written ++ text := by
  obtain ⟨writes, sent, hWrite, hSent⟩ := hTakes.accepting.writeAll text
  refine ⟨{ s with writes := writes, sent := sent, flushes := s.flushes + 1 }, ?_, hSent⟩
  simp [answer, Action.bind_apply, Action.mapError, hWrite, Stream.flush, hTakes.flushFault]

/-- What a request is answered with, on a stream that takes the answer. -/
theorem replies_of_request (hTakes : s.TakesAll)
    (hRequest : (readRequest maxPieces 0 [] s).1 = .done r) :
    Replies s (if r.path = servedPath then .done () else .failed (.refused notFound))
      (if r.path = servedPath then acceptance r.key r.offered else refusal) := by
  obtain ⟨s', hRead⟩ : ∃ s', readRequest maxPieces 0 [] s = (.done r, s') :=
    ⟨_, Prod.ext hRequest rfl⟩
  obtain ⟨-, -, -, arrivals, rfl⟩ := readRequest_spec hRead
  have hTakes' : Stream.TakesAll { s with arrivals := arrivals } :=
    ⟨⟨hTakes.accepting.room, hTakes.accepting.grant⟩, hTakes.flushFault⟩
  have hUpgrade : upgrade s =
      (if r.path = servedPath then answer (acceptance r.key r.offered)
        else do answer refusal; Action.fail (.refused notFound))
          { s with arrivals := arrivals } := by
    rw [upgrade, Action.bind_apply, hRead]
  by_cases hPath : r.path = servedPath
  · obtain ⟨s', hAnswer, hWritten⟩ := answer_of_takesAll hTakes' (acceptance r.key r.offered)
    rw [if_pos hPath, if_pos hPath]
    rw [if_pos hPath, hAnswer] at hUpgrade
    exact ⟨congrArg Prod.fst hUpgrade, (congrArg (·.2.written) hUpgrade).trans hWritten⟩
  · obtain ⟨s', hAnswer, hWritten⟩ := answer_of_takesAll hTakes' refusal
    rw [if_neg hPath, if_neg hPath]
    rw [if_neg hPath, Action.bind_apply, hAnswer] at hUpgrade
    exact ⟨congrArg Prod.fst hUpgrade, (congrArg (·.2.written) hUpgrade).trans hWritten⟩

/-- The lines of the answer that changes protocols. -/
def acceptanceLines (key : Bytes) (offered : Bool) : List Bytes :=
  [Bytes.ofAscii "HTTP/1.1 101 Switching Protocols", Bytes.ofAscii "connection: Upgrade",
    Bytes.ofAscii "upgrade: websocket", Bytes.ofAscii "sec-websocket-accept: " ++ acceptKey key]
    ++ (if offered then [protocolLine (Bytes.ofAscii subProtocol)] else []) ++ [[]]

theorem ofAscii_append (front back : String) :
    Bytes.ofAscii (front ++ back) = Bytes.ofAscii front ++ Bytes.ofAscii back := by
  simp [Bytes.ofAscii]

theorem isLines_acceptance (key : Bytes) (offered : Bool) :
    IsLines (acceptanceLines key offered) (acceptance key offered) := by
  constructor
  · cases offered <;>
      simp [acceptance, acceptanceLines, line, protocolLine, ofAscii_append]
  · have hKey {b : UInt8} (hControl : b.toNat < 0x2B)
        (hLead : b ∉ Bytes.ofAscii "sec-websocket-accept: ") :
        b ∉ Bytes.ofAscii "sec-websocket-accept: " ++ acceptKey key := by
      intro hMem
      rcases List.mem_append.mp hMem with hMem | hMem
      · exact hLead hMem
      · exact absurd (Base64.le_of_mem_encode hMem) (Nat.not_le.mpr hControl)
    rw [acceptanceLines]
    simp only [List.forall_mem_append, List.forall_mem_cons]
    refine ⟨⟨⟨by decide, by decide, by decide, ?_, nofun⟩, ?_⟩, by decide, nofun⟩
    · exact ⟨hKey (by decide) (by decide), hKey (by decide) (by decide)⟩
    · cases offered <;> decide

/-- Texts that begin differently are different. -/
theorem append_ne_append {front front' : Bytes} (n : Nat) (hLength : n ≤ front.length)
    (hLength' : n ≤ front'.length) (hLead : front.take n ≠ front'.take n) (back back' : Bytes) :
    front ++ back ≠ front' ++ back' := by
  intro hSame
  have hTake := congrArg (List.take n) hSame
  rw [List.take_append_of_le_length hLength, List.take_append_of_le_length hLength'] at hTake
  exact hLead hTake

/-- The answer names no sub-protocol but that of speed tests, and that only if it was offered. -/
theorem mem_acceptanceLines {key name : Bytes} {offered : Bool} :
    protocolLine name ∈ acceptanceLines key offered ↔
      offered = true ∧ name = Bytes.ofAscii subProtocol := by
  have hOther (front back : Bytes) (hLength : 15 ≤ front.length)
      (hLead : (Bytes.ofAscii "sec-websocket-protocol: ").take 15 ≠ front.take 15) :
      protocolLine name ≠ front ++ back :=
    append_ne_append 15 (by decide) hLength hLead name back
  have hStatus := hOther (Bytes.ofAscii "HTTP/1.1 101 Switching Protocols") []
    (by decide) (by decide)
  have hConnection := hOther (Bytes.ofAscii "connection: Upgrade") [] (by decide) (by decide)
  have hUpgrade := hOther (Bytes.ofAscii "upgrade: websocket") [] (by decide) (by decide)
  have hAccept := hOther (Bytes.ofAscii "sec-websocket-accept: ") (acceptKey key) (by decide)
    (by decide)
  have hBlank : protocolLine name ≠ [] := List.append_ne_nil_of_left_ne_nil (by decide) name
  rw [List.append_nil] at hStatus hConnection hUpgrade
  simp only [acceptanceLines, List.mem_append, List.mem_cons, List.not_mem_nil, hStatus,
    hConnection, hUpgrade, hAccept, hBlank, or_false, false_or]
  cases offered with
  | false => simp
  | true => simp [protocolLine]

/-- A request that the handshake accepts names one path, and opens a connection exactly if that
path, without any query, is the served one; otherwise it is answered by a refusal. The answer that
opens a connection names the sub-protocol of speed tests exactly if that is an element of one of the
visible values with which the request offers sub-protocols, and it names no other. The order of the
fields and of their elements, and how these are spread over the fields, do not matter. -/
theorem upgrade_negotiates (hTakes : s.TakesAll)
    (hRequest : (readRequest maxPieces 0 [] s).1 = .done r) :
    ∃ h, Brings s h ∧ (∀ path, Http.Target.Names h.target path ↔ path = r.path) ∧
      (r.path = servedPath → ∃ text lines, Replies s (.done ()) text ∧ IsLines lines text ∧
        lines.head? = some (Bytes.ofAscii "HTTP/1.1 101 Switching Protocols") ∧
        ∀ name, protocolLine name ∈ lines ↔
          Lists (h.values protocolField) (Bytes.ofAscii "ndt") ∧ name = Bytes.ofAscii "ndt") ∧
      (r.path ≠ servedPath → ∃ text, Replies s (.failed (.refused "404 Not Found"))
        (line "HTTP/1.1 404 Not Found" ++ text)) ∧
      (∀ (t : Stream) (q : Request) (g : Http.Head), t.TakesAll →
        (readRequest maxPieces 0 [] t).1 = .done q → Brings t g → q.path = r.path → q.key = r.key →
        SameOffers h g → ∃ outcome text, Replies s outcome text ∧ Replies t outcome text) ∧
      ∀ values : List Bytes, values ≠ [] →
        elements ([0x2C].intercalate values) = values.flatMap elements := by
  obtain ⟨h, hBrings, hNames, hOffered⟩ := exists_brings (Prod.ext hRequest rfl)
  have hReplies := replies_of_request hTakes hRequest
  have hPaths (path : Bytes) : Http.Target.Names h.target path ↔ path = r.path :=
    ⟨fun hPath => hPath.unique hNames, fun hPath => hPath ▸ hNames⟩
  refine ⟨h, hBrings, hPaths, fun hPath => ?_, fun hPath => ?_, ?_, fun _ => elements_intercalate⟩
  · rw [if_pos hPath, if_pos hPath] at hReplies
    refine ⟨_, _, hReplies, isLines_acceptance r.key r.offered, rfl, fun name => ?_⟩
    rw [mem_acceptanceLines, hOffered, offersSubProtocol_iff]
    rfl
  · rw [if_neg hPath, if_neg hPath] at hReplies
    rw [refusal, List.append_assoc] at hReplies
    exact ⟨_, hReplies⟩
  · intro t q g hTakes' hRequest' hBrings' hPath hKey hSame
    obtain ⟨g', hBrings'', -, hOffered'⟩ := exists_brings (Prod.ext hRequest' rfl)
    obtain rfl := hBrings'.unique hBrings''
    have hReplies' := replies_of_request hTakes' hRequest'
    rw [hPath, hKey, hOffered', ← hSame.offersSubProtocol_eq, ← hOffered] at hReplies'
    exact ⟨_, _, hReplies, hReplies'⟩

/-- A request that offers the sub-protocol as the second element of its second field, with blanks
around it, and whose first field is not visible. -/
def lateOffer : Bytes :=
  [line "GET /ndt_protocol?x=1 HTTP/1.1", line "Connection: keep-alive, Upgrade",
    line "Upgrade: WebSocket", line "Sec-WebSocket-Version: 13", line "Sec-WebSocket-Key: AAAA",
    Bytes.ofAscii "Sec-WebSocket-Protocol: ndt," ++ [0xFF, 0x0D, 0x0A],
    Bytes.ofAscii "sec-websocket-protocol: ndt2," ++ [0x09] ++ line "ndt ,", line ""].flatten

theorem upgrade_negotiates_of_late_offer :
    let s : Stream := .ofArrivals [.chunk lateOffer] .finished
    s.TakesAll ∧ ∃ h, Brings s h ∧
      h.values protocolField = [Bytes.ofAscii "ndt," ++ [0xFF], Bytes.ofAscii "ndt2,\tndt ,"] ∧
      ∃ text lines, Replies s (.done ()) text ∧ IsLines lines text ∧
        protocolLine (Bytes.ofAscii "ndt") ∈ lines := by
  intro s
  have hTakes : s.TakesAll := ⟨⟨rfl, nofun⟩, fun _ => rfl⟩
  have hRequest : (readRequest maxPieces 0 [] s).1 =
      .done ⟨servedPath, Bytes.ofAscii "AAAA", true⟩ := by decide +kernel
  have hRest : Arrival.payload (readRequest maxPieces 0 [] s).2.arrivals = [] := by decide +kernel
  have hFields : (Http.Head.read? maxFields (fun t => (Utf8.decodeChars? t).isSome) lateOffer).map
      (Option.map fun x => x.1.values protocolField) =
        .ok (some [Bytes.ofAscii "ndt," ++ [0xFF], Bytes.ofAscii "ndt2,\tndt ,"]) := by
    decide +kernel
  obtain ⟨h, hBrings, -, hServed, -⟩ := upgrade_negotiates hTakes hRequest
  obtain ⟨text, lines, hReplies, hLines, -, hNames⟩ := hServed rfl
  have hValues : h.values protocolField =
      [Bytes.ofAscii "ndt," ++ [0xFF], Bytes.ofAscii "ndt2,\tndt ,"] := by
    obtain ⟨got, hHead, hPayload⟩ := hBrings
    rw [hRest, List.append_nil] at hPayload
    have hGot : got = lateOffer := hPayload.symm.trans (List.append_nil lateOffer)
    rw [hGot] at hHead
    rw [hHead] at hFields
    exact Option.some.inj (Except.ok.inj hFields)
  have hAll : ((Bytes.ofAscii "ndt2,\tndt ,").all fun b =>
      decide (b.toNat = 0x09 ∨ 0x20 ≤ b.toNat ∧ b.toNat ≤ 0x7E)) = true := by decide
  have hVisible : IsVisible (Bytes.ofAscii "ndt2,\tndt ,") := fun b hb =>
    of_decide_eq_true (List.all_eq_true.mp hAll b hb)
  refine ⟨hTakes, h, hBrings, hValues, text, lines, hReplies, hLines, (hNames _).mpr ⟨?_, rfl⟩⟩
  rw [hValues]
  exact ⟨_, List.mem_cons_of_mem _ List.mem_cons_self, hVisible, by decide⟩

end WebSocket

end SpeedTest
