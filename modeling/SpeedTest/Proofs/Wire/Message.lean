import SpeedTest.Wire.Message
import SpeedTest.Proofs.Json.Skipping

/-! Message bodies and back. A body holds everything that its message says, whatever texts these are
and whether or not there is a `tests` member. -/

namespace SpeedTest

open Json

namespace Message

/-- A quoted text that something follows, as a reader meets it. -/
theorem renderText_append (cs : List Char) (rest : Bytes) :
    renderText cs ++ rest = 0x22 :: (cs.flatMap escapeChar ++ 0x22 :: rest) := by
  simp [renderText]

theorem readValue_renderText (s : String) (rest : Bytes) :
    readValue (renderText s.toList ++ rest) = .ok (s, rest) := by
  rw [renderText_append, readValue, skipBlank_cons (by decide)]
  simp only [if_true, readText_flatMap_escapeChar, String.ofList_toList]

theorem readOptional_renderText (s : String) (rest : Bytes) :
    readOptional (renderText s.toList ++ rest) = .ok (some s, rest) := by
  have hValue := readValue_renderText s rest
  rw [renderText_append] at hValue ⊢
  rw [readOptional, skipBlank_cons (by decide)]
  simp only [hValue]
  rw [if_neg (by decide)]

theorem readColon_cons (rest : Bytes) : readColon (0x3A :: rest) = .ok rest := by
  rw [readColon, skipBlank_cons (by decide)]
  rfl

/-- What reading does with a member once its key is known. -/
theorem readMember_msg {d : Draft} (h : d.msg = none) (s : String) (rest : Bytes) :
    readMember d "msg".toList (0x3A :: (renderText s.toList ++ rest)) =
      .ok ({ d with msg := some s }, rest) := by
  simp [readMember, h, readColon_cons, readValue_renderText, bind, Except.bind, pure, Except.pure]

theorem readMember_tests {d : Draft} (h : d.tests = none) (s : String) (rest : Bytes) :
    readMember d "tests".toList (0x3A :: (renderText s.toList ++ rest)) =
      .ok ({ d with tests := some (some s) }, rest) := by
  simp [readMember, h, readColon_cons, readOptional_renderText, bind, Except.bind, pure,
    Except.pure]

/-- What stands in front of a member. -/
def separator (isFirst : Bool) : Bytes := if isFirst then [] else [0x2C]

theorem nextKey_separator (isFirst : Bool) (rest : Bytes) :
    nextKey isFirst (separator isFirst ++ 0x22 :: rest) = .ok (some rest, rest) := by
  cases isFirst with
  | true =>
      rw [separator, if_pos rfl, List.nil_append, nextKey, skipBlank_cons (by decide)]
      rfl
  | false =>
      rw [separator, if_neg (by decide), List.singleton_append, nextKey, skipBlank_cons (by decide)]
      simp only [skipBlank_cons (show isBlank 0x22 = false by decide)]
      rfl

/-- A member is read in one round. -/
theorem readMembers_renderMember {d d' : Draft} {name value : String} {rest : Bytes}
    (hMember :
      readMember d name.toList (0x3A :: (renderText value.toList ++ rest)) = .ok (d', rest))
    (isFirst : Bool) (rounds : Nat) :
    readMembers (rounds + 1) isFirst d (separator isFirst ++ (renderMember name value ++ rest)) =
      readMembers rounds false d' rest := by
  rw [renderMember, List.append_assoc, List.cons_append, renderText_append, readMembers,
    nextKey_separator]
  simp only [readText_flatMap_escapeChar, hMember]

theorem readMembers_end (isFirst : Bool) (d : Draft) (rounds : Nat) (rest : Bytes) :
    readMembers (rounds + 1) isFirst d (0x7D :: rest) = .ok (d, rest) := by
  rw [readMembers, nextKey, skipBlank_cons (by decide)]
  rfl

/-- Every member takes at least two bytes, so there are rounds enough. -/
theorem length_renderMember (name value : String) : 2 ≤ (renderMember name value).length := by
  simp [renderMember, renderText]
  omega

/-- A character of a text takes at most six bytes of a body. -/
theorem length_render_ofText_le (text : String) :
    (ofText text).render.length ≤ 6 * text.toList.length + 10 := by
  have hText : (text.toList.flatMap escapeChar).length ≤ 6 * text.toList.length := by
    induction text.toList with
    | nil => exact Nat.zero_le _
    | cons c cs ih =>
        have hFirst := length_escapeChar_le c
        rw [List.flatMap_cons, List.length_append, List.length_cons]
        omega
  have hName : (renderText "msg".toList).length = 5 := by decide
  simp only [ofText, render, renderMember, List.length_cons,
    List.length_append, List.length_nil, hName]
  simp only [renderText, List.length_cons, List.length_append, List.length_nil]
  omega

theorem readDraft_render (m : Message) :
    readDraft m.render = .ok (⟨some m.msg, m.tests.map some⟩, []) := by
  obtain ⟨msg, tests⟩ := m
  have hRounds (tail : Bytes) : ∃ k, (renderMember "msg" msg ++ tail).length + 1 = k + 3 := by
    apply Nat.exists_eq_add_of_le'
    rw [List.length_append]
    have hLength := length_renderMember "msg" msg
    omega
  have hMsg (rest : Bytes) := readMember_msg (d := ⟨none, none⟩) rfl msg rest
  rw [render, readDraft, skipBlank_cons (by decide)]
  simp only [if_true]
  cases tests with
  | none =>
      obtain ⟨k, hk⟩ := hRounds [0x7D]
      rw [hk]
      exact (readMembers_renderMember (hMsg _) true _).trans (readMembers_end false _ _ [])
  | some tests =>
      have hTests := readMember_tests (d := ⟨some msg, none⟩) rfl tests [0x7D]
      obtain ⟨k, hk⟩ := hRounds (0x2C :: (renderMember "tests" tests ++ [0x7D]))
      rw [hk]
      exact (readMembers_renderMember (hMsg _) true _).trans
        ((readMembers_renderMember hTests false _).trans (readMembers_end false _ _ []))

/-- A message that has been written is read as itself. -/
theorem read_render (m : Message) : read m.render = .ok m := by
  obtain ⟨msg, tests⟩ := m
  rw [read, readAll, readDraft_render]
  simp only [skipBlank, List.dropWhile_nil, Draft.toMessage]
  cases tests <;> rfl

end Message

namespace Frame

/-- A frame gives the message back that it was made from, when its kind is what was expected. -/
theorem toMessage_ofMessage (kind : Kind) (m : Message) :
    (ofMessage kind m).toMessage kind = .ok m := by
  simp [toMessage, ofMessage, Message.read_render]

end Frame

end SpeedTest
