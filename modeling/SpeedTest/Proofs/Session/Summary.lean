import SpeedTest.Proofs.Connection.Sending
import SpeedTest.Proofs.Number.Accuracy
import SpeedTest.Proofs.Wire.Inverse
import SpeedTest.Proofs.Wire.Message
import SpeedTest.Session.Result

/-! The line that reports the rates of a session. Whatever the two numbers are, infinite ones and
those that are no numbers among them, the line is a short ASCII text, so that it fits into a frame
and is read from it again. -/

namespace SpeedTest

namespace SessionResult

theorem summary_eq (r : SessionResult) :
    r.summary = "You uploaded at " ++ r.upload.fixed ratePlaces ++ " and downloaded at " ++
      r.download.fixed ratePlaces := by
  have hOpening : "You uploaded at " = "You " ++ "uploaded at " := by decide
  rw [summary, phrase, hOpening]
  simp only [String.append_assoc]

theorem toList_summary (r : SessionResult) :
    r.summary.toList = "You uploaded at ".toList ++ (r.upload.fixedChars ratePlaces ++
      (" and downloaded at ".toList ++ r.download.fixedChars ratePlaces)) := by
  rw [summary_eq]
  simp only [Binary64.fixed, String.toList_append, String.toList_ofList, List.append_assoc]

theorem length_summary_le (r : SessionResult) : r.summary.toList.length ≤ 733 := by
  have hPlaces : 0 < ratePlaces := by decide
  have hUp := r.upload.length_fixedChars_le hPlaces
  have hDown := r.download.length_fixedChars_le hPlaces
  rw [toList_summary]
  simp only [List.length_append, show "You uploaded at ".toList.length = 16 from by decide,
    show " and downloaded at ".toList.length = 19 from by decide]
  unfold ratePlaces at *
  omega

theorem toNat_lt_of_mem_summary {r : SessionResult} {c : Char} (h : c ∈ r.summary.toList) :
    c.toNat < 0x80 := by
  have hFirst : ∀ c ∈ "You uploaded at ".toList, c.toNat < 0x80 := toNat_lt_of_all (by decide)
  have hSecond : ∀ c ∈ " and downloaded at ".toList, c.toNat < 0x80 := toNat_lt_of_all (by decide)
  rw [toList_summary, List.mem_append, List.mem_append, List.mem_append] at h
  obtain h | h | h | h := h
  · exact hFirst c h
  · exact Binary64.toNat_lt_of_mem_fixedChars h
  · exact hSecond c h
  · exact Binary64.toNat_lt_of_mem_fixedChars h

/-- The line of two rates is an ASCII text that fits into a frame and is read from it again, so that
sending it never fails for its length. If the rates are finite, the figures in it are at most half a
unit of their fourth places away from them. -/
theorem summary_fits_and_rounds (r : SessionResult) :
    (∀ c ∈ r.summary.toList, c.toNat < 0x80) ∧
    (Frame.ofMessage .results (.ofText r.summary)).body.length ≤ 65535 ∧
    (∃ buf f, (Frame.ofMessage .results (.ofText r.summary)).encode = .ok buf ∧
      Frame.decode buf = .ok f ∧ f.toMessage .results = .ok (.ofText r.summary)) ∧
    (∀ c size, (Connection.send .results r.summary c).1 ≠ .failed (.frameTooLarge size)) ∧
    (r.upload.isFinite = true → r.download.isFinite = true →
      ∃ (up down : String) (u d : ℚ),
        r.summary = "You uploaded at " ++ up ++ " and downloaded at " ++ down ∧
        readFigure? up.toList = some u ∧ readFigure? down.toList = some d ∧
        |u - r.upload.value| ≤ 1 / 20000 ∧ |d - r.download.value| ≤ 1 / 20000) := by
  have hFits : (Frame.ofMessage .results (.ofText r.summary)).body.length ≤ 65535 := by
    have hBody := Message.length_render_ofText_le r.summary
    have hLength := r.length_summary_le
    exact Nat.le_trans hBody (by omega)
  have hEncode : (Frame.ofMessage .results (.ofText r.summary)).encode = .ok _ := if_pos hFits
  refine ⟨fun c => toNat_lt_of_mem_summary, hFits, ⟨_, _, hEncode,
    (Frame.decode_eq_ok_iff _ _).mpr hEncode, Frame.toMessage_ofMessage _ _⟩, ?_, ?_⟩
  · intro c size hFailed
    exact Connection.failsWith_write hFits c _ hFailed size rfl
  · intro hUp hDown
    have hHalf : 1 / 2 / 10 ^ ratePlaces = (1 / 20000 : ℚ) := by norm_num [ratePlaces]
    have hPlaces : 0 < ratePlaces := by decide
    obtain ⟨u, hReadUp, hErrorUp⟩ := Binary64.fixed_error hUp hPlaces
    obtain ⟨d, hReadDown, hErrorDown⟩ := Binary64.fixed_error hDown hPlaces
    exact ⟨_, _, u, d, r.summary_eq, hReadUp, hReadDown, hHalf ▸ hErrorUp, hHalf ▸ hErrorDown⟩

theorem summary_fits_and_rounds_largest :
    let r : SessionResult := ⟨⟨0x7FEFFFFFFFFFFFFF⟩, ⟨0x3FF8000000000000⟩⟩
    r.upload.isFinite = true ∧ r.download.isFinite = true ∧
      ∃ (up down : String) (u d : ℚ),
        r.summary = "You uploaded at " ++ up ++ " and downloaded at " ++ down ∧
        readFigure? up.toList = some u ∧ readFigure? down.toList = some d ∧
        |u - r.upload.value| ≤ 1 / 20000 ∧ |d - r.download.value| ≤ 1 / 20000 := by
  intro r
  have hUp : r.upload.isFinite = true := by decide
  have hDown : r.download.isFinite = true := by decide
  obtain ⟨-, -, -, -, hAccurate⟩ := summary_fits_and_rounds r
  exact ⟨hUp, hDown, hAccurate hUp hDown⟩

end SessionResult

end SpeedTest
