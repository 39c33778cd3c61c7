import Mathlib.Data.List.Basic
import SpeedTest.WebSocket.Upgrade

/-! Which sub-protocols a request offers. Its fields are lists whose elements commas separate, with
blanks around them; a field with any byte that is not visible ASCII, a space or a tab offers
nothing. Only which elements there are matters, and not in which fields or in which order. -/

namespace SpeedTest.WebSocket

/-- A value of visible ASCII characters, spaces and tabs. -/
def IsVisible (value : Bytes) : Prop :=
  ∀ b ∈ value, b.toNat = 0x09 ∨ 0x20 ≤ b.toNat ∧ b.toNat ≤ 0x7E

/-- A text without the spaces and tabs at its two ends. -/
def trimmed (piece : Bytes) : Bytes := Http.trimEnd (piece.dropWhile Http.isSpace)

/-- The elements of a list of values: what stands between commas, without the blanks around it. -/
def elements (value : Bytes) : List Bytes := (value.splitOn 0x2C).map trimmed

/-- A list with that name among the elements of its visible values. -/
def Lists (values : List Bytes) (name : Bytes) : Prop :=
  ∃ value ∈ values, IsVisible value ∧ name ∈ elements value

/-- A value that two others with a comma between them make up has the elements of both. -/
theorem elements_append (front back : Bytes) :
    elements (front ++ 0x2C :: back) = elements front ++ elements back := by
  rw [elements, List.splitOn_append_cons_self, List.map_append]
  rfl

/-- Values in one field or in several have the same elements. -/
theorem elements_intercalate {values : List Bytes} (hSome : values ≠ []) :
    elements ([0x2C].intercalate values) = values.flatMap elements := by
  induction values with
  | nil => exact absurd rfl hSome
  | cons value values ih =>
      cases values with
      | nil => simp
      | cons next values =>
          rw [List.intercalate_cons_cons, List.append_assoc, List.singleton_append, elements_append,
            ih (List.cons_ne_nil next values), List.flatMap_cons (x := value)]

/-- Of visible values nothing matters but which elements they have. -/
theorem lists_congr {values values' : List Bytes} (hVisible : ∀ value ∈ values, IsVisible value)
    (hVisible' : ∀ value ∈ values', IsVisible value)
    (hSame : ∀ element, element ∈ values.flatMap elements ↔ element ∈ values'.flatMap elements)
    (name : Bytes) : Lists values name ↔ Lists values' name := by
  have hMem {values : List Bytes} (hVisible : ∀ value ∈ values, IsVisible value) :
      Lists values name ↔ name ∈ values.flatMap elements := by
    rw [List.mem_flatMap]
    exact exists_congr fun value =>
      ⟨fun ⟨hValue, _, hName⟩ => ⟨hValue, hName⟩, fun ⟨hValue, hName⟩ =>
        ⟨hValue, hVisible value hValue, hName⟩⟩
  rw [hMem hVisible, hMem hVisible', hSame]

theorem splitChars_eq (isCut : Char → Bool) (cs : List Char) :
    splitChars isCut cs = cs.splitOnP isCut := by
  induction cs with
  | nil => rfl
  | cons c cs ih =>
      rw [List.splitOnP_cons_eq_if_modifyHead, ← ih, splitChars, List.foldr_cons, ← splitChars]
      cases hPieces : splitChars isCut cs with
      | nil =>
          rw [hPieces] at ih
          exact absurd ih.symm (List.splitOnP_ne_nil isCut cs)
      | cons piece pieces => rfl

/-- The character that a byte of an ASCII text stands for. -/
def asciiChar (b : UInt8) : Char := Char.ofNat b.toNat

theorem toNat_asciiChar (b : UInt8) : (asciiChar b).toNat = b.toNat := by
  have hValid : b.toNat.isValidChar := .inl (Nat.lt_trans b.toNat_lt (by decide))
  rw [asciiChar, Char.ofNat, dif_pos hValid]
  rfl

theorem asciiChar_injective : Function.Injective asciiChar := by
  intro a b h
  apply UInt8.toNat_inj.mp
  rw [← toNat_asciiChar, h, toNat_asciiChar]

theorem asciiText?_eq_some_iff {value : Bytes} {text : String} :
    asciiText? value = some text ↔ IsVisible value ∧ text.toList = value.map asciiChar := by
  have hVisible : (value.all fun b => b.toNat == 9 || (0x20 ≤ b.toNat && b.toNat ≤ 0x7E)) = true ↔
      IsVisible value := by
    simp [IsVisible]
  rw [asciiText?]
  split
  · rename_i hAll
    rw [Option.some_inj]
    constructor
    · rintro rfl
      exact ⟨hVisible.mp hAll, String.toList_ofList⟩
    · rintro ⟨-, hText⟩
      exact String.toList_inj.mp (String.toList_ofList.trans hText.symm)
  · rename_i hSome
    constructor
    · intro hNone
      cases hNone
    · rintro ⟨hText, -⟩
      exact absurd (hVisible.mpr hText) hSome

theorem asciiChar_eq_comma_iff (b : UInt8) : asciiChar b = ',' ↔ b = 0x2C :=
  ⟨fun h => asciiChar_injective h, fun h => h ▸ rfl⟩

theorem splitOnP_map_asciiChar (value : Bytes) :
    (value.map asciiChar).splitOnP (fun c => decide (c = ',')) =
      (value.splitOn 0x2C).map (List.map asciiChar) := by
  rw [List.splitOn_eq_splitOnP]
  induction value with
  | nil => rfl
  | cons b value ih =>
      rw [List.map_cons, List.splitOnP_cons_eq_if_modifyHead, List.splitOnP_cons_eq_if_modifyHead,
        ih]
      by_cases hComma : b = 0x2C
      · subst hComma
        rfl
      · rw [if_neg (by simpa [asciiChar_eq_comma_iff] using hComma), if_neg (by simpa using hComma)]
        cases value.splitOnP (· == 0x2C) <;> rfl

/-- Of the visible characters, only the space and the tab are blanks. -/
theorem isBlank_asciiChar {b : UInt8} (h : b.toNat = 0x09 ∨ 0x20 ≤ b.toNat ∧ b.toNat ≤ 0x7E) :
    Text.isBlank (asciiChar b) = Http.isSpace b := by
  rw [Text.isBlank, toNat_asciiChar, Http.isSpace, Bool.eq_iff_iff]
  simp only [Bool.or_eq_true, Bool.and_eq_true, decide_eq_true_eq, beq_iff_eq, ← UInt8.toNat_inj]
  simp only [UInt8.reduceToNat]
  omega

/-- Dropping blanks off the front of a visible text. -/
theorem dropWhile_map_asciiChar {piece : Bytes} (h : IsVisible piece) :
    (piece.map asciiChar).dropWhile Text.isBlank =
      (piece.dropWhile Http.isSpace).map asciiChar := by
  induction piece with
  | nil => rfl
  | cons b piece ih =>
      have hSame := isBlank_asciiChar (h b List.mem_cons_self)
      rw [List.map_cons, List.dropWhile_cons, List.dropWhile_cons, hSame]
      split
      · exact ih fun b' hb' => h b' (List.mem_cons_of_mem b hb')
      · rfl

theorem trimChars_map_asciiChar {piece : Bytes} (h : IsVisible piece) :
    Text.trimChars (piece.map asciiChar) = (trimmed piece).map asciiChar := by
  have hFront : IsVisible (piece.dropWhile Http.isSpace).reverse := by
    intro b hb
    exact h b ((List.dropWhile_sublist _).subset (List.mem_reverse.mp hb))
  rw [Text.trimChars, dropWhile_map_asciiChar h, ← List.map_reverse, dropWhile_map_asciiChar hFront,
    ← List.map_reverse]
  rfl

/-- What stands between commas is a part of the value. -/
theorem subset_of_mem_splitOn {value piece : Bytes} (h : piece ∈ value.splitOn 0x2C) :
    piece ⊆ value := by
  induction value generalizing piece with
  | nil =>
      rw [List.splitOn_nil, List.mem_singleton] at h
      exact h ▸ List.Subset.refl []
  | cons b value ih =>
      rw [List.splitOn_cons_eq_if_modifyHead] at h
      split at h
      · rcases List.mem_cons.mp h with rfl | h
        · exact List.nil_subset _
        · exact List.Subset.trans (ih h) (List.subset_cons_self b value)
      · cases hPieces : value.splitOn 0x2C with
        | nil => exact absurd hPieces (List.splitOn_ne_nil 0x2C value)
        | cons first pieces =>
            rw [hPieces] at h ih
            rcases List.mem_cons.mp h with rfl | h
            · exact List.cons_subset_cons b (ih List.mem_cons_self)
            · exact List.Subset.trans (ih (List.mem_cons_of_mem first h))
                (List.subset_cons_self b value)

/-- The words of a visible text are the elements of the value that it stands for. -/
theorem map_splitChars {value : Bytes} (h : IsVisible value) :
    ((splitChars (fun c => decide (c = ',')) (value.map asciiChar)).map fun piece =>
        String.ofList (Text.trimChars piece)) =
      (elements value).map fun element => String.ofList (element.map asciiChar) := by
  rw [splitChars_eq, splitOnP_map_asciiChar, elements, List.map_map, List.map_map]
  apply List.map_congr_left
  intro piece hPiece
  have hVisible : IsVisible piece := fun b hb => h b (subset_of_mem_splitOn hPiece hb)
  exact congrArg String.ofList (trimChars_map_asciiChar hVisible)

theorem ofList_map_asciiChar_injective :
    Function.Injective fun element : Bytes => String.ofList (element.map asciiChar) := by
  intro a b h
  exact List.map_injective_iff.mpr asciiChar_injective (String.ofList_injective h)

/-- The sub-protocol of speed tests is offered exactly if it is an element of a visible value. -/
theorem offersSubProtocol_iff (h : Http.Head) :
    offersSubProtocol h = true ↔
      Lists (h.values "Sec-WebSocket-Protocol") (Bytes.ofAscii subProtocol) := by
  have hName : String.ofList ((Bytes.ofAscii subProtocol).map asciiChar) = subProtocol := by decide
  have hWords {value : Bytes} {text : String} (hText : asciiText? value = some text) :
      IsVisible value ∧ (subProtocol ∈ (splitChars (fun c => decide (c = ',')) text.toList).map
        (fun piece => String.ofList (Text.trimChars piece)) ↔
          Bytes.ofAscii subProtocol ∈ elements value) := by
    obtain ⟨hVisible, hList⟩ := asciiText?_eq_some_iff.mp hText
    refine ⟨hVisible, ?_⟩
    rw [hList, map_splitChars hVisible, ← List.mem_map_of_injective ofList_map_asciiChar_injective,
      hName]
  rw [offersSubProtocol, List.contains_iff_mem, offers, List.mem_flatMap]
  constructor
  · rintro ⟨text, hText, hMem⟩
    obtain ⟨value, hValue, hAscii⟩ := List.mem_filterMap.mp hText
    obtain ⟨hVisible, hSame⟩ := hWords hAscii
    exact ⟨value, hValue, hVisible, hSame.mp hMem⟩
  · rintro ⟨value, hValue, hVisible, hMem⟩
    have hText : (String.ofList (value.map asciiChar)).toList = value.map asciiChar :=
      String.toList_ofList
    have hAscii := asciiText?_eq_some_iff.mpr ⟨hVisible, hText⟩
    exact ⟨_, List.mem_filterMap.mpr ⟨value, hValue, hAscii⟩, (hWords hAscii).2.mpr hMem⟩

end SpeedTest.WebSocket
