import SpeedTest.Http.Target

/-! Which path a request target names. Queries and fragments are no part of it, and where the target
is a whole address, neither is what stands in front of the path. No target names two paths. -/

namespace SpeedTest.Http.Target

/-- A byte that no query and no fragment begins with. -/
def isInPath (b : UInt8) : Bool := b != 0x3F && b != 0x23

/-- The part of a text in front of its query and its fragment. -/
def beforeQuery (s : Bytes) : Bytes := s.takeWhile isInPath

/-- A byte that an authority does not end with. -/
def isInAuthority (b : UInt8) : Bool := b != 0x2F && isInPath b

/-- A byte that a scheme does not end with. -/
def isInScheme (b : UInt8) : Bool := b != 0x3A && isInAuthority b

/-- The path that a target of the given form names. -/
inductive Names : Bytes → Bytes → Prop
  | origin (rest : Bytes) : Names (0x2F :: rest) (beforeQuery (0x2F :: rest))
  | address {scheme authority rest : Bytes} (hScheme : ∀ b ∈ scheme, isInScheme b = true)
    (hSome : authority ≠ []) (hAuthority : ∀ b ∈ authority, isInAuthority b = true)
    (hRest : ∀ b ∈ rest.head?, isInAuthority b = false) :
    Names (scheme ++ [0x3A, 0x2F, 0x2F] ++ authority ++ rest)
      (if beforeQuery rest = [] then [0x2F] else beforeQuery rest)
  | asterisk : Names [0x2A] [0x2A]
  | bare {authority : Bytes} (hAuthority : ∀ b ∈ authority, isInAuthority b = true)
    (hStar : authority ≠ [0x2A]) : Names authority []

/-- A byte of a path is not one with which a query or a fragment begins. -/
theorem isInPath_of_isPathByte {b : UInt8} (h : isPathByte b = true) : isInPath b = true := by
  simp only [isInPath, bne_iff_ne, ne_eq, Bool.and_eq_true]
  constructor
  · rintro rfl
    revert h
    decide
  · rintro rfl
    revert h
    decide

/-- Bytes of a class with something behind them that is not, are all that is taken. -/
theorem takeWhile_append_of_head {isPart : UInt8 → Bool} {front rest : Bytes}
    (hFront : ∀ b ∈ front, isPart b = true) (hRest : ∀ b ∈ rest.head?, isPart b = false) :
    (front ++ rest).takeWhile isPart = front := by
  rw [List.takeWhile_append_of_pos hFront]
  cases rest with
  | nil => exact List.append_nil front
  | cons b rest =>
      rw [List.takeWhile_cons_of_neg (by simp [hRest b rfl]), List.append_nil]

/-- Such bytes are all that is dropped. -/
theorem dropWhile_append_of_head {isPart : UInt8 → Bool} {front rest : Bytes}
    (hFront : ∀ b ∈ front, isPart b = true) (hRest : ∀ b ∈ rest.head?, isPart b = false) :
    (front ++ rest).dropWhile isPart = rest := by
  rw [List.dropWhile_append_of_pos hFront]
  cases rest with
  | nil => rfl
  | cons b rest => rw [List.dropWhile_cons_of_neg (by simp [hRest b rfl])]

/-- The path behind the scheme and the authority of a whole address. -/
def pathBehind (target : Bytes) : Bytes :=
  let path := beforeQuery (((target.dropWhile isInScheme).drop 3).dropWhile isInAuthority)
  if path = [] then [0x2F] else path

/-- The only path that a target can name. -/
def onlyPath (target : Bytes) : Bytes :=
  if target.head? = some 0x2F then beforeQuery target
  else if target = [0x2A] then [0x2A]
  else if target.all isInAuthority then []
  else pathBehind target

theorem pathBehind_address {scheme authority rest : Bytes}
    (hScheme : ∀ b ∈ scheme, isInScheme b = true)
    (hAuthority : ∀ b ∈ authority, isInAuthority b = true)
    (hRest : ∀ b ∈ rest.head?, isInAuthority b = false) :
    pathBehind (scheme ++ [0x3A, 0x2F, 0x2F] ++ authority ++ rest) =
      if beforeQuery rest = [] then [0x2F] else beforeQuery rest := by
  have hMark : ∀ b ∈ ([0x3A, 0x2F, 0x2F] ++ (authority ++ rest)).head?, isInScheme b = false := by
    intro b hb
    cases hb
    rfl
  have hBehind : ((scheme ++ [0x3A, 0x2F, 0x2F] ++ authority ++ rest).dropWhile isInScheme).drop 3 =
      authority ++ rest := by
    rw [List.append_assoc, List.append_assoc, dropWhile_append_of_head hScheme hMark]
    rfl
  rw [pathBehind, hBehind, dropWhile_append_of_head hAuthority hRest]

theorem Names.eq_onlyPath {target path : Bytes} (h : Names target path) :
    path = onlyPath target := by
  cases h with
  | origin rest => exact (if_pos rfl).symm
  | asterisk => rfl
  | bare hAuthority hStar =>
      have hHead : target.head? ≠ some 0x2F := fun hSlash =>
        absurd (hAuthority 0x2F (List.mem_of_head? hSlash)) (by decide)
      rw [onlyPath, if_neg hHead, if_neg hStar, if_pos (List.all_eq_true.mpr hAuthority)]
  | @address scheme authority rest hScheme hSome hAuthority hRest =>
      have hHead : (scheme ++ [0x3A, 0x2F, 0x2F] ++ authority ++ rest).head? ≠ some 0x2F := by
        cases scheme with
        | nil => simp
        | cons b scheme =>
            intro hSlash
            cases hSlash
            exact absurd (hScheme 0x2F List.mem_cons_self) (by decide)
      have hSlash : (0x2F : UInt8) ∈ scheme ++ [0x3A, 0x2F, 0x2F] ++ authority ++ rest := by simp
      have hStar : scheme ++ [0x3A, 0x2F, 0x2F] ++ authority ++ rest ≠ [0x2A] := by
        intro hSame
        rw [hSame] at hSlash
        exact absurd hSlash (by decide)
      have hAll : ¬ (scheme ++ [0x3A, 0x2F, 0x2F] ++ authority ++ rest).all isInAuthority :=
        fun hInside => absurd (List.all_eq_true.mp hInside _ hSlash) (by decide)
      rw [onlyPath, if_neg hHead, if_neg hStar, if_neg hAll,
        pathBehind_address hScheme hAuthority hRest]

/-- No target names two paths. -/
theorem Names.unique {target path path' : Bytes} (h : Names target path)
    (h' : Names target path') : path = path' := h.eq_onlyPath.trans h'.eq_onlyPath.symm

theorem pathOf_eq {s path : Bytes} (h : pathOf s = .ok path) :
    path = if beforeQuery s = [] then [0x2F] else beforeQuery s := by
  unfold pathOf at h
  generalize hFront : s.takeWhile isPathByte = front at h
  have hSplit : s = front ++ s.drop front.length := by
    rw [← hFront]
    exact (List.prefix_iff_eq_append.mp (List.takeWhile_prefix isPathByte)).symm
  have hPart : ∀ b ∈ front, isInPath b = true := by
    intro b hb
    rw [← hFront] at hb
    exact isInPath_of_isPathByte (List.all_eq_true.mp List.all_takeWhile b hb)
  dsimp only at h
  generalize s.drop front.length = rest at h hSplit
  have hEnd : beforeQuery s = front ∧ path = if front.isEmpty then [0x2F] else front := by
    rw [hSplit, beforeQuery]
    cases rest with
    | nil =>
        cases h
        exact ⟨takeWhile_append_of_head hPart nofun, rfl⟩
    | cons b rest =>
        dsimp only at h
        have hStop (hMark : isInPath b = false) : (front ++ b :: rest).takeWhile isInPath = front :=
          takeWhile_append_of_head hPart (by simpa using hMark)
        split at h
        · rename_i hMark
          cases h
          exact ⟨hStop (hMark ▸ rfl), rfl⟩
        · split at h
          · rename_i hMark
            refine ⟨hStop (hMark ▸ rfl), ?_⟩
            split at h
            · cases h
              rfl
            · split at h
              · cases h
                rfl
              · cases h
          · cases h
  rw [hEnd.1, hEnd.2]
  simp only [List.isEmpty_iff]

theorem finish_eq {seen : Authority} {n : Nat} (h : authorityLength.finish seen = .ok n) :
    n = seen.length := by
  unfold authorityLength.finish at h
  split at h
  · cases h
  · cases h
    rfl

theorem authorityLength_eq {seen : Authority} {s : Bytes} {n : Nat}
    (h : authorityLength seen s = .ok n) :
    ∃ authority rest, s = authority ++ rest ∧ n = seen.length + authority.length ∧
      (∀ b ∈ authority, isInAuthority b = true) ∧ ∀ b ∈ rest.head?, isInAuthority b = false := by
  induction s generalizing seen with
  | nil => exact ⟨[], [], rfl, finish_eq h, nofun, nofun⟩
  | cons b s ih =>
      unfold authorityLength at h
      split at h
      · rename_i hEnd
        refine ⟨[], b :: s, rfl, finish_eq h, nofun, fun c hc => ?_⟩
        cases hc
        rcases hEnd with rfl | rfl | rfl <;> rfl
      · rename_i hInner
        have hPart : isInAuthority b = true := by
          simpa [isInAuthority, isInPath] using hInner
        -- Whatever else is noted about the byte, it is counted.
        have hMore {seen' : Authority} (hLength : seen'.length = seen.length + 1)
            (hRest : authorityLength seen' s = .ok n) :
            ∃ authority rest, b :: s = authority ++ rest ∧ n = seen.length + authority.length ∧
              (∀ b ∈ authority, isInAuthority b = true) ∧
              ∀ b ∈ rest.head?, isInAuthority b = false := by
          obtain ⟨authority, rest, rfl, hn, hAuthority, hBehind⟩ := ih hRest
          refine ⟨b :: authority, rest, rfl, ?_, ?_, hBehind⟩
          · rw [hn, hLength, List.length_cons]
            omega
          · intro c hc
            rcases List.mem_cons.mp hc with rfl | hc
            · exact hPart
            · exact hAuthority c hc
        dsimp only at h
        repeat' split at h
        all_goals first | exact hMore rfl h | cases h

/-- An authority that takes up the whole text. -/
theorem names_bare {s : Bytes} (h : authorityOf s = .ok s.length) (hStar : s ≠ [0x2A]) :
    Names s [] := by
  obtain ⟨authority, rest, hSplit, hLength, hInside, -⟩ := authorityLength_eq h
  have hRest : rest = [] := by
    rw [← List.length_eq_zero_iff]
    rw [hSplit, List.length_append] at hLength
    dsimp only at hLength
    omega
  rw [hRest, List.append_nil] at hSplit
  subst hSplit
  exact .bare hInside hStar

/-- A byte of a scheme is not one with which what stands behind it begins. -/
theorem isInScheme_of_isSchemeByte {b : UInt8} (h : isSchemeByte b = true) :
    isInScheme b = true := by
  have hOther (c : UInt8) (hc : isSchemeByte c = false) : b ≠ c := by
    rintro rfl
    rw [h] at hc
    cases hc
  simp only [isInScheme, isInAuthority, isInPath, Bool.and_eq_true, bne_iff_ne]
  exact ⟨hOther _ (by decide), hOther _ (by decide), hOther _ (by decide), hOther _ (by decide)⟩

theorem schemeLength?_eq {s : Bytes} {n : Nat} (h : schemeLength? s = .ok (some n)) :
    ∃ scheme, (∀ b ∈ scheme, isInScheme b = true) ∧
      s = scheme ++ [0x3A, 0x2F, 0x2F] ++ s.drop (n + 3) := by
  unfold schemeLength? at h
  have hScheme : ∀ b ∈ s.takeWhile isSchemeByte, isInScheme b = true := fun b hb =>
    isInScheme_of_isSchemeByte (List.all_eq_true.mp List.all_takeWhile b hb)
  have hTake : s.take (s.takeWhile isSchemeByte).length = s.takeWhile isSchemeByte :=
    (List.prefix_iff_eq_take.mp (List.takeWhile_prefix isSchemeByte)).symm
  generalize s.takeWhile isSchemeByte = scheme at h hScheme hTake
  dsimp only at h
  split at h
  · rename_i hMark
    split at h
    · cases h
    · cases h
      obtain ⟨rest, hRest⟩ := List.isPrefixOf_iff_prefix.mp hMark.2
      have hBehind : s.drop (scheme.length + 3) = rest := by
        rw [← List.drop_drop, ← hRest]
        rfl
      refine ⟨scheme, hScheme, ?_⟩
      rw [hBehind, List.append_assoc, hRest]
      conv => lhs; rw [← List.take_append_drop scheme.length s, hTake]
  · cases h

theorem names_of_path {target path : Bytes} (h : Target.path target = .ok path) :
    Names target path := by
  unfold Target.path at h
  split at h
  · cases h
  split at h
  · rename_i rest _
    have hPath := pathOf_eq h
    rw [if_neg (by simp [beforeQuery, isInPath])] at hPath
    rw [hPath]
    exact .origin rest
  · cases h
    exact .asterisk
  · rename_i hStar _
    split at h
    · cases h
    · rename_i hAuthority
      split at h
      · rename_i hOne
        cases h
        rw [hOne] at hAuthority
        exact names_bare hAuthority fun hSame => hStar (List.cons.inj hSame).1
      · cases h
  · rename_i hStar _
    split at h
    · cases h
    · split at h
      · cases h
      · rename_i n hAuthority
        split at h
        · rename_i hAll
          cases h
          rw [hAll] at hAuthority
          exact names_bare hAuthority hStar
        · cases h
    · rename_i n hScheme
      dsimp only at h
      obtain ⟨scheme, hInScheme, hTarget⟩ := schemeLength?_eq hScheme
      generalize target.drop (n + 3) = behind at h hTarget
      split at h
      · cases h
      · cases h
      · rename_i m hNone hAuthority
        obtain ⟨authority, rest, rfl, hLength, hInside, hRest⟩ := authorityLength_eq hAuthority
        rw [Nat.zero_add] at hLength
        rw [hLength, List.drop_left] at h
        rw [hTarget, ← List.append_assoc, pathOf_eq h]
        refine .address hInScheme ?_ hInside hRest
        rintro rfl
        exact hNone hLength

end SpeedTest.Http.Target
