import SpeedTest.Proofs.Wire.Message

/-! Message bodies in any layout. An object is read as a message whatever the order of its members,
the blanks between its tokens, the ways its texts and names are written and the members it has
besides; one in which `msg` or `tests` occurs twice is refused. -/

namespace SpeedTest.Message

open Json

/-- A member of an object: its name, and its value as it stands in the body. -/
structure Member where
  name : List Char
  value : Bytes

/-- The members of an object, as they may stand between its brackets. -/
inductive Lists : List Member → Bytes → Prop
  | last {m : Member} {k w w' : Bytes} :
      IsKey (Spells · m.name) k → IsBlanks w → IsValue m.value → IsBlanks w' →
      Lists [m] (k ++ (w ++ (m.value ++ w')))
  | more {m : Member} {members : List Member} {k w w' bytes : Bytes} :
      IsKey (Spells · m.name) k → IsBlanks w → IsValue m.value → IsBlanks w' →
      Lists members bytes →
      Lists (m :: members) (k ++ (w ++ (m.value ++ (w' ++ 0x2C :: bytes))))

/-- A body that is an object with the given members. -/
inductive IsObject : List Member → Bytes → Prop
  | empty {w w' w'' : Bytes} : IsBlanks w → IsBlanks w' → IsBlanks w'' →
      IsObject [] (w ++ 0x7B :: (w' ++ 0x7D :: w''))
  | some {members : List Member} {w w' bytes : Bytes} : IsBlanks w → Lists members bytes →
      IsBlanks w' → IsObject members (w ++ 0x7B :: (bytes ++ 0x7D :: w'))

/-- A value that is the given text. -/
def Quotes (s : String) (value : Bytes) : Prop :=
  ∃ t, Spells t s.toList ∧ value = 0x22 :: (t ++ [0x22])

/-- A value that is the given text, or null. -/
def QuotesOrNull : Option String → Bytes → Prop
  | none, value => value = [0x6E, 0x75, 0x6C, 0x6C]
  | some s, value => Quotes s value

/-- What the members with the given name say: nothing if there is none, otherwise what the value of
the only one means. -/
def Says {α : Type} (members : List Member) (name : String) (Means : α → Bytes → Prop) :
    Option α → Prop
  | none => members.filter (·.name = name.toList) = []
  | some a => ∃ value, members.filter (·.name = name.toList) = [⟨name.toList, value⟩] ∧
      Means a value

/-! ### Values -/

section Values

variable {w v rest : Bytes}

theorem readValue_quotes {s : String} (hw : IsBlanks w) (h : Quotes s v) :
    readValue (w ++ (v ++ rest)) = .ok (s, rest) := by
  obtain ⟨t, ht, rfl⟩ := h
  rw [List.cons_append, List.append_assoc, readValue, skipBlank_append_cons hw rfl]
  simp only [if_true, List.singleton_append, readText_spells ht, String.ofList_toList]

theorem readOptional_quotesOrNull {tests : Option String} (hw : IsBlanks w)
    (h : QuotesOrNull tests v) : readOptional (w ++ (v ++ rest)) = .ok (tests, rest) := by
  cases tests with
  | none =>
      obtain rfl : v = [0x6E, 0x75, 0x6C, 0x6C] := h
      rw [readOptional, skipBlank_append hw]
      rfl
  | some s =>
      have hValue : readValue (v ++ rest) = .ok (s, rest) := readValue_quotes isBlanks_nil h
      obtain ⟨t, ht, rfl⟩ := h
      rw [List.cons_append, readOptional, skipBlank_append_cons hw rfl]
      rw [List.cons_append] at hValue
      simp only [hValue]
      rfl

theorem refuse_ne_ok {α : Type} (wanted : Wanted) (input : Bytes) (a : α) :
    refuse wanted input ≠ .ok a := by
  intro h
  simp only [refuse, faultAfter, faultAt] at h
  repeat' split at h
  all_goals cases h

theorem exists_text_of_isValue (h : IsValue (0x22 :: v)) : ∃ t, IsText t ∧ v = t ++ [0x22] := by
  generalize hv : (0x22 :: v : Bytes) = value at h
  cases h with
  | text ht =>
      cases hv
      exact ⟨_, ht, rfl⟩
  | number hn =>
      cases hv
      exact absurd hn (not_isNumber_cons (by decide) (by decide))
  | _ => cases hv

theorem eq_null_of_isValue (h : IsValue (0x6E :: v)) : v = [0x75, 0x6C, 0x6C] := by
  generalize hv : (0x6E :: v : Bytes) = value at h
  cases h with
  | null =>
      cases hv
      rfl
  | number hn =>
      cases hv
      exact absurd hn (not_isNumber_cons (by decide) (by decide))
  | _ => cases hv

/-- A value that is read as a text has been read to its end. -/
theorem rest_of_readValue {s : String} {tail : Bytes} (hw : IsBlanks w) (hv : IsValue v)
    (h : readValue (w ++ (v ++ rest)) = .ok (s, tail)) : tail = rest := by
  obtain ⟨b, v, rfl, hBlank, -⟩ := exists_head_of_isValue hv
  rw [List.cons_append, readValue, skipBlank_append_cons hw hBlank] at h
  by_cases hQuote : b = 0x22
  · subst hQuote
    obtain ⟨t, ht, rfl⟩ := exists_text_of_isValue hv
    simp only [if_true, List.append_assoc, List.singleton_append] at h
    split at h
    · cases h
    · rename_i hText
      cases h
      exact rest_of_readText ht hText
  · simp only [if_neg hQuote] at h
    exact absurd h (refuse_ne_ok _ _ _)

theorem rest_of_readOptional {s : Option String} {tail : Bytes} (hw : IsBlanks w) (hv : IsValue v)
    (h : readOptional (w ++ (v ++ rest)) = .ok (s, tail)) : tail = rest := by
  obtain ⟨b, v, rfl, hBlank, -⟩ := exists_head_of_isValue hv
  rw [List.cons_append, readOptional, skipBlank_append_cons hw hBlank] at h
  by_cases hNull : b = 0x6E
  · subst hNull
    obtain rfl := eq_null_of_isValue hv
    simp only [if_true] at h
    cases h
    rfl
  · simp only [if_neg hNull] at h
    split at h
    · cases h
    · rename_i hValue
      cases h
      exact rest_of_readValue (w := []) isBlanks_nil hv hValue

end Values

/-! ### Members -/

section Members

variable {d d' : Draft} {m : Member} {members : List Member} {bytes k p w w' rest : Bytes}

/-- Blanks in front of the colon make no difference. -/
theorem readMember_blanks (hw : IsBlanks w) (d : Draft) (name : List Char) (input : Bytes) :
    readMember d name (w ++ input) = readMember d name input := by
  simp only [readMember, duplicate, readColon, skipBlank_append hw]

theorem nextKey_blanks (hp : IsBlanks p) (hw : IsBlanks w) (isFirst : Bool) (rest : Bytes) :
    nextKey isFirst (p ++ (separator isFirst ++ (w ++ 0x22 :: rest))) =
      .ok (some rest, rest) := by
  have hQuote : skipBlank (w ++ 0x22 :: rest) = 0x22 :: rest := skipBlank_append_cons hw rfl rest
  cases isFirst with
  | true =>
      rw [separator, if_pos rfl, List.nil_append, nextKey, skipBlank_append hp, hQuote]
      rfl
  | false =>
      rw [separator, if_neg (by decide), List.singleton_append, nextKey, skipBlank_append hp,
        skipBlank_cons rfl]
      simp only [hQuote]
      rfl

/-- One round reads the name of a member, however it is written, and then the member. -/
theorem readMembers_key (hp : IsBlanks p) (hk : IsKey (Spells · m.name) k) (isFirst : Bool)
    (d : Draft) (rounds : Nat) (rest : Bytes) :
    readMembers (rounds + 1) isFirst d (p ++ (separator isFirst ++ (k ++ rest))) =
      (readMember d m.name (0x3A :: rest)).bind fun x => readMembers rounds false x.1 x.2 := by
  obtain ⟨hw, ht, hw'⟩ := hk
  simp only [List.append_assoc, List.cons_append, List.nil_append]
  rw [readMembers, nextKey_blanks hp hw]
  simp only [readText_spells ht, readMember_blanks hw']
  cases readMember d m.name (0x3A :: rest) with
  | error f => rfl
  | ok x => rfl

theorem readMembers_close (hw : IsBlanks w) (isFirst : Bool) (d : Draft) (rounds : Nat)
    (rest : Bytes) : readMembers (rounds + 1) isFirst d (w ++ 0x7D :: rest) = .ok (d, rest) := by
  rw [readMembers, nextKey, skipBlank_append_cons hw rfl]
  rfl

theorem ends_bracket (hw : IsBlanks w) (rest : Bytes) : Ends (w ++ 0x7D :: rest) :=
  (Ends.of_mark (by decide)).blanks hw

theorem ends_comma (hw : IsBlanks w) (rest : Bytes) : Ends (w ++ 0x2C :: rest) :=
  (Ends.of_mark (by decide)).blanks hw

/-- There are at least as many bytes as members. -/
theorem Lists.length_le (h : Lists members bytes) : members.length ≤ bytes.length := by
  induction h with
  | last hk =>
      obtain ⟨-, -, -⟩ := hk
      simp only [List.length_cons, List.length_append, List.length_nil]
      omega
  | more hk _ _ _ _ ih =>
      simp only [List.length_cons, List.length_append]
      omega

end Members

/-! ### What the members say -/

/-- A field of a draft that the members complete to `whole`: what was read before, or what the
members say, and never both. -/
def Completes {α : Type} (said : Option α) (members : List Member) (name : String)
    (Means : α → Bytes → Prop) (whole : Option α) : Prop :=
  ∃ a, Says members name Means a ∧ (said = none ∨ a = none) ∧ whole = said.or a

section Completes

variable {α : Type} {said whole : Option α} {m : Member} {members : List Member} {name : String}
  {Means : α → Bytes → Prop}

theorem Completes.of_nil (h : Completes said [] name Means whole) : whole = said := by
  obtain ⟨a, hSays, -, rfl⟩ := h
  cases a with
  | none => exact Option.or_none
  | some a =>
      obtain ⟨value, hOnly, -⟩ := hSays
      cases hOnly

/-- A member with another name says nothing. -/
theorem Completes.of_ne (h : Completes said (m :: members) name Means whole)
    (hName : m.name ≠ name.toList) : Completes said members name Means whole := by
  obtain ⟨a, hSays, hOnce⟩ := h
  refine ⟨a, ?_, hOnce⟩
  have hFilter : (m :: members).filter (·.name = name.toList) =
      members.filter (·.name = name.toList) := List.filter_cons_of_neg (by simpa using hName)
  cases a with
  | none => exact hFilter.symm.trans hSays
  | some a =>
      obtain ⟨value, hOnly, hMeans⟩ := hSays
      exact ⟨value, hFilter.symm.trans hOnly, hMeans⟩

/-- A member with the name is the first to say anything, and says it all. -/
theorem Completes.of_eq (h : Completes said (m :: members) name Means whole)
    (hName : m.name = name.toList) :
    said = none ∧ ∃ a, Means a m.value ∧ Completes (some a) members name Means whole := by
  have hFilter : (m :: members).filter (·.name = name.toList) =
      m :: members.filter (·.name = name.toList) := List.filter_cons_of_pos (by simpa using hName)
  obtain ⟨a, hSays, hOnce, rfl⟩ := h
  cases a with
  | none => exact absurd (hFilter.symm.trans hSays) (List.cons_ne_nil _ _)
  | some a =>
      obtain ⟨value, hOnly, hMeans⟩ := hSays
      obtain ⟨rfl, hRest⟩ := List.cons.inj (hFilter.symm.trans hOnly)
      obtain rfl : said = none := hOnce.resolve_right (fun h => nomatch h)
      exact ⟨rfl, a, hMeans, none, hRest, .inr rfl, rfl⟩

end Completes

/-! ### Objects that say something -/

section Objects

variable {d whole : Draft} {m : Member} {members : List Member} {bytes p w rest : Bytes}

/-- What a step does with a member that a message may have. -/
theorem readMember_completes
    (hMsg : Completes d.msg (m :: members) "msg" Quotes whole.msg)
    (hTests : Completes d.tests (m :: members) "tests" QuotesOrNull whole.tests)
    (hw : IsBlanks w) (hv : IsValue m.value) (hEnds : Ends rest) :
    ∃ d', readMember d m.name (0x3A :: (w ++ (m.value ++ rest))) = .ok (d', rest) ∧
      Completes d'.msg members "msg" Quotes whole.msg ∧
      Completes d'.tests members "tests" QuotesOrNull whole.tests := by
  by_cases hIsMsg : m.name = "msg".toList
  · obtain ⟨hNone, s, hQuotes, hMsg⟩ := hMsg.of_eq hIsMsg
    have hTests := hTests.of_ne (by rw [hIsMsg]; decide)
    refine ⟨{ d with msg := some s }, ?_, hMsg, hTests⟩
    simp [readMember, hIsMsg, hNone, readColon_cons, readValue_quotes hw hQuotes, bind, Except.bind,
      pure, Except.pure]
  · have hMsg := hMsg.of_ne hIsMsg
    by_cases hIsTests : m.name = "tests".toList
    · obtain ⟨hNone, s, hQuotes, hTests⟩ := hTests.of_eq hIsTests
      refine ⟨{ d with tests := some s }, ?_, hMsg, hTests⟩
      simp [readMember, hIsTests, hNone, readColon_cons, readOptional_quotesOrNull hw hQuotes, bind,
        Except.bind, pure, Except.pure]
    · have hTests := hTests.of_ne hIsTests
      refine ⟨d, ?_, hMsg, hTests⟩
      have hMsgName : m.name ≠ ['m', 's', 'g'] := hIsMsg
      have hTestsName : m.name ≠ ['t', 'e', 's', 't', 's'] := hIsTests
      simp [readMember, hMsgName, hTestsName, readColon_cons, skipValue_isValue hw hv hEnds, bind,
        Except.bind, pure, Except.pure]

/-- The members are read up to the bracket behind them, and complete the draft. -/
theorem readMembers_completes (h : Lists members bytes)
    (hMsg : Completes d.msg members "msg" Quotes whole.msg)
    (hTests : Completes d.tests members "tests" QuotesOrNull whole.tests)
    (hp : IsBlanks p) (isFirst : Bool) {rounds : Nat} (hRounds : members.length < rounds)
    (rest : Bytes) :
    readMembers rounds isFirst d (p ++ (separator isFirst ++ (bytes ++ 0x7D :: rest))) =
      .ok (whole, rest) := by
  induction h generalizing d p isFirst rounds with
  | last hk hw hv hw' =>
      obtain ⟨rounds, rfl⟩ := Nat.exists_eq_add_of_le' (show 2 ≤ rounds from hRounds)
      have hEnds := ends_bracket hw' rest
      obtain ⟨d', hRead, hMsg, hTests⟩ := readMember_completes hMsg hTests hw hv hEnds
      -- Nothing is left to complete the draft with.
      obtain rfl : whole = d' := by
        cases whole
        cases d'
        rw [Draft.mk.injEq]
        exact ⟨hMsg.of_nil, hTests.of_nil⟩
      simp only [List.append_assoc]
      rw [readMembers_key hp hk, hRead]
      exact readMembers_close hw' false whole rounds rest
  | @more m members k w w' bytes hk hw hv hw' _ ih =>
      obtain ⟨rounds, rfl⟩ := Nat.exists_eq_add_of_le' (Nat.one_le_of_lt hRounds)
      have hEnds := ends_comma hw' (bytes ++ 0x7D :: rest)
      obtain ⟨d', hRead, hMsg, hTests⟩ := readMember_completes hMsg hTests hw hv hEnds
      simp only [List.append_assoc, List.cons_append]
      rw [readMembers_key hp hk, hRead]
      exact ih hMsg hTests hw' false (Nat.lt_of_succ_lt_succ hRounds)

end Objects

/-! ### Objects that say something twice -/

/-- How often a field with the given name has been read. -/
def Draft.count (d : Draft) (name : List Char) : Nat :=
  if name = "msg".toList then d.msg.toList.length
  else if name = "tests".toList then d.tests.toList.length
  else 0

theorem Draft.count_le (d : Draft) (name : List Char) : d.count name ≤ 1 := by
  unfold Draft.count
  split
  · exact Option.length_toList_le
  · split
    · exact Option.length_toList_le
    · exact Nat.zero_le 1

section Repeated

variable {d d' : Draft} {m : Member} {members : List Member} {bytes p w v rest tail : Bytes}
  {name : List Char}

theorem duplicate_ne_ok {α : Type} (name : String) (input : Bytes) (a : α) :
    duplicate name input ≠ .ok a := by
  intro h
  simp only [duplicate, faultAfter] at h
  split at h <;> cases h

/-- A member that is read has been read to its end, and is counted where its name is a field's. -/
theorem count_of_readMember (hw : IsBlanks w) (hv : IsValue v) (hEnds : Ends rest)
    (h : readMember d name (0x3A :: (w ++ (v ++ rest))) = .ok (d', tail)) {field : String}
    (hField : field = "msg" ∨ field = "tests") :
    tail = rest ∧
      d'.count field.toList = d.count field.toList + if name = field.toList then 1 else 0 := by
  simp only [readMember, readColon_cons, bind, Except.bind, pure, Except.pure] at h
  split at h
  · rename_i hName
    split at h
    · exact absurd h (duplicate_ne_ok _ _ _)
    · rename_i hNone
      split at h
      · cases h
      · rename_i hValue
        cases h
        refine ⟨rest_of_readValue hw hv hValue, ?_⟩
        obtain rfl | rfl := hField <;> simp_all [Draft.count]
  · rename_i hName
    split at h
    · rename_i hName'
      split at h
      · exact absurd h (duplicate_ne_ok _ _ _)
      · rename_i hNone
        split at h
        · cases h
        · rename_i hValue
          cases h
          refine ⟨rest_of_readOptional hw hv hValue, ?_⟩
          obtain rfl | rfl := hField <;> simp_all [Draft.count]
    · rename_i hName'
      rw [skipValue_isValue hw hv hEnds] at h
      cases h
      obtain rfl | rfl := hField
      · exact ⟨rfl, (if_neg hName).symm ▸ rfl⟩
      · exact ⟨rfl, (if_neg hName').symm ▸ rfl⟩

theorem exists_of_bind {ε α β : Type} {x : Except ε α} {f : α → Except ε β} {b : β}
    (h : x.bind f = .ok b) : ∃ a, x = .ok a ∧ f a = .ok b := by
  cases x with
  | error e => cases h
  | ok a => exact ⟨a, rfl, h⟩

/-- Reading that comes to an end has counted every member with the name of a field. The bound on the
rounds matters here, since reading that runs out of them ends as well. -/
theorem count_of_readMembers (h : Lists members bytes) (hp : IsBlanks p) {isFirst : Bool}
    {rounds : Nat} (hRounds : members.length < rounds)
    (hRun : readMembers rounds isFirst d (p ++ (separator isFirst ++ (bytes ++ 0x7D :: rest))) =
      .ok (d', tail))
    {field : String} (hField : field = "msg" ∨ field = "tests") :
    d'.count field.toList =
      d.count field.toList + members.countP (·.name = field.toList) := by
  induction h generalizing d p isFirst rounds with
  | @last m k w w' hk hw hv hw' =>
      obtain ⟨rounds, rfl⟩ := Nat.exists_eq_add_of_le' (show 2 ≤ rounds from hRounds)
      have hEnds := ends_bracket hw' rest
      simp only [List.append_assoc] at hRun
      rw [readMembers_key hp hk] at hRun
      obtain ⟨⟨d₁, front⟩, hRead, hRest⟩ := exists_of_bind hRun
      obtain ⟨rfl, hCount⟩ := count_of_readMember hw hv hEnds hRead hField
      rw [readMembers_close hw'] at hRest
      cases hRest
      rw [hCount, List.countP_singleton]
      simp only [decide_eq_true_eq]
  | @more m members k w w' bytes hk hw hv hw' _ ih =>
      obtain ⟨rounds, rfl⟩ := Nat.exists_eq_add_of_le' (Nat.one_le_of_lt hRounds)
      have hEnds := ends_comma hw' (bytes ++ 0x7D :: rest)
      simp only [List.append_assoc, List.cons_append] at hRun
      rw [readMembers_key hp hk] at hRun
      obtain ⟨⟨d₁, front⟩, hRead, hRest⟩ := exists_of_bind hRun
      obtain ⟨rfl, hCount⟩ := count_of_readMember hw hv hEnds hRead hField
      rw [ih hw' (Nat.lt_of_succ_lt_succ hRounds) hRest, hCount, List.countP_cons]
      simp only [decide_eq_true_eq]
      omega

end Repeated

/-! ### Bodies -/

section Bodies

variable {members : List Member} {body : Bytes}

theorem readDraft_opened {w : Bytes} (hw : IsBlanks w) (rest : Bytes) :
    readDraft (w ++ 0x7B :: rest) =
      readMembers (rest.length + 1) true ⟨none, none⟩ rest := by
  rw [readDraft, skipBlank_append_cons hw rfl]
  rfl

/-- There are rounds enough for the members of an object. -/
theorem Lists.length_lt {bytes : Bytes} (h : Lists members bytes) (rest : Bytes) :
    members.length < (bytes ++ 0x7D :: rest).length + 1 := by
  have hLength := h.length_le
  rw [List.length_append]
  omega

theorem readDraft_object (h : IsObject members body) {msg : Option String}
    {tests : Option (Option String)} (hMsg : Says members "msg" Quotes msg)
    (hTests : Says members "tests" QuotesOrNull tests) :
    ∃ tail, IsBlanks tail ∧ readDraft body = .ok (⟨msg, tests⟩, tail) := by
  have hMsg : Completes none members "msg" Quotes msg := ⟨msg, hMsg, .inl rfl, rfl⟩
  have hTests : Completes none members "tests" QuotesOrNull tests := ⟨tests, hTests, .inl rfl, rfl⟩
  cases h with
  | @empty w w' w'' hw hw' hw'' =>
      refine ⟨w'', hw'', ?_⟩
      rw [readDraft_opened hw, readMembers_close hw', hMsg.of_nil, hTests.of_nil]
  | @some _ w w' bytes hw hLists hw' =>
      refine ⟨w', hw', ?_⟩
      rw [readDraft_opened hw]
      exact readMembers_completes (p := []) hLists hMsg hTests isBlanks_nil true
        (hLists.length_lt w') w'

theorem countP_le_of_readDraft (h : IsObject members body) {d : Draft} {tail : Bytes}
    (hRun : readDraft body = .ok (d, tail)) {field : String}
    (hField : field = "msg" ∨ field = "tests") :
    members.countP (·.name = field.toList) ≤ 1 := by
  cases h with
  | empty => exact Nat.zero_le 1
  | @some _ w w' bytes hw hLists hw' =>
      rw [readDraft_opened hw] at hRun
      have hCount := count_of_readMembers (p := []) hLists isBlanks_nil
        (hLists.length_lt w') hRun hField
      have hAtMost := d.count_le field.toList
      omega

/-- Whatever the order of its members, the blanks between its tokens and the ways its names and
texts are written, an object is read as the message that its members `msg` and `tests` say, the
first of them a text and the second a text or null if they are there at all. What the other members
hold makes no difference. An object in which one of the two occurs twice is refused. -/
theorem read_object (h : IsObject members body) :
    (∀ msg tests, Says members "msg" Quotes msg → Says members "tests" QuotesOrNull tests →
      read body = .ok ⟨msg.getD "", tests.getD none⟩) ∧
    ∀ field, field = "msg" ∨ field = "tests" →
      2 ≤ members.countP (·.name = field.toList) → ∃ e, read body = .error (.json e) := by
  constructor
  · intro msg tests hMsg hTests
    obtain ⟨tail, hTail, hRead⟩ := readDraft_object h hMsg hTests
    have hBlank : skipBlank tail = [] := by
      rw [← List.append_nil tail, skipBlank_append hTail]
      rfl
    rw [read, readAll, hRead]
    simp only [hBlank, Draft.toMessage]
  · intro field hField hTwice
    cases hAll : readAll body with
    | error f => exact ⟨f.locate body, by rw [read, hAll]⟩
    | ok m =>
        rw [readAll] at hAll
        split at hAll
        · cases hAll
        · rename_i hRead
          have hOnce := countP_le_of_readDraft h hRead hField
          omega

theorem read_object_of_escaped_name :
    read (Bytes.ofAscii "\x7b \"x\":[0],\"m\\u0073g\":\"a\"\x7d") = .ok ⟨"a", none⟩ ∧
      ∃ e, read (Bytes.ofAscii "\x7b\"msg\":\"a\",\"m\\u0073g\":null\x7d") =
        .error (.json e) := by
  have hNone := isBlanks_nil
  have hSpace : IsBlanks [0x20] := by simp [IsBlanks]
  have hPlain (c : Char) (h : 0x20 ≤ c.toNat ∧ c.toNat ≠ 0x22 ∧ c.toNat ≠ 0x5C) {t : Bytes}
      {cs : List Char} (ht : Spells t cs) : Spells (Utf8.encodeChar c ++ t) (c :: cs) :=
    .plain h.1 h.2.1 h.2.2 ht
  have hA : Spells [0x61] ['a'] := hPlain 'a' (by decide) .nil
  have hX : Spells [0x78] ['x'] := hPlain 'x' (by decide) .nil
  have hG : Spells [0x67] ['g'] := hPlain 'g' (by decide) .nil
  have hMsg : Spells [0x6D, 0x73, 0x67] ['m', 's', 'g'] :=
    hPlain 'm' (by decide) (hPlain 's' (by decide) hG)
  have hQuad : IsQuad [0x30, 0x30, 0x37, 0x33] 's'.toNat :=
    .mk (w := 0) (x := 0) (y := 7) (z := 3) (.inl (by decide)) (.inl (by decide))
      (.inl (by decide)) (.inl (by decide))
  have hEscaped : Spells [0x6D, 0x5C, 0x75, 0x30, 0x30, 0x37, 0x33, 0x67] ['m', 's', 'g'] :=
    hPlain 'm' (by decide) (.number hQuad hG)
  have hList : IsValue [0x5B, 0x30, 0x5D] :=
    .list (.last hNone (.number (.mk (.inl rfl) (.inl rfl) (.inl rfl) (.inl rfl))) hNone)
  have hText : IsValue [0x22, 0x61, 0x22] := .text hA.isText
  have hObject := IsObject.some hNone
    (.more (m := ⟨['x'], _⟩) (.mk hSpace hX hNone) hNone hList hNone
      (.last (m := ⟨['m', 's', 'g'], _⟩) (.mk hNone hEscaped hNone) hNone hText hNone)) hNone
  have hTwice := IsObject.some hNone
    (.more (m := ⟨['m', 's', 'g'], _⟩) (.mk hNone hMsg hNone) hNone hText hNone
      (.last (m := ⟨['m', 's', 'g'], _⟩) (.mk hNone hEscaped hNone) hNone .null hNone)) hNone
  constructor
  · have hRead := (read_object hObject).1 (some "a") none ⟨_, rfl, _, hA, rfl⟩ rfl
    exact (congrArg (read · = _) (by decide)).mp hRead
  · have hRefused := (read_object hTwice).2 "msg" (.inl rfl) (by decide)
    exact (congrArg (fun body => ∃ e, read body = .error (.json e)) (by decide)).mp hRefused

end Bodies

end SpeedTest.Message
