import SpeedTest.Proofs.WebSocket.Framing
import SpeedTest.Proofs.WebSocket.Production

/-! How far a link has come in what its peer sends. Whatever else it does, a link that delivers an
event has less to deliver afterwards, so that passing over events comes to an end. -/

namespace SpeedTest.WebSocket

theorem length_of_cut? {n : Nat} {bs front rest : Bytes} (h : cut? n bs = some (front, rest)) :
    rest.length ≤ bs.length := by
  obtain ⟨-, rfl⟩ := cut?_eq_some.mp h
  rw [List.length_append]
  exact Nat.le_add_left _ _

/-- Whatever is made of the bytes in front. -/
theorem length_of_map_cut? {α : Type} {f : Bytes → α} {n : Nat} {bs behind : Bytes} {a : α}
    (h : (cut? n bs).map (fun (front, rest) => (f front, rest)) = some (a, behind)) :
    behind.length ≤ bs.length := by
  obtain ⟨⟨front, rest⟩, hCut, hSame⟩ := Option.map_eq_some_iff.mp h
  cases hSame
  exact length_of_cut? hCut

theorem length_of_readLength? {second length : Nat} {bs behind : Bytes}
    (h : readLength? second bs = some (length, behind)) : behind.length ≤ bs.length := by
  simp only [readLength?] at h
  split at h
  · exact length_of_map_cut? h
  split at h
  · exact length_of_map_cut? h
  · cases h
    exact Nat.le_refl _

theorem length_of_readMask? {second : Nat} {key : Option Bytes} {bs behind : Bytes}
    (h : readMask? second bs = some (key, behind)) : behind.length ≤ bs.length := by
  simp only [readMask?] at h
  split at h
  · cases h
    exact Nat.le_refl _
  · exact length_of_map_cut? h

/-- A header takes at least two bytes. -/
theorem Header.length_of_read? {input rest : Bytes} {h : Header}
    (hRead : read? input = .ok (some (h, rest))) : rest.length + 2 ≤ input.length := by
  rcases input with _ | ⟨a, _ | ⟨b, input⟩⟩
  · cases hRead
  · cases hRead
  simp only [read?] at hRead
  cases hLength : readLength? b.toNat input with
  | none => rw [hLength] at hRead; cases hRead
  | some x =>
      obtain ⟨length, behind⟩ := x
      rw [hLength] at hRead
      dsimp only at hRead
      cases hMask : readMask? b.toNat behind with
      | none => rw [hMask] at hRead; cases hRead
      | some y =>
          obtain ⟨key, left⟩ := y
          rw [hMask] at hRead
          dsimp only at hRead
          split at hRead
          · cases hRead
          · cases hRead
            have hFirst := length_of_readLength? hLength
            have hSecond := length_of_readMask? hMask
            simp only [List.length_cons]
            omega

theorem Frame.length_of_read? {input rest : Bytes} {f : Frame}
    (hRead : read? input = .ok (some (f, rest))) : rest.length < input.length := by
  unfold read? at hRead
  split at hRead
  · cases hRead
  · cases hRead
  · rename_i h behind hHeader
    have hLess := Header.length_of_read? hHeader
    split at hRead
    · cases hRead
    split at hRead
    · cases hRead
    · rename_i payload left hCut
      have hCutLess := length_of_cut? hCut
      split at hRead
      · cases hRead
      · cases hRead
        omega

namespace Link

variable {l l' l'' : Link} {α β : Type}

/-- Nothing that has arrived or is still to arrive has been touched. -/
structure Unread (l l' : Link) : Prop where
  input : l'.input = l.input
  arrivals : l'.stream.arrivals = l.stream.arrivals

theorem Unread.refl (l : Link) : Unread l l := ⟨rfl, rfl⟩

theorem Unread.trans (h : Unread l l') (h' : Unread l' l'') : Unread l l'' :=
  ⟨h'.input.trans h.input, h'.arrivals.trans h.arrivals⟩

theorem Unread.incoming_eq (h : Unread l l') : l'.incoming = l.incoming := by
  rw [incoming, incoming, Stream.incoming, Stream.incoming, h.input, h.arrivals]

/-- An operation that takes nothing in. -/
def Mute (x : Action Link Error α) : Prop := ∀ l, Unread l (x l).2

theorem Mute.pure (a : α) : Mute (Pure.pure a : Action Link Error α) := Unread.refl

theorem Mute.bind {x : Action Link Error α} {f : α → Action Link Error β} (hx : Mute x)
    (hf : ∀ a, Mute (f a)) : Mute (x >>= f) := by
  intro l
  have hFirst := hx l
  rw [Action.bind_apply]
  generalize x l = y at hFirst
  obtain ⟨r, l'⟩ := y
  cases r with
  | done a => exact hFirst.trans (hf a l')
  | failed e => exact hFirst
  | pending => exact hFirst

theorem mute_drain : Mute drain := by
  intro l
  have hWrite (l : Link) : (Stream.write l.output l.stream).2.arrivals = l.stream.arrivals :=
    (Outward.write l.output).arrivals_eq l.stream
  fun_induction drain l with
  | case1 l h => exact .refl l
  | case2 l h e s hStep | case3 l h s hStep | case4 l h s hStep =>
      have hKeeps := hWrite l
      rw [hStep] at hKeeps
      exact ⟨rfl, hKeeps⟩
  | case5 l h n s hStep hSome ih =>
      have hKeeps := hWrite l
      rw [hStep] at hKeeps
      exact ⟨ih.input, ih.arrivals.trans hKeeps⟩

theorem mute_gather (frame : Bytes) : Mute (gather frame) := by
  intro l
  have hDrain := mute_drain { l with output := l.output ++ frame }
  rw [gather]
  dsimp only
  split
  · generalize drain _ = y at hDrain
    obtain ⟨r, l'⟩ := y
    rcases r with u | e | _
    · exact ⟨hDrain.input, hDrain.arrivals⟩
    · cases e <;> exact ⟨hDrain.input, hDrain.arrivals⟩
    · exact ⟨hDrain.input, hDrain.arrivals⟩
  · exact ⟨rfl, rfl⟩

theorem mute_gatherAnswer : Mute gatherAnswer := by
  have hRelease : Mute releaseAnswer := by
    intro l
    rw [releaseAnswer]
    cases l.answer with
    | none => exact .refl l
    | some a =>
        obtain ⟨hInput, hArrivals⟩ :=
          (mute_gather a.render).bind (fun _ => Mute.pure true) { l with answer := none }
        exact ⟨hInput, hArrivals⟩
  have hExpire (taken : Bool) : Mute (expire taken) := by
    intro l
    rw [expire]
    split
    · exact .refl l
    · have hDrain := mute_drain l
      generalize drain l = y at hDrain
      obtain ⟨r, l'⟩ := y
      cases r <;> exact ⟨hDrain.input, hDrain.arrivals⟩
  rw [gatherAnswer_eq]
  exact hRelease.bind hExpire

theorem mute_flush : Mute flush := by
  refine mute_gatherAnswer.bind fun _ => mute_drain.bind fun _ l => ?_
  rw [Action.mapError_state]
  exact ⟨rfl, Outward.flush.arrivals_eq l.stream⟩

theorem mute_settle : Mute settle := by
  intro l
  rw [settle]
  split
  · exact mute_flush l
  · split
    · exact .refl l
    · exact ⟨rfl, rfl⟩

/-- Taking in a frame that has been read takes in nothing more. -/
theorem unread_takeFrame (f : Frame) (l : Link) : Unread l (takeFrame f l).2 := by
  obtain ⟨phase, answer, begun, hState⟩ := takeFrame_state f l
  rw [hState]
  exact ⟨rfl, rfl⟩

/-- An event is delivered at the cost of at least one byte. -/
theorem incoming_of_deliver {rounds : Nat} {event : Event}
    (h : deliver rounds l = (.done event, l')) : l'.incoming < l.incoming := by
  induction rounds generalizing l with
  | zero => cases h
  | succ rounds ih =>
      rw [deliver] at h
      split at h
      · cases h
      · rename_i f rest hFrame
        have hShorter := Frame.length_of_read? hFrame
        have hTaken := (unread_takeFrame f { l with input := rest }).incoming_eq
        have hLess : ({ l with input := rest } : Link).incoming < l.incoming := by
          simp only [incoming]
          omega
        generalize takeFrame f { l with input := rest } = x at h hTaken
        obtain ⟨r, l₁⟩ := x
        rcases r with e | _ | event'
        · cases h
        · have hSettled := (mute_settle l₁).incoming_eq
          dsimp only at h hTaken
          generalize settle l₁ = y at h hSettled
          obtain ⟨r', l₂⟩ := y
          cases r' with
          | done u =>
              have hDelivered := ih h
              dsimp only at hSettled
              omega
          | failed e => cases h
          | pending => cases h
        · cases h
          dsimp only at hTaken
          omega
      · split at h
        · cases h
        · cases h
        · rename_i bs s hRead
          have hIncoming := Stream.incoming_of_read hRead
          split at h
          · cases h
          · have hDelivered := ih h
            simp only [incoming, List.length_append] at hDelivered ⊢
            omega

theorem incoming_of_receive {event : Event} (h : receive l = (.done event, l')) :
    l'.incoming < l.incoming := by
  rw [receive] at h
  split at h
  · cases h
  · have hSettled := (mute_settle l).incoming_eq
    generalize settle l = x at h hSettled
    obtain ⟨r, l₁⟩ := x
    cases r with
    | done u => exact hSettled ▸ incoming_of_deliver h
    | failed e => cases h
    | pending => cases h

/-- Each event that a link delivers leaves less to deliver. -/
theorem incoming_of_next {event : Event} (h : next l = (.done (some event), l')) :
    l'.incoming < l.incoming := by
  rw [next] at h
  split at h
  · cases h
  · cases hReceive : receive l with
    | mk r l₁ =>
        rw [hReceive] at h
        cases r with
        | done event' =>
            cases h
            exact incoming_of_receive hReceive
        | pending => cases h
        | failed e =>
            dsimp only at h
            split at h <;> cases h

end Link

end SpeedTest.WebSocket
