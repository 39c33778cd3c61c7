import SpeedTest.Proofs.Program

/-! Programs that ask for some effects only as a plan allows, each in its turn, and for none of them
any more once one was answered badly. -/

namespace SpeedTest.Program

variable {E : Type} {Ans : E → Type} {α β σ : Type}
  {counts : E → Bool} {good : (e : E) → Ans e → Prop}

/-- Of the effects that count a program asks for those of the plan, from the front. A good answer
leaves the rest of the plan, and any other answer nothing of it. -/
inductive Rations (counts : E → Bool) (good : (e : E) → Ans e → Prop) :
    List E → Program E Ans α → Prop
  | done (plan : List E) (a : α) : Rations counts good plan (.done a)
  | idle {plan : List E} {e : E} {next : Ans e → Program E Ans α} (hCounts : counts e = false)
      (hNext : ∀ r, Rations counts good plan (next r)) :
      Rations counts good plan (.perform e next)
  | spend {plan : List E} {e : E} {next : Ans e → Program E Ans α} (hCounts : counts e = true)
      (hGood : ∀ r, good e r → Rations counts good plan (next r))
      (hBad : ∀ r, ¬ good e r → Rations counts good [] (next r)) :
      Rations counts good (e :: plan) (.perform e next)

namespace Rations

variable {plan : List E} {p : Program E Ans α}

/-- What asks for none of the effects that count keeps to any plan. -/
theorem of_nil (h : Rations counts good [] p) (plan : List E) : Rations counts good plan p := by
  induction p with
  | done a => exact .done plan a
  | perform e next ih =>
      cases h with
      | idle hCounts hNext => exact .idle hCounts fun r => ih r (hNext r)

/-- The plan is for the second part. -/
theorem bind_right {f : α → Program E Ans β} (hp : Rations counts good [] p)
    (hf : ∀ a, Rations counts good plan (f a)) : Rations counts good plan (p.bind f) := by
  induction p with
  | done a => exact hf a
  | perform e next ih =>
      cases hp with
      | idle hCounts hNext => exact .idle hCounts fun r => ih r (hNext r)

/-- The plan is for the first part. -/
theorem bind_left {f : α → Program E Ans β} (hp : Rations counts good plan p)
    (hf : ∀ a, Rations counts good [] (f a)) : Rations counts good plan (p.bind f) := by
  induction hp with
  | done plan a => exact (hf a).of_nil plan
  | idle hCounts _ ih => exact .idle hCounts ih
  | spend hCounts _ _ ihGood ihBad => exact .spend hCounts ihGood ihBad

section Courses

variable {t : List ((e : E) × Option (Ans e))} {x : Option α}

theorem prefix_plan (h : Rations counts good plan p) (hCourse : p.Course t x) :
    (t.map Sigma.fst).filter counts <+: plan := by
  induction hCourse generalizing plan with
  | done a => exact List.nil_prefix
  | waiting e next =>
      cases h with
      | idle hCounts _ => simp [hCounts]
      | @spend plan _ _ hCounts _ _ => simp [hCounts]
  | @answered e next t x r _ ih =>
      cases h with
      | idle hCounts hNext => simpa [hCounts] using ih (hNext r)
      | @spend plan _ _ hCounts hGood hBad =>
          rw [List.map_cons, List.filter_cons_of_pos hCounts, List.prefix_cons_inj]
          by_cases hAnswer : good e r
          · exact ih (hGood r hAnswer)
          · exact (ih (hBad r hAnswer)).trans List.nil_prefix

theorem counts_eq_false (h : Rations counts good [] p) (hCourse : p.Course t x) :
    ∀ y ∈ t, counts y.1 = false := by
  intro y hy
  have hNone := List.prefix_nil.mp (h.prefix_plan hCourse)
  rw [List.filter_eq_nil_iff] at hNone
  simpa using hNone y.1 (List.mem_map_of_mem hy)

/-- Behind an effect that counts and was not answered well there is none that counts. -/
theorem none_behind (h : Rations counts good plan p) (hCourse : p.Course t x)
    {before after : List ((e : E) × Option (Ans e))} {e : E} {a : Option (Ans e)}
    (hTranscript : t = before ++ ⟨e, a⟩ :: after) (hCounts : counts e = true)
    (hBad : ∀ r, a = some r → ¬ good e r) : ∀ y ∈ after, counts y.1 = false := by
  induction hCourse generalizing plan before with
  | done a => simp at hTranscript
  | waiting e' next =>
      cases before with
      | nil =>
          obtain ⟨-, rfl⟩ := List.cons.inj hTranscript
          simp
      | cons y before => simp at hTranscript
  | @answered e' next t x r hCourse ih =>
      cases before with
      | nil =>
          obtain ⟨hFirst, rfl⟩ := List.cons.inj hTranscript
          cases hFirst
          cases h with
          | idle hIdle _ => simp [hCounts] at hIdle
          | spend _ _ hNone => exact (hNone r (hBad r rfl)).counts_eq_false hCourse
      | cons y before =>
          obtain ⟨-, hRest⟩ := List.cons.inj hTranscript
          cases h with
          | idle _ hNext => exact ih (hNext r) hRest
          | spend _ hGood hNone =>
              by_cases hAnswer : good e' r
              · exact ih (hGood r hAnswer) hRest
              · exact ih (hNone r hAnswer) hRest

end Courses

/-- What holds at the start, and is kept by the effects that do not count and by good answers to
those that do, holds wherever an effect is asked for that counts. -/
theorem holds_at_visit (h : Rations counts good plan p) {answering : Answering E Ans σ}
    {P : σ → Prop} (hIdle : ∀ e s, counts e = false → P s → P (answering e s).2)
    (hGood : ∀ e s r, counts e = true → P s → (answering e s).1 = some r → good e r →
      P (answering e s).2)
    {s : σ} (hStart : P s) :
    ∀ v ∈ p.visits answering s, counts v.1 = true → P v.2 := by
  induction p generalizing plan s with
  | done a => simp [visits]
  | perform e next ih =>
      intro v hv hCounts
      rw [visits] at hv
      rcases List.mem_cons.mp hv with rfl | hv
      · exact hStart
      · have hKept := hIdle e s
        have hAnswered := fun r => hGood e s r
        generalize answering e s = y at hv hKept hAnswered
        obtain ⟨r, s'⟩ := y
        cases r with
        | none => simp at hv
        | some r =>
            cases h with
            | idle hNone hNext => exact ih r (hNext r) (hKept hNone hStart) v hv hCounts
            | spend hSome hNext hBad =>
                by_cases hAnswer : good e r
                · exact ih r (hNext r hAnswer) (hAnswered r hSome hStart rfl hAnswer) v hv hCounts
                · -- Nothing that counts is asked for any more.
                  have hNone := (hBad r hAnswer).counts_eq_false (course_run answering _ s')
                  have hEffect := List.mem_map_of_mem (f := Prod.fst) hv
                  rw [map_visits] at hEffect
                  obtain ⟨y, hy, hEq⟩ := List.mem_map.mp hEffect
                  simp [← hEq, hNone y hy] at hCounts

end Rations

end SpeedTest.Program
