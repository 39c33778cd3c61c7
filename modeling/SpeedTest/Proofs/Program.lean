import SpeedTest.Program

/-! Runs of composed programs, and runs in surroundings that answer alike. Nothing here depends on
what the effects are, so that the same facts serve sessions, tests and servers. -/

namespace SpeedTest.Program

variable {E F : Type} {Ans : E → Type} {Reply : F → Type} {α β σ τ : Type}

/-- The effects of a run in order, each with the state in which it was asked for. -/
def visits (answering : Answering E Ans σ) : Program E Ans α → σ → List (E × σ)
  | .done _, _ => []
  | .perform e next, s =>
    (e, s) ::
      match answering e s with
      | (some r, s') => (next r).visits answering s'
      | (none, _) => []

/-- The second program runs where the first has ended. It does not run at all if the first waits
for ever. -/
theorem run_bind (answering : Answering E Ans σ) (p : Program E Ans α)
    (f : α → Program E Ans β) (s : σ) :
    (p.bind f).run answering s =
      match p.run answering s with
      | (some a, s') => (f a).run answering s'
      | (none, s') => (none, s') := by
  induction p generalizing s with
  | done a => rfl
  | perform e next ih =>
      simp only [Program.bind, run]
      obtain ⟨r, s'⟩ := answering e s
      cases r with
      | none => rfl
      | some r => exact ih r s'

theorem bind_assoc {γ : Type} (p : Program E Ans α) (f : α → Program E Ans β)
    (g : β → Program E Ans γ) : (p.bind f).bind g = p.bind fun a => (f a).bind g := by
  induction p with
  | done a => rfl
  | perform e next ih => simp only [Program.bind, ih]

/-- The first effect of a program is the one that it performs. -/
theorem exists_transcript_eq (answering : Answering E Ans σ) (e : E)
    (next : Ans e → Program E Ans α) (s : σ) :
    ∃ rest, (Program.perform e next).transcript answering s = ⟨e, (answering e s).1⟩ :: rest := by
  rw [transcript]
  obtain ⟨r, s'⟩ := answering e s
  cases r with
  | none => exact ⟨[], rfl⟩
  | some r => exact ⟨_, rfl⟩

/-- An effect of a run was asked for in some state, which answered it. -/
theorem exists_visit_of_mem_transcript (answering : Answering E Ans σ) (p : Program E Ans α) (s : σ)
    {e : E} {a : Option (Ans e)} (h : ⟨e, a⟩ ∈ p.transcript answering s) :
    ∃ t, (e, t) ∈ p.visits answering s ∧ (answering e t).1 = a := by
  induction p generalizing s with
  | done r => cases h
  | perform e' next ih =>
      rw [transcript] at h
      rw [visits]
      generalize hStep : answering e' s = x at h
      obtain ⟨_ | r, s'⟩ := x
      · obtain ⟨rfl, rfl⟩ := List.mem_singleton.mp h
        exact ⟨s, List.mem_cons_self, by rw [hStep]⟩
      · obtain _ | ⟨_, hRest⟩ := h
        · exact ⟨s, List.mem_cons_self, by rw [hStep]⟩
        · obtain ⟨t, hVisit, hAnswer⟩ := ih r s' hRest
          exact ⟨t, List.mem_cons_of_mem _ hVisit, hAnswer⟩

/-- The effects of a run with the states around them, and with their answers. -/
theorem map_visits (answering : Answering E Ans σ) (p : Program E Ans α) (s : σ) :
    (p.visits answering s).map Prod.fst = (p.transcript answering s).map Sigma.fst := by
  induction p generalizing s with
  | done a => rfl
  | perform e next ih =>
      rw [visits, transcript]
      obtain ⟨r, s'⟩ := answering e s
      cases r with
      | none => rfl
      | some r => exact congrArg _ (ih r s')

/-- The effects of a composed program are those of the first, then those of the second. -/
theorem transcript_bind (answering : Answering E Ans σ) (p : Program E Ans α)
    (f : α → Program E Ans β) (s : σ) :
    (p.bind f).transcript answering s =
      p.transcript answering s ++
        match p.run answering s with
        | (some a, s') => (f a).transcript answering s'
        | (none, _) => [] := by
  induction p generalizing s with
  | done a => rfl
  | perform e next ih =>
      simp only [Program.bind, transcript, run]
      obtain ⟨r, s'⟩ := answering e s
      cases r with
      | none => rfl
      | some r => exact congrArg _ (ih r s')

theorem interpret_bind (step : (e : E) → Program F Reply (Ans e)) (p : Program E Ans α)
    (f : α → Program E Ans β) :
    (p.bind f).interpret step = (p.interpret step).bind fun a => (f a).interpret step := by
  induction p with
  | done a => rfl
  | perform e next ih =>
      simp only [Program.bind, interpret, ih]
      rw [bind_assoc]

/-- A program whose effects are carried out by further programs runs like the original one, in
surroundings that answer an effect by running the program for it. -/
theorem run_interpret (answering : Answering F Reply σ)
    (step : (e : E) → Program F Reply (Ans e)) (p : Program E Ans α) (s : σ) :
    (p.interpret step).run answering s = p.run (fun e s => (step e).run answering s) s := by
  induction p generalizing s with
  | done a => rfl
  | perform e next ih =>
      rw [interpret, run_bind, run]
      obtain ⟨r, s'⟩ := (step e).run answering s
      cases r with
      | none => rfl
      | some r => exact ih r s'

/-- Whatever the answers are, a program asks for effects with the property `P` and no others. -/
def All (P : E → Prop) : Program E Ans α → Prop
  | .done _ => True
  | .perform e next => P e ∧ ∀ r, (next r).All P

theorem All.bind {P : E → Prop} {p : Program E Ans α} {f : α → Program E Ans β} (hp : p.All P)
    (hf : ∀ a, (f a).All P) : (p.bind f).All P := by
  induction p with
  | done a => exact hf a
  | perform e next ih => exact ⟨hp.1, fun r => ih r (hp.2 r)⟩

theorem All.interpret {P : E → Prop} {Q : F → Prop} {step : (e : E) → Program F Reply (Ans e)}
    (hStep : ∀ e, P e → (step e).All Q) {p : Program E Ans α} (hp : p.All P) :
    (p.interpret step).All Q := by
  induction p with
  | done a => trivial
  | perform e next ih => exact (hStep e hp.1).bind fun r => ih r (hp.2 r)

/-- A course that a program may take: its effects in order, each with its answer, and its result.
There is none where the last answer never comes. -/
inductive Course : Program E Ans α → List ((e : E) × Option (Ans e)) → Option α → Prop
  | done (a : α) : Course (.done a) [] (some a)
  | waiting (e : E) (next : Ans e → Program E Ans α) : Course (.perform e next) [⟨e, none⟩] none
  | answered {e : E} {next : Ans e → Program E Ans α} {t : List ((e : E) × Option (Ans e))}
      {x : Option α} (r : Ans e) (h : Course (next r) t x) :
      Course (.perform e next) (⟨e, some r⟩ :: t) x

theorem course_run (answering : Answering E Ans σ) (p : Program E Ans α) (s : σ) :
    p.Course (p.transcript answering s) (p.run answering s).1 := by
  induction p generalizing s with
  | done a => exact .done a
  | perform e next ih =>
      rw [transcript, run]
      obtain ⟨r, s'⟩ := answering e s
      cases r with
      | none => exact .waiting e next
      | some r => exact .answered r (ih r s')

/-- A composed program that comes to a result does so by a result of its first part. -/
theorem Course.of_bind {p : Program E Ans α} {f : α → Program E Ans β}
    {t : List ((e : E) × Option (Ans e))} {b : β} (h : (p.bind f).Course t (some b)) :
    ∃ a first second, p.Course first (some a) ∧ (f a).Course second (some b) ∧
      t = first ++ second := by
  induction p generalizing t with
  | done a => exact ⟨a, [], t, .done a, h, rfl⟩
  | perform e next ih =>
      cases h with
      | answered r h =>
          obtain ⟨a, first, second, hFirst, hSecond, rfl⟩ := ih r h
          exact ⟨a, ⟨e, some r⟩ :: first, second, .answered r hFirst, hSecond, rfl⟩

theorem Course.eq_none_iff {p : Program E Ans α} {t : List ((e : E) × Option (Ans e))}
    {x : Option α} (h : p.Course t x) : x = none ↔ ∃ e, ⟨e, none⟩ ∈ t := by
  induction h with
  | done a => simp
  | waiting e next => simp
  | answered r h ih =>
      rw [ih]
      refine exists_congr fun e => ?_
      rw [List.mem_cons]
      exact (or_iff_right nofun).symm

theorem Course.all {P : E → Prop} {p : Program E Ans α} {t : List ((e : E) × Option (Ans e))}
    {x : Option α} (h : p.Course t x) (hAll : p.All P) : ∀ y ∈ t, P y.1 := by
  induction h with
  | done a => simp
  | waiting e next => simpa using hAll.1
  | answered r h ih =>
      intro y hy
      rcases List.mem_cons.mp hy with rfl | hy
      · exact hAll.1
      · exact ih (hAll.2 r) y hy

/-- Two surroundings answer alike: in related states they give the same answer to every effect and
are related again. -/
def Alike (first : Answering E Ans σ) (second : Answering E Ans τ) (rel : σ → τ → Prop) : Prop :=
  ∀ e s t, rel s t → (first e s).1 = (second e t).1 ∧ rel (first e s).2 (second e t).2

section Alike

variable {first : Answering E Ans σ} {second : Answering E Ans τ} {rel : σ → τ → Prop}
  {s : σ} {t : τ}

theorem Alike.run (h : Alike first second rel) (p : Program E Ans α) (hRel : rel s t) :
    (p.run first s).1 = (p.run second t).1 ∧ rel (p.run first s).2 (p.run second t).2 := by
  induction p generalizing s t with
  | done a => exact ⟨rfl, hRel⟩
  | perform e next ih =>
      have hStep := h e s t hRel
      simp only [Program.run]
      generalize first e s = x at hStep
      generalize second e t = y at hStep
      obtain ⟨r, s'⟩ := x
      obtain ⟨r', t'⟩ := y
      obtain ⟨rfl, hRel'⟩ := hStep
      cases r with
      | none => exact ⟨rfl, hRel'⟩
      | some r => exact ih r hRel'

/-- Alike surroundings are asked for the same effects in the same order. -/
theorem Alike.transcript (h : Alike first second rel) (p : Program E Ans α) (hRel : rel s t) :
    p.transcript first s = p.transcript second t := by
  induction p generalizing s t with
  | done a => rfl
  | perform e next ih =>
      have hStep := h e s t hRel
      simp only [Program.transcript]
      generalize first e s = x at hStep
      generalize second e t = y at hStep
      obtain ⟨r, s'⟩ := x
      obtain ⟨r', t'⟩ := y
      obtain ⟨rfl, hRel'⟩ := hStep
      cases r with
      | none => rfl
      | some r => simp only [ih r hRel']

end Alike

end SpeedTest.Program
