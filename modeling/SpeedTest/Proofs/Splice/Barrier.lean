import SpeedTest.Proofs.Splice.Waiting

/-! Neither stream of a splice goes away while bytes still move in either direction. Once they have
stopped in both, however they stopped, only the party that has waited for this acts, and it closes
the two streams in a fixed order. Until then it does nothing. -/

namespace SpeedTest

open Relation (ReflTransGen ReflGen)

namespace Splice

namespace State

variable {upDelays downDelays : Copy.Delays} {client target : Stream} {s t final : State}
  {u d : Except IoError Nat}

/-- Both directions have ended, the first with `u` and the second with `d`. -/
structure BothEnded (u d : Except IoError Nat) (s : State) : Prop where
  up : s.up = .ended u
  down : s.down = .ended d

/-- As long as a direction is under way, the books are those of the beginning. -/
theorem Kept.books_of_running (h : Kept client target s) (hRunning : ∀ u d, ¬ s.BothEnded u d)
    (u d : Except IoError Nat) : s.stage = .open ∧ s.books = booksAt client target u d .open := by
  obtain ⟨-, -, u', d', hBooks, hEnded⟩ := h
  have hStage : s.stage = .open := by
    refine Decidable.byContradiction fun hLater => ?_
    obtain ⟨hUp, hDown⟩ := hEnded hLater
    exact hRunning u' d' ⟨hUp, hDown⟩
  rw [hStage] at hBooks
  exact ⟨hStage, hBooks⟩

/-- Once both directions have ended, the books are those of their results. -/
theorem Kept.books_of_ended (h : Kept client target s) (hEnded : s.BothEnded u d) :
    s.books = booksAt client target u d s.stage := by
  obtain ⟨-, -, u', d', hBooks, hLater⟩ := h
  by_cases hStage : s.stage = .open
  · -- The first stage has nothing on record that depends on the results.
    rw [hStage] at hBooks ⊢
    exact hBooks
  · obtain ⟨hUp, hDown⟩ := hLater hStage
    cases hEnded.up.symm.trans hUp
    cases hEnded.down.symm.trans hDown
    exact hBooks

/-- The party that waits for both directions takes a step. -/
def Joins (s t : State) : Prop := s.stepJoin = some t

theorem Joins.bothEnded (h : Joins s t) (hEnded : s.BothEnded u d) : t.BothEnded u d := by
  obtain ⟨-, -, -, -, ⟨-, rfl⟩ | ⟨-, rfl⟩ | ⟨-, rfl⟩⟩ := cases_of_stepJoin h
  all_goals exact ⟨hEnded.up, hEnded.down⟩

/-- When both directions have ended, nobody else has a turn. -/
theorem BothEnded.joins (hEnded : s.BothEnded u d) (h : Turn upDelays downDelays s t) :
    Joins s t := by
  rcases cases_of_turn h with ⟨_, _, _, -, hUp⟩ | ⟨_, _, _, -, hDown⟩ | hJoin
  · exact absurd hEnded.up (hUp.ne_ended u)
  · exact absurd hEnded.down (hDown.ne_ended d)
  · exact hJoin

theorem BothEnded.of_joins (hEnded : s.BothEnded u d) (h : ReflTransGen Joins s t) :
    t.BothEnded u d := by
  induction h with
  | refl => exact hEnded
  | tail _ hJoin ih => exact hJoin.bothEnded ih

theorem BothEnded.joins_of_turns (hEnded : s.BothEnded u d)
    (h : Turns upDelays downDelays s t) : ReflTransGen Joins s t := by
  induction h with
  | refl => exact .refl
  | tail _ hTurn ih => exact ih.tail ((hEnded.of_joins ih).joins hTurn)

theorem turns_of_joins (h : ReflTransGen Joins s t) :
    Turns upDelays downDelays s t :=
  turns_of_steps (ReflTransGen.mono (fun _ _ => Step.join) _ _ h)

/-- The party that closes the streams never has a choice, so that everything it does leads to where
it can do no more. -/
theorem joins_to_last (hFinal : ReflTransGen Joins s final) (hLast : final.stepJoin = none)
    (h : ReflTransGen Joins s t) : ReflTransGen Joins t final := by
  have hUnique : Relator.RightUnique Joins := by
    intro x y z hy hz
    exact Option.some.inj (hy.symm.trans hz)
  -- Of two states that a run without choices comes to, one lies behind the other.
  rcases h.total_of_right_unique hUnique hFinal with hBefore | hBehind
  · exact hBefore
  · cases hBehind using ReflTransGen.head_induction_on with
    | refl => exact .refl
    | head hJoin _ => exact absurd (hLast.symm.trans hJoin) (by simp)

/-- Once both directions have ended there is one end, and no way past it. -/
theorem BothEnded.exists_final (hEnded : s.BothEnded u d) (upDelays downDelays : Copy.Delays) :
    ∃ final, final.BothEnded u d ∧ final.stage = .released ∧
      (∀ t, Turns upDelays downDelays s t →
        Turns upDelays downDelays t final) ∧
      ∀ t, ¬ Turn upDelays downDelays final t := by
  have hRun : Turns upDelays downDelays s (run s) := turns_of_steps (reaches_run s)
  have hJoins := hEnded.joins_of_turns hRun
  have hEnded' := hEnded.of_joins hJoins
  have hLast := (resting_iff.mp (resting_run s)).2.2
  refine ⟨run s, hEnded', stage_of_resting (resting_run s) hEnded'.up hEnded'.down, ?_, ?_⟩
  · intro t hTurns
    exact turns_of_joins (joins_to_last hJoins hLast (hEnded.joins_of_turns hTurns))
  · intro t hTurn
    exact absurd (hLast.symm.trans (hEnded'.joins hTurn)) (by simp)

end State

open State

/-- The two streams are closed together. In whatever order the directions take their turns, and
however long they are kept waiting:

* as long as one of them has not ended, neither stream has been shut down or released;
* once both have, the client is shut down, then the target, and then both are released. Each of
  this happens once and in any case, whether or not the shutdowns succeed, and nothing follows;
* a splice that goes on for ever with a direction that never ends closes nothing.
-/
theorem closes_behind_both (p : PeekStream) (target : Stream) (upDelays downDelays : Copy.Delays) :
    (∀ t, Turns upDelays downDelays (start p target) t →
      (∀ u d, ¬ t.BothEnded u d) → t.stage = .open ∧ t.books = (start p target).books) ∧
    (∀ t u d, Turns upDelays downDelays (start p target) t → t.BothEnded u d →
      t.books = booksAt p.inner target u d t.stage ∧
        ∃ final, final.stage = .released ∧
          final.books = booksAt p.inner target u d .released ∧
          (∀ x, Turns upDelays downDelays t x →
            Turns upDelays downDelays x final) ∧
          ∀ x, ¬ Turn upDelays downDelays final x) ∧
    (∀ run : Nat → State, run 0 = start p target →
      (∀ n, ReflGen (Turn upDelays downDelays) (run n) (run (n + 1))) →
      ((∀ n result, (run n).up ≠ .ended result) ∨ ∀ n result, (run n).down ≠ .ended result) →
      ∀ n, (run n).stage = .open ∧ (run n).books = (start p target).books) := by
  have hKept {t : State} (h : Turns upDelays downDelays (start p target) t) :
      Kept p.inner target t := (Kept.start rfl rfl).turns h
  have hRunning (t : State) (h : Turns upDelays downDelays (start p target) t)
      (hNot : ∀ u d, ¬ t.BothEnded u d) :
      t.stage = .open ∧ t.books = (start p target).books :=
    (hKept h).books_of_running hNot (.ok 0) (.ok 0)
  refine ⟨hRunning, ?_, ?_⟩
  · intro t u d h hEnded
    refine ⟨(hKept h).books_of_ended hEnded, ?_⟩
    obtain ⟨final, hEnded', hStage, hAll, hLast⟩ := hEnded.exists_final upDelays downDelays
    have hBooks := (hKept (h.trans (hAll t .refl))).books_of_ended hEnded'
    rw [hStage] at hBooks
    exact ⟨final, hStage, hBooks, hAll, hLast⟩
  · intro run hStart hNext hNever n
    have hReached (n : Nat) : Turns upDelays downDelays (start p target) (run n) := by
      induction n with
      | zero => rw [hStart]
      | succ n ih => exact ih.trans (hNext n).to_reflTransGen
    refine hRunning (run n) (hReached n) ?_
    rintro u d ⟨hUp, hDown⟩
    rcases hNever with hUpNever | hDownNever
    · exact hUpNever n u hUp
    · exact hDownNever n d hDown

/-- A client whose second read fails and which cannot be shut down. -/
def stubbornClient : Stream :=
  { Stream.ofArrivals [.chunk [97], .failure .earlyEnd] .finished with
    shutdownFault := fun _ => some .nothingWritten }

/-- A failing shutdown of the client keeps the target from nothing. -/
theorem closes_behind_both_of_stubborn_client :
    let target := Stream.ofArrivals [.chunk [98]] .finished
    let s := run (start (.ofStream stubbornClient) target)
    s.books = booksAt stubbornClient target (.error .earlyEnd) (.ok 1) s.stage ∧
      s.stage = .released ∧ s.books.clientShutdowns = 1 ∧ s.books.targetShutdowns = 1 := by
  intro target s
  obtain ⟨-, hEnds, -⟩ := closes_behind_both (.ofStream stubbornClient) target .none .none
  obtain ⟨hBooks, -⟩ :=
    hEnds s (.error .earlyEnd) (.ok 1) (turns_of_steps (reaches_run _)) ⟨rfl, rfl⟩
  exact ⟨hBooks, rfl, rfl, rfl⟩

end Splice

end SpeedTest
