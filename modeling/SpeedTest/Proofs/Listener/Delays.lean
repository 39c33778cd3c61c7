import Mathlib.Algebra.Group.Nat.Defs
import Mathlib.Data.List.DropRight
import SpeedTest.Duration.Reader
import SpeedTest.Proofs.Listener.Orderly

/-! How long a listener pauses between attempts to accept. Each delay is told by the number of
failures since the last success, whatever has happened before that, and it is far too short for the
doubling to leave the range of a length of time. -/

namespace SpeedTest

/-- A length of time several times over, if its seconds fit into 64 bits. -/
def Duration.times? (d : Duration) (n : Nat) : Option Duration :=
  let secs := d.secs * n + d.nanos * n / nanosPerSecond
  if secs ≤ maxCount then some ⟨secs, d.nanos * n % nanosPerSecond⟩ else none

theorem Duration.times?_ofNanos {m n : Nat} (h : m * n / nanosPerSecond ≤ maxCount) :
    (ofNanos m).times? n = some (ofNanos (m * n)) := by
  have hSplit : m * n =
      nanosPerSecond * (m / nanosPerSecond * n) + m % nanosPerSecond * n := by
    rw [← Nat.mul_assoc, ← Nat.add_mul, Nat.div_add_mod]
  have hSecs : m / nanosPerSecond * n + m % nanosPerSecond * n / nanosPerSecond =
      m * n / nanosPerSecond := by
    rw [hSplit, Nat.mul_add_div (by decide)]
  have hNanos : m % nanosPerSecond * n % nanosPerSecond = m * n % nanosPerSecond := by
    rw [hSplit, Nat.mul_add_mod]
  simp only [times?, ofNanos, hSecs, hNanos, if_pos h]

namespace Backoff

/-- The state after a sequence of attempts. -/
def after (b : Backoff) (attempts : List Attempt) : Backoff :=
  attempts.foldl (fun b a =>
    match a with
    | .failure => b.failed.2
    | .success => b.reset) b

/-- How many of the attempts have failed since the last success, or since the first attempt. -/
def streak (attempts : List Attempt) : Nat :=
  (attempts.rtakeWhile (· = .failure)).length

/-- The delay that follows a streak. -/
def delayBehind (k : Nat) : Nat := min (5 * 2 ^ k) 1000

variable {attempts : List Attempt}

theorem after_append (b : Backoff) (first second : List Attempt) :
    b.after (first ++ second) = (b.after first).after second := List.foldl_append

theorem delays_append (b : Backoff) (first second : List Attempt) :
    b.delays (first ++ second) = b.delays first ++ (b.after first).delays second := by
  induction first generalizing b with
  | nil => rfl
  | cons a first ih => cases a <;> exact congrArg (_ :: ·) (ih _)

@[simp] theorem streak_failure (attempts : List Attempt) :
    streak (attempts ++ [.failure]) = streak attempts + 1 := by
  simp [streak]

@[simp] theorem streak_success (attempts : List Attempt) : streak (attempts ++ [.success]) = 0 := by
  simp [streak]

theorem delayBehind_succ (k : Nat) : delayBehind (k + 1) = min (2 * delayBehind k) 1000 := by
  unfold delayBehind
  rw [Nat.pow_succ]
  omega

theorem delayBehind_le (k : Nat) : delayBehind k ≤ 1000 := Nat.min_le_right _ _

theorem le_delayBehind (k : Nat) : 5 ≤ delayBehind k := by
  have hPow : 0 < 2 ^ k := Nat.two_pow_pos k
  unfold delayBehind
  omega

theorem delayBehind_mono {k k' : Nat} (h : k ≤ k') : delayBehind k ≤ delayBehind k' := by
  have hPow : 2 ^ k ≤ 2 ^ k' := Nat.pow_le_pow_right (by decide) h
  unfold delayBehind
  omega

/-- What is stored is the delay behind the streak. -/
theorem after_fresh (attempts : List Attempt) :
    fresh.after attempts = ⟨delayBehind (streak attempts)⟩ := by
  -- A streak grows and ends at the end of the attempts, so that is where the induction goes.
  induction attempts using List.reverseRecOn with
  | nil => rfl
  | append_singleton attempts a ih =>
      rw [after_append, ih]
      cases a with
      | failure =>
          rw [streak_failure, delayBehind_succ]
          rfl
      | success =>
          rw [streak_success]
          rfl

theorem getElem?_delays (b : Backoff) (attempts : List Attempt) (i : Nat) :
    (b.delays attempts)[i]? = attempts[i]?.map fun
      | .failure => some (b.after (attempts.take i)).next
      | .success => none := by
  induction attempts generalizing b i with
  | nil => rfl
  | cons a rest ih =>
      cases a <;> cases i with
      | zero => rfl
      | succ i => exact ih _ i

theorem streak_take_le {i j : Nat} (hLe : i ≤ j)
    (hFailures : ∀ k, i ≤ k → k < j → attempts[k]? = some .failure) :
    streak (attempts.take i) ≤ streak (attempts.take j) := by
  induction j, hLe using Nat.le_induction with
  | base => exact Nat.le_refl _
  | succ j hLe ih =>
      have hLast : attempts[j]? = some .failure := hFailures j hLe (Nat.lt_succ_self j)
      rw [List.take_add_one, hLast, Option.toList_some, streak_failure]
      exact Nat.le_succ_of_le (ih fun k hk hkj => hFailures k hk (Nat.lt_succ_of_lt hkj))

end Backoff

namespace AcceptLoop

open Backoff (Attempt)

/-- What has come of the attempts to accept, in order. -/
def attempts (deeds : List Deed) : List Attempt :=
  deeds.filterMap fun
    | .accept _ => some .success
    | .pause _ => some .failure
    | _ => none

/-- The pauses, in order. -/
def pauses (deeds : List Deed) : List Nat :=
  deeds.filterMap fun
    | .pause milliseconds => some milliseconds
    | _ => none

/-- The pauses in a list of deeds are the delays behind its attempts, and bring the loop from the
one state to the other. -/
structure Paces (b : Backoff) (deeds : List Deed) (b' : Backoff) : Prop where
  pauses_eq : pauses deeds = (b.delays (attempts deeds)).filterMap id
  after_eq : b' = b.after (attempts deeds)

theorem Paces.quiet (b : Backoff) : Paces b [] b := ⟨rfl, rfl⟩

theorem Paces.finish (l : AcceptLoop) : Paces l.backoff l.finish.1 l.finish.2.backoff := ⟨rfl, rfl⟩

theorem Paces.append {b b' b'' : Backoff} {first second : List Deed} (h : Paces b first b')
    (h' : Paces b' second b'') : Paces b (first ++ second) b'' := by
  have hAttempts : attempts (first ++ second) = attempts first ++ attempts second :=
    List.filterMap_append
  constructor
  · rw [hAttempts, Backoff.delays_append, List.filterMap_append, ← h.pauses_eq, ← h.after_eq,
      ← h'.pauses_eq]
    exact List.filterMap_append
  · rw [hAttempts, Backoff.after_append, ← h.after_eq]
    exact h'.after_eq

theorem paces_heed {otherwise : AcceptLoop → List Deed × AcceptLoop} {l : AcceptLoop}
    (h : Paces l.backoff (otherwise l).1 (otherwise l).2.backoff) :
    Paces l.backoff (l.heed otherwise).1 (l.heed otherwise).2.backoff := by
  unfold heed
  split
  · exact .quiet _
  · exact .finish l
  · exact h

theorem paces_take (l : AcceptLoop) (offer : Offer) :
    Paces l.backoff (take offer l).1 (take offer l).2.backoff := by
  cases offer with
  | nobody => exact .quiet _
  | client peer => exact ⟨rfl, rfl⟩
  | failure cause => exact .quiet _

theorem paces_turn (l : AcceptLoop) (offer : Offer) :
    Paces l.backoff (l.turn offer).1 (l.turn offer).2.backoff := by
  cases hPhase : l.phase with
  | looking =>
      simp only [turn, hPhase, look]
      split
      · exact .finish _
      · exact .quiet _
  | waiting =>
      simp only [turn, hPhase]
      exact paces_heed (.quiet _)
  | trying =>
      simp only [turn, hPhase]
      exact paces_take l offer
  | failing cause =>
      simp only [turn, hPhase, retry]
      split
      · exact .finish _
      · exact ⟨rfl, rfl⟩
  | pausing =>
      simp only [turn, hPhase]
      exact paces_heed (.quiet _)
  | ended =>
      simp only [turn, hPhase]
      exact .quiet _

theorem paces_react (l : AcceptLoop) (e : Event) :
    Paces l.backoff (l.react e).1 (l.react e).2.backoff := by
  cases e with
  | set stop => exact .quiet _
  | release => exact .quiet _
  | turn offer => exact paces_turn l offer
  | expire => simp only [react]; split <;> exact .quiet _

theorem paces_run (l : AcceptLoop) (events : List Event) :
    Paces l.backoff (l.run events).1 (l.run events).2.backoff := by
  induction events generalizing l with
  | nil => exact .quiet _
  | cons e rest ih => exact (paces_react l e).append (ih (l.react e).2)

end AcceptLoop

namespace Backoff

/-- Behind each failure comes a delay of five milliseconds, doubled for each failure since the last
success, but never more than a second; behind a success comes none. So a delay is never shorter than
five milliseconds, and no shorter than the one before it if nothing has succeeded in between. The
stored delay can always be doubled in 64 bits. The pauses of a listener are these delays, whatever
happens around it. -/
theorem delays_double (attempts : List Attempt) :
    (∀ i : Nat, (fresh.delays attempts)[i]? = attempts[i]?.map fun
      | .failure => some (min (5 * 2 ^ streak (attempts.take i)) 1000)
      | .success => none) ∧
    (∀ d, some d ∈ fresh.delays attempts → 5 ≤ d ∧ d ≤ 1000) ∧
    (∀ i j d d' : Nat, i ≤ j → (∀ k, i ≤ k → k < j → attempts[k]? = some .failure) →
      (fresh.delays attempts)[i]? = some (some d) →
      (fresh.delays attempts)[j]? = some (some d') → d ≤ d') ∧
    (Duration.ofMillis (fresh.after attempts).next).times? 2 =
      some (Duration.ofMillis (2 * (fresh.after attempts).next)) ∧
    ∀ address shutdown events,
      let deeds := ((AcceptLoop.start address shutdown).run events).1
      AcceptLoop.pauses deeds = (fresh.delays (AcceptLoop.attempts deeds)).filterMap id := by
  have hDelay (i : Nat) : (fresh.delays attempts)[i]? = attempts[i]?.map fun
      | .failure => some (delayBehind (streak (attempts.take i)))
      | .success => none := by
    rw [getElem?_delays, after_fresh]
  have hOf {i d : Nat} (h : (fresh.delays attempts)[i]? = some (some d)) :
      d = delayBehind (streak (attempts.take i)) := by
    rw [hDelay, Option.map_eq_some_iff] at h
    obtain ⟨a, -, hSome⟩ := h
    cases a <;> simp at hSome
    exact hSome.symm
  refine ⟨hDelay, ?_, ?_, ?_, ?_⟩
  · intro d hd
    obtain ⟨i, hAt⟩ := List.mem_iff_getElem?.mp hd
    rw [hOf hAt]
    exact ⟨le_delayBehind _, delayBehind_le _⟩
  · intro i j d d' hLe hFailures hFirst hSecond
    rw [hOf hFirst, hOf hSecond]
    exact delayBehind_mono (streak_take_le hLe hFailures)
  · have hNext : (fresh.after attempts).next ≤ 1000 := by
      rw [after_fresh]
      exact delayBehind_le _
    have hFits : (fresh.after attempts).next * 1000000 * 2 / nanosPerSecond ≤
        Duration.maxCount := by
      unfold nanosPerSecond Duration.maxCount
      omega
    rw [Duration.ofMillis, Duration.times?_ofNanos hFits, Duration.ofMillis, Nat.mul_right_comm,
      Nat.mul_comm _ 2]
  · intro address shutdown events
    exact (AcceptLoop.paces_run (.start address shutdown) events).pauses_eq

/-- The cap is reached with the ninth failure, and a success brings the delay back to where it
began. -/
example : fresh.delays (List.replicate 9 .failure ++ [.success, .failure]) =
    [5, 10, 20, 40, 80, 160, 320, 640, 1000].map some ++ [none, some 5] := by
  decide

end Backoff

end SpeedTest
