import SpeedTest.Server.Host
import SpeedTest.Proofs.Server.Start

/-! The accept loops of a machine in memory are those that a server has started there and not
aborted since, whatever happens meanwhile. -/

namespace SpeedTest.Server.Host

/-- The accept loops, in the order in which they were started. -/
def loops (h : Host) : List LoopId := h.residents.map Resident.loop

@[simp] theorem loops_note (e : Log.Entry) (h : Host) : (h.note e).loops = h.loops := rfl

@[simp] theorem loops_advanceAll (f : Doorway → Doorway) (h : Host) :
    (h.advanceAll f).loops = h.loops := by
  simp [loops, advanceAll, Resident.advance, Function.comp_def]

@[simp] theorem loops_settle (h : Host) : h.settle.loops = h.loops := loops_advanceAll _ h

@[simp] theorem loops_happen (x : Happening) (h : Host) : (h.happen x).loops = h.loops := by
  simp only [happen, loops_advanceAll]
  split <;> rfl

@[simp] theorem loops_await (future : List Happening) (h : Host) :
    (h.await future).2.loops = h.loops := by
  induction future generalizing h with
  | nil => rw [await]; split <;> rfl
  | cons x rest ih =>
      rw [await]
      split
      · rfl
      · exact (ih _).trans (loops_happen x h)

@[simp] theorem loops_resolve (text : String) (h : Host) : (h.resolve text).2.loops = h.loops := by
  simp only [resolve]
  split
  · rfl
  · exact loops_settle h

@[simp] theorem loops_bind (a : SocketAddress) (h : Host) : (h.bind a).2.loops = h.loops := by
  simp only [bind]
  generalize (if a.port = 0 then { a with port := h.freePort } else a) = a'
  split <;> rfl

@[simp] theorem loops_offerMetrics (port : Nat) (h : Host) :
    (h.offerMetrics port).loops = h.loops := by
  have hBind := loops_bind (Metrics.address port) h
  rw [offerMetrics]
  split
  · rename_i hEq
    rw [hEq] at hBind
    exact hBind
  · rename_i hEq
    rw [hEq] at hBind
    exact hBind

theorem loops_spawn (a : SocketAddress) (service : Service) (h : Host) :
    (h.spawn a service).2.loops = h.loops ++ [(h.spawn a service).1] := by
  simp [loops, spawn]

theorem loops_abort (id : LoopId) (h : Host) :
    (h.abort id).loops = h.loops.filter (· ≠ id) := by
  simp only [loops, abort, List.filter_map]
  congr 2
  funext r
  cases hSame : r.loop == id <;> simp_all

theorem loops_answer (e : Request) (h : Host) :
    (answer e h).2.loops = enter h.loops ⟨e, (answer e h).1⟩ := by
  cases e with
  | spawn a service => exact loops_spawn a service h
  | abort id => exact loops_abort id h
  | load cert key => rfl
  | resolve text => exact loops_resolve text h
  | bind a => exact loops_bind a h
  | offerMetrics port => exact loops_offerMetrics port h
  | awaitShutdown => exact (loops_await h.future _).trans (loops_settle h)
  | awaitEnd id => exact loops_settle h
  | note e => rfl

theorem loops_run {α : Type} (p : Script α) (h : Host) :
    (p.run answer h).2.loops = (p.transcript answer h).foldl enter h.loops := by
  induction p generalizing h with
  | done a => rfl
  | perform e next ih =>
      have hAnswer := loops_answer e h
      rw [Program.run, Program.transcript]
      generalize answer e h = x at hAnswer
      obtain ⟨r, h'⟩ := x
      cases r with
      | none => exact hAnswer
      | some r =>
          rw [List.foldl_cons, ← hAnswer]
          exact ih r h'

/-- On a machine on which nothing runs, the loops of a server that starts are all that runs there,
and nothing runs if it fails to. -/
theorem loops_of_start (l : ListenConfig) (c : ServerConfig) {h : Host} (hIdle : h.residents = []) :
    (∀ r, (h.start l c).1 = some (.ok r) → (h.start l c).2.loops = r.loops) ∧
      ∀ e, (h.start l c).1 = some (.error e) → (h.start l c).2.residents = [] := by
  have hLeft : (h.start l c).2.loops = left ((Server.start l c).transcript answer h) := by
    rw [start, loops_run, left, loops, hIdle, List.map_nil]
  have hCourse := Program.course_run answer (Server.start l c) h
  refine ⟨fun r hResult => ?_, fun e hResult => ?_⟩
  · rw [start] at hResult
    rw [hResult] at hCourse
    exact hLeft.trans (isRunning_of_course hCourse).1.loops
  · rw [start] at hResult
    rw [hResult] at hCourse
    rw [(undone_of_course hCourse).1] at hLeft
    exact List.map_eq_nil_iff.mp hLeft

end SpeedTest.Server.Host
