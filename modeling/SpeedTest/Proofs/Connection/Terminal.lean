import SpeedTest.Proofs.Session.Closing

/-! What can still be done with a connection once somebody has closed it: nothing. The statements
are about operations in any number and order, on either transport. The close itself may fail, and so
may whatever has been done before it. -/

namespace SpeedTest.Connection

/-- What is done with a connection. -/
inductive Operation where
  | read
  | receive (expected : Kind)
  | send (kind : Kind) (text : String)
  | write (f : Frame)
  | close

namespace Operation

/-- What an operation yields. -/
abbrev Yield : Operation → Type
  | .read => Frame
  | .receive _ => Message
  | .send _ _ => Unit
  | .write _ => Unit
  | .close => Channel.Closing

def perform : (o : Operation) → Action Connection ProtocolError o.Yield
  | .read => Connection.read
  | .receive expected => Connection.receive expected
  | .send kind text => Connection.send kind text
  | .write f => Connection.write f
  | .close => Connection.close

/-- The answer to somebody who comes too late. A frame that is too long is refused no differently
from others. -/
def refusal : (o : Operation) → Outcome ProtocolError o.Yield
  | .close => .done .released
  | .read | .receive _ | .send _ _ | .write _ => .failed .closed

end Operation

/-- One operation in a sequence of them. -/
structure Use where
  operation : Operation
  before : Connection
  outcome : Outcome ProtocolError operation.Yield
  after : Connection

/-- What comes of operations in order. Where one waits for ever its caller gives it up, and the next
finds the connection as it was left. -/
def uses : List Operation → Connection → List Use
  | [], _ => []
  | o :: rest, c => ⟨o, c, (o.perform c).1, (o.perform c).2⟩ :: uses rest (o.perform c).2

/-- The same connection over another channel. -/
def withChannel (c : Connection) (channel : Channel) : Connection := { c with channel := channel }

/-- An operation is turned away: it leaves the connection as it is, and over any other channel, of
either transport and in any state, it would have had the same answer and left that channel as it is.
So it neither reads nor writes, flushes or shuts down what is underneath. -/
structure Use.IsRefused (u : Use) : Prop where
  outcome_eq : u.outcome = u.operation.refusal
  after_eq : u.after = u.before
  untouched : ∀ channel, u.operation.perform (u.before.withChannel channel) =
    (u.operation.refusal, u.before.withChannel channel)

variable {c : Connection}

theorem onOpen_of_closed {α : Type} (x : Action Channel ProtocolError α)
    (hClosed : c.isClosed = true) : onOpen x c = (.failed .closed, c) := by
  simp [onOpen, hClosed]

/-- The flag is looked at before anything else, in each operation. -/
theorem perform_of_closed (hClosed : c.isClosed = true) (o : Operation) :
    o.perform c = (o.refusal, c) := by
  cases o with
  | close => exact close_of_closed hClosed
  | read => exact onOpen_of_closed Channel.read hClosed
  | write f => exact onOpen_of_closed (Channel.write f) hClosed
  | send kind text =>
      exact onOpen_of_closed (Channel.write (.ofMessage kind (.ofText text))) hClosed
  | receive expected =>
      show (Connection.read >>= fun f => Action.ofExcept (f.toMessage expected)) c = _
      rw [Action.bind_apply, Connection.read, onOpen_of_closed _ hClosed]
      rfl

/-- A closed connection stays the same connection, and refuses whatever is tried. -/
theorem refused_of_closed (hClosed : c.isClosed = true) (operations : List Operation) :
    ∀ u ∈ uses operations c, u.before = c ∧ u.IsRefused := by
  induction operations with
  | nil => simp [uses]
  | cons o rest ih =>
      have hFirst := perform_of_closed hClosed o
      have hOther (channel : Channel) :
          o.perform (c.withChannel channel) = (o.refusal, c.withChannel channel) :=
        perform_of_closed (c := c.withChannel channel) hClosed o
      intro u hUse
      rw [uses, hFirst] at hUse
      rcases List.mem_cons.mp hUse with rfl | hLater
      · exact ⟨rfl, rfl, rfl, hOther⟩
      · exact ih u hLater

/-- A close closes, even if it fails. -/
theorem isClosed_of_mem_uses {operations : List Operation} {u : Use} (hUse : u ∈ uses operations c)
    (hClose : u.operation = .close) : u.after.isClosed = true := by
  induction operations generalizing c with
  | nil => simp [uses] at hUse
  | cons o rest ih =>
      rcases List.mem_cons.mp hUse with rfl | hLater
      · subst hClose
        exact c.isClosed_close
      · exact ih hLater

/-- Closed is for good. Take any two operations of a sequence of which the first is a close, whether
it has succeeded or failed: the connection is closed behind it, it is the same connection when the
second begins and when that ends, and the second is refused. Reading, receiving, sending and writing
are told that the connection is closed, frames of any length included; closing again is told that
all is well. None of them reaches the stream. -/
theorem closed_for_good (operations : List Operation) (c : Connection) :
    (∀ u ∈ uses operations c, u.operation = .close → u.after.isClosed = true) ∧
      (uses operations c).Pairwise fun u v =>
        u.operation = .close → v.before = u.after ∧ v.after = u.after ∧ v.IsRefused := by
  refine ⟨fun u hUse hClose => isClosed_of_mem_uses hUse hClose, ?_⟩
  induction operations generalizing c with
  | nil => exact .nil
  | cons o rest ih =>
      refine .cons (fun v hLater hClose => ?_) (ih _)
      dsimp only at hClose ⊢
      subst hClose
      obtain ⟨hBefore, hRefused⟩ := refused_of_closed c.isClosed_close rest v hLater
      exact ⟨hBefore, hRefused.after_eq.trans hBefore, hRefused⟩

end SpeedTest.Connection
