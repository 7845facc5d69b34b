import DigitalTwin.Entity.State
import DigitalTwin.Error
import DigitalTwin.Table

/-!
The broker within the process. A key has one handler at most, the one that subscribed last. A published
message is handled at once; a queued one waits for a run, which handles the queue in order and is the
only one while it lasts.
-/

namespace DigitalTwin

/-- A broker whose handlers are named by `η`. -/
structure Broker (η : Type) where
  handlers : Table RouteKey η
  queue : List Message
  /-- Whether a run has the queue. -/
  running : Bool
deriving Inhabited

namespace Broker

variable {η : Type}

def empty : Broker η := ⟨.empty, [], false⟩

/-- The subscribed keys, in order. -/
def subscriptions (b : Broker η) : List RouteKey := RouteKey.sorted b.handlers.keys

def subscribe (b : Broker η) (key : RouteKey) (handler : η) : Broker η :=
  { b with handlers := b.handlers.insert key handler }

def unsubscribe (b : Broker η) (key : RouteKey) : Broker η :=
  { b with handlers := b.handlers.erase key }

/-- Who handles a message. -/
def handler? (b : Broker η) (m : Message) : Option η := b.handlers.get? m.key

/-- Puts a message behind those that wait. -/
def enqueue (b : Broker η) (m : Message) : Broker η := { b with queue := b.queue ++ [m] }

/-- What the handlers do: each works on a message, and may fail. -/
abbrev Work (η σ : Type) := η → Message → σ → Except ServiceError Unit × σ

/-- Hands a message to its handler, and tells whether there is one. A handler that fails has had the
message all the same. -/
def deliver {σ : Type} (b : Broker η) (work : Work η σ) (m : Message) (s : σ) : Bool × σ :=
  match b.handler? m with
  | none => (false, s)
  | some h => (true, (work h m s).2)

/-- Publishes a message: it is handled at once, and the queue stays as it is. -/
def publish {σ : Type} (b : Broker η) (work : Work η σ) (m : Message) (s : σ) : σ := (b.deliver work m s).2

/-- What a run comes upon in the queue. -/
inductive Item where
  | message (m : Message)
  /-- The mark that is put behind the messages when a run starts. Whoever is handed it starts another run and then
  cancels the one that is under way. -/
  | mark
deriving DecidableEq

/-- What a run comes to. -/
structure Run (σ : Type) where
  delivered : Nat
  /-- What a run comes to that is started within this one. -/
  nested : Nat
  after : σ

/-- Takes the queue for a run, unless another run has it. -/
def begin? (b : Broker η) : Option (List Message × Broker η) :=
  if b.running then none else some (b.queue, { b with queue := [], running := true })

/-- Hands the queue back. -/
def finish (b : Broker η) : Broker η := { b with running := false }

/-- The loop of a run that has the queue: hands on one message after the other and counts those that find a handler,
until it is cancelled at the mark. `again` tells what a run comes to that is started there. -/
def loop {σ : Type} (b : Broker η) (work : Work η σ) (again : σ → Nat) : List Item → Run σ → Run σ
  | [], run => run
  | .mark :: _, run => { run with nested := again run.after }
  | .message m :: rest, run =>
    let (found, s) := b.deliver work m run.after
    b.loop work again rest { run with delivered := if found then run.delivered + 1 else run.delivered, after := s }

/-- A run over the messages that wait when it starts, up to the mark behind them. The run that is started there finds
the queue taken. -/
def run {σ : Type} (b : Broker η) (work : Work η σ) (s : σ) : Run σ × Broker η :=
  match b.begin? with
  | none => (⟨0, 0, s⟩, b)
  | some (messages, busy) =>
    let again (s : σ) : Nat := match busy.begin? with
      | none => 0
      | some (more, other) => (other.loop work (fun _ => 0) (more.map .message) ⟨0, 0, s⟩).delivered
    (busy.loop work again (messages.map .message ++ [.mark]) ⟨0, 0, s⟩, busy.finish)

end Broker

end DigitalTwin
