import DigitalTwin.Hub.Basic
import DigitalTwin.Json.Printer
import DigitalTwin.Text.Utf8

/-!
What the hub says to its transport: the calls that bring the subscriptions in line with the routes, and
the notifications that announce how an operation ended.
-/

namespace DigitalTwin

namespace Hub

/-- Makes one call that changes a subscription. Only one that succeeds reaches the broker. -/
def attempt (call : SubscriptionCall) (hub : Hub) : Bool × Hub :=
  let point : CallPoint := match call with
    | .subscribe _ => .subscribe
    | .unsubscribe _ => .unsubscribe
  let (failure, faults) := hub.faults.next point
  match failure with
  | some _ => (false, { hub with faults, calls := hub.calls ++ [.subscription call false] })
  | none =>
    let broker := match call with
      | .subscribe key => hub.broker.subscribe key ()
      | .unsubscribe key => hub.broker.unsubscribe key
    (true, { hub with faults, broker, calls := hub.calls ++ [.subscription call true] })

/-- Brings the subscriptions in line with the routes, as far as the transport lets it. -/
def alignSubscriptions (hub : Hub) : Hub :=
  let (active, hub) :=
    SubscriptionCall.perform attempt (SubscriptionCall.pending hub.active hub.routes.keys) hub.active hub
  { hub with active }

/-- The publisher of notifications. -/
def publisher : String := "twins"

/-- The notification of how an operation ended. -/
def notification (channel operation : String) (now : Instant) (outcome : Except ServiceError Json) : Message :=
  let (ending, body) := match outcome with
    | .ok report => (".success", report)
    | .error e => (".failure", Json.ofFields [("error", .text e.message)])
  { channel
    subtopic := operation ++ ending
    publisher
    payload := Text.Utf8.encode body.render
    created := now }

/-- Publishes a message; `deliver` is what the broker does with it unless publishing fails. -/
def publish (deliver : Message → Hub → Hub) (m : Message) (hub : Hub) : Hub :=
  let (failure, faults) := hub.faults.next .publish
  match failure with
  | some _ => { hub with faults, calls := hub.calls ++ [.publish m false] }
  | none => deliver m { hub with faults, calls := hub.calls ++ [.publish m true] }

/-- Announces how an operation ended, if there is a channel for it. -/
def notify (deliver : Message → Hub → Hub) (operation : String) (now : Instant)
    (outcome : Except ServiceError Json) (hub : Hub) : Hub :=
  match hub.notifyChannel with
  | none => hub
  | some channel => publish deliver (notification channel operation now outcome) hub

/-- An action whose end is announced. A failure to announce it changes nothing. -/
def announced {α : Type} (deliver : Message → Hub → Hub) (operation : String) (now : Instant)
    (report : α → Json) (action : Action α) : Action α := fun hub =>
  match action hub with
  | .ok a hub => .ok a (notify deliver operation now (.ok (report a)) hub)
  | .error e hub => .error e (notify deliver operation now (.error e) hub)

end Hub

end DigitalTwin
