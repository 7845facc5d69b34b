import DigitalTwin.Entity.RouteKey

/-!
Subscriptions at the transport, and the calls that bring them in line with the routed keys: those that
are no longer wanted are cancelled first, then the missing ones are made, each in order. A call that
fails is left for the next time.
-/

namespace DigitalTwin

/-- A call that changes a subscription. -/
inductive SubscriptionCall where
  | subscribe (key : RouteKey)
  | unsubscribe (key : RouteKey)
deriving DecidableEq, Repr

namespace SubscriptionCall

/-- The calls that turn the active subscriptions into the wanted ones. -/
def pending (active wanted : List RouteKey) : List SubscriptionCall :=
  (RouteKey.difference active wanted).map .unsubscribe ++ (RouteKey.difference wanted active).map .subscribe

/-- The active subscriptions after a call that succeeded. -/
def settle (active : List RouteKey) : SubscriptionCall → List RouteKey
  | .subscribe key => active.insert key
  | .unsubscribe key => active.erase key

/-- Makes calls in order. `attempt` makes one and tells whether it succeeded. -/
def perform {σ : Type} (attempt : SubscriptionCall → σ → Bool × σ) :
    List SubscriptionCall → List RouteKey → σ → List RouteKey × σ
  | [], active, s => (active, s)
  | call :: rest, active, s =>
    let (succeeded, s) := attempt call s
    perform attempt rest (if succeeded then call.settle active else active) s

end SubscriptionCall

end DigitalTwin
