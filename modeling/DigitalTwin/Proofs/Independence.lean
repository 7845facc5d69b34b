import DigitalTwin.Proofs.TwinStore
import DigitalTwin.Proofs.TwoRuns

/-! What the transport cannot reach. Two hubs over equal records make the same calls, of which the second sends
    notifications and the first does not, and their transports fail each in its own way. Their subscriptions
    drift apart. What they answer, store and route does not: an action reads nothing of the transport, and the
    channel of the notifications only to refuse what nobody persists there. -/

namespace DigitalTwin

/-! ### Failures of the transport and others -/

namespace FaultPlan

variable {plan plan' plan'' : FaultPlan} {point : CallPoint}

/-- Two plans have the same failures in store, those of the transport apart. -/
def Alike (plan plan' : FaultPlan) : Prop :=
  ∀ point, point.isTransport = false → ∀ n, plan.outcome? point n = plan'.outcome? point n

namespace Alike

theorem refl (plan : FaultPlan) : Alike plan plan := fun _ _ _ => rfl

theorem symm (h : Alike plan plan') : Alike plan' plan := fun point hp n => (h point hp n).symm

theorem trans (h : Alike plan plan') (h' : Alike plan' plan'') : Alike plan plan'' :=
  fun point hp n => (h point hp n).trans (h' point hp n)

/-- A call at one and the same point leaves two plans alike. --/
theorem next (h : Alike plan plan') (point : CallPoint) : Alike (plan.next point).2 (plan'.next point).2 := by
  intro other ho n
  by_cases heq : other = point
  · subst heq
    rw [outcome?_next, outcome?_next]
    exact h other ho (n + 1)
  · rw [outcome?_next_of_ne heq, outcome?_next_of_ne heq]
    exact h other ho n

/-- A call of the transport does not count. --/
theorem next_transport (plan : FaultPlan) (hp : point.isTransport = true) : Alike plan (plan.next point).2 := by
  intro other ho n
  have hne : other ≠ point := by
    rintro rfl
    rw [hp] at ho
    cases ho
  exact (outcome?_next_of_ne hne n).symm

end Alike
end FaultPlan

/-! ### Definitions that leave a channel alone -/

/-- Nothing of a definition is persisted on a channel. -/
def Definition.Shuns (channel : String) (d : Definition) : Prop := ∀ a ∈ d.persisted, a.channel ≠ channel

/-- Nothing of a twin is persisted on a channel now. -/
def Twin.Shuns (channel : String) (twin : Twin) : Prop := ∀ d, twin.current? = some d → d.Shuns channel

variable {channel : String}

/-- To keep a channel for notifications refuses no definition that persists nothing there. --/
theorem Definition.Shuns.requireRoutable {d : Definition} (h : d.Shuns channel) :
    d.requireRoutable none = d.requireRoutable (some channel) := by
  have unreserved : d.requireUnreserved (some channel) = .ok () :=
    requireUnreserved_eq_ok.mpr fun a ha heq => h a ha (Option.some.inj heq)
  unfold Definition.requireRoutable
  rw [unreserved]
  rfl

namespace Twin.Shuns

theorem enrolled {d : Definition} (h : d.Shuns channel) (given : Twin) (id owner : String) (now : Instant) :
    (given.enrolled d id owner now).Shuns channel := by
  intro d' hd
  cases hd
  exact h

theorem revised {d : Definition} (h : d.Shuns channel) (current given : Twin) (now : Instant) :
    (current.revised given d now).Shuns channel := by
  intro d' hd
  rw [current?_revised] at hd
  cases hd
  exact h

theorem accept {twin : Twin} (h : twin.Shuns channel) (t : RouteTable) :
    RouteTable.accept none t twin = RouteTable.accept (some channel) t twin := by
  have routable : RouteTable.isRoutable none twin = RouteTable.isRoutable (some channel) twin := by
    unfold RouteTable.isRoutable
    cases hd : twin.current? with
    | none => rfl
    | some d =>
      dsimp only
      rw [(h d hd).requireRoutable]
  unfold RouteTable.accept
  rw [routable]

end Twin.Shuns

theorem RouteTable.ofTwins_shunning {twins : List Twin} (h : ∀ twin ∈ twins, twin.Shuns channel) :
    ofTwins none twins = ofTwins (some channel) twins :=
  List.foldl_ext _ _ _ fun t twin ht => (h twin ht).accept t

namespace Hub

variable {hub hub' after after' : Hub} {α β : Type}

/-! ### Hubs that differ in their transport -/

/-- The transports of two hubs may differ and all that is known of them, and the second has a channel for its
    notifications, on which no stored twin persists anything. The rest is the same. -/
structure Abreast (channel : String) (hub hub' : Hub) : Prop where
  identities : hub.identities = hub'.identities
  ids : hub.ids = hub'.ids
  twins : hub.twins = hub'.twins
  states : hub.states = hub'.states
  routes : hub.routes = hub'.routes
  faults : hub.faults.Alike hub'.faults
  silent : hub.notifyChannel = none
  notifies : hub'.notifyChannel = some channel
  shuns : ∀ twin ∈ hub.twins.toList, twin.Shuns channel

theorem attempt_alike (call : SubscriptionCall) (hub : Hub) : hub.faults.Alike (attempt call hub).2.faults := by
  unfold attempt
  cases call <;> dsimp only <;> split <;> exact .next_transport _ rfl

theorem alignSubscriptions_alike (hub : Hub) : hub.faults.Alike (alignSubscriptions hub).faults :=
  SubscriptionCall.perform_induction (P := fun _ s => hub.faults.Alike s.faults) attempt
    (SubscriptionCall.pending hub.active hub.routes.keys) (.refl hub.faults)
    fun call _ _ s h => h.trans (attempt_alike call s)

theorem announce_alike (operation : String) (now : Instant) (r : Except ServiceError Json) (hub : Hub) :
    hub.faults.Alike (announce operation now r hub).faults := by
  rcases announce_cases operation now r hub with ⟨-, ha⟩ | ⟨channel, -, ha⟩ <;> rw [ha]
  · exact .refl hub.faults
  · exact .next_transport hub.faults rfl

namespace Abreast

/-- What happens to one of the transports alone does not tell two hubs apart. --/
theorem of_same (h : Abreast channel hub hub') (s : SameRecords hub after) (s' : SameRecords hub' after')
    (hf : hub.faults.Alike after.faults) (hf' : hub'.faults.Alike after'.faults) : Abreast channel after after' where
  identities := s.identities.trans (h.identities.trans s'.identities.symm)
  ids := s.ids.trans (h.ids.trans s'.ids.symm)
  twins := s.twins.trans (h.twins.trans s'.twins.symm)
  states := s.states.trans (h.states.trans s'.states.symm)
  routes := s.routes.trans (h.routes.trans s'.routes.symm)
  faults := hf.symm.trans (h.faults.trans hf')
  silent := s.notifyChannel.trans h.silent
  notifies := s'.notifyChannel.trans h.notifies
  shuns := s.twins ▸ h.shuns

theorem align (h : Abreast channel hub hub') :
    Abreast channel (alignSubscriptions hub) (alignSubscriptions hub') :=
  h.of_same (alignSubscriptions_aligned hub).same (alignSubscriptions_aligned hub').same
    (alignSubscriptions_alike hub) (alignSubscriptions_alike hub')

theorem announce (h : Abreast channel hub hub') (operation : String) (now : Instant)
    (r r' : Except ServiceError Json) :
    Abreast channel (Hub.announce operation now r hub) (Hub.announce operation now r' hub') :=
  h.of_same (announce_same operation now r hub) (announce_same operation now r' hub')
    (announce_alike operation now r hub) (announce_alike operation now r' hub')

theorem ofTwins (h : Abreast channel hub hub') :
    RouteTable.ofTwins hub.notifyChannel hub.twins.toList = .ofTwins hub'.notifyChannel hub'.twins.toList := by
  rw [h.silent, h.notifies, ← h.twins]
  exact RouteTable.ofTwins_shunning h.shuns

/-! ### What a call may look at -/

theorem pass_respects {point : CallPoint} (hp : point.isTransport = false) :
    Respects (Abreast channel) (pass point) := by
  intro hub hub' h
  have same : hub.faults.outcome? point 0 = hub'.faults.outcome? point 0 := h.faults point hp 0
  have abreast : Abreast channel { hub with faults := (hub.faults.next point).2 }
      { hub' with faults := (hub'.faults.next point).2 } := { h with faults := h.faults.next point }
  unfold outcome
  rcases pass_outcome point hub with ⟨hn, ho⟩ | ⟨e, he, ho⟩ <;>
    rcases pass_outcome point hub' with ⟨hn', ho'⟩ | ⟨e', he', ho'⟩ <;> rw [ho, ho']
  · exact ⟨rfl, abreast⟩
  -- A call does not fail on one side only.
  · rw [← same, hn] at he'
    cases he'
  · rw [same, hn'] at he
    cases he
  · obtain rfl : e = e' := Option.some.inj (he.symm.trans (same.trans he'))
    exact ⟨rfl, abreast⟩

theorem issueId_respects : Respects (Abreast channel) issueId := by
  refine (pass_respects rfl).bind fun _ hub hub' h => ⟨?_, ?_⟩
  · exact congrArg (fun ids => Except.ok (IdSource.next ids)) h.ids
  · exact { h with ids := congrArg IdSource.rest h.ids }

/-- Over equal stores the routes are made anew alike, too: nobody is passed over for the sake of the channel. --/
theorem accord : Accord (Abreast channel) where
  identities h := h.identities
  get h id := by rw [h.twins]
  page h filter offset limit := by rw [h.twins]
  states h := h.states
  routes h := h.routes
  pass _ hp := pass_respects hp
  append h state := { h with states := by dsimp only; rw [h.states] }
  erase h id :=
    { h with
      twins := by dsimp only; rw [h.twins]
      routes := by dsimp only; rw [h.routes]
      shuns := fun u hu => h.shuns u (TwinStore.mem_of_erase hu) }
  restored h := { h with routes := h.ofTwins }
  align h := h.align
  announce h operation now result := h.announce operation now result result

/-- Of the twins that a store has then, the given one is new, and the others were there before. --/
theorem storing_respects {store : TwinStore → Twin → Except ServiceError TwinStore}
    (hstore : ∀ {s t twin u}, store s twin = .ok t → u ∈ t.toList → u = twin ∨ u ∈ s.toList) {twin : Twin}
    (ht : twin.Shuns channel) : Respects (Abreast channel) (storing store twin) := by
  refine .of_get (fun _ _ h => by rw [h.twins]) fun stored _ hs => .ofExcept_bind fun twins htwins => ?_
  refine .of_modify fun hub hub' h => ?_
  refine { h with twins := rfl, routes := by dsimp only; rw [h.routes], shuns := fun u hu => ?_ }
  rcases hstore htwins hu with rfl | hu
  · exact ht
  · exact hs.shuns u hu

theorem admits {d : Definition} (hd : d.Shuns channel) : Admits (Abreast channel) d where
  check := .of_get (fun _ _ h => by rw [h.silent, h.notifies, hd.requireRoutable]) fun _ _ _ => .of_ofExcept _
  enrolled given id owner now := storing_respects TwinStore.mem_of_insert (.enrolled hd given id owner now)
  revised current given now := storing_respects TwinStore.mem_of_replace (.revised hd current given now)

end Abreast
end Hub

/-! ### Operations -/

/-- Nothing of a definition that is passed in is persisted on a channel. -/
def Operation.Shuns (channel : String) : Operation → Prop
  | .add _ _ d | .update _ _ d => d.Shuns channel
  | _ => True

/-- Two turns in which the same call is made by the same clock, with the same failures of all but the transport. -/
structure Turn.Alike (channel : String) (t t' : Turn) : Prop where
  clock : t.clock = t'.clock
  op : t.op = t'.op
  direct : t.op.isDirect = true
  shuns : t.op.Shuns channel
  faults : t.faults.Alike t'.faults

namespace Hub

namespace Abreast

theorem suits {op : Operation} (h : op.Shuns channel) : Suits (Abreast channel) op := by
  cases op with
  | add token given d => exact ⟨issueId_respects, admits h⟩
  | update token given d => exact admits h
  | _ => trivial

/-- Each call comes to the same, whatever the two transports make of it. --/
theorem turn (h : Abreast channel hub hub') (hq : Quiet hub) (hq' : Quiet hub') {t t' : Turn}
    (ht : t.Alike channel t') : Concur (Abreast channel) (hub.turn t) (hub'.turn t') := by
  have due : Abreast channel { hub with faults := t.faults } { hub' with faults := t'.faults } :=
    { h with faults := ht.faults }
  unfold Hub.turn
  rw [← ht.clock, ← ht.op]
  exact accord.perform due (hq.due t.faults) (hq'.due t'.faults) t.clock ht.direct (suits ht.shuns)

end Abreast

/-! ### Runs -/

/-- What a turn comes to, and what is stored and routed behind it. -/
structure Seen where
  result : Except ServiceError Reply
  twins : TwinStore
  states : StateStore
  routes : RouteTable

/-- All that is seen of a run but its transport. -/
def observe (hub : Hub) : List Turn → List Seen
  | [] => []
  | t :: rest =>
    let (result, hub) := hub.turn t
    ⟨result, hub.twins, hub.states, hub.routes⟩ :: hub.observe rest

theorem Abreast.observe {turns turns' : List Turn} (hturns : List.Forall₂ (Turn.Alike channel) turns turns')
    (h : Abreast channel hub hub') (hq : Quiet hub) (hq' : Quiet hub') : hub.observe turns = hub'.observe turns' := by
  induction hturns generalizing hub hub' with
  | nil => rfl
  | @cons t t' _ _ ht _ ih =>
    obtain ⟨same, abreast⟩ := h.turn hq hq' ht
    have seen : (⟨(hub.turn t).1, (hub.turn t).2.twins, (hub.turn t).2.states, (hub.turn t).2.routes⟩ : Seen) =
        ⟨(hub'.turn t').1, (hub'.turn t').2.twins, (hub'.turn t').2.states, (hub'.turn t').2.routes⟩ := by
      rw [same, abreast.twins, abreast.states, abreast.routes]
    exact congrArg₂ List.cons seen (ih abreast (hq.turn t) (hq'.turn t'))

/-- Two hubs are started over the same stores. One sends no notifications, the other sends them on a channel on which
    no definition that is in force in the stores or passed in persists anything. They are asked the same by the same
    clock, and all but their transports fail alike. Then they give the same results, and after each call they have the
    same twins, states and routes, whatever subscriptions and notifications fail on either side. --/
theorem observe_transport_independent (stored : Hub) (channel : String)
    (hstored : ∀ twin ∈ stored.twins.toList, twin.Shuns channel) {turns turns' : List Turn}
    (hturns : List.Forall₂ (Turn.Alike channel) turns turns') :
    (stored.restart none).observe turns = (stored.restart (some channel)).observe turns' := by
  have started : Abreast channel (stored.restart none) (stored.restart (some channel)) :=
    ⟨rfl, rfl, rfl, rfl, rfl, .refl stored.faults, rfl, rfl, hstored⟩
  exact started.observe hturns (Quiet.restart none stored) (Quiet.restart (some channel) stored)

/-- A stored twin is routed and then moved to another key. One hub cannot subscribe to either of its keys, the other
    can neither cancel the subscription of the first nor send its notification. --/
theorem observe_transport_independent_moved :
    let flow : Attribute := ⟨"flow", "plant", "a", true⟩
    let heat : Attribute := ⟨"heat", "plant", "b", true⟩
    let pump : Twin := ⟨"t", "ann", "pump", [], ⟨0, 0⟩, ⟨0, 0⟩, 0, [⟨0, ⟨0, 0⟩, [flow]⟩]⟩
    let stored := (Hub.new ⟨[("token", "ann")]⟩ ⟨fun _ => "u", 0⟩ none).follow
      [⟨.empty, .at ⟨0, 0⟩, .seedTwin pump⟩]
    let calls : List Operation := [.restore, .update "token" pump ⟨0, ⟨0, 0⟩, [heat]⟩]
    let down : Phase := ⟨1, some (.transport "down")⟩
    let turns : List Turn := calls.map (⟨⟨[(.subscribe, [down])]⟩, .at ⟨1, 0⟩, ·⟩)
    let turns' : List Turn := calls.map (⟨⟨[(.unsubscribe, [down]), (.publish, [down])]⟩, .at ⟨1, 0⟩, ·⟩)
    (stored.restart none).observe turns = (stored.restart (some "notes")).observe turns' ∧
      ((stored.restart none).follow turns).active = [] ∧
      ((stored.restart (some "notes")).follow turns').active = [⟨"plant", "b"⟩, ⟨"plant", "a"⟩] := by
  intro flow heat pump stored calls down turns turns'
  have hstored : ∀ twin ∈ stored.twins.toList, twin.Shuns "notes" := by
    intro twin ht d hd a ha
    obtain rfl : twin = pump := List.mem_singleton.mp ht
    cases hd
    obtain rfl : a = flow := List.mem_singleton.mp ha
    decide
  have hheat : (⟨0, ⟨0, 0⟩, [heat]⟩ : Definition).Shuns "notes" := by
    intro a ha
    obtain rfl : a = heat := List.mem_singleton.mp ha
    decide
  have faults : FaultPlan.Alike ⟨[(.subscribe, [down])]⟩ ⟨[(.unsubscribe, [down]), (.publish, [down])]⟩ := by
    intro point hp n
    cases point <;> first | rfl | cases hp
  have hturns : List.Forall₂ (Turn.Alike "notes") turns turns' :=
    .cons ⟨rfl, rfl, rfl, trivial, faults⟩ (.cons ⟨rfl, rfl, rfl, hheat, faults⟩ .nil)
  exact ⟨observe_transport_independent stored "notes" hstored hturns, by decide +kernel, by decide +kernel⟩

end Hub
end DigitalTwin
