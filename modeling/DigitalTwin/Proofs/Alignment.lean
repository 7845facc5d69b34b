import DigitalTwin.Proofs.Subscriptions
import DigitalTwin.Proofs.RouteScan

/-! One alignment of the subscriptions, call by call. The calls are fixed before the first of them is made, so it is
    known beforehand what each of them comes to, and what is active afterwards. A call that failed is pending again the
    next time, so one alignment that goes through makes up for all the earlier ones. -/

namespace DigitalTwin

open SubscriptionCall

variable {fails : SubscriptionCall → Option ServiceError} {calls : List SubscriptionCall} {plan : FaultPlan}
  {active : List RouteKey}

/-- The point that a call goes past. -/
def SubscriptionCall.point : SubscriptionCall → CallPoint
  | .subscribe _ => .subscribe
  | .unsubscribe _ => .unsubscribe

/-! ### Failures by call -/

namespace FaultPlan

/-- Calls that are made one after another come to what `fails` tells of each. -/
def Foretells (fails : SubscriptionCall → Option ServiceError) : FaultPlan → List SubscriptionCall → Prop
  | _, [] => True
  | plan, call :: rest => plan.outcome? call.point 0 = fails call ∧ Foretells fails (plan.next call.point).2 rest

/-- The plan by which calls that are made one after another come to what `fails` tells of each. -/
def refusing (fails : SubscriptionCall → Option ServiceError) (calls : List SubscriptionCall) : FaultPlan :=
  ofOutcomes fun point => (calls.filter (·.point = point)).map fails

/-- The induction takes the first call from the plan and from the outcomes at its point, and leaves all others. --/
theorem foretells_of_outcomes
    (h : ∀ point n, plan.outcome? point n = (((calls.filter (·.point = point)).map fails)[n]?).join) :
    plan.Foretells fails calls := by
  induction calls generalizing plan with
  | nil => trivial
  | cons call rest ih =>
    refine ⟨by rw [h]; simp, ih fun point n => ?_⟩
    by_cases hp : point = call.point
    · rw [hp, outcome?_next, h]
      simp
    · rw [outcome?_next_of_ne hp, h]
      simp [Ne.symm hp]

theorem refusing_foretells (fails : SubscriptionCall → Option ServiceError) (calls : List SubscriptionCall) :
    (refusing fails calls).Foretells fails calls :=
  foretells_of_outcomes fun point n => ofOutcomes_outcome? _ point n

/-- No call for a subscription fails. -/
def SparesSubscriptions (plan : FaultPlan) : Prop :=
  ∀ (call : SubscriptionCall) (n : Nat), plan.outcome? call.point n = none

theorem sparesSubscriptions_empty : SparesSubscriptions .empty := fun call n => outcome?_empty call.point n

theorem SparesSubscriptions.next (h : plan.SparesSubscriptions) (other : CallPoint) :
    (plan.next other).2.SparesSubscriptions := by
  intro call n
  by_cases hp : call.point = other
  · rw [← hp, outcome?_next]
    exact h call (n + 1)
  · rw [outcome?_next_of_ne hp]
    exact h call n

theorem SparesSubscriptions.foretells (h : plan.SparesSubscriptions) (calls : List SubscriptionCall) :
    plan.Foretells (fun _ => none) calls := by
  induction calls generalizing plan with
  | nil => trivial
  | cons call rest ih => exact ⟨h call 0, ih (h.next call.point)⟩

end FaultPlan

/-! ### What is active afterwards -/

namespace SubscriptionCall

/-- The calls of which `fails` tells no failure. -/
def granted (fails : SubscriptionCall → Option ServiceError) (calls : List SubscriptionCall) : List SubscriptionCall :=
  calls.filter fun call => (fails call).isNone

theorem granted_all (calls : List SubscriptionCall) : granted (fun _ => none) calls = calls :=
  List.filter_eq_self.mpr fun _ _ => rfl

theorem nodup_settle (hn : active.Nodup) (call : SubscriptionCall) : (call.settle active).Nodup := by
  cases call with
  | subscribe key => exact hn.insert
  | unsubscribe key => exact hn.erase key

theorem nodup_settleAll (hn : active.Nodup) (calls : List SubscriptionCall) : (calls.foldl settle active).Nodup :=
  List.foldlRecOn calls settle hn fun _ hn call _ => nodup_settle hn call

/-- Keys whose cancelling went through are active no more, and those whose subscribing went through are. --/
theorem mem_settle_granted (hn : active.Nodup) (stale missing : List RouteKey) (key : RouteKey) :
    key ∈ (granted fails (stale.map unsubscribe ++ missing.map subscribe)).foldl settle active ↔
      (key ∈ active ∧ ¬ (key ∈ stale ∧ fails (.unsubscribe key) = none)) ∨
        (key ∈ missing ∧ fails (.subscribe key) = none) := by
  unfold granted
  rw [List.filter_append, List.filter_map, List.filter_map, List.foldl_append]
  obtain ⟨hn', stays⟩ := settle_unsubscribes
    (stale.filter ((fun call => (fails call).isNone) ∘ unsubscribe)) hn
  obtain ⟨-, comes⟩ := settle_subscribes (missing.filter ((fun call => (fails call).isNone) ∘ subscribe)) hn'
  rw [comes, stays, List.mem_filter, List.mem_filter]
  simp

end SubscriptionCall

/-! ### One alignment -/

namespace Hub

variable {hub : Hub}

theorem attempt_eq (call : SubscriptionCall) (hub : Hub) :
    attempt call hub =
      ((hub.faults.outcome? call.point 0).isNone,
        { hub with
          faults := (hub.faults.next call.point).2
          broker := if (hub.faults.outcome? call.point 0).isNone then hub.broker.settle call else hub.broker
          calls := hub.calls ++ [.subscription call (hub.faults.outcome? call.point 0).isNone] }) := by
  cases call <;> simp only [attempt, point, ← FaultPlan.next_fst, Broker.settle] <;> split <;> rename_i h <;> simp [h]

theorem perform_foretold (calls : List SubscriptionCall) (active : List RouteKey) (hub : Hub)
    (h : hub.faults.Foretells fails calls) :
    ∃ faults, SubscriptionCall.perform attempt calls active hub =
      ((granted fails calls).foldl settle active,
        { hub with
          faults
          broker := (granted fails calls).foldl Broker.settle hub.broker
          calls := hub.calls ++ calls.map fun call => .subscription call (fails call).isNone }) := by
  induction calls generalizing active hub with
  | nil => exact ⟨hub.faults, by simp [SubscriptionCall.perform, granted]⟩
  | cons call rest ih =>
    obtain ⟨outcome, later⟩ := h
    unfold SubscriptionCall.perform
    rw [attempt_eq, outcome]
    dsimp only
    obtain ⟨faults, hp⟩ := ih (if (fails call).isNone then call.settle active else active)
      { hub with
        faults := (hub.faults.next call.point).2
        broker := if (fails call).isNone then hub.broker.settle call else hub.broker
        calls := hub.calls ++ [.subscription call (fails call).isNone] } later
    refine ⟨faults, ?_⟩
    rw [hp]
    cases hc : (fails call).isNone <;> simp [granted, hc]

theorem alignSubscriptions_foretold (hub : Hub) (h : hub.faults.Foretells fails (pending hub.active hub.routes.keys)) :
    ∃ faults, alignSubscriptions hub =
      { hub with
        faults
        active := (granted fails (pending hub.active hub.routes.keys)).foldl settle hub.active
        broker := (granted fails (pending hub.active hub.routes.keys)).foldl Broker.settle hub.broker
        calls := hub.calls ++
          (pending hub.active hub.routes.keys).map fun call => .subscription call (fails call).isNone } := by
  obtain ⟨faults, hp⟩ := perform_foretold (pending hub.active hub.routes.keys) hub.active hub h
  refine ⟨faults, ?_⟩
  unfold alignSubscriptions
  rw [hp]

/-- With nothing stale and nothing missing, there is nothing to do. --/
theorem alignSubscriptions_settled (h : ∀ key, key ∈ hub.active ↔ key ∈ hub.routes.keys) :
    alignSubscriptions hub = hub := by
  have none {keys others : List RouteKey} (h : ∀ key ∈ keys, key ∈ others) : RouteKey.difference keys others = [] :=
    List.eq_nil_iff_forall_not_mem.mpr fun key hk =>
      (RouteKey.mem_difference.mp hk).2 (h key (RouteKey.mem_difference.mp hk).1)
  have idle : pending hub.active hub.routes.keys = [] := by
    unfold pending
    rw [none fun key hk => (h key).mp hk, none fun key hk => (h key).mpr hk]
    rfl
  unfold alignSubscriptions
  rw [idle]
  rfl

/-! ### Alignments and changes of the routes -/

/-- What happens around the subscriptions: the routes change, or the subscriptions are aligned while some failures are
due. -/
inductive RoutingStep where
  | change (call : RouteCall)
  | align (faults : FaultPlan)

/-- The hub behind a step. -/
def routingStep (hub : Hub) : RoutingStep → Hub
  | .change call => { hub with routes := hub.routes.change call }
  | .align faults => alignSubscriptions { hub with faults }

/-- The hub behind a row of steps. -/
def routingSteps (hub : Hub) (steps : List RoutingStep) : Hub := steps.foldl routingStep hub

/-- Neither what is active nor what is routed has a key twice. -/
structure KeySets (hub : Hub) : Prop where
  active : hub.active.Nodup
  routes : hub.routes.keys.Nodup

namespace KeySets

theorem align (h : KeySets hub) (faults : FaultPlan) : KeySets (alignSubscriptions { hub with faults }) := by
  obtain ⟨outcomes, fared, -⟩ := alignSubscriptions_fared { hub with faults }
  refine ⟨?_, ?_⟩
  · rw [fared.active]
    exact nodup_settleAll h.active _
  · rw [(alignSubscriptions_aligned _).same.routes]
    exact h.routes

theorem step (h : KeySets hub) (step : RoutingStep) : KeySets (hub.routingStep step) := by
  cases step with
  | change call =>
    refine ⟨h.active, ?_⟩
    cases call with
    | insert twin => exact RouteTable.nodup_keys_insert h.routes twin
    | erase id => exact RouteTable.nodup_keys_erase h.routes id
    | clear => exact List.nodup_nil
  | align faults => exact h.align faults

theorem steps (h : KeySets hub) (steps : List RoutingStep) : KeySets (hub.routingSteps steps) :=
  List.foldlRecOn steps routingStep h fun _ h step _ => h.step step

/-- An alignment none of whose calls fails leaves the routed keys active, whatever was active before. --/
theorem mem_active_of_spared (h : KeySets hub) (hp : hub.faults.SparesSubscriptions) (key : RouteKey) :
    key ∈ (alignSubscriptions hub).active ↔ key ∈ hub.routes.keys := by
  obtain ⟨faults, aligned⟩ := alignSubscriptions_foretold hub (hp.foretells (pending hub.active hub.routes.keys))
  rw [aligned, granted_all]
  exact (settle_pending h.active hub.routes.keys).2 key

end KeySets

/-- Whatever is active and whatever is routed, and whichever of the calls fail: the keys that are not routed any more
    are cancelled, each once and in order, then those that are not yet active are subscribed, each once and in order,
    and a key that is both gets no call. A call that fails changes nothing for the others. However often the routes
    were changed and alignments failed, the first one that does not fail leaves the routed keys active, and the one
    after that has nothing to do. --/
theorem alignSubscriptions_exact {hub : Hub} (h : KeySets hub) :
    (∀ fails,
      let stale := RouteKey.difference hub.active hub.routes.keys
      let missing := RouteKey.difference hub.routes.keys hub.active
      let after := alignSubscriptions { hub with faults := .refusing fails (pending hub.active hub.routes.keys) }
      RouteKey.Lists stale (fun key => key ∈ hub.active ∧ key ∉ hub.routes.keys) ∧
      RouteKey.Lists missing (fun key => key ∈ hub.routes.keys ∧ key ∉ hub.active) ∧
      after.calls = hub.calls ++
        (stale.map fun key => .subscription (.unsubscribe key) (fails (.unsubscribe key)).isNone) ++
        (missing.map fun key => .subscription (.subscribe key) (fails (.subscribe key)).isNone) ∧
      after.routes = hub.routes ∧
      ∀ key, key ∈ after.active ↔
        (key ∈ hub.active ∧ ¬ (key ∈ stale ∧ fails (.unsubscribe key) = none)) ∨
          (key ∈ missing ∧ fails (.subscribe key) = none)) ∧
    ∀ steps faults, faults.SparesSubscriptions →
      let last := hub.routingSteps steps
      let once := alignSubscriptions { last with faults }
      once.routes = last.routes ∧ (∀ key, key ∈ once.active ↔ key ∈ last.routes.keys) ∧
        ∀ faults', alignSubscriptions { once with faults := faults' } = { once with faults := faults' } := by
  constructor
  · intro fails stale missing after
    obtain ⟨faults, aligned⟩ := alignSubscriptions_foretold
      { hub with faults := .refusing fails (pending hub.active hub.routes.keys) }
      (FaultPlan.refusing_foretells fails (pending hub.active hub.routes.keys))
    refine ⟨.difference h.active _, .difference h.routes _, ?_, (alignSubscriptions_aligned _).same.routes,
      fun key => ?_⟩
    · show (alignSubscriptions _).calls = _
      rw [aligned]
      simp [pending, stale, missing, Function.comp_def]
    · show key ∈ (alignSubscriptions _).active ↔ _
      rw [aligned]
      exact mem_settle_granted h.active stale missing key
  · intro steps faults spares last once
    have sets : KeySets { last with faults } := ⟨(h.steps steps).active, (h.steps steps).routes⟩
    have routes : once.routes = last.routes := (alignSubscriptions_aligned _).same.routes
    have settled (key : RouteKey) : key ∈ once.active ↔ key ∈ last.routes.keys := sets.mem_active_of_spared spares key
    refine ⟨routes, settled, fun faults' => alignSubscriptions_settled fun key => ?_⟩
    rw [settled, ← routes]

/-- One key is stale, one stays and one is missing. The stale one cannot be cancelled at first; the missing one is
    subscribed all the same, and the next alignment makes up for the other. --/
theorem alignSubscriptions_exact_stale_key :
    let key (subtopic : String) : RouteKey := ⟨"plant", subtopic⟩
    let binding (name subtopic : String) : Attribute := ⟨name, "plant", subtopic, true⟩
    let twin : Twin := ⟨"t", "ann", "pump", [], ⟨0, 0⟩, ⟨0, 0⟩, 0,
      [⟨0, ⟨0, 0⟩, [binding "flow" "b", binding "heat" "c"]⟩]⟩
    let hub : Hub := { Hub.new ⟨[]⟩ ⟨fun _ => "t", 0⟩ none with
      active := [key "a", key "b"], routes := RouteTable.empty.change (.insert twin) }
    let fails (call : SubscriptionCall) : Option ServiceError :=
      if call = .unsubscribe (key "a") then some (.transport "down") else none
    let faults : FaultPlan := .refusing fails (pending hub.active hub.routes.keys)
    let after := alignSubscriptions { hub with faults }
    let once := alignSubscriptions { hub.routingSteps [.align faults] with faults := .empty }
    after.calls = [.subscription (.unsubscribe (key "a")) false, .subscription (.subscribe (key "c")) true] ∧
      key "a" ∈ after.active ∧ ∀ k, k ∈ once.active ↔ k = key "b" ∨ k = key "c" := by
  intro key binding twin hub fails faults after once
  have sets : KeySets hub := ⟨by decide +kernel, by decide +kernel⟩
  obtain ⟨first, second⟩ := alignSubscriptions_exact sets
  obtain ⟨-, -, calls, -, active⟩ := first fails
  obtain ⟨-, settled, -⟩ := second [.align faults] .empty FaultPlan.sparesSubscriptions_empty
  have routed : (hub.routingSteps [.align faults]).routes.keys = [key "b", key "c"] := by decide +kernel
  refine ⟨calls.trans (by decide +kernel), (active (key "a")).mpr (Or.inl ⟨by decide +kernel, ?_⟩), fun k => ?_⟩
  · rintro ⟨-, granted⟩
    revert granted
    decide
  · rw [settled k, routed]
    simp

end Hub
end DigitalTwin
