import DigitalTwin.Proofs.Alignment
import DigitalTwin.Proofs.Delivery
import DigitalTwin.Proofs.Numbering
import DigitalTwin.Proofs.Provenance
import DigitalTwin.Proofs.Withdrawal

/-! Removing twins while nothing fails. A removal of a known caller always succeeds, and a second one finds nothing to
    do. A twin that is removed right after it was added takes with it all that came with it: its routes, the list of
    its keys and the subscriptions that were made for it, and not those that were there before. -/

namespace DigitalTwin

open SubscriptionCall

/-! ### Subscriptions there and back -/

/-- A hub's list and its broker with subscriptions to some of the given keys, none of which another list and another
    broker had. -/
structure Broker.Ahead (active : List RouteKey) (b : Broker Unit) (keys active' : List RouteKey) (b' : Broker Unit) :
    Prop where
  absent : ∀ key ∈ keys, key ∉ active
  front : ∃ front, active' = front ++ active ∧ front.Nodup ∧ ∀ key ∈ front, key ∈ keys
  handlers : b.handlers.Grown keys (fun _ => True) b'.handlers
  others : b' = { b with handlers := b'.handlers }

namespace Broker.Ahead

variable {active active' keys : List RouteKey} {b b' : Broker Unit} {key : RouteKey}

theorem refl (h : b.Serves active) (hk : ∀ key ∈ keys, key ∉ active) : Ahead active b keys active b := by
  refine ⟨hk, ⟨[], rfl, List.nodup_nil, fun _ hkey => nomatch hkey⟩, .refl fun key hkey => ?_, rfl⟩
  have unhandled : key ∉ b.handlers.keys := fun hm => hk key hkey ((h.mem_iff key).mpr hm)
  rw [Table.mem_keys, ← Option.ne_none_iff_exists'] at unhandled
  exact Decidable.not_not.mp unhandled

theorem subscribe (h : Ahead active b keys active' b') (hk : key ∈ keys) :
    Ahead active b keys (active'.insert key) (b'.subscribe key ()) := by
  refine ⟨h.absent, ?_, h.handlers.insert hk trivial, ?_⟩
  · obtain ⟨front, rfl, hn, hm⟩ := h.front
    by_cases hkey : key ∈ front ++ active
    · exact ⟨front, List.insert_of_mem hkey, hn, hm⟩
    · refine ⟨key :: front, List.insert_of_not_mem hkey, ?_, List.forall_mem_cons.mpr ⟨hk, hm⟩⟩
      exact List.nodup_cons.mpr ⟨fun hf => hkey (List.mem_append_left _ hf), hn⟩
  · rw [h.others]
    rfl

theorem unsubscribe (h : Ahead active b (key :: keys) active' b') :
    Ahead active b keys (active'.erase key) (b'.unsubscribe key) := by
  refine ⟨fun k hk => h.absent k (List.mem_cons_of_mem _ hk), ?_, h.handlers.erase, ?_⟩
  · obtain ⟨front, rfl, hn, hm⟩ := h.front
    have left (k : RouteKey) (hk : k ∈ front) (hne : k ≠ key) : k ∈ keys :=
      (List.mem_cons.mp (hm k hk)).resolve_left hne
    by_cases hkey : key ∈ front
    · refine ⟨front.erase key, List.erase_append_left _ hkey, hn.erase key, fun k hk => ?_⟩
      obtain ⟨hne, hk⟩ := hn.mem_erase_iff.mp hk
      exact left k hk hne
    · have kept : active.erase key = active := List.erase_of_not_mem (h.absent key List.mem_cons_self)
      refine ⟨front, ?_, hn, fun k hk => left k hk fun heq => hkey (heq ▸ hk)⟩
      rw [List.erase_append_right _ hkey, kept]
  · rw [h.others]
    rfl

theorem subscribeAll (more : List RouteKey) (h : Ahead active b keys active' b') (hm : ∀ key ∈ more, key ∈ keys) :
    Ahead active b keys ((more.map SubscriptionCall.subscribe).foldl SubscriptionCall.settle active')
      ((more.map SubscriptionCall.subscribe).foldl Broker.settle b') := by
  induction more generalizing active' b' with
  | nil => exact h
  | cons key rest ih => exact ih (h.subscribe (hm key List.mem_cons_self)) fun k hk => hm k (List.mem_cons_of_mem _ hk)

/-- With all the keys cancelled, list and broker are what they were. --/
theorem unsubscribeAll (h : Ahead active b keys active' b') :
    (keys.map SubscriptionCall.unsubscribe).foldl SubscriptionCall.settle active' = active ∧
      (keys.map SubscriptionCall.unsubscribe).foldl Broker.settle b' = b := by
  induction keys generalizing active' b' with
  | nil =>
    obtain ⟨front, rfl, -, hm⟩ := h.front
    have none : front = [] := List.eq_nil_iff_forall_not_mem.mpr fun key hk => nomatch hm key hk
    refine ⟨by rw [none]; rfl, ?_⟩
    rw [List.map_nil, List.foldl_nil, h.others, h.handlers.eq_of_nil]
  | cons key rest ih => exact ih h.unsubscribe

end Broker.Ahead

/-- Subscriptions that are brought in line with more keys and back again are what they were, in their old order. --/
theorem SubscriptionCall.settle_back {active wanted more : List RouteKey} {b : Broker Unit} (hb : b.Serves active)
    (hs : ∀ key, key ∈ active ↔ key ∈ wanted) (hm : ∀ key ∈ wanted, key ∈ more) :
    let there := pending active more
    let back := pending (there.foldl settle active) wanted
    back.foldl settle (there.foldl settle active) = active ∧
      back.foldl Broker.settle (there.foldl Broker.settle b) = b := by
  intro there back
  obtain ⟨-, reached⟩ := settle_pending hb.nodup more
  have made : there = (RouteKey.difference more active).map .subscribe := by
    show (RouteKey.difference active more).map _ ++ _ = _
    rw [RouteKey.difference_eq_nil fun key hk => hm key ((hs key).mp hk)]
    rfl
  have cancelled : back = (RouteKey.difference (there.foldl settle active) wanted).map .unsubscribe := by
    show _ ++ (RouteKey.difference wanted _).map _ = _
    rw [RouteKey.difference_eq_nil fun key hk => (reached key).mpr (hm key hk)]
    exact List.append_nil _
  have ahead : Broker.Ahead active b (RouteKey.difference (there.foldl settle active) wanted) active b :=
    .refl hb fun key hk => fun ha => (RouteKey.mem_difference.mp hk).2 ((hs key).mp ha)
  have further : Broker.Ahead active b (RouteKey.difference (there.foldl settle active) wanted)
      (there.foldl settle active) (there.foldl Broker.settle b) := by
    rw [made] at ahead ⊢
    refine ahead.subscribeAll _ fun key hk => ?_
    obtain ⟨hk, hn⟩ := RouteKey.mem_difference.mp hk
    rw [← made]
    exact RouteKey.mem_difference.mpr ⟨(reached key).mpr hk, fun hw => hn ((hs key).mpr hw)⟩
  rw [cancelled]
  exact further.unsubscribeAll

/-- A reply with another id in the place of that of its twin. -/
def Reply.withId (id : String) : Reply → Reply
  | .twin value => .twin { value with id }
  | reply => reply

namespace Hub

variable {hub : Hub} {token owner id : String} {twin : Twin}

/-- Aligned without failures, all pending calls are made. --/
theorem alignSubscriptions_made (h : hub.faults = .empty) : ∃ calls, alignSubscriptions hub = { hub with
    active := (pending hub.active hub.routes.keys).foldl settle hub.active
    broker := (pending hub.active hub.routes.keys).foldl Broker.settle hub.broker
    calls } := by
  have spares : hub.faults.SparesSubscriptions := h ▸ FaultPlan.sparesSubscriptions_empty
  obtain ⟨faults, all⟩ := alignSubscriptions_foretold hub (spares.foretells (pending hub.active hub.routes.keys))
  obtain ⟨broker, calls, performed⟩ := perform_of_empty (pending hub.active hub.routes.keys) hub.active h
  have due : (alignSubscriptions hub).faults = hub.faults := by
    unfold alignSubscriptions
    rw [performed]
  rw [all] at due
  obtain rfl : faults = hub.faults := due
  rw [granted_all] at all
  exact ⟨_, all⟩

theorem announce_published (h : hub.faults = .empty) (operation : String) (now : Instant)
    (r : Except ServiceError Json) : ∃ published, (∀ call ∈ published, IsPublication call) ∧
      announce operation now r hub = { hub with calls := hub.calls ++ published } := by
  obtain ⟨faults, published, ha, hp⟩ := announce_frame operation now r hub
  obtain ⟨calls, hc⟩ := announce_of_empty h operation now r
  have due : (announce operation now r hub).faults = hub.faults := by rw [hc]
  rw [ha] at due
  obtain rfl : faults = hub.faults := due
  exact ⟨published, hp, ha⟩

theorem announce_aligned (h : hub.faults = .empty) (operation : String) (now : Instant) (r : Except ServiceError Json) :
    ∃ calls, announce operation now r (alignSubscriptions hub) = { hub with
      active := (pending hub.active hub.routes.keys).foldl settle hub.active
      broker := (pending hub.active hub.routes.keys).foldl Broker.settle hub.broker
      calls } := by
  obtain ⟨made, aligned⟩ := alignSubscriptions_made h
  have due : (alignSubscriptions hub).faults = .empty := by
    rw [aligned]
    exact h
  obtain ⟨calls, announced⟩ := announce_of_empty due operation now r
  exact ⟨calls, by rw [announced, aligned]⟩

/-! ### Removals -/

theorem turn_remove_nothing (hq : Quiet hub) (hi : hub.identities.identify token = .ok owner)
    (hn : ∀ twin, hub.twins.get? id = some twin → twin.owner ≠ owner) (clock : Clock) :
    ∃ published, (∀ call ∈ published, IsPublication call) ∧ hub.turn ⟨.empty, clock, .remove token id⟩ =
      (.ok .done, { hub with faults := .empty, calls := hub.calls ++ published }) := by
  have nothing : unregister token id { hub with faults := .empty } = .ok () { hub with faults := .empty } := by
    rw [unregister_of_empty rfl]
    dsimp only
    rw [hi]
    dsimp only
    cases hg : hub.twins.get? id with
    | none => rfl
    | some twin => exact if_pos (hn twin hg)
  have due : ({ hub with faults := .empty } : Hub).faults = .empty := rfl
  obtain ⟨published, hp, ha⟩ := announce_published due "removeTwin" clock.start (.ok (idReport id))
  refine ⟨published, hp, ?_⟩
  unfold Hub.turn
  rw [perform_remove (hq.due .empty)]
  unfold outcome
  rw [nothing]
  exact congrArg (Prod.mk _) ha

theorem turn_remove_own (hq : Quiet hub) (hi : hub.identities.identify token = .ok owner)
    (hg : hub.twins.get? id = some twin) (ho : twin.owner = owner) (clock : Clock) :
    ∃ calls, hub.turn ⟨.empty, clock, .remove token id⟩ = (.ok .done, { hub with
      faults := .empty
      twins := hub.twins.erase id
      routes := (hub.routes.erase id).2
      active := (pending hub.active (hub.routes.erase id).2.keys).foldl settle hub.active
      broker := (pending hub.active (hub.routes.erase id).2.keys).foldl Broker.settle hub.broker
      calls }) := by
  have removed : unregister token id { hub with faults := .empty } = .ok () (alignSubscriptions { hub with
      faults := .empty, twins := hub.twins.erase id, routes := (hub.routes.erase id).2 }) := by
    rw [unregister_of_empty rfl]
    dsimp only
    rw [hi]
    dsimp only
    rw [hg]
    exact if_neg (not_not.mpr ho)
  have due : ({ hub with
      faults := .empty, twins := hub.twins.erase id, routes := (hub.routes.erase id).2 } : Hub).faults = .empty := rfl
  obtain ⟨calls, announced⟩ := announce_aligned due "removeTwin" clock.start (.ok (idReport id))
  refine ⟨calls, ?_⟩
  unfold Hub.turn
  rw [perform_remove (hq.due .empty)]
  unfold outcome
  rw [removed]
  exact congrArg (Prod.mk _) announced

/-! ### Additions -/

/-- What is added while nothing fails. --/
theorem turn_add_reply (hq : Quiet hub) (clock : Clock) (token : String) (given : Twin) (d : Definition) :
    (hub.turn ⟨.empty, clock, .add token given d⟩).1 = match hub.identities.identify token with
      | .error e => .error e
      | .ok owner => match d.requireRoutable hub.notifyChannel with
        | .error e => .error e
        | .ok () => match hub.routes.requireFree (given.enrolled d hub.ids.next owner clock.start) with
          | .error e => .error e
          | .ok () => match hub.twins.insert (given.enrolled d hub.ids.next owner clock.start) with
            | .error e => .error e
            | .ok _ => .ok (.twin (given.enrolled d hub.ids.next owner clock.start)) := by
  unfold Hub.turn
  rw [perform_add (hq.due .empty)]
  unfold outcome
  rw [register_of_empty rfl]
  dsimp only
  cases hub.identities.identify token with
  | error e => rfl
  | ok owner =>
    dsimp only
    cases d.requireRoutable hub.notifyChannel with
    | error e => rfl
    | ok u =>
      dsimp only
      rw [storeAndRoute_of_empty rfl]
      dsimp only
      cases hub.routes.requireFree (given.enrolled d hub.ids.next owner clock.start) with
      | error e => rfl
      | ok u =>
        dsimp only
        cases hub.twins.insert (given.enrolled d hub.ids.next owner clock.start) <;> rfl

/-- An addition that succeeds stores and routes the twin under the next id and makes the subscriptions for it. --/
theorem turn_add_ok (hq : Quiet hub) {clock : Clock} {token : String} {given : Twin} {d : Definition}
    (hok : (hub.turn ⟨.empty, clock, .add token given d⟩).1 = .ok (.twin twin)) :
    ∃ owner twins calls, hub.identities.identify token = .ok owner ∧ twin.owner = owner ∧ twin.id = hub.ids.next ∧
      hub.routes.requireFree twin = .ok () ∧ hub.twins.insert twin = .ok twins ∧
      (hub.turn ⟨.empty, clock, .add token given d⟩).2 = { hub with
        faults := .empty
        ids := hub.ids.rest
        twins
        routes := (hub.routes.insert twin).2
        active := (pending hub.active (hub.routes.insert twin).2.keys).foldl settle hub.active
        broker := (pending hub.active (hub.routes.insert twin).2.keys).foldl Broker.settle hub.broker
        calls } := by
  unfold Hub.turn at hok ⊢
  rw [perform_add (hq.due .empty)] at hok ⊢
  unfold outcome at hok ⊢
  rcases register_cases token given d clock.start { hub with faults := .empty } with
    ⟨e, faults, ids, -, hr⟩ | ⟨owner, faults, twins, hi, hd, hf, hs, hr⟩
  · rw [hr] at hok
    cases hok
  · rw [hr] at hok
    cases hok
    have due : ({ hub with
        faults := .empty
        ids := hub.ids.rest
        twins
        routes := (hub.routes.insert (given.enrolled d hub.ids.next owner clock.start)).2 } : Hub).faults = .empty :=
      rfl
    obtain ⟨calls, announced⟩ := announce_aligned due "addTwin" clock.start
      (.ok (given.enrolled d hub.ids.next owner clock.start).toJson)
    refine ⟨owner, twins, calls, hi, rfl, rfl, hf, hs, Eq.trans ?_ announced⟩
    rw [register_of_empty rfl]
    simp only [hi, hd]
    rw [storeAndRoute_of_empty rfl]
    simp only [hf, hs]
    rfl

/-! ### States of a run -/

/-- What a hub that started with some identities keeps while nothing fails. -/
structure Settled (identities : IdentityTable) (hub : Hub) : Prop where
  identities : hub.identities = identities
  quiet : Quiet hub
  sourced : Sourced hub
  tracked : Tracked hub
  subscribed : Subscribed hub
  tight : hub.routes.Tight

theorem tight_effect {hub' : Hub} {clock : Clock} {op : Operation} (h : hub.routes.Tight)
    (he : Effect clock op hub hub') : hub'.routes.Tight := by
  cases he with
  | transport same => exact same.routes ▸ h
  | add => exact h.insert _
  | update => exact h.insert _
  | remove => exact h.erase _
  | restore => exact RouteTable.tight_ofTwins _ _
  | restart => exact RouteTable.tight_empty
  | issue | record | seedTwin | seedState => exact h

theorem identities_effect {hub' : Hub} {clock : Clock} {op : Operation} (he : Effect clock op hub hub') :
    hub'.identities = hub.identities := by
  cases he with
  | transport same => exact same.identities
  | issue | add | update | remove | restore | record | restart | seedTwin | seedState => rfl

namespace Settled

variable {identities : IdentityTable}

theorem follow (identities : IdentityTable) (ids : IdSource) (notifyChannel : Option String)
    (ops : List (Clock × Operation)) :
    Settled identities ((Hub.new identities ids notifyChannel).follow (ops.map fun p => ⟨.empty, p.1, p.2⟩)) := by
  have quiet : Quiet (Hub.new identities ids notifyChannel) := Quiet.new identities ids notifyChannel
  have tracked : Tracked (Hub.new identities ids notifyChannel) := ⟨Broker.serves_empty, List.nodup_nil⟩
  have subscribed : Subscribed (Hub.new identities ids notifyChannel) := fun _ => Iff.rfl
  refine ⟨?_, quiet.follow _, (Sourced.new identities ids notifyChannel).follow quiet _, tracked.follow quiet _,
    subscribed.follow ops tracked quiet, ?_⟩
  · exact follow_induction (P := fun hub => hub.identities = identities) quiet rfl fun _ _ _ _ he h =>
      (identities_effect he).trans h
  · exact follow_induction (P := fun hub => hub.routes.Tight) quiet RouteTable.tight_empty fun _ _ _ _ he h =>
      tight_effect h he

/-- Nothing is routed to an id under which no twin is stored. --/
theorem unrouted (h : Settled identities hub) (hg : hub.twins.get? id = none) (key : RouteKey) (route : Route)
    (hr : hub.routes.get? key = some route) : route.twinId ≠ id := by
  rintro rfl
  obtain ⟨twin, -, stored, -⟩ := h.sourced.exists_twin hr
  rw [hg] at stored
  cases stored

/-- Whatever a removal by a known caller finds, it succeeds, and behind it the caller has no twin with the id. --/
theorem remove_done (h : Settled identities hub) (hi : identities.identify token = .ok owner) (id : String)
    (clock : Clock) : ∃ after, hub.turn ⟨.empty, clock, .remove token id⟩ = (.ok .done, after) ∧
      after.identities = identities ∧ after.faults = .empty ∧
      ∀ twin, after.twins.get? id = some twin → twin.owner ≠ owner := by
  have known : hub.identities.identify token = .ok owner := by rw [h.identities, hi]
  by_cases own : ∃ twin, hub.twins.get? id = some twin ∧ twin.owner = owner
  · obtain ⟨twin, hg, ho⟩ := own
    obtain ⟨calls, removed⟩ := turn_remove_own h.quiet known hg ho clock
    refine ⟨_, removed, h.identities, rfl, fun twin hg => ?_⟩
    have gone : (hub.twins.erase id).get? id = none := by rw [TwinStore.get?_erase h.sourced.store, if_pos rfl]
    cases gone.symm.trans hg
  · have nothing : ∀ twin, hub.twins.get? id = some twin → twin.owner ≠ owner := fun twin hg ho => own ⟨twin, hg, ho⟩
    obtain ⟨published, -, left⟩ := turn_remove_nothing h.quiet known nothing clock
    exact ⟨_, left, h.identities, rfl, nothing⟩

theorem remove_twice (h : Settled identities hub) (hi : identities.identify token = .ok owner) (id : String)
    (clock clock' : Clock) : ∃ after published, hub.turn ⟨.empty, clock, .remove token id⟩ = (.ok .done, after) ∧
      after.turn ⟨.empty, clock', .remove token id⟩ =
        (.ok .done, { after with calls := after.calls ++ published }) ∧
      ∀ call ∈ published, IsPublication call := by
  obtain ⟨after, once, same, due, nothing⟩ := h.remove_done hi id clock
  have quiet : Quiet after := by
    have kept := h.quiet.turn ⟨.empty, clock, .remove token id⟩
    rwa [once] at kept
  obtain ⟨published, hp, twice⟩ := turn_remove_nothing quiet (same ▸ hi) nothing clock'
  exact ⟨after, published, once, by rw [twice, ← due], hp⟩

/-- A removal takes back all that the addition before it brought, but for the id and the number of the twin. --/
theorem remove_added (h : Settled identities hub) {given : Twin} {d : Definition} (clock clock' : Clock)
    (hok : (hub.turn ⟨.empty, clock, .add token given d⟩).1 = .ok (.twin twin)) :
    ∃ calls, (hub.turn ⟨.empty, clock, .add token given d⟩).2.turn ⟨.empty, clock', .remove token twin.id⟩ =
      (.ok .done, { hub with
        faults := .empty
        ids := hub.ids.rest
        twins := { hub.twins with nextSeq := hub.twins.nextSeq + 1 }
        calls }) := by
  obtain ⟨owner, twins, made, hi, ho, -, hf, hs, added⟩ := turn_add_ok h.quiet hok
  have quiet : Quiet (hub.turn ⟨.empty, clock, .add token given d⟩).2 := h.quiet.turn _
  obtain ⟨-, -, fresh⟩ := TwinStore.insert_ok h.sourced.store hs
  have unrouted : ∀ key route, hub.routes.get? key = some route → route.twinId ≠ twin.id :=
    h.unrouted (h.sourced.store.get?_eq_none.mpr fresh)
  have store : twins.erase twin.id = { hub.twins with nextSeq := hub.twins.nextSeq + 1 } :=
    TwinStore.erase_insert h.sourced.store hs
  have routes : ((hub.routes.insert twin).2.erase twin.id).2 = hub.routes :=
    RouteTable.erase_insert h.sourced.consistent h.tight hf unrouted
  have wider : ∀ key ∈ hub.routes.keys, key ∈ (hub.routes.insert twin).2.keys := by
    intro key hk
    obtain ⟨route, hr⟩ := RouteTable.mem_keys.mp hk
    exact RouteTable.mem_keys.mpr
      ⟨route, (RouteTable.get?_insert_of_ne h.sourced.consistent hf (unrouted key route hr)).mpr hr⟩
  obtain ⟨active, broker⟩ := settle_back h.tracked.serves h.subscribed wider
  have stored : twins.get? twin.id = some twin :=
    (TwinStore.get?_insert h.sourced.store hs _).trans (if_pos rfl)
  rw [added] at quiet ⊢
  obtain ⟨calls, removed⟩ := turn_remove_own quiet hi stored ho clock'
  refine ⟨calls, removed.trans ?_⟩
  dsimp only
  rw [store, routes, active, broker]

/-- With two ids under which no twin is stored, an addition comes to the same but for the id. --/
theorem add_reissued (h : Settled identities hub) {ids : IdSource} (hn : hub.twins.get? hub.ids.next = none)
    (hn' : hub.twins.get? ids.next = none) (clock : Clock) (token : String) (given : Twin) (d : Definition) :
    (({ hub with ids } : Hub).turn ⟨.empty, clock, .add token given d⟩).1 =
      (hub.turn ⟨.empty, clock, .add token given d⟩).1.map (Reply.withId ids.next) := by
  have quiet : Quiet { hub with ids } := h.quiet.congr rfl rfl rfl rfl
  rw [turn_add_reply quiet, turn_add_reply h.quiet]
  dsimp only
  cases hub.identities.identify token with
  | error e => rfl
  | ok owner =>
    dsimp only
    cases d.requireRoutable hub.notifyChannel with
    | error e => rfl
    | ok u =>
      dsimp only
      have free : hub.routes.requireFree (given.enrolled d ids.next owner clock.start) =
          hub.routes.requireFree (given.enrolled d hub.ids.next owner clock.start) :=
        RouteTable.requireFree_congr rfl (h.unrouted hn') (h.unrouted hn)
      obtain ⟨twins, stored⟩ := h.sourced.store.insert_of_new (given.enrolled d hub.ids.next owner clock.start) hn
      obtain ⟨twins', stored'⟩ := h.sourced.store.insert_of_new (given.enrolled d ids.next owner clock.start) hn'
      rw [free, stored, stored']
      cases hub.routes.requireFree (given.enrolled d hub.ids.next owner clock.start) <;> rfl

end Settled

/-! ### What is seen afterwards -/

/-- The failures that were due last are not due in any later turn. --/
theorem replies_due (hub : Hub) (faults : FaultPlan) (turns : List Turn) :
    ({ hub with faults } : Hub).replies turns = hub.replies turns := by
  cases turns <;> rfl

/-- A number that was used up and calls of the transport are seen by nobody. --/
theorem replies_skipped (issuing : Prop) (hq : Quiet hub) (hw : hub.twins.WellFormed) {ids : IdSource}
    (ids' : IdSource) (hids : issuing → ids = ids') {calls : List TransportCall} {turns : List Turn}
    (hi : ∀ t ∈ turns, t.op.issues = true → issuing) :
    ({ hub with
        faults := .empty, ids, twins := { hub.twins with nextSeq := hub.twins.nextSeq + 1 }, calls } : Hub).replies
      turns = ({ hub with ids := ids' } : Hub).replies turns := by
  rw [← replies_due { hub with ids := ids' } .empty]
  have same : Indistinct issuing
      { hub with faults := .empty, ids, twins := { hub.twins with nextSeq := hub.twins.nextSeq + 1 }, calls }
      { hub with faults := .empty, ids := ids' } :=
    ⟨rfl, hids, rfl, ⟨hw.skip, hw, rfl⟩, rfl, rfl, rfl, rfl, rfl⟩
  exact same.replies turns (hq.congr rfl rfl rfl rfl) (hq.congr rfl rfl rfl rfl) hi

/-- In every state of a run in which nothing fails: a removal by a known caller succeeds, whatever twin the id belongs
    to and whether there is one at all, and a second one changes nothing and only announces its end. A twin that was
    added and is removed right away leaves the twins, the states, the routes with the keys held for each twin, and the
    subscriptions of the hub and of the broker as they were before. Operations that use up no id come to what they
    would have come to before, whatever fails meanwhile, and all others come to what they come to where that one id is
    passed over. In particular an addition is accepted or refused as before and gives the same twin, but under the id
    that is next. --/
theorem follow_remove_undoes_add (identities : IdentityTable) (ids : IdSource) (notifyChannel : Option String)
    (ops : List (Clock × Operation)) :
    let hub := (Hub.new identities ids notifyChannel).follow (ops.map fun p => ⟨.empty, p.1, p.2⟩)
    (∀ token owner, identities.identify token = .ok owner → ∀ id clock clock',
      let once := hub.turn ⟨.empty, clock, .remove token id⟩
      let twice := once.2.turn ⟨.empty, clock', .remove token id⟩
      once.1 = .ok .done ∧ twice.1 = .ok .done ∧
        ∃ published, twice.2 = { once.2 with calls := once.2.calls ++ published } ∧
          ∀ call ∈ published, IsPublication call) ∧
    ∀ token given d clock reply,
      let added := hub.turn ⟨.empty, clock, .add token given d⟩
      added.1 = .ok reply → ∃ twin, reply = .twin twin ∧ twin.id = hub.ids.next ∧ ∀ clock',
        let removed := added.2.turn ⟨.empty, clock', .remove token twin.id⟩
        (∃ calls, removed = (.ok .done, { hub with
          faults := .empty
          ids := hub.ids.rest
          twins := { hub.twins with nextSeq := hub.twins.nextSeq + 1 }
          calls })) ∧
        (∀ turns, (∀ t ∈ turns, t.op.issues = false) → removed.2.replies turns = hub.replies turns) ∧
        (∀ turns, removed.2.replies turns = ({ hub with ids := hub.ids.rest } : Hub).replies turns) ∧
        ∀ token given d clock, hub.twins.get? hub.ids.rest.next = none →
          (removed.2.turn ⟨.empty, clock, .add token given d⟩).1 =
            (hub.turn ⟨.empty, clock, .add token given d⟩).1.map (Reply.withId hub.ids.rest.next) := by
  intro hub
  have h : Settled identities hub := Settled.follow identities ids notifyChannel ops
  constructor
  · intro token owner hi id clock clock' once twice
    obtain ⟨after, published, first, second, hp⟩ := h.remove_twice hi id clock clock'
    have behind : once.2 = after := congrArg Prod.snd first
    rw [← behind] at second
    exact ⟨congrArg Prod.fst first, congrArg Prod.fst second, published, congrArg Prod.snd second, hp⟩
  · intro token given d clock reply added hok
    obtain ⟨twin, rfl, -, -⟩ := h.sourced.turn_add h.quiet rfl hok
    obtain ⟨_, twins, _, -, -, hid, -, hs, -⟩ := turn_add_ok h.quiet hok
    obtain ⟨-, -, fresh⟩ := TwinStore.insert_ok h.sourced.store hs
    have new : hub.twins.get? hub.ids.next = none := hid ▸ h.sourced.store.get?_eq_none.mpr fresh
    refine ⟨twin, rfl, hid, fun clock' => ?_⟩
    intro removed
    obtain ⟨calls, back⟩ := h.remove_added clock clock' hok
    have same (turns : List Turn) :
        removed.2.replies turns = ({ hub with ids := hub.ids.rest } : Hub).replies turns := by
      rw [show removed = _ from back]
      exact replies_skipped True h.quiet h.sourced.store hub.ids.rest (fun _ => rfl) fun _ _ _ => trivial
    refine ⟨⟨calls, back⟩, fun turns ht => ?_, same, fun token given d clock next => ?_⟩
    · rw [show removed = _ from back]
      refine replies_skipped False h.quiet h.sourced.store hub.ids False.elim fun t hm hi => ?_
      rw [ht t hm] at hi
      cases hi
    · have one := same [⟨.empty, clock, .add token given d⟩]
      rw [← h.add_reissued new next]
      exact (List.cons.inj one).1

set_option maxRecDepth 4000 in
/-- A second twin is added and removed by its owner. Nobody but the owner could have removed the first one, and a third
    one gets what the second had, under the next id. --/
theorem follow_remove_undoes_add_second_twin :
    let given : Twin := ⟨"", "", "pump", [], ⟨0, 0⟩, ⟨0, 0⟩, 0, []⟩
    let flow : Attribute := ⟨"flow", "plant", "a", true⟩
    let heat : Attribute := ⟨"heat", "plant", "b", true⟩
    let identities : IdentityTable := ⟨[("token", "ann"), ("other", "bob")]⟩
    let ids : IdSource := ⟨fun n => if n = 0 then "t" else if n = 1 then "u" else "v", 0⟩
    let ops : List (Clock × Operation) := [(.at ⟨1, 0⟩, .add "token" given ⟨0, ⟨0, 0⟩, [flow]⟩)]
    let hub := (Hub.new identities ids none).follow (ops.map fun p => ⟨.empty, p.1, p.2⟩)
    let tried := hub.turn ⟨.empty, .at ⟨2, 0⟩, .remove "other" "t"⟩
    let again : Turn := ⟨.empty, .at ⟨2, 0⟩, .add "token" given ⟨0, ⟨0, 0⟩, [heat]⟩⟩
    let added := hub.turn again
    let removed := added.2.turn ⟨.empty, .at ⟨3, 0⟩, .remove "token" "u"⟩
    tried.1 = .ok .done ∧ tried.2.routes.keys = [⟨"plant", "a"⟩] ∧
      added.2.active = [⟨"plant", "b"⟩, ⟨"plant", "a"⟩] ∧ removed.1 = .ok .done ∧ removed.2.active = [⟨"plant", "a"⟩] ∧
      removed.2.routes = hub.routes ∧ removed.2.twins.toList = hub.twins.toList ∧
      (removed.2.turn again).1 = added.1.map (Reply.withId "v") := by
  intro given flow heat identities ids ops hub tried again added removed
  obtain ⟨twice, undone⟩ := follow_remove_undoes_add identities ids none ops
  obtain ⟨done, -⟩ := twice "other" "bob" (by decide +kernel) "t" (.at ⟨2, 0⟩) (.at ⟨2, 0⟩)
  have ok : added.1.isOk = true := by decide +kernel
  cases hr : added.1 with
  | error e =>
    rw [hr] at ok
    cases ok
  | ok reply =>
    obtain ⟨twin, -, hid, back⟩ := undone "token" given ⟨0, ⟨0, 0⟩, [heat]⟩ (.at ⟨2, 0⟩) reply hr
    have next : hub.ids.next = "u" := by decide +kernel
    rw [hid, next] at back
    obtain ⟨⟨calls, same⟩, -, -, reissued⟩ := back (.at ⟨3, 0⟩)
    have same : removed = _ := same
    have active : hub.active = [⟨"plant", "a"⟩] := by decide +kernel
    have one := reissued "token" given ⟨0, ⟨0, 0⟩, [heat]⟩ (.at ⟨2, 0⟩) (by decide +kernel)
    have third : hub.ids.rest.next = "v" := by decide +kernel
    rw [third] at one
    refine ⟨done, by decide +kernel, by decide +kernel, congrArg Prod.fst same, ?_, ?_, ?_, hr ▸ one⟩
    · rw [same]
      exact active
    · rw [same]
    · rw [same]
      rfl

end Hub
end DigitalTwin
