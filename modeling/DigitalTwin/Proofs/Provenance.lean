import DigitalTwin.Proofs.Admission
import DigitalTwin.Proofs.Effect
import DigitalTwin.Proofs.TwinStore

/-! Where routes come from when anything may be put into the store behind the hub, and the hub may be
    started anew without its routes. Then stored twins may collide, may not be routable and may not be
    routed, so the store does not say what is routed. But some of the stored twins are routed whole, and
    nothing else is. -/

namespace DigitalTwin
namespace Hub

variable {hub hub' hub'' : Hub} {routes : RouteTable} {twin : Twin} {d : Definition} {now : Instant}

/-- What a hub keeps over any store: its routes are those of some of the stored twins. -/
structure Sourced (hub : Hub) : Prop where
  store : hub.twins.WellFormed
  consistent : hub.routes.Consistent
  routed : ∃ routed : List Twin, routed ⊆ hub.twins.toList ∧ hub.routes.Exact routed

namespace Sourced

theorem new (identities : IdentityTable) (ids : IdSource) (notifyChannel : Option String) :
    Sourced (Hub.new identities ids notifyChannel) :=
  ⟨TwinStore.wellFormed_empty, RouteTable.consistent_empty, [], List.nil_subset _, RouteTable.exact_nil⟩

theorem congr (h : Sourced hub) (same : SameRecords hub hub') : Sourced hub' := by
  refine ⟨?_, ?_, ?_⟩
  · rw [same.twins]
    exact h.store
  · rw [same.routes]
    exact h.consistent
  · rw [same.twins, same.routes]
    exact h.routed

theorem due (h : Sourced hub) (faults : FaultPlan) : Sourced { hub with faults } :=
  ⟨h.store, h.consistent, h.routed⟩

/-- A twin that is stored and routed joins those that are routed, in the place of the one with its id. --/
theorem put (h : Sourced hub) {twins : TwinStore} {ids : IdSource} (hw : twins.WellFormed)
    (hf : hub.routes.requireFree twin = .ok ())
    (hm : ∀ u, u ∈ twins.toList ↔ u = twin ∨ u ∈ hub.twins.toList ∧ u.id ≠ twin.id) :
    Sourced { hub with ids, twins, routes := (hub.routes.insert twin).2 } := by
  obtain ⟨routed, hs, he⟩ := h.routed
  -- A twin that was stored but not routed is routed whole from now on.
  refine ⟨hw, h.consistent.insert hf, twin :: routed.filter (·.id ≠ twin.id), fun u hu => (hm u).mpr ?_,
    he.insert h.consistent hf fun u => by simp⟩
  rcases List.mem_cons.mp hu with rfl | hu
  · exact Or.inl rfl
  · obtain ⟨hu, hne⟩ := List.mem_filter.mp hu
    exact Or.inr ⟨hs hu, by simpa using hne⟩

theorem remove (h : Sourced hub) (id : String) :
    Sourced { hub with twins := hub.twins.erase id, routes := (hub.routes.erase id).2 } := by
  obtain ⟨routed, hs, he⟩ := h.routed
  obtain ⟨hw, -⟩ := TwinStore.erase_toList h.store id
  refine ⟨hw, h.consistent.erase id, routed.filter (·.id ≠ id), fun u hu => ?_,
    he.erase h.consistent fun u => by simp⟩
  obtain ⟨hu, hne⟩ := List.mem_filter.mp hu
  exact (TwinStore.mem_erase h.store).mpr ⟨hs hu, by simpa using hne⟩

/-- A restoration routes the twins that it admits. --/
theorem restoring (h : Sourced hub) : Sourced { hub with routes := .ofTwins hub.notifyChannel hub.twins.toList } :=
  ⟨h.store, RouteTable.consistent_ofTwins _ _, RouteTable.admitted hub.notifyChannel hub.twins.toList,
    RouteTable.admitted_sublist.subset, RouteTable.exact_ofTwins hub.notifyChannel h.store.nodup_ids⟩

/-- A twin put into the store behind the hub is not routed. --/
theorem seedTwin (h : Sourced hub) {twins : TwinStore} (hs : hub.twins.insert twin = .ok twins) :
    Sourced { hub with twins } := by
  obtain ⟨routed, hsub, he⟩ := h.routed
  obtain ⟨hw, hl, -⟩ := TwinStore.insert_ok h.store hs
  refine ⟨hw, h.consistent, routed, ?_, he⟩
  show _ ⊆ twins.toList
  rw [hl]
  exact List.subset_append_of_subset_left _ hsub

theorem effect {clock : Clock} {op : Operation} (h : Sourced hub) (he : Effect clock op hub hub') : Sourced hub' := by
  cases he with
  | transport same => exact h.congr same
  | issue => exact ⟨h.store, h.consistent, h.routed⟩
  | add hop hi hd hf hs =>
    obtain ⟨hw, -, -⟩ := TwinStore.insert_ok h.store hs
    exact h.put hw hf fun u => TwinStore.mem_insert h.store hs
  | update hop hi hg ho hd hf hs =>
    obtain ⟨hw, -, -⟩ := TwinStore.replace_ok h.store hs
    exact h.put hw hf fun u => TwinStore.mem_replace h.store hs
  | @remove _ id _ _ hop hi hg ho => exact h.remove id
  | restore hop => exact h.restoring
  | record hm hr hd hk => exact ⟨h.store, h.consistent, h.routed⟩
  | restart hop => exact ⟨h.store, RouteTable.consistent_empty, [], List.nil_subset _, RouteTable.exact_nil⟩
  | seedTwin hop hs => exact h.seedTwin hs
  | seedState hop => exact ⟨h.store, h.consistent, h.routed⟩

theorem follow (h : Sourced hub) (hq : Quiet hub) (turns : List Turn) : Sourced (hub.follow turns) :=
  follow_induction hq h fun _ _ _ _ he hs => hs.effect he

/-- A route is that of a persisted attribute of the definition in force of a stored twin. --/
theorem exists_twin (h : Sourced hub) {key : RouteKey} {route : Route} (hr : hub.routes.get? key = some route) :
    ∃ twin d, hub.twins.get? route.twinId = some twin ∧ twin.current? = some d ∧ ∃ a ∈ d.attributes,
      a.persisted = true ∧ a.key = key ∧ route = ⟨twin.id, a, twin.revision⟩ := by
  obtain ⟨routed, hs, he⟩ := h.routed
  obtain ⟨twin, ht, hr⟩ := (he key route).mp hr
  obtain ⟨d, hd, a, hm, hp, hk, rfl⟩ := Twin.current_of_routeOn? hr
  exact ⟨twin, d, h.store.get?_eq_some.mpr ⟨hs ht, rfl⟩, hd, a, hm, hp, hk, rfl⟩

end Sourced

/-! ### What a change puts in force -/

/-- A twin is stored with a definition in force, whose persisted attributes are routed to it at its revision.
    What the routes had for other twins is still there. -/
structure InForce (d : Definition) (now : Instant) (twin : Twin) (routes : RouteTable) (hub' : Hub) : Prop where
  stored : hub'.twins.get? twin.id = some twin
  current : twin.definitions.getLast? = some { d with id := twin.revision, created := now }
  routed : ∀ a ∈ d.attributes, a.persisted = true →
    hub'.routes.get? ⟨a.channel, a.subtopic⟩ = some ⟨twin.id, a, twin.revision⟩
  others : ∀ key route, routes.get? key = some route → route.twinId ≠ twin.id →
    hub'.routes.get? key = some route

namespace InForce

theorem congr (h : InForce d now twin routes hub') (same : SameRecords hub' hub'') :
    InForce d now twin routes hub'' := by
  refine ⟨?_, h.current, ?_, ?_⟩
  · rw [same.twins]
    exact h.stored
  · rw [same.routes]
    exact h.routed
  · rw [same.routes]
    exact h.others

/-- A routable twin whose keys are free has all its routes once it is put in. --/
theorem of_insert (hc : routes.Consistent) {notifyChannel : Option String} (hr : twin.Routable notifyChannel)
    (hf : routes.requireFree twin = .ok ()) (hs : hub'.twins.get? twin.id = some twin)
    (hd : twin.current? = some { d with id := twin.revision, created := now })
    (hi : hub'.routes = (routes.insert twin).2) : InForce d now twin routes hub' := by
  refine ⟨hs, hd, fun a ha hp => ?_, fun key route hg hne => ?_⟩
  · have own : twin.routeOn? a.key = some ⟨twin.id, a, twin.revision⟩ :=
      hr.routeOn?_iff_current.mpr ⟨_, hd, a, ha, hp, rfl, rfl⟩
    show hub'.routes.get? a.key = _
    rw [hi, RouteTable.get?_insert hc.covering, own, Option.some_or]
  · have free := RouteTable.requireFree_eq_ok.mp hf
    have foreign : twin.routeOn? key = none := Twin.routeOn?_eq_none.mpr fun hk => hne (free key hk route hg)
    rw [hi, RouteTable.get?_insert hc.covering, foreign, Option.none_or, hg]
    exact Option.filter_eq_some_iff.mpr ⟨rfl, by simpa using hne⟩

end InForce

theorem Sourced.register (h : Sourced hub) {token : String} {given : Twin}
    (hok : (outcome (Hub.register token given d now) hub).1 = .ok twin) :
    twin.revision = 0 ∧ InForce d now twin hub.routes (outcome (Hub.register token given d now) hub).2 := by
  unfold outcome at hok ⊢
  rcases register_cases token given d now hub with
    ⟨e, faults, ids, -, hr⟩ | ⟨owner, faults, twins, -, hd, hf, hs, hr⟩ <;> rw [hr] at hok ⊢
  · cases hok
  · cases hok
    have stored := (TwinStore.get?_insert h.store hs _).trans (if_pos rfl)
    refine ⟨rfl, InForce.congr ?_ (alignSubscriptions_aligned _).same⟩
    exact .of_insert h.consistent (Twin.enrolled_routable hd) hf stored rfl rfl

theorem Sourced.revise (h : Sourced hub) {token : String} {given : Twin}
    (hok : (outcome (Hub.revise token given d now) hub).1 = .ok ()) :
    ∃ before twin, hub.twins.get? given.id = some before ∧ twin.id = given.id ∧
      twin.revision = nextWord before.revision ∧
      InForce d now twin hub.routes (outcome (Hub.revise token given d now) hub).2 := by
  unfold outcome at hok ⊢
  rcases revise_cases token given d now hub with
    ⟨e, faults, hr⟩ | ⟨owner, before, faults, twins, -, hg, -, hd, hf, hs, hr⟩ <;> rw [hr] at hok ⊢
  · cases hok
  · have stored := (TwinStore.get?_replace h.store hs _).trans (if_pos rfl)
    refine ⟨before, before.revised given d now, hg, (h.store.get?_eq_some.mp hg).2, rfl, InForce.congr ?_
      (alignSubscriptions_aligned _).same⟩
    exact .of_insert h.consistent (Twin.revised_routable hd) hf stored List.getLast?_concat rfl

theorem Sourced.turn_add (h : Sourced hub) (hq : Quiet hub) {t : Turn} {token : String} {given : Twin} {reply : Reply}
    (hop : t.op = .add token given d) (hok : (hub.turn t).1 = .ok reply) :
    ∃ twin, reply = .twin twin ∧ twin.revision = 0 ∧ InForce d t.clock.start twin hub.routes (hub.turn t).2 := by
  obtain ⟨faults, clock, op⟩ := t
  cases hop
  unfold Hub.turn at hok ⊢
  rw [perform_add (hq.due faults) clock] at hok ⊢
  cases hr : (outcome (Hub.register token given d clock.start) { hub with faults }).1 with
  | error e =>
    rw [hr] at hok
    cases hok
  | ok twin =>
    rw [hr] at hok
    cases hok
    obtain ⟨hrev, hi⟩ := (h.due faults).register hr
    exact ⟨twin, rfl, hrev, hi.congr (announce_same _ _ _ _)⟩

theorem Sourced.turn_update (h : Sourced hub) (hq : Quiet hub) {t : Turn} {token : String} {given : Twin}
    {reply : Reply} (hop : t.op = .update token given d) (hok : (hub.turn t).1 = .ok reply) :
    ∃ before twin, hub.twins.get? given.id = some before ∧ twin.id = given.id ∧
      twin.revision = nextWord before.revision ∧ InForce d t.clock.start twin hub.routes (hub.turn t).2 := by
  obtain ⟨faults, clock, op⟩ := t
  cases hop
  unfold Hub.turn at hok ⊢
  rw [perform_update (hq.due faults) clock] at hok ⊢
  cases hr : (outcome (Hub.revise token given d clock.start) { hub with faults }).1 with
  | error e =>
    rw [hr] at hok
    cases hok
  | ok u =>
    obtain ⟨before, twin, hg, hid, hrev, hi⟩ := (h.due faults).revise hr
    exact ⟨before, twin, hg, hid, hrev, hi.congr (announce_same _ _ _ _)⟩

/-! ### Runs over any store -/

/-- Whatever twins were put into the store behind the hub, wherever it was started anew and whatever failed:
    every route is that of a persisted attribute of the definition in force of a stored twin. When a twin is
    added or updated, what its definition persists is routed to it at its new revision, and nothing that was
    routed to another twin is taken over. --/
theorem follow_routes_sourced (identities : IdentityTable) (ids : IdSource) (notifyChannel : Option String)
    (turns : List Turn) :
    let hub := (Hub.new identities ids notifyChannel).follow turns
    (∀ channel subtopic route, hub.routes.get? ⟨channel, subtopic⟩ = some route →
      ∃ twin ∈ hub.twins.toList, twin.id = route.twinId ∧ twin.revision = route.revision ∧
        ∃ d, twin.definitions.getLast? = some d ∧ route.routed ∈ d.attributes ∧
          route.routed.persisted = true ∧ route.routed.channel = channel ∧ route.routed.subtopic = subtopic) ∧
    (∀ t token given d reply, t.op = .add token given d → (hub.turn t).1 = .ok reply →
      ∃ twin, reply = .twin twin ∧ twin.revision = 0 ∧ InForce d t.clock.start twin hub.routes (hub.turn t).2) ∧
    ∀ t token given d reply, t.op = .update token given d → (hub.turn t).1 = .ok reply →
      ∃ before twin, hub.twins.get? given.id = some before ∧ twin.id = given.id ∧
        twin.revision = nextWord before.revision ∧ InForce d t.clock.start twin hub.routes (hub.turn t).2 := by
  intro hub
  have hq : Quiet hub := (Quiet.new identities ids notifyChannel).follow turns
  have h : Sourced hub := (Sourced.new identities ids notifyChannel).follow (Quiet.new ..) turns
  refine ⟨fun channel subtopic route hr => ?_, ?_, ?_⟩
  · obtain ⟨twin, d, hg, hd, a, ha, hp, hk, rfl⟩ := h.exists_twin hr
    obtain ⟨hm, -⟩ := h.store.get?_eq_some.mp hg
    exact ⟨twin, hm, rfl, rfl, d, hd, ha, hp, congrArg RouteKey.channel hk, congrArg RouteKey.subtopic hk⟩
  · exact fun t token given d reply hop hok => h.turn_add hq hop hok
  · exact fun t token given d reply hop hok => h.turn_update hq hop hok

/-- Two twins with one key were put into the store before a new start. The restoration passes over the second,
    which keeps no route at all until it is updated; the first keeps its own throughout. --/
theorem follow_routes_sourced_skipped_twin :
    let flow : Attribute := ⟨"flow", "plant", "a", true⟩
    let heat : Attribute := ⟨"heat", "plant", "b", true⟩
    let first : Twin := ⟨"t", "ann", "pump", [], ⟨0, 0⟩, ⟨0, 0⟩, 7, [⟨6, ⟨0, 0⟩, [heat]⟩, ⟨7, ⟨0, 0⟩, [flow]⟩]⟩
    let second : Twin := ⟨"u", "ann", "tank", [], ⟨0, 0⟩, ⟨0, 0⟩, 3, [⟨3, ⟨0, 0⟩, [heat, flow]⟩]⟩
    let ops : List Operation := [.seedTwin first, .seedTwin second, .restart none, .restore]
    let hub := (Hub.new ⟨[("token", "ann")]⟩ ⟨fun _ => "v", 0⟩ none).follow (ops.map (⟨.empty, .at ⟨1, 0⟩, ·⟩))
    let after := hub.turn ⟨.empty, .at ⟨2, 0⟩, .update "token" second ⟨0, ⟨0, 0⟩, [heat]⟩⟩
    hub.routes.get? ⟨"plant", "b"⟩ = none ∧ after.1.isOk = true ∧
      after.2.routes.get? ⟨"plant", "b"⟩ = some ⟨"u", heat, 4⟩ ∧
      after.2.routes.get? ⟨"plant", "a"⟩ = some ⟨"t", flow, 7⟩ := by
  intro flow heat first second ops hub after
  have ok : after.1.isOk = true := by decide +kernel
  have revision : (hub.twins.get? "u").map (·.revision) = some 3 := by decide +kernel
  have kept : hub.routes.get? ⟨"plant", "a"⟩ = some ⟨"t", flow, 7⟩ := by decide +kernel
  refine ⟨by decide +kernel, ok, ?_⟩
  cases hr : after.1 with
  | error e =>
    rw [hr] at ok
    cases ok
  | ok reply =>
    obtain ⟨before, twin, hg, hid, hrev, hi⟩ :=
      (follow_routes_sourced ⟨[("token", "ann")]⟩ ⟨fun _ => "v", 0⟩ none (ops.map (⟨.empty, .at ⟨1, 0⟩, ·⟩))).2.2
        ⟨.empty, .at ⟨2, 0⟩, .update "token" second ⟨0, ⟨0, 0⟩, [heat]⟩⟩ _ _ _ reply rfl hr
    rw [show hub.twins.get? "u" = some before from hg] at revision
    have new : twin.revision = 4 := by
      have old : before.revision = 3 := Option.some.inj revision
      rw [hrev, old]
      rfl
    constructor
    · have routed := hi.routed heat (List.mem_singleton_self _) rfl
      rw [hid, new] at routed
      exact routed
    · refine hi.others _ _ kept ?_
      rw [hid]
      decide

end Hub
end DigitalTwin
