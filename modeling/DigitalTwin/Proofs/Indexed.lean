import DigitalTwin.Proofs.Admission
import DigitalTwin.Proofs.Effect
import DigitalTwin.Proofs.TwinStore

/-! The routes of a hub that started with empty stores are those that its stored twins persist. The table
    is patched by each change and made anew by a restoration; either way it stays exact, because no change
    is stored whose keys another twin has. -/

namespace DigitalTwin

namespace Hub

variable {hub hub' : Hub}

/-- What a hub that started with empty stores keeps: its stored twins may be routed, and they are. -/
structure Indexed (hub : Hub) : Prop where
  store : hub.twins.WellFormed
  consistent : hub.routes.Consistent
  routable : ∀ twin ∈ hub.twins.toList, twin.Routable hub.notifyChannel
  exact : hub.routes.Exact hub.twins.toList

namespace Indexed

theorem new (identities : IdentityTable) (ids : IdSource) (notifyChannel : Option String) :
    Indexed (Hub.new identities ids notifyChannel) :=
  ⟨TwinStore.wellFormed_empty, RouteTable.consistent_empty, fun _ h => (nomatch h), RouteTable.exact_nil⟩

/-- No key is persisted by two stored twins. --/
theorem id_eq_of_shared (h : Indexed hub) {twin u : Twin} (ht : twin ∈ hub.twins.toList) (hu : u ∈ hub.twins.toList)
    {key : RouteKey} (hkt : key ∈ twin.persistedKeys) (hku : key ∈ u.persistedKeys) : twin.id = u.id := by
  obtain ⟨route, hr⟩ := Twin.routeOn?_isSome.mpr hkt
  obtain ⟨route', hr'⟩ := Twin.routeOn?_isSome.mpr hku
  have hg := (h.exact key route).mpr ⟨twin, ht, hr⟩
  rw [(h.exact key route').mpr ⟨u, hu, hr'⟩] at hg
  cases hg
  rw [← Twin.routeOn?_twinId hr, ← Twin.routeOn?_twinId hr']

theorem pairwise_unshared (h : Indexed hub) :
    hub.twins.toList.Pairwise fun twin u => ∀ key ∈ twin.persistedKeys, key ∉ u.persistedKeys := by
  have ids : hub.twins.toList.Pairwise (·.id ≠ ·.id) := List.pairwise_map.mp h.store.nodup_ids
  exact ids.imp_of_mem fun ht hu hne key hkt hku => hne (h.id_eq_of_shared ht hu hkt hku)

theorem congr (h : Indexed hub) (same : SameRecords hub hub') : Indexed hub' := by
  refine ⟨?_, ?_, ?_, ?_⟩
  · rw [same.twins]
    exact h.store
  · rw [same.routes]
    exact h.consistent
  · rw [same.twins, same.notifyChannel]
    exact h.routable
  · rw [same.twins, same.routes]
    exact h.exact

/-- A free and routable twin is stored, anew or in the place of the one with its id, and routed. --/
theorem put (h : Indexed hub) {twin : Twin} {twins : TwinStore} {ids : IdSource} (hw : twins.WellFormed)
    (hr : twin.Routable hub.notifyChannel) (hf : hub.routes.requireFree twin = .ok ())
    (hm : ∀ u, u ∈ twins.toList ↔ u = twin ∨ u ∈ hub.twins.toList ∧ u.id ≠ twin.id) :
    Indexed { hub with ids, twins, routes := (hub.routes.insert twin).2 } := by
  refine ⟨hw, h.consistent.insert hf, fun u hu => ?_, h.exact.insert h.consistent hf hm⟩
  rcases (hm u).mp hu with rfl | ⟨hu, -⟩
  · exact hr
  · exact h.routable u hu

theorem restoring (h : Indexed hub) :
    Indexed { hub with routes := .ofTwins hub.notifyChannel hub.twins.toList } := by
  refine ⟨h.store, RouteTable.consistent_ofTwins _ _, h.routable, ?_⟩
  have exact := RouteTable.exact_ofTwins hub.notifyChannel h.store.nodup_ids
  rwa [RouteTable.admitted_eq_self h.routable h.pairwise_unshared] at exact

/-- Every change keeps the routes exact, except a new start and what is done behind the hub. --/
theorem effect {clock : Clock} {op : Operation} (h : Indexed hub) (hop : op.isCall = true)
    (he : Effect clock op hub hub') : Indexed hub' := by
  cases he with
  | transport same => exact h.congr same
  | issue => exact ⟨h.store, h.consistent, h.routable, h.exact⟩
  | add hop hi hd hf hs =>
    obtain ⟨hw, -, -⟩ := TwinStore.insert_ok h.store hs
    exact h.put hw (Twin.enrolled_routable hd) hf fun u => TwinStore.mem_insert h.store hs
  | update hop hi hg ho hd hf hs =>
    obtain ⟨hw, -, -⟩ := TwinStore.replace_ok h.store hs
    exact h.put hw (Twin.revised_routable hd) hf fun u => TwinStore.mem_replace h.store hs
  | @remove _ id _ _ hop hi hg ho =>
    obtain ⟨hw, -⟩ := TwinStore.erase_toList h.store id
    have left : ∀ u, u ∈ (hub.twins.erase id).toList ↔ u ∈ hub.twins.toList ∧ u.id ≠ id := fun u =>
      TwinStore.mem_erase h.store
    exact ⟨hw, h.consistent.erase id, fun u hu => h.routable u ((left u).mp hu).1, h.exact.erase h.consistent left⟩
  | restore hop => exact h.restoring
  | record hm hr hd hk => exact ⟨h.store, h.consistent, h.routable, h.exact⟩
  | restart hop' =>
    subst hop'
    cases hop
  | seedTwin hop' =>
    subst hop'
    cases hop
  | seedState hop => exact ⟨h.store, h.consistent, h.routable, h.exact⟩

theorem follow (h : Indexed hub) (hq : Quiet hub) {turns : List Turn} (hcalls : ∀ t ∈ turns, t.op.isCall = true) :
    Indexed (hub.follow turns) :=
  follow_induction hq h fun t ht _ _ he hi => hi.effect (hcalls t ht) he

/-- A key has a route exactly if a stored twin persists it now, and the route is that of its attribute. --/
theorem get?_routes (h : Indexed hub) {channel subtopic : String} {route : Route} :
    hub.routes.get? ⟨channel, subtopic⟩ = some route ↔
      ∃ twin ∈ hub.twins.toList, ∃ d, twin.current? = some d ∧ ∃ a ∈ d.attributes,
        a.persisted = true ∧ a.channel = channel ∧ a.subtopic = subtopic ∧
          route = ⟨twin.id, a, twin.revision⟩ := by
  rw [h.exact]
  constructor
  · rintro ⟨twin, ht, hr⟩
    obtain ⟨d, hd, a, hm, hp, hk, rfl⟩ := Twin.current_of_routeOn? hr
    exact ⟨twin, ht, d, hd, a, hm, hp, congrArg RouteKey.channel hk, congrArg RouteKey.subtopic hk, rfl⟩
  · rintro ⟨twin, ht, d, hd, a, hm, hp, rfl, rfl, rfl⟩
    exact ⟨twin, ht, (h.routable twin ht).routeOn?_iff_current.mpr ⟨d, hd, a, hm, hp, rfl, rfl⟩⟩

/-- What is routed is stored under the id of the route, and is the definition in force. --/
theorem current_of_route (h : Indexed hub) {key : RouteKey} {route : Route} (hr : hub.routes.get? key = some route) :
    ∃ twin d, hub.twins.get? route.twinId = some twin ∧ twin.current? = some d ∧ route.routed ∈ d.attributes ∧
      route.revision = twin.revision := by
  obtain ⟨twin, ht, d, hd, a, hm, -, -, -, rfl⟩ := h.get?_routes.mp hr
  exact ⟨twin, d, h.store.get?_eq_some.mpr ⟨ht, rfl⟩, hd, hm, rfl⟩

end Indexed

/-- Behind any run of calls from empty stores, whatever failed in it, the routes are those of the persisted
    attributes of the definitions in force, no two stored twins persist one key, and nothing else is routed. --/
theorem follow_routes_exact (identities : IdentityTable) (ids : IdSource) (notifyChannel : Option String)
    (turns : List Turn) (hcalls : ∀ t ∈ turns, t.op.isCall = true) :
    let hub := (Hub.new identities ids notifyChannel).follow turns
    (∀ channel subtopic route, hub.routes.get? ⟨channel, subtopic⟩ = some route ↔
      ∃ twin ∈ hub.twins.toList, ∃ d, twin.definitions.getLast? = some d ∧ ∃ a ∈ d.attributes,
        a.persisted = true ∧ a.channel = channel ∧ a.subtopic = subtopic ∧
          route = ⟨twin.id, a, twin.revision⟩) ∧
    (hub.twins.toList.Pairwise fun twin u => ∀ key ∈ twin.persistedKeys, key ∉ u.persistedKeys) ∧
    ∀ key route, hub.routes.get? key = some route → ∃ twin d, hub.twins.get? route.twinId = some twin ∧
      twin.definitions.getLast? = some d ∧ route.routed ∈ d.attributes ∧ route.revision = twin.revision := by
  intro hub
  have h : Indexed hub := (Indexed.new identities ids notifyChannel).follow (Quiet.new ..) hcalls
  exact ⟨fun _ _ _ => h.get?_routes, h.pairwise_unshared, fun _ _ => h.current_of_route⟩

/-- Two twins get one id: the second is refused, and the first is revised while its new key cannot be
    subscribed. --/
theorem follow_routes_exact_repeated_id :
    let given : Twin := ⟨"t", "", "pump", [], ⟨0, 0⟩, ⟨0, 0⟩, 0, []⟩
    let first : Attribute := ⟨"flow", "plant", "a", true⟩
    let second : Attribute := ⟨"heat", "plant", "b", true⟩
    let turns : List Turn :=
      [⟨.empty, .at ⟨1, 0⟩, .add "token" given ⟨0, ⟨0, 0⟩, [first]⟩⟩,
        ⟨.empty, .at ⟨2, 0⟩, .add "token" given ⟨0, ⟨0, 0⟩, [second]⟩⟩,
        ⟨⟨[(.subscribe, [⟨1, some (.transport "down")⟩])]⟩, .at ⟨3, 0⟩, .update "token" given ⟨0, ⟨0, 0⟩, [second]⟩⟩]
    let hub := (Hub.new ⟨[("token", "ann")]⟩ ⟨fun _ => "t", 0⟩ none).follow turns
    (∀ t ∈ turns, t.op.isCall = true) ∧
    hub.routes.get? ⟨"plant", "b"⟩ = some ⟨"t", second, 1⟩ ∧ hub.active = [] ∧
    (hub.twins.toList.Pairwise fun twin u => ∀ key ∈ twin.persistedKeys, key ∉ u.persistedKeys) := by
  refine ⟨by decide, by decide +kernel, by decide +kernel, ?_⟩
  exact (follow_routes_exact _ _ _ _ (by decide)).2.1

end Hub
end DigitalTwin
