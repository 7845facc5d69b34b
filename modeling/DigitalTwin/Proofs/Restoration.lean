import DigitalTwin.Proofs.Indexed

/-! What a restoration makes of the store. Over any stored twins it is greedy: an earlier twin has its keys
    before a later one, and a twin that is passed over blocks nobody. Where all twins came through the hub,
    nobody is passed over, so it makes the routes that the hub had. -/

namespace DigitalTwin
namespace RouteTable

variable {t t' : RouteTable} {twins : List Twin}

/-- A table has the routes of the accepted twins of a listing, which is gone through in order. A twin is
    accepted if its definition in force has no two attributes with one key and none that is persisted on the
    notification channel, and no twin accepted before it has a key of it. -/
structure Greedy (notifyChannel : Option String) (twins accepted : List Twin) (t : RouteTable) : Prop where
  sublist : accepted.Sublist twins
  accepted_iff : ∀ before twin behind, twins = before ++ twin :: behind →
    (twin ∈ accepted ↔
      (∀ d, twin.definitions.getLast? = some d → (d.attributes.map (·.key)).Nodup ∧
        ∀ a ∈ d.attributes, a.persisted = true → some a.channel ≠ notifyChannel) ∧
      ∀ u ∈ before, u ∈ accepted → ∀ key ∈ u.persistedKeys, key ∉ twin.persistedKeys)
  get?_iff : ∀ key route, t.get? key = some route ↔
    ∃ twin ∈ accepted, ∃ d, twin.definitions.getLast? = some d ∧ ∃ a ∈ d.attributes,
      a.persisted = true ∧ a.key = key ∧ route = ⟨twin.id, a, twin.revision⟩
  rejected : ∀ twin ∈ twins, twin ∉ accepted → ∀ key route, t.get? key = some route → route.twinId ≠ twin.id
  nodup : t.keys.Nodup

theorem greedy_ofTwins (notifyChannel : Option String) (hids : (twins.map (·.id)).Nodup) :
    Greedy notifyChannel twins (admitted notifyChannel twins) (ofTwins notifyChannel twins) := by
  have exact := exact_ofTwins notifyChannel hids
  refine ⟨admitted_sublist, ?_, fun key route => ?_, ?_, nodup_keys_ofTwins notifyChannel twins⟩
  · rintro before twin behind rfl
    rw [mem_admitted hids]
    exact and_congr_left fun _ => Twin.routable_iff
  · rw [exact]
    refine exists_congr fun twin => and_congr_right fun ht => ?_
    obtain ⟨before, behind, rfl⟩ := List.append_of_mem (admitted_sublist.subset ht)
    exact ((mem_admitted hids).mp ht).1.routeOn?_iff_current
  · intro twin ht hrejected key route hr hid
    obtain ⟨u, hu, hur⟩ := (exact key route).mp hr
    rw [Twin.routeOn?_twinId hur] at hid
    have same : u = twin := List.inj_on_of_nodup_map hids (admitted_sublist.subset hu) ht hid
    exact hrejected (same ▸ hu)

theorem Exact.get?_eq (h : Exact t twins) (h' : Exact t' twins) (key : RouteKey) : t.get? key = t'.get? key :=
  Option.ext fun route => (h key route).trans (h' key route).symm

end RouteTable

namespace Hub

variable {hub : Hub} {faults : FaultPlan}

/-- A restoration that can have the stored twins succeeds, and the store alone says what is routed then. --/
theorem turn_restore (hub : Hub) (clock : Clock) (h : faults.outcome? .everyTwin 0 = none) :
    let after := hub.turn ⟨faults, clock, .restore⟩
    after.1 = .ok (.count after.2.routes.keys.length) ∧
      after.2.routes = .ofTwins hub.notifyChannel hub.twins.toList ∧
      after.2.twins = hub.twins ∧ after.2.notifyChannel = hub.notifyChannel := by
  unfold turn
  rw [perform_restore]
  unfold outcome
  rcases restore_cases { hub with faults } with ⟨e, he, -⟩ | ⟨-, hr⟩
  · rw [show faults.outcome? .everyTwin 0 = some e from he] at h
    cases h
  · rw [hr]
    have same := (alignSubscriptions_aligned
      { hub with
        faults := (faults.next .everyTwin).2
        routes := .ofTwins hub.notifyChannel hub.twins.toList }).same
    refine ⟨?_, same.routes, same.twins, same.notifyChannel⟩
    dsimp only
    rw [same.routes, RouteTable.size_eq]
    rfl

theorem Indexed.get?_ofTwins (h : Indexed hub) (key : RouteKey) :
    (RouteTable.ofTwins hub.notifyChannel hub.twins.toList).get? key = hub.routes.get? key :=
  h.restoring.exact.get?_eq h.exact key

/-- Where the hub has kept its routes exact, a restoration leaves them as they are, also one that fails. --/
theorem Indexed.turn_restore (h : Indexed hub) (faults : FaultPlan) (clock : Clock) (key : RouteKey) :
    (hub.turn ⟨faults, clock, .restore⟩).2.routes.get? key = hub.routes.get? key := by
  unfold Hub.turn
  rw [perform_restore]
  unfold outcome
  rcases restore_cases { hub with faults } with ⟨e, -, hr⟩ | ⟨-, hr⟩ <;> rw [hr]
  rw [(alignSubscriptions_aligned _).same.routes]
  exact h.get?_ofTwins key

/-- Over any stored twins with distinct ids, and whatever was routed, a restoration that can have the twins
    succeeds: it routes greedily, counts the routes, and once more it makes the same of them. Behind any run of
    calls from empty stores, whatever failed in it, a restoration leaves every route as it is, and one behind a
    new start with the same notification channel brings every route back. --/
theorem restore_greedy :
    (∀ (hub : Hub) (faults : FaultPlan) (clock : Clock), (hub.twins.toList.map (·.id)).Nodup →
      faults.outcome? .everyTwin 0 = none →
      let after := hub.turn ⟨faults, clock, .restore⟩
      after.1 = .ok (.count after.2.routes.keys.length) ∧
      (∃ accepted, after.2.routes.Greedy hub.notifyChannel hub.twins.toList accepted) ∧
      ∀ faults' clock', faults'.outcome? .everyTwin 0 = none →
        let again := after.2.turn ⟨faults', clock', .restore⟩
        again.1 = after.1 ∧ again.2.routes = after.2.routes) ∧
    ∀ (identities : IdentityTable) (ids : IdSource) (notifyChannel : Option String) (turns : List Turn),
      (∀ t ∈ turns, t.op.isCall = true) →
      let hub := (Hub.new identities ids notifyChannel).follow turns
      ∀ (faults : FaultPlan) (clock : Clock) (key : RouteKey),
        (hub.turn ⟨faults, clock, .restore⟩).2.routes.get? key = hub.routes.get? key ∧
        (faults.outcome? .everyTwin 0 = none →
          ((hub.restart hub.notifyChannel).turn ⟨faults, clock, .restore⟩).2.routes.get? key =
            hub.routes.get? key) := by
  constructor
  · intro hub faults clock hids h after
    obtain ⟨hcount, hroutes, htwins, hchannel⟩ := turn_restore hub clock h
    refine ⟨hcount, ⟨RouteTable.admitted hub.notifyChannel hub.twins.toList, ?_⟩, fun faults' clock' h' => ?_⟩
    · rw [hroutes]
      exact RouteTable.greedy_ofTwins hub.notifyChannel hids
    · obtain ⟨hcount', hroutes', -, -⟩ := turn_restore after.2 clock' h'
      have same : (after.2.turn ⟨faults', clock', .restore⟩).2.routes = after.2.routes := by
        rw [hroutes', htwins, hchannel, hroutes]
      refine ⟨?_, same⟩
      rw [hcount', hcount, same]
  · intro identities ids notifyChannel turns hcalls hub faults clock key
    have h : Indexed hub := (Indexed.new identities ids notifyChannel).follow (Quiet.new ..) hcalls
    refine ⟨h.turn_restore faults clock key, fun hok => ?_⟩
    rw [(turn_restore (hub.restart hub.notifyChannel) clock hok).2.1]
    exact h.get?_ofTwins key

/-- Three stored twins have one key, and the last of them is routed. A restoration passes over the first, which uses
    the key twice, and over the last. A twin that was added and updated gets its route back behind a new start. --/
theorem restore_greedy_shared_key :
    let flow : Attribute := ⟨"flow", "plant", "a", true⟩
    let spare : Attribute := ⟨"spare", "plant", "a", false⟩
    let heat : Attribute := ⟨"heat", "plant", "b", true⟩
    let twin (id : String) (attributes : List Attribute) : Twin :=
      ⟨id, "ann", "pump", [], ⟨0, 0⟩, ⟨0, 0⟩, 5, [⟨5, ⟨0, 0⟩, attributes⟩]⟩
    let start := Hub.new ⟨[("token", "ann")]⟩ ⟨fun _ => "v", 0⟩ none
    let turns : List Turn :=
      [⟨.empty, .at ⟨1, 0⟩, .seedTwin (twin "t" [flow, spare])⟩, ⟨.empty, .at ⟨2, 0⟩, .seedTwin (twin "u" [flow])⟩,
        ⟨.empty, .at ⟨3, 0⟩, .add "token" (twin "" []) ⟨0, ⟨0, 0⟩, [flow]⟩⟩]
    let dirty := start.follow turns
    let after := dirty.turn ⟨.empty, .at ⟨4, 0⟩, .restore⟩
    let changes : List Turn :=
      [⟨.empty, .at ⟨1, 0⟩, .add "token" (twin "" []) ⟨0, ⟨0, 0⟩, [flow]⟩⟩,
        ⟨.empty, .at ⟨2, 0⟩, .update "token" (twin "v" []) ⟨0, ⟨0, 0⟩, [heat]⟩⟩]
    let clean := start.follow changes
    dirty.routes.get? ⟨"plant", "a"⟩ = some ⟨"v", flow, 0⟩ ∧
      after.1 = .ok (.count 1) ∧ after.2.routes.get? ⟨"plant", "a"⟩ = some ⟨"u", flow, 5⟩ ∧
      (after.2.turn ⟨.empty, .at ⟨5, 0⟩, .restore⟩).1 = .ok (.count 1) ∧
      ((clean.restart clean.notifyChannel).turn ⟨.empty, .at ⟨3, 0⟩, .restore⟩).2.routes.get? ⟨"plant", "b"⟩ =
        some ⟨"v", heat, 1⟩ := by
  intro flow spare heat twin start turns dirty after changes clean
  obtain ⟨greedy, maintained⟩ := restore_greedy
  obtain ⟨count, -, again⟩ := greedy dirty .empty (.at ⟨4, 0⟩) (by decide +kernel) rfl
  obtain ⟨same, -⟩ := again .empty (.at ⟨5, 0⟩) rfl
  have keys : after.2.routes.keys = [⟨"plant", "a"⟩] := by decide +kernel
  have one : after.1 = .ok (.count 1) := by
    rw [count, keys]
    rfl
  obtain ⟨-, restarted⟩ := maintained ⟨[("token", "ann")]⟩ ⟨fun _ => "v", 0⟩ none changes (by decide) .empty
    (.at ⟨3, 0⟩) ⟨"plant", "b"⟩
  refine ⟨by decide +kernel, one, by decide +kernel, same.trans one, (restarted rfl).trans ?_⟩
  decide +kernel

end Hub
end DigitalTwin
