import DigitalTwin.Proofs.FaultFree
import DigitalTwin.Proofs.History
import DigitalTwin.Proofs.Indexed
import DigitalTwin.Proofs.Ledger

/-! A hub answers as a ledger does. As long as nothing fails, the routes and the active subscriptions of a
    hub are what is found by looking through the live twins, so each request finds both in agreement and
    leaves them so. -/

namespace DigitalTwin

variable {identities : IdentityTable} {notifyChannel : Option String} {hub : Hub} {l l' : Ledger}

/-! ### What is wrong with a definition -/

/-- The attributes that are left are gone through as if all of them were, with the keys of those before them seen. --/
theorem Definition.firstReuse?_eq_find? (before rest : List Attribute) (seen : List RouteKey)
    (hseen : ∀ key, key ∈ seen ↔ ∃ b ∈ before, b.key = key) :
    firstReuse? seen rest = ((rest.zipIdx before.length).find? fun (a, place) =>
      ((before ++ rest).take place).any (·.key = a.key)).map (·.1) := by
  induction rest generalizing before seen with
  | nil => rfl
  | cons a rest ih =>
    have earlier : ((before ++ a :: rest).take before.length).any (·.key = a.key) = seen.contains a.key := by
      rw [Bool.eq_iff_iff, List.take_left, List.any_eq_true, List.contains_iff_mem, hseen]
      simp only [decide_eq_true_eq]
    have later := ih (before ++ [a]) (a.key :: seen) fun key => by
      simp [hseen, or_and_right, exists_or, or_comm, eq_comm]
    rw [List.length_append, List.length_singleton, List.append_assoc, List.singleton_append] at later
    rw [firstReuse?, List.zipIdx_cons, List.find?_cons]
    dsimp only
    rw [earlier]
    split
    · rename_i h
      rw [h]
      rfl
    · rename_i h
      rw [Bool.eq_false_iff.mpr h]
      exact later

theorem Ledger.reserved?_none (d : Definition) : reserved? none d = none := by
  simp [reserved?]

theorem Ledger.reserved?_some (channel : String) (d : Definition) :
    reserved? (some channel) d = d.persisted.find? (·.channel == channel) := by
  unfold reserved? Definition.persisted
  rw [List.find?_filter]
  congr 1
  funext a
  by_cases hc : a.channel = channel
  · simp [hc]
  · simp [hc, Ne.symm hc]

/-- A definition may be routed unless something is wrong with it, and that is why it may not. --/
theorem Definition.requireRoutable_eq (notifyChannel : Option String) (d : Definition) :
    d.requireRoutable notifyChannel =
      match Ledger.objection? notifyChannel d with
      | some what => .error (.malformed what)
      | none => .ok () := by
  have reuse : firstReuse? [] d.attributes = Ledger.reuse? d := firstReuse?_eq_find? [] d.attributes [] (by simp)
  unfold requireRoutable requireDistinctKeys Ledger.objection?
  rw [reuse]
  cases Ledger.reuse? d with
  | some a => rfl
  | none =>
    dsimp only
    unfold requireUnreserved
    cases notifyChannel with
    | none =>
      rw [Ledger.reserved?_none]
      rfl
    | some channel =>
      dsimp only
      rw [Ledger.reserved?_some]
      cases hf : d.persisted.find? (·.channel == channel) with
      | none => rfl
      | some a =>
        have hc : a.channel = channel := by simpa using List.find?_some hf
        rw [← hc]
        rfl

/-! ### Looking through the live twins -/

theorem Ledger.shareKey_eq_true {twin u : Twin} :
    shareKey twin u = true ↔ ∃ key ∈ twin.persistedKeys, key ∈ u.persistedKeys := by
  simp only [shareKey, List.any_eq_true, decide_eq_true_eq, Twin.mem_persistedKeys]
  constructor
  · rintro ⟨a, ha, b, hb, hk⟩
    exact ⟨a.key, ⟨a, ha, rfl⟩, b, hb, hk⟩
  · rintro ⟨key, ⟨a, ha, rfl⟩, b, hb, hk⟩
    exact ⟨a, ha, b, hb, hk⟩

namespace Hub.Indexed

variable (h : Indexed hub) (twins : hub.twins.toList = l.twins)
include h twins

theorem get?_twins (id : String) : hub.twins.get? id = l.find? id := by
  rw [h.store.get?_eq_find?, twins]
  rfl

/-- The table routes a key where the scan finds it. --/
theorem get?_eq_route? (key : RouteKey) : hub.routes.get? key = l.route? key := by
  have found : ∀ route, l.route? key = some route → hub.routes.get? key = some route := by
    intro route hr
    obtain ⟨twin, ht, hr⟩ := List.exists_of_findSome?_eq_some hr
    obtain ⟨a, ha, rfl⟩ := Option.map_eq_some_iff.mp hr
    have ht : twin ∈ hub.twins.toList := twins ▸ ht
    have hk : a.key = key := by simpa using List.find?_some ha
    exact (h.exact key _).mpr ⟨twin, ht,
      (h.routable twin ht).routeOn?_eq_some.mpr ⟨a, List.mem_of_find?_eq_some ha, hk, rfl⟩⟩
  cases hl : l.route? key with
  | some route => exact found route hl
  | none =>
    cases hr : hub.routes.get? key with
    | none => rfl
    | some route =>
      obtain ⟨twin, ht, hon⟩ := (h.exact key route).mp hr
      obtain ⟨a, ha, hk, -⟩ := Twin.exists_of_routeOn? hon
      have missed := List.findSome?_eq_none_iff.mp hl twin (twins ▸ ht)
      rw [Option.map_eq_none_iff, List.find?_eq_none] at missed
      exact absurd (decide_eq_true hk) (missed a ha)

/-- The table has a key of a twin for another twin exactly if another live twin persists it. --/
theorem requireFree_eq (twin : Twin) :
    hub.routes.requireFree twin = if l.conflicts twin then .error .conflict else .ok () := by
  have conflicts : l.conflicts twin = true ↔
      ∃ u ∈ hub.twins.toList, u.id ≠ twin.id ∧ ∃ key ∈ twin.persistedKeys, key ∈ u.persistedKeys := by
    unfold Ledger.conflicts
    rw [List.any_eq_true, twins]
    simp only [Bool.and_eq_true, decide_eq_true_eq, Ledger.shareKey_eq_true]
  split
  · rename_i hc
    obtain ⟨u, hu, hne, key, hk, hku⟩ := conflicts.mp hc
    cases hf : hub.routes.requireFree twin with
    | error e => rw [RouteTable.requireFree_error hf]
    | ok x =>
      obtain ⟨route, hr⟩ := Twin.routeOn?_isSome.mpr hku
      have hid := RouteTable.requireFree_eq_ok.mp hf key hk route ((h.exact key route).mpr ⟨u, hu, hr⟩)
      rw [Twin.routeOn?_twinId hr] at hid
      exact absurd hid hne
  · rename_i hc
    refine RouteTable.requireFree_eq_ok.mpr fun key hk route hr => ?_
    obtain ⟨u, hu, hon⟩ := (h.exact key route).mp hr
    rw [Twin.routeOn?_twinId hon]
    by_contra hne
    exact hc (conflicts.mpr ⟨u, hu, hne, key, hk, Twin.routeOn?_isSome.mp ⟨route, hon⟩⟩)

theorem mem_keys_routes (key : RouteKey) :
    key ∈ hub.routes.keys ↔ key ∈ RouteKey.setOf (l.twins.flatMap fun twin => twin.persisted.map (·.key)) := by
  rw [RouteTable.mem_keys, RouteKey.mem_setOf, List.mem_flatMap, ← twins]
  constructor
  · rintro ⟨route, hr⟩
    obtain ⟨twin, ht, hon⟩ := (h.exact key route).mp hr
    obtain ⟨a, ha, hk, -⟩ := Twin.exists_of_routeOn? hon
    exact ⟨twin, ht, List.mem_map.mpr ⟨a, ha, hk⟩⟩
  · rintro ⟨twin, ht, hk⟩
    obtain ⟨a, ha, hk⟩ := List.mem_map.mp hk
    obtain ⟨route, hon⟩ := Twin.routeOn?_isSome.mpr (Twin.mem_persistedKeys.mpr ⟨a, ha, hk⟩)
    exact ⟨route, (h.exact key route).mpr ⟨twin, ht, hon⟩⟩

theorem insert_eq (twin : Twin) :
    (l.find? twin.id).isSome = true ∧ hub.twins.insert twin = .error .conflict ∨
      (l.find? twin.id).isSome = false ∧ ∃ stored, hub.twins.insert twin = .ok stored ∧
        stored.toList = l.twins ++ [twin] := by
  rw [← h.get?_twins twins]
  cases hi : hub.twins.insert twin with
  | error e =>
    obtain ⟨rfl, u, hu, hid⟩ := TwinStore.insert_error h.store hi
    exact Or.inl ⟨by rw [h.store.get?_eq_some.mpr ⟨hu, hid⟩, Option.isSome_some], rfl⟩
  | ok stored =>
    obtain ⟨-, hl, fresh⟩ := TwinStore.insert_ok h.store hi
    exact Or.inr ⟨by rw [h.store.get?_eq_none.mpr fresh, Option.isSome_none], stored, rfl, twins ▸ hl⟩

end Hub.Indexed

/-! ### Agreement -/

/-- What the requests of a run keep of a hub. -/
structure Hub.Sound (hub : Hub) : Prop where
  quiet : Quiet hub
  indexed : Indexed hub
  chain : ∀ id, Chain id (fun _ _ _ => True) (hub.states.history id)

theorem Hub.Sound.perform (h : Sound hub) (clock : Clock) {op : Operation} (hop : op.isCall = true) :
    Sound (perform clock op hub).2 := by
  have row := Effects.perform h.quiet clock op
  refine ⟨h.quiet.perform clock op, row.keeps h.indexed fun _ _ he hi => hi.effect hop he, ?_⟩
  refine perform_calls (P := fun _ hub => ∀ id, Chain id (fun _ _ _ => True) (hub.states.history id)) ?_ ?_ [] h.quiet
    clock ?_ h.chain
  · exact fun _ _ clock m hq hc id => (hc id).saveStates hq clock m fun _ _ _ _ _ => trivial
  · exact fun _ _ _ hs hc id => hs ▸ hc id
  · rintro state rfl
    cases hop

/-- A hub and a ledger hold the same twins, states and ids, no failure is due at the hub, and it has
    subscribed to what it routes. -/
structure Agrees (identities : IdentityTable) (notifyChannel : Option String) (hub : Hub) (l : Ledger) : Prop where
  faults : hub.faults = .empty
  identities : hub.identities = identities
  notifyChannel : hub.notifyChannel = notifyChannel
  twins : hub.twins.toList = l.twins
  histories : ∀ id, hub.states.history id = l.histories id
  ids : ∀ n, hub.ids.issue (hub.ids.issued + n) = l.ids n
  nodup : hub.active.Nodup
  active : ∀ key, key ∈ hub.active ↔ key ∈ hub.routes.keys

namespace Agrees

theorem announce (h : Agrees identities notifyChannel hub l) (operation : String) (now : Instant)
    (outcome : Except ServiceError Json) :
    Agrees identities notifyChannel (Hub.announce operation now outcome hub) l := by
  obtain ⟨calls, ha⟩ := Hub.announce_of_empty h.faults operation now outcome
  rw [ha]
  exact ⟨h.faults, h.identities, h.notifyChannel, h.twins, h.histories, h.ids, h.nodup, h.active⟩

theorem next (h : Agrees identities notifyChannel hub l) : hub.ids.next = l.ids 0 := h.ids 0

theorem rest (h : Agrees identities notifyChannel hub l) (n : Nat) :
    hub.ids.rest.issue (hub.ids.rest.issued + n) = l.ids (n + 1) := by
  rw [← h.ids (n + 1), ← Nat.add_assoc, Nat.add_right_comm]
  rfl

/-- With an id used up on both sides, the rest is as it was. --/
theorem issue (h : Agrees identities notifyChannel hub l) :
    Agrees identities notifyChannel { hub with ids := hub.ids.rest } { l with ids := fun n => l.ids (n + 1) } :=
  ⟨h.faults, h.identities, h.notifyChannel, h.twins, h.histories, h.rest, h.nodup, h.active⟩

theorem identify (h : Agrees identities notifyChannel hub l) (token : String) :
    hub.identities.identify token = identities.identify token := by
  rw [h.identities]

theorem requireRoutable (h : Agrees identities notifyChannel hub l) (d : Definition) :
    d.requireRoutable hub.notifyChannel =
      match Ledger.objection? notifyChannel d with
      | some what => .error (.malformed what)
      | none => .ok () := by
  rw [h.notifyChannel, Definition.requireRoutable_eq]

/-- Other twins on both sides, and what is routed then is subscribed. --/
theorem align (h : Agrees identities notifyChannel hub l) {twins : TwinStore} {listed : List Twin}
    (ht : twins.toList = listed) (routes : RouteTable) :
    Agrees identities notifyChannel (Hub.alignSubscriptions { hub with twins, routes }) { l with twins := listed } := by
  obtain ⟨active, broker, calls, ha, hn, hm⟩ :=
    Hub.alignSubscriptions_of_empty (show ({ hub with twins, routes } : Hub).faults = .empty from h.faults) h.nodup
  rw [ha]
  exact ⟨h.faults, h.identities, h.notifyChannel, ht, h.histories, h.ids, hn, hm⟩

/-! ### Changes of twins -/

theorem register (h : Agrees identities notifyChannel hub l) (hi : Hub.Indexed hub) (token : String) (given : Twin)
    (d : Definition) (now : Instant) :
    (Hub.outcome (Hub.register token given d now) hub).1 = (l.add identities notifyChannel token given d now).1 ∧
      Agrees identities notifyChannel (Hub.outcome (Hub.register token given d now) hub).2
        (l.add identities notifyChannel token given d now).2 := by
  unfold Hub.outcome Ledger.add
  rw [Hub.register_of_empty h.faults, h.identify, h.requireRoutable, h.next]
  cases identities.identify token with
  | error e => exact ⟨rfl, h⟩
  | ok owner =>
    dsimp only
    cases Ledger.objection? notifyChannel d with
    | some what => exact ⟨rfl, h⟩
    | none =>
      dsimp only
      generalize given.enrolled d (l.ids 0) owner now = twin
      rw [Hub.storeAndRoute_of_empty h.issue.faults]
      dsimp only
      rw [hi.requireFree_eq h.twins]
      cases hc : l.conflicts twin with
      | true => exact ⟨rfl, h.issue⟩
      | false =>
        rcases hi.insert_eq h.twins twin with ⟨taken, hs⟩ | ⟨free, stored, hs, hl⟩
        · rw [hs, taken]
          exact ⟨rfl, h.issue⟩
        · rw [hs, free]
          exact ⟨rfl, h.issue.align hl _⟩

theorem revise (h : Agrees identities notifyChannel hub l) (hi : Hub.Indexed hub) (token : String) (given : Twin)
    (d : Definition) (now : Instant) :
    (Hub.outcome (Hub.revise token given d now) hub).1 = (l.update identities notifyChannel token given d now).1 ∧
      Agrees identities notifyChannel (Hub.outcome (Hub.revise token given d now) hub).2
        (l.update identities notifyChannel token given d now).2 := by
  unfold Hub.outcome Ledger.update
  rw [Hub.revise_of_empty h.faults, h.identify, h.requireRoutable]
  cases identities.identify token with
  | error e => exact ⟨rfl, h⟩
  | ok owner =>
    dsimp only
    rw [hi.get?_twins h.twins]
    cases hg : l.find? given.id with
    | none => exact ⟨rfl, h⟩
    | some current =>
      dsimp only
      by_cases ho : current.owner ≠ owner
      · rw [if_pos ho, if_pos ho]
        exact ⟨rfl, h⟩
      rw [if_neg ho, if_neg ho]
      cases Ledger.objection? notifyChannel d with
      | some what => exact ⟨rfl, h⟩
      | none =>
        dsimp only
        rw [Hub.storeAndRoute_of_empty h.faults, hi.requireFree_eq h.twins]
        cases hc : l.conflicts (current.revised given d now) with
        | true => exact ⟨rfl, h⟩
        | false =>
          have stored : ∃ u ∈ hub.twins.toList, u.id = (current.revised given d now).id := by
            rw [← hi.get?_twins h.twins] at hg
            exact ⟨current, (hi.store.get?_eq_some.mp hg).1, rfl⟩
          cases hs : hub.twins.replace (current.revised given d now) with
          | error e =>
            obtain ⟨u, hu, hid⟩ := stored
            exact absurd hid ((TwinStore.replace_error hi.store hs).2 u hu)
          | ok twins =>
            obtain ⟨-, hl, -⟩ := TwinStore.replace_ok hi.store hs
            rw [h.twins] at hl
            exact ⟨rfl, h.align hl _⟩

theorem unregister (h : Agrees identities notifyChannel hub l) (hi : Hub.Indexed hub) (token id : String) :
    (Hub.outcome (Hub.unregister token id) hub).1 = (l.remove identities token id).1 ∧
      Agrees identities notifyChannel (Hub.outcome (Hub.unregister token id) hub).2
        (l.remove identities token id).2 := by
  unfold Hub.outcome Ledger.remove
  rw [Hub.unregister_of_empty h.faults, h.identify]
  cases identities.identify token with
  | error e => exact ⟨rfl, h⟩
  | ok owner =>
    dsimp only
    rw [hi.get?_twins h.twins]
    cases l.find? id with
    | none => exact ⟨rfl, h⟩
    | some twin =>
      dsimp only
      by_cases ho : twin.owner ≠ owner
      · rw [if_pos ho, if_pos ho]
        exact ⟨rfl, h⟩
      · rw [if_neg ho, if_neg ho]
        obtain ⟨-, hl⟩ := TwinStore.erase_toList hi.store id
        rw [h.twins] at hl
        exact ⟨rfl, h.align hl _⟩

/-! ### Views -/

theorem viewTwin (h : Agrees identities notifyChannel hub l) (hi : Hub.Indexed hub) (token id : String) :
    Hub.outcome (Hub.viewTwin token id) hub = (l.view identities token id, hub) := by
  unfold Hub.outcome Ledger.view
  rw [Hub.viewTwin_of_empty h.faults, h.identify]
  cases identities.identify token with
  | error e => rfl
  | ok owner =>
    dsimp only
    rw [hi.get?_twins h.twins]
    cases l.find? id with
    | none => rfl
    | some twin =>
      dsimp only
      by_cases ho : twin.owner ≠ owner
      · rw [if_pos ho, if_pos ho]
      · rw [if_neg ho, if_neg ho]

theorem listTwins (h : Agrees identities notifyChannel hub l) (token : String) (offset limit : Nat)
    (name : Option String) (metadata : Option JsonFields) :
    Hub.outcome (Hub.listTwins token offset limit name metadata) hub =
      (l.list identities token offset limit name metadata, hub) := by
  unfold Hub.outcome Ledger.list
  rw [Hub.listTwins_of_empty h.faults, h.identify]
  unfold TwinStore.page
  rw [h.twins]
  cases identities.identify token with
  | error e => rfl
  | ok owner =>
    dsimp only
    rw [Page.slice_eq_cutWords, TwinStore.filter_accepts_eq]

theorem listStates (h : Agrees identities notifyChannel hub l) (hi : Hub.Indexed hub) (token id : String)
    (offset limit : Nat) :
    Hub.outcome (Hub.listStates token id offset limit) hub = (l.states identities token id offset limit, hub) := by
  unfold Hub.outcome Ledger.states
  rw [Hub.listStates_of_empty h.faults, h.identify]
  unfold StateStore.page
  rw [h.histories]
  cases identities.identify token with
  | error e => rfl
  | ok owner =>
    dsimp only
    rw [hi.get?_twins h.twins]
    cases l.find? id with
    | none =>
      dsimp only
      rw [Page.cutWords_nil]
    | some twin =>
      dsimp only
      by_cases ho : twin.owner = owner
      · rw [if_pos ho, if_pos ho, Page.slice_eq_cutWords]
      · rw [if_neg ho, if_neg ho, Page.cutWords_nil]

/-! ### Saving states -/

/-- The entries of a ledger are the snapshots of a hub, as long as the history is a chain. --/
theorem extend_eq (route : Route) (clock : Clock) (ms : List Senml.Measurement) (n : Nat) {history : List State}
    (h : Hub.Chain route.twinId (fun _ _ _ => True) history) :
    Ledger.extend route clock n history ms = history ++ Hub.snapshots route clock n history.getLast? ms := by
  induction ms generalizing n history with
  | nil => rw [Ledger.extend, Hub.snapshots, List.append_nil]
  | cons m rest ih =>
    have entry : Ledger.entry route (clock.record n) history m =
        Hub.snapshot route (clock.record n) history.getLast? m := by
      rw [Ledger.entry, ← h.snapshot_id route (clock.record n) m]
      rfl
    rw [Ledger.extend, entry, ih (n + 1) (h.snapshot (clock.record n) rfl trivial), List.getLast?_concat,
      List.append_assoc]
    rfl

theorem recordStates (h : Agrees identities notifyChannel hub l) (hs : Hub.Sound hub) (clock : Clock) (m : Message) :
    (Hub.outcome (Hub.recordStates clock m) hub).1 = (l.save clock m).1 ∧
      Agrees identities notifyChannel (Hub.outcome (Hub.recordStates clock m) hub).2 (l.save clock m).2 := by
  unfold Hub.outcome Ledger.save
  rw [Hub.recordStates_of_empty h.faults, hs.indexed.get?_eq_route? h.twins]
  cases l.route? m.key with
  | none => exact ⟨rfl, h⟩
  | some route =>
    dsimp only
    cases Senml.decode m.payload clock.start with
    | error e => exact ⟨rfl, h⟩
    | ok ms =>
      refine ⟨rfl, h.faults, h.identities, h.notifyChannel, h.twins, fun id => ?_, h.ids, h.nodup, h.active⟩
      dsimp only
      rw [Hub.history_snapshots, ← h.histories]
      split
      · rename_i hid
        subst hid
        rw [extend_eq route clock ms 0 (hs.chain route.twinId)]
        rfl
      · rfl

/-! ### Requests -/

/-- What an operation replies is answered, and the sound hub that it leaves agrees with the ledger that the
    hub agrees with which its action left. --/
theorem answer {α : Type} (hs : Hub.Sound hub) (clock : Clock) (op : Operation) (hop : op.isCall = true)
    {make : α → Reply} {r : Except ServiceError α} {after : Hub} (hp : Hub.perform clock op hub = (r.map make, after))
    (h : Agrees identities notifyChannel after l) :
    (Hub.perform clock op hub).1.map Answer.reply = (r.map fun a => Answer.reply (make a)) ∧
      Agrees identities notifyChannel (Hub.perform clock op hub).2 l ∧ Hub.Sound (Hub.perform clock op hub).2 := by
  have sound := hs.perform clock hop
  rw [hp] at sound ⊢
  refine ⟨?_, h, sound⟩
  cases r <;> rfl

/-- Hub and ledger give one answer to a request, and agree behind it. --/
theorem serve (h : Agrees identities notifyChannel hub l) (hs : Hub.Sound hub) (clock : Clock) (request : Request) :
    (hub.serve clock request).1 = (l.serve identities notifyChannel clock request).1 ∧
      Agrees identities notifyChannel (hub.serve clock request).2
        (l.serve identities notifyChannel clock request).2 ∧
      Hub.Sound (hub.serve clock request).2 := by
  cases request with
  | add token given d =>
    obtain ⟨same, agrees⟩ := h.register hs.indexed token given d clock.start
    have performed := Hub.perform_add hs.quiet clock token given d
    rw [same] at performed
    exact answer hs clock _ rfl performed (agrees.announce _ _ _)
  | update token given d =>
    obtain ⟨same, agrees⟩ := h.revise hs.indexed token given d clock.start
    have performed := Hub.perform_update hs.quiet clock token given d
    rw [same] at performed
    exact answer hs clock _ rfl performed (agrees.announce _ _ _)
  | remove token id =>
    obtain ⟨same, agrees⟩ := h.unregister hs.indexed token id
    have performed := Hub.perform_remove hs.quiet clock token id
    rw [same] at performed
    exact answer hs clock _ rfl performed (agrees.announce _ _ _)
  | save m =>
    obtain ⟨same, agrees⟩ := h.recordStates hs clock m
    have performed := Hub.perform_save hs.quiet clock m
    rw [same] at performed
    exact answer hs clock _ rfl performed (agrees.announce _ _ _)
  | view token id =>
    have performed : Hub.perform clock (.view token id) hub = ((l.view identities token id).map .twin, hub) := by
      show ((Hub.outcome _ hub).1.map _, (Hub.outcome _ hub).2) = _
      rw [h.viewTwin hs.indexed token id]
    exact answer hs clock _ rfl performed h
  | list token offset limit name metadata =>
    have performed : Hub.perform clock (.list token offset limit name metadata) hub =
        ((l.list identities token offset limit name metadata).map .twins, hub) := by
      show ((Hub.outcome _ hub).1.map _, (Hub.outcome _ hub).2) = _
      rw [h.listTwins token offset limit name metadata]
    exact answer hs clock _ rfl performed h
  | states token id offset limit =>
    have performed : Hub.perform clock (.states token id offset limit) hub =
        ((l.states identities token id offset limit).map .states, hub) := by
      show ((Hub.outcome _ hub).1.map _, (Hub.outcome _ hub).2) = _
      rw [h.listStates hs.indexed token id offset limit]
    exact answer hs clock _ rfl performed h
  | resolve channel subtopic =>
    refine ⟨?_, h, hs⟩
    show Except.ok (Answer.route (hub.routes.get? ⟨channel, subtopic⟩)) = _
    rw [hs.indexed.get?_eq_route? h.twins]
    rfl
  | subscriptions =>
    refine ⟨?_, h, hs⟩
    have same : RouteKey.sorted hub.active = l.subscriptions :=
      RouteKey.sorted_congr h.nodup (RouteKey.nodup_setOf _) fun key =>
        (h.active key).trans (hs.indexed.mem_keys_routes h.twins key)
    exact congrArg (fun keys => Except.ok (Answer.keys keys)) same

theorem answers (h : Agrees identities notifyChannel hub l) (hs : Hub.Sound hub) (requests : List (Clock × Request)) :
    hub.answers requests = l.answers identities notifyChannel requests := by
  induction requests generalizing hub l with
  | nil => rfl
  | cons request rest ih =>
    obtain ⟨same, agrees, sound⟩ := h.serve hs request.1 request.2
    exact congrArg₂ List.cons same (ih agrees sound)

end Agrees

/-- Whatever a new hub is asked while nothing fails, it answers as the ledger without an index does. --/
theorem Hub.answers_eq_ledger (identities : IdentityTable) (ids : IdSource) (notifyChannel : Option String)
    (requests : List (Clock × Request)) :
    (Hub.new identities ids notifyChannel).answers requests =
      (Ledger.new ids).answers identities notifyChannel requests := by
  refine Agrees.answers ⟨rfl, rfl, rfl, rfl, fun _ => rfl, fun _ => rfl, List.nodup_nil, fun key => ?_⟩
    ⟨Quiet.new .., Indexed.new .., fun _ => Chain.nil⟩ requests
  exact ⟨fun h => (nomatch h), fun h => (nomatch h)⟩

end DigitalTwin
