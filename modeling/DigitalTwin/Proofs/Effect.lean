import DigitalTwin.Proofs.Run
import Mathlib.Logic.Relation

/-! What happens to the records of a hub, one change at a time. Every operation is a row of these changes,
    whatever fails meanwhile, so what each of them keeps is kept by every run. -/

namespace DigitalTwin

/-- The messages that an operation hands to the service. -/
def Operation.messages : Operation → List Message
  | .save m => [m]
  | .saveAll ms => ms
  | .receive m => [m]
  | _ => []

/-- The calls of the service, which reach the stores through the hub only. -/
def Operation.isCall : Operation → Bool
  | .restart _ => false
  | .seedTwin _ => false
  | .seedState _ => false
  | _ => true

namespace Hub

/-- A single change that an operation makes of what a hub keeps. -/
inductive Effect (clock : Clock) (op : Operation) : Hub → Hub → Prop
  /-- Nothing but the transport changes, and the failures that are due. -/
  | transport {hub hub' : Hub} (same : SameRecords hub hub') : Effect clock op hub hub'
  /-- An id is used up. -/
  | issue {hub : Hub} : Effect clock op hub { hub with ids := hub.ids.rest }
  | add {hub : Hub} {token owner : String} {given : Twin} {d : Definition} {twins : TwinStore}
      (hop : op = .add token given d) (hi : hub.identities.identify token = .ok owner)
      (hd : d.requireRoutable hub.notifyChannel = .ok ())
      (hf : hub.routes.requireFree (given.enrolled d hub.ids.next owner clock.start) = .ok ())
      (hs : hub.twins.insert (given.enrolled d hub.ids.next owner clock.start) = .ok twins) :
      Effect clock op hub
        { hub with
          twins, ids := hub.ids.rest
          routes := (hub.routes.insert (given.enrolled d hub.ids.next owner clock.start)).2 }
  | update {hub : Hub} {token owner : String} {given current : Twin} {d : Definition} {twins : TwinStore}
      (hop : op = .update token given d) (hi : hub.identities.identify token = .ok owner)
      (hg : hub.twins.get? given.id = some current) (ho : current.owner = owner)
      (hd : d.requireRoutable hub.notifyChannel = .ok ())
      (hf : hub.routes.requireFree (current.revised given d clock.start) = .ok ())
      (hs : hub.twins.replace (current.revised given d clock.start) = .ok twins) :
      Effect clock op hub
        { hub with twins, routes := (hub.routes.insert (current.revised given d clock.start)).2 }
  | remove {hub : Hub} {token id owner : String} {twin : Twin} (hop : op = .remove token id)
      (hi : hub.identities.identify token = .ok owner) (hg : hub.twins.get? id = some twin)
      (ho : twin.owner = owner) :
      Effect clock op hub { hub with twins := hub.twins.erase id, routes := (hub.routes.erase id).2 }
  | restore {hub : Hub} (hop : op = .restore) :
      Effect clock op hub { hub with routes := .ofTwins hub.notifyChannel hub.twins.toList }
  /-- A measurement of a message becomes a state behind the last one of the twin. -/
  | record {hub : Hub} {m : Message} {route : Route} {ms : List Senml.Measurement} {k : Nat}
      {measurement : Senml.Measurement} (hm : m ∈ op.messages) (hr : hub.routes.get? m.key = some route)
      (hd : Senml.decode m.payload clock.start = .ok ms) (hk : ms[k]? = some measurement) :
      Effect clock op hub
        { hub with
          states := hub.states.append
            (snapshot route (clock.record k) (hub.states.last? route.twinId) measurement) }
  | restart {hub : Hub} {notifyChannel : Option String} (hop : op = .restart notifyChannel) :
      Effect clock op hub (hub.restart notifyChannel)
  | seedTwin {hub : Hub} {twin : Twin} {twins : TwinStore} (hop : op = .seedTwin twin)
      (hs : hub.twins.insert twin = .ok twins) : Effect clock op hub { hub with twins }
  | seedState {hub : Hub} {state : State} (hop : op = .seedState state) :
      Effect clock op hub { hub with states := hub.states.append state }

/-- A row of changes. -/
abbrev Effects (clock : Clock) (op : Operation) : Hub → Hub → Prop := Relation.ReflTransGen (Effect clock op)

namespace Effects

variable {clock : Clock} {op : Operation} {hub hub' hub'' : Hub}

/-- What every change of a row keeps, the row keeps. --/
theorem keeps {P : Hub → Prop} (row : Effects clock op hub hub') (h : P hub)
    (heffect : ∀ hub hub', Effect clock op hub hub' → P hub → P hub') : P hub' := by
  induction row with
  | refl => exact h
  | tail _ he ih => exact heffect _ _ he ih

theorem of_same (same : SameRecords hub hub') : Effects clock op hub hub' := .single (.transport same)

theorem due (faults : FaultPlan) : Effects clock op hub { hub with faults } :=
  of_same ⟨rfl, rfl, rfl, rfl, rfl, rfl⟩

theorem announce (h : Effects clock op hub hub') (operation : String) (now : Instant)
    (outcome : Except ServiceError Json) : Effects clock op hub (Hub.announce operation now outcome hub') := by
  obtain ⟨faults, calls, ha, -⟩ := announce_frame operation now outcome hub'
  rw [ha]
  exact h.tail (.transport ⟨rfl, rfl, rfl, rfl, rfl, rfl⟩)

theorem align (h : Effects clock op hub hub') : Effects clock op hub (alignSubscriptions hub') :=
  h.tail (.transport (alignSubscriptions_aligned hub').same)

theorem register {token : String} {given : Twin} {d : Definition} (hop : op = .add token given d) :
    Effects clock op hub (outcome (Hub.register token given d clock.start) hub).2 := by
  unfold outcome
  rcases register_cases token given d clock.start hub with
    ⟨e, faults, ids, hids, hr⟩ | ⟨owner, faults, twins, hi, hd, hf, hs, hr⟩ <;> rw [hr]
  · rcases hids with rfl | rfl
    · exact due faults
    · exact (due faults).tail .issue
  · exact align ((due faults).tail (.add hop hi hd hf hs))

theorem revise {token : String} {given : Twin} {d : Definition} (hop : op = .update token given d) :
    Effects clock op hub (outcome (Hub.revise token given d clock.start) hub).2 := by
  unfold outcome
  rcases revise_cases token given d clock.start hub with
    ⟨e, faults, hr⟩ | ⟨owner, current, faults, twins, hi, hg, ho, hd, hf, hs, hr⟩ <;> rw [hr]
  · exact due faults
  · exact align ((due faults).tail (.update hop hi hg ho hd hf hs))

theorem unregister {token id : String} (hop : op = .remove token id) :
    Effects clock op hub (outcome (Hub.unregister token id) hub).2 := by
  unfold outcome
  rcases unregister_cases token id hub with
    ⟨e, faults, hr⟩ | ⟨faults, hr⟩ | ⟨owner, twin, faults, hi, hg, ho, hr⟩ <;> rw [hr]
  · exact due faults
  · exact due faults
  · exact align ((due faults).tail (.remove hop hi hg ho))

theorem restoring (hop : op = .restore) : Effects clock op hub (outcome Hub.restore hub).2 := by
  unfold outcome
  rcases restore_cases hub with ⟨e, -, hr⟩ | ⟨-, hr⟩ <;> rw [hr]
  · exact due _
  · exact align ((due (hub.faults.next .everyTwin).2).tail (.restore hop))

/-- The states of a message come one at a time, each made of the one that is stored last. --/
theorem snapshots {m : Message} {route : Route} {ms : List Senml.Measurement} (hm : m ∈ op.messages)
    (hd : Senml.decode m.payload clock.start = .ok ms) (rest : List Senml.Measurement) (n : Nat)
    (hn : ms.drop n = rest) {hub : Hub} (hr : hub.routes.get? m.key = some route) {states : List State}
    (hs : states <+: Hub.snapshots route clock n (hub.states.last? route.twinId) rest) :
    Effects clock op hub { hub with states := hub.states.appendAll states } := by
  induction rest generalizing n hub states with
  | nil =>
    cases List.prefix_nil.mp hs
    exact .refl
  | cons measurement rest ih =>
    cases states with
    | nil => exact .refl
    | cons state states =>
      obtain ⟨rfl, hrest⟩ := List.cons_prefix_cons.mp hs
      have hk : ms[n]? = some measurement := by
        rw [← List.head?_drop, hn]
        rfl
      let state := snapshot route (clock.record n) (hub.states.last? route.twinId) measurement
      have routed : ({ hub with states := hub.states.append state } : Hub).routes.get? m.key = some route := hr
      have last : (hub.states.append state).last? route.twinId = some state := StateStore.last?_append
      refine .head (.record hm hr hd hk) (ih (n + 1) ?_ routed ?_)
      · rw [← List.drop_drop, hn, List.drop_one, List.tail_cons]
      · exact last ▸ hrest

theorem saveStates (h : Quiet hub) {m : Message} (hm : m ∈ op.messages) :
    Effects clock op hub (outcome (Hub.saveStates clock m) hub).2 := by
  rw [outcome_saveStates h]
  refine announce ?_ _ _ _
  obtain ⟨faults, states, hf, hs⟩ := (recordStates_recording clock m hub).added
  rw [hf]
  rcases hs with rfl | ⟨route, ms, hr, hd, hs⟩
  · exact due faults
  · have routed : ({ hub with faults } : Hub).routes.get? m.key = some route := hr
    exact (due faults).trans (snapshots hm hd ms 0 rfl routed hs)

theorem saveAll (ms : List Message) (h : Quiet hub) (hm : ∀ m ∈ ms, m ∈ op.messages) :
    Effects clock op hub (Hub.saveAll clock ms hub).2 := by
  induction ms generalizing hub with
  | nil => exact .refl
  | cons m rest ih =>
    exact (saveStates h (hm m List.mem_cons_self)).trans
      (ih (h.saveStates clock m) fun m' h' => hm m' (List.mem_cons_of_mem _ h'))

/-- Every operation is a row of changes. --/
theorem perform (h : Quiet hub) (clock : Clock) (op : Operation) :
    Effects clock op hub (Hub.perform clock op hub).2 := by
  cases op with
  | add token given d =>
    rw [perform_add h clock]
    exact announce (register rfl) _ _ _
  | update token given d =>
    rw [perform_update h clock]
    exact announce (revise rfl) _ _ _
  | view token id =>
    obtain ⟨faults, hf⟩ := viewTwin_frame token id hub
    exact hf ▸ due faults
  | list token offset limit name metadata =>
    obtain ⟨faults, hf⟩ := listTwins_frame token offset limit name metadata hub
    exact hf ▸ due faults
  | remove token id =>
    rw [perform_remove h clock]
    exact announce (unregister rfl) _ _ _
  | save m => exact saveStates h (List.mem_singleton_self m)
  | saveAll ms => exact saveAll ms h fun _ hm => hm
  | receive m =>
    show Effects clock _ hub (Hub.receive clock m hub)
    rw [receive_eq h]
    split
    · exact saveStates h (List.mem_singleton_self m)
    · exact .refl
  | states token id offset limit =>
    obtain ⟨faults, hf⟩ := listStates_frame token id offset limit hub
    exact hf ▸ due faults
  | restore => exact restoring rfl
  | restart notifyChannel => exact .single (.restart rfl)
  | seedTwin twin =>
    unfold Hub.perform
    dsimp only
    split
    · rename_i twins hs
      exact .single (.seedTwin rfl hs)
    · exact .refl
  | seedState state => exact .single (.seedState rfl)
  | plan point failure skip times => exact due _

theorem turn (h : Quiet hub) (t : Turn) : Effects t.clock t.op hub (hub.turn t).2 :=
  (due t.faults).trans (perform (h.due t.faults) t.clock t.op)

end Effects

/-- What holds at the start of a run and is kept by every change that its operations make holds behind it. --/
theorem follow_induction {P : Hub → Prop} {hub : Hub} (hq : Quiet hub) (h : P hub) {turns : List Turn}
    (heffect : ∀ t ∈ turns, ∀ hub hub', Effect t.clock t.op hub hub' → P hub → P hub') : P (hub.follow turns) := by
  induction turns generalizing hub with
  | nil => exact h
  | cons t rest ih =>
    refine ih (hq.turn t) ?_ fun t' ht' => heffect t' (List.mem_cons_of_mem _ ht')
    exact (Effects.turn hq t).keeps h (heffect t List.mem_cons_self)

end Hub
end DigitalTwin
