import DigitalTwin.Proofs.TwinStore
import DigitalTwin.Proofs.TwoRuns

/-! What no answer shows. The numbers under which twins are stored, the calls that the transport has had, and the
    ids to come as long as none is issued are read by no operation. Two hubs that differ in these only give the
    same results, whatever they are asked and whatever fails, as long as it fails on both of them. -/

namespace DigitalTwin

/-- Two stores hold the same twins in one order, under numbers that may differ. -/
structure TwinStore.Renumbered (s t : TwinStore) : Prop where
  left : s.WellFormed
  right : t.WellFormed
  toList : s.toList = t.toList

/-- What a change of a store comes to on two of them: one error, or stores with the same twins. -/
def TwinStore.Parallel (r r' : Except ServiceError TwinStore) : Prop :=
  (∃ e, r = .error e ∧ r' = .error e) ∨ ∃ s t, r = .ok s ∧ r' = .ok t ∧ s.Renumbered t

namespace TwinStore.Renumbered

variable {s t : TwinStore}

theorem get? (h : s.Renumbered t) (id : String) : s.get? id = t.get? id := by
  rw [h.left.get?_eq_find?, h.right.get?_eq_find?, h.toList]

theorem get (h : s.Renumbered t) (id : String) : s.get id = t.get id := by
  unfold TwinStore.get
  rw [h.get?]

/-- A change that the listed twins alone allow or refuse comes to the same on both stores. --/
theorem parallel (h : s.Renumbered t) (store : TwinStore → Except ServiceError TwinStore)
    (change : List Twin → List Twin) (Allowed : List Twin → Prop) (refusal : ServiceError)
    (ok : ∀ {s t}, s.WellFormed → store s = .ok t → t.WellFormed ∧ t.toList = change s.toList ∧ Allowed s.toList)
    (error : ∀ {s e}, s.WellFormed → store s = .error e → e = refusal ∧ ¬ Allowed s.toList) :
    Parallel (store s) (store t) := by
  cases hs : store s with
  | error e =>
    obtain ⟨rfl, refused⟩ := error h.left hs
    cases ht : store t with
    | error e' =>
      obtain ⟨rfl, -⟩ := error h.right ht
      exact .inl ⟨_, rfl, rfl⟩
    | ok t' =>
      obtain ⟨-, -, allowed⟩ := ok h.right ht
      exact absurd (h.toList ▸ allowed) refused
  | ok s' =>
    obtain ⟨left, hl, allowed⟩ := ok h.left hs
    cases ht : store t with
    | error e' =>
      obtain ⟨-, refused⟩ := error h.right ht
      exact absurd (h.toList ▸ allowed) refused
    | ok t' =>
      obtain ⟨right, hl', -⟩ := ok h.right ht
      exact .inr ⟨s', t', rfl, rfl, left, right, by rw [hl, hl', h.toList]⟩

theorem insert (h : s.Renumbered t) (twin : Twin) : Parallel (s.insert twin) (t.insert twin) := by
  refine h.parallel (·.insert twin) (· ++ [twin]) (fun l => ∀ u ∈ l, u.id ≠ twin.id) .conflict insert_ok
    fun hw hs => ?_
  obtain ⟨rfl, u, hu, hid⟩ := insert_error hw hs
  exact ⟨rfl, fun fresh => fresh u hu hid⟩

theorem replace (h : s.Renumbered t) (twin : Twin) : Parallel (s.replace twin) (t.replace twin) := by
  refine h.parallel (·.replace twin) (List.map fun u => if u.id = twin.id then twin else u)
    (fun l => ∃ u ∈ l, u.id = twin.id) .notFound replace_ok fun hw hs => ?_
  obtain ⟨rfl, missing⟩ := replace_error hw hs
  exact ⟨rfl, fun ⟨u, hu, hid⟩ => missing u hu hid⟩

theorem erase (h : s.Renumbered t) (id : String) : (s.erase id).Renumbered (t.erase id) := by
  obtain ⟨left, hl⟩ := erase_toList h.left id
  obtain ⟨right, hl'⟩ := erase_toList h.right id
  exact ⟨left, right, by rw [hl, hl', h.toList]⟩

theorem page (h : s.Renumbered t) (f : Filter) (offset limit : Nat) :
    s.page f offset limit = t.page f offset limit := by
  unfold TwinStore.page
  rw [h.toList]

end TwinStore.Renumbered

namespace Hub

variable {hub hub' : Hub} {α β : Type} {issuing : Prop}

/-- Two hubs that differ in the numbers of their twins, in the calls that their transports have had, and, unless
    ids are issued, in the ids to come. -/
structure Indistinct (issuing : Prop) (hub hub' : Hub) : Prop where
  identities : hub.identities = hub'.identities
  ids : issuing → hub.ids = hub'.ids
  notifyChannel : hub.notifyChannel = hub'.notifyChannel
  twins : hub.twins.Renumbered hub'.twins
  states : hub.states = hub'.states
  routes : hub.routes = hub'.routes
  active : hub.active = hub'.active
  broker : hub.broker = hub'.broker
  faults : hub.faults = hub'.faults

/-! ### The transport -/

namespace Indistinct

theorem attempt (h : Indistinct issuing hub hub') (call : SubscriptionCall) :
    (Hub.attempt call hub).1 = (Hub.attempt call hub').1 ∧
      Indistinct issuing (Hub.attempt call hub).2 (Hub.attempt call hub').2 := by
  unfold Hub.attempt
  cases call <;> dsimp only <;> rw [h.faults] <;> split
  · exact ⟨rfl, { h with faults := rfl }⟩
  · exact ⟨rfl, { h with faults := rfl, broker := by dsimp only; rw [h.broker] }⟩
  · exact ⟨rfl, { h with faults := rfl }⟩
  · exact ⟨rfl, { h with faults := rfl, broker := by dsimp only; rw [h.broker] }⟩

theorem performAll (calls : List SubscriptionCall) (active : List RouteKey) {hub hub' : Hub}
    (h : Indistinct issuing hub hub') :
    (SubscriptionCall.perform Hub.attempt calls active hub).1 =
        (SubscriptionCall.perform Hub.attempt calls active hub').1 ∧
      Indistinct issuing (SubscriptionCall.perform Hub.attempt calls active hub).2
        (SubscriptionCall.perform Hub.attempt calls active hub').2 := by
  induction calls generalizing active hub hub' with
  | nil => exact ⟨rfl, h⟩
  | cons call rest ih =>
    obtain ⟨same, after⟩ := h.attempt call
    unfold SubscriptionCall.perform
    dsimp only
    rw [same]
    exact ih _ after

theorem align (h : Indistinct issuing hub hub') :
    Indistinct issuing (alignSubscriptions hub) (alignSubscriptions hub') := by
  obtain ⟨same, after⟩ := h.performAll (SubscriptionCall.pending hub.active hub.routes.keys) hub.active
  unfold alignSubscriptions
  rw [← h.active, ← h.routes]
  exact { after with active := same }

theorem announce (h : Indistinct issuing hub hub') (operation : String) (now : Instant) (r : Except ServiceError Json) :
    Indistinct issuing (Hub.announce operation now r hub) (Hub.announce operation now r hub') := by
  rcases announce_cases operation now r hub with ⟨hn, ha⟩ | ⟨channel, hc, ha⟩ <;>
    rcases announce_cases operation now r hub' with ⟨hn', ha'⟩ | ⟨channel', hc', ha'⟩ <;> rw [ha, ha']
  · exact h
  -- One hub has a channel only if the other has it.
  · rw [h.notifyChannel, hc'] at hn
    cases hn
  · rw [h.notifyChannel, hn'] at hc
    cases hc
  · exact { h with faults := by dsimp only; rw [h.faults] }

/-! ### What a call may look at -/

theorem pass_respects (point : CallPoint) : Respects (Indistinct issuing) (pass point) := by
  intro hub hub' h
  unfold outcome pass
  rw [h.faults]
  rcases hub'.faults.next point with ⟨failure, faults⟩
  cases failure with
  | none => exact ⟨rfl, { h with faults := rfl }⟩
  | some e => exact ⟨rfl, { h with faults := rfl }⟩

theorem issueId_respects (hi : issuing) : Respects (Indistinct issuing) issueId := by
  refine (pass_respects .issueId).bind fun _ hub hub' h => ⟨?_, ?_⟩
  · exact congrArg (fun ids => Except.ok (IdSource.next ids)) (h.ids hi)
  · exact { h with ids := fun _ => congrArg IdSource.rest (h.ids hi) }

theorem accord : Accord (Indistinct issuing) where
  identities h := h.identities
  get h := h.twins.get
  page h := h.twins.page
  states h := h.states
  routes h := h.routes
  pass point _ := pass_respects point
  append h state := { h with states := by dsimp only; rw [h.states] }
  erase h id := { h with twins := h.twins.erase id, routes := by dsimp only; rw [h.routes] }
  restored h := { h with routes := by dsimp only; rw [h.notifyChannel, h.twins.toList] }
  align h := h.align
  announce h := h.announce

/-- The stores that are read differ, so what is made of them is followed to the end. --/
theorem storing_respects {store : TwinStore → Twin → Except ServiceError TwinStore} {twin : Twin}
    (hstore : ∀ {s t}, TwinStore.Renumbered s t → TwinStore.Parallel (store s twin) (store t twin)) :
    Respects (Indistinct issuing) (storing store twin) := by
  intro hub hub' h
  unfold outcome storing
  rw [bind_get, bind_get, bind_apply, bind_apply]
  rcases hstore h.twins with ⟨e, hs, ht⟩ | ⟨s, t, hs, ht, same⟩ <;> rw [hs, ht]
  · exact ⟨rfl, h⟩
  · exact ⟨rfl, { h with
      twins := same
      routes := congrArg (fun routes => (RouteTable.insert routes twin).2) h.routes }⟩

theorem admits (d : Definition) : Admits (Indistinct issuing) d where
  check := .of_get (fun _ _ h => by rw [h.notifyChannel]) fun _ _ _ => .of_ofExcept _
  enrolled _ _ _ _ := storing_respects fun h => h.insert _
  revised _ _ _ := storing_respects fun h => h.replace _

end Indistinct
end Hub

/-! ### Operations -/

/-- Whether an operation uses up an id. -/
def Operation.issues : Operation → Bool
  | .add .. => true
  | _ => false

namespace Hub.Indistinct

variable {issuing : Prop} {hub hub' : Hub}

theorem due (h : Indistinct issuing hub hub') (faults : FaultPlan) :
    Indistinct issuing { hub with faults } { hub' with faults } := { h with faults := rfl }

theorem suits {op : Operation} (hi : op.issues = true → issuing) : Suits (Indistinct issuing) op := by
  cases op with
  | add token given d => exact ⟨issueId_respects (hi rfl), admits d⟩
  | update token given d => exact admits d
  | _ => trivial

/-- Each operation comes to the same on both hubs. --/
theorem perform (h : Indistinct issuing hub hub') (hq : Quiet hub) (hq' : Quiet hub') (clock : Clock) {op : Operation}
    (hi : op.issues = true → issuing) :
    Concur (Indistinct issuing) (Hub.perform clock op hub) (Hub.perform clock op hub') := by
  cases op with
  | receive m =>
    refine ⟨rfl, ?_⟩
    show Indistinct issuing (Hub.receive clock m hub) (Hub.receive clock m hub')
    rw [receive_eq hq, receive_eq hq', ← h.broker]
    split
    · exact (accord.saveStates h hq hq' clock m).related
    · exact h
  | restart notifyChannel =>
    exact ⟨rfl, { h with notifyChannel := rfl, routes := rfl, active := rfl, broker := rfl }⟩
  | seedTwin twin =>
    unfold Hub.perform
    dsimp only
    rcases h.twins.insert twin with ⟨e, hs, ht⟩ | ⟨s, t, hs, ht, same⟩ <;> rw [hs, ht]
    · exact ⟨rfl, h⟩
    · exact ⟨rfl, { h with twins := same }⟩
  | seedState state => exact ⟨rfl, { h with states := by dsimp only [Hub.perform]; rw [h.states] }⟩
  | plan point failure skip times =>
    exact ⟨rfl, { h with faults := by dsimp only [Hub.perform]; rw [h.faults] }⟩
  -- What is left are the calls of the service.
  | _ => exact accord.perform h hq hq' clock rfl (suits hi)

theorem turn (h : Indistinct issuing hub hub') (hq : Quiet hub) (hq' : Quiet hub') {t : Turn}
    (hi : t.op.issues = true → issuing) : Concur (Indistinct issuing) (hub.turn t) (hub'.turn t) :=
  (h.due t.faults).perform (hq.due t.faults) (hq'.due t.faults) t.clock hi

end Hub.Indistinct

namespace Hub

/-- What the turns of a run come to. -/
def replies (hub : Hub) : List Turn → List (Except ServiceError Reply)
  | [] => []
  | t :: rest => (hub.turn t).1 :: (hub.turn t).2.replies rest

theorem Indistinct.replies {issuing : Prop} (turns : List Turn) {hub hub' : Hub} (h : Indistinct issuing hub hub')
    (hq : Quiet hub) (hq' : Quiet hub') (hi : ∀ t ∈ turns, t.op.issues = true → issuing) :
    hub.replies turns = hub'.replies turns := by
  induction turns generalizing hub hub' with
  | nil => rfl
  | cons t rest ih =>
    obtain ⟨same, after⟩ := h.turn hq hq' (hi t List.mem_cons_self)
    exact congrArg₂ List.cons same
      (ih after (hq.turn t) (hq'.turn t) fun t' ht' => hi t' (List.mem_cons_of_mem _ ht'))

end Hub
end DigitalTwin
