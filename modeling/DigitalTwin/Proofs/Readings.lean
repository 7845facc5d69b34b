import DigitalTwin.Proofs.Revisions

/-! Which definition a state is to be read by. A route carries the revision of its twin at the time when it
    was made, and a state carries that of the route. As long as no id is issued twice, this is the number of
    the definition that was in force when the state was recorded, and the definition is still there. -/

namespace DigitalTwin

/-! ### Issued ids -/

/-- The ids that were issued so far. -/
def IdSource.Used (ids : IdSource) (id : String) : Prop := ∃ n < ids.issued, id = ids.issue n

namespace IdSource

variable {ids : IdSource} {id : String}

theorem Used.rest (h : ids.Used id) : ids.rest.Used id := by
  obtain ⟨n, hn, rfl⟩ := h
  exact ⟨n, Nat.lt_succ_of_lt hn, rfl⟩

theorem used_next (ids : IdSource) : ids.rest.Used ids.next := ⟨ids.issued, Nat.lt_succ_self _, rfl⟩

theorem Used.ne_next (h : ids.Used id) (distinct : Function.Injective ids.issue) : id ≠ ids.next := by
  obtain ⟨n, hn, rfl⟩ := h
  exact fun heq => Nat.ne_of_lt hn (distinct heq)

end IdSource

/-! ### States and definitions -/

/-- A state was recorded while the definition at a place was in force: it has the number of the definition,
    one of its keys is that of a persisted attribute there, and every key is one of that or an earlier
    definition. -/
structure State.RecordedAt (definitions : List Definition) (place : Nat) (state : State) : Prop where
  number : state.definition = place % (maxWord + 1)
  measured : ∃ d, definitions[place]? = some d ∧ d.id = state.definition ∧
    ∃ a ∈ d.attributes, a.persisted = true ∧ ∃ value, Json.field? a.name state.payload = some value
  keys : ∀ name value, Json.field? name state.payload = some value →
    ∃ i ≤ place, ∃ d, definitions[i]? = some d ∧ ∃ a ∈ d.attributes, a.persisted = true ∧ a.name = name

namespace State.RecordedAt

variable {definitions more : List Definition} {place : Nat} {state : State}

theorem place_lt (h : state.RecordedAt definitions place) : place < definitions.length := by
  obtain ⟨d, hd, -⟩ := h.measured
  exact (List.getElem?_eq_some_iff.mp hd).1

/-- Definitions that come later change nothing. --/
theorem append (h : state.RecordedAt definitions place) (more : List Definition) :
    state.RecordedAt (definitions ++ more) place := by
  have kept : ∀ {i : Nat} {d : Definition}, definitions[i]? = some d → (definitions ++ more)[i]? = some d := by
    intro i d hd
    rw [List.getElem?_append_left (List.getElem?_eq_some_iff.mp hd).1, hd]
  obtain ⟨d, hd, measured⟩ := h.measured
  refine ⟨h.number, ⟨d, kept hd, measured⟩, fun name value hv => ?_⟩
  obtain ⟨i, hi, d, hd, key⟩ := h.keys name value hv
  exact ⟨i, hi, d, kept hd, key⟩

theorem place_eq (h : state.RecordedAt definitions place) (hlen : definitions.length ≤ maxWord + 1) :
    place = state.definition := by
  have := h.place_lt
  rw [h.number, Nat.mod_eq_of_lt (by omega)]

end State.RecordedAt

/-- States that were recorded one after another, each while some definition was in force, and none while an
    earlier one was than for the state before it. -/
def Readable (definitions : List Definition) (states : List State) : Prop :=
  ∃ recorded : List (Nat × State), recorded.map (·.2) = states ∧ recorded.Pairwise (·.1 ≤ ·.1) ∧
    ∀ r ∈ recorded, r.2.RecordedAt definitions r.1

namespace Readable

variable {definitions : List Definition} {states : List State} {twin : Twin} {state : State}

theorem nil (definitions : List Definition) : Readable definitions [] :=
  ⟨[], rfl, List.Pairwise.nil, fun _ h => (nomatch h)⟩

theorem append (h : Readable definitions states) (more : List Definition) :
    Readable (definitions ++ more) states := by
  obtain ⟨recorded, hs, sorted, reads⟩ := h
  exact ⟨recorded, hs, sorted, fun r hr => (reads r hr).append more⟩

theorem exists_place (h : Readable definitions states) (hs : state ∈ states) :
    ∃ place, state.RecordedAt definitions place := by
  obtain ⟨recorded, rfl, -, reads⟩ := h
  obtain ⟨r, hr, rfl⟩ := List.mem_map.mp hs
  exact ⟨r.1, reads r hr⟩

/-- A state that is recorded while the last definition is in force goes behind all others. --/
theorem concat (h : Readable definitions states)
    (hs : state.RecordedAt definitions (definitions.length - 1)) : Readable definitions (states ++ [state]) := by
  obtain ⟨recorded, rfl, sorted, reads⟩ := h
  refine ⟨recorded ++ [(definitions.length - 1, state)], List.map_append, ?_, fun r hr => ?_⟩
  · refine List.pairwise_append.mpr ⟨sorted, List.pairwise_singleton _ _, fun r hr last hlast => ?_⟩
    rw [List.mem_singleton.mp hlast]
    exact Nat.le_sub_one_of_lt (reads r hr).place_lt
  · rcases List.mem_append.mp hr with hr | hr
    · exact reads r hr
    · rw [List.mem_singleton.mp hr]
      exact hs

/-- With no more definitions than words, the number in a state is the place of its definition. --/
theorem recordedAt_definition (h : Readable definitions states) (hlen : definitions.length ≤ maxWord + 1)
    (hs : state ∈ states) : state.RecordedAt definitions state.definition := by
  obtain ⟨place, recorded⟩ := h.exists_place hs
  exact recorded.place_eq hlen ▸ recorded

theorem sorted (h : Readable definitions states) (hlen : definitions.length ≤ maxWord + 1) :
    states.Pairwise (·.definition ≤ ·.definition) := by
  obtain ⟨recorded, rfl, sorted, reads⟩ := h
  refine List.pairwise_map.mpr (sorted.imp_of_mem fun {r r'} hr hr' hle => ?_)
  rw [← (reads r hr).place_eq hlen, ← (reads r' hr').place_eq hlen]
  exact hle

end Readable

namespace Hub

variable {hub hub' : Hub} {clock : Clock} {op : Operation}

/-! ### Recording -/

/-- A measurement that goes to a twin is recorded while the twin's last definition is in force. --/
theorem readable_snapshot {twin : Twin} {d : Definition} {a : Attribute} {states : List State}
    (h : Readable twin.definitions states) (hv : twin.Versioned) (hd : twin.current? = some d)
    (ha : a ∈ d.attributes) (hp : a.persisted = true) (now : Instant) (m : Senml.Measurement) :
    Readable twin.definitions (states ++ [snapshot ⟨twin.id, a, twin.revision⟩ now states.getLast? m]) := by
  have last : twin.definitions[twin.definitions.length - 1]? = some d := by
    rw [← List.getLast?_eq_getElem?]
    exact hd
  refine h.concat ⟨hv.revision, ⟨d, last, ?_, a, ha, hp, m.value, ?_⟩, fun name value hn => ?_⟩
  · rw [hv.number _ d last]
    exact hv.revision.symm
  · exact Json.field?_insertField.trans (if_pos rfl)
  · have hn : Json.field? name (Json.insertField a.name m.value ((states.getLast?.map (·.payload)).getD [])) =
      some value := hn
    rw [Json.field?_insertField] at hn
    split at hn
    · rename_i hname
      exact ⟨_, Nat.le_refl _, d, last, a, ha, hp, hname.symm⟩
    · -- The key was there before, so it is one of a definition that the state before was read by.
      cases hl : states.getLast? with
      | none =>
        rw [hl] at hn
        cases hn
      | some before =>
        rw [hl] at hn
        obtain ⟨place, recorded⟩ := h.exists_place (List.mem_of_getLast? hl)
        obtain ⟨i, hi, key⟩ := recorded.keys name value hn
        exact ⟨i, hi.trans (Nat.le_sub_one_of_lt recorded.place_lt), key⟩

/-! ### Hubs -/

/-- Ids are not issued twice, and stored twins and histories have ids that were issued. -/
structure Issued (hub : Hub) : Prop where
  distinct : Function.Injective hub.ids.issue
  stored : ∀ twin ∈ hub.twins.toList, hub.ids.Used twin.id
  recorded : ∀ id, hub.states.history id ≠ [] → hub.ids.Used id

namespace Issued

/-- The twin that is added next starts without a history. --/
theorem history_next (h : Issued hub) : hub.states.history hub.ids.next = [] := by
  by_contra hne
  exact (h.recorded _ hne).ne_next h.distinct rfl

theorem effect (h : Issued hub) (hs : Sourced hub) (he : Effect clock op hub hub')
    (htwin : ∀ twin, op ≠ .seedTwin twin) (hstate : ∀ state, op ≠ .seedState state) : Issued hub' := by
  cases he with
  | transport same =>
    refine ⟨same.ids ▸ h.distinct, ?_, ?_⟩
    · rw [same.ids, same.twins]
      exact h.stored
    · rw [same.ids, same.states]
      exact h.recorded
  | issue => exact ⟨h.distinct, fun twin ht => (h.stored twin ht).rest, fun id hne => (h.recorded id hne).rest⟩
  | add _ _ _ _ hi =>
    refine ⟨h.distinct, fun twin ht => ?_, fun id hne => (h.recorded id hne).rest⟩
    rcases (TwinStore.mem_insert hs.store hi).mp ht with rfl | ⟨ht, -⟩
    · exact hub.ids.used_next
    · exact (h.stored twin ht).rest
  | update _ _ hg _ _ _ hr =>
    have current := h.stored _ (hs.store.get?_eq_some.mp hg).1
    refine ⟨h.distinct, fun twin ht => ?_, h.recorded⟩
    rcases (TwinStore.mem_replace hs.store hr).mp ht with rfl | ⟨ht, -⟩
    · exact current
    · exact h.stored twin ht
  | remove => exact ⟨h.distinct, fun twin ht => h.stored twin ((TwinStore.mem_erase hs.store).mp ht).1, h.recorded⟩
  | restore | restart => exact ⟨h.distinct, h.stored, h.recorded⟩
  | record _ hr =>
    obtain ⟨twin, d, hg, -, a, -, -, -, rfl⟩ := hs.exists_twin hr
    obtain ⟨ht, -⟩ := hs.store.get?_eq_some.mp hg
    refine ⟨h.distinct, h.stored, fun id hne => ?_⟩
    rw [StateStore.history_append] at hne
    split at hne
    · rename_i hid
      exact hid ▸ h.stored twin ht
    · exact h.recorded id hne
  | seedTwin hop => exact absurd hop (htwin _)
  | seedState hop => exact absurd hop (hstate _)

end Issued

/-- Every stored twin has a history that its definitions make readable. -/
structure Legible (hub : Hub) : Prop where
  sourced : Sourced hub
  issued : Issued hub
  versioned : ∀ twin ∈ hub.twins.toList, twin.Versioned
  readable : ∀ twin ∈ hub.twins.toList, Readable twin.definitions (hub.states.history twin.id)

namespace Legible

theorem new (identities : IdentityTable) {ids : IdSource} (notifyChannel : Option String)
    (distinct : Function.Injective ids.issue) : Legible (Hub.new identities ids notifyChannel) :=
  ⟨.new identities ids notifyChannel, ⟨distinct, fun _ h => (nomatch h), fun _ h => absurd rfl h⟩,
    fun _ h => (nomatch h), fun _ h => (nomatch h)⟩

theorem effect (h : Legible hub) (he : Effect clock op hub hub') (htwin : ∀ twin, op ≠ .seedTwin twin)
    (hstate : ∀ state, op ≠ .seedState state) : Legible hub' := by
  refine ⟨h.sourced.effect he, h.issued.effect h.sourced he htwin hstate,
    he.versioned h.sourced.store htwin h.versioned, ?_⟩
  have before := he.stored (P := fun twin => Readable twin.definitions (hub.states.history twin.id))
    h.sourced.store htwin (fun _ _ _ _ => h.issued.history_next ▸ .nil _) (fun _ _ _ _ hr => hr.append _) h.readable
  cases he with
  | transport same => exact same.states ▸ before
  | issue | add | update | remove | restore | restart | seedTwin => exact before
  | record _ hr =>
    obtain ⟨twin, d, hg, hd, a, ha, hp, -, rfl⟩ := h.sourced.exists_twin hr
    obtain ⟨ht, -⟩ := h.sourced.store.get?_eq_some.mp hg
    intro u hu
    rw [StateStore.history_append]
    split
    · rename_i hid
      cases List.inj_on_of_nodup_map h.sourced.store.nodup_ids hu ht hid.symm
      exact readable_snapshot (h.readable twin ht) (h.versioned twin ht) hd ha hp _ _
    · exact h.readable u hu
  | seedState hop => exact absurd hop (hstate _)

end Legible

/-! ### Runs -/

/-- In every run from empty stores over ids that are not issued twice, whatever fails and wherever the hub is
    started anew, with or without its routes: the states of a stored twin were recorded in the order of its
    definitions. So the number in a state leads to a definition of the twin, no later than the last one, with
    that number and with a persisted attribute for a key of the state; every key is that of a persisted
    attribute there or before; and the numbers never decrease along the history. --/
theorem follow_states_readable (identities : IdentityTable) (ids : IdSource) (notifyChannel : Option String)
    (turns : List Turn) (distinct : Function.Injective ids.issue)
    (htwin : ∀ t ∈ turns, ∀ twin, t.op ≠ .seedTwin twin) (hstate : ∀ t ∈ turns, ∀ state, t.op ≠ .seedState state) :
    let hub := (Hub.new identities ids notifyChannel).follow turns
    ∀ twin ∈ hub.twins.toList, Readable twin.definitions (hub.states.history twin.id) ∧
      (twin.definitions.length ≤ maxWord + 1 →
        (∀ state ∈ hub.states.history twin.id,
          state.definition ≤ twin.revision ∧
          (∃ d, twin.definitions[state.definition]? = some d ∧ d.id = state.definition ∧
            ∃ a ∈ d.attributes, a.persisted = true ∧ ∃ value, Json.field? a.name state.payload = some value) ∧
          ∀ name value, Json.field? name state.payload = some value →
            ∃ i ≤ state.definition, ∃ d, twin.definitions[i]? = some d ∧
              ∃ a ∈ d.attributes, a.persisted = true ∧ a.name = name) ∧
        (hub.states.history twin.id).Pairwise (·.definition ≤ ·.definition)) := by
  intro hub twin ht
  have legible : Legible hub := follow_induction (Quiet.new identities ids notifyChannel)
    (.new identities notifyChannel distinct) fun t ht _ _ he h => h.effect he (htwin t ht) (hstate t ht)
  have readable := legible.readable twin ht
  refine ⟨readable, fun hlen => ⟨fun state hs => ?_, readable.sorted hlen⟩⟩
  have recorded := readable.recordedAt_definition hlen hs
  refine ⟨?_, recorded.measured, recorded.keys⟩
  rw [(legible.versioned twin ht).revision_eq hlen]
  exact Nat.le_sub_one_of_lt recorded.place_lt

/-- A message comes before the twin is updated, one behind it and one behind a new start; another one has a
    key that the update gave up. Each of the three states leads to the definition that routed its message. --/
theorem follow_states_readable_two_definitions :
    let given : Twin := ⟨"", "", "pump", [], ⟨0, 0⟩, ⟨0, 0⟩, 0, []⟩
    let flow : Attribute := ⟨"flow", "plant", "a", true⟩
    let heat : Attribute := ⟨"heat", "plant", "b", true⟩
    let message (subtopic : String) : Message := ⟨"plant", subtopic, "pump", [91, 123, 125, 93], ⟨0, 0⟩⟩
    let ops : List Operation :=
      [.add "token" given ⟨0, ⟨0, 0⟩, [flow]⟩, .save (message "a"),
        .update "token" { given with id := "t" } ⟨0, ⟨0, 0⟩, [heat]⟩, .save (message "a"), .save (message "b"),
        .restart none, .restore, .save (message "b")]
    let ids : IdSource := ⟨fun n => String.ofList (List.replicate (n + 1) 't'), 0⟩
    let hub := (Hub.new ⟨[("token", "ann")]⟩ ids none).follow (ops.map (⟨.empty, .at ⟨1, 0⟩, ·⟩))
    (hub.twins.toList.map fun twin => (twin.id, twin.definitions.length)) = [("t", 2)] ∧
      (hub.states.history "t").map (·.definition) = [0, 1, 1] ∧
      ∀ twin ∈ hub.twins.toList, ∀ state ∈ hub.states.history twin.id,
        ∃ d, twin.definitions[state.definition]? = some d ∧ d.id = state.definition := by
  intro given flow heat message ops ids hub
  have distinct : Function.Injective ids.issue := by
    intro m n h
    have lengths := congrArg List.length (String.ofList_inj.mp h)
    rw [List.length_replicate, List.length_replicate] at lengths
    exact Nat.succ.inj lengths
  have twins : (hub.twins.toList.map fun twin => (twin.id, twin.definitions.length)) = [("t", 2)] := by
    decide +kernel
  have numbers : (hub.states.history "t").map (·.definition) = [0, 1, 1] := by decide +kernel
  have read := follow_states_readable ⟨[("token", "ann")]⟩ ids none (ops.map (⟨.empty, .at ⟨1, 0⟩, ·⟩)) distinct
    (by simp [ops]) (by simp [ops])
  refine ⟨twins, numbers, fun twin ht state hs => ?_⟩
  have length : twin.definitions.length = 2 := by
    have listed := List.mem_map_of_mem (f := fun twin : Twin => (twin.id, twin.definitions.length)) ht
    rw [twins] at listed
    exact congrArg Prod.snd (List.mem_singleton.mp listed)
  have bound : twin.definitions.length ≤ maxWord + 1 := by
    rw [length]
    decide
  obtain ⟨d, hd, hid, -⟩ := (((read twin ht).2 bound).1 state hs).2.1
  exact ⟨d, hd, hid⟩

end Hub
end DigitalTwin
