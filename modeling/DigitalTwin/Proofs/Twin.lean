import DigitalTwin.Proofs.RouteKey
import DigitalTwin.RouteTable

/-! Which definitions may be routed, and the route that a twin has on a key. -/

namespace DigitalTwin

/-! ### Definitions -/

namespace Definition

variable {d : Definition}

theorem firstReuse?_eq_none {seen : List RouteKey} : ∀ {attributes : List Attribute},
    firstReuse? seen attributes = none ↔
      (attributes.map (·.key)).Nodup ∧ ∀ a ∈ attributes, a.key ∉ seen
  | [] => by simp [firstReuse?]
  | a :: rest => by
    unfold firstReuse?
    by_cases h : a.key ∈ seen
    · simp [h]
    · rw [if_neg (by simpa using h), firstReuse?_eq_none, List.map_cons, List.nodup_cons]
      constructor
      · rintro ⟨hn, hs⟩
        refine ⟨⟨fun hm => ?_, hn⟩, fun b hb => ?_⟩
        · obtain ⟨b, hb, hk⟩ := List.mem_map.mp hm
          exact hs b hb (hk ▸ List.mem_cons_self)
        · rcases List.mem_cons.mp hb with rfl | hb
          · exact h
          · exact fun hk => hs b hb (List.mem_cons_of_mem _ hk)
      · rintro ⟨⟨ha, hn⟩, hs⟩
        refine ⟨hn, fun b hb hk => ?_⟩
        rcases List.mem_cons.mp hk with hk | hk
        · exact ha (List.mem_map.mpr ⟨b, hb, hk⟩)
        · exact hs b (List.mem_cons_of_mem _ hb) hk

theorem requireDistinctKeys_eq_ok : d.requireDistinctKeys = .ok () ↔ (d.attributes.map (·.key)).Nodup := by
  have h : firstReuse? [] d.attributes = none ↔ _ := firstReuse?_eq_none
  unfold requireDistinctKeys
  split
  · rename_i a ha
    simp only [ha, reduceCtorEq, false_iff, List.not_mem_nil, not_false_eq_true, implies_true, and_true] at h
    simp [h]
  · rename_i hn
    simpa using h.mp hn

theorem requireUnreserved_eq_ok {notifyChannel : Option String} :
    d.requireUnreserved notifyChannel = .ok () ↔ ∀ a ∈ d.persisted, some a.channel ≠ notifyChannel := by
  unfold requireUnreserved
  cases notifyChannel with
  | none => simp
  | some channel =>
    dsimp only
    split
    · rename_i a ha
      have hm := List.mem_of_find?_eq_some ha
      have hc : a.channel = channel := by simpa using List.find?_some ha
      simp only [reduceCtorEq, false_iff]
      exact fun h => h a hm (congrArg some hc)
    · rename_i hn
      simpa using hn

/-- A definition may be routed if it uses no key twice and persists nothing on the notification channel. --/
theorem requireRoutable_eq_ok {notifyChannel : Option String} :
    d.requireRoutable notifyChannel = .ok () ↔
      (d.attributes.map (·.key)).Nodup ∧ ∀ a ∈ d.persisted, some a.channel ≠ notifyChannel := by
  rw [← requireDistinctKeys_eq_ok, ← requireUnreserved_eq_ok]
  unfold requireRoutable
  split
  · rename_i e he
    simp [he]
  · rename_i hk
    simp [hk]

end Definition

/-! ### Twins -/

namespace Twin

variable {twin : Twin} {key : RouteKey} {route : Route}

/-- The definition in force may be routed, if there is one. -/
def Routable (notifyChannel : Option String) (twin : Twin) : Prop :=
  ∀ d, twin.current? = some d → d.requireRoutable notifyChannel = .ok ()

/-- The route that a twin has on a key: the one of its last persisted attribute there. -/
def routeOn? (twin : Twin) (key : RouteKey) : Option Route :=
  (twin.persisted.reverse.find? (·.key = key)).map fun a => ⟨twin.id, a, twin.revision⟩

theorem mem_persistedKeys : key ∈ twin.persistedKeys ↔ ∃ a ∈ twin.persisted, a.key = key := by
  simp [persistedKeys]

theorem routeOn?_eq_none : twin.routeOn? key = none ↔ key ∉ twin.persistedKeys := by
  simp [routeOn?, mem_persistedKeys]

theorem routeOn?_isSome : (∃ route, twin.routeOn? key = some route) ↔ key ∈ twin.persistedKeys := by
  rw [← Option.isSome_iff_exists, Option.isSome_iff_ne_none, ne_eq, routeOn?_eq_none, Decidable.not_not]

/-- A route of a twin is that of one of its persisted attributes. --/
theorem exists_of_routeOn? (h : twin.routeOn? key = some route) :
    ∃ a ∈ twin.persisted, a.key = key ∧ route = ⟨twin.id, a, twin.revision⟩ := by
  obtain ⟨a, ha, rfl⟩ := Option.map_eq_some_iff.mp h
  exact ⟨a, List.mem_reverse.mp (List.mem_of_find?_eq_some ha), by simpa using List.find?_some ha, rfl⟩

theorem routeOn?_twinId (h : twin.routeOn? key = some route) : route.twinId = twin.id := by
  obtain ⟨a, -, -, rfl⟩ := exists_of_routeOn? h
  rfl

theorem persisted_eq (twin : Twin) :
    twin.persisted = [] ∨ ∃ d, twin.current? = some d ∧ twin.persisted = d.persisted := by
  unfold persisted
  cases twin.current? with
  | none => exact Or.inl rfl
  | some d => exact Or.inr ⟨d, rfl, rfl⟩

theorem mem_persisted {a : Attribute} : a ∈ twin.persisted ↔ ∃ d, twin.current? = some d ∧ a ∈ d.persisted := by
  unfold persisted
  cases twin.current? <;> simp

/-- A route of a twin is that of an attribute which its definition in force persists. --/
theorem current_of_routeOn? (h : twin.routeOn? key = some route) :
    ∃ d, twin.current? = some d ∧ ∃ a ∈ d.attributes,
      a.persisted = true ∧ a.key = key ∧ route = ⟨twin.id, a, twin.revision⟩ := by
  obtain ⟨a, ha, hk, rfl⟩ := exists_of_routeOn? h
  obtain ⟨d, hd, had⟩ := mem_persisted.mp ha
  obtain ⟨hm, hp⟩ := List.mem_filter.mp had
  exact ⟨d, hd, a, hm, hp, hk, rfl⟩

theorem routable_iff {notifyChannel : Option String} :
    twin.Routable notifyChannel ↔ ∀ d, twin.current? = some d → (d.attributes.map (·.key)).Nodup ∧
      ∀ a ∈ d.attributes, a.persisted = true → some a.channel ≠ notifyChannel := by
  unfold Routable
  refine forall_congr' fun d => imp_congr_right fun _ => ?_
  rw [Definition.requireRoutable_eq_ok]
  refine and_congr_right fun _ => ?_
  constructor
  · exact fun h a ha hp => h a (List.mem_filter.mpr ⟨ha, hp⟩)
  · exact fun h a ha => h a (List.mem_filter.mp ha).1 (List.mem_filter.mp ha).2

theorem Routable.nodup {notifyChannel : Option String} (h : twin.Routable notifyChannel) :
    (twin.persisted.map (·.key)).Nodup := by
  rcases persisted_eq twin with hp | ⟨d, hd, hp⟩
  · rw [hp]
    exact List.nodup_nil
  · rw [hp]
    exact (Definition.requireRoutable_eq_ok.mp (h d hd)).1.sublist (List.filter_sublist.map _)

theorem Routable.unreserved {notifyChannel : Option String} (h : twin.Routable notifyChannel)
    (hk : key ∈ twin.persistedKeys) : some key.channel ≠ notifyChannel := by
  obtain ⟨a, ha, rfl⟩ := mem_persistedKeys.mp hk
  rcases persisted_eq twin with hp | ⟨d, hd, hp⟩
  · rw [hp] at ha
    cases ha
  · exact (Definition.requireRoutable_eq_ok.mp (h d hd)).2 a (hp ▸ ha)

/-- With no key used twice, the routes of a twin are those of its persisted attributes. --/
theorem Routable.routeOn?_eq_some {notifyChannel : Option String} (h : twin.Routable notifyChannel) :
    twin.routeOn? key = some route ↔
      ∃ a ∈ twin.persisted, a.key = key ∧ route = ⟨twin.id, a, twin.revision⟩ := by
  refine ⟨exists_of_routeOn?, ?_⟩
  rintro ⟨a, ha, hk, rfl⟩
  obtain ⟨route, hr⟩ := routeOn?_isSome.mpr (mem_persistedKeys.mpr ⟨a, ha, hk⟩)
  obtain ⟨b, hb, hk', rfl⟩ := exists_of_routeOn? hr
  have same : a = b := List.inj_on_of_nodup_map h.nodup ha hb (hk.trans hk'.symm)
  rw [hr, same]

theorem Routable.routeOn?_iff_current {notifyChannel : Option String} (h : twin.Routable notifyChannel) :
    twin.routeOn? key = some route ↔
      ∃ d, twin.current? = some d ∧ ∃ a ∈ d.attributes,
        a.persisted = true ∧ a.key = key ∧ route = ⟨twin.id, a, twin.revision⟩ := by
  refine ⟨current_of_routeOn?, ?_⟩
  rintro ⟨d, hd, a, hm, hp, hk, rfl⟩
  have ha : a ∈ twin.persisted := mem_persisted.mpr ⟨d, hd, List.mem_filter.mpr ⟨hm, hp⟩⟩
  exact h.routeOn?_eq_some.mpr ⟨a, ha, hk, rfl⟩

theorem isRoutable_eq_true {notifyChannel : Option String} :
    RouteTable.isRoutable notifyChannel twin = true ↔ twin.Routable notifyChannel := by
  unfold RouteTable.isRoutable Routable
  cases twin.current? with
  | none => simp
  | some d =>
    simp only [Option.some.injEq, forall_eq']
    cases h : d.requireRoutable notifyChannel <;> simp

end Twin
end DigitalTwin
