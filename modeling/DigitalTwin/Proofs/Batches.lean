import DigitalTwin.Proofs.Measurements
import DigitalTwin.Proofs.Saving

/-! Records in one message or in two. What holds behind the records of the first message is lost between the two, so the
    second must say again what it builds on: then the measurements are those of one message with all records, and so
    are the states, since what the second message goes on from in the store is what the first one ended with. -/

namespace DigitalTwin

theorem exists_of_isOk {ε α : Type} {r : Except ε α} (h : r.isOk = true) : ∃ a, r = .ok a := by
  cases r with
  | ok a => exact ⟨a, rfl⟩
  | error e => cases h

/-! ### Measurements -/

namespace Senml

variable {now : Instant} {before first second : List Record} {base : Base} {ms : List Measurement}

/-- A record that says again which base fields it builds on behind others. -/
def Record.following (before : List Record) (r : Record) : Record :=
  { r with
    baseName := r.baseName.or (lastOf (·.baseName) before)
    baseTime := r.baseTime.or (lastOf (·.baseTime) before)
    baseUnit := r.baseUnit.or (lastOf (·.baseUnit) before)
    baseValue := r.baseValue.or (lastOf (·.baseValue) before)
    baseSum := r.baseSum.or (lastOf (·.baseSum) before) }

/-- Records that go on from others and are read without them: the first one says what they build on. -/
def continuing (before : List Record) : List Record → List Record
  | [] => []
  | r :: rest => r.following before :: rest

@[simp] theorem length_continuing (before : List Record) : ∀ records : List Record,
    (continuing before records).length = records.length
  | [] => rfl
  | _ :: _ => rfl

theorem update_following (before : List Record) (r : Record) :
    Base.initial.update (r.following before) = (baseOf before).update r := by
  have getD_or {α : Type} (a b : Option α) (c : α) : (a.or b).getD c = a.getD (b.getD c) := by
    cases a <;> rfl
  simp [Base.update, Base.initial, baseOf, Record.following, getD_or]

theorem measureAll_continuing (now : Instant) (before records : List Record) :
    measureAll now .initial (continuing before records) = measureAll now (baseOf before) records := by
  cases records with
  | nil => rfl
  | cons r rest =>
    unfold continuing measureAll
    rw [update_following]
    rfl

theorem measureAll_cons_eq_ok {r : Record} {rest : List Record} :
    measureAll now base (r :: rest) = .ok ms ↔
      ∃ m ms', measure now (base.update r) r = .ok m ∧ measureAll now (base.update r) rest = .ok ms' ∧
        ms = m :: ms' := by
  rw [measureAll]
  cases measure now (base.update r) r with
  | error e => simp
  | ok m => cases measureAll now (base.update r) rest <;> simp [eq_comm]

/-- Records are read under what holds behind those before them. --/
theorem measureAll_append_eq_ok :
    measureAll now (baseOf before) (first ++ second) = .ok ms ↔
      ∃ ms₁ ms₂, measureAll now (baseOf before) first = .ok ms₁ ∧
        measureAll now (baseOf (before ++ first)) second = .ok ms₂ ∧ ms = ms₁ ++ ms₂ := by
  induction first generalizing before ms with
  | nil => simp [measureAll]
  | cons r rest ih =>
    simp only [List.cons_append, measureAll_cons_eq_ok, update_baseOf, ih, List.append_assoc, List.nil_append]
    constructor
    · rintro ⟨m, -, hm, ⟨ms₁, ms₂, h₁, h₂, rfl⟩, rfl⟩
      exact ⟨m :: ms₁, ms₂, ⟨m, ms₁, hm, h₁, rfl⟩, h₂, rfl⟩
    · rintro ⟨-, ms₂, ⟨m, ms₁, hm, h₁, rfl⟩, h₂, rfl⟩
      exact ⟨m, ms₁ ++ ms₂, hm, ⟨ms₁, ms₂, h₁, h₂, rfl⟩, rfl⟩

theorem measureAll_split :
    measureAll now .initial (first ++ second) = .ok ms ↔
      ∃ ms₁ ms₂, measureAll now .initial first = .ok ms₁ ∧
        measureAll now .initial (continuing first second) = .ok ms₂ ∧ ms = ms₁ ++ ms₂ := by
  have start : Base.initial = baseOf [] := rfl
  rw [measureAll_continuing, start, measureAll_append_eq_ok, List.nil_append]

theorem length_measureAll (h : measureAll now base first = .ok ms) : ms.length = first.length := by
  induction first generalizing base ms with
  | nil =>
    cases h
    rfl
  | cons r rest ih =>
    obtain ⟨m, ms', -, hrest, rfl⟩ := measureAll_cons_eq_ok.mp h
    exact congrArg (· + 1) (ih hrest)

end Senml

/-! ### States -/

namespace StateStore

variable {s : StateStore} {states : List State} {id : String}

theorem appendAll_append (s : StateStore) (states more : List State) :
    s.appendAll (states ++ more) = (s.appendAll states).appendAll more := List.foldl_append

theorem last?_appendAll (h : ∀ state ∈ states, state.twinId = id) :
    (s.appendAll states).last? id = states.getLast?.or (s.last? id) := by
  unfold last?
  rw [history_appendAll, List.filter_eq_self.mpr fun state hs => decide_eq_true (h state hs), List.getLast?_append]

end StateStore

/-- The clock from the k-th of its records on. -/
def Clock.after (clock : Clock) (k : Nat) : Clock := ⟨clock.start, fun n => clock.record (k + n)⟩

namespace Hub

variable {route : Route} {clock : Clock}

theorem snapshots_after (k n : Nat) (last : Option State) (ms : List Senml.Measurement) :
    snapshots route (clock.after k) n last ms = snapshots route clock (k + n) last ms := by
  induction ms generalizing n last with
  | nil => rfl
  | cons m rest ih =>
    unfold snapshots
    dsimp only
    rw [ih (n + 1)]
    rfl

/-- More snapshots go on from the last one, or from what the first would have gone on from if there is none. --/
theorem snapshots_append (n : Nat) (last : Option State) (ms more : List Senml.Measurement) :
    snapshots route clock n last (ms ++ more) =
      snapshots route clock n last ms ++
        snapshots route clock (n + ms.length) ((snapshots route clock n last ms).getLast?.or last) more := by
  induction ms generalizing n last with
  | nil => rfl
  | cons m rest ih =>
    simp only [List.cons_append, snapshots, ih (n + 1), List.length_cons, List.getLast?_cons]
    have place : n + (rest.length + 1) = n + 1 + rest.length := by omega
    rw [place]
    congr 2
    cases (snapshots route clock (n + 1) (some (snapshot route (clock.record n) last m)) rest).getLast? <;> rfl

/-! ### Messages -/

/-- A message is on a key, and its payload is some records. -/
structure Carries (m : Message) (key : RouteKey) (records : List Senml.Record) : Prop where
  key : m.key = key
  records : Senml.records? m.payload = some records

/-- One message has all of some records, and of two others the second goes on from the first. -/
structure Splits (whole head tail : Message) (key : RouteKey) (first second : List Senml.Record) : Prop where
  whole : Carries whole key (first ++ second)
  head : Carries head key first
  tail : Carries tail key (Senml.continuing first second)

variable {hub : Hub} {m whole head tail : Message} {key : RouteKey} {records first second : List Senml.Record}
  {ms ms₁ ms₂ : List Senml.Measurement}

theorem Carries.decode (h : Carries m key records) (now : Instant) :
    Senml.decode m.payload now = Senml.measureAll now .initial records := by
  unfold Senml.decode
  rw [h.records]

theorem Carries.statesOf (h : Carries m key records) (hr : hub.routes.get? key = some route)
    (hd : Senml.decode m.payload clock.start = .ok ms) :
    hub.statesOf clock m = .ok (snapshots route clock 0 (hub.states.last? route.twinId) ms) := by
  rw [statesOf_routed (h.key ▸ hr), hd]
  rfl

theorem Carries.length (h : Carries m key records) {now : Instant} (hd : Senml.decode m.payload now = .ok ms) :
    ms.length = records.length := Senml.length_measureAll (h.decode now ▸ hd)

theorem Splits.decode (h : Splits whole head tail key first second) {now : Instant}
    (h₁ : Senml.decode head.payload now = .ok ms₁) (h₂ : Senml.decode tail.payload now = .ok ms₂) :
    Senml.decode whole.payload now = .ok (ms₁ ++ ms₂) := by
  rw [h.whole.decode]
  exact Senml.measureAll_split.mpr ⟨ms₁, ms₂, h.head.decode now ▸ h₁, h.tail.decode now ▸ h₂, rfl⟩

/-- One message and two messages in turn leave the same states of a twin, and the two count as many as the one. -/
structure AddsUp (id : String) (m n : Nat) (hub : Hub) (once headed twice : Except ServiceError Reply × Hub) :
    Prop where
  whole : once.1 = .ok (.count (m + n))
  head : headed.1 = .ok (.count m)
  tail : twice.1 = .ok (.count n)
  same : once.2.states = twice.2.states
  added : ∃ made, once.2.states = hub.states.appendAll made ∧ made.length = m + n ∧ ∀ state ∈ made, state.twinId = id

/-- It makes no difference where a row of records is cut into messages. The measurements of all records can be told if
    those of both parts can, the second of which starts with the base fields that hold behind the first, and they
    are those of the first part and then those of the second. So at any time, by one clock and while states can be
    had and saved, one message leaves the states that two messages leave, and counts as many. --/
theorem save_splits (stored : Hub) (notifyChannel : Option String) (turns : List Turn) :
    (∀ now first second ms, Senml.measureAll now .initial (first ++ second) = .ok ms ↔
      ∃ ms₁ ms₂, Senml.measureAll now .initial first = .ok ms₁ ∧
        Senml.measureAll now .initial (Senml.continuing first second) = .ok ms₂ ∧ ms = ms₁ ++ ms₂) ∧
    let hub := (stored.restart notifyChannel).follow turns
    ∀ {whole head tail key first second route ms₁ ms₂} clock (faults faults₁ faults₂ : FaultPlan),
      Splits whole head tail key first second → hub.routes.get? key = some route →
      Senml.decode head.payload clock.start = .ok ms₁ → Senml.decode tail.payload clock.start = .ok ms₂ →
      faults.SparesStates → faults₁.SparesStates → faults₂.SparesStates →
        let once := hub.turn ⟨faults, clock, .save whole⟩
        let headed := hub.turn ⟨faults₁, clock, .save head⟩
        let twice := headed.2.turn ⟨faults₂, clock.after first.length, .save tail⟩
        AddsUp route.twinId first.length second.length hub once headed twice := by
  refine ⟨fun _ _ _ _ => Senml.measureAll_split, ?_⟩
  intro hub whole head tail key first second route ms₁ ms₂ clock faults faults₁ faults₂ h hr h₁ h₂ hf hf₁ hf₂ once
    headed twice
  have hq : Quiet hub := (Quiet.restart notifyChannel stored).follow turns
  let made := snapshots route clock 0 (hub.states.last? route.twinId) ms₁
  let more := snapshots route clock first.length (made.getLast?.or (hub.states.last? route.twinId)) ms₂
  have length₁ : ms₁.length = first.length := h.head.length h₁
  have length_made : made.length = first.length := (length_snapshots 0 _ ms₁).trans length₁
  have length_more : more.length = second.length := by
    rw [length_snapshots, h.tail.length h₂, Senml.length_continuing]
  obtain ⟨result₁, states₁, routes₁⟩ := turn_saved hq hf₁ (h.head.statesOf hr h₁)
  -- The second message goes on from the last state of the first one, or from where that one would have gone on.
  have goesOn : headed.2.statesOf (clock.after first.length) tail = .ok more := by
    have hr' : headed.2.routes.get? key = some route := routes₁ ▸ hr
    have h₂' : Senml.decode tail.payload (clock.after first.length).start = .ok ms₂ := h₂
    rw [h.tail.statesOf hr' h₂', states₁, StateStore.last?_appendAll twinId_of_mem_snapshots, snapshots_after]
    rfl
  obtain ⟨result₂, states₂, -⟩ := turn_saved (hq.turn _) hf₂ goesOn
  have all : hub.statesOf clock whole = .ok (made ++ more) := by
    rw [h.whole.statesOf hr (h.decode h₁ h₂), snapshots_append, Nat.zero_add, length₁]
  obtain ⟨result, states, -⟩ := turn_saved hq hf all
  have sum : (made ++ more).length = first.length + second.length := by
    rw [List.length_append, length_made, length_more]
  refine ⟨?_, ?_, ?_, ?_, made ++ more, states, sum, fun state hs => ?_⟩
  · rw [result, sum]
  · rw [result₁, length_made]
  · rw [result₂, length_more]
  · rw [states, states₂, states₁, StateStore.appendAll_append]
  · rcases List.mem_append.mp hs with hs | hs <;> exact twinId_of_mem_snapshots state hs

/-- A base value that the second of two records builds on is said again when that comes in a message of its own. --/
theorem save_splits_base_value :
    let given : Twin := ⟨"t", "", "pump", [], ⟨0, 0⟩, ⟨0, 0⟩, 0, []⟩
    let flow : Attribute := ⟨"flow", "plant", "a", true⟩
    let message (text : String) : Message := ⟨"plant", "a", "pump", Text.Utf8.encode text, ⟨0, 0⟩⟩
    let whole := message "[\x7b\"bv\":5,\"v\":1\x7d,\x7b\"v\":2\x7d]"
    let head := message "[\x7b\"bv\":5,\"v\":1\x7d]"
    let tail := message "[\x7b\"bv\":5,\"v\":2\x7d]"
    let stored := Hub.new ⟨[("token", "ann")]⟩ ⟨fun _ => "t", 0⟩ none
    let hub := (stored.restart none).follow [⟨.empty, .at ⟨1, 0⟩, .add "token" given ⟨0, ⟨0, 0⟩, [flow]⟩⟩]
    let clock := Clock.at ⟨2, 0⟩
    let headed := hub.turn ⟨.empty, clock, .save head⟩
    AddsUp "t" 1 1 hub (hub.turn ⟨.empty, clock, .save whole⟩) headed
      (headed.2.turn ⟨.empty, clock.after 1, .save tail⟩) := by
  intro given flow message whole head tail stored hub clock headed
  let blank : Senml.Record := default
  let first : List Senml.Record := [{ blank with baseValue := some (.ofInt 5), value := some (.ofInt 1) }]
  let second : List Senml.Record := [{ blank with value := some (.ofInt 2) }]
  have splits : Splits whole head tail ⟨"plant", "a"⟩ first second :=
    ⟨⟨rfl, by decide +kernel⟩, ⟨rfl, by decide +kernel⟩, ⟨rfl, by decide +kernel⟩⟩
  have routed : hub.routes.get? ⟨"plant", "a"⟩ = some ⟨"t", flow, 0⟩ := by decide +kernel
  obtain ⟨ms₁, h₁⟩ := exists_of_isOk (show (Senml.decode head.payload clock.start).isOk = true by decide +kernel)
  obtain ⟨ms₂, h₂⟩ := exists_of_isOk (show (Senml.decode tail.payload clock.start).isOk = true by decide +kernel)
  obtain ⟨-, split⟩ := save_splits stored none [⟨.empty, .at ⟨1, 0⟩, .add "token" given ⟨0, ⟨0, 0⟩, [flow]⟩⟩]
  exact split clock .empty .empty .empty splits routed h₁ h₂ FaultPlan.sparesStates_empty FaultPlan.sparesStates_empty
    FaultPlan.sparesStates_empty

end Hub
end DigitalTwin
