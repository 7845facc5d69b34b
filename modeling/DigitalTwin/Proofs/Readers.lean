import DigitalTwin.Config
import DigitalTwin.Entity.Form
import DigitalTwin.Proofs.JsonValue
import DigitalTwin.Senml.Record
import Mathlib.Data.List.Forall2

/-! Which documents are read, and as what: a lemma for each value without fields, one for each rule by which a field
    is read, and one for each structure, which is read just if its fields are. -/

namespace DigitalTwin

theorem Number.unsigned?_eq_some {number : Number} {n : Nat} :
    number.unsigned? = some n ↔ number = .integer n ∧ n ≤ maxWord := by
  have words : Nat.pow 2 64 = maxWord + 1 := by decide
  cases number with
  | float x => simp [Number.unsigned?]
  | integer i =>
    simp only [Number.unsigned?, Option.ite_none_right_eq_some, Option.some.injEq, Number.integer.injEq, words]
    omega

namespace Document

variable {α : Type} {read : Document → Option α} {d : Document}

/-! ### Values without fields -/

theorem text?_eq_some {s : String} : d.text? = some s ↔ d = .text (some s) := by
  cases d <;> simp [text?]

theorem bool?_eq_some {b : Bool} : d.bool? = some b ↔ d = .bool b := by
  cases d <;> simp [bool?]

theorem float?_eq_some {x : Binary64} : d.float? = some x ↔ ∃ n, d = .number (some n) ∧ n.toBinary64 = x := by
  cases d <;> simp [float?]

theorem unsigned?_eq_some {n : Nat} : d.unsigned? = some n ↔ d = .number (some (.integer n)) ∧ n ≤ maxWord := by
  cases d <;> simp [unsigned?, Option.bind_eq_some_iff, Number.unsigned?_eq_some]

theorem byte?_eq_some {b : UInt8} : d.byte? = some b ↔ d = .number (some (.integer b.toNat)) := by
  have small : b.toNat < 256 := b.toNat_lt
  constructor
  · intro h
    unfold byte? at h
    split at h
    · rename_i n hn
      obtain ⟨rfl, -⟩ := unsigned?_eq_some.mp hn
      obtain ⟨hlt, hb⟩ := Option.ite_none_right_eq_some.mp h
      rw [← Option.some.inj hb, UInt8.toNat_ofNat_of_lt' hlt]
    · cases h
  · intro h
    have word : b.toNat ≤ maxWord := Nat.le_trans (Nat.le_of_lt small) (by decide)
    have read : d.unsigned? = some b.toNat := unsigned?_eq_some.mpr ⟨h, word⟩
    unfold byte?
    rw [read]
    dsimp only
    rw [if_pos small, UInt8.ofNat_toNat]

theorem instant?_eq_some {t : Instant} :
    d.instant? = some t ↔ ∃ text, d = .text (some text) ∧ Instant.ofText? text = some t := by
  simp only [instant?, Option.bind_eq_some_iff, text?_eq_some]

theorem object?_eq_some {depth : Nat} {fields : JsonFields} :
    d.object? depth = some fields ↔ d.value? depth = some (.object fields) := by
  unfold object?
  split <;> simp_all

theorem itemsOf?_eq_some {items : List Document} {xs : List α} :
    itemsOf? read items = some xs ↔ List.Forall₂ (fun d x => read d = some x) items xs := by
  induction items generalizing xs with
  | nil => cases xs <;> simp [itemsOf?]
  | cons d rest ih => cases hd : read d <;> cases xs <;> simp [itemsOf?, hd, ih, and_comm]

theorem list?_eq_some {xs : List α} :
    list? read d = some xs ↔ ∃ items, d = .array items ∧ List.Forall₂ (fun d x => read d = some x) items xs := by
  cases d <;> simp [list?, itemsOf?_eq_some]

theorem nullable?_eq_some {x : Option α} :
    nullable? read d = some x ↔ d = .null ∧ none = x ∨ d ≠ .null ∧ ∃ a, read d = some a ∧ some a = x := by
  cases d <;> simp [nullable?, Option.map_eq_some_iff]

/-! ### Fields of a structure -/

theorem exists_named_cons {name : String} {rest : List (Option String × Document)}
    {P : List (String × Document) → Prop} :
    (∃ named : List (String × Document), (some name, d) :: rest = named.map (fun m => (some m.1, m.2)) ∧ P named) ↔
      ∃ named : List (String × Document), rest = named.map (fun m => (some m.1, m.2)) ∧ P ((name, d) :: named) := by
  constructor
  · rintro ⟨named, hm, h⟩
    cases named with
    | nil => cases hm
    | cons m named =>
      cases hm
      exact ⟨named, rfl, h⟩
  · rintro ⟨named, rfl, h⟩
    exact ⟨(name, d) :: named, rfl, h⟩

/-- A member more under a known name, which was not met before and does not come again. --/
theorem known_cons {names : List String} {before named given : List (String × Document)} {name : String}
    (hname : name ∈ names) (absent : before.lookup name = none) :
    ((((name, d) :: named).filter (·.1 ∈ names)).map (·.1)).Nodup ∧
        (∀ m ∈ (name, d) :: named, m.1 ∈ names → before.lookup m.1 = none) ∧
        given = (((name, d) :: named).filter (·.1 ∈ names)).reverse ++ before ↔
      ((named.filter (·.1 ∈ names)).map (·.1)).Nodup ∧
        (∀ m ∈ named, m.1 ∈ names → ((name, d) :: before).lookup m.1 = none) ∧
        given = (named.filter (·.1 ∈ names)).reverse ++ (name, d) :: before := by
  rw [List.filter_cons_of_pos (by simpa using hname), List.map_cons, List.nodup_cons, List.reverse_cons,
    List.append_assoc, List.singleton_append, List.forall_mem_cons]
  constructor
  · rintro ⟨⟨new, nodup⟩, ⟨-, fresh⟩, hg⟩
    refine ⟨nodup, fun m hm hk => ?_, hg⟩
    have other : m.1 ≠ name := by
      rintro rfl
      exact new (List.mem_map.mpr ⟨m, List.mem_filter.mpr ⟨hm, decide_eq_true hk⟩, rfl⟩)
    rw [Json.lookup_cons_name, if_neg other, fresh m hm hk]
  · rintro ⟨nodup, fresh, hg⟩
    have apart : ∀ m ∈ named, m.1 ∈ names → m.1 ≠ name ∧ before.lookup m.1 = none := by
      intro m hm hk
      have new := fresh m hm hk
      rw [Json.lookup_cons_name] at new
      split at new
      · cases new
      · rename_i other
        exact ⟨other, new⟩
    refine ⟨⟨fun again => ?_, nodup⟩, ⟨fun _ => absent, fun m hm hk => (apart m hm hk).2⟩, hg⟩
    obtain ⟨m, hm, hn⟩ := List.mem_map.mp again
    obtain ⟨hm, hk⟩ := List.mem_filter.mp hm
    exact (apart m hm (of_decide_eq_true hk)).1 hn

/-- The members that give the fields of a structure: every name is text, and no known one comes twice. --/
theorem knownMembers?_eq_some {names : List String} {members : List (Option String × Document)}
    {before given : List (String × Document)} : knownMembers? names before members = some given ↔
      ∃ named : List (String × Document), members = named.map (fun m => (some m.1, m.2)) ∧
        ((named.filter (·.1 ∈ names)).map (·.1)).Nodup ∧
        (∀ m ∈ named, m.1 ∈ names → before.lookup m.1 = none) ∧
        given = (named.filter (·.1 ∈ names)).reverse ++ before := by
  induction members generalizing before with
  | nil =>
    constructor
    · rintro ⟨⟩
      exact ⟨[], rfl, List.nodup_nil, fun _ hm => (nomatch hm), rfl⟩
    · rintro ⟨named, hm, -, -, rfl⟩
      cases List.map_eq_nil_iff.mp hm.symm
      rfl
  | cons m rest ih =>
    obtain ⟨name, d⟩ := m
    cases name with
    | none =>
      simp only [knownMembers?, reduceCtorEq, false_iff]
      rintro ⟨named, hm, -⟩
      cases named <;> simp at hm
    | some name =>
      rw [exists_named_cons]
      -- A known member joins those met before, so the rest is read with it among them; others leave no trace.
      by_cases hname : name ∈ names
      · cases absent : before.lookup name with
        | some taken =>
          simp only [knownMembers?, List.contains_iff_mem.mpr hname, if_true, absent, reduceCtorEq, false_iff]
          rintro ⟨named, -, -, fresh, -⟩
          have new := fresh (name, d) List.mem_cons_self hname
          rw [absent] at new
          cases new
        | none =>
          simp only [knownMembers?, List.contains_iff_mem.mpr hname, if_true, absent, ih, known_cons hname absent]
      · simp [knownMembers?, hname, ih]

theorem fields?_eq_some {names : List String} {f : Fields} : d.fields? names = some f ↔
    (∃ named : List (String × Document), d = .object (named.map fun m => (some m.1, m.2)) ∧
      ((named.filter (·.1 ∈ names)).map (·.1)).Nodup ∧ f = ⟨(named.filter (·.1 ∈ names)).reverse, false⟩) ∨
    ∃ items, d = .array items ∧ items.length ≤ names.length ∧ f = ⟨names.zip items, true⟩ := by
  cases d with
  | object members =>
    constructor
    · intro h
      obtain ⟨given, hg, rfl⟩ := Option.map_eq_some_iff.mp h
      obtain ⟨named, rfl, nodup, -, rfl⟩ := knownMembers?_eq_some.mp hg
      exact .inl ⟨named, rfl, nodup, by rw [List.append_nil]⟩
    · rintro (⟨named, hd, nodup, rfl⟩ | ⟨items, hd, -⟩)
      · cases hd
        have given : knownMembers? names [] (named.map fun m => (some m.1, m.2)) =
            some ((named.filter (·.1 ∈ names)).reverse ++ []) :=
          knownMembers?_eq_some.mpr ⟨named, rfl, nodup, fun _ _ _ => rfl, rfl⟩
        rw [List.append_nil] at given
        exact Option.map_eq_some_iff.mpr ⟨_, given, rfl⟩
      · cases hd
  | array items => simp [fields?, eq_comm]
  | null | bool | number | text => simp [fields?]

namespace Fields

variable {f : Fields} {name : String}

theorem required?_eq_some {x : α} :
    f.required? name read = some x ↔ ∃ d, f.given.lookup name = some d ∧ read d = some x :=
  Option.bind_eq_some_iff

theorem defaulted?_eq_some {default x : α} : f.defaulted? name default read = some x ↔
    f.given.lookup name = none ∧ default = x ∨ ∃ d, f.given.lookup name = some d ∧ read d = some x := by
  unfold defaulted?
  cases f.given.lookup name <;> simp

theorem optional?_eq_some {x : Option α} : f.optional? name read = some x ↔
    f.given.lookup name = none ∧ none = x ∨ ∃ d, f.given.lookup name = some d ∧ nullable? read d = some x :=
  defaulted?_eq_some

theorem placed?_eq_some {x : Option α} : f.placed? name read = some x ↔
    f.byPlace = false ∧ f.given.lookup name = none ∧ none = x ∨
      ∃ d, f.given.lookup name = some d ∧ nullable? read d = some x := by
  unfold placed?
  cases f.byPlace with
  | true => simp [required?_eq_some]
  | false => simp [optional?_eq_some]

end Fields
end Document

/-! ### Structures -/

variable {d : Document}

theorem RouteKey.ofDocument?_eq_some {key : RouteKey} : ofDocument? d = some key ↔
    ∃ f, d.fields? ["channel", "subtopic"] = some f ∧
      f.required? "channel" Document.text? = some key.channel ∧
      f.required? "subtopic" Document.text? = some key.subtopic := by
  cases key
  simp [ofDocument?, Option.bind_eq_some_iff]

theorem Attribute.ofDocument?_eq_some {a : Attribute} : ofDocument? d = some a ↔
    ∃ f, d.fields? ["name", "channel", "subtopic", "persistState"] = some f ∧
      f.required? "name" Document.text? = some a.name ∧
      f.required? "channel" Document.text? = some a.channel ∧
      f.required? "subtopic" Document.text? = some a.subtopic ∧
      f.required? "persistState" Document.bool? = some a.persisted := by
  cases a
  simp [ofDocument?, Option.bind_eq_some_iff, -Bool.exists_bool]

theorem Definition.ofDocument?_eq_some {definition : Definition} : ofDocument? d = some definition ↔
    ∃ f, d.fields? ["id", "created", "attributes"] = some f ∧
      f.required? "id" Document.unsigned? = some definition.id ∧
      f.required? "created" Document.instant? = some definition.created ∧
      f.required? "attributes" (Document.list? Attribute.ofDocument?) = some definition.attributes := by
  cases definition
  simp [ofDocument?, Option.bind_eq_some_iff]

theorem Twin.ofDocument?_eq_some {depth : Nat} {t : Twin} : ofDocument? depth d = some t ↔
    ∃ f, d.fields? ["id", "owner", "name", "metadata", "created", "updated", "revision", "definitions"] = some f ∧
      f.required? "id" Document.text? = some t.id ∧
      f.required? "owner" Document.text? = some t.owner ∧
      f.required? "name" Document.text? = some t.name ∧
      f.defaulted? "metadata" [] (Document.object? (depth - 1)) = some t.metadata ∧
      f.required? "created" Document.instant? = some t.created ∧
      f.required? "updated" Document.instant? = some t.updated ∧
      f.required? "revision" Document.unsigned? = some t.revision ∧
      f.required? "definitions" (Document.list? Definition.ofDocument?) = some t.definitions := by
  cases t
  simp [ofDocument?, Option.bind_eq_some_iff]

theorem State.ofDocument?_eq_some {depth : Nat} {s : State} : ofDocument? depth d = some s ↔
    ∃ f, d.fields? ["twinId", "id", "definition", "created", "payload"] = some f ∧
      f.required? "twinId" Document.text? = some s.twinId ∧
      f.required? "id" Document.unsigned? = some s.id ∧
      f.required? "definition" Document.unsigned? = some s.definition ∧
      f.required? "created" Document.instant? = some s.created ∧
      f.required? "payload" (Document.object? (depth - 1)) = some s.payload := by
  cases s
  simp [ofDocument?, Option.bind_eq_some_iff]

theorem Message.ofDocument?_eq_some {m : Message} : ofDocument? d = some m ↔
    ∃ f, d.fields? ["channel", "subtopic", "publisher", "payload", "created"] = some f ∧
      f.required? "channel" Document.text? = some m.channel ∧
      f.required? "subtopic" Document.text? = some m.subtopic ∧
      f.required? "publisher" Document.text? = some m.publisher ∧
      f.required? "payload" (Document.list? Document.byte?) = some m.payload ∧
      f.required? "created" Document.instant? = some m.created := by
  cases m
  simp [ofDocument?, Option.bind_eq_some_iff]

theorem Config.ofDocument?_eq_some {c : Config} : ofDocument? d = some c ↔
    ∃ f, d.fields? ["notifyChannel", "logDir", "logLevel"] = some f ∧
      f.placed? "notifyChannel" Document.text? = some c.notifyChannel ∧
      f.placed? "logDir" Document.text? = some c.logDir ∧
      f.placed? "logLevel" Document.text? = some c.logLevel := by
  cases c
  simp [ofDocument?, Option.bind_eq_some_iff]

theorem Senml.Record.ofDocument?_eq_some {r : Senml.Record} : ofDocument? d = some r ↔
    ∃ f, d.fields? labels = some f ∧
      f.optional? "bn" Document.text? = some r.baseName ∧
      f.optional? "bt" Document.float? = some r.baseTime ∧
      f.optional? "bu" Document.text? = some r.baseUnit ∧
      f.optional? "bv" Document.float? = some r.baseValue ∧
      f.optional? "bs" Document.float? = some r.baseSum ∧
      f.optional? "n" Document.text? = some r.name ∧
      f.optional? "u" Document.text? = some r.unit ∧
      f.optional? "v" Document.float? = some r.value ∧
      f.optional? "vs" Document.text? = some r.stringValue ∧
      f.optional? "vd" Document.text? = some r.dataValue ∧
      f.optional? "vb" Document.bool? = some r.boolValue ∧
      f.optional? "s" Document.float? = some r.sum ∧
      f.optional? "t" Document.float? = some r.time ∧
      f.optional? "ut" Document.float? = some r.updateTime := by
  constructor
  · intro h
    obtain ⟨f, hf, h⟩ := Option.bind_eq_some_iff.mp h
    obtain ⟨_, hbn, h⟩ := Option.bind_eq_some_iff.mp h
    obtain ⟨_, hbt, h⟩ := Option.bind_eq_some_iff.mp h
    obtain ⟨_, hbu, h⟩ := Option.bind_eq_some_iff.mp h
    obtain ⟨_, hbv, h⟩ := Option.bind_eq_some_iff.mp h
    obtain ⟨_, hbs, h⟩ := Option.bind_eq_some_iff.mp h
    obtain ⟨_, hn, h⟩ := Option.bind_eq_some_iff.mp h
    obtain ⟨_, hu, h⟩ := Option.bind_eq_some_iff.mp h
    obtain ⟨_, hv, h⟩ := Option.bind_eq_some_iff.mp h
    obtain ⟨_, hvs, h⟩ := Option.bind_eq_some_iff.mp h
    obtain ⟨_, hvd, h⟩ := Option.bind_eq_some_iff.mp h
    obtain ⟨_, hvb, h⟩ := Option.bind_eq_some_iff.mp h
    obtain ⟨_, hs, h⟩ := Option.bind_eq_some_iff.mp h
    obtain ⟨_, ht, h⟩ := Option.bind_eq_some_iff.mp h
    obtain ⟨_, hut, h⟩ := Option.bind_eq_some_iff.mp h
    obtain rfl := Option.some.inj h
    exact ⟨f, hf, hbn, hbt, hbu, hbv, hbs, hn, hu, hv, hvs, hvd, hvb, hs, ht, hut⟩
  · rintro ⟨f, hf, hbn, hbt, hbu, hbv, hbs, hn, hu, hv, hvs, hvd, hvb, hs, ht, hut⟩
    refine Option.bind_eq_some_iff.mpr ⟨f, hf, ?_⟩
    refine Option.bind_eq_some_iff.mpr ⟨_, hbn, ?_⟩
    refine Option.bind_eq_some_iff.mpr ⟨_, hbt, ?_⟩
    refine Option.bind_eq_some_iff.mpr ⟨_, hbu, ?_⟩
    refine Option.bind_eq_some_iff.mpr ⟨_, hbv, ?_⟩
    refine Option.bind_eq_some_iff.mpr ⟨_, hbs, ?_⟩
    refine Option.bind_eq_some_iff.mpr ⟨_, hn, ?_⟩
    refine Option.bind_eq_some_iff.mpr ⟨_, hu, ?_⟩
    refine Option.bind_eq_some_iff.mpr ⟨_, hv, ?_⟩
    refine Option.bind_eq_some_iff.mpr ⟨_, hvs, ?_⟩
    refine Option.bind_eq_some_iff.mpr ⟨_, hvd, ?_⟩
    refine Option.bind_eq_some_iff.mpr ⟨_, hvb, ?_⟩
    refine Option.bind_eq_some_iff.mpr ⟨_, hs, ?_⟩
    refine Option.bind_eq_some_iff.mpr ⟨_, ht, ?_⟩
    refine Option.bind_eq_some_iff.mpr ⟨_, hut, ?_⟩
    rfl

theorem PageInfo.ofFields?_eq_some {f : Document.Fields} {p : PageInfo} : ofFields? f = some p ↔
    f.required? "total" Document.unsigned? = some p.total ∧
      f.required? "offset" Document.unsigned? = some p.offset ∧
      f.required? "limit" Document.unsigned? = some p.limit := by
  cases p
  simp [ofFields?, Option.bind_eq_some_iff]

theorem PageInfo.ofDocument?_eq_some {p : PageInfo} :
    ofDocument? d = some p ↔ ∃ f, d.fields? labels = some f ∧ ofFields? f = some p :=
  Option.bind_eq_some_iff

/-- A page is an object, and what it has beside its fields has values. --/
theorem Page.ofDocument?_eq_some {α : Type} {label : String} {read : Document → Option α} {depth : Nat} {p : Page α} :
    ofDocument? label read depth d = some p ↔ ∃ members f values, d = .object members ∧
      d.fields? (label :: PageInfo.labels) = some f ∧
      Document.members? (depth - 1) [] (members.filter fun (name, _) => name != some label) = some values ∧
      PageInfo.ofFields? f = some p.info ∧ f.required? label (Document.list? read) = some p.items := by
  cases p
  cases d <;> simp [ofDocument?, Option.bind_eq_some_iff]

end DigitalTwin
