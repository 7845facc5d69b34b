import DigitalTwin.Proofs.JsonFields

/-! The forms of the data model. Whatever is read from a document, in any order of names, by place or with its fields
    absent, is read again from the form that it is written in. -/

namespace DigitalTwin
open Document

/-! ### Keys, definitions, twins, states and messages -/

theorem RouteKey.roundTrips : RoundTrips RouteKey.ofDocument? RouteKey.toJson := by
  intro d key h
  obtain ⟨f, -, hchannel, hsubtopic⟩ := ofDocument?_eq_some.mp h
  refine ofDocument?_eq_some.mpr (exists_fields? fun g w => ⟨?_, ?_⟩)
  · exact w.required text?_roundTrips hchannel (by simp) rfl
  · exact w.required text?_roundTrips hsubtopic (by simp) rfl

theorem Attribute.roundTrips : RoundTrips Attribute.ofDocument? Attribute.toJson := by
  intro d a h
  obtain ⟨f, -, hname, hchannel, hsubtopic, hpersisted⟩ := ofDocument?_eq_some.mp h
  refine ofDocument?_eq_some.mpr (exists_fields? fun g w => ⟨?_, ?_, ?_, ?_⟩)
  · exact w.required text?_roundTrips hname (by simp) rfl
  · exact w.required text?_roundTrips hchannel (by simp) rfl
  · exact w.required text?_roundTrips hsubtopic (by simp) rfl
  · exact w.required bool?_roundTrips hpersisted (by simp) rfl

theorem Definition.roundTrips : RoundTrips Definition.ofDocument? Definition.toJson := by
  intro d definition h
  obtain ⟨f, -, hid, hcreated, hattributes⟩ := ofDocument?_eq_some.mp h
  refine ofDocument?_eq_some.mpr (exists_fields? fun g w => ⟨?_, ?_, ?_⟩)
  · exact w.required unsigned?_roundTrips hid (by simp) rfl
  · exact w.required instant?_roundTrips hcreated (by simp) rfl
  · exact w.required (list?_roundTrips Attribute.roundTrips) hattributes (by simp) rfl

theorem Message.roundTrips : RoundTrips Message.ofDocument? Message.toJson := by
  intro d m h
  obtain ⟨f, -, hchannel, hsubtopic, hpublisher, hpayload, hcreated⟩ := ofDocument?_eq_some.mp h
  refine ofDocument?_eq_some.mpr (exists_fields? fun g w => ⟨?_, ?_, ?_, ?_, ?_⟩)
  · exact w.required text?_roundTrips hchannel (by simp) rfl
  · exact w.required text?_roundTrips hsubtopic (by simp) rfl
  · exact w.required text?_roundTrips hpublisher (by simp) rfl
  · exact w.required (list?_roundTrips byte?_roundTrips) hpayload (by simp) rfl
  · exact w.required instant?_roundTrips hcreated (by simp) rfl

theorem Twin.roundTrips (depth : Nat) : RoundTrips (Twin.ofDocument? (depth + 2)) Twin.toJson := by
  intro d t h
  obtain ⟨f, -, hid, howner, hname, hmetadata, hcreated, hupdated, hrevision, hdefinitions⟩ := ofDocument?_eq_some.mp h
  refine ofDocument?_eq_some.mpr (exists_fields? fun g w => ⟨?_, ?_, ?_, ?_, ?_, ?_, ?_, ?_⟩)
  · exact w.required text?_roundTrips hid (by simp) rfl
  · exact w.required text?_roundTrips howner (by simp) rfl
  · exact w.required text?_roundTrips hname (by simp) rfl
  · exact w.defaulted (object?_roundTrips _) rfl hmetadata (by simp) rfl
  · exact w.required instant?_roundTrips hcreated (by simp) rfl
  · exact w.required instant?_roundTrips hupdated (by simp) rfl
  · exact w.required unsigned?_roundTrips hrevision (by simp) rfl
  · exact w.required (list?_roundTrips Definition.roundTrips) hdefinitions (by simp) rfl

theorem State.roundTrips (depth : Nat) : RoundTrips (State.ofDocument? depth) State.toJson := by
  intro d s h
  obtain ⟨f, -, htwinId, hid, hdefinition, hcreated, hpayload⟩ := ofDocument?_eq_some.mp h
  refine ofDocument?_eq_some.mpr (exists_fields? fun g w => ⟨?_, ?_, ?_, ?_, ?_⟩)
  · exact w.required text?_roundTrips htwinId (by simp) rfl
  · exact w.required unsigned?_roundTrips hid (by simp) rfl
  · exact w.required unsigned?_roundTrips hdefinition (by simp) rfl
  · exact w.required instant?_roundTrips hcreated (by simp) rfl
  · exact w.required (object?_roundTrips _) hpayload (by simp) rfl

theorem Config.roundTrips : RoundTrips Config.ofDocument? Config.toJson := by
  intro d c _
  have again (x : Option String) : nullable? text? (Config.toJson.text x).toDocument = some x := by
    cases x with
    | none => rfl
    | some s => rfl
  refine ofDocument?_eq_some.mpr (exists_fields? fun g w => ⟨?_, ?_, ?_⟩)
  · exact w.placed again c.notifyChannel (by simp) rfl
  · exact w.placed again c.logDir (by simp) rfl
  · exact w.placed again c.logLevel (by simp) rfl

/-! ### Records -/

/-- The field of a value that may be absent. -/
@[simp] theorem lookup_labelled {α : Type} (name label : String) (x : Option α) (write : α → Json) :
    (x.map fun x => (label, write x)).toList.reverse.lookup name = if name = label then x.map write else none := by
  cases x with
  | none => simp
  | some x => simp [Json.lookup_cons_name]

@[simp] theorem Senml.Record.lookup_text (name label : String) (s : Option String) :
    (toJson.text label s).reverse.lookup name = if name = label then s.map Json.text else none :=
  lookup_labelled name label s Json.text

@[simp] theorem Senml.Record.lookup_float (name label : String) (x : Option Binary64) :
    (toJson.float label x).reverse.lookup name = if name = label then x.map Json.float else none :=
  lookup_labelled name label x Json.float

theorem Senml.Record.roundTrips : RoundTrips Senml.Record.ofDocument? Senml.Record.toJson := by
  intro d r _
  have texts (s : String) : nullable? text? (Json.text s).toDocument = some (some s) := rfl
  have floats (x : Binary64) : nullable? float? (Json.float x).toDocument = some (some x) := rfl
  have bools (b : Bool) : nullable? bool? (Json.bool b).toDocument = some (some b) := rfl
  refine ofDocument?_eq_some.mpr (exists_fields? fun g w => ⟨?_, ?_, ?_, ?_, ?_, ?_, ?_, ?_, ?_, ?_, ?_, ?_, ?_, ?_⟩)
  · exact w.optional texts r.baseName (by decide) (by simp [List.lookup_append])
  · exact w.optional floats r.baseTime (by decide) (by simp [List.lookup_append])
  · exact w.optional texts r.baseUnit (by decide) (by simp [List.lookup_append])
  · exact w.optional floats r.baseValue (by decide) (by simp [List.lookup_append])
  · exact w.optional floats r.baseSum (by decide) (by simp [List.lookup_append])
  · exact w.optional texts r.name (by decide) (by simp [List.lookup_append])
  · exact w.optional texts r.unit (by decide) (by simp [List.lookup_append])
  · exact w.optional floats r.value (by decide) (by simp [List.lookup_append])
  · exact w.optional texts r.stringValue (by decide) (by simp [List.lookup_append])
  · exact w.optional texts r.dataValue (by decide) (by simp [List.lookup_append])
  · exact w.optional bools r.boolValue (by decide) (by simp [List.lookup_append])
  · exact w.optional floats r.sum (by decide) (by simp [List.lookup_append])
  · exact w.optional floats r.time (by decide) (by simp [List.lookup_append])
  · exact w.optional floats r.updateTime (by decide) (by simp [List.lookup_append])

/-! ### Pages -/

theorem PageInfo.ofFields?_written {names : List String} {pairs : List (String × Json)} {f g : Fields} {p : PageInfo}
    (w : Written names pairs f) (h : PageInfo.ofFields? g = some p)
    (hlabels : ∀ name ∈ labels, name ∈ names ∧ pairs.reverse.lookup name = p.fields.reverse.lookup name) :
    PageInfo.ofFields? f = some p := by
  obtain ⟨htotal, hoffset, hlimit⟩ := ofFields?_eq_some.mp h
  obtain ⟨totalName, totalPair⟩ := hlabels "total" (by decide)
  obtain ⟨offsetName, offsetPair⟩ := hlabels "offset" (by decide)
  obtain ⟨limitName, limitPair⟩ := hlabels "limit" (by decide)
  refine ofFields?_eq_some.mpr ⟨?_, ?_, ?_⟩
  · exact w.required unsigned?_roundTrips htotal totalName totalPair
  · exact w.required unsigned?_roundTrips hoffset offsetName offsetPair
  · exact w.required unsigned?_roundTrips hlimit limitName limitPair

theorem PageInfo.roundTrips : RoundTrips PageInfo.ofDocument? PageInfo.toJson := by
  intro d p h
  obtain ⟨f, -, hf⟩ := ofDocument?_eq_some.mp h
  exact ofDocument?_eq_some.mpr (exists_fields? fun g w => ofFields?_written w hf fun name hname => ⟨hname, rfl⟩)

section
variable {α : Type} {label : String} {read : Document → Option α} {write : α → Json} {info : PageInfo}

theorem PageInfo.value?_of_mem {field : String × Json} (h : field ∈ info.fields) (depth : Nat) :
    field.1 ∈ labels ∧ field.2.toDocument.value? depth = some field.2 := by
  simp only [fields, List.mem_cons, List.not_mem_nil, or_false] at h
  rcases h with rfl | rfl | rfl
  · exact ⟨by simp [labels], rfl⟩
  · exact ⟨by simp [labels], rfl⟩
  · exact ⟨by simp [labels], rfl⟩

theorem PageInfo.lookup_labels {items : Json} {name : String} (h : name ∈ labels) :
    ((label, items) :: info.fields).reverse.lookup name = info.fields.reverse.lookup name := by
  simp only [labels, List.mem_cons, List.not_mem_nil, or_false] at h
  rcases h with rfl | rfl | rfl
  · rfl
  · rfl
  · rfl

theorem Page.lookup_items {items : Json} (hlabel : label ∉ PageInfo.labels) :
    ((label, items) :: info.fields).reverse.lookup label = some items := by
  have absent : info.fields.reverse.lookup label = none := List.lookup_eq_none_iff.mpr fun field hf => by
    have named := (PageInfo.value?_of_mem (List.mem_reverse.mp hf) 0).1
    simpa using fun heq : label = field.1 => hlabel (heq ▸ named)
  rw [List.reverse_cons, List.lookup_append, absent, Json.lookup_cons_name, if_pos rfl]
  rfl

/-- What stands beside the items of a page that was written has values. -/
theorem Page.exists_others {items : Json} {fields : JsonFields}
    (members : ∀ field ∈ fields, field ∈ (label, items) :: info.fields) (depth : Nat) :
    ∃ values, members? depth [] ((Json.fieldDocuments fields).filter fun (name, _) => name != some label) =
      some values := by
  refine exists_members? fun m hm => ?_
  obtain ⟨hm, hother⟩ := List.mem_filter.mp hm
  rw [Json.fieldDocuments_eq] at hm
  obtain ⟨field, hfield, rfl⟩ := List.mem_map.mp hm
  rcases List.mem_cons.mp (members field hfield) with rfl | hinfo
  · simp at hother
  · exact ⟨field.1, field.2, rfl, (PageInfo.value?_of_mem hinfo depth).2⟩

theorem Page.roundTrips {depth : Nat} (hlabel : label ∉ PageInfo.labels) (hr : RoundTrips read write) :
    RoundTrips (Page.ofDocument? label read depth) (Page.toJson label write) := by
  intro d p h
  obtain ⟨_, f, _, -, -, -, hinfo, hitems⟩ := ofDocument?_eq_some.mp h
  -- Beside its items a written page has nothing but three numbers, which always have values.
  let pairs := (label, Json.array (p.items.map write)) :: p.info.fields
  obtain ⟨fields, heq, -, -, members⟩ := Json.ofFields_eq pairs
  obtain ⟨g, hg, w⟩ := fields?_ofFields (label :: PageInfo.labels) pairs
  obtain ⟨values, hvalues⟩ := Page.exists_others members (depth - 1)
  have hdoc : (Page.toJson label write p).toDocument = .object (Json.fieldDocuments fields) := by
    rw [← Json.toDocument, ← heq]
    rfl
  refine ofDocument?_eq_some.mpr ⟨Json.fieldDocuments fields, g, values, hdoc, hg, hvalues, ?_, ?_⟩
  · exact PageInfo.ofFields?_written w hinfo fun name hname =>
      ⟨List.mem_cons_of_mem _ hname, PageInfo.lookup_labels hname⟩
  · exact w.required (list?_roundTrips hr) hitems List.mem_cons_self (Page.lookup_items hlabel)

end

/-! ### All forms -/

/-- A page in any order, with a twin in an array, a leap second away from universal time and years of more digits than
    four and before zero. -/
def lenientPage : Document :=
  .object [(some "limit", .number (some (.integer 18446744073709551615))), (some "next", .null),
    (some "twins", .array [.array [.text (some "t"), .text (some "o"), .text (some "n"),
      .object [(some "b", .number (some (.integer 1))), (some "a", .null), (some "b", .bool true)],
      .text (some "2016-12-31 23:59:60.25+00:30"), .text (some "+12000-1-1t0:0:0-09:00"),
      .number (some (.integer 1)),
      .array [.array [.number (some (.integer 2)), .text (some "-7-06-05T04:03:02.000001Z"), .array []]]]]),
    (some "offset", .number (some (.integer 0))), (some "total", .number (some (.integer 1)))]

/-- Every form of the data model that a document can be read as. -/
theorem forms_roundTrip :
    RoundTrips Senml.Record.ofDocument? Senml.Record.toJson ∧
    RoundTrips RouteKey.ofDocument? RouteKey.toJson ∧
    RoundTrips Attribute.ofDocument? Attribute.toJson ∧
    RoundTrips Definition.ofDocument? Definition.toJson ∧
    RoundTrips (Twin.ofDocument? depthLimit) Twin.toJson ∧
    RoundTrips (State.ofDocument? depthLimit) State.toJson ∧
    RoundTrips Message.ofDocument? Message.toJson ∧
    RoundTrips PageInfo.ofDocument? PageInfo.toJson ∧
    RoundTrips twinsPageOfDocument? twinsPageToJson ∧
    RoundTrips statesPageOfDocument? statesPageToJson ∧
    RoundTrips Config.ofDocument? Config.toJson := by
  refine ⟨Senml.Record.roundTrips, RouteKey.roundTrips, Attribute.roundTrips, Definition.roundTrips, Twin.roundTrips _,
    State.roundTrips _, Message.roundTrips, PageInfo.roundTrips, ?_, ?_, Config.roundTrips⟩
  · exact Page.roundTrips (by decide) (Twin.roundTrips _)
  · exact Page.roundTrips (by decide) (State.roundTrips _)

theorem forms_roundTrip_lenient_page : ∃ page, twinsPageOfDocument? lenientPage = some page ∧
    page.items.flatMap (fun t => (t.created :: t.updated :: t.definitions.map (·.created)).map (·.toText)) =
      ["2016-12-31T23:29:60.250Z", "+12000-01-01T09:00:00Z", "-0007-06-05T04:03:02.000001Z"] ∧
    twinsPageOfDocument? (twinsPageToJson page).toDocument = some page := by
  have read : (twinsPageOfDocument? lenientPage).map (fun page => page.items.flatMap fun t =>
      (t.created :: t.updated :: t.definitions.map (·.created)).map (·.toText)) =
      some ["2016-12-31T23:29:60.250Z", "+12000-01-01T09:00:00Z", "-0007-06-05T04:03:02.000001Z"] := by decide +kernel
  obtain ⟨page, hpage, texts⟩ := Option.map_eq_some_iff.mp read
  obtain ⟨-, -, -, -, -, -, -, -, twinsPage, -, -⟩ := forms_roundTrip
  exact ⟨page, hpage, texts, twinsPage _ page hpage⟩

end DigitalTwin
