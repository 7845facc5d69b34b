import DigitalTwin.Proofs.InstantText
import DigitalTwin.Proofs.Readers

/-! Structures that are read again from what they are written as. A structure is written as an object, so its fields are
    told apart by name, whatever form they were read from; each rule for reading a field gives back the value that was
    written under its name. -/

namespace DigitalTwin

/-- What was read is read again from the form that it is written in. -/
def RoundTrips {α : Type} (read : Document → Option α) (write : α → Json) : Prop :=
  ∀ d x, read d = some x → read (write x).toDocument = some x

namespace Json

/-- The fields of an object that is put together are sorted, the last field of each name. -/
theorem ofFields_eq (pairs : List (String × Json)) : ∃ fields, ofFields pairs = .object fields ∧ Sorted fields ∧
    (∀ name, fields.lookup name = pairs.reverse.lookup name) ∧ ∀ field ∈ fields, field ∈ pairs := by
  induction pairs using List.reverseRecOn with
  | nil => exact ⟨[], rfl, List.Pairwise.nil, fun _ => rfl, by simp⟩
  | append_singleton pairs pair ih =>
    obtain ⟨fields, heq, sorted, lookups, members⟩ := ih
    refine ⟨insertField pair.1 pair.2 fields, ?_, sorted_insertField sorted, fun name => ?_, fun field hf => ?_⟩
    · have hfold := Json.object.inj heq
      simp only [ofFields, List.foldl_append, hfold]
      rfl
    · have inserted : (insertField pair.1 pair.2 fields).lookup name =
          if name = pair.1 then some pair.2 else fields.lookup name := field?_insertField
      rw [inserted, lookups, List.reverse_concat]
      exact field?_cons.symm
    · rcases mem_insertField hf with rfl | hf
      · simp
      · exact List.mem_append_left _ (members field hf)

end Json

namespace Document
open Json

variable {α : Type} {read : Document → Option α} {write : α → Json}

/-! ### Values without fields -/

theorem text?_roundTrips : RoundTrips text? Json.text := fun _ _ _ => rfl

theorem bool?_roundTrips : RoundTrips bool? Json.bool := fun _ _ _ => rfl

theorem unsigned?_roundTrips : RoundTrips unsigned? fun n => Json.integer n := by
  intro d n h
  obtain ⟨-, word⟩ := unsigned?_eq_some.mp h
  exact unsigned?_eq_some.mpr ⟨rfl, word⟩

theorem byte?_roundTrips : RoundTrips byte? fun b => Json.integer b.toNat := fun _ _ _ => byte?_eq_some.mpr rfl

theorem instant?_roundTrips : RoundTrips instant? Instant.toJson := by
  intro d t h
  obtain ⟨text, -, ht⟩ := instant?_eq_some.mp h
  exact instant?_eq_some.mpr ⟨t.toText, rfl, (Instant.wellTimed_of_ofText? ht).ofText?_toText⟩

theorem object?_roundTrips (depth : Nat) : RoundTrips (object? depth) Json.object := fun _ _ h => object?_toDocument h

theorem list?_roundTrips (hr : RoundTrips read write) : RoundTrips (list? read) fun xs => .array (xs.map write) := by
  intro d xs h
  obtain ⟨items, -, hitems⟩ := list?_eq_some.mp h
  refine list?_eq_some.mpr ⟨itemDocuments (xs.map write), rfl, ?_⟩
  clear h
  induction hitems with
  | nil => exact .nil
  | cons hd _ ih => exact .cons (hr _ _ hd) ih

/-! ### Fields that are written -/

/-- The fields that a structure is read with from the object that it is written as. -/
structure Written (names : List String) (pairs : List (String × Json)) (f : Fields) : Prop where
  byName : f.byPlace = false
  given : ∀ name ∈ names, f.given.lookup name = (pairs.reverse.lookup name).map toDocument

/-- The object that a structure is written as has sorted names, so no known one comes twice. -/
theorem fields?_ofFields (names : List String) (pairs : List (String × Json)) :
    ∃ f, (Json.ofFields pairs).toDocument.fields? names = some f ∧ Written names pairs f := by
  obtain ⟨fields, heq, sorted, lookups, -⟩ := ofFields_eq pairs
  let named : List (String × Document) := fields.map fun field => (field.1, field.2.toDocument)
  have distinct : (named.map (·.1)).Nodup := by
    rw [List.map_map]
    exact Sorted.nodup sorted
  have known : ((named.filter (·.1 ∈ names)).map (·.1)).Nodup := distinct.sublist (List.filter_sublist.map _)
  have members : (Json.object fields).toDocument = .object (named.map fun m => (some m.1, m.2)) := by
    rw [toDocument, fieldDocuments_eq, List.map_map]
    rfl
  refine ⟨⟨(named.filter (·.1 ∈ names)).reverse, false⟩, ?_, rfl, fun name hname => Option.ext fun d => ?_⟩
  · rw [heq]
    exact fields?_eq_some.mpr (.inl ⟨named, members, known, rfl⟩)
  · have reversed : (((named.filter (·.1 ∈ names)).reverse).map (·.1)).Nodup := by
      rw [List.map_reverse]
      exact (List.reverse_perm _).symm.nodup known
    rw [← lookups name, lookup_eq_some_iff_mem reversed, Option.map_eq_some_iff]
    simp [lookup_eq_some_iff_mem (Sorted.nodup sorted), named, hname]

/-- What holds of the fields that were written holds of those that the object is read with. -/
theorem exists_fields? {names : List String} {pairs : List (String × Json)} {P : Fields → Prop}
    (h : ∀ f, Written names pairs f → P f) : ∃ f, (Json.ofFields pairs).toDocument.fields? names = some f ∧ P f := by
  obtain ⟨f, hf, written⟩ := fields?_ofFields names pairs
  exact ⟨f, hf, h f written⟩

namespace Written
variable {names : List String} {pairs : List (String × Json)} {f g : Fields} {name : String}

theorem required (w : Written names pairs f) (hr : RoundTrips read write) {x : α} (hx : g.required? name read = some x)
    (hname : name ∈ names) (hpair : pairs.reverse.lookup name = some (write x)) : f.required? name read = some x := by
  obtain ⟨d, -, hd⟩ := Fields.required?_eq_some.mp hx
  refine Fields.required?_eq_some.mpr ⟨(write x).toDocument, ?_, hr d x hd⟩
  rw [w.given name hname, hpair, Option.map_some]

theorem defaulted (w : Written names pairs f) (hr : RoundTrips read write) {default x : α}
    (hdefault : read (write default).toDocument = some default) (hx : g.defaulted? name default read = some x)
    (hname : name ∈ names) (hpair : pairs.reverse.lookup name = some (write x)) :
    f.defaulted? name default read = some x := by
  have again : read (write x).toDocument = some x := by
    obtain ⟨-, rfl⟩ | ⟨d, -, hd⟩ := Fields.defaulted?_eq_some.mp hx
    · exact hdefault
    · exact hr d x hd
  refine Fields.defaulted?_eq_some.mpr (.inr ⟨(write x).toDocument, ?_, again⟩)
  rw [w.given name hname, hpair, Option.map_some]

/-- A field that is left out while its value is absent. -/
theorem optional (w : Written names pairs f) (hr : ∀ x, nullable? read (write x).toDocument = some (some x))
    (x : Option α) (hname : name ∈ names) (hpair : pairs.reverse.lookup name = x.map write) :
    f.optional? name read = some x := by
  have given := w.given name hname
  rw [hpair] at given
  cases x with
  | none => exact Fields.optional?_eq_some.mpr (.inl ⟨given, rfl⟩)
  | some x => exact Fields.optional?_eq_some.mpr (.inr ⟨_, given, hr x⟩)

/-- A field that is written as `null` while its value is absent. -/
theorem placed (w : Written names pairs f) {writeNullable : Option α → Json}
    (hr : ∀ x, nullable? read (writeNullable x).toDocument = some x) (x : Option α) (hname : name ∈ names)
    (hpair : pairs.reverse.lookup name = some (writeNullable x)) : f.placed? name read = some x := by
  refine Fields.placed?_eq_some.mpr (.inr ⟨(writeNullable x).toDocument, ?_, hr x⟩)
  rw [w.given name hname, hpair, Option.map_some]

end Written

end Document

end DigitalTwin
