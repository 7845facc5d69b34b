import DigitalTwin.Json.Fields

/-! Values of documents. Fields stay sorted by name, and the document that stands for a value which was read is read as
    that value, within as many open containers. -/

namespace DigitalTwin
namespace Json

/-! ### Lookups -/

/-- Looking up a name behind one more entry. -/
theorem lookup_cons_name {β : Type} (name other : String) (b : β) (rest : List (String × β)) :
    ((name, b) :: rest).lookup other = if other = name then some b else rest.lookup other := by
  rw [List.lookup_cons]
  by_cases h : other = name
  · simp [h]
  · rw [beq_eq_false_iff_ne.mpr h, if_neg h]

/-- Among names that are all different, looking one up is membership. -/
theorem lookup_eq_some_iff_mem {β : Type} {name : String} {b : β} {l : List (String × β)} (hl : (l.map (·.1)).Nodup) :
    l.lookup name = some b ↔ (name, b) ∈ l := by
  induction l with
  | nil => simp
  | cons entry rest ih =>
    obtain ⟨other, kept⟩ := entry
    obtain ⟨new, hrest⟩ := List.nodup_cons.mp hl
    rw [lookup_cons_name, List.mem_cons, Prod.mk.injEq]
    by_cases h : name = other
    · subst h
      have once : (name, b) ∉ rest := fun hb => new (List.mem_map.mpr ⟨(name, b), hb, rfl⟩)
      simp [once, eq_comm]
    · simp [h, ih hrest]

theorem field?_cons {name other : String} {value : Json} {rest : JsonFields} :
    field? other ((name, value) :: rest) = if other = name then some value else field? other rest :=
  lookup_cons_name name other value rest

/-- Setting a field changes that field and no other. --/
theorem field?_insertField {name other : String} {value : Json} : ∀ {fields : JsonFields},
    field? other (insertField name value fields) = if other = name then some value else field? other fields
  | [] => field?_cons
  | (k, v) :: rest => by
    have ih : field? other (insertField name value rest) = if other = name then some value else field? other rest :=
      field?_insertField
    unfold insertField
    by_cases hk : name = k
    · subst hk
      rw [if_pos rfl, field?_cons, field?_cons]
      split <;> rfl
    · rw [if_neg hk]
      split
      · exact field?_cons
      · rw [field?_cons, ih, field?_cons]
        by_cases h : other = k
        · subst h
          simp [Ne.symm hk]
        · simp [h]

/-! ### Sorted fields -/

/-- Fields in the order of their names, one field a name. -/
def Sorted (fields : JsonFields) : Prop := fields.Pairwise fun a b => a.1 < b.1

theorem Sorted.nodup {fields : JsonFields} (h : Sorted fields) : (fields.map (·.1)).Nodup :=
  List.pairwise_map.mpr (List.Pairwise.imp String.ne_of_lt h)

theorem mem_insertField {name : String} {value : Json} {field : String × Json} : ∀ {fields : JsonFields},
    field ∈ insertField name value fields → field = (name, value) ∨ field ∈ fields
  | [], h => .inl (List.mem_singleton.mp h)
  | (other, kept) :: rest, h => by
    unfold insertField at h
    split at h
    · rcases List.mem_cons.mp h with h | h
      · exact .inl h
      · exact .inr (List.mem_cons_of_mem _ h)
    · split at h
      · exact List.mem_cons.mp h
      · rcases List.mem_cons.mp h with h | h
        · exact .inr (h ▸ List.mem_cons_self)
        · exact (mem_insertField h).imp_right (List.mem_cons_of_mem _)

theorem sorted_insertField {name : String} {value : Json} : ∀ {fields : JsonFields}, Sorted fields →
    Sorted (insertField name value fields)
  | [], _ => List.pairwise_singleton _ _
  | (other, kept) :: rest, h => by
    obtain ⟨first, sorted⟩ := List.pairwise_cons.mp h
    unfold insertField
    split
    · rename_i heq
      exact List.pairwise_cons.mpr ⟨fun field hf => heq ▸ first field hf, sorted⟩
    · rename_i hne
      split
      · rename_i hlt
        refine List.pairwise_cons.mpr ⟨fun field hf => ?_, h⟩
        rcases List.mem_cons.mp hf with rfl | hf
        · exact hlt
        · exact String.lt_trans hlt (first field hf)
      · rename_i hle
        have after : other < name := Decidable.byContradiction fun hnot =>
          hne (String.le_antisymm (String.not_lt.mp hnot) (String.not_lt.mp hle))
        refine List.pairwise_cons.mpr ⟨fun field hf => ?_, sorted_insertField sorted⟩
        rcases mem_insertField hf with rfl | hf
        · exact after
        · exact first field hf

/-- A field behind all others. -/
theorem insertField_eq_concat {name : String} {value : Json} : ∀ {fields : JsonFields},
    (∀ field ∈ fields, field.1 < name) → insertField name value fields = fields ++ [(name, value)]
  | [], _ => rfl
  | (other, kept) :: rest, h => by
    have before : other < name := h _ List.mem_cons_self
    have ih : insertField name value rest = rest ++ [(name, value)] :=
      insertField_eq_concat fun field hf => h field (List.mem_cons_of_mem _ hf)
    unfold insertField
    have notSame : name ≠ other := fun heq => String.lt_irrefl _ (heq ▸ before)
    have notAfter : ¬ name < other := fun hlt => String.lt_irrefl _ (String.lt_trans hlt before)
    rw [if_neg notSame, if_neg notAfter, ih]
    rfl

/-! ### Documents of fields -/

theorem fieldDocuments_eq : ∀ fields : JsonFields,
    fieldDocuments fields = fields.map fun field => (some field.1, field.2.toDocument)
  | [] => rfl
  | (name, value) :: rest => by
    rw [fieldDocuments, fieldDocuments_eq rest]
    rfl

end Json

namespace Document
open Json

/-! ### Reading values again -/

/-- Fields that were read: sorted, and each with a value that is read again. -/
structure Reread (depth : Nat) (fields : JsonFields) : Prop where
  sorted : Sorted fields
  values : ∀ field ∈ fields, field.2.toDocument.value? depth = some field.2

theorem Reread.nil {depth : Nat} : Reread depth [] := ⟨List.Pairwise.nil, by simp⟩

theorem Reread.insertField {depth : Nat} {fields : JsonFields} {name : String} {value : Json} (h : Reread depth fields)
    (hv : value.toDocument.value? depth = some value) : Reread depth (insertField name value fields) := by
  refine ⟨sorted_insertField h.sorted, fun field hf => ?_⟩
  rcases mem_insertField hf with rfl | hf
  · exact hv
  · exact h.values field hf

/-- Sorted fields are read in their order. -/
theorem members?_fieldDocuments {depth : Nat} : ∀ {before fields : JsonFields}, Reread depth (before ++ fields) →
    members? depth before (fieldDocuments fields) = some (before ++ fields)
  | before, [], _ => by
    rw [List.append_nil]
    rfl
  | before, (name, value) :: rest, h => by
    have hv : value.toDocument.value? depth = some value := h.values (name, value) (by simp)
    have first : ∀ field ∈ before, field.1 < name := fun field hf =>
      (List.pairwise_append.mp h.sorted).2.2 field hf (name, value) List.mem_cons_self
    have shifted : before ++ (name, value) :: rest = (before ++ [(name, value)]) ++ rest := by simp
    rw [shifted] at h ⊢
    simp only [fieldDocuments, members?, hv, insertField_eq_concat first]
    exact members?_fieldDocuments h

/-- Members are read if each has a name and a value. -/
theorem exists_members? {depth : Nat} : ∀ {before : JsonFields} {members : List (Option String × Document)},
    (∀ m ∈ members, ∃ name v, m.1 = some name ∧ m.2.value? depth = some v) →
    ∃ fields, members? depth before members = some fields
  | before, [], _ => ⟨before, rfl⟩
  | before, (_, d) :: rest, h => by
    obtain ⟨name, v, rfl, hv⟩ := h _ List.mem_cons_self
    simp only [members?, hv]
    exact exists_members? fun m hm => h m (List.mem_cons_of_mem _ hm)

-- The induction is on documents. Fields are read onto those before them, which are `Reread` already; at the end all are
-- sorted, so reading them again puts each behind the others.

mutual

theorem value?_toDocument : ∀ {depth : Nat} {d : Document} {v : Json}, d.value? depth = some v →
    v.toDocument.value? depth = some v
  | _, .null, _, h => by
    cases h
    rfl
  | _, .bool _, _, h => by
    cases h
    rfl
  | _, .number _, _, h => by
    obtain ⟨n, -, rfl⟩ := Option.map_eq_some_iff.mp h
    rfl
  | _, .text _, _, h => by
    obtain ⟨s, -, rfl⟩ := Option.map_eq_some_iff.mp h
    rfl
  | depth + 1, .array _, _, h => by
    obtain ⟨vs, hvs, rfl⟩ := Option.map_eq_some_iff.mp h
    simp [toDocument, value?, items?_itemDocuments hvs]
  | depth + 1, .object _, _, h => by
    obtain ⟨fields, hfields, rfl⟩ := Option.map_eq_some_iff.mp h
    have again : members? depth [] (fieldDocuments fields) = some fields :=
      members?_fieldDocuments (members?_reread Reread.nil hfields)
    simp [toDocument, value?, again]

theorem items?_itemDocuments : ∀ {depth : Nat} {items : List Document} {vs : List Json},
    items? depth items = some vs → items? depth (itemDocuments vs) = some vs
  | _, [], _, h => by
    cases h
    rfl
  | depth, d :: rest, _, h => by
    unfold items? at h
    split at h
    · contradiction
    · rename_i v hv
      obtain ⟨vs, hvs, rfl⟩ := Option.map_eq_some_iff.mp h
      simp [itemDocuments, items?, value?_toDocument hv, items?_itemDocuments hvs]

theorem members?_reread : ∀ {depth : Nat} {before : JsonFields} {members : List (Option String × Document)}
    {fields : JsonFields}, Reread depth before → members? depth before members = some fields → Reread depth fields
  | _, _, [], _, hb, h => by
    cases h
    exact hb
  | depth, before, (name, d) :: rest, _, hb, h => by
    unfold members? at h
    split at h
    · rename_i v hv
      exact members?_reread (hb.insertField (value?_toDocument hv)) h
    · contradiction

end

theorem object?_toDocument {depth : Nat} {d : Document} {fields : JsonFields} (h : d.object? depth = some fields) :
    (Json.object fields).toDocument.object? depth = some fields := by
  unfold object? at h
  split at h
  · rename_i fields' hv
    obtain rfl := Option.some.inj h
    unfold object?
    rw [value?_toDocument hv]
  · contradiction

end Document
end DigitalTwin
