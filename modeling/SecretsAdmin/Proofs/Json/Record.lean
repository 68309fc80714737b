import SecretsAdmin.Proofs.Json.Document

namespace SecretsAdmin.Json

/-!
# Reading printed records

A record is read from a printed object that has each of its members at most once and no required
one left out. The members may come in any order, and may be written by another schema.
-/

variable {Record α : Type}

/-! ## Codecs -/

/-- Whether what one codec writes is read by another, as another view of the value. -/
def Codec.Sees
    {β : Type}
    (reader : Codec β)
    (writer : Codec α)
    (view : α → β) :
    Prop :=
  ∀ value, Reads reader.read (writer.write value) (view value)

theorem Codec.sees_integer : Codec.integer.Sees Codec.integer id :=
  reads_integer

/-- A codec for a type that wraps another sees the wrapped values. -/
theorem Codec.Sees.wrap
    {β γ : Type}
    {reader : Codec β}
    {writer : Codec α}
    {view : α → β}
    (sees : reader.Sees writer view)
    (inside : γ → β)
    (make : β → γ) :
    (reader.wrap inside make).Sees writer (make ∘ view) := by
  intro value
  refine ⟨(sees value).begins, fun follows => ?_⟩
  simp only [Codec.wrap, (sees value).reads follows]
  rfl

theorem Codec.Sees.array
    {β : Type}
    {reader : Codec β}
    {writer : Codec α}
    {view : α → β}
    (sees : reader.Sees writer view) :
    reader.array.Sees writer.array (List.map view) := by
  intro values
  refine reads_array ?_
  induction values with
  | nil => exact .nil
  | cons first others inductionHypothesis => exact .cons (sees first) inductionHypothesis

/-! ## Members -/

/-- A member that a record is read from: its name, its value, and what becomes of the record. -/
structure Part (Record : Type) where
  name : String
  value : Json
  set : Record → Record

/-- The member as it stands in an object. -/
def Part.member (part : Part Record) : String × Json :=
  (part.name, part.value)

/-- Whether a member is the value of a field of a schema. -/
def Part.Fits
    (schema : Schema Record)
    (part : Part Record) :
    Prop :=
  ∃ field, schema.field? part.name = some field ∧ Reads field.read part.value part.set

theorem reads_field
    {codec : Codec α}
    {document : Json}
    {value : α}
    (reads : Reads codec.read document value)
    (name : String)
    (presence : Presence)
    (get : Record → α)
    (set : α → Record → Record) :
    Reads (Field.of name presence codec get set).read document (set value) := by
  refine ⟨reads.begins, fun follows => ?_⟩
  simp only [Field.of, reads.reads follows]
  rfl

/-- A member fits where the field of its name has a codec that reads its value. -/
theorem Part.Fits.of
    {schema : Schema Record}
    {part : Part Record}
    {name : String}
    {presence : Presence}
    {codec : Codec α}
    {get : Record → α}
    {set : α → Record → Record}
    {value : α}
    (found : schema.field? part.name = some (.of name presence codec get set))
    (reads : Reads codec.read part.value value)
    (same : part.set = set value) :
    part.Fits schema :=
  ⟨_, found, same ▸ reads_field reads name presence get set⟩

/-! ## Records -/

namespace Schema

variable {schema : Schema Record}

/-- The record in which members are set one after the other. -/
def fill
    (record : Record)
    (parts : List (Part Record)) :
    Record :=
  parts.foldl (fun record part => part.set record) record

/-- The reader of fields takes members that fit, if none of them was seen before. -/
private theorem takes_parts
    {parts : List (Part Record)}
    (fits : ∀ part ∈ parts, part.Fits schema)
    (draft : Draft Record)
    (distinct : (parts.map Part.name).Nodup)
    (unseen : ∀ part ∈ parts, part.name ∉ draft.seen) :
    Takes schema.readField
      (parts.map Part.member)
      draft
      ⟨fill draft.record parts, (parts.map Part.name).reverse ++ draft.seen⟩ := by
  induction parts generalizing draft with
  | nil => exact .nil
  | cons first others inductionHypothesis =>
      obtain ⟨firstDistinct, othersDistinct⟩ := List.nodup_cons.mp distinct
      obtain ⟨field, isField, reads⟩ := fits first List.mem_cons_self
      have next :=
        inductionHypothesis (fun part member => fits part (List.mem_cons_of_mem _ member))
          ⟨first.set draft.record, first.name :: draft.seen⟩ othersDistinct ?_
      · simp only [List.map_cons, List.reverse_cons, List.append_assoc, List.singleton_append]
        refine .cons (fun follows => ?_) next
        have notSeen : draft.seen.contains first.name = false := by
          simpa using unseen first List.mem_cons_self
        simp only [readField, isField, notSeen, readMember_print reads first.name follows]
        rfl
      · intro part member
        rw [List.mem_cons, not_or]
        refine ⟨?_, unseen part (List.mem_cons_of_mem _ member)⟩
        rintro isFirst
        exact firstDistinct (isFirst ▸ List.mem_map_of_mem member)

/-- A record is read from an object whose members fit, each once and no required one left out. -/
theorem reads_object
    (schema : Schema Record)
    (parts : List (Part Record))
    (fits : ∀ part ∈ parts, part.Fits schema)
    (distinct : (parts.map Part.name).Nodup)
    (complete :
      ∀ field ∈ schema.fields,
        field.presence = .required → field.name ∈ parts.map Part.name) :
    Reads schema.read (.object (parts.map Part.member)) (fill schema.blank parts) where
  begins := ⟨0x7B, _, encode_object _, rfl, by decide⟩
  reads {rest} _ := by
    have taken :=
      readMembers_printMembers
        (takes_parts fits ⟨schema.blank, []⟩ distinct fun _ _ => List.not_mem_nil) rest
    have nothingMissing :
        schema.missing?
          ⟨fill schema.blank parts, (parts.map Part.name).reverse ++ []⟩ = none := by
      rw [missing?, List.find?_eq_none]
      intro field isField
      have isThere := complete field isField
      simp only [Bool.and_eq_true, beq_iff_eq, Bool.not_eq_true', not_and, List.append_nil,
        Bool.not_eq_false, List.contains_iff_mem, List.mem_reverse]
      exact isThere
    rw [encode_object, List.cons_append, List.append_assoc]
    show schema.readObject (Utf8.encode (printMembers _) ++ 0x7D :: rest) = _
    rw [readObject, taken]
    simp only [bind, Except.bind, nothingMissing]
    rfl

end Schema

/-! ## Records that are read back -/

/--
Whether a field reads back what it wrote of a record, as a change of the record that is read. A
field that wrote nothing is not required, and is then not read.
-/
def Field.Restores
    (record : Record)
    (field : Field Record)
    (set : Record → Record) :
    Prop :=
  match field.write record with
  | some document => Reads field.read document set
  | none => field.presence ≠ .required ∧ set = id

theorem Field.Restores.of
    {codec : Codec α}
    (sees : codec.Sees codec id)
    {record : Record}
    {name : String}
    {presence : Presence}
    {get : Record → α}
    {set : α → Record → Record} :
    Field.Restores record (.of name presence codec get set) (set (get record)) :=
  reads_field (sees (get record)) name presence get set

/-- A field that is written only when it has a value restores the value. -/
theorem Field.Restores.omittable
    {codec : Codec α}
    {record : Record}
    {name : String}
    {presence : Presence}
    {get : Record → Option α}
    {set : Option α → Record → Record}
    {value : α}
    (reads : Reads (readOptional codec.read) (codec.write value) (some value))
    (written : get record = some value) :
    Field.Restores record (.omittable name presence codec get set) (set (some value)) := by
  unfold Field.Restores Field.omittable
  dsimp only
  rw [written]
  refine ⟨reads.begins, fun follows => ?_⟩
  simp only [Codec.optional, reads.reads follows]
  rfl

namespace Schema

/-- What fields write of a record are members that bring back what the fields restore. -/
private theorem exists_parts
    {record : Record}
    {fields : List (Field Record)}
    {sets : List (Record → Record)}
    (restores : List.Forall₂ (Field.Restores record) fields sets) :
    ∃ parts : List (Part Record),
      (parts.map Part.member =
          fields.filterMap fun field =>
            (field.write record).map fun value => (field.name, value)) ∧
        (∀ part ∈ parts, ∃ field ∈ fields, field.name = part.name ∧
          Reads field.read part.value part.set) ∧
        (parts.map Part.name).Sublist (fields.map Field.name) ∧
        (∀ field ∈ fields,
          field.presence = .required → field.name ∈ parts.map Part.name) ∧
        ∀ start, fill start parts = sets.foldl (fun record set => set record) start := by
  induction restores with
  | nil => exact ⟨[], rfl, nofun, .slnil, nofun, fun _ => rfl⟩
  | @cons field set fields sets restored others inductionHypothesis =>
      obtain ⟨parts, members, reads, sublist, complete, filled⟩ := inductionHypothesis
      unfold Field.Restores at restored
      cases written : field.write record with
      | none =>
          rw [written] at restored
          obtain ⟨notRequired, rfl⟩ := restored
          refine ⟨parts, ?_, fun part member => ?_, sublist.cons _, ?_, filled⟩
          · rw [members, List.filterMap_cons_none (by rw [written]; rfl)]
          · obtain ⟨other, isField, isRead⟩ := reads part member
            exact ⟨other, List.mem_cons_of_mem _ isField, isRead⟩
          · rw [List.forall_mem_cons]
            exact ⟨fun isRequired => absurd isRequired notRequired, complete⟩
      | some value =>
          rw [written] at restored
          refine ⟨⟨field.name, value, set⟩ :: parts, ?_, ?_, sublist.cons_cons _, ?_,
            fun start => filled (set start)⟩
          · rw [List.filterMap_cons_some (by rw [written]; rfl), List.map_cons, members]
            rfl
          · rw [List.forall_mem_cons]
            refine ⟨⟨field, List.mem_cons_self, rfl, restored⟩, fun part member => ?_⟩
            obtain ⟨other, isField, isRead⟩ := reads part member
            exact ⟨other, List.mem_cons_of_mem _ isField, isRead⟩
          · rw [List.forall_mem_cons]
            exact ⟨fun _ => List.mem_cons_self,
              fun other isField isRequired =>
                List.mem_cons_of_mem _ (complete other isField isRequired)⟩

/-- Among fields with different names, each is the one that its name finds. -/
theorem field?_eq_some
    {schema : Schema Record}
    (distinct : (schema.fields.map Field.name).Nodup)
    {field : Field Record}
    (isField : field ∈ schema.fields) :
    schema.field? field.name = some field := by
  unfold field?
  generalize schema.fields = fields at distinct isField
  induction fields with
  | nil => cases isField
  | cons first others inductionHypothesis =>
      obtain ⟨firstIsNew, othersDistinct⟩ := List.nodup_cons.mp distinct
      rcases List.mem_cons.mp isField with rfl | isOther
      · rw [List.find?_cons, beq_self_eq_true]
      · have differs : first.name ≠ field.name := fun sameName =>
          firstIsNew (sameName ▸ List.mem_map_of_mem isOther)
        rw [List.find?_cons, beq_eq_false_iff_ne.mpr differs]
        exact inductionHypothesis othersDistinct isOther

/-- A record is read back from what is written of it, if each of its fields restores it. -/
theorem reads_write
    (schema : Schema Record)
    {record : Record}
    {sets : List (Record → Record)}
    (restores : List.Forall₂ (Field.Restores record) schema.fields sets)
    (distinct : (schema.fields.map Field.name).Nodup)
    (restored : sets.foldl (fun record set => set record) schema.blank = record) :
    Reads schema.read (schema.write record) record := by
  obtain ⟨parts, members, reads, sublist, complete, filled⟩ := exists_parts restores
  have isRead :=
    schema.reads_object parts (fun part member => ?fits) (sublist.nodup distinct) complete
  case fits =>
    obtain ⟨field, isField, sameName, isRead⟩ := reads part member
    exact ⟨field, sameName ▸ field?_eq_some distinct isField, isRead⟩
  rw [filled, restored, members] at isRead
  exact isRead

end Schema

end SecretsAdmin.Json
