import Mathlib.Data.List.Nodup
import SecretsAdmin.Proofs.Json.Assembly

namespace SecretsAdmin.Json

/-!
# Records that objects describe

A table of columns says which members describe a record: how the value of a member is written,
and what the absence of the member means. An object whose members all suit their columns
describes one record, and a schema that reflects the table reads this record.
-/

variable {Record : Type}

/-- A member that describes a part of a record. -/
structure Column (Record : Type) where
  name : String
  /-- The values of the part. -/
  Value : Type
  /-- Whether characters write a value. -/
  Spells : List Char → Value → Prop
  /-- The value that the absence of the member means; without one it must be there. -/
  absence : Option Value
  get : Record → Value

/-- A column that must be there. -/
def Column.required
    {Value : Type}
    (name : String)
    (Spells : List Char → Value → Prop)
    (get : Record → Value) :
    Column Record :=
  ⟨name, Value, Spells, none, get⟩

/-- A column that may be left out. -/
def Column.defaulted
    {Value : Type}
    (name : String)
    (Spells : List Char → Value → Prop)
    (absence : Value)
    (get : Record → Value) :
    Column Record :=
  ⟨name, Value, Spells, some absence, get⟩

/-- The values of the members with a name, in order. -/
def valuesOf
    (members : List Member)
    (name : String) :
    List (List Char) :=
  (members.filter fun member => member.name == name).map (·.value)

namespace Column

/--
Whether members give a column a value: the only one with its name does, or there is none and its
absence means the value.
-/
def Gets
    (column : Column Record)
    (members : List Member)
    (value : column.Value) :
    Prop :=
  match valuesOf members column.name with
  | [] => column.absence = some value
  | [written] => column.Spells written value
  | _ => False

/-- Whether a member is missing that must be there. -/
def IsLacking
    (column : Column Record)
    (members : List Member) :
    Prop :=
  column.absence = none ∧ valuesOf members column.name = []

/-- Whether there are several members for a column. -/
def IsRepeated
    (column : Column Record)
    (members : List Member) :
    Prop :=
  2 ≤ (valuesOf members column.name).length

end Column

/-- Whether members describe a record: every column gets its part of the record. -/
def Describes
    (columns : List (Column Record))
    (members : List Member)
    (record : Record) :
    Prop :=
  ∀ column ∈ columns, column.Gets members (column.get record)

/-- Whether characters are an object that describes a record. -/
def SpellsRecord
    (columns : List (Column Record))
    (written : List Char)
    (record : Record) :
    Prop :=
  ∃ members, IsObject written members ∧ Describes columns members record

/-! ## Schemas -/

/--
Whether a field reads what a column says, with a setter that changes the part of the column and
of no other one.
-/
structure Field.Suits
    (columns : List (Column Record))
    (field : Field Record)
    (column : Column Record)
    (set : column.Value → Record → Record) :
    Prop where
  sameName : field.name = column.name
  samePresence : field.presence = .required ↔ column.absence = none
  isDecisive : IsDecisive field.read
  decides :
    ∀ written value, column.Spells written value →
      Decides field.read written (some (set value))
  gets : ∀ value record, column.get (set value record) = value
  keeps :
    ∀ other ∈ columns, other.name ≠ column.name →
      ∀ value record, other.get (set value record) = other.get record

/-- Whether the fields of a schema are those of a table, with which records are told apart. -/
structure Schema.Reflects
    (schema : Schema Record)
    (columns : List (Column Record)) :
    Prop where
  suits :
    List.Forall₂ (fun field column => ∃ set, Field.Suits columns field column set)
      schema.fields columns
  distinct : (columns.map Column.name).Nodup
  blank : ∀ column ∈ columns, ∀ value, column.absence = some value →
    column.get schema.blank = value
  ext : ∀ left right : Record,
    (∀ column ∈ columns, column.get left = column.get right) → left = right

namespace Schema.Reflects

variable {schema : Schema Record} {columns : List (Column Record)}

/-- The field of a column is found by its name. -/
theorem exists_field
    (reflects : schema.Reflects columns)
    {column : Column Record}
    (isColumn : column ∈ columns) :
    ∃ field set,
      schema.field? column.name = some field ∧ field ∈ schema.fields ∧
        Field.Suits columns field column set := by
  have sameNames : schema.fields.map Field.name = columns.map Column.name := by
    refine List.forall₂_eq_eq_eq ▸ List.forall₂_map_left_iff.mpr
      (List.forall₂_map_right_iff.mpr (reflects.suits.imp fun _ _ ⟨_, suits⟩ => suits.sameName))
  obtain ⟨field, isField, set, suits⟩ := exists_of_forall₂ reflects.suits.flip isColumn
  exact ⟨field, set,
    suits.sameName ▸ field?_eq_some (sameNames ▸ reflects.distinct) isField, isField, suits⟩

/-- What a name finds is the field of a column. -/
theorem exists_column
    (reflects : schema.Reflects columns)
    {name : String}
    {field : Field Record}
    (found : schema.field? name = some field) :
    ∃ column ∈ columns, ∃ set, column.name = name ∧ Field.Suits columns field column set := by
  obtain ⟨column, isColumn, set, suits⟩ :=
    exists_of_forall₂ reflects.suits (List.mem_of_find?_eq_some found)
  have sameName : field.name = name := by simpa using List.find?_some found
  exact ⟨column, isColumn, set, suits.sameName ▸ sameName, suits⟩

theorem areDecisive
    (reflects : schema.Reflects columns) :
    ∀ field ∈ schema.fields, IsDecisive field.read := by
  intro field isField
  obtain ⟨column, -, set, suits⟩ := exists_of_forall₂ reflects.suits isField
  exact suits.isDecisive

private theorem valuesOf_cons_self (member : Member) (members : List Member) :
    valuesOf (member :: members) member.name = member.value :: valuesOf members member.name := by
  rw [valuesOf, List.filter_cons_of_pos (by simp)]
  rfl

private theorem valuesOf_cons_of_ne
    {member : Member}
    {name : String}
    (differs : member.name ≠ name)
    (members : List Member) :
    valuesOf (member :: members) name = valuesOf members name := by
  rw [valuesOf, List.filter_cons_of_neg (by simpa using differs)]
  rfl

/-! ## Described records are read -/

/--
What holds of a column while a draft is assembled into a record: once it is seen there is no
member left for it, and until then the members that are left give it its part.
-/
private def IsOnCourse
    (schema : Schema Record)
    (record : Record)
    (members : List Member)
    (draft : Draft Record)
    (column : Column Record) :
    Prop :=
  if column.name ∈ draft.seen then
    valuesOf members column.name = [] ∧ column.get draft.record = column.get record
  else
    column.Gets members (column.get record) ∧
      column.get draft.record = column.get schema.blank

/-- A member that no column has keeps all columns on course. -/
private theorem IsOnCourse.unknown
    (reflects : schema.Reflects columns)
    {record : Record}
    {member : Member}
    {members : List Member}
    {draft : Draft Record}
    (isUnknown : schema.field? member.name = none)
    {column : Column Record}
    (isColumn : column ∈ columns)
    (isOnCourse : IsOnCourse schema record (member :: members) draft column) :
    IsOnCourse schema record members draft column := by
  have differs : member.name ≠ column.name := by
    intro sameName
    obtain ⟨field, set, isFound, -⟩ := reflects.exists_field isColumn
    rw [← sameName, isUnknown] at isFound
    cases isFound
  unfold IsOnCourse Column.Gets at isOnCourse ⊢
  rwa [valuesOf_cons_of_ne differs] at isOnCourse

/-- On course, a member of a column is the only one of its name, and writes its part. -/
private theorem IsOnCourse.known
    {record : Record}
    {member : Member}
    {members : List Member}
    {draft : Draft Record}
    {column : Column Record}
    (sameName : column.name = member.name)
    (isOnCourse : IsOnCourse schema record (member :: members) draft column) :
    member.name ∉ draft.seen ∧ valuesOf members member.name = [] ∧
      column.Spells member.value (column.get record) := by
  unfold IsOnCourse Column.Gets at isOnCourse
  rw [sameName, valuesOf_cons_self] at isOnCourse
  by_cases isSeen : member.name ∈ draft.seen
  · rw [if_pos isSeen] at isOnCourse
    cases isOnCourse.1
  · rw [if_neg isSeen] at isOnCourse
    cases others : valuesOf members member.name with
    | nil =>
        rw [others] at isOnCourse
        exact ⟨isSeen, rfl, isOnCourse.1⟩
    | cons second more =>
        rw [others] at isOnCourse
        exact isOnCourse.1.elim

/-- Columns stay on course with every member. -/
private theorem exists_turn
    (reflects : schema.Reflects columns)
    {record : Record}
    {member : Member}
    {members : List Member}
    {draft : Draft Record}
    (onCourse : ∀ column ∈ columns, IsOnCourse schema record (member :: members) draft column) :
    ∃ next,
      schema.turn draft member = some next ∧
        ∀ column ∈ columns, IsOnCourse schema record members next column := by
  unfold turn
  cases found : schema.field? member.name with
  | none =>
      exact ⟨draft, rfl, fun column isColumn =>
        (onCourse column isColumn).unknown reflects found isColumn⟩
  | some field =>
      obtain ⟨column, isColumn, set, sameName, suits⟩ := reflects.exists_column found
      obtain ⟨notSeen, others, spells⟩ := (onCourse column isColumn).known sameName
      have read := (suits.decides _ _ spells).alone
      have isNew : draft.seen.contains member.name = false := by simpa using notSeen
      dsimp only
      rw [isNew, read]
      refine ⟨_, rfl, fun other isOther => ?_⟩
      have isOnCourse := onCourse other isOther
      unfold IsOnCourse Column.Gets at isOnCourse ⊢
      by_cases isSame : other.name = member.name
      · obtain rfl : other = column :=
          List.inj_on_of_nodup_map reflects.distinct isOther isColumn
            (isSame.trans sameName.symm)
        rw [isSame, if_pos List.mem_cons_self]
        exact ⟨others, suits.gets _ _⟩
      · rw [valuesOf_cons_of_ne (Ne.symm isSame)] at isOnCourse
        simp only [List.mem_cons, isSame, false_or]
        rwa [suits.keeps other isOther (sameName ▸ isSame)]

/-- All members together leave a draft that is the record. -/
private theorem exists_foldlM_turn
    (reflects : schema.Reflects columns)
    {record : Record}
    {members : List Member}
    (draft : Draft Record)
    (onCourse : ∀ column ∈ columns, IsOnCourse schema record members draft column) :
    ∃ final,
      members.foldlM schema.turn draft = some final ∧
        ∀ column ∈ columns, IsOnCourse schema record [] final column := by
  induction members generalizing draft with
  | nil => exact ⟨draft, rfl, onCourse⟩
  | cons member members inductionHypothesis =>
      obtain ⟨next, turned, areNext⟩ := exists_turn reflects onCourse
      obtain ⟨final, folded, areFinal⟩ := inductionHypothesis next areNext
      exact ⟨final, by rw [List.foldlM_cons, turned]; exact folded, areFinal⟩

/-- A record is assembled from the members that describe it. -/
theorem assemble_eq
    (reflects : schema.Reflects columns)
    {members : List Member}
    {record : Record}
    (describes : Describes columns members record) :
    schema.assemble members = some record := by
  obtain ⟨final, folded, areFinal⟩ :=
    exists_foldlM_turn reflects ⟨schema.blank, []⟩ fun column isColumn => by
      unfold IsOnCourse
      rw [if_neg List.not_mem_nil]
      exact ⟨describes column isColumn, rfl⟩
  have isRecord : final.record = record := by
    refine reflects.ext _ _ fun column isColumn => ?_
    have isFinal := areFinal column isColumn
    unfold IsOnCourse at isFinal
    split at isFinal
    next => exact isFinal.2
    next => exact isFinal.2.trans (reflects.blank column isColumn _ isFinal.1)
  have nothingMissing : schema.missing? final = none := by
    rw [missing?, List.find?_eq_none]
    intro field isField
    obtain ⟨column, isColumn, set, suits⟩ := exists_of_forall₂ reflects.suits isField
    have isFinal := areFinal column isColumn
    unfold IsOnCourse at isFinal
    simp only [Bool.and_eq_true, beq_iff_eq, Bool.not_eq_true', not_and, Bool.not_eq_false,
      List.contains_iff_mem]
    intro isRequired
    rw [suits.sameName]
    by_contra notSeen
    rw [if_neg notSeen] at isFinal
    have absent : column.absence = some _ := isFinal.1
    rw [suits.samePresence.mp isRequired] at absent
    cases absent
  rw [assemble, folded, Option.bind_some, nothingMissing, ← isRecord]
  rfl

/-- An object that describes a record is read as the record. -/
theorem decides
    (reflects : schema.Reflects columns)
    {written : List Char}
    {record : Record}
    (spells : SpellsRecord columns written record) :
    Decides schema.read written (some record) := by
  obtain ⟨members, isObject, describes⟩ := spells
  rw [← assemble_eq reflects describes]
  exact decides_read reflects.areDecisive isObject

/-- Where every column gets a value, the values are the parts of a record. -/
theorem exists_record
    (reflects : schema.Reflects columns)
    {members : List Member}
    (areGiven : ∀ column ∈ columns, ∃ value, column.Gets members value) :
    ∃ record, Describes columns members record := by
  have some {rest : List (Column Record)} (areColumns : rest.Sublist columns) :
      ∃ record : Record, ∀ column ∈ rest, column.Gets members (column.get record) := by
    induction rest with
    | nil => exact ⟨schema.blank, nofun⟩
    | cons first others inductionHypothesis =>
        obtain ⟨record, gets⟩ :=
          inductionHypothesis ((List.sublist_cons_self first others).trans areColumns)
        have isColumn := areColumns.subset List.mem_cons_self
        obtain ⟨value, isGiven⟩ := areGiven first isColumn
        obtain ⟨field, set, -, -, suits⟩ := reflects.exists_field isColumn
        have distinct := (areColumns.map Column.name).nodup reflects.distinct
        refine ⟨set value record, List.forall_mem_cons.mpr ⟨?_, fun other isOther => ?_⟩⟩
        · rwa [suits.gets]
        · have differs : other.name ≠ first.name := fun sameName =>
            (List.nodup_cons.mp distinct).1 (sameName ▸ List.mem_map_of_mem isOther)
          rw [suits.keeps other (areColumns.subset (List.mem_cons_of_mem _ isOther)) differs]
          exact gets other isOther
  exact some (.refl columns)

/-! ## Other objects are refused -/

/-- A member that is taken is seen if it is a field, and was not seen before. -/
private theorem seen_of_turn
    {name : String}
    (isField : (schema.field? name).isSome = true)
    {member : Member}
    {draft next : Draft Record}
    (turned : schema.turn draft member = some next) :
    (name ∈ next.seen ↔ name ∈ draft.seen ∨ member.name = name) ∧
      (member.name = name → name ∉ draft.seen) := by
  unfold turn at turned
  split at turned
  next isUnknown =>
    obtain rfl := Option.some.inj turned
    have differs : member.name ≠ name := by
      rintro rfl
      rw [isUnknown] at isField
      cases isField
    simp [differs]
  next =>
    split at turned
    next => cases turned
    next notSeen =>
      obtain ⟨set, -, rfl⟩ := Option.map_eq_some_iff.mp turned
      refine ⟨?_, ?_⟩
      · rw [List.mem_cons, or_comm, eq_comm]
      · rintro rfl
        simpa using notSeen

/-- Members that are taken hold each field at most once, and it is seen if they do. -/
private theorem seen_of_foldlM_turn
    {name : String}
    (isField : (schema.field? name).isSome = true)
    {members : List Member}
    {draft final : Draft Record}
    (folded : members.foldlM schema.turn draft = some final) :
    (name ∈ final.seen ↔ name ∈ draft.seen ∨ valuesOf members name ≠ []) ∧
      (valuesOf members name).length ≤ 1 ∧
      (name ∈ draft.seen → valuesOf members name = []) := by
  induction members generalizing draft with
  | nil =>
      obtain rfl := Option.some.inj folded
      simp [valuesOf]
  | cons member members inductionHypothesis =>
      rw [List.foldlM_cons] at folded
      obtain ⟨next, turned, folded⟩ := Option.bind_eq_some_iff.mp folded
      obtain ⟨seen, atMostOnce, notAgain⟩ := inductionHypothesis folded
      obtain ⟨seenNext, notSeen⟩ := seen_of_turn isField turned
      by_cases isSame : member.name = name
      · have noOthers := notAgain (seenNext.mpr (.inr isSame))
        subst isSame
        rw [valuesOf_cons_self, noOthers]
        simp [seen, seenNext, notSeen rfl]
      · rw [valuesOf_cons_of_ne isSame]
        simp only [isSame, or_false] at seenNext
        rw [← seenNext]
        exact ⟨seen, atMostOnce, notAgain⟩

/-- No record is assembled where a required member is missing or a field comes again. -/
theorem assemble_eq_none
    (reflects : schema.Reflects columns)
    {members : List Member}
    {column : Column Record}
    (isColumn : column ∈ columns)
    (isWrong : column.IsLacking members ∨ column.IsRepeated members) :
    schema.assemble members = none := by
  obtain ⟨field, set, found, isField, suits⟩ := reflects.exists_field isColumn
  rw [assemble]
  cases folded : members.foldlM schema.turn ⟨schema.blank, []⟩ with
  | none => rfl
  | some final =>
      obtain ⟨seen, atMostOnce, -⟩ :=
        seen_of_foldlM_turn (found ▸ rfl : (schema.field? column.name).isSome = true) folded
      rcases isWrong with ⟨isRequired, isAbsent⟩ | isRepeated
      · have isMissing : (schema.missing? final).isSome = true := by
          rw [missing?, List.find?_isSome]
          refine ⟨field, isField, ?_⟩
          have notSeen : column.name ∉ final.seen := by simp [seen, isAbsent]
          simpa [suits.samePresence.mpr isRequired, suits.sameName] using notSeen
        rw [Option.bind_some, if_pos isMissing]
      · unfold Column.IsRepeated at isRepeated
        omega

/-- Where members are taken, the value of each is read by the field of its name. -/
private theorem isSome_of_foldlM_turn
    {members : List Member}
    {draft final : Draft Record}
    (folded : members.foldlM schema.turn draft = some final)
    {member : Member}
    (isMember : member ∈ members)
    {field : Field Record}
    (found : schema.field? member.name = some field) :
    (alone field.read member.value).isSome = true := by
  induction members generalizing draft with
  | nil => cases isMember
  | cons first others inductionHypothesis =>
      rw [List.foldlM_cons] at folded
      obtain ⟨next, turned, folded⟩ := Option.bind_eq_some_iff.mp folded
      rcases List.mem_cons.mp isMember with rfl | isOther
      · simp only [turn, found] at turned
        split at turned
        next => cases turned
        next =>
          obtain ⟨set, isRead, -⟩ := Option.map_eq_some_iff.mp turned
          rw [isRead]
          rfl
      · exact inductionHypothesis folded isOther

/--
A record is assembled only from the members that describe it, if its fields read nothing but what
the columns say.
-/
theorem describes_of_assemble
    (reflects : schema.Reflects columns)
    {members : List Member}
    (areSpelled :
      ∀ column ∈ columns, ∀ field, schema.field? column.name = some field →
        ∀ member ∈ members, (alone field.read member.value).isSome = true →
          ∃ value, column.Spells member.value value)
    {record : Record}
    (assembled : schema.assemble members = some record) :
    Describes columns members record := by
  have areGiven : ∀ column ∈ columns, ∃ value, column.Gets members value := by
    intro column isColumn
    have notWrong : ¬(column.IsLacking members ∨ column.IsRepeated members) := fun isWrong => by
      rw [reflects.assemble_eq_none isColumn isWrong] at assembled
      cases assembled
    obtain ⟨field, set, found, -, suits⟩ := reflects.exists_field isColumn
    unfold Column.IsLacking Column.IsRepeated at notWrong
    unfold Column.Gets
    cases values : valuesOf members column.name with
    | nil =>
        rw [values] at notWrong
        exact Option.ne_none_iff_exists'.mp fun isRequired => notWrong (.inl ⟨isRequired, rfl⟩)
    | cons written others =>
        obtain rfl : others = [] := by
          rw [values] at notWrong
          cases others
          · rfl
          · simp at notWrong
        have isValue : written ∈ valuesOf members column.name := values ▸ List.mem_cons_self
        obtain ⟨member, isMember, rfl⟩ := List.mem_map.mp isValue
        obtain ⟨isMember, sameName⟩ := List.mem_filter.mp isMember
        obtain ⟨final, folded, -⟩ := Option.bind_eq_some_iff.mp assembled
        rw [← eq_of_beq sameName] at found
        exact areSpelled column isColumn field (eq_of_beq sameName ▸ found) member isMember
          (isSome_of_foldlM_turn folded isMember found)
  obtain ⟨other, describes⟩ := reflects.exists_record areGiven
  rw [reflects.assemble_eq describes] at assembled
  exact Option.some.inj assembled ▸ describes

end Schema.Reflects

end SecretsAdmin.Json
