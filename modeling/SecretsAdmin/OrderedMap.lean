namespace SecretsAdmin

/-!
# Finite maps in key order

A map is the list of its entries in strictly ascending key order, so two maps with the same
entries are equal and listing a map needs no further sorting.
-/

/-- A finite map whose entries stand in strictly ascending key order. -/
structure OrderedMap (Key Value : Type) [Ord Key] where
  entries : List (Key × Value)
  ascending :
    entries.Pairwise fun earlier later => compare earlier.1 later.1 = .lt
  deriving DecidableEq

namespace OrderedMap

variable {Key Value : Type} [Ord Key]

/-- The map without entries. -/
def empty : OrderedMap Key Value where
  entries := []
  ascending := .nil

instance : EmptyCollection (OrderedMap Key Value) := ⟨empty⟩

instance : Inhabited (OrderedMap Key Value) := ⟨empty⟩

/-- Put an entry at its place in an ascending list, replacing an entry with the same key. -/
def insertEntry
    (key : Key)
    (value : Value) :
    List (Key × Value) → List (Key × Value)
  | [] => [(key, value)]
  | entry :: rest =>
      match compare key entry.1 with
      | .lt => (key, value) :: entry :: rest
      | .eq => (key, value) :: rest
      | .gt => entry :: insertEntry key value rest

/-- Every entry after an insertion is the new one or was there before. -/
theorem mem_insertEntry
    {key : Key}
    {value : Value}
    {entries : List (Key × Value)}
    {entry : Key × Value}
    (member : entry ∈ insertEntry key value entries) :
    entry = (key, value) ∨ entry ∈ entries := by
  induction entries with
  | nil => simpa [insertEntry] using member
  | cons first rest inductionHypothesis =>
      rw [insertEntry] at member
      split at member
      · simpa using member
      · rcases List.mem_cons.mp member with isNew | inRest
        · exact .inl isNew
        · exact .inr (List.mem_cons_of_mem _ inRest)
      · rcases List.mem_cons.mp member with isFirst | inRest
        · exact .inr (isFirst ▸ List.mem_cons_self)
        · rcases inductionHypothesis inRest with isNew | wasThere
          · exact .inl isNew
          · exact .inr (List.mem_cons_of_mem _ wasThere)

/-- Insertion keeps an ascending list ascending. -/
theorem pairwise_insertEntry
    [Std.TransOrd Key]
    (key : Key)
    (value : Value)
    {entries : List (Key × Value)}
    (ascending :
      entries.Pairwise fun earlier later => compare earlier.1 later.1 = .lt) :
    (insertEntry key value entries).Pairwise
      fun earlier later => compare earlier.1 later.1 = .lt := by
  induction entries with
  | nil => simp [insertEntry]
  | cons first rest inductionHypothesis =>
      have headBefore := (List.pairwise_cons.mp ascending).1
      have tailAscending := (List.pairwise_cons.mp ascending).2
      rw [insertEntry]
      split
      next isBefore =>
        refine List.pairwise_cons.mpr ⟨fun entry member => ?_, ascending⟩
        rcases List.mem_cons.mp member with isFirst | inRest
        · exact isFirst ▸ isBefore
        · exact Std.TransCmp.lt_trans isBefore (headBefore entry inRest)
      next isSame =>
        exact List.pairwise_cons.mpr
          ⟨fun entry member =>
            Std.TransCmp.lt_of_eq_of_lt isSame (headBefore entry member),
            tailAscending⟩
      next isAfter =>
        refine List.pairwise_cons.mpr
          ⟨fun entry member => ?_, inductionHypothesis tailAscending⟩
        rcases mem_insertEntry member with isNew | wasThere
        · exact isNew ▸ Std.OrientedCmp.lt_of_gt isAfter
        · exact headBefore entry wasThere

/-- Bind a key to a value, replacing an earlier binding. -/
def insert
    [Std.TransOrd Key]
    (map : OrderedMap Key Value)
    (key : Key)
    (value : Value) :
    OrderedMap Key Value where
  entries := insertEntry key value map.entries
  ascending := pairwise_insertEntry key value map.ascending

/-- Keep the entries that pass a test. -/
def filter
    (keep : Key → Value → Bool)
    (map : OrderedMap Key Value) :
    OrderedMap Key Value where
  entries := map.entries.filter fun entry => keep entry.1 entry.2
  ascending := map.ascending.filter _

/-- Remove the entry of a key, if there is one. -/
def erase
    (map : OrderedMap Key Value)
    (key : Key) :
    OrderedMap Key Value :=
  map.filter fun other _ => compare key other != .eq

/-- The value bound to a key. -/
def find?
    (map : OrderedMap Key Value)
    (key : Key) :
    Option Value :=
  (map.entries.find? fun entry => compare key entry.1 == .eq).map (·.2)

/-- Whether a key is bound. -/
def contains
    (map : OrderedMap Key Value)
    (key : Key) :
    Bool :=
  (map.find? key).isSome

/-- The bound keys in ascending order. -/
def keys (map : OrderedMap Key Value) : List Key :=
  map.entries.map (·.1)

/-- The bound values in the order of their keys. -/
def values (map : OrderedMap Key Value) : List Value :=
  map.entries.map (·.2)

/-- Bind the pairs of a list one after the other, so the last binding of a key stays. -/
def ofList
    [Std.TransOrd Key]
    (pairs : List (Key × Value)) :
    OrderedMap Key Value :=
  pairs.foldl (fun map pair => map.insert pair.1 pair.2) empty

@[simp] theorem entries_empty :
    (empty : OrderedMap Key Value).entries = [] :=
  rfl

@[simp] theorem entries_insert
    [Std.TransOrd Key]
    (map : OrderedMap Key Value)
    (key : Key)
    (value : Value) :
    (map.insert key value).entries = insertEntry key value map.entries :=
  rfl

@[simp] theorem entries_filter
    (keep : Key → Value → Bool)
    (map : OrderedMap Key Value) :
    (map.filter keep).entries =
      map.entries.filter fun entry => keep entry.1 entry.2 :=
  rfl

/-- Maps with the same entries are equal. -/
@[ext] theorem ext
    {left right : OrderedMap Key Value}
    (same : left.entries = right.entries) :
    left = right := by
  cases left
  cases right
  cases same
  rfl

end OrderedMap

end SecretsAdmin
