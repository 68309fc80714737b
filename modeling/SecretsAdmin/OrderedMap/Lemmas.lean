import SecretsAdmin.OrderedMap

namespace SecretsAdmin.OrderedMap

/-!
# Laws of maps in key order

What each operation does to the value that a key is bound to, and where an insertion puts its
entry. A key stands in at most one entry, so looking up and being an entry are the same.
-/

variable {Key Value : Type} [Ord Key] [Std.TransOrd Key] [Std.LawfulEqOrd Key]

omit [Std.LawfulEqOrd Key] in
/-- No key stands before itself. -/
theorem compare_self_ne_lt (key : Key) : compare key key ≠ .lt := by
  rw [Std.ReflOrd.compare_self]
  exact nofun

omit [Std.LawfulEqOrd Key] in
/-- No key stands behind itself. -/
theorem compare_self_ne_gt (key : Key) : compare key key ≠ .gt := by
  rw [Std.ReflOrd.compare_self]
  exact nofun

omit [Std.LawfulEqOrd Key] in
/-- Two entries with one key are the same entry. -/
theorem eq_of_mem_entries
    {map : OrderedMap Key Value}
    {left right : Key × Value}
    (leftMember : left ∈ map.entries)
    (rightMember : right ∈ map.entries)
    (sameKey : left.1 = right.1) :
    left = right := by
  have ascending := map.ascending
  generalize map.entries = entries at leftMember rightMember ascending
  induction entries with
  | nil => simp at leftMember
  | cons first rest inductionHypothesis =>
      have headBefore := (List.pairwise_cons.mp ascending).1
      have tailAscending := (List.pairwise_cons.mp ascending).2
      rcases List.mem_cons.mp leftMember with leftFirst | leftRest
      · rcases List.mem_cons.mp rightMember with rightFirst | rightRest
        · exact leftFirst.trans rightFirst.symm
        · have before := headBefore right rightRest
          rw [← leftFirst, sameKey] at before
          exact absurd before (compare_self_ne_lt _)
      · rcases List.mem_cons.mp rightMember with rightFirst | rightRest
        · have before := headBefore left leftRest
          rw [← rightFirst, ← sameKey] at before
          exact absurd before (compare_self_ne_lt _)
        · exact inductionHypothesis leftRest rightRest tailAscending

/-- A key is bound to a value exactly when the two are an entry. -/
theorem find?_eq_some_iff
    {map : OrderedMap Key Value}
    {key : Key}
    {value : Value} :
    map.find? key = some value ↔ (key, value) ∈ map.entries := by
  constructor
  · intro found
    obtain ⟨entry, located, same⟩ := Option.map_eq_some_iff.mp found
    have isKey : key = entry.1 := by simpa using List.find?_some located
    have member := List.mem_of_find?_eq_some located
    rw [isKey, ← same]
    exact member
  · intro member
    have isThere :
        (map.entries.find? fun entry => compare key entry.1 == .eq).isSome := by
      rw [List.find?_isSome]
      exact ⟨(key, value), member, by simp⟩
    obtain ⟨entry, located⟩ := Option.isSome_iff_exists.mp isThere
    have isKey : key = entry.1 := by simpa using List.find?_some located
    have same : entry = (key, value) :=
      eq_of_mem_entries (List.mem_of_find?_eq_some located) member isKey.symm
    simp [find?, located, same]

/-- A key is bound to nothing exactly when no entry has it. -/
theorem find?_eq_none_iff
    {map : OrderedMap Key Value}
    {key : Key} :
    map.find? key = none ↔ ∀ value, (key, value) ∉ map.entries := by
  constructor
  · intro unbound value member
    rw [find?_eq_some_iff.mpr member] at unbound
    contradiction
  · intro absent
    cases found : map.find? key with
    | none => rfl
    | some value => exact absurd (find?_eq_some_iff.mp found) (absent value)

/-- A map lists the values that keys are bound to. -/
theorem mem_values_iff
    {map : OrderedMap Key Value}
    {value : Value} :
    value ∈ map.values ↔ ∃ key, map.find? key = some value := by
  simp only [values, List.mem_map, find?_eq_some_iff]
  constructor
  · rintro ⟨⟨key, value⟩, member, rfl⟩
    exact ⟨key, member⟩
  · rintro ⟨key, member⟩
    exact ⟨(key, value), member, rfl⟩

/-- The entries after an insertion: the new one, and those of all other keys. -/
theorem mem_entries_insert_iff
    {map : OrderedMap Key Value}
    {key other : Key}
    {value found : Value} :
    (other, found) ∈ (map.insert key value).entries ↔
      other = key ∧ found = value ∨ other ≠ key ∧ (other, found) ∈ map.entries := by
  have ascending := map.ascending
  rw [entries_insert]
  generalize map.entries = entries at ascending
  induction entries with
  | nil => simp [insertEntry]
  | cons first rest inductionHypothesis =>
      have headBefore := (List.pairwise_cons.mp ascending).1
      have tailAscending := (List.pairwise_cons.mp ascending).2
      have notLater :
          ∀ candidate : Key, candidate = first.1 →
            ∀ value, (candidate, value) ∉ rest := by
        intro candidate isFirst value member
        have before := headBefore _ member
        rw [isFirst] at before
        exact compare_self_ne_lt _ before
      rw [insertEntry]
      split
      next isBefore =>
        have notHere :
            ∀ value, (key, value) ∉ first :: rest := by
          intro value member
          have notFirst : key ≠ first.1 := by
            intro isFirst
            rw [isFirst] at isBefore
            exact compare_self_ne_lt _ isBefore
          rcases List.mem_cons.mp member with isFirst | inRest
          · exact notFirst (congrArg Prod.fst isFirst)
          · exact compare_self_ne_lt _
              (Std.TransCmp.lt_trans isBefore (headBefore _ inRest))
        grind
      next isSame =>
        have isFirst : key = first.1 := Std.LawfulEqCmp.eq_of_compare isSame
        have notInRest := notLater key isFirst
        obtain ⟨firstKey, firstValue⟩ := first
        grind
      next isAfter =>
        have notFirst : key ≠ first.1 := by
          intro isFirst
          rw [isFirst] at isAfter
          exact compare_self_ne_gt _ isAfter
        have later := inductionHypothesis tailAscending
        obtain ⟨firstKey, firstValue⟩ := first
        grind

/-- After an insertion the key is bound to the new value, and no other binding changes. -/
theorem find?_insert
    [DecidableEq Key]
    (map : OrderedMap Key Value)
    (key other : Key)
    (value : Value) :
    (map.insert key value).find? other =
      if other = key then some value else map.find? other := by
  split
  next isKey =>
    rw [find?_eq_some_iff, mem_entries_insert_iff]
    exact .inl ⟨isKey, rfl⟩
  next isOther =>
    cases found : map.find? other with
    | some former =>
        rw [find?_eq_some_iff, mem_entries_insert_iff]
        exact .inr ⟨isOther, find?_eq_some_iff.mp found⟩
    | none =>
        rw [find?_eq_none_iff] at found ⊢
        intro candidate member
        rcases mem_entries_insert_iff.mp member with ⟨isKey, _⟩ | ⟨_, wasThere⟩
        · exact isOther isKey
        · exact found candidate wasThere

/-- Filtering keeps exactly the bindings that pass the test. -/
theorem find?_filter
    (map : OrderedMap Key Value)
    (keep : Key → Value → Bool)
    (key : Key) :
    (map.filter keep).find? key = (map.find? key).filter (keep key) := by
  cases found : map.find? key with
  | none =>
      rw [Option.filter_none, find?_eq_none_iff]
      intro value member
      exact find?_eq_none_iff.mp found value ((List.mem_filter.mp member).1)
  | some value =>
      have member := find?_eq_some_iff.mp found
      cases kept : keep key value with
      | true =>
          rw [Option.filter_some_pos kept, find?_eq_some_iff]
          exact List.mem_filter.mpr ⟨member, kept⟩
      | false =>
          rw [Option.filter_some_neg (by simp [kept]), find?_eq_none_iff]
          intro other isThere
          have same : (key, other) = (key, value) :=
            eq_of_mem_entries (List.mem_filter.mp isThere).1 member rfl
          have passes := (List.mem_filter.mp isThere).2
          simp_all

/-- After a removal the key is bound to nothing, and no other binding changes. -/
theorem find?_erase
    [DecidableEq Key]
    (map : OrderedMap Key Value)
    (key other : Key) :
    (map.erase key).find? other = if other = key then none else map.find? other := by
  rw [erase, find?_filter]
  split
  next isKey => cases map.find? other <;> simp [Option.filter, isKey]
  next isOther =>
    have differs : (compare key other != .eq) = true := by
      simpa using fun isKey => isOther isKey.symm
    cases map.find? other <;> simp [Option.filter, differs]

omit [Std.LawfulEqOrd Key] in
/-- An entry whose key is greater than all others goes behind them. -/
theorem entries_insert_of_greatest
    {map : OrderedMap Key Value}
    {key : Key}
    (value : Value)
    (greatest : ∀ other ∈ map.keys, compare key other = .gt) :
    (map.insert key value).entries = map.entries ++ [(key, value)] := by
  rw [entries_insert]
  have isGreatest : ∀ entry ∈ map.entries, compare key entry.1 = .gt :=
    fun entry member => greatest entry.1 (List.mem_map_of_mem member)
  generalize map.entries = entries at isGreatest
  induction entries with
  | nil => rfl
  | cons first rest inductionHypothesis =>
      rw [insertEntry, isGreatest first List.mem_cons_self]
      simp [inductionHypothesis fun entry member =>
        isGreatest entry (List.mem_cons_of_mem _ member)]

omit [Std.LawfulEqOrd Key] in
/-- Inserting the entries behind those of a map one after the other puts them there in order. -/
theorem entries_foldl_insert
    {map : OrderedMap Key Value}
    {entries : List (Key × Value)}
    (ascending :
      (map.entries ++ entries).Pairwise fun earlier later =>
        compare earlier.1 later.1 = .lt) :
    (entries.foldl (fun map entry => map.insert entry.1 entry.2) map).entries =
      map.entries ++ entries := by
  induction entries generalizing map with
  | nil => simp
  | cons first rest inductionHypothesis =>
      have greatest : ∀ other ∈ map.keys, compare first.1 other = .gt := by
        intro other member
        obtain ⟨entry, isEntry, rfl⟩ := List.mem_map.mp member
        exact Std.OrientedCmp.gt_of_lt
          ((List.pairwise_append.mp ascending).2.2 entry isEntry first List.mem_cons_self)
      have inserted := entries_insert_of_greatest first.2 greatest
      rw [List.foldl_cons, inductionHypothesis]
      · rw [inserted, List.append_assoc, List.singleton_append]
      · rw [inserted, List.append_assoc, List.singleton_append]
        exact ascending

omit [Std.LawfulEqOrd Key] in
/-- A map is made of its entries. -/
theorem ofList_entries (map : OrderedMap Key Value) :
    ofList map.entries = map :=
  ext (entries_foldl_insert map.ascending)

/-! ## Keys -/

/-- A key is bound exactly when it is one of the keys. -/
theorem contains_iff_mem_keys
    {map : OrderedMap Key Value}
    {key : Key} :
    map.contains key = true ↔ key ∈ map.keys := by
  rw [contains, Option.isSome_iff_exists, keys, List.mem_map]
  constructor
  · rintro ⟨value, found⟩
    exact ⟨(key, value), find?_eq_some_iff.mp found, rfl⟩
  · rintro ⟨⟨key, value⟩, member, rfl⟩
    exact ⟨value, find?_eq_some_iff.mpr member⟩

/-- The keys after an insertion: the new one, and those that were there. -/
theorem mem_keys_insert_iff
    [DecidableEq Key]
    {map : OrderedMap Key Value}
    {key other : Key}
    {value : Value} :
    other ∈ (map.insert key value).keys ↔ other = key ∨ other ∈ map.keys := by
  rw [← contains_iff_mem_keys, ← contains_iff_mem_keys, contains, contains, find?_insert]
  split
  next isKey => simp [isKey]
  next isOther => simp [isOther]

omit [Std.TransOrd Key] [Std.LawfulEqOrd Key] in
/-- The keys after a filter that looks at keys alone. -/
theorem mem_keys_filter_iff
    {map : OrderedMap Key Value}
    {keep : Key → Bool}
    {key : Key} :
    key ∈ (map.filter fun other _ => keep other).keys ↔ key ∈ map.keys ∧ keep key = true := by
  simp only [keys, entries_filter, List.mem_map, List.mem_filter]
  constructor
  · rintro ⟨entry, ⟨member, kept⟩, rfl⟩
    exact ⟨⟨entry, member, rfl⟩, kept⟩
  · rintro ⟨⟨entry, member, rfl⟩, kept⟩
    exact ⟨entry, ⟨member, kept⟩, rfl⟩

omit [Std.TransOrd Key] in
/-- The keys after a removal: all but the removed one. -/
theorem mem_keys_erase_iff
    {map : OrderedMap Key Value}
    {key other : Key} :
    other ∈ (map.erase key).keys ↔ other ∈ map.keys ∧ other ≠ key := by
  rw [erase, mem_keys_filter_iff, bne_iff_ne, ne_eq, Std.LawfulEqOrd.compare_eq_iff_eq, ne_comm]

omit [Std.TransOrd Key] [Std.LawfulEqOrd Key] in
/-- The keys stand in ascending order. -/
theorem pairwise_keys (map : OrderedMap Key Value) :
    map.keys.Pairwise fun earlier later => compare earlier later = .lt :=
  List.pairwise_map.mpr map.ascending

omit [Std.TransOrd Key] in
theorem nodup_keys (map : OrderedMap Key Value) :
    map.keys.Nodup := by
  refine map.pairwise_keys.imp fun {earlier later} before same => ?_
  rw [Std.LawfulEqOrd.compare_eq_iff_eq.mpr same] at before
  cases before

end SecretsAdmin.OrderedMap
