import TerseSchema.OrderedMap

/-!
# Insertion into ordered maps

A key that is absent comes last, so entries with distinct fresh keys are added
at the end as they are.  In particular a map is the map of the list of its own
entries.  Storing a value under a present key changes no other entry.
-/

namespace TerseSchema
namespace OrderedMap

variable {α β : Type}

attribute [ext] OrderedMap

/-- Lookup in a list fails exactly on the keys that it does not have. -/
theorem lookup_eq_none_iff (entries : List (String × α)) (key : String) :
    entries.lookup key = none ↔ key ∉ keysOf entries := by
  rw [← Option.not_isSome_iff_eq_none, List.lookup_isSome_iff]
  simp [keysOf]

theorem not_mem_keys_iff (map : OrderedMap α) (key : String) :
    key ∉ map.keys ↔ map.get? key = none :=
  (lookup_eq_none_iff map.entries key).symm

/-- The keys of a map are those that lookup finds. -/
theorem mem_keys_iff (map : OrderedMap α) (key : String) :
    key ∈ map.keys ↔ ∃ value, map.get? key = some value := by
  rw [← contains_iff_mem_keys, contains, Option.isSome_iff_exists]

/-- Overwriting in a list without the key adds an entry at the end. -/
theorem put_of_absent {key : String} (value : α)
    {entries : List (String × α)} (absent : key ∉ keysOf entries) :
    put key value entries = entries ++ [(key, value)] := by
  induction entries with
  | nil => rfl
  | cons entry rest inductionHypothesis =>
      rw [keysOf_cons, List.mem_cons, not_or] at absent
      obtain ⟨other, absentLater⟩ := absent
      rw [put, if_neg (fun equal => other equal.symm),
        inductionHypothesis absentLater, List.cons_append]

/-- An entry of an overwritten list is the new one or an old one. -/
theorem mem_put {key : String} {value : α} {entries : List (String × α)}
    {entry : String × α} (member : entry ∈ put key value entries) :
    entry = (key, value) ∨ entry ∈ entries := by
  induction entries with
  | nil => exact Or.inl (List.mem_singleton.mp member)
  | cons first rest inductionHypothesis =>
      unfold put at member
      split at member
      · rcases List.mem_cons.mp member with isNew | later
        · exact Or.inl isNew
        · exact Or.inr (List.mem_cons_of_mem _ later)
      · rcases List.mem_cons.mp member with isFirst | later
        · exact Or.inr (isFirst ▸ List.mem_cons_self)
        · exact (inductionHypothesis later).imp_right
            (List.mem_cons_of_mem _)

theorem entries_insert_of_absent {map : OrderedMap α} {key : String}
    (value : α) (absent : key ∉ map.keys) :
    (map.insert key value).entries = map.entries ++ [(key, value)] :=
  put_of_absent value absent

/-- Taking out an absent key changes nothing. -/
theorem erase_of_absent {map : OrderedMap α} {key : String}
    (absent : map.get? key = none) : map.erase key = map := by
  simp [erase, contains, absent]

/-- Storing a value keeps the keys, except that a new one comes last. -/
theorem keys_insert (map : OrderedMap α) (key : String) (value : α) :
    (map.insert key value).keys =
      if key ∈ map.keys then map.keys else map.keys ++ [key] :=
  keysOf_put key value map.entries

/-- What is found after storing a value is that value or was found before. -/
theorem get?_insert_cases {map : OrderedMap α} {key other : String}
    {value found : α}
    (stored : (map.insert key value).get? other = some found) :
    (other = key ∧ found = value) ∨ map.get? other = some found := by
  rw [get?_insert] at stored
  split at stored
  · rename_i isKey
    cases stored
    exact Or.inl ⟨isKey, rfl⟩
  · exact Or.inr stored

/-- Entries with distinct keys that are all absent are added at the end. -/
theorem entries_insertAll {map : OrderedMap α} {entries : List (String × α)}
    (distinct : (map.keys ++ keysOf entries).Nodup) :
    (map.insertAll entries).entries = map.entries ++ entries := by
  induction entries generalizing map with
  | nil => simp [insertAll]
  | cons entry rest inductionHypothesis =>
      have absent : entry.1 ∉ map.keys := fun present =>
        (List.nodup_append.mp distinct).2.2 _ present _
          List.mem_cons_self rfl
      have grown : (map.insert entry.1 entry.2).keys =
          map.keys ++ [entry.1] := by
        rw [keys_insert, if_neg absent]
      have remaining :
          ((map.insert entry.1 entry.2).keys ++ keysOf rest).Nodup := by
        rw [grown, List.append_assoc]
        exact distinct
      calc
        (map.insertAll (entry :: rest)).entries =
            ((map.insert entry.1 entry.2).insertAll rest).entries := rfl
        _ = (map.insert entry.1 entry.2).entries ++ rest :=
          inductionHypothesis remaining
        _ = map.entries ++ entry :: rest := by
          rw [entries_insert_of_absent _ absent, List.append_assoc]
          rfl

theorem entries_ofList {entries : List (String × α)}
    (distinct : (keysOf entries).Nodup) :
    (ofList entries).entries = entries := by
  rw [ofList, entries_insertAll (by simpa using distinct)]
  rfl

/-- A map is the map of the list of its entries. -/
@[simp] theorem ofList_entries (map : OrderedMap α) :
    ofList map.entries = map :=
  OrderedMap.ext (entries_ofList map.keysDistinct)

/-- Inserting all entries adds no others. -/
theorem mem_insertAll {map : OrderedMap α} {entries : List (String × α)}
    {entry : String × α} (member : entry ∈ (map.insertAll entries).entries) :
    entry ∈ map.entries ∨ entry ∈ entries := by
  induction entries generalizing map with
  | nil => exact Or.inl member
  | cons first rest inductionHypothesis =>
      rcases inductionHypothesis member
        with early | late
      · rcases mem_put early with isFirst | old
        · exact Or.inr (isFirst ▸ List.mem_cons_self)
        · exact Or.inl old
      · exact Or.inr (List.mem_cons_of_mem _ late)

theorem mem_of_mem_ofList {entries : List (String × α)}
    {entry : String × α} (member : entry ∈ (ofList entries).entries) :
    entry ∈ entries :=
  (mem_insertAll member).resolve_left List.not_mem_nil

@[simp] theorem keys_mapValues (function : α → β) (map : OrderedMap α) :
    (map.mapValues function).keys = map.keys := by
  simp [keys, keysOf, mapValues]

/-- Lookup after applying a function to every value. -/
@[simp] theorem get?_mapValues (function : α → β) (map : OrderedMap α)
    (key : String) :
    (map.mapValues function).get? key = (map.get? key).map function := by
  have everyList (entries : List (String × α)) :
      (entries.map fun entry => (entry.1, function entry.2)).lookup key =
        (entries.lookup key).map function := by
    induction entries with
    | nil => rfl
    | cons entry rest inductionHypothesis =>
        rw [List.map_cons, List.lookup_cons, List.lookup_cons]
        cases key == entry.1 with
        | true => rfl
        | false => exact inductionHypothesis
  exact everyList map.entries

/-! ## Sums over a map -/

/-- Sum of a measure of the values. -/
def total (measure : α → Nat) (map : OrderedMap α) : Nat :=
  map.entries.foldr (fun entry rest => measure entry.2 + rest) 0

/-- Storing a value adds its measure in place of that of the value which it
replaces. -/
theorem total_insert (measure : α → Nat) (map : OrderedMap α) (key : String)
    (value : α) :
    (map.insert key value).total measure +
        ((map.get? key).map measure).getD 0 =
      map.total measure + measure value := by
  have everyList (entries : List (String × α)) :
      (put key value entries).foldr
          (fun entry rest => measure entry.2 + rest) 0 +
          ((entries.lookup key).map measure).getD 0 =
        entries.foldr (fun entry rest => measure entry.2 + rest) 0 +
          measure value := by
    induction entries with
    | nil =>
        rw [put, List.lookup_nil, Option.map_none, Option.getD_none]
        exact Nat.add_comm _ _
    | cons entry rest inductionHypothesis =>
        by_cases here : entry.1 = key
        · have matched : (key == entry.1) = true := beq_iff_eq.mpr here.symm
          rw [put, if_pos here, List.lookup_cons, matched]
          simp only [List.foldr_cons, Option.map_some, Option.getD_some]
          omega
        · have differs : (key == entry.1) = false :=
            beq_false_of_ne fun equal => here equal.symm
          rw [put, if_neg here, List.lookup_cons, differs]
          simp only [List.foldr_cons]
          omega
  exact everyList map.entries

end OrderedMap
end TerseSchema
