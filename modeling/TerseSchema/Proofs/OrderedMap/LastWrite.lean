import TerseSchema.Proofs.OrderedMap.Insertion
import Mathlib.Data.List.Induction

/-!
# The last write wins

The map of a list of entries has the keys of the list in the order in which
they first occur, and under each key the last value that the list has for it.
Keys in order and lookup determine a map, so a part of the list may be built
into a map of its own first and inserted entry by entry.
-/

namespace TerseSchema

/-- A repeated name keeps its first place. -/
theorem eraseDups_concat (names : List String) (name : String) :
    (names ++ [name]).eraseDups =
      if name ∈ names then names.eraseDups else names.eraseDups ++ [name] := by
  rw [List.eraseDups_append]
  by_cases known : name ∈ names
  · have removed : [name].removeAll names = [] := by
      simp [List.removeAll, known]
    rw [removed, if_pos known]
    exact List.append_nil _
  · have kept : [name].removeAll names = [name] := by
      simp [List.removeAll, known]
    rw [kept, if_neg known]
    rfl

/-- Repetitions within the second list may be left out beforehand. -/
theorem eraseDups_append_eraseDups (first second : List String) :
    (first ++ second.eraseDups).eraseDups = (first ++ second).eraseDups := by
  induction second using List.reverseRec with
  | nil => rfl
  | append_singleton front last inductionHypothesis =>
      rw [← List.append_assoc, eraseDups_concat (first ++ front),
        eraseDups_concat front]
      by_cases known : last ∈ front
      · rw [if_pos known, if_pos (List.mem_append_right _ known),
          inductionHypothesis]
      · rw [if_neg known, ← List.append_assoc, eraseDups_concat,
          inductionHypothesis]
        simp only [List.mem_append, List.mem_eraseDups]

namespace OrderedMap

variable {α : Type}

theorem ofList_append (first second : List (String × α)) :
    ofList (first ++ second) = (ofList first).insertAll second :=
  List.foldl_append

/-- The last of the given entries is inserted last. -/
theorem ofList_concat (front : List (String × α)) (last : String × α) :
    ofList (front ++ [last]) = (ofList front).insert last.1 last.2 :=
  ofList_append front [last]

/-- Keys stand in the order in which they first occur. -/
theorem keys_ofList (entries : List (String × α)) :
    (ofList entries).keys = (keysOf entries).eraseDups := by
  induction entries using List.reverseRec with
  | nil => rfl
  | append_singleton front last inductionHypothesis =>
      rw [ofList_concat, keys_insert, inductionHypothesis, keysOf_append]
      simp only [List.mem_eraseDups]
      exact (eraseDups_concat _ _).symm

/-- Each key has its last value. -/
theorem get?_ofList (entries : List (String × α)) (key : String) :
    (ofList entries).get? key = entries.reverse.lookup key := by
  induction entries using List.reverseRec with
  | nil => rfl
  | append_singleton front last inductionHypothesis =>
      rw [ofList_concat, get?_insert, inductionHypothesis,
        List.reverse_concat, List.lookup_cons]
      by_cases same : key = last.1
      · rw [if_pos same, beq_iff_eq.mpr same]
      · rw [if_neg same, beq_false_of_ne same]

/-- A value is found under a key exactly if the list has it there and has no
later entry of the key. -/
theorem get?_ofList_eq_some_iff (entries : List (String × α)) (key : String)
    (value : α) :
    (ofList entries).get? key = some value ↔
      ∃ front back, entries = front ++ (key, value) :: back ∧
        key ∉ keysOf back := by
  have absent (back : List (String × α)) :
      key ∉ keysOf back ↔ ∀ later ∈ back.reverse, (key != later.1) = true := by
    simp only [keysOf, List.mem_map, List.mem_reverse, not_exists, not_and,
      bne_iff_ne, ne_comm (a := key)]
  rw [get?_ofList, List.lookup_eq_some_iff]
  constructor
  · rintro ⟨back, front, reversed, others⟩
    refine ⟨front.reverse, back.reverse, ?_, ?_⟩
    · rw [← List.reverse_reverse entries, reversed, List.reverse_append,
        List.reverse_cons, List.append_assoc]
      rfl
    · rw [absent, List.reverse_reverse]
      exact others
  · rintro ⟨front, back, rfl, others⟩
    refine ⟨back.reverse, front.reverse, ?_, (absent back).mp others⟩
    rw [List.reverse_append, List.reverse_cons, List.append_assoc]
    rfl

/-- Entries with the same distinct keys in order and the same values are the
same. -/
theorem entries_eq_of_lookup {first second : List (String × α)}
    (distinct : (keysOf first).Nodup) (sameKeys : keysOf first = keysOf second)
    (sameValues : ∀ key, first.lookup key = second.lookup key) :
    first = second := by
  induction first generalizing second with
  | nil => exact (List.map_eq_nil_iff.mp sameKeys.symm).symm
  | cons entry rest inductionHypothesis =>
      obtain ⟨key, value⟩ := entry
      rcases second with _ | ⟨⟨otherKey, otherValue⟩, others⟩
      · contradiction
      obtain ⟨rfl, restKeys⟩ :
          key = otherKey ∧ keysOf rest = keysOf others :=
        List.cons.inj sameKeys
      obtain ⟨fresh, restDistinct⟩ := List.nodup_cons.mp distinct
      have equalValue : value = otherValue := by
        simpa only [List.lookup_cons_self, Option.some.injEq]
          using sameValues key
      have restValues : ∀ other, rest.lookup other = others.lookup other := by
        intro other
        by_cases same : other = key
        · -- The key of the first entry has gone from both rests.
          have otherFresh : key ∉ keysOf others := restKeys ▸ fresh
          rw [same, (lookup_eq_none_iff rest key).mpr fresh,
            (lookup_eq_none_iff others key).mpr otherFresh]
        · simpa only [List.lookup_cons, beq_false_of_ne same]
            using sameValues other
      rw [equalValue, inductionHypothesis restDistinct restKeys restValues]

/-- Keys in order and lookup determine a map. -/
theorem eq_of_keys_of_get? {first second : OrderedMap α}
    (sameKeys : first.keys = second.keys)
    (sameValues : ∀ key, first.get? key = second.get? key) : first = second :=
  OrderedMap.ext
    (entries_eq_of_lookup first.keysDistinct sameKeys sameValues)

/-- Storing the value that is stored already changes nothing. -/
theorem insert_of_get?_eq_some {map : OrderedMap α} {key : String} {value : α}
    (stored : map.get? key = some value) : map.insert key value = map := by
  have known : key ∈ map.keys := (mem_keys_iff map key).mpr ⟨value, stored⟩
  apply eq_of_keys_of_get?
  · rw [keys_insert, if_pos known]
  · intro other
    rw [get?_insert]
    split
    · rename_i same
      rw [same, stored]
    · rfl

/-- A map into which another one is inserted has the values of that one, and
its own values under the other keys. -/
theorem get?_insertAll_entries (first second : OrderedMap α) (key : String) :
    (first.insertAll second.entries).get? key =
      (second.get? key).or (first.get? key) := by
  have parts (map : OrderedMap α) :
      map.entries.reverse.lookup key = map.get? key := by
    rw [← get?_ofList, ofList_entries]
  have built : first.insertAll second.entries =
      ofList (first.entries ++ second.entries) := by
    rw [ofList_append, ofList_entries]
  rw [built, get?_ofList, List.reverse_append, List.lookup_append, parts,
    parts]

/-- The end of a list may be built into a map of its own, whose entries are
then inserted in their order. -/
theorem insertAll_entries_ofList (first second : List (String × α)) :
    (ofList first).insertAll (ofList second).entries =
      (ofList first).insertAll second := by
  rw [← ofList_append, ← ofList_append]
  apply eq_of_keys_of_get?
  · rw [keys_ofList, keys_ofList, keysOf_append, keysOf_append]
    have built : keysOf (ofList second).entries =
        (keysOf second).eraseDups := keys_ofList second
    rw [built, eraseDups_append_eraseDups]
  · intro key
    have built : (ofList second).entries.reverse.lookup key =
        second.reverse.lookup key := by
      rw [← get?_ofList, ofList_entries, get?_ofList]
    rw [get?_ofList, get?_ofList, List.reverse_append, List.reverse_append,
      List.lookup_append, List.lookup_append, built]

end OrderedMap
end TerseSchema
