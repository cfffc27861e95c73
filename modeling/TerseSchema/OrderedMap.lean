/-!
# Ordered maps

An ordered map is a list of entries with distinct keys.  A key keeps the place
at which it first came in, whatever is stored under it later.  Taking a key out
moves the last entry into the freed place, so that no other entry moves.

Lookup is the view through which the operations are described.
-/

namespace TerseSchema

/-- Entries with distinct text keys, in order. -/
structure OrderedMap (α : Type) where
  entries : List (String × α)
  keysDistinct : (entries.map Prod.fst).Nodup

namespace OrderedMap

variable {α : Type}

/-- The keys of a list of entries. -/
def keysOf (entries : List (String × α)) : List String :=
  entries.map Prod.fst

@[simp] theorem keysOf_nil : keysOf ([] : List (String × α)) = [] := rfl

@[simp] theorem keysOf_cons (entry : String × α) (rest : List (String × α)) :
    keysOf (entry :: rest) = entry.1 :: keysOf rest := rfl

@[simp] theorem keysOf_append (first second : List (String × α)) :
    keysOf (first ++ second) = keysOf first ++ keysOf second := by
  simp [keysOf]

/-- Overwrite the first entry of a key, or add one at the end. -/
def put (key : String) (value : α) :
    List (String × α) → List (String × α)
  | [] => [(key, value)]
  | entry :: rest =>
      if entry.1 = key then (key, value) :: rest
      else entry :: put key value rest

/-- Overwriting keeps the keys, and a new key comes last. -/
theorem keysOf_put (key : String) (value : α)
    (entries : List (String × α)) :
    keysOf (put key value entries) =
      if key ∈ keysOf entries then keysOf entries
      else keysOf entries ++ [key] := by
  induction entries with
  | nil => simp [put]
  | cons entry rest inductionHypothesis =>
      by_cases same : entry.1 = key
      · simp [put, same]
      · have other : ¬key = entry.1 := fun equal => same equal.symm
        by_cases later : key ∈ keysOf rest <;>
          simp [put, same, other, later, inductionHypothesis]

/-- Overwriting keeps keys distinct. -/
theorem nodup_keysOf_put (key : String) (value : α)
    {entries : List (String × α)} (distinct : (keysOf entries).Nodup) :
    (keysOf (put key value entries)).Nodup := by
  rw [keysOf_put]
  split
  · exact distinct
  · rename_i absent
    refine List.nodup_append.mpr ⟨distinct, by simp, ?_⟩
    intro other otherPresent last lastKey equal
    simp only [List.mem_singleton] at lastKey
    exact absent (lastKey ▸ equal ▸ otherPresent)

/-- Drop the last entry, and put it in the place of the given key unless it is
the entry of that key itself. -/
def closeGap (key : String) (entries : List (String × α)) :
    List (String × α) :=
  match entries.getLast? with
  | none => []
  | some last =>
      entries.dropLast.map fun entry => if entry.1 = key then last else entry

/-- Closing a gap keeps keys distinct. -/
theorem nodup_keysOf_closeGap (key : String)
    {entries : List (String × α)} (distinct : (keysOf entries).Nodup) :
    (keysOf (closeGap key entries)).Nodup := by
  unfold closeGap
  split
  · simp
  · rename_i last isLast
    obtain ⟨front, rfl⟩ := List.getLast?_eq_some_iff.mp isLast
    simp only [keysOf_append, List.dropLast_concat] at distinct ⊢
    obtain ⟨frontDistinct, -, lastFresh⟩ := List.nodup_append.mp distinct
    simp only [keysOf, List.map_map]
    have pairs : front.Pairwise fun first second => first.1 ≠ second.1 :=
      List.pairwise_map.mp frontDistinct
    refine List.pairwise_map.mpr (pairs.imp_of_mem ?_)
    intro first second firstPresent secondPresent different
    have firstFresh : first.1 ≠ last.1 :=
      lastFresh _ (List.mem_map_of_mem firstPresent) _ (by simp)
    have secondFresh : second.1 ≠ last.1 :=
      lastFresh _ (List.mem_map_of_mem secondPresent) _ (by simp)
    by_cases firstKey : first.1 = key <;> by_cases secondKey : second.1 = key
    · exact absurd (firstKey.trans secondKey.symm) different
    · simpa [firstKey, secondKey] using secondFresh.symm
    · simpa [firstKey, secondKey] using firstFresh
    · simpa [firstKey, secondKey] using different

/-- The map without entries. -/
def empty : OrderedMap α := ⟨[], List.nodup_nil⟩

/-- The keys in order. -/
def keys (map : OrderedMap α) : List String :=
  keysOf map.entries

/-- Number of entries. -/
def size (map : OrderedMap α) : Nat :=
  map.entries.length

/-- The value stored under a key. -/
def get? (map : OrderedMap α) (key : String) : Option α :=
  map.entries.lookup key

/-- Whether anything is stored under a key. -/
def contains (map : OrderedMap α) (key : String) : Bool :=
  (map.get? key).isSome

/-- Store a value under a key.  A present key keeps its place and a new one
comes last. -/
def insert (map : OrderedMap α) (key : String) (value : α) : OrderedMap α :=
  ⟨put key value map.entries, nodup_keysOf_put key value map.keysDistinct⟩

/-- Take out a key.  The last entry moves into the place of the key. -/
def erase (map : OrderedMap α) (key : String) : OrderedMap α :=
  if map.contains key then
    ⟨closeGap key map.entries, nodup_keysOf_closeGap key map.keysDistinct⟩
  else map

/-- Insert the given entries one after the other. -/
def insertAll (map : OrderedMap α) (entries : List (String × α)) :
    OrderedMap α :=
  entries.foldl (fun built entry => built.insert entry.1 entry.2) map

/-- The map of a list of entries, in which a repeated key has its first place
and its last value. -/
def ofList (entries : List (String × α)) : OrderedMap α :=
  empty.insertAll entries

/-- Apply a function to every value. -/
def mapValues {β : Type} (function : α → β) (map : OrderedMap α) :
    OrderedMap β where
  entries := map.entries.map fun entry => (entry.1, function entry.2)
  keysDistinct := by
    simpa [List.map_map, Function.comp_def] using map.keysDistinct

/-- The entries whose keys satisfy a test. -/
def filterKeys (keep : String → Bool) (map : OrderedMap α) :
    OrderedMap α where
  entries := map.entries.filter fun entry => keep entry.1
  keysDistinct :=
    map.keysDistinct.sublist
      (List.Sublist.map Prod.fst List.filter_sublist)

/-- Equality up to order: the same keys, and related values under each. -/
def same (related : α → α → Bool) (first second : OrderedMap α) : Bool :=
  first.size == second.size &&
    first.entries.all fun entry =>
      match second.get? entry.1 with
      | some value => related entry.2 value
      | none => false

@[simp] theorem keys_empty : (empty : OrderedMap α).keys = [] := rfl

@[simp] theorem get?_empty (key : String) :
    (empty : OrderedMap α).get? key = none := rfl

/-- A key is present exactly if it is one of the keys. -/
theorem contains_iff_mem_keys (map : OrderedMap α) (key : String) :
    map.contains key ↔ key ∈ map.keys := by
  simp [contains, get?, keys, keysOf, List.lookup_isSome_iff]

/-- Looking up a key in a list that was written at another one or the same. -/
theorem lookup_put (key other : String) (value : α)
    (entries : List (String × α)) :
    (put key value entries).lookup other =
      if other = key then some value else entries.lookup other := by
  induction entries with
  | nil =>
      by_cases same : other = key
      · simp [put, same]
      · have differs : (other == key) = false := by simpa using same
        simp [put, List.lookup_cons, differs, same]
  | cons entry rest inductionHypothesis =>
      obtain ⟨first, stored⟩ := entry
      by_cases here : first = key
      · by_cases same : other = key
        · simp [put, here, same]
        · have differs : (other == key) = false := by simpa using same
          simp [put, List.lookup_cons, here, same, differs]
      · cases matched : other == first with
        | true =>
            have equal : other = first := by simpa using matched
            simp [put, here, equal]
        | false =>
            simp [put, List.lookup_cons, here, matched, inductionHypothesis]

/-- Lookup after storing a value. -/
@[simp] theorem get?_insert (map : OrderedMap α) (key other : String)
    (value : α) :
    (map.insert key value).get? other =
      if other = key then some value else map.get? other :=
  lookup_put key other value map.entries

/-- Lookup in a list with distinct keys finds exactly its entries. -/
theorem lookup_eq_some_iff {entries : List (String × α)}
    (distinct : (keysOf entries).Nodup) (key : String) (value : α) :
    entries.lookup key = some value ↔ (key, value) ∈ entries := by
  induction entries with
  | nil => simp
  | cons entry rest inductionHypothesis =>
      obtain ⟨first, stored⟩ := entry
      obtain ⟨headFresh, restDistinct⟩ := List.nodup_cons.mp distinct
      cases matched : key == first with
      | true =>
          have equal : key = first := eq_of_beq matched
          subst equal
          have absent : (key, value) ∉ rest := fun present =>
            headFresh (List.mem_map.mpr ⟨_, present, rfl⟩)
          rw [List.lookup_cons_self, List.mem_cons, Prod.ext_iff]
          simp only [absent, or_false, true_and, Option.some.injEq]
          exact eq_comm
      | false =>
          have differs : key ≠ first := ne_of_beq_false matched
          simp only [List.lookup_cons, matched, List.mem_cons, Prod.ext_iff,
            differs, false_and, false_or]
          exact inductionHypothesis restDistinct

/-- Lookup finds exactly the entries of a map. -/
theorem get?_eq_some_iff (map : OrderedMap α) (key : String) (value : α) :
    map.get? key = some value ↔ (key, value) ∈ map.entries :=
  lookup_eq_some_iff map.keysDistinct key value

/-- Closing the gap of a present key takes out its entry and no other. -/
theorem mem_closeGap_iff {entries : List (String × α)} {key : String}
    (distinct : (keysOf entries).Nodup) (present : key ∈ keysOf entries)
    (entry : String × α) :
    entry ∈ closeGap key entries ↔ entry ∈ entries ∧ entry.1 ≠ key := by
  unfold closeGap
  split
  · rename_i isEmpty
    rw [List.getLast?_eq_none_iff.mp isEmpty] at present
    exact absurd present List.not_mem_nil
  · rename_i last isLast
    obtain ⟨front, rfl⟩ := List.getLast?_eq_some_iff.mp isLast
    rw [keysOf_append] at distinct present
    obtain ⟨frontDistinct, -, lastFresh⟩ := List.nodup_append.mp distinct
    have fresh : ∀ other ∈ front, other.1 ≠ last.1 := fun other member =>
      lastFresh _ (List.mem_map_of_mem member) _ (List.mem_singleton_self _)
    rw [List.dropLast_concat, List.mem_map]
    constructor
    · rintro ⟨other, member, rfl⟩
      by_cases isKey : other.1 = key
      · rw [if_pos isKey]
        exact ⟨List.mem_append_right _ (List.mem_singleton_self _),
          fun equal => fresh other member (isKey.trans equal.symm)⟩
      · rw [if_neg isKey]
        exact ⟨List.mem_append_left _ member, isKey⟩
    · rintro ⟨member, isOther⟩
      rcases List.mem_append.mp member with inFront | isLastEntry
      · exact ⟨entry, inFront, if_neg isOther⟩
      · have equal : entry = last := List.mem_singleton.mp isLastEntry
        subst equal
        rcases List.mem_append.mp present with inFront | isLastKey
        · obtain ⟨other, otherMember, isKey⟩ := List.mem_map.mp inFront
          exact ⟨other, otherMember, if_pos isKey⟩
        · exact absurd (List.mem_singleton.mp isLastKey).symm isOther

/-- Lookup after taking out a key. -/
@[simp] theorem get?_erase (map : OrderedMap α) (key other : String) :
    (map.erase key).get? other =
      if other = key then none else map.get? other := by
  by_cases present : map.contains key = true
  · have isKey : key ∈ keysOf map.entries :=
      (contains_iff_mem_keys map key).mp present
    have member (value : α) :
        (map.erase key).get? other = some value ↔
          (other, value) ∈ map.entries ∧ other ≠ key := by
      rw [get?_eq_some_iff]
      simp only [erase, if_pos present]
      exact mem_closeGap_iff map.keysDistinct isKey (other, value)
    by_cases same : other = key
    · rw [if_pos same]
      refine Option.eq_none_iff_forall_ne_some.mpr fun value found => ?_
      exact ((member value).mp found).2 same
    · rw [if_neg same]
      refine Option.ext fun value => ?_
      rw [member, get?_eq_some_iff]
      exact and_iff_left same
  · have unchanged : map.erase key = map := if_neg present
    rw [unchanged]
    by_cases same : other = key
    · rw [if_pos same, same]
      simpa [contains] using present
    · rw [if_neg same]

end OrderedMap
end TerseSchema
