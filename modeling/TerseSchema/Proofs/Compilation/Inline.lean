import TerseSchema.Proofs.Compilation.Warnings
import TerseSchema.Proofs.Text.Trim

/-!
# Inline descriptors

An inline descriptor is a slot descriptor whose slots are the texts between its
commas, trimmed.  Texts are all that it can hold, and this limits what it can
say: a text is never an options slot, so nothing renames the column or gives it
options, and its default value is a text unless the Boolean keyword makes a
truth value of it.
-/

namespace TerseSchema

/-! ## Segments -/

namespace Descriptor

/-- Splitting at commas is splitting at each occurrence of one item. -/
theorem splitCommas_eq_splitOn (characters : List Char) :
    splitCommas characters = characters.splitOn ',' := by
  induction characters with
  | nil => rfl
  | cons character rest inductionHypothesis =>
      rw [List.splitOn_cons_eq_if_modifyHead, splitCommas, inductionHypothesis]
      by_cases comma : character = ','
      · rw [if_pos comma, if_pos (beq_iff_eq.mpr comma)]
      · rw [if_neg comma, if_neg (by simpa using comma)]
        cases parts : rest.splitOn ',' with
        | nil => exact absurd parts (List.splitOn_ne_nil ',' rest)
        | cons segment segments => rfl

/-- The texts that commas join are the segments, trimmed. -/
theorem segments_intercalate {texts : List String} (nonempty : texts ≠ [])
    (separate : ∀ text ∈ texts, ',' ∉ text.toList) :
    segments (",".intercalate texts) = texts.map Text.trim := by
  have apart : ∀ segment ∈ texts.map String.toList, ',' ∉ segment := by
    simpa using separate
  have parts : ((",".intercalate texts).toList).splitOn ',' =
      texts.map String.toList := by
    rw [String.toList_intercalate]
    exact List.splitOn_intercalate ',' apart (by simpa using nonempty)
  rw [segments, splitCommas_eq_splitOn, parts, List.map_map]
  rfl

theorem values_intercalate {texts : List String} (nonempty : texts ≠ [])
    (separate : ∀ text ∈ texts, ',' ∉ text.toList) :
    (inline (",".intercalate texts)).values =
      (slots (texts.map fun text => .string (Text.trim text))).values := by
  rw [values, segments_intercalate nonempty separate, List.map_map]
  rfl

/-- The first segment ends at the first comma. -/
theorem head?_segments (text : String) :
    (segments text).head? =
      some (Text.trim (String.ofList (text.toList.takeWhile (· != ',')))) := by
  rw [segments, splitCommas_eq_splitOn, Positional.splitOn_eq_takeWhile_cons,
    List.map_cons, List.head?_cons, Text.trim, String.toList_ofList]

end Descriptor

/-! ## Slots that are texts -/

namespace Positional

variable {slots : List Json}

theorem mem_of_slot? {number : Nat} {value : Json}
    (given : slot? slots number = some value) : value ∈ slots :=
  List.mem_of_getElem? given

theorem mem_of_optionsSlot? {value : Json}
    (given : optionsSlot? slots = some value) : value ∈ slots := by
  unfold optionsSlot? at given
  split at given
  · exact mem_of_slot? given
  · split at given <;> exact mem_of_slot? given
  · split at given <;> exact mem_of_slot? given
  · contradiction

/-- Only after the keyword of Boolean columns is a third slot a Boolean default
value. -/
theorem keyword_of_booleanDefault {stated : Bool}
    (known : kind? slots = some (.booleanDefault stated)) :
    ∃ text, typeText? slots = some text ∧ keyword text = "Boolean" := by
  unfold kind? at known
  split at known
  · rename_i second third given _
    have named : isBooleanKeyword second = true := by
      by_contra other
      rw [kind, if_neg fun both => other both.1] at known
      split at known <;> cases known
    cases second with
    | string text =>
        refine ⟨text, by rw [typeText?, given]; rfl, ?_⟩
        rw [← namesBoolean_classify] at named
        rw [← keyword_parse]
        exact eq_of_beq named
    | null | bool _ | number _ | array _ | object _ => contradiction
  · contradiction

section
variable (texts : ∀ slot ∈ slots, ∃ text, slot = .string text)
include texts

/-- Texts give no options. -/
theorem options_of_texts : options slots = .empty := by
  unfold options
  split
  · rename_i members given
    obtain ⟨text, same⟩ := texts _ (mem_of_optionsSlot? given)
    contradiction
  · rename_i items given
    obtain ⟨text, same⟩ := texts _ (mem_of_optionsSlot? given)
    contradiction
  · rfl

/-- Among texts a default value is a text, or a truth value after the keyword
of Boolean columns. -/
theorem default?_of_texts {value : Json} (given : default? slots = some value) :
    (∃ text, value = .string text) ∨
      ∃ stated, value = .bool stated ∧
        ∃ text, typeText? slots = some text ∧ keyword text = "Boolean" := by
  have ofSlot {number : Nat} (kept : ((slot? slots number).filter
      fun value => !value.isObject) = some value) :
      ∃ text, value = .string text :=
    texts value (mem_of_slot? (Option.filter_eq_some_iff.mp kept).1)
  unfold default? at given
  split at given
  · rename_i stated known
    exact Or.inr ⟨stated, (Option.some.inj given).symm,
      keyword_of_booleanDefault known⟩
  · exact Or.inl (ofSlot given)
  · exact Or.inl (ofSlot given)
  · contradiction

/-- The default value of a column of texts is a fresh identifier or one that
the texts state. -/
theorem defaultValue_of_texts {compileOptions : CompileOptions} {index : Nat}
    {value : DefaultValue}
    (given : (base slots compileOptions index).defaultValue = some value) :
    value = .freshUuid ∨ (∃ text, value = .literal (.string text)) ∨
      ∃ stated, value = .literal (.bool stated) ∧
        ∃ text, typeText? slots = some text ∧ keyword text = "Boolean" := by
  unfold base at given
  cases stated : default? slots with
  | none =>
      rw [stated] at given
      change typeDefault slots = some value at given
      unfold typeDefault at given
      split at given
      · exact Or.inl (Option.some.inj given).symm
      · contradiction
  | some literal =>
      rw [stated] at given
      obtain rfl : DefaultValue.literal literal = value :=
        Option.some.inj given
      rcases default?_of_texts texts stated with
        ⟨text, rfl⟩ | ⟨truth, rfl, named⟩
      · exact Or.inr (Or.inl ⟨text, rfl⟩)
      · exact Or.inr (Or.inr ⟨truth, rfl, named⟩)

end

end Positional

/-! ## Compiling -/

/-- What a descriptor compiles to depends on its slots alone. -/
theorem CompiledColumn.ofDescriptor_congr_values (options : CompileOptions)
    (index : Nat) {first second : Descriptor}
    (same : first.values = second.values) :
    ofDescriptor options index first = ofDescriptor options index second := by
  unfold ofDescriptor
  rw [same]

theorem Compilation.run_congr_values (options : CompileOptions)
    (front back : List Descriptor) {first second : Descriptor}
    (same : first.values = second.values) :
    run options (front ++ first :: back) =
      run options (front ++ second :: back) := by
  have columns : columns options (front ++ first :: back) =
      columns options (front ++ second :: back) := by
    rw [columns, columns, List.mapIdx_append, List.mapIdx_append,
      List.mapIdx_cons, List.mapIdx_cons,
      CompiledColumn.ofDescriptor_congr_values options _ same]
  rw [run, run, columns]

namespace Descriptor

variable (text : String)

/-- All slots of an inline descriptor are texts. -/
theorem exists_of_mem_values_inline :
    ∀ slot ∈ (inline text).values, ∃ segment, slot = .string segment := by
  intro slot member
  obtain ⟨segment, -, rfl⟩ := List.mem_map.mp member
  exact ⟨segment, rfl⟩

theorem slotName_inline :
    Positional.slotName (inline text).values =
      Text.trim (String.ofList (text.toList.takeWhile (· != ','))) := by
  have first : Positional.slot? (inline text).values 1 =
      some (.string (Text.trim
        (String.ofList (text.toList.takeWhile (· != ','))))) := by
    rw [Positional.slot?, ← List.head?_eq_getElem?, values, List.head?_map,
      head?_segments]
    rfl
  rw [Positional.slotName, first]

theorem typeText?_inline :
    Positional.typeText? (inline text).values = (segments text)[1]? := by
  rw [Positional.typeText?, Positional.slot?, values, List.getElem?_map]
  cases (segments text)[1]? <;> rfl

end Descriptor

/-- An inline text compiles to the same as the slots between its commas, at any
place and under any options, where each slot is trimmed.

Whatever an inline text says, the column is stored under its first segment, it
has no options, it is a primary key only if it becomes one on its own, and its
default value, if there is one, is a fresh identifier, a text, or a truth value
after the keyword of Boolean columns. -/
theorem inline_compiles_as_texts :
    (∀ texts : List String, texts ≠ [] →
      (∀ text ∈ texts, ',' ∉ text.toList) →
      let joined := Descriptor.inline (",".intercalate texts)
      let listed := Descriptor.slots
        (texts.map fun text => .string (Text.trim text))
      (∀ options index, CompiledColumn.ofDescriptor options index joined =
          CompiledColumn.ofDescriptor options index listed) ∧
        ∀ options front back,
          Compilation.run options (front ++ joined :: back) =
            Compilation.run options (front ++ listed :: back)) ∧
      (∀ text core : String, Text.IsTrimmed text.toList core.toList ↔
        Text.trim text = core) ∧
      ∀ text options index,
        let compiled :=
          CompiledColumn.ofDescriptor options index (.inline text)
        compiled.name =
            Text.trim (String.ofList (text.toList.takeWhile (· != ','))) ∧
          compiled.column.options = .empty ∧
          compiled.column.primaryKey =
            (if options.setPrimaryKey && index == 0 then some true
              else none) ∧
          ∀ value, compiled.column.defaultValue = some value →
            value = .freshUuid ∨
              (∃ stated, value = .literal (.string stated)) ∨
              ∃ stated, value = .literal (.bool stated) ∧
                ∃ keyword, (Descriptor.segments text)[1]? = some keyword ∧
                  Positional.keyword keyword = "Boolean" := by
  refine ⟨?_, ?_, ?_⟩
  · intro texts nonempty separate joined listed
    have same : joined.values = listed.values :=
      Descriptor.values_intercalate nonempty separate
    exact ⟨fun options index =>
        CompiledColumn.ofDescriptor_congr_values options index same,
      fun options front back =>
        Compilation.run_congr_values options front back same⟩
  · intro text core
    rw [Text.isTrimmed_iff, Text.trim, ← String.toList_inj,
      String.toList_ofList]
  · intro text options index compiled
    have texts := Descriptor.exists_of_mem_values_inline text
    have unstated := Positional.options_of_texts texts
    have column : compiled.column =
        Positional.base (Descriptor.inline text).values options index := by
      rw [CompiledColumn.column_ofDescriptor, unstated]
      rfl
    refine ⟨?_, ?_, ?_, ?_⟩
    · rw [CompiledColumn.name_ofDescriptor, Positional.name, unstated,
        OrderedMap.get?_empty, Descriptor.slotName_inline]
    · rw [column]
      rfl
    · rw [column]
      rfl
    · rw [column]
      intro value given
      have limited := Positional.defaultValue_of_texts texts given
      rwa [Descriptor.typeText?_inline] at limited

/-- Blanks around segments go and empty segments stay. -/
theorem inline_compiles_as_trimmed_texts :
    let texts := [" userName", "s=64 ", "", "\u00A0$t"]
    texts ≠ [] ∧ (∀ text ∈ texts, ',' ∉ text.toList) ∧
      ∀ options index,
        CompiledColumn.ofDescriptor options index
            (.inline " userName,s=64 ,,\u00A0$t") =
          CompiledColumn.ofDescriptor options index
            (.slots [.string "userName", .string "s=64", .string "",
              .string "$t"]) := by
  intro texts
  have nonempty : texts ≠ [] := by decide
  have separate : ∀ text ∈ texts, ',' ∉ text.toList := by decide
  have joined : ",".intercalate texts = " userName,s=64 ,,\u00A0$t" := by
    decide
  have trimmed : texts.map Text.trim = ["userName", "s=64", "", "$t"] := by
    decide
  have listed : (texts.map fun text => Json.string (Text.trim text)) =
      [.string "userName", .string "s=64", .string "", .string "$t"] :=
    congrArg (List.map Json.string) trimmed
  refine ⟨nonempty, separate, ?_⟩
  intro options index
  have agree :=
    (inline_compiles_as_texts.1 texts nonempty separate).1 options index
  rwa [joined, listed] at agree

end TerseSchema
