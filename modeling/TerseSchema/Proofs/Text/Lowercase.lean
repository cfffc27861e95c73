import TerseSchema.Text.Lowercase

/-!
# Lower case is settled

The characters of a lower-case spelling are their own lower case, so a text in
lower case stays as it is.  The underscore comes from nothing but itself, and
an ASCII capital is never its own lower case.

What the table has to satisfy for this is checked over its runs.  Most pairs of
a run and another one are told apart by their ends; only where the lower case
of the first one overlaps the second one does the check look at each member.
-/

namespace TerseSchema
namespace Text

/-- Whether a character is its own lower case. -/
def IsLowercase (character : Char) : Prop :=
  lowercase character = [character]

instance : DecidablePred IsLowercase := fun character =>
  inferInstanceAs (Decidable (lowercase character = [character]))

/-- The lower-case spelling of a text, character by character. -/
def lowercased (text : String) : String :=
  String.ofList (text.toList.flatMap lowercase)

/-! ## Runs -/

namespace CaseRun

/-- The code point of the lower case of a member. -/
def lowered (run : CaseRun) (code : Nat) : Nat :=
  (code + run.distance).toNat

/-- A code point behind all members. -/
def stop (run : CaseRun) : Nat :=
  run.first + run.count * run.spacing

/-- Whether no lower case of a member of a run is a member of another run. -/
def leaves (run other : CaseRun) : Bool :=
  Nat.blt (run.lowered run.stop) other.first ||
    Nat.ble other.stop (run.lowered run.first) ||
    run.members.all fun code => !other.contains (run.lowered code)

/-- Whether the lower case of a member is another character, and neither the
dotted capital nor an underscore. -/
def isProper (run : CaseRun) (code : Nat) : Bool :=
  decide (run.lowered code).isValidChar && run.lowered code != code &&
    run.lowered code != dottedCapital.toNat && run.lowered code != '_'.toNat

variable {run other : CaseRun} {code : Nat}

theorem bounds_of_contains (member : run.contains code = true) :
    run.first ≤ code ∧ code < run.stop := by
  simp only [contains, Bool.and_eq_true, decide_eq_true_eq] at member
  exact member.1

theorem mem_members_of_contains (member : run.contains code = true) :
    code ∈ run.members := by
  obtain ⟨lower, upper⟩ := bounds_of_contains member
  have spaced : (code - run.first) % run.spacing = 0 := by
    simp only [contains, Bool.and_eq_true, beq_iff_eq] at member
    exact member.2
  have placed : (code - run.first) / run.spacing * run.spacing =
      code - run.first := Nat.div_mul_cancel (Nat.dvd_of_mod_eq_zero spaced)
  refine List.mem_map.mpr ⟨(code - run.first) / run.spacing, ?_, ?_⟩
  · rw [List.mem_range]
    apply Nat.div_lt_of_lt_mul
    rw [Nat.mul_comm]
    exact (Nat.sub_lt_iff_lt_add' lower).mpr upper
  · rw [placed, Nat.add_sub_cancel' lower]

/-- A run that leaves another one has no lower case in it. -/
theorem contains_lowered_eq_false (leaves : run.leaves other = true)
    (member : run.contains code = true) :
    other.contains (run.lowered code) = false := by
  obtain ⟨lower, upper⟩ := bounds_of_contains member
  rw [Bool.eq_false_iff]
  intro inside
  obtain ⟨otherLower, otherUpper⟩ := bounds_of_contains inside
  simp only [CaseRun.leaves, Bool.or_eq_true, Nat.blt_eq, Nat.ble_eq,
    List.all_eq_true, Bool.not_eq_true'] at leaves
  rcases leaves with (below | above) | apart
  · unfold lowered at below otherLower
    omega
  · unfold lowered at above otherUpper
    omega
  · rw [apart code (mem_members_of_contains member)] at inside
    contradiction

end CaseRun

theorem caseRuns_leave : ∀ run ∈ caseRuns, ∀ other ∈ caseRuns,
    run.leaves other = true := by
  have checked : (caseRuns.all fun run => caseRuns.all run.leaves) = true := by
    decide +kernel
  simpa only [List.all_eq_true] using checked

theorem caseRuns_proper : ∀ run ∈ caseRuns, ∀ code ∈ run.members,
    run.isProper code = true := by
  have checked :
      (caseRuns.all fun run => run.members.all run.isProper) = true := by
    decide +kernel
  simpa only [List.all_eq_true] using checked

/-! ## Characters -/

/-- What the table does to the characters of its runs: their lower case is one
other character, which is in no run itself and is neither the dotted capital
nor an underscore. -/
structure IsMoved (character lower : Char) : Prop where
  spelled : lowercase character = [lower]
  listed : ∃ run ∈ caseRuns, run.contains character.toNat = true
  absent : ∀ run ∈ caseRuns, run.contains lower.toNat = false
  ne_character : lower ≠ character
  ne_dotted : lower ≠ dottedCapital
  ne_underscore : lower ≠ '_'

theorem isMoved_of_contains {character : Char} {run : CaseRun}
    (listed : run ∈ caseRuns)
    (member : run.contains character.toNat = true)
    (spelled : lowercase character =
      [Char.ofNat (run.lowered character.toNat)]) :
    IsMoved character (Char.ofNat (run.lowered character.toNat)) := by
  have proper := caseRuns_proper run listed _
    (CaseRun.mem_members_of_contains member)
  simp only [CaseRun.isProper, Bool.and_eq_true, decide_eq_true_eq,
    bne_iff_ne] at proper
  obtain ⟨⟨⟨valid, notSelf⟩, notDotted⟩, notUnderscore⟩ := proper
  have code : (Char.ofNat (run.lowered character.toNat)).toNat =
      run.lowered character.toNat := by
    rw [Char.ofNat, dif_pos valid]
    rfl
  rw [← code] at notSelf notDotted notUnderscore
  refine ⟨spelled, ⟨run, listed, member⟩, ?_, ne_of_apply_ne _ notSelf,
    ne_of_apply_ne _ notDotted, ne_of_apply_ne _ notUnderscore⟩
  intro other known
  rw [code]
  exact CaseRun.contains_lowered_eq_false
    (caseRuns_leave run listed other known) member

/-- A character becomes two, or a run that has it moves it, or it is in no run
and stays. -/
theorem lowercase_cases (character : Char) :
    character = dottedCapital ∨ (∃ lower, IsMoved character lower) ∨
      ((∀ run ∈ caseRuns, run.contains character.toNat = false) ∧
        IsLowercase character) := by
  by_cases dotted : character = dottedCapital
  · exact Or.inl dotted
  · right
    cases found : caseRuns.find? (·.contains character.toNat) with
    | none =>
        have spelled : lowercase character = [character] := by
          rw [lowercase, if_neg dotted, found]
        rw [List.find?_eq_none] at found
        exact Or.inr ⟨fun run listed => by simpa using found run listed,
          spelled⟩
    | some run =>
        have spelled : lowercase character =
            [Char.ofNat (run.lowered character.toNat)] := by
          rw [lowercase, if_neg dotted, found]
          rfl
        have member : run.contains character.toNat = true := by
          simpa using List.find?_some found
        exact Or.inl ⟨_, isMoved_of_contains (List.mem_of_find?_eq_some found)
          member spelled⟩

/-- The characters that are their own lower case are those in no run, but for
the dotted capital. -/
theorem isLowercase_iff (character : Char) :
    IsLowercase character ↔ character ≠ dottedCapital ∧
      ∀ run ∈ caseRuns, run.contains character.toNat = false := by
  rcases lowercase_cases character with
    rfl | ⟨lower, moved⟩ | ⟨absent, settled⟩
  · exact iff_of_false (by decide) fun other => other.1 rfl
  · apply iff_of_false
    · intro settled
      exact moved.ne_character
        (List.singleton_inj.mp (moved.spelled.symm.trans settled))
    · rintro ⟨-, absent⟩
      obtain ⟨run, listed, member⟩ := moved.listed
      rw [absent run listed] at member
      contradiction
  · refine iff_of_true settled ⟨?_, absent⟩
    rintro rfl
    exact absurd settled (by decide)

/-- The characters of a lower-case spelling are their own lower case. -/
theorem isLowercase_of_mem_lowercase {character spelled : Char}
    (member : spelled ∈ lowercase character) : IsLowercase spelled := by
  rcases lowercase_cases character with
    rfl | ⟨lower, moved⟩ | ⟨-, settled⟩
  · have two : lowercase dottedCapital = ['i', '\u0307'] := rfl
    rw [two, List.mem_cons, List.mem_singleton] at member
    rcases member with rfl | rfl <;> decide
  · rw [moved.spelled, List.mem_singleton] at member
    subst member
    exact (isLowercase_iff spelled).mpr ⟨moved.ne_dotted, moved.absent⟩
  · rw [settled, List.mem_singleton] at member
    exact member ▸ settled

/-- Only an underscore has an underscore in its lower-case spelling. -/
theorem underscore_mem_lowercase_iff (character : Char) :
    '_' ∈ lowercase character ↔ character = '_' := by
  constructor
  · intro member
    rcases lowercase_cases character with
      rfl | ⟨lower, moved⟩ | ⟨-, settled⟩
    · exact absurd member (by decide)
    · rw [moved.spelled, List.mem_singleton] at member
      exact absurd member.symm moved.ne_underscore
    · rw [settled, List.mem_singleton] at member
      exact member.symm
  · rintro rfl
    decide

theorem bounds_of_isUpper {character : Char}
    (upper : character.isUpper = true) :
    0x0041 ≤ character.toNat ∧ character.toNat ≤ 0x005A := by
  have range : 'A'.val ≤ character.val ∧ character.val ≤ 'Z'.val :=
    of_decide_eq_true upper
  exact ⟨UInt32.le_iff_toNat_le.mp range.1, UInt32.le_iff_toNat_le.mp range.2⟩

/-- No ASCII capital is its own lower case. -/
theorem not_isLowercase_of_isUpper {character : Char}
    (upper : character.isUpper = true) : ¬IsLowercase character := by
  intro settled
  have outside := ((isLowercase_iff character).mp settled).2
    ⟨0x0041, 26, 1, 32⟩ List.mem_cons_self
  obtain ⟨lower, bounded⟩ := bounds_of_isUpper upper
  simp only [CaseRun.contains, Nat.mod_one, beq_self_eq_true, Bool.and_true,
    Bool.and_eq_false_iff, decide_eq_false_iff_not] at outside
  omega

end Text
end TerseSchema
