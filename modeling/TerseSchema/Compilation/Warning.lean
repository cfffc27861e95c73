/-!
# Warnings

Every descriptor compiles.  A warning tells of one that most likely does not
mean what its author had in mind.  In a strict compilation the first warning
is an error.
-/

namespace TerseSchema

/-- A reason to doubt a descriptor. -/
inductive Warning
  | emptyName (index : Nat)
  | unresolvedType (column keyword : String)
  | nonNumericSize (column size : String)
  deriving DecidableEq

namespace Warning

/-- The wording of a warning. -/
def message : Warning → String
  | .emptyName index => s!"descriptor #{index} has no column name"
  | .unresolvedType column keyword =>
      s!"unknown type keyword '{keyword}' on column '{column}'"
  | .nonNumericSize column size =>
      s!"non-numeric size '{size}' on column '{column}'"

/-- The column that a warning is about: its name, or the place of a descriptor
without one. -/
def subject : Warning → String
  | .emptyName index => s!"#{index}"
  | .unresolvedType column _ => column
  | .nonNumericSize column _ => column

/-- The wording of the error that a strict compilation makes of a warning. -/
def rejection (warning : Warning) : String :=
  s!"Invalid descriptor for column '{warning.subject}': {warning.message}"

end Warning
end TerseSchema
