/-!
# Refused command lines

Why a command line was not taken, and the exit code that belongs to it.
-/

namespace HartDebug

/-- Why a command line was not taken. -/
inductive UsageError where
  /-- A value is not of the kind that its argument wants, for the reason given. -/
  | valueValidation (reason : String)
  /-- A value is missing, or none of those its argument can have. -/
  | invalidValue
  | unknownArgument
  | invalidSubcommand
  | missingSubcommand
  | missingRequiredArgument
  /-- An argument is given twice. -/
  | argumentConflict
  /-- A value is attached to an argument that takes none. -/
  | tooManyValues
  | displayHelp
  | displayVersion
  /-- There are no arguments at all. -/
  | displayHelpOnMissing
  deriving DecidableEq, Repr

namespace UsageError

def reason? : UsageError → Option String
  | .valueValidation reason => some reason
  | _ => none

/-- Being asked for help or for the version is no failure. -/
def exitCode : UsageError → Nat
  | .displayHelp => 0
  | .displayVersion => 0
  | _ => 2

end UsageError

end HartDebug
