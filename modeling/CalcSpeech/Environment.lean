/-!
# Environments

The variables that a program is started with.
-/

namespace CalcSpeech

/-- Variables with their values. -/
abbrev Environment := List (String × String)

/-- The value of a variable that is set. -/
def Environment.get? (env : Environment) (name : String) : Option String := env.lookup name

end CalcSpeech
