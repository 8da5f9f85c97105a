import KotlinMocks.Emit.Unit

/-!
# Why generation stops

Unresolved or ineligible targets are not failures: a session defers or skips them. What is
left here stops the session, and every message names the type at fault and, where there is
one, the member.
-/

namespace KotlinMocks

/-- A reason a session stops. -/
inductive GenerateError where
  | missingQualifiedName (simpleName : String)
  | missingReturnType (target member : String)
  | missingContainingFile (target : String)
  | unnamedParameter (target member : String)
  /-- The sink refused a unit. -/
  | sink (unit : String) (cause : IoFailure)
  deriving Inhabited

namespace GenerateError

/-- The name of the kind of failure. -/
def kindName : GenerateError → String
  | .missingQualifiedName _ => "MissingQualifiedName"
  | .missingReturnType _ _ => "MissingReturnType"
  | .missingContainingFile _ => "MissingContainingFile"
  | .unnamedParameter _ _ => "UnnamedParameter"
  | .sink _ _ => "Sink"

/-- The sentence that describes the failure. -/
def message : GenerateError → String
  | .missingQualifiedName n => "target `" ++ n ++ "` has no qualified name"
  | .missingReturnType t m => "`" ++ t ++ "`: function `" ++ m ++ "` has no resolved return type"
  | .missingContainingFile t => "`" ++ t ++ "` has no containing file to depend on"
  | .unnamedParameter t m => "`" ++ t ++ "`: a parameter of `" ++ m ++ "` has no name"
  | .sink u _ => "failed to write generated unit `" ++ u ++ "`"

/-- The sentences of the failure and of what caused it, outermost first. -/
def causes : GenerateError → List String
  | e@(.sink _ cause) => [e.message, cause.message]
  | e => [e.message]

end GenerateError

end KotlinMocks
