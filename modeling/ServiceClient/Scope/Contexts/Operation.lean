import ServiceClient.Scope.Contexts

/-!
# Operations on contexts

The operations that give configurations to contexts and take scopes into use, one after the other.
-/

namespace ServiceClient.Contexts

/-- An operation on contexts. -/
inductive Operation (γ : Type) where
  | addDefault (configuration : γ)
  | add (name : String) (configuration : γ)
  | replace (name : String) (configurations : List γ)
  /-- Takes the scope of a context into use. -/
  | use (contextId : String)

variable {κ : Type} {β : κ → Type} {γ : Type} [Acts β γ]

/-- Carries out an operation. -/
def step (cs : Contexts β γ) : Operation γ → Contexts β γ
  | .addDefault c => cs.addDefault c
  | .add name c => cs.addConfiguration name c
  | .replace name configurations => cs.replaceConfigurations name configurations
  | .use id => cs.ensure id

/-- Carries out operations, one after the other. -/
def run (cs : Contexts β γ) (ops : List (Operation γ)) : Contexts β γ :=
  ops.foldl step cs

end ServiceClient.Contexts
