import ServiceClient.Factory.Creation

/-!
# Runs of a factory

The operations of a factory, one after the other.
-/

namespace ServiceClient.Factory

/-- An operation of a factory. -/
inductive Operation (γ : Type := Configuration Kind.Value) (τ : Type := String) where
  | register (declaration : Declaration γ)
  | registerDefault (name : String) (configuration : γ)
  | resolve (contextId : String)
  | create (capability : τ) (contextId : String)
  | get (capability : τ) (contextId : String)
  | getQualified (capability : τ) (qualifier : String)
  | getPrimary (capability : τ)

/-- The answer to an operation. -/
inductive Reply (γ : Type := Configuration Kind.Value) where
  | registered (result : Except FactoryError (Descriptor γ))
  | done
  | resolved (result : Except FactoryError EffectiveConfiguration)
  | client (result : Except FactoryError MadeClient)

variable {γ : Type}

/-- Whether an operation failed. -/
def Reply.failed : Reply γ → Bool
  | registered (.error _) | resolved (.error _) | client (.error _) => true
  | _ => false

variable {τ : Type} [Acts Kind.Value γ] [Reporting γ] [Capability τ]

/-- Carries out an operation. -/
def step (f : Factory γ τ) : Operation γ τ → Reply γ × Factory γ τ
  | .register d => let r := f.register d; (.registered r.value, r.factory)
  | .registerDefault name c => (.done, (f.registerDefault name c).factory)
  | .resolve id => let r := f.resolve id; (.resolved r.value, r.factory)
  | .create t id => let r := f.create t id; (.client r.value, r.factory)
  | .get t id => let r := f.get t id; (.client r.value, r.factory)
  | .getQualified t q => let r := f.getQualified t q; (.client r.value, r.factory)
  | .getPrimary t => let r := f.getPrimary t; (.client r.value, r.factory)

/-- Carries out operations, one after the other. -/
def run (f : Factory γ τ) : List (Operation γ τ) → List (Reply γ) × Factory γ τ
  | [] => ([], f)
  | op :: ops =>
    let (reply, f) := f.step op
    let (replies, f) := f.run ops
    (reply :: replies, f)

end ServiceClient.Factory
