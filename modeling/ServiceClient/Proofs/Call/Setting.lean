import Mathlib.Tactic.Lemma
import ServiceClient.Call.Builder

/-!
# The setting that counts

Each part of a builder is changed by some kinds of settings only. An `Aspect` is such a part with
what a setting tells of it; `get_setAll` says that of several settings the last one that tells
anything counts.
-/

namespace ServiceClient.Builder

/-- A part of a builder that settings replace. -/
structure Aspect (α : Type) where
  get : Builder → α
  /-- What a setting tells of the part. -/
  told : Setting → Option α
  get_set : ∀ b s, get (b.set s) = (told s).getD (get b)

namespace Aspect

variable {α β : Type}

/-- What several settings, one after the other, tell of a part. -/
def last (F : Aspect α) (l : List Setting) : Option α :=
  l.reverse.findSome? F.told

@[simp] lemma last_nil (F : Aspect α) : F.last [] = none := rfl

@[simp] lemma last_cons (F : Aspect α) (s : Setting) (l : List Setting) :
    F.last (s :: l) = (F.last l).or (F.told s) := by
  cases told : F.told s <;> simp [last, List.findSome?_append, told]

@[simp] lemma last_append (F : Aspect α) (l₁ l₂ : List Setting) :
    F.last (l₁ ++ l₂) = (F.last l₂).or (F.last l₁) := by
  simp [last, List.findSome?_append]

@[simp] lemma last_toList (F : Aspect α) (o : Option Setting) :
    F.last o.toList = o.bind F.told := by
  cases o <;> simp

@[simp] lemma last_ite (F : Aspect α) (p : Prop) [Decidable p] (l₁ l₂ : List Setting) :
    F.last (if p then l₁ else l₂) = if p then F.last l₁ else F.last l₂ := by
  split <;> rfl

/-- Settings that tell nothing of a part leave it as it is. -/
lemma last_map_of_none (F : Aspect α) (f : β → Setting) (none_told : ∀ x, F.told (f x) = none)
    (xs : List β) : F.last (xs.map f) = none := by
  simp [last, List.findSome?_eq_none_iff, none_told]

/-- Something is told of a part when one of the settings tells it. -/
lemma last_isSome (F : Aspect α) (l : List Setting) :
    (F.last l).isSome ↔ ∃ s ∈ l, (F.told s).isSome := by
  simp [last, List.findSome?_isSome_iff]

/-- The last setting that tells anything of a part counts. -/
lemma get_setAll (F : Aspect α) (b : Builder) (l : List Setting) :
    F.get (b.setAll l) = (F.last l).getD (F.get b) := by
  induction l generalizing b with
  | nil => rfl
  | cons s l ih =>
    have step : F.get ((b.set s).setAll l) = (F.last l).getD (F.get (b.set s)) := ih (b.set s)
    rw [show b.setAll (s :: l) = (b.set s).setAll l from rfl, step, F.get_set, last_cons]
    cases F.last l <;> rfl

/-- What is logged. -/
def loggerLevel : Aspect LoggerLevel where
  get := Builder.loggerLevel
  told | .loggerLevel level => some level | _ => none
  get_set := by rintro b (_ | _) <;> rfl

/-- The limit for making a connection. -/
def connectTimeout : Aspect Duration where
  get b := b.options.connectTimeout
  told
    | .options o => some o.connectTimeout
    | .limits connect _ _ => connect.map Duration.ofMillis
    | .connectTimeout d => some d
    | _ => none
  get_set := by rintro b (_ | _) <;> rfl

/-- The limit for getting an answer. -/
def readTimeout : Aspect Duration where
  get b := b.options.readTimeout
  told
    | .options o => some o.readTimeout
    | .limits _ read _ => read.map Duration.ofMillis
    | .readTimeout d => some d
    | _ => none
  get_set := by rintro b (_ | _) <;> rfl

/-- Whether redirects are followed. -/
def followRedirects : Aspect Bool where
  get b := b.options.followRedirects
  told
    | .options o => some o.followRedirects
    | .limits _ _ follow => follow
    | _ => none
  get_set := by rintro b (_ | _) <;> rfl

/-- The retry policy. -/
def retry : Aspect (Component RetryPolicy) where
  get := Builder.retry
  told | .retry c => some c | _ => none
  get_set := by rintro b (_ | _) <;> rfl

/-- Whether a response of status 404 is decoded; no setting tells that it is not. -/
def decode404 : Aspect Bool where
  get := Builder.decode404
  told | .decode404 => some true | _ => none
  get_set := by rintro b (_ | _) <;> rfl

/-- What becomes of the last error of a call. -/
def exceptionPolicy : Aspect ExceptionPolicy where
  get := Builder.exceptionPolicy
  told | .exceptionPolicy policy => some policy | _ => none
  get_set := by rintro b (_ | _) <;> rfl

/-- The encoder. -/
def encoder : Aspect (Component Encoder) where
  get := Builder.encoder
  told | .encoder c => some c | _ => none
  get_set := by rintro b (_ | _) <;> rfl

/-- The decoder. -/
def decoder : Aspect (Component Decoder) where
  get := Builder.decoder
  told | .decoder c => some c | _ => none
  get_set := by rintro b (_ | _) <;> rfl

/-- The contract. -/
def contract : Aspect (Component Contract) where
  get := Builder.contract
  told | .contract c => some c | _ => none
  get_set := by rintro b (_ | _) <;> rfl

/-- The error decoder. -/
def errorDecoder : Aspect (Component ErrorDecoder) where
  get := Builder.errorDecoder
  told | .errorDecoder c => some c | _ => none
  get_set := by rintro b (_ | _) <;> rfl

/-- The encoder of query maps. -/
def queryMapEncoder : Aspect (Component QueryMapEncoder) where
  get := Builder.queryMapEncoder
  told | .queryMapEncoder c => some c | _ => none
  get_set := by rintro b (_ | _) <;> rfl

/-- The interceptors of the scope. -/
def scopeInterceptors : Aspect (List (Component Interceptor)) where
  get := Builder.scopeInterceptors
  told | .scopeInterceptors cs => some cs | _ => none
  get_set := by rintro b (_ | _) <;> rfl

/-- The transport. -/
def transport : Aspect (Option (Component Transport)) where
  get := Builder.transport
  told | .transport c => some (some c) | _ => none
  get_set := by rintro b (_ | _) <;> rfl

/-- How the commands of the client are named. -/
def setterFactory : Aspect (Option (Component SetterFactory)) where
  get := Builder.setterFactory
  told | .setterFactory c => some (some c) | _ => none
  get_set := by rintro b (_ | _) <;> rfl

end Aspect

/-- The interceptor that a setting adds. -/
def added? : Setting → Option (Component Interceptor)
  | .interceptor c => some c
  | _ => none

/-- A setting that may be missing adds what it adds if it is there. -/
lemma added_toList (o : Option Setting) : o.toList.filterMap added? = (o.bind added?).toList := by
  cases o with
  | none => rfl
  | some s => cases added : added? s <;> simp [added]

/-- Settings that add interceptors add all of them. -/
lemma added_interceptors (cs : List (Component Interceptor)) :
    (cs.map Setting.interceptor).filterMap added? = cs := by
  simp [List.filterMap_map, Function.comp_def, added?]

/-- Interceptors are added one behind the other, whatever is set in between. -/
lemma addedInterceptors_setAll (b : Builder) (l : List Setting) :
    (b.setAll l).addedInterceptors = b.addedInterceptors ++ l.filterMap added? := by
  induction l generalizing b with
  | nil => simp [setAll]
  | cons s l ih =>
    rw [show b.setAll (s :: l) = (b.set s).setAll l from rfl, ih (b.set s)]
    cases s <;> simp [set, added?, List.filterMap_cons]

/-- The kind of a client is never changed. -/
lemma template_setAll (b : Builder) (l : List Setting) : (b.setAll l).template = b.template := by
  induction l generalizing b with
  | nil => rfl
  | cons s l ih =>
    rw [show b.setAll (s :: l) = (b.set s).setAll l from rfl, ih (b.set s)]
    cases s <;> rfl

end ServiceClient.Builder
