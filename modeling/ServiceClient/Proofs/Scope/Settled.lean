import Mathlib.Data.List.Basic
import Mathlib.Data.List.Induction
import Mathlib.Data.List.Pairwise
import ServiceClient.Proofs.Scope.Lookup

/-!
# Which registrations settle

Of several components of one kind and name only the one registered last stays. `settled` reads this
off a list of registrations, and `findAllLocal_registerAll` says that it is what a new scope shows
after them.
-/

namespace ServiceClient

variable {κ : Type} [DecidableEq κ] {β : κ → Type}

/-- The last component of a kind among several registrations. -/
def lastOfKind? (k : κ) (es : List (Entry β)) : Option (Component (β k)) :=
  es.reverse.findSome? (·.ofKind? k)

/-- Later registrations come before earlier ones. -/
lemma lastOfKind?_append (k : κ) (es es' : List (Entry β)) :
    lastOfKind? k (es ++ es') = (lastOfKind? k es').or (lastOfKind? k es) := by
  rw [lastOfKind?, List.reverse_append, List.findSome?_append, lastOfKind?, lastOfKind?]

/-- Components without those that have a later one of their name. -/
def lastOfName {α : Type} (cs : List (Component α)) : List (Component α) :=
  cs.pwFilter fun x y => x.name ≠ y.name

/-- The components of a kind among several registrations; of several of one name, the last one. -/
def settled (k : κ) (es : List (Entry β)) : List (Component (β k)) :=
  lastOfName (es.filterMap (·.ofKind? k))

/-- A component in front stays unless a later one bears its name. -/
lemma lastOfName_cons {α : Type} (y : Component α) (cs : List (Component α)) :
    lastOfName (y :: cs) =
      if ∀ x ∈ lastOfName cs, y.name ≠ x.name then y :: lastOfName cs else lastOfName cs := rfl

/-- A component at the end replaces those of its name. -/
lemma lastOfName_concat {α : Type} (cs : List (Component α)) (x : Component α) :
    lastOfName (cs ++ [x]) = (lastOfName cs).filter (·.name != x.name) ++ [x] := by
  induction cs with
  | nil => rfl
  | cons y cs ih =>
    rw [List.cons_append, lastOfName_cons, lastOfName_cons, ih]
    -- the new component replaces `y` itself, or else does not count for it
    by_cases same : y.name = x.name
    · have replaced : ¬ ∀ z ∈ (lastOfName cs).filter (·.name != x.name) ++ [x], y.name ≠ z.name :=
        fun new => new x (by simp) same
      rw [if_neg replaced]
      split
      · rw [List.filter_cons_of_neg (by simpa using same)]
      · rfl
    · have unchanged : (∀ z ∈ (lastOfName cs).filter (·.name != x.name) ++ [x], y.name ≠ z.name) ↔
          ∀ z ∈ lastOfName cs, y.name ≠ z.name := by
        constructor
        · intro new z mem named
          refine new z ?_ named
          have other : z.name ≠ x.name := fun eq => same (named.trans eq)
          exact List.mem_append_left _ (List.mem_filter.2 ⟨mem, by simpa using other⟩)
        · intro new z mem
          rcases List.mem_append.1 mem with mem | mem
          · exact new z (List.mem_filter.1 mem).1
          · rwa [List.mem_singleton.1 mem]
      simp only [unchanged]
      split
      · rw [List.filter_cons_of_pos (by simpa using same), List.cons_append]
      · rfl

/-- Registrations may change places when not both of them have components of the kind. -/
lemma settled_swap {k : κ} {es es' : List (Entry β)} (before : List (Entry β))
    (apart : es.filterMap (·.ofKind? k) = [] ∨ es'.filterMap (·.ofKind? k) = []) :
    settled k (before ++ (es ++ es')) = settled k (before ++ es' ++ es) := by
  unfold settled
  rcases apart with none | none <;> simp [none]

namespace Scope

/-- A registration replaces the component of its kind and name. -/
lemma findAllLocal_register (s : Scope β) (e : Entry β) (k : κ) :
    (s.register e).findAllLocal k =
      match e.ofKind? k with
      | some x => (s.findAllLocal k).filter (·.name != x.name) ++ [x]
      | none => s.findAllLocal k := by
  obtain ⟨k', x⟩ := e
  have kept : (s.entries.filter (!·.isAt k' x.name)).filterMap (·.ofKind? k) =
      (s.findAllLocal k).filter fun y => decide (k' ≠ k) || y.name != x.name := by
    unfold findAllLocal
    rw [List.filterMap_filter, List.filter_filterMap]
    refine List.filterMap_congr fun e _ => ?_
    cases found : e.ofKind? k with
    | none => simp
    | some y =>
      cases Entry.ofKind?_eq_some.1 found
      have away : (!(⟨k, y⟩ : Entry β).isAt k' x.name) = (decide (k' ≠ k) || y.name != x.name) := by
        simp [Entry.isAt, Entry.name, Bool.not_and, bne, eq_comm (a := k)]
      rw [Option.filter_some, away]
  by_cases same : k' = k
  · subst same
    simpa [register, findAllLocal, Entry.name] using kept
  · rw [Entry.ofKind?_of_ne same]
    simpa [register, findAllLocal, Entry.name, same, Entry.ofKind?_of_ne, List.filter_true]
      using kept

/-- What is registered last wins, and what was there before wins if nothing of its kind is. -/
lemma findLocal?_registerAll (s : Scope β) (es : List (Entry β)) (k : κ) :
    (s.registerAll es).findLocal? k = (lastOfKind? k es).or (s.findLocal? k) := by
  induction es using List.reverseRecOn with
  | nil => rfl
  | append_singleton es e ih =>
    have last : s.registerAll (es ++ [e]) = (s.registerAll es).register e :=
      List.foldl_concat _ _ _ _
    rw [last, findLocal?_eq_getLast?, findAllLocal_register, lastOfKind?_append, Option.or_assoc,
      ← ih, findLocal?_eq_getLast?]
    cases found : e.ofKind? k with
    | none => simp [lastOfKind?, found]
    | some x => simp [lastOfKind?, found]

/-- Alike scopes stay alike under the same registrations. -/
lemma Alike.registerAll {s t : Scope β} (alike : s.Alike t) (es : List (Entry β)) :
    (s.registerAll es).Alike (t.registerAll es) := by
  induction es generalizing s t with
  | nil => exact alike
  | cons e es ih =>
    refine ih fun k => ?_
    rw [findAllLocal_register, findAllLocal_register, alike k]

/-- What a new scope shows after several registrations. -/
lemma findAllLocal_registerAll (name : String) (es : List (Entry β)) (k : κ) :
    (registerAll ⟨name, []⟩ es).findAllLocal k = settled k es := by
  induction es using List.reverseRecOn with
  | nil => rfl
  | append_singleton es e ih =>
    have last : registerAll ⟨name, []⟩ (es ++ [e]) = (registerAll ⟨name, []⟩ es).register e :=
      List.foldl_concat _ _ _ _
    rw [last, findAllLocal_register, ih, settled, settled, List.filterMap_append]
    cases found : e.ofKind? k with
    | none => simp [found]
    | some x => simp [found, lastOfName_concat]

end Scope
end ServiceClient
