import Mathlib.Data.List.DropRight
import ServiceClient.Proofs.Declaration.Describe
import ServiceClient.Proofs.Steps

/-!
# The checks of a declaration

A declaration is checked for a name, a context id, a fallback and an address. `Flaw` says what may
be wrong for each check, whatever else is wrong, and `Refused` which flaw is told when there are
several. `describeWith_wellFormed` says that a declaration is refused for the first of its flaws,
and that one without a flaw has a descriptor, which takes its parts from the declaration as `Gives`
says and is `WellFormed`. Placeholders may be resolved in any way.
-/

namespace ServiceClient

namespace Text

/-- A text without the characters of a kind that stand around it. -/
structure Inner (p : Char → Bool) (cs inner : List Char) : Prop where
  parts : ∃ front back, cs = front ++ inner ++ back ∧ ∀ c ∈ front ++ back, p c = true
  head : ∀ c ∈ inner.head?, p c = false
  last : ∀ c ∈ inner.getLast?, p c = false

/-- What is left between dropped characters is an inner text. -/
lemma inner_dropBoth (p : Char → Bool) (cs : List Char) : Inner p cs (dropBoth p cs) := by
  let rest := cs.dropWhile p
  have inner : dropBoth p cs = rest.rdropWhile p := rfl
  have whole : dropBoth p cs ++ rest.rtakeWhile p = rest := List.rdropWhile_append_rtakeWhile
  refine ⟨⟨cs.takeWhile p, rest.rtakeWhile p, ?_, ?_⟩, fun c first => ?_, fun c last => ?_⟩
  · rw [List.append_assoc, whole, List.takeWhile_append_dropWhile]
  · intro c mem
    rcases List.mem_append.1 mem with mem | mem
    · exact List.mem_takeWhile_imp mem
    · exact List.mem_rtakeWhile_imp mem
  · -- the first character that is left also stands first before anything is dropped at the end
    have first' : rest.head? = some c := by
      rw [← whole, List.head?_append, first, Option.some_or]
    have kept := List.head?_dropWhile_not p cs
    rw [first'] at kept
    exact kept
  · rw [inner] at last
    obtain ⟨filled, rfl⟩ := List.mem_getLast?_eq_getLast last
    exact Bool.eq_false_iff.2 (List.rdropWhile_last_not p rest filled)

/-- A trimmed text is as blank as before. -/
lemma allBlank_trim (s : String) : allBlank (trim s) = allBlank s := by
  obtain ⟨front, back, parts, blank⟩ := (inner_dropBoth isBlank s.toList).parts
  have front' : front.all isBlank = true :=
    List.all_eq_true.2 fun c mem => blank c (List.mem_append_left _ mem)
  have back' : back.all isBlank = true :=
    List.all_eq_true.2 fun c mem => blank c (List.mem_append_right _ mem)
  rw [allBlank, allBlank, trim, String.toList_ofList, parts, List.all_append, List.all_append,
    front', back', Bool.true_and, Bool.and_true, ← parts]

/-- The first of some texts that is there and not blank, trimmed. -/
def First (values : List (Option String)) (text : String) : Prop :=
  ∃ before s after, values = before ++ some s :: after ∧
    (∀ s', some s' ∈ before → allBlank s' = true) ∧ allBlank s = false ∧ text = trim s

/-- Texts of which none is there that is not blank. -/
def Blanks (values : List (Option String)) : Prop :=
  ∀ s, some s ∈ values → allBlank s = true

lemma attribute?_eq_none {value : Option String} :
    Declaration.attribute? value = none ↔ ∀ s, value = some s → allBlank s = true := by
  cases value <;> simp [Declaration.attribute?, nonBlank?]

lemma attribute?_eq_some {value : Option String} {text : String} :
    Declaration.attribute? value = some text ↔
      ∃ s, value = some s ∧ allBlank s = false ∧ text = trim s := by
  cases value with
  | none => simp [Declaration.attribute?]
  | some s =>
    rw [Declaration.attribute?, Option.bind_some, nonBlank?]
    cases blank : allBlank s
    · simp [blank, eq_comm (a := text)]
    · simp [blank]

lemma first_iff {values : List (Option String)} {text : String} :
    First values text ↔ values.findSome? Declaration.attribute? = some text := by
  rw [List.findSome?_eq_some_iff]
  constructor
  · rintro ⟨before, s, after, rfl, blank, filled, rfl⟩
    refine ⟨before, some s, after, rfl, attribute?_eq_some.2 ⟨s, rfl, filled, rfl⟩, ?_⟩
    exact fun v mem => attribute?_eq_none.2 fun s' eq => blank s' (eq ▸ mem)
  · rintro ⟨before, v, after, rfl, found, blank⟩
    obtain ⟨s, rfl, filled, eq⟩ := attribute?_eq_some.1 found
    have blank' (s' : String) (mem : some s' ∈ before) : allBlank s' = true :=
      attribute?_eq_none.1 (blank _ mem) s' rfl
    exact ⟨before, s, after, rfl, blank', filled, eq⟩

lemma blanks_iff {values : List (Option String)} :
    Blanks values ↔ values.findSome? Declaration.attribute? = none := by
  rw [List.findSome?_eq_none_iff]
  constructor
  · exact fun blank v mem => attribute?_eq_none.2 fun s eq => blank s (eq ▸ mem)
  · exact fun blank s mem => attribute?_eq_none.1 (blank _ mem) s rfl

lemma first_singleton {value : Option String} {text : String} :
    First [value] text ↔ Declaration.attribute? value = some text := by
  rw [first_iff, List.findSome?_singleton]

lemma blanks_singleton {value : Option String} :
    Blanks [value] ↔ Declaration.attribute? value = none := by
  rw [blanks_iff, List.findSome?_singleton]

/-- Of some texts one is the first, or there is none. -/
lemma first_or_blanks (values : List (Option String)) :
    (∃ text, First values text) ∨ Blanks values := by
  cases found : values.findSome? Declaration.attribute? with
  | none => exact .inr (blanks_iff.2 found)
  | some text => exact .inl ⟨text, first_iff.2 found⟩

lemma First.unique {values : List (Option String)} {text text' : String}
    (first : First values text) (first' : First values text') : text = text' := by
  rw [first_iff] at first first'
  exact Option.some_inj.1 (first.symm.trans first')

lemma First.not_blanks {values : List (Option String)} {text : String}
    (first : First values text) : ¬Blanks values := by
  rw [blanks_iff, first_iff.1 first]
  exact Option.some_ne_none text

lemma First.not_allBlank {values : List (Option String)} {text : String}
    (first : First values text) : allBlank text = false := by
  obtain ⟨_, s, _, -, -, filled, rfl⟩ := first
  rw [allBlank_trim, filled]

end Text

namespace Address

/-- A text is not an address for a certain cause: it is neither blank nor left to be computed by
someone else, but cannot be read with a scheme. -/
def Malformed (text : String) (cause : Url.Error) : Prop :=
  Text.trim text ≠ "" ∧ isDeferred (Text.trim text) = false ∧
    Url.parse (withScheme (Text.trim text)) = .error cause

/-- An address has no normal form exactly when it is malformed. -/
lemma normalize_error {text : String} {e : FactoryError} :
    normalize text = .error e ↔
      ∃ cause, Malformed text cause ∧ e = .malformedUrl (withScheme (Text.trim text)) cause := by
  unfold normalize Malformed
  dsimp only
  by_cases left : ((Text.trim text).isEmpty || isDeferred (Text.trim text)) = true
  · rw [if_pos left]
    refine iff_of_false (fun eq => nomatch eq) ?_
    rintro ⟨cause, ⟨filled, computed, -⟩, -⟩
    simp [computed, filled] at left
  · rw [if_neg left]
    simp only [Bool.or_eq_true, String.isEmpty_iff, not_or, Bool.not_eq_true] at left
    cases Url.parse (withScheme (Text.trim text)) with
    | error cause => simp [left.1, left.2, eq_comm]
    | ok url => simp

end Address

namespace ClientName

variable {name : String}

lemma check_ok {name' : String} : check name = .ok name' ↔ flaw? name = none ∧ name = name' := by
  unfold check
  cases flaw? name <;> simp

lemma check_error {e : FactoryError} :
    check name = .error e ↔ ∃ flaw, flaw? name = some flaw ∧ e = .invalidName name flaw := by
  unfold check
  cases flaw? name <;> simp [eq_comm]

end ClientName

/-- What everything that works with descriptors can rely on. -/
structure Descriptor.WellFormed (desc : Descriptor) : Prop where
  name : ClientName.flaw? desc.name = none
  contextId : ClientName.flaw? desc.contextId = none
  url : desc.url ≠ some ""
  path : desc.path = "" ∨ ∃ c cs, desc.path.toList = '/' :: c :: cs ∧ c ≠ '/' ∧
    (c :: cs).getLast? ≠ some '/'
  fallback (t : TypeRef) : desc.fallback = .delegate t ∨ desc.fallback = .factory t →
    t.isInterface = false
  qualifiers : desc.qualifiers ≠ []
  qualifier (q : String) : q ∈ desc.qualifiers → Text.allBlank q = false

namespace Declaration

/-- The checks of a declaration. -/
inductive Check where
  | name
  | contextId
  /-- At most one fallback is declared. -/
  | oneFallback
  /-- No fallback is an interface. -/
  | noInterface
  | url
  deriving DecidableEq, Repr

/-- The checks in their order. -/
def Check.inOrder : List Check := [.name, .contextId, .oneFallback, .noInterface, .url]

section

variable (d : Declaration) (resolve : String → String)

/-- The name that a declaration gives: that of a service stands before all others. -/
def Named (name : String) : Prop :=
  ∃ given, Text.First [d.serviceId, d.name, d.value] given ∧ name = resolve given

/-- The context id that a declaration gives: its own one, or else its name. -/
inductive Identified : String → Prop
  | own {given : String} : Text.First [d.contextId] given → Identified (resolve given)
  | name {name : String} : Text.Blanks [d.contextId] → d.Named resolve name → Identified name

/-- What is wrong with a declaration for a check. -/
inductive Flaw : Check → FactoryError → Prop
  | nameless : Text.Blanks [d.serviceId, d.name, d.value] →
    Flaw .name (.invalidName "" (.missing d.clientType.name))
  | name {name : String} {flaw : NameFlaw} : d.Named resolve name →
    ClientName.flaw? name = some flaw → Flaw .name (.invalidName name flaw)
  | contextId {id : String} {flaw : NameFlaw} : d.Identified resolve id →
    ClientName.flaw? id = some flaw → Flaw .contextId (.invalidName id flaw)
  | conflict {id : String} {t f : TypeRef} : d.Identified resolve id → d.fallback = some t →
    d.fallbackFactory = some f → Flaw .oneFallback (.conflictingFallback id t.name f.name)
  | delegate {t : TypeRef} : d.fallback = some t → t.isInterface = true →
    Flaw .noInterface (.interfaceFallback .fallback t.name)
  | factory {f : TypeRef} : d.fallbackFactory = some f → f.isInterface = true →
    Flaw .noInterface (.interfaceFallback .fallbackFactory f.name)
  | url {given : String} {cause : Url.Error} : Text.First [d.url] given →
    Address.Malformed (resolve given) cause →
    Flaw .url (.malformedUrl (Address.withScheme (Text.trim (resolve given))) cause)

/-- The flaw that is told for some checks: that for the first one that fails. -/
def Refused : List Check → FactoryError → Prop
  | [], _ => False
  | c :: cs, e => d.Flaw resolve c e ∨ (∀ e', ¬d.Flaw resolve c e') ∧ Refused cs e

/-- The qualifiers that a declaration gives to a client with a context id. -/
inductive Qualified (id : String) : List String → Prop
  | own {q : String} {qs : List String} : d.qualifiers.filter (!Text.allBlank ·) = q :: qs →
    Qualified id (q :: qs)
  | single {q : String} : Text.Blanks (d.qualifiers.map some) → Text.First [d.qualifier] q →
    Qualified id [q]
  | usual : Text.Blanks (d.qualifiers.map some) → Text.Blanks [d.qualifier] →
    Qualified id [id ++ "Client"]

/-- The parts of a descriptor come from a declaration. -/
structure Gives (desc : Descriptor) : Prop where
  clientType : desc.clientType = d.clientType
  name : d.Named resolve desc.name
  contextId : d.Identified resolve desc.contextId
  noUrl : Text.Blanks [d.url] → desc.url = none
  url (given : String) : Text.First [d.url] given → ∃ url,
    Address.normalize (resolve given) = .ok url ∧ desc.url = if url = "" then none else some url
  noPath : d.path = none → desc.path = ""
  path (given : String) : d.path = some given → ∃ inner,
    Text.Inner (· == '/') (Text.trim (resolve given)).toList inner ∧
      desc.path.toList = if inner = [] then [] else '/' :: inner
  fallback : desc.fallback.delegate? = d.fallback
  fallbackFactory : desc.fallback.factory? = d.fallbackFactory
  qualifiers : d.Qualified desc.contextId desc.qualifiers
  decode404 : desc.decode404 = d.decode404
  primary : desc.primary = d.primary
  configurations : desc.configurations = d.configurations
  customizers : desc.customizers = d.customizers

end

section

variable {d : Declaration} {resolve : String → String} {name id : String} {e : FactoryError}

lemma givenName?_eq (d : Declaration) :
    d.givenName? = [d.serviceId, d.name, d.value].findSome? attribute? := by
  rw [givenName?, List.findSome?_cons, List.findSome?_cons, List.findSome?_singleton]
  cases attribute? d.serviceId <;> cases attribute? d.name <;> rfl

/-! ### One check after the other -/

/-- Checks fail one after the other: the later ones count only if no earlier one fails. -/
lemma refused_append {cs cs' : List Check} :
    d.Refused resolve (cs ++ cs') e ↔
      d.Refused resolve cs e ∨ (∀ e', ¬d.Refused resolve cs e') ∧ d.Refused resolve cs' e := by
  induction cs with
  | nil => simp [Refused]
  | cons c cs ih =>
    rw [List.cons_append, Refused, Refused, ih]
    by_cases none : ∀ e', ¬d.Flaw resolve c e'
    · simp [Refused, none]
    · obtain ⟨e', flaw⟩ := not_forall_not.1 none
      have later : ¬∀ e', ¬d.Refused resolve (c :: cs) e' := fun all => all e' (.inl flaw)
      simp [none, later]

/-- A declaration is refused exactly when one of the checks fails. -/
lemma exists_refused_iff {cs : List Check} :
    (∃ e, d.Refused resolve cs e) ↔ ∃ c ∈ cs, ∃ e, d.Flaw resolve c e := by
  induction cs with
  | nil => simp [Refused]
  | cons c cs ih =>
    rw [List.exists_mem_cons_iff, ← ih]
    by_cases none : ∀ e', ¬d.Flaw resolve c e'
    · simp [Refused, none]
    · have flaw := not_forall_not.1 none
      simp [Refused, none, flaw]

/-- Steps that carry out checks one after the other tell the flaw of the first check that fails. -/
lemma refused_bind {α β : Type} {x : Except FactoryError α} {f : α → Except FactoryError β}
    (cs : List Check) {cs' : List Check} (fails : ∀ e, x = .error e ↔ d.Refused resolve cs e)
    (later : ∀ a, x = .ok a → ∀ e, f a = .error e ↔ d.Refused resolve cs' e) (e : FactoryError) :
    (x >>= f) = .error e ↔ d.Refused resolve (cs ++ cs') e := by
  rw [refused_append, ← fails]
  cases x with
  | error e' =>
    have first : ¬∀ e', ¬d.Refused resolve cs e' := fun all => all e' ((fails e').1 rfl)
    rw [or_iff_left fun ⟨all, _⟩ => first all]
    exact ⟨fun eq => congrArg Except.error (Except.error.inj eq),
      fun eq => congrArg Except.error (Except.error.inj eq)⟩
  | ok a =>
    have all (e' : FactoryError) : ¬d.Refused resolve cs e' :=
      fun refused => nomatch (fails e').2 refused
    have ok : (Except.ok a : Except FactoryError α) ≠ .error e := fun eq => nomatch eq
    rw [or_iff_right ok, and_iff_right all]
    exact later a rfl e

lemma refused_singleton {c : Check} : d.Refused resolve [c] e ↔ d.Flaw resolve c e := by
  simp [Refused]

/-! ### The name -/

lemma named_iff : d.Named resolve name ↔ d.givenName?.map resolve = some name := by
  simp only [Named, Text.first_iff, ← givenName?_eq, Option.map_eq_some_iff, eq_comm (a := name)]

lemma checkedName_ok (checked : d.checkedName resolve = .ok name) :
    d.Named resolve name ∧ ClientName.flaw? name = none := by
  rw [named_iff]
  unfold checkedName at checked
  cases given : d.givenName? with
  | none =>
    rw [given] at checked
    cases checked
  | some text =>
    rw [given] at checked
    obtain ⟨flawless, rfl⟩ := ClientName.check_ok.1 checked
    exact ⟨rfl, flawless⟩

lemma checkedName_error : d.checkedName resolve = .error e ↔ d.Flaw resolve .name e := by
  unfold checkedName
  cases given : d.givenName? with
  | none =>
    have blanks : Text.Blanks [d.serviceId, d.name, d.value] := by
      rw [Text.blanks_iff, ← givenName?_eq, given]
    refine ⟨fun eq => Except.error.inj eq ▸ .nameless blanks, fun flaw => ?_⟩
    cases flaw with
    | nameless => rfl
    | name named =>
      obtain ⟨_, first, -⟩ := named
      exact (first.not_blanks blanks).elim
  | some text =>
    have first : Text.First [d.serviceId, d.name, d.value] text := by
      rw [Text.first_iff, ← givenName?_eq, given]
    rw [ClientName.check_error]
    refine ⟨fun ⟨flaw, flawed, eq⟩ => eq ▸ .name ⟨text, first, rfl⟩ flawed, fun flaw => ?_⟩
    cases flaw with
    | nameless blanks => exact (first.not_blanks blanks).elim
    | name named flawed =>
      obtain ⟨_, first', rfl⟩ := named
      cases first.unique first'
      exact ⟨_, flawed, rfl⟩

/-! ### The context id -/

lemma Identified.unique {id' : String} (identified : d.Identified resolve id)
    (identified' : d.Identified resolve id') : id = id' := by
  cases identified with
  | own first =>
    cases identified' with
    | own first' => rw [first.unique first']
    | name blanks => exact (first.not_blanks blanks).elim
  | name blanks named =>
    cases identified' with
    | own first => exact (first.not_blanks blanks).elim
    | name _ named' => exact Option.some_inj.1 ((named_iff.1 named).symm.trans (named_iff.1 named'))

/-- A declaration with a name has a context id, and it is the one that is checked. -/
lemma identified_getD (named : d.Named resolve name) :
    d.Identified resolve (((attribute? d.contextId).map resolve).getD name) := by
  cases own : attribute? d.contextId with
  | none => exact .name (Text.blanks_singleton.2 own) named
  | some given => exact .own (Text.first_singleton.2 own)

lemma checkedContextId_ok (named : d.Named resolve name)
    (checked : d.checkedContextId resolve name = .ok id) :
    d.Identified resolve id ∧ ClientName.flaw? id = none := by
  obtain ⟨flawless, rfl⟩ := ClientName.check_ok.1 checked
  exact ⟨identified_getD named, flawless⟩

lemma checkedContextId_error (named : d.Named resolve name) :
    d.checkedContextId resolve name = .error e ↔ d.Flaw resolve .contextId e := by
  have identified := identified_getD named
  rw [checkedContextId, ClientName.check_error]
  refine ⟨fun ⟨flaw, flawed, eq⟩ => eq ▸ .contextId identified flawed, fun flaw => ?_⟩
  cases flaw with
  | contextId identified' flawed =>
    cases identified.unique identified'
    exact ⟨_, flawed, rfl⟩

/-! ### The fallback -/

lemma checkedFallback_ok {fallback : FallbackSpec}
    (checked : d.checkedFallback id = .ok fallback) :
    fallback.delegate? = d.fallback ∧ fallback.factory? = d.fallbackFactory ∧
      ∀ t, fallback = .delegate t ∨ fallback = .factory t → t.isInterface = false := by
  unfold checkedFallback at checked
  split at checked
  next none none' =>
    cases checked
    exact ⟨none.symm, none'.symm, by simp⟩
  next => cases checked
  next t some none =>
    split at checked
    next => cases checked
    next concrete =>
      cases checked
      exact ⟨some.symm, none.symm, by simpa using concrete⟩
  next f none some =>
    split at checked
    next => cases checked
    next concrete =>
      cases checked
      exact ⟨none.symm, some.symm, by simpa using concrete⟩

/-- Two fallbacks are a conflict, whatever they are. -/
lemma flaw_oneFallback (identified : d.Identified resolve id) :
    d.Flaw resolve .oneFallback e ↔ ∃ t f, d.fallback = some t ∧ d.fallbackFactory = some f ∧
      e = .conflictingFallback id t.name f.name := by
  constructor
  · intro flaw
    cases flaw with
    | conflict identified' declared declared' =>
      cases identified.unique identified'
      exact ⟨_, _, declared, declared', rfl⟩
  · rintro ⟨t, f, declared, declared', rfl⟩
    exact .conflict identified declared declared'

lemma flaw_noInterface : d.Flaw resolve .noInterface e ↔
    (∃ t, d.fallback = some t ∧ t.isInterface = true ∧
      e = .interfaceFallback .fallback t.name) ∨
    ∃ f, d.fallbackFactory = some f ∧ f.isInterface = true ∧
      e = .interfaceFallback .fallbackFactory f.name := by
  constructor
  · intro flaw
    cases flaw with
    | delegate declared shape => exact .inl ⟨_, declared, shape, rfl⟩
    | factory declared shape => exact .inr ⟨_, declared, shape, rfl⟩
  · rintro (⟨t, declared, shape, rfl⟩ | ⟨f, declared, shape, rfl⟩)
    · exact .delegate declared shape
    · exact .factory declared shape

lemma checkedFallback_error (identified : d.Identified resolve id) :
    d.checkedFallback id = .error e ↔ d.Refused resolve [.oneFallback, .noInterface] e := by
  simp only [Refused, flaw_oneFallback identified, flaw_noInterface, checkedFallback]
  cases d.fallback with
  | none =>
    cases d.fallbackFactory with
    | none => simp
    | some f => cases shape : f.isInterface <;> simp [shape, eq_comm (a := e)]
  | some t =>
    cases d.fallbackFactory with
    | none => cases shape : t.isInterface <;> simp [shape, eq_comm (a := e)]
    | some f => simp [eq_comm (a := e)]

/-! ### The address -/

lemma checkedUrl_ok {url : Option String} (checked : d.checkedUrl resolve = .ok url) :
    (Text.Blanks [d.url] → url = none) ∧ ∀ given, Text.First [d.url] given → ∃ u,
      Address.normalize (resolve given) = .ok u ∧ url = if u = "" then none else some u := by
  simp only [Text.blanks_singleton, Text.first_singleton]
  unfold checkedUrl at checked
  cases given : attribute? d.url with
  | none =>
    rw [given] at checked
    cases checked
    exact ⟨fun _ => rfl, fun _ eq => nomatch eq⟩
  | some text =>
    rw [given] at checked
    obtain ⟨u, normal, rfl⟩ := map_ok checked
    refine ⟨(nomatch ·), fun text' eq => ?_⟩
    cases eq
    exact ⟨u, normal, if_congr String.isEmpty_iff rfl rfl⟩

/-- An address is flawed exactly when what it is resolved to has no normal form. -/
lemma flaw_url : d.Flaw resolve .url e ↔ ∃ given, attribute? d.url = some given ∧
    Address.normalize (resolve given) = .error e := by
  constructor
  · intro flaw
    cases flaw with
    | url first malformed =>
      exact ⟨_, Text.first_singleton.1 first, Address.normalize_error.2 ⟨_, malformed, rfl⟩⟩
  · rintro ⟨given, first, failed⟩
    obtain ⟨cause, malformed, rfl⟩ := Address.normalize_error.1 failed
    exact .url (Text.first_singleton.2 first) malformed

lemma checkedUrl_error : d.checkedUrl resolve = .error e ↔ d.Flaw resolve .url e := by
  rw [flaw_url, checkedUrl]
  cases attribute? d.url with
  | none => simp
  | some given => cases normal : Address.normalize (resolve given) <;> simp [Except.map, normal]

/-! ### Path and qualifiers -/

lemma normalPath_of_none (none : d.path = none) : d.normalPath resolve = "" := by
  rw [normalPath, none, Option.map_none, Option.map_none, Option.getD_none]

lemma normalPath_of_some {given : String} (declared : d.path = some given) :
    ∃ inner, Text.Inner (· == '/') (Text.trim (resolve given)).toList inner ∧
      (d.normalPath resolve).toList = if inner = [] then [] else '/' :: inner := by
  refine ⟨_, Text.inner_dropBoth _ _, ?_⟩
  rw [normalPath, declared, Option.map_some, Option.map_some, Option.getD_some,
    Address.normalizePath]
  simp only [List.isEmpty_iff]
  split
  · rfl
  · exact String.toList_ofList

lemma qualified_knownQualifiers (d : Declaration) (id : String) :
    d.Qualified id (d.knownQualifiers id) := by
  unfold knownQualifiers
  split
  next none =>
    have blanks : Text.Blanks (d.qualifiers.map some) := by
      intro q mem
      have mem : q ∈ d.qualifiers := by simpa using mem
      simpa using List.filter_eq_nil_iff.1 none q mem
    cases single : attribute? d.qualifier with
    | none => exact .usual blanks (Text.blanks_singleton.2 single)
    | some q => exact .single blanks (Text.first_singleton.2 single)
  next some =>
    obtain ⟨q, qs, eq⟩ := List.exists_cons_of_ne_nil some
    rw [eq]
    exact .own eq

/-- Qualifiers are there, and none of them is blank. -/
lemma Qualified.not_allBlank {qs : List String} (qualified : d.Qualified id qs) :
    qs ≠ [] ∧ ∀ q ∈ qs, Text.allBlank q = false := by
  cases qualified with
  | own eq =>
    refine ⟨List.cons_ne_nil _ _, fun q mem => ?_⟩
    rw [← eq] at mem
    simpa using (List.mem_filter.1 mem).2
  | single _ first => exact ⟨List.cons_ne_nil _ _, List.forall_mem_singleton.2 first.not_allBlank⟩
  | usual =>
    refine ⟨List.cons_ne_nil _ _, List.forall_mem_singleton.2 ?_⟩
    rw [Text.allBlank, String.toList_append, List.all_append, Bool.and_eq_false_iff]
    exact .inr (by decide)

/-! ### The descriptor -/

/-- What a declaration gives is well-formed if nothing is wrong with it. -/
lemma Gives.wellFormed {desc : Descriptor} (gives : d.Gives resolve desc)
    (name : ClientName.flaw? desc.name = none) (contextId : ClientName.flaw? desc.contextId = none)
    (fallback : ∀ t, desc.fallback = .delegate t ∨ desc.fallback = .factory t →
      t.isInterface = false) : desc.WellFormed where
  name
  contextId
  fallback
  url := by
    rcases Text.first_or_blanks [d.url] with ⟨given, first⟩ | blanks
    · obtain ⟨url, -, eq⟩ := gives.url given first
      rw [eq]
      split
      next => exact (Option.some_ne_none "").symm
      next filled => exact fun eq => filled (Option.some_inj.1 eq)
    · rw [gives.noUrl blanks]
      exact (Option.some_ne_none "").symm
  path := by
    cases declared : d.path with
    | none => exact .inl (gives.noPath declared)
    | some given =>
      obtain ⟨inner, bare, eq⟩ := gives.path given declared
      cases inner with
      | nil => exact .inl (String.toList_eq_nil_iff.1 eq)
      | cons c cs =>
        refine .inr ⟨c, cs, eq, ?_, fun last => ?_⟩
        · simpa using bare.head c rfl
        · simpa using bare.last '/' last
  qualifiers := gives.qualifiers.not_allBlank.1
  qualifier := gives.qualifiers.not_allBlank.2

/-- A descriptor of a declaration has the parts that this gives, and is well-formed. -/
lemma gives_of_describeWith {desc : Descriptor} (described : d.describeWith resolve = .ok desc) :
    d.Gives resolve desc ∧ desc.WellFormed := by
  obtain ⟨name, checked, described⟩ := bind_ok described
  obtain ⟨contextId, checked', described⟩ := bind_ok described
  obtain ⟨fallback, declared, described⟩ := bind_ok described
  obtain ⟨url, normal, described⟩ := bind_ok described
  cases described
  obtain ⟨named, flawless⟩ := checkedName_ok checked
  obtain ⟨identified, flawless'⟩ := checkedContextId_ok named checked'
  obtain ⟨delegate, factory, concrete⟩ := checkedFallback_ok declared
  obtain ⟨noUrl, url⟩ := checkedUrl_ok normal
  refine (and_iff_left_of_imp (·.wellFormed flawless flawless' concrete)).2 ?_
  exact {
    clientType := rfl
    name := named
    contextId := identified
    noUrl
    url
    noPath := normalPath_of_none
    path := fun _ => normalPath_of_some
    fallback := delegate
    fallbackFactory := factory
    qualifiers := d.qualified_knownQualifiers _
    decode404 := rfl
    primary := rfl
    configurations := rfl
    customizers := rfl }

/-- A declaration has no descriptor exactly when it is refused by its checks in their order. -/
lemma describeWith_error :
    d.describeWith resolve = .error e ↔ d.Refused resolve Check.inOrder e := by
  refine refused_bind [.name] (fun e => ?_) (fun name checked => ?_) e
  · rw [checkedName_error, refused_singleton]
  have named := (checkedName_ok checked).1
  refine refused_bind [.contextId] (fun e => ?_) fun id checked => ?_
  · rw [checkedContextId_error named, refused_singleton]
  have identified := (checkedContextId_ok named checked).1
  refine refused_bind [.oneFallback, .noInterface] (fun e => ?_) fun fallback _ => ?_
  · exact checkedFallback_error identified
  refine refused_bind [.url] (fun e => ?_) fun url _ e => ?_
  · rw [checkedUrl_error, refused_singleton]
  · exact iff_of_false (fun eq => nomatch eq) False.elim

end

/-- A declaration has a well-formed descriptor, with the parts that it gives, or is refused. It is
refused exactly when something is wrong with it, and then the flaw for the first check that fails is
told. In particular two fallbacks are a conflict, also when one of them is an interface. -/
theorem describeWith_wellFormed (d : Declaration) (resolve : String → String) :
    (∀ desc, d.describeWith resolve = .ok desc → d.Gives resolve desc ∧ desc.WellFormed) ∧
      (∀ e, d.describeWith resolve = .error e ↔ d.Refused resolve Check.inOrder e) ∧
      ((∃ e, d.describeWith resolve = .error e) ↔ ∃ c e, d.Flaw resolve c e) ∧
      ∀ t f, d.fallback = some t → d.fallbackFactory = some f →
        (∀ e, ¬d.Flaw resolve .name e) → (∀ e, ¬d.Flaw resolve .contextId e) →
        ∃ id, d.Identified resolve id ∧
          d.describeWith resolve = .error (.conflictingFallback id t.name f.name) := by
  refine ⟨fun _ => gives_of_describeWith, fun _ => describeWith_error, ?_, ?_⟩
  · rw [exists_congr fun _ => describeWith_error, exists_refused_iff]
    have every (c : Check) : c ∈ Check.inOrder := by cases c <;> decide
    exact exists_congr fun c => and_iff_right (every c)
  · intro t f declared declared' named contextId
    cases checked : d.checkedName resolve with
    | error e => exact (named e (checkedName_error.1 checked)).elim
    | ok name =>
      have identified := identified_getD (checkedName_ok checked).1
      refine ⟨_, identified, describeWith_error.2 ?_⟩
      exact .inr ⟨named, .inr ⟨contextId, .inl (.conflict identified declared declared')⟩⟩

/-- A client with two fallbacks, one of them an interface, and without an address that can be
read. -/
def contestedClient : Declaration where
  clientType := ⟨"UsersClient", .interface⟩
  serviceId := some "  "
  name := some " $\x7busers\x7d "
  url := some "not a url"
  fallback := some ⟨"UsersClient", .interface⟩
  fallbackFactory := some ⟨"UsersFactory", .concrete⟩

theorem describeWith_wellFormed_contested :
    contestedClient.describeWith (fun text => if text = "$\x7busers\x7d" then "users" else text) =
      .error (.conflictingFallback "users" "UsersClient" "UsersFactory") := by
  let resolve (text : String) : String := if text = "$\x7busers\x7d" then "users" else text
  obtain ⟨-, -, -, conflict⟩ := describeWith_wellFormed contestedClient resolve
  have checked : contestedClient.checkedName resolve = .ok "users" := by decide +kernel
  have checked' : contestedClient.checkedContextId resolve "users" = .ok "users" := by
    decide +kernel
  obtain ⟨named, -⟩ := checkedName_ok checked
  obtain ⟨identified, -⟩ := checkedContextId_ok named checked'
  obtain ⟨id, identified', refused⟩ := conflict _ _ rfl rfl
    (fun e flaw => nomatch checked.symm.trans (checkedName_error.2 flaw))
    (fun e flaw => nomatch checked'.symm.trans ((checkedContextId_error named).2 flaw))
  cases identified.unique identified'
  exact refused

end Declaration
end ServiceClient
