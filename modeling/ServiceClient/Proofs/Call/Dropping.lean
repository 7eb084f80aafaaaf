import Mathlib.Data.List.Induction
import ServiceClient.Proofs.Call.Layering

/-!
# Configured headers that are dropped

An entry of configured headers is invalid if its key is no header name, or if it lists values and
none of them is legal. `apply_headers_valid` compares what is made of a template with what is made of
it without the invalid entries: the lines of a header are lost when its last key is that of an
invalid entry, and all other lines are the same.
-/

namespace ServiceClient.Interceptor

/-- Whether an entry has a key that is no header name, or values of which none is legal. -/
def isInvalid (entry : String × List String) : Bool :=
  (Http.headerName? entry.1).isNone ||
    !entry.2.isEmpty && entry.2.all fun value => (Http.headerValue? value).isNone

/-- The entries that are not invalid. -/
def valid (configured : ValueLists) : ValueLists :=
  configured.filter (!isInvalid ·)

/-- Whether the last entry for a header is invalid. -/
def loses (configured : ValueLists) (name : String) : Bool :=
  (configured.reverse.find? fun entry => Http.headerName? entry.1 == some name).any isInvalid

/-- The rows of configured headers that count, with their legal values. -/
def headerRows (configured : ValueLists) : Table (List Bytes) :=
  countingRows Http.headerName? (·.filterMap Http.headerValue?) configured

variable (configured : ValueLists)

/-- The last entry for a header tells whether its lines are lost. -/
lemma loses_concat (entry : String × List String) (name : String) :
    loses (configured ++ [entry]) name =
      if Http.headerName? entry.1 = some name then isInvalid entry else loses configured name := by
  unfold loses
  rw [List.reverse_concat, List.find?_cons]
  by_cases here : Http.headerName? entry.1 = some name
  · rw [beq_iff_eq.2 here, if_pos here, Option.any_some]
  · rw [beq_eq_false_iff_ne.2 here, if_neg here]

/-- One more entry puts its legal values, if its key is a header name. -/
lemma putAll_headerRows_concat (entry : String × List String) (h : Http.Headers) :
    Lines.putAll h (headerRows (configured ++ [entry])) =
      match Http.headerName? entry.1 with
      | some name =>
        Lines.put (Lines.putAll h (headerRows configured)) name
          (entry.2.filterMap Http.headerValue?)
      | none => Lines.putAll h (headerRows configured) := by
  rw [headerRows, countingRows, List.filterMap_append, Lines.putAll, List.foldl_append]
  cases named : Http.headerName? entry.1 with
  | some name => simp [named, Lines.putAll, headerRows, countingRows]
  | none => simp [named, Lines.putAll, headerRows, countingRows]

/-- An invalid entry for a header has no legal values. -/
lemma values_of_isInvalid {entry : String × List String} {name : String}
    (invalid : isInvalid entry = true) (named : Http.headerName? entry.1 = some name) :
    entry.2.filterMap Http.headerValue? = [] := by
  simp only [isInvalid, named, Option.isNone_some, Bool.false_or, Bool.and_eq_true, List.all_eq_true,
    Option.isNone_iff_eq_none] at invalid
  exact List.filterMap_eq_nil_iff.2 invalid.2

/-- One more entry is kept as long as it is valid. -/
lemma valid_concat (entry : String × List String) : valid (configured ++ [entry]) =
    if isInvalid entry then valid configured else valid configured ++ [entry] := by
  unfold valid
  rw [List.filter_append]
  cases invalid : isInvalid entry <;> simp [invalid]

/-- One more entry for a header makes no difference to the lines of other headers. -/
lemma filter_loses_concat {entry : String × List String} {name : String}
    (named : Http.headerName? entry.1 = some name) (h : Http.Headers) :
    (h.filter (!loses configured ·.1)).filter (·.1 != name) =
      (h.filter (·.1 != name)).filter (!loses (configured ++ [entry]) ·.1) := by
  rw [List.filter_comm]
  refine List.filter_congr fun line mem => ?_
  have other : line.1 ≠ name := by simpa using (List.mem_filter.1 mem).2
  rw [loses_concat, named, if_neg (by simpa using other.symm)]

/-- The lines of configured headers are those of the valid entries, less the ones that are lost. -/
lemma putAll_headerRows (h : Http.Headers) : Lines.putAll h (headerRows configured) =
    (Lines.putAll h (headerRows (valid configured))).filter (!loses configured ·.1) := by
  induction configured using List.reverseRecOn with
  | nil => exact (List.filter_eq_self.2 fun _ _ => rfl).symm
  | append_singleton configured entry ih =>
    rw [valid_concat, putAll_headerRows_concat]
    cases named : Http.headerName? entry.1 with
    | none =>
      have invalid : isInvalid entry = true := by simp [isInvalid, named]
      have same (name : String) : loses (configured ++ [entry]) name = loses configured name := by
        rw [loses_concat, if_neg (by simp [named])]
      simp only [invalid, if_true, same]
      exact ih
    | some name =>
      have here : loses (configured ++ [entry]) name = isInvalid entry := by
        rw [loses_concat, if_pos named]
      dsimp only
      rw [Lines.put, ih, filter_loses_concat configured named]
      cases invalid : isInvalid entry with
      | true =>
        -- the entry takes all lines of its header away
        rw [values_of_isInvalid invalid named, List.map_nil, List.append_nil, if_pos rfl,
          List.filter_comm]
        refine List.filter_eq_self.2 fun line mem => ?_
        have kept := (List.mem_filter.1 mem).2
        rw [bne_iff_ne]
        rintro rfl
        rw [here, invalid] at kept
        cases kept
      | false =>
        rw [if_neg Bool.false_ne_true, putAll_headerRows_concat, named]
        dsimp only
        rw [Lines.put, List.filter_append]
        congr 1
        refine (List.filter_eq_self.2 fun line mem => ?_).symm
        obtain ⟨value, -, rfl⟩ := List.mem_map.1 mem
        rw [here, invalid]
        rfl

/-- What configured headers make of a template is what the valid entries alone make of it, less the
lines of the headers whose last entry is invalid. So invalid entries have no effect exactly when no
such line is left. -/
theorem apply_headers_valid (t : Template) :
    let u := (headers (valid configured)).apply t
    (headers configured).apply t = u.withHeaders (u.headers.filter (!loses configured ·.1)) ∧
      ((headers configured).apply t = u ↔
        ∀ line ∈ u.headers, loses configured line.1 = false) := by
  intro u
  have eq : (headers configured).apply t =
      u.withHeaders (u.headers.filter (!loses configured ·.1)) :=
    congrArg t.withHeaders (putAll_headerRows configured t.headers)
  refine ⟨eq, ?_⟩
  rw [eq]
  constructor
  · intro same line mem
    have kept : u.headers.filter (!loses configured ·.1) = u.headers :=
      congrArg Template.headers same
    simpa using List.filter_eq_self.1 kept line mem
  · intro kept
    rw [List.filter_eq_self.2 fun line mem => by rw [kept line mem]; rfl]
    rfl

/-- A map that lists one value for a header, and it is not legal. -/
def broken : ValueLists := [("x-tenant", ["bad\n"])]

/-- A template loses its own value of a header when there is no legal value in its place. -/
theorem not_apply_headers_valid :
    ¬ ∀ configured t, (headers configured).apply t = (headers (valid configured)).apply t := by
  intro same
  let t : Template := { headers := [("x-tenant", Text.Utf8.encode "own")] }
  have lost : ((headers broken).apply t).headers = [] := by decide
  have left : ((headers (valid broken)).apply t).headers =
      [("x-tenant", Text.Utf8.encode "own")] := by decide
  rw [same, left] at lost
  cases lost

end ServiceClient.Interceptor
