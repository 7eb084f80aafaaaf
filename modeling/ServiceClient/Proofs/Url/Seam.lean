import Mathlib.Data.List.DropRight
import ServiceClient.Proofs.Url.Authority
import ServiceClient.Proofs.Url.Special

/-!
# The seam between an authority and a path

A text that is read as a URL of a special scheme may get a slash and anything behind it. The
authority ends at this slash at the latest, so that it stays what it was. Only blanks and control
characters at the end of the text come to stand inside the authority, and then it is refused.
-/

namespace ServiceClient.Url

variable {scheme : String} {usual : Nat} {cs ds r : List Char} {c : Char} {a : Authority}
  {b u : Url}

lemma not_mem_authorityText (ends : endsAuthority true c = true) : c ∉ authorityText cs := by
  intro mem
  have inside := List.mem_takeWhile_imp mem
  rw [ends] at inside
  cases inside

/-- Slashes and backslashes end an authority. -/
lemma endsAuthority_of_isSlash (slash : isSlash c = true) : endsAuthority true c = true := by
  have cases : c = '/' ∨ c = '\\' := by simpa [isSlash] using slash
  rcases cases with rfl | rfl <;> rfl

/-- Blanks and control characters end no authority. -/
lemma endsAuthority_of_isOuter (outer : isOuter c = true) : endsAuthority true c = false := by
  have differs (d : Char) (visible : 0x20 < d.toNat) : c ≠ d :=
    ne_of_blank (of_decide_eq_true outer) visible
  simp [endsAuthority, differs '/' (by decide), differs '?' (by decide), differs '#' (by decide),
    differs '\\' (by decide)]

/-- Slashes and backslashes alone hold no authority. -/
lemma visible_of_readAuthority {last : Bool} {left : List Char}
    (found : readAuthority (.special usual) last (authorityText cs) = .ok (a, left)) :
    cs.dropWhile isSlash ≠ [] := by
  intro slashes
  rw [authorityText, slashes] at found
  exact readAuthority_nil found

/-- Blanks and control characters at the end of an authority are a part of it, and spoil it. -/
lemma authorityText_append_outer (usual : Nat) (visible : cs.dropWhile isSlash ≠ [])
    (outer : ∀ c ∈ ds, isOuter c = true) :
    authorityText (cs ++ ds) = authorityText cs ∨
      ds ≠ [] ∧
        ∃ e, readAuthority (.special usual) false (authorityText (cs ++ ds)) = .error e := by
  rw [authorityText_append visible fun c mem => endsAuthority_of_isOuter (outer c mem)]
  by_cases ends : behindAuthority cs = []
  · rw [if_pos ends]
    rcases List.eq_nil_or_concat ds with rfl | ⟨xs, x, rfl⟩
    · exact .inl (List.append_nil _)
    · rw [List.concat_eq_append] at outer ⊢
      have slashless : '\\' ∉ authorityText cs ++ xs := by
        rw [List.mem_append]
        rintro (mem | mem)
        · exact not_mem_authorityText rfl mem
        · exact absurd (outer _ (List.mem_append_left _ mem)) (by decide : ¬isOuter '\\' = true)
      rw [← List.append_assoc]
      exact .inr ⟨by simp, readAuthority_concat
        (of_decide_eq_true (outer x List.mem_concat_self)) slashless⟩
  · exact .inl (if_neg ends)

/-- How a text in front of a slash is cut: behind its scheme stands something that is no slash, and
the authority `a` is read there, or none because the text ends in a blank or a control character. -/
structure Cut (cs : List Char) (scheme : String) (usual : Nat) (a : Authority) (r : List Char) :
    Prop where
  split : splitScheme? (strippedFront cs) = some (scheme, r)
  visible : r.dropWhile isSlash ≠ []
  reads : (∃ left, readAuthority (.special usual) false (authorityText r) = .ok (a, left)) ∨
    endsOuter cs = true ∧ ∃ e, readAuthority (.special usual) false (authorityText r) = .error e

/-- A text that is read as a URL is cut where it ends. Unless it ends in a blank or a control
character, the URL is that of what was cut. -/
lemma exists_cut (kind : schemeKind b.scheme = .special usual)
    (read : parse (String.ofList cs) = .ok b) :
    ∃ a r, Cut cs b.scheme usual a r ∧ b.authority = some a ∧
      (endsOuter cs = false → b = specialUrl b.scheme a (behindAuthority r)) := by
  obtain ⟨g, split, special⟩ := exists_parseSpecial kind read
  rw [String.toList_ofList] at split
  rw [parseSpecial_eq] at special
  obtain ⟨⟨a, left⟩, found, eq⟩ := map_ok special
  obtain ⟨w, front, outer⟩ := exists_stripped_append cs
  have visible := visible_of_readAuthority found
  refine ⟨a, g ++ w, ⟨?_, ?_, ?_⟩, by rw [← eq, specialUrl], fun bare => ?_⟩
  · rw [front]
    exact splitScheme?_append split
  · rw [dropWhile_isSlash_append visible]
    exact List.append_ne_nil_of_left_ne_nil visible w
  · rcases authorityText_append_outer usual visible outer with same | ⟨some, refused⟩
    · rw [same]
      exact .inl ⟨left, readAuthority_last found⟩
    · exact .inr ⟨endsOuter_of_stripped_append front outer some, refused⟩
  · -- nothing was stripped at the end
    have nothing : w = [] := by
      by_contra some
      rw [endsOuter_of_stripped_append front outer some] at bare
      cases bare
    rw [nothing, List.append_nil]
    exact eq.symm

/-- A text that is read as a URL and ends in slashes is cut before these slashes. -/
lemma exists_cut_of_slashes (kind : schemeKind b.scheme = .special usual)
    (slashes : ∀ c ∈ ds, c = '/') (read : parse (String.ofList (cs ++ '/' :: ds)) = .ok b) :
    ∃ a r left, Cut cs b.scheme usual a r ∧ b.authority = some a ∧
      readAuthority (.special usual) false (authorityText r) = .ok (a, left) := by
  obtain ⟨g, split, special⟩ := exists_parseSpecial kind read
  rw [String.toList_ofList, stripped_append_cons] at split
  obtain ⟨r, split', rfl⟩ := splitScheme?_of_append_cons split
  rw [parseSpecial_eq] at special
  obtain ⟨⟨a, left⟩, found, eq⟩ := map_ok special
  have visible : r.dropWhile isSlash ≠ [] := by
    intro none
    -- otherwise there would be nothing but slashes behind the scheme
    refine visible_of_readAuthority found (List.dropWhile_eq_nil_iff.2 fun c mem => ?_)
    rcases List.mem_append.1 mem with mem | mem
    · exact List.dropWhile_eq_nil_iff.1 none c mem
    · rcases List.mem_cons.1 mem with rfl | mem
      · rfl
      · have inner := (List.rdropWhile_prefix isOuter (l := ds)).subset (List.mem_filter.1 mem).1
        rw [slashes c inner]
        rfl
  rw [authorityText_append_cons visible] at found
  exact ⟨a, r, left, ⟨split', visible, .inl ⟨left, readAuthority_last found⟩⟩,
    by rw [← eq, specialUrl], readAuthority_last found⟩

/-- A text that was cut, with a slash and more behind it, has the same scheme, the same authority
and the rest behind it. -/
lemma Cut.parse_append_cons (cut : Cut cs scheme usual a r)
    (kind : schemeKind scheme = .special usual) (ds : List Char) :
    parse (String.ofList (cs ++ '/' :: ds)) =
      (readAuthority (.special usual) false (authorityText r)).map fun found =>
        specialUrl scheme found.1
          (behindAuthority r ++ '/' :: clean (Text.dropEnd isOuter ds)) := by
  have split : splitScheme? (stripped (String.ofList (cs ++ '/' :: ds)).toList) =
      some (scheme, r ++ '/' :: clean (Text.dropEnd isOuter ds)) := by
    rw [String.toList_ofList, stripped_append_cons]
    exact splitScheme?_append cut.split
  have more : (behindAuthority r ++ '/' :: clean (Text.dropEnd isOuter ds)).isEmpty = false := by
    simp
  rw [parse_of_splitScheme? split kind, parseSpecial_eq, authorityText_append_cons cut.visible,
    behindAuthority_append_cons cut.visible, more]

/-- Nothing is ignored in what was cut off, and the text ends as it does. -/
lemma Cut.endsOpen_eq (cut : Cut cs scheme usual a r) :
    clean r = r ∧ endsOpen cs = endsOpen r := by
  obtain ⟨name, parts, -⟩ := splitScheme?_eq_some.1 cut.split
  have idem : clean (strippedFront cs) = strippedFront cs := by
    simp [strippedFront, clean]
  have seen : clean r = r := by
    rw [parts] at idem
    exact clean_of_append [':'] (clean_of_append name idem)
  have some : r ≠ [] := by
    rintro rfl
    exact cut.visible rfl
  refine ⟨seen, ?_⟩
  have front : clean (cs.dropWhile isOuter) = (name ++ [':']) ++ r := by
    rw [← List.append_cons]
    exact parts
  calc endsOpen cs
      = endsOpen (cs.takeWhile isOuter ++ cs.dropWhile isOuter) := by
        rw [List.takeWhile_append_dropWhile]
    _ = endsOpen (cs.dropWhile isOuter) := endsOpen_append (by simp [front])
    _ = endsOpen r := by rw [endsOpen, front, List.getLast?_append_of_ne_nil _ some, endsOpen, seen]

/-- The text of an authority does not end in a slash, a blank or a control character. -/
lemma endsOpen_authorityText {last : Bool} {left : List Char}
    (seen : clean (authorityText r) = authorityText r)
    (found : readAuthority (.special usual) last (authorityText r) = .ok (a, left)) :
    endsOpen (authorityText r) = false := by
  rw [endsOpen, seen]
  cases end? : (authorityText r).getLast? with
  | none => rfl
  | some c =>
    have closed : isSlash c = false := by
      rw [Bool.eq_false_iff]
      intro slash
      exact not_mem_authorityText (endsAuthority_of_isSlash slash) (List.mem_of_getLast? end?)
    have visible : isOuter c = false := by
      rw [Bool.eq_false_iff]
      intro outer
      obtain ⟨xs, eq⟩ := List.getLast?_eq_some_iff.1 end?
      have slashless : '\\' ∉ xs := fun mem => by
        have mem' : '\\' ∈ authorityText r := eq ▸ List.mem_append_left [c] mem
        exact not_mem_authorityText rfl mem'
      rw [eq] at found
      obtain ⟨e, refused⟩ := readAuthority_concat (of_decide_eq_true outer) slashless
      cases refused.symm.trans found
    rw [Option.any_some, closed, visible]
    rfl

/-- Behind a scheme a text ends as what stands behind the authority. Without anything there, it ends
with the authority. -/
lemma endsOpen_behindAuthority {last : Bool} {left : List Char} (seen : clean r = r)
    (found : readAuthority (.special usual) last (authorityText r) = .ok (a, left)) :
    clean (behindAuthority r) = behindAuthority r ∧ endsOpen r = endsOpen (behindAuthority r) := by
  have parts := authority_parts r
  have seen' : clean (authorityText r ++ behindAuthority r) =
      authorityText r ++ behindAuthority r :=
    clean_of_append (r.takeWhile isSlash) (by rw [parts, seen])
  have behind : clean (behindAuthority r) = behindAuthority r :=
    clean_of_append (authorityText r) seen'
  refine ⟨behind, ?_⟩
  by_cases nothing : behindAuthority r = []
  · -- the authority, which is not empty, is the last part
    rw [nothing, List.append_nil] at seen' parts
    have some : authorityText r ≠ [] := by
      intro none
      rw [none] at found
      exact readAuthority_nil found
    calc endsOpen r
        = endsOpen (r.takeWhile isSlash ++ authorityText r) := by rw [parts]
      _ = endsOpen (authorityText r) := endsOpen_append (by rwa [seen'])
      _ = false := endsOpen_authorityText seen' found
      _ = endsOpen (behindAuthority r) := by rw [nothing]; rfl
  · calc endsOpen r
        = endsOpen ((r.takeWhile isSlash ++ authorityText r) ++ behindAuthority r) := by
          rw [List.append_assoc, parts]
      _ = endsOpen (behindAuthority r) := endsOpen_append (by rwa [behind])

/-- No other authority is read of what was cut. -/
lemma Cut.only {last : Bool} {a' : Authority} {left : List Char} (cut : Cut cs scheme usual a r)
    (found : readAuthority (.special usual) last (authorityText r) = .ok (a', left)) : a' = a := by
  rcases cut.reads with ⟨left', found'⟩ | ⟨-, e, refused⟩
  · cases found'.symm.trans (readAuthority_last found)
    rfl
  · cases refused.symm.trans (readAuthority_last found)

/-- What is put behind a text that was cut leaves its scheme and its authority as they are. -/
lemma Cut.authority (cut : Cut cs scheme usual a r) (kind : schemeKind scheme = .special usual)
    (eq : parse (String.ofList (cs ++ '/' :: ds)) = .ok u) :
    u.scheme = scheme ∧ u.authority = some a := by
  rw [cut.parse_append_cons kind] at eq
  obtain ⟨⟨a', left'⟩, found, rfl⟩ := map_ok eq
  exact ⟨rfl, congrArg some (cut.only found)⟩

end ServiceClient.Url
