import ServiceClient.Proofs.Url.Seam

/-!
# Slashes at the end of a URL

A text that is read as a URL is still read as one without the slashes at its end, whatever its
scheme, unless a blank or a control character comes to stand at the end: `exists_parse_of_slashes`.
It need not be the same URL, since the slashes may have been those in front of the authority.
-/

namespace ServiceClient

namespace Url

variable {scheme : String} {usual : Nat} {cs ds r w : List Char} {c : Char} {u : Url}

/-- A text that does not end in a blank or a control character is stripped at its front only. -/
lemma stripped_of_endsOuter (closed : endsOuter cs = false) : stripped cs = strippedFront cs := by
  obtain ⟨w, front, outer⟩ := exists_stripped_append cs
  have nothing : w = [] := by
    by_contra some
    rw [endsOuter_of_stripped_append front outer some] at closed
    cases closed
  rw [front, nothing, List.append_nil]

/-! ### Special schemes -/

/-- What is stripped at the end of a text with a scheme stands behind its colon. -/
lemma exists_splitScheme?_stripped (split : splitScheme? (strippedFront cs) = some (scheme, r)) :
    ∃ rest w, splitScheme? (stripped cs) = some (scheme, rest) ∧ r = rest ++ w ∧
      ∀ c ∈ w, isOuter c = true := by
  obtain ⟨w, front, outer⟩ := exists_stripped_append cs
  obtain ⟨name, parts, allowed, letter, rfl⟩ := splitScheme?_eq_some.1 split
  have colon : ':' ∉ w := fun mem => absurd (outer ':' mem) (by decide)
  obtain ⟨more, -, behind⟩ | ⟨more, inside, behind⟩ :=
    List.append_eq_append_iff.1 (front.symm.trans parts)
  · rw [behind] at colon
    exact absurd (List.mem_append_right more List.mem_cons_self) colon
  · cases more with
    | nil =>
      rw [List.nil_append] at behind
      exact absurd (behind ▸ List.mem_cons_self) colon
    | cons c rest =>
      cases behind
      exact ⟨rest, w, splitScheme?_eq_some.2 ⟨name, inside, allowed, letter, rfl⟩, rfl, outer⟩

/-- An authority that can be read does not need what is stripped behind it. -/
lemma readAuthority_of_append_outer {last : Bool} {found : Authority × List Char}
    (outer : ∀ c ∈ w, isOuter c = true)
    (read : readAuthority (.special usual) last (authorityText (r ++ w)) = .ok found) :
    readAuthority (.special usual) last (authorityText r) = .ok found := by
  by_cases visible : r.dropWhile isSlash = []
  · -- behind nothing but slashes there would be no authority but what is stripped
    have plain (c : Char) (mem : c ∈ w) : endsAuthority true c = false :=
      endsAuthority_of_isOuter (outer c mem)
    have behind : (r ++ w).dropWhile isSlash = w :=
      Text.dropWhile_append_of_head (List.dropWhile_eq_nil_iff.1 visible) fun c mem =>
        Bool.eq_false_iff.2 fun slash => Bool.false_ne_true
          ((plain c (List.mem_of_mem_head? mem)).symm.trans (endsAuthority_of_isSlash slash))
    have text : authorityText (r ++ w) = w := by
      rw [authorityText, behind]
      exact List.takeWhile_eq_self_iff.2 fun c mem => by rw [plain c mem]; rfl
    rw [text] at read
    rcases List.eq_nil_or_concat w with rfl | ⟨xs, x, rfl⟩
    · exact absurd read readAuthority_nil
    · rw [List.concat_eq_append] at read outer
      have slashless : '\\' ∉ xs := fun mem =>
        absurd (outer _ (List.mem_append_left _ mem)) (by decide)
      obtain ⟨e, refused⟩ := readAuthority_concat
        (of_decide_eq_true (outer x List.mem_concat_self)) slashless
      cases refused.symm.trans read
  · rcases authorityText_append_outer usual visible outer with same | ⟨-, e, refused⟩
    · rwa [same] at read
    · cases refused.symm.trans (readAuthority_last read)

/-- A text of a special scheme that is cut is read as it is, even if it ends in a blank. -/
lemma exists_parse_of_cut {a : Authority} {left : List Char}
    (kind : schemeKind scheme = .special usual) (cut : Cut cs scheme usual a r)
    (read : readAuthority (.special usual) false (authorityText r) = .ok (a, left)) :
    ∃ v, parse (String.ofList cs) = .ok v := by
  obtain ⟨rest, w, split, rfl, outer⟩ := exists_splitScheme?_stripped cut.split
  have found : readAuthority (.special usual) (behindAuthority rest).isEmpty (authorityText rest) =
      .ok (a, left) := readAuthority_last (readAuthority_of_append_outer outer read)
  rw [← String.toList_ofList (l := cs)] at split
  rw [parse_of_splitScheme? split kind, parseSpecial_eq, found]
  exact ⟨_, rfl⟩

/-! ### Schemes without domain names -/

/-- An authority is read where nothing follows it if it is read where something does. -/
lemma readAuthority_of_followed {kind : SchemeKind} {found : Authority × List Char}
    (read : readAuthority kind false cs = .ok found) (last : Bool) :
    readAuthority kind last cs = .ok found := by
  cases last with
  | false => exact read
  | true =>
    simp only [readAuthority, Bool.not_false, Bool.and_true] at read
    simp only [readAuthority, Bool.not_true, Bool.and_false]
    split at read
    next => cases read
    next => exact read

/-- Behind any other scheme only an authority can fail. -/
lemma exists_parseOther (bare : ∀ cs, r ≠ '/' :: '/' :: cs) (scheme : String) :
    ∃ v, parseOther scheme r = .ok v := by
  unfold parseOther
  split
  next cs => exact absurd rfl (bare cs)
  next => exact ⟨_, rfl⟩
  next => exact ⟨_, rfl⟩

/-- What a slash begins at the end has no part in whether a URL of any other scheme is read. -/
lemma exists_parseOther_of_append_cons (read : parseOther scheme (r ++ '/' :: ds) = .ok u) :
    ∃ v, parseOther scheme r = .ok v := by
  by_cases bare : ∀ cs, r ≠ '/' :: '/' :: cs
  · exact exists_parseOther bare scheme
  · obtain ⟨cs, rfl⟩ : ∃ cs, r = '/' :: '/' :: cs := by simpa using bare
    have text : (cs ++ '/' :: ds).takeWhile (!endsAuthority false ·) =
        cs.takeWhile (!endsAuthority false ·) :=
      Text.takeWhile_append_cons rfl _ _
    have followed : ((cs ++ '/' :: ds).dropWhile (!endsAuthority false ·)).isEmpty = false := by
      rw [List.isEmpty_eq_false_iff]
      intro all
      have ends := List.dropWhile_eq_nil_iff.1 all '/' (by simp)
      cases ends
    simp only [List.cons_append, parseOther, text, followed] at read
    obtain ⟨found, authority, -⟩ := bind_ok read
    simp only [parseOther, readAuthority_of_followed authority]
    exact ⟨_, rfl⟩

/-! ### Files -/

/-- What may follow a text has no part in the slash at its front. -/
lemma dropSlash?_append (w : List Char) (slash : dropSlash? cs = some ds) :
    dropSlash? (cs ++ w) = some (ds ++ w) := by
  unfold dropSlash? at slash
  split at slash
  next eq =>
    cases slash
    rw [dropSlash?, Text.dropWhile_append_of_eq_cons eq]
    rfl
  next eq =>
    cases slash
    rw [dropSlash?, Text.dropWhile_append_of_eq_cons eq]
    rfl
  next => cases slash

/-- A URL of a file is read when there is no host, or the host can be read. -/
lemma exists_parseFile_iff : (∃ v, parseFile cs = .ok v) ↔
    ∀ ds, (dropSlash? cs).bind dropSlash? = some ds →
      isDrive (clean (ds.takeWhile (!endsAuthority true ·))) = true ∨
        ∃ host, readFileHost (clean (ds.takeWhile (!endsAuthority true ·))) = .ok host := by
  unfold parseFile
  dsimp only
  cases (dropSlash? cs).bind dropSlash? with
  | none => exact iff_of_true ⟨_, rfl⟩ (by simp)
  | some ds =>
    simp only [Option.some.injEq, forall_eq']
    split
    next drive => exact iff_of_true ⟨_, rfl⟩ (.inl drive)
    next host =>
      constructor
      · rintro ⟨v, read⟩
        obtain ⟨found, read, -⟩ := bind_ok read
        exact .inr ⟨found, read⟩
      · rintro (drive | ⟨found, read⟩)
        · exact absurd drive host
        · rw [read]
          exact ⟨_, rfl⟩

/-- What a slash begins at the end has no part in whether a URL of a file is read. -/
lemma exists_parseFile_of_append_cons (ignored : ∀ c ∈ w, isIgnored c = true)
    (read : ∃ v, parseFile (r ++ (w ++ '/' :: ds)) = .ok v) : ∃ v, parseFile r = .ok v := by
  rw [exists_parseFile_iff] at read ⊢
  intro rest slashes
  obtain ⟨behind, first, second⟩ := Option.bind_eq_some_iff.1 slashes
  have slashes' : (dropSlash? (r ++ (w ++ '/' :: ds))).bind dropSlash? =
      some (rest ++ (w ++ '/' :: ds)) := by
    rw [dropSlash?_append _ first]
    exact dropSlash?_append _ second
  -- the host ends before the slash, and what is ignored at its end does not count
  have name : clean ((rest ++ (w ++ '/' :: ds)).takeWhile (!endsAuthority true ·)) =
      clean (rest.takeWhile (!endsAuthority true ·)) := by
    have dropped : clean w = [] := List.filter_eq_nil_iff.2 fun c mem => by simp [ignored c mem]
    rw [← List.append_assoc, Text.takeWhile_append_cons rfl, List.takeWhile_append]
    split
    next whole =>
      rw [(List.takeWhile_prefix _).eq_of_length whole]
      have inside : w.takeWhile (!endsAuthority true ·) = w :=
        List.takeWhile_eq_self_iff.2 fun c mem => by
          rw [endsAuthority_of_isOuter (isOuter_of_isIgnored (ignored c mem))]
          rfl
      rw [inside, clean, List.filter_append, ← clean, ← clean, dropped, List.append_nil]
    next => rfl
  have found := read _ slashes'
  rwa [name] at found

/-! ### All schemes -/

/-- In front of a slash a text keeps what is ignored at its end. -/
lemma exists_dropBoth_append (closed : endsOuter cs = false) :
    ∃ w, (∀ c ∈ w, isIgnored c = true) ∧ ∀ ds, Text.dropBoth isOuter (cs ++ '/' :: ds) =
      Text.dropBoth isOuter cs ++ (w ++ '/' :: Text.dropEnd isOuter ds) := by
  obtain ⟨w, parts, -⟩ := Text.exists_dropEnd_append (p := isOuter) (cs.dropWhile isOuter)
  have whole : stripped cs ++ clean w = stripped cs := by
    calc stripped cs ++ clean w
        = clean (Text.dropEnd isOuter (cs.dropWhile isOuter) ++ w) :=
          (List.filter_append _ _).symm
      _ = strippedFront cs := congrArg clean parts.symm
      _ = stripped cs := (stripped_of_endsOuter closed).symm
  refine ⟨w, fun c mem => ?_, fun ds => ?_⟩
  · simpa using List.filter_eq_nil_iff.1 (List.append_right_eq_self.1 whole) c mem
  · rw [dropBoth_append_cons, ← List.append_assoc]
    exact congrArg (· ++ _) parts

/-- A text with a scheme has a colon. -/
lemma exists_dropWhile_colon (split : splitScheme? (clean cs) = some (scheme, r)) :
    ∃ rest, cs.dropWhile (· ≠ ':') = ':' :: rest := by
  obtain ⟨name, parts, -⟩ := splitScheme?_eq_some.1 split
  have mem : ':' ∈ clean cs := by simp [parts]
  have colon : ':' ∈ cs := (List.mem_filter.1 mem).1
  have stops := List.head?_dropWhile_not (· ≠ ':') cs
  cases left : cs.dropWhile (· ≠ ':') with
  | nil => exact absurd (List.dropWhile_eq_nil_iff.1 left ':' colon) (by decide)
  | cons c rest =>
    rw [left] at stops
    exact ⟨rest, by simpa using stops⟩

/-- A text that is read as a URL and ends in slashes is read without them as well. Only where the
scheme is not special it may not end in a blank or a control character then. -/
lemma exists_parse_of_slashes (slashes : ∀ c ∈ ds, c = '/')
    (read : parse (String.ofList (cs ++ ds)) = .ok u)
    (closed : endsOuter cs = false ∨ ∃ usual, schemeKind u.scheme = .special usual) :
    ∃ v, parse (String.ofList cs) = .ok v := by
  cases ds with
  | nil => exact ⟨u, by rwa [List.append_nil] at read⟩
  | cons c ds =>
    obtain rfl : c = '/' := slashes c List.mem_cons_self
    by_cases special : ∃ usual, schemeKind u.scheme = .special usual
    · obtain ⟨usual, kind⟩ := special
      obtain ⟨a, r, left, cut, -, authority⟩ :=
        exists_cut_of_slashes kind (fun c mem => slashes c (List.mem_cons_of_mem '/' mem)) read
      exact exists_parse_of_cut kind cut authority
    have closed := closed.resolve_right special
    rw [parse_eq, String.toList_ofList, stripped_append_cons] at read
    split at read
    next => cases read
    next scheme g split =>
      obtain ⟨r, split', rfl⟩ := splitScheme?_of_append_cons split
      rw [parse_eq, String.toList_ofList, stripped_of_endsOuter closed, split']
      dsimp only
      cases kind : schemeKind scheme with
      | special usual =>
        rw [kind] at read
        dsimp only at read
        rw [parseSpecial_eq] at read
        obtain ⟨found, -, rfl⟩ := map_ok read
        exact absurd ⟨usual, kind⟩ special
      | file =>
        rw [kind] at read
        obtain ⟨w, ignored, dropped⟩ := exists_dropBoth_append closed
        rw [← stripped_of_endsOuter closed] at split'
        obtain ⟨rest, colon⟩ := exists_dropWhile_colon split'
        dsimp only at read ⊢
        rw [dropped, Text.dropWhile_append_of_eq_cons colon] at read
        rw [colon]
        exact exists_parseFile_of_append_cons ignored ⟨u, read⟩
      | other =>
        rw [kind] at read
        exact exists_parseOther_of_append_cons read

end Url
end ServiceClient
