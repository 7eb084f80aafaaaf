import ServiceClient.Proofs.Url.Segments

/-!
# Walks over a path

A walk carries out the segments of a path from the left to the right. A path that is put behind
another one is carried out where the walk over the other one ends: `readPath_append_cons`. A walk
leaves plain segments only. So a path is found again in what was read exactly when it is plain
itself and nothing is left of what stands in front of it: `pathText_walked`. Whether nothing is left
of a text can be told from the path that is read of it alone: `walked_eq_nil_iff`.
-/

namespace ServiceClient.Url

variable {cs ds s t p : List Char} {ss ss' : List (List Char)} {w : Walk} {c : Char}

/-- What is left when the last segment is taken back was there before. -/
lemma mem_of_mem_takeBack (mem : s ∈ takeBack ss) : s ∈ ss := by
  cases ss with
  | nil => exact mem
  | cons s' ss =>
    rw [takeBack] at mem
    split at mem
    · exact mem
    · exact List.mem_cons_of_mem s' mem

namespace Walk

/-- A walk behind one more segment, when others follow it. -/
def pass (w : Walk) (s : List Char) : Walk :=
  if isDoubleDot (clean s) then { w with done := takeBack w.done }
  else if isSingleDot (clean s) then w
  else w.push (clean s)

/-- Two dots take back what was done last. -/
lemma pass_of_isDoubleDot (double : isDoubleDot (clean s) = true) :
    w.pass s = { w with done := takeBack w.done } := by
  rw [pass, if_pos double]

/-- One dot changes nothing. -/
lemma pass_of_isSingleDot (double : ¬isDoubleDot (clean s) = true)
    (single : isSingleDot (clean s) = true) : w.pass s = w := by
  rw [pass, if_neg double, if_pos single]

/-- Any other segment is done. -/
lemma pass_of_not_isDots (dotless : isDots (clean s) = false) : w.pass s = w.push (clean s) := by
  rw [isDots, Bool.or_eq_false_iff] at dotless
  rw [pass, dotless.2, dotless.1]
  rfl

/-- A segment is passed; when nothing follows a step, it leaves an empty segment behind. -/
lemma steps_cons (w : Walk) (s : List Char) (ss : List (List Char)) :
    steps false w (s :: ss) = steps false
      (if ss = [] ∧ isDots (clean s) = true then (w.pass s).push [] else w.pass s) ss := by
  have plain : s.filter (!isIgnored ·) = clean s := rfl
  simp only [steps, plain, List.isEmpty_iff, Bool.false_and, Bool.false_eq_true, if_false]
  by_cases double : isDoubleDot (clean s) = true
  · simp [isDots, double, pass_of_isDoubleDot double]
  · by_cases single : isSingleDot (clean s) = true
    · simp [isDots, double, single, pass_of_isSingleDot double single]
    · have dotless : isDots (clean s) = false := by simp [isDots, double, single]
      simp [double, single, dotless, pass_of_not_isDots dotless]

/-- Segments that others follow are passed. -/
lemma steps_append (w : Walk) (ss : List (List Char)) (more : ss' ≠ []) :
    steps false w (ss ++ ss') = steps false (ss.foldl pass w) ss' := by
  induction ss generalizing w with
  | nil => rfl
  | cons s ss ih =>
    have more' : ss ++ ss' ≠ [] := List.append_ne_nil_of_right_ne_nil ss more
    rw [List.cons_append, steps_cons, if_neg fun last => more' last.1, ih, List.foldl_cons]

/-- What is done is plain, and no character in it cuts a path. -/
def Settled (w : Walk) : Prop :=
  ∀ s ∈ w.done, isPlain s = true ∧ ∀ c ∈ s, isSlash c = false

/-- A segment without slashes that is no step is settled by its encoding. -/
lemma Settled.push (settled : w.Settled) (dotless : isDots s = false)
    (slashless : ∀ c ∈ s, isSlash c = false) : (w.push s).Settled := by
  intro t mem
  rcases List.mem_cons.1 mem with rfl | mem
  · exact ⟨isPlain_percentEncode dotless slashless, fun c inside =>
      (of_mem_percentEncode slashless c inside).2⟩
  · exact settled t mem

/-- Passing a segment settles it. -/
lemma Settled.pass (settled : w.Settled) (slashless : ∀ c ∈ s, isSlash c = false) :
    (w.pass s).Settled := by
  by_cases double : isDoubleDot (clean s) = true
  · rw [pass_of_isDoubleDot double]
    exact fun t mem => settled t (mem_of_mem_takeBack mem)
  · by_cases single : isSingleDot (clean s) = true
    · rw [pass_of_isSingleDot double single]
      exact settled
    · have dotless : isDots (clean s) = false := by simp [isDots, double, single]
      rw [pass_of_not_isDots dotless]
      exact settled.push dotless fun c mem => slashless c (List.mem_filter.1 mem).1

/-- A walk settles all segments. -/
lemma Settled.steps (settled : w.Settled)
    (slashless : ∀ s ∈ ss, ∀ c ∈ s, isSlash c = false) : (steps false w ss).Settled := by
  induction ss generalizing w with
  | nil => exact settled
  | cons s ss ih =>
    have passed := settled.pass (slashless s List.mem_cons_self)
    rw [steps_cons]
    refine ih ?_ fun t mem => slashless t (List.mem_cons_of_mem s mem)
    split
    · exact passed.push rfl fun c mem => by cases mem
    · exact passed

/-- A walk takes plain segments over as they are. -/
lemma steps_of_isPlain (w : Walk) (plain : ∀ s ∈ ss, isPlain s = true) :
    (steps false w ss).done = ss.reverse ++ w.done := by
  induction ss generalizing w with
  | nil => rfl
  | cons s ss ih =>
    obtain ⟨dotless, kept⟩ := of_isPlain (plain s List.mem_cons_self)
    have same : clean s = s := clean_eq_self fun c mem => isOuter_eq_false (kept c mem)
    rw [steps_cons, same, dotless, if_neg fun step => Bool.false_ne_true step.2,
      ih _ fun t mem => plain t (List.mem_cons_of_mem s mem),
      pass_of_not_isDots (same.symm ▸ dotless), same, push, percentEncode_eq_self kept,
      List.reverse_cons, List.append_assoc, List.singleton_append]

end Walk

/-- What is done of a path, the last segment first, when another path follows it. -/
def walked (cs : List Char) : Walk :=
  (segments true cs).foldl Walk.pass {}

/-- A path behind another one is carried out where the walk over the other one ends. -/
lemma readPath_append_cons (cs ds : List Char) :
    readPath true (cs ++ '/' :: ds) =
      (Walk.steps false (walked cs) (segments true ds)).done.reverse := by
  rw [readPath, segments_append_cons, Walk.steps_append _ _ (segments_ne_nil ds)]
  rfl

/-- What is read of a path is plain, and no character in it cuts a path. -/
lemma isPlain_of_mem_readPath (mem : s ∈ readPath true cs) :
    isPlain s = true ∧ ∀ c ∈ s, isSlash c = false := by
  have settled : (Walk.steps false {} (segments true cs)).Settled :=
    Walk.Settled.steps (fun s mem => by cases mem) fun s mem c inside =>
      (mem_of_mem_segments mem c inside).2
  exact settled s (List.mem_reverse.1 mem)

/-- A path that is found again in what was read is plain. -/
lemma isPlainPath_of_readPath (text : pathText (readPath true cs) = '/' :: p) :
    isPlainPath p = true := by
  have parts : segments true p = readPath true cs :=
    segments_of_pathText (fun s mem => (isPlain_of_mem_readPath mem).2) text
  have backslashless : '\\' ∉ p := by
    intro mem
    have mem' : '\\' ∈ pathText (readPath true cs) := text ▸ List.mem_cons_of_mem '/' mem
    obtain ⟨s, mem, inside⟩ := List.mem_flatMap.1 mem'
    rcases List.mem_cons.1 inside with eq | inside
    · cases eq
    · exact absurd ((isPlain_of_mem_readPath mem).2 _ inside) (by decide)
  refine isPlainPath_iff.2 ⟨backslashless, fun s mem => ?_⟩
  rw [parts] at mem
  exact (isPlain_of_mem_readPath mem).1

/-- A plain path is found again behind another one exactly when nothing is left of the other one. -/
lemma pathText_walked (w : Walk) (plain : isPlainPath p = true) :
    pathText (Walk.steps false w (segments true p)).done.reverse = '/' :: p ↔ w.done = [] := by
  obtain ⟨backslashless, plain⟩ := isPlainPath_iff.1 plain
  rw [w.steps_of_isPlain plain, List.reverse_append, List.reverse_reverse, pathText,
    List.flatMap_append]
  change pathText w.done.reverse ++ pathText (segments true p) = '/' :: p ↔ _
  rw [pathText_segments backslashless, List.append_left_eq_self]
  cases w.done <;> simp [pathText]

/-! ### What a path ends with -/

/-- A dot at the front is written without blanks and control characters. -/
lemma isOuter_of_dropDot? (eq : dropDot? s = some t) : ∀ c ∈ s, c ∈ t ∨ isOuter c = false := by
  unfold dropDot? at eq
  intro c mem
  split at eq
  next =>
    cases eq
    rcases List.mem_cons.1 mem with rfl | mem
    · exact .inr rfl
    · exact .inl mem
  iterate 2
    next =>
      cases eq
      simp only [List.mem_cons] at mem
      rcases mem with rfl | rfl | rfl | mem
      · exact .inr rfl
      · exact .inr rfl
      · exact .inr rfl
      · exact .inl mem
  next => cases eq

/-- A segment of dots is written without blanks and control characters. -/
lemma isOuter_of_isDots (dots : isDots s = true) : ∀ c ∈ s, isOuter c = false := by
  intro c mem
  rw [isDots, Bool.or_eq_true, isSingleDot, isDoubleDot, beq_iff_eq, beq_iff_eq] at dots
  rcases dots with single | double
  · exact (isOuter_of_dropDot? single c mem).resolve_left List.not_mem_nil
  · obtain ⟨t, first, second⟩ := Option.bind_eq_some_iff.1 double
    rcases isOuter_of_dropDot? first c mem with mem | visible
    · exact (isOuter_of_dropDot? second c mem).resolve_left List.not_mem_nil
    · exact visible

/-- The last segment is passed last. When it is a step, it leaves an empty segment behind. -/
lemma walked_concat (parts : segments true cs = ss ++ [s]) :
    walked cs = (ss.foldl Walk.pass {}).pass s ∧
      readPath true cs =
        (if isDots (clean s) then (walked cs).push [] else walked cs).done.reverse := by
  have all : walked cs = (ss.foldl Walk.pass {}).pass s := by
    rw [walked, parts, List.foldl_append, List.foldl_cons, List.foldl_nil]
  refine ⟨all, ?_⟩
  rw [readPath, parts, Walk.steps_append {} ss (List.cons_ne_nil s []), Walk.steps_cons, all]
  simp [Walk.steps]

/-- When nothing is left of a path, it ends in a segment of dots, and an empty segment is read. -/
lemma readPath_of_walked (seen : clean cs = cs) (nothing : (walked cs).done = []) :
    readPath true cs = [[]] ∧
      ∃ c, cs.getLast? = some c ∧ isSlash c = false ∧ isOuter c = false := by
  obtain ⟨ss, s, front, parts, rfl, slashless, -⟩ := exists_segments_concat cs
  obtain ⟨all, read⟩ := walked_concat parts
  have same : clean s = s := clean_of_append front seen
  rw [same] at read
  cases dots : isDots s with
  | false =>
    rw [all, Walk.pass_of_not_isDots (same.symm ▸ dots)] at nothing
    cases nothing
  | true =>
    rw [dots, if_pos rfl] at read
    refine ⟨by rw [read, Walk.push, nothing]; rfl, ?_⟩
    cases last : s.getLast? with
    | none =>
      rw [List.getLast?_eq_none_iff.1 last] at dots
      cases dots
    | some c =>
      have mem := List.mem_of_getLast? last
      exact ⟨c, by rw [List.getLast?_append, last]; rfl, slashless c mem,
        isOuter_of_isDots dots c mem⟩

/-- When an empty segment is read of a path that does not end in a slash, nothing is left of it. -/
lemma walked_of_readPath (seen : clean cs = cs) (read : readPath true cs = [[]])
    (last : cs.getLast? = some c) (plain : isSlash c = false) : (walked cs).done = [] := by
  obtain ⟨ss, s, front, parts, rfl, -, ends⟩ := exists_segments_concat cs
  obtain ⟨all, read'⟩ := walked_concat parts
  have same : clean s = s := clean_of_append front seen
  rw [read', same] at read
  cases dots : isDots s with
  | true =>
    rw [dots, if_pos rfl, Walk.push, List.reverse_eq_iff, List.reverse_singleton] at read
    exact (List.cons.inj read).2
  | false =>
    -- the last segment is the empty one, so that a slash stands in front of it
    rw [dots, if_neg Bool.false_ne_true, all, Walk.pass_of_not_isDots (same.symm ▸ dots), same,
      Walk.push, List.reverse_eq_iff, List.reverse_singleton] at read
    rw [percentEncode_eq_nil (List.cons.inj read).1, List.append_nil] at last
    rw [ends c last] at plain
    cases plain

/-- Nothing is left of a path behind a slash exactly when it is read as no path, and ends neither in
a slash nor in what could be stripped. -/
lemma walked_eq_nil_iff {x : Char} (slash : isSlash x = true) (seen : clean (x :: cs) = x :: cs) :
    (walked cs).done = [] ↔ pathText (readPath true cs) = ['/'] ∧ endsOpen (x :: cs) = false := by
  have seen' : clean cs = cs := clean_of_append [x] seen
  constructor
  · intro nothing
    obtain ⟨read, c, last, closed, visible⟩ := readPath_of_walked seen' nothing
    have last' : (x :: cs).getLast? = some c := by
      rw [← List.singleton_append, List.getLast?_append, last]
      rfl
    rw [read, endsOpen, seen, last', Option.any_some, closed, visible]
    exact ⟨rfl, rfl⟩
  · rintro ⟨text, closed⟩
    cases last : cs.getLast? with
    | none =>
      rw [List.getLast?_eq_none_iff] at last
      rw [last] at closed seen
      rw [endsOpen, seen, List.getLast?_singleton, Option.any_some, slash] at closed
      cases closed
    | some c =>
      have last' : (x :: cs).getLast? = some c := by
        rw [← List.singleton_append, List.getLast?_append, last]
        rfl
      rw [endsOpen, seen, last', Option.any_some, Bool.or_eq_false_iff] at closed
      exact walked_of_readPath seen' (eq_of_pathText_eq_slash text) last closed.1

end ServiceClient.Url
