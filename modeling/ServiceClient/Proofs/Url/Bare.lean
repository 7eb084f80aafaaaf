import ServiceClient.Proofs.Url.Seam
import ServiceClient.Proofs.Url.Walk

/-!
# Bare URLs

A bare URL names a path on a host: it has no user, no query and no fragment. A path that is put
behind a text makes a bare URL with this path exactly when the text alone is one with no path, ends
in nothing that the path could be mistaken for a part of, and the path is plain:
`exists_bare_iff`.
-/

namespace ServiceClient.Url

/-- Whether a URL has the given path and names no user, no query and no fragment. -/
structure Bare (u : Url) (path : List Char) : Prop where
  username : ∀ a, u.authority = some a → a.username = ""
  password : ∀ a, u.authority = some a → a.password = ""
  query : u.query = none
  fragment : u.fragment = none
  path : u.path.text = path

variable {scheme : String} {usual : Nat} {cs p r behind : List Char} {c : Char} {a : Authority}
  {v : Url}

/-- A query or a fragment begins with the first character that ends the path. -/
lemma readTail_eq_none :
    readTail true (behind.dropWhile (!endsPath ·)) = (none, none) ↔
      ∀ c ∈ behind, endsPath c = false := by
  induction behind with
  | nil => simp [readTail]
  | cons x xs ih =>
    by_cases ends : endsPath x = true
    · have found : readTail true (x :: xs) ≠ (none, none) := by
        have cases : x = '?' ∨ x = '#' := by simpa [endsPath] using ends
        rcases cases with rfl | rfl <;> simp [readTail]
      simp [ends, found]
    · simp [ends, ih]

/-- What a URL of a special scheme is without a user, a query and a fragment. -/
lemma bare_specialUrl :
    (specialUrl scheme a behind).Bare p ↔ (a.username = "" ∧ a.password = "") ∧
      (∀ c ∈ behind, endsPath c = false) ∧ pathText (readPath true (behind.drop 1)) = p := by
  have whole (plain : ∀ c ∈ behind, endsPath c = false) :
      behind.takeWhile (!endsPath ·) = behind :=
    List.takeWhile_eq_self_iff.2 fun c mem => by rw [plain c mem]; rfl
  constructor
  · intro bare
    have plain := readTail_eq_none.1 (Prod.ext bare.query bare.fragment)
    refine ⟨⟨bare.username a rfl, bare.password a rfl⟩, plain, ?_⟩
    have path := bare.path
    rw [specialUrl, whole plain] at path
    exact path
  · rintro ⟨⟨username, password⟩, plain, path⟩
    have tail := readTail_eq_none.2 plain
    refine ⟨fun b eq => ?_, fun b eq => ?_, congrArg Prod.fst tail, congrArg Prod.snd tail, ?_⟩
    · cases eq
      exact username
    · cases eq
      exact password
    · rw [specialUrl, whole plain]
      exact path

/-- What ends an authority and no path is a slash. -/
lemma isSlash_of_endsAuthority (ends : endsAuthority true c = true) (plain : endsPath c = false) :
    isSlash c = true := by
  simp_all [endsAuthority, endsPath, isSlash]

/-- Nothing in a plain path ends it. -/
lemma endsPath_of_isPlainPath (kept : isPlainPath p = true) : ∀ c ∈ p, endsPath c = false := by
  intro c mem
  have plain := isEncoded_of_isPlainPath kept c mem
  rw [Bool.eq_false_iff]
  intro ends
  have cases : c = '?' ∨ c = '#' := by simpa [endsPath] using ends
  rcases cases with rfl | rfl <;> exact absurd plain (by decide)

/-- A path behind the URL of an authority is on its own exactly when the URL has no path before, and
the path is plain. -/
lemma bare_append_cons (slash : ∀ c, behind.head? = some c → endsAuthority true c = true)
    (seen : clean behind = behind) :
    (specialUrl scheme a (behind ++ '/' :: clean (Text.dropEnd isOuter p))).Bare ('/' :: p) ↔
      (specialUrl scheme a behind).Bare ['/'] ∧ endsOpen behind = false ∧
        isPlainPath p = true := by
  rw [bare_specialUrl, bare_specialUrl]
  constructor
  · rintro ⟨user, plain, text⟩
    have plain' : ∀ c ∈ behind, endsPath c = false := fun c mem =>
      plain c (List.mem_append_left _ mem)
    cases behind with
    | nil => exact ⟨⟨user, plain', rfl⟩, rfl, isPlainPath_of_readPath text⟩
    | cons x more =>
      have kept := isPlainPath_of_readPath text
      have cut := isSlash_of_endsAuthority (slash x rfl) (plain' x List.mem_cons_self)
      rw [stripped_of_isPlainPath kept, List.cons_append, List.drop_one, List.tail_cons,
        readPath_append_cons, pathText_walked _ kept, walked_eq_nil_iff cut seen] at text
      exact ⟨⟨user, plain', text.1⟩, text.2, kept⟩
  · rintro ⟨⟨user, plain, text⟩, closed, kept⟩
    rw [stripped_of_isPlainPath kept]
    refine ⟨user, fun c mem => ?_, ?_⟩
    · rcases List.mem_append.1 mem with mem | mem
      · exact plain c mem
      · rcases List.mem_cons.1 mem with rfl | mem
        · rfl
        · exact endsPath_of_isPlainPath kept c mem
    · cases behind with
      | nil => exact (pathText_walked {} kept).2 rfl
      | cons x more =>
        have cut := isSlash_of_endsAuthority (slash x rfl) (plain x List.mem_cons_self)
        rw [List.cons_append, List.drop_one, List.tail_cons, readPath_append_cons,
          pathText_walked _ kept, walked_eq_nil_iff cut seen]
        exact ⟨text, closed⟩

/-- A path that is put behind the text of a URL is on its own exactly when the URL has no path
before, the text ends neither in a slash nor in what could be stripped, and the path is plain. -/
lemma exists_bare_iff (kind : schemeKind v.scheme = .special usual)
    (read : parse (String.ofList cs) = .ok v) :
    (∃ u, parse (String.ofList (cs ++ '/' :: p)) = .ok u ∧ u.Bare ('/' :: p)) ↔
      v.Bare ['/'] ∧ endsOpen cs = false ∧ isPlainPath p = true := by
  obtain ⟨a, r, cut, authority, whole⟩ := exists_cut kind read
  obtain ⟨seen, ends⟩ := cut.endsOpen_eq
  have slash : ∀ c, (behindAuthority r).head? = some c → endsAuthority true c = true :=
    fun c => endsAuthority_of_head?
  rw [cut.parse_append_cons kind]
  constructor
  · rintro ⟨u, eq, bare⟩
    obtain ⟨⟨a', left⟩, found, rfl⟩ := map_ok eq
    obtain ⟨seen', ends'⟩ := endsOpen_behindAuthority seen found
    obtain ⟨bare, closed, plain⟩ := (bare_append_cons slash seen').1 bare
    have closed' : endsOpen cs = false := by rw [ends, ends', closed]
    rw [whole (endsOuter_of_endsOpen closed'), ← cut.only found]
    exact ⟨bare, closed', plain⟩
  · rintro ⟨bare, closed, plain⟩
    have bare' := endsOuter_of_endsOpen closed
    -- the authority can be refused only behind a blank, which would leave the text open
    rcases cut.reads with ⟨left, found⟩ | ⟨outer, -⟩
    · obtain ⟨seen', ends'⟩ := endsOpen_behindAuthority seen found
      rw [found]
      refine ⟨_, rfl, (bare_append_cons slash seen').2 ⟨?_, ?_, plain⟩⟩
      · rw [← whole bare']
        exact bare
      · rw [← ends', ← ends, closed]
    · rw [bare'] at outer
      cases outer

end ServiceClient.Url
