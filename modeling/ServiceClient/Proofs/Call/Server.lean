import ServiceClient.Proofs.Call.Repetition
import ServiceClient.Proofs.Url.Seam

/-!
# The server of a request

The path of a template is put behind the address of a service as a text, and the result is read as a
URL again. `url_sameServer` says that no path and no query leads to another server than that of the
address, and that only an address with blanks at its end keeps a path from being read at all.
-/

namespace ServiceClient

/-- Whether two URLs name the same server in the same way: the scheme, the host and the port. -/
def Url.SameServer (u v : Url) : Prop :=
  u.scheme = v.scheme ∧ u.host? = v.host? ∧ u.port? = v.port?

/-- The scheme and the authority of a URL tell its server. -/
lemma Url.SameServer.of_authority {u v : Url} (scheme : u.scheme = v.scheme)
    (authority : u.authority = v.authority) : u.SameServer v := by
  refine ⟨scheme, ?_, ?_⟩
  · rw [Url.host?, authority, Url.host?]
  · rw [Url.port?, authority, Url.port?]

namespace Template

variable {base path : String} {b u : Url} {usual : Nat}

/-- A path is put behind an address without the slashes at its end, with one slash in front. -/
lemma exists_joinPath (nonempty : path ≠ "") (base : String) :
    ∃ ds, joinPath base path =
      String.ofList (Text.dropEnd (· == '/') base.toList ++ '/' :: ds) := by
  have some : path.isEmpty = false := by
    rw [Bool.eq_false_iff]
    exact fun empty => nonempty (String.isEmpty_iff.1 empty)
  simp only [joinPath, some, Bool.false_eq_true, if_false]
  split
  next slash =>
    obtain ⟨ds, eq⟩ := List.isPrefixOf_iff_prefix.1 slash
    refine ⟨ds, String.toList_inj.1 ?_⟩
    rw [String.toList_append, ← eq]
    simp [Text.dropEndSlashes]
  next =>
    refine ⟨path.toList, String.toList_inj.1 ?_⟩
    simp [Text.dropEndSlashes]

/-- An address is cut before the slashes at its end. -/
lemma exists_cut_dropEndSlashes (kind : Url.schemeKind b.scheme = .special usual)
    (read : Url.parse base = .ok b) :
    ∃ a r, Url.Cut (Text.dropEnd (· == '/') base.toList) b.scheme usual a r ∧
      b.authority = some a ∧
      (Url.endsOuter base.toList = false → ∃ left,
        Url.readAuthority (.special usual) false (Url.authorityText r) = .ok (a, left)) := by
  obtain ⟨ds, parts, slashes⟩ := Text.exists_dropEnd_append (p := (· == '/')) base.toList
  have read' := read
  rw [← String.ofList_toList (s := base), parts] at read'
  -- a blank at the end of the address is stripped, but spoils the authority once a path follows;
  -- in front of a slash it would have spoiled it already
  cases ds with
  | nil =>
    rw [List.append_nil] at parts read'
    obtain ⟨a, r, cut, authority, -⟩ := Url.exists_cut kind read'
    refine ⟨a, r, cut, authority, fun bare => ?_⟩
    rcases cut.reads with found | ⟨outer, -⟩
    · exact found
    · rw [← parts, bare] at outer
      cases outer
  | cons d ds =>
    rw [eq_of_beq (slashes d List.mem_cons_self)] at read'
    obtain ⟨a, r, left, cut, authority, found⟩ := Url.exists_cut_of_slashes kind
      (fun c mem => eq_of_beq (slashes c (List.mem_cons_of_mem d mem))) read'
    exact ⟨a, r, cut, authority, fun _ => ⟨left, found⟩⟩

/-- A path leaves the scheme and the authority of an address as they are. It is read, unless the
address ends in a blank or a control character. -/
lemma parse_joinPath (kind : Url.schemeKind b.scheme = .special usual)
    (read : Url.parse base = .ok b) (path : String) :
    (∀ u, Url.parse (joinPath base path) = .ok u →
      u.scheme = b.scheme ∧ u.authority = b.authority) ∧
      (Url.endsOuter base.toList = false → ∃ u, Url.parse (joinPath base path) = .ok u) := by
  by_cases empty : path = ""
  · have alone : joinPath base path = base := by
      rw [joinPath, if_pos (String.isEmpty_iff.2 empty)]
    rw [alone, read]
    exact ⟨fun u eq => by cases eq; exact ⟨rfl, rfl⟩, fun _ => ⟨b, rfl⟩⟩
  · obtain ⟨ds, joined⟩ := exists_joinPath empty base
    obtain ⟨a, r, cut, authority, bare⟩ := exists_cut_dropEndSlashes kind read
    rw [joined, authority]
    refine ⟨fun u eq => cut.authority kind eq, fun ends => ?_⟩
    obtain ⟨left, found⟩ := bare ends
    rw [cut.parse_append_cons kind, found]
    exact ⟨_, rfl⟩

/-- Queries change neither the scheme nor the authority. -/
lemma appendPairs_authority (u : Url) (pairs : List Url.Form.Pair) :
    (u.appendPairs pairs).scheme = u.scheme ∧ (u.appendPairs pairs).authority = u.authority := by
  unfold Url.appendPairs
  split <;> exact ⟨rfl, rfl⟩

/-- Whatever its path and its queries, a template below an address of the web stands for a URL on
the server of that address, and so does every request of a call. There is such a URL, unless the
address ends in a blank or a control character. -/
theorem url_sameServer (read : Url.parse base = .ok b)
    (web : b.scheme = "http" ∨ b.scheme = "https") :
    (∀ (t : Template) u, t.url base = .ok u → u.SameServer b) ∧
      (Url.endsOuter base.toList = false → ∀ t : Template, ∃ u, t.url base = .ok u) ∧
      ∀ (h : Handler) (target : Target) key t s, target.url = base →
        ∀ r ∈ (h.call target key t s).requests, r.url.SameServer b := by
  obtain ⟨usual, kind⟩ : ∃ usual, Url.schemeKind b.scheme = .special usual := by
    rcases web with eq | eq
    · exact ⟨80, by rw [eq]; rfl⟩
    · exact ⟨443, by rw [eq]; rfl⟩
  have same : ∀ (t : Template) u, t.url base = .ok u → u.SameServer b := by
    intro t u eq
    obtain ⟨v, joined, rfl⟩ := map_ok eq
    obtain ⟨scheme, authority⟩ := (parse_joinPath kind read t.path).1 v joined
    obtain ⟨scheme', authority'⟩ := appendPairs_authority v t.queries
    exact .of_authority (scheme'.trans scheme) (authority'.trans authority)
  refine ⟨same, fun bare t => ?_, fun h target key t s below r mem => ?_⟩
  · obtain ⟨u, joined⟩ := (parse_joinPath kind read t.path).2 bare
    exact ⟨u.appendPairs t.queries, by rw [url, joined]; rfl⟩
  · cases Handler.composed_of_mem_requests mem with
    | mk _ _ found _ => exact same _ _ (below ▸ found)

/-- The URL of a service with a port and a path. -/
def usersUrl : Url :=
  ⟨"http", some ⟨"", "", some (.name "users"), some 8080⟩, .segments ["api".toList, []], none, none⟩

/-- A template with everything in its path that could lead elsewhere. -/
def evasive : Template where
  path := "\\\\@elsewhere:99/..\t?q#f"
  queries := [("page", "1")]

/-- A handler with the usual components. -/
def usualHandler : Handler where
  loggerLevel := .none
  options := {}
  retry := .never
  decode404 := false
  exceptionPolicy := .none
  encoder := .json
  decoder := .json
  contract := .standard
  errorDecoder := .standard
  queryMapEncoder := .fields
  interceptors := []
  transport := .direct ⟨0, "direct"⟩
  setterFactory := none

/-- The template does not lead away from the service, and its request is sent. -/
theorem url_sameServer_evasive :
    Url.parse "http://users:8080/api/" = .ok usersUrl ∧
      (∃ u, evasive.url "http://users:8080/api/" = .ok u ∧ u.SameServer usersUrl) ∧
      ∃ r ∈ (usualHandler.call ⟨⟨"UsersClient", .interface⟩, "users", "http://users:8080/api/"⟩
        "list" evasive { answer := fun _ => .ok ⟨200, [], []⟩ }).requests,
        r.url.SameServer usersUrl := by
  have read : Url.parse "http://users:8080/api/" = .ok usersUrl := by decide +kernel
  obtain ⟨same, found, sent⟩ := url_sameServer read (.inl rfl)
  obtain ⟨u, eq⟩ := found (by decide) evasive
  have some : (usualHandler.call ⟨⟨"UsersClient", .interface⟩, "users", "http://users:8080/api/"⟩
      "list" evasive { answer := fun _ => .ok ⟨200, [], []⟩ }).requests ≠ [] := by decide +kernel
  obtain ⟨r, mem⟩ := List.exists_mem_of_ne_nil _ some
  exact ⟨read, ⟨u, eq, same evasive u eq⟩, r, mem, sent _ _ _ _ _ rfl r mem⟩

end Template
end ServiceClient
