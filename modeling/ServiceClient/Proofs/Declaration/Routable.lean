import ServiceClient.Proofs.Call.Server
import ServiceClient.Proofs.Declaration.Checks
import ServiceClient.Proofs.Factory.Cache
import ServiceClient.Proofs.Url.Bare

/-!
# Names as hosts

A client without an address of its own is called under its name. The name is checked alone, as a URL
without a path, but the path of the client is put behind it before it is used. The path never leads
to another host: what is read is on the server of the name. But a name may bring a user, a path, a
query or a fragment with it, which the check lets pass: `not_describe_routable`. What a name and a
path need so that calls go to that path on the host of the name is told by `describe_routable_iff`.
-/

namespace ServiceClient

namespace Descriptor

/-- Whether the calls of a client that is called under its name go to its path on the host of the
name, and bring nothing else with them. -/
def Routable (d : Descriptor) : Prop :=
  ∃ v u, Url.parse (ClientName.address d.name) = .ok v ∧ Url.parse d.target.url = .ok u ∧
    u.host? = v.host? ∧ u.port? = v.port? ∧
    u.Bare (if d.path = "" then ['/'] else d.path.toList)

variable {d : Descriptor} {v : Url} {usual : Nat} {p : List Char}

/-- A client without an address of its own is called at the address of its name. -/
lemma target_url (deferred : d.url = none) :
    d.target.url = ClientName.address d.name ++ d.path := by
  rw [target, deferred, Option.getD_none]

/-- Without a path the calls go to what the name alone is read as. -/
lemma routable_of_empty (deferred : d.url = none) (empty : d.path = "")
    (read : Url.parse (ClientName.address d.name) = .ok v) :
    (∀ u, Url.parse d.target.url = .ok u → u.SameServer v) ∧ (d.Routable ↔ v.Bare ['/']) := by
  have alone : d.target.url = ClientName.address d.name := by
    rw [target_url deferred, empty, String.append_empty]
  unfold Routable
  rw [alone, if_pos empty]
  refine ⟨fun u eq => ?_, fun ⟨_, u, _, eq, _, _, bare⟩ => ?_, fun bare => ?_⟩
  · cases read.symm.trans eq
    exact ⟨rfl, rfl, rfl⟩
  · cases read.symm.trans eq
    exact bare
  · exact ⟨v, v, read, read, rfl, rfl, bare⟩

/-- A path stands behind the address of the name, and is read there as it is or not. -/
lemma routable_of_slash (deferred : d.url = none) (slash : d.path.toList = '/' :: p)
    (kind : Url.schemeKind v.scheme = .special usual)
    (read : Url.parse (ClientName.address d.name) = .ok v) :
    (∀ u, Url.parse d.target.url = .ok u → u.SameServer v) ∧
      (d.Routable ↔ v.Bare ['/'] ∧ Url.endsOpen (ClientName.address d.name).toList = false ∧
        Url.isPlainPath p = true) := by
  have joined : d.target.url =
      String.ofList ((ClientName.address d.name).toList ++ '/' :: p) := by
    rw [target_url deferred, ← String.toList_inj, String.toList_append, slash,
      String.toList_ofList]
  have some : d.path ≠ "" := by
    intro empty
    rw [empty] at slash
    cases slash
  have read' : Url.parse (String.ofList (ClientName.address d.name).toList) = .ok v := by
    rw [String.ofList_toList, read]
  have same (u : Url) (eq : Url.parse d.target.url = .ok u) : u.SameServer v := by
    obtain ⟨a, r, cut, authority, -⟩ := Url.exists_cut kind read'
    rw [joined] at eq
    obtain ⟨scheme, authority'⟩ := cut.authority kind eq
    exact .of_authority scheme (authority'.trans authority.symm)
  refine ⟨same, ?_⟩
  rw [← Url.exists_bare_iff kind read', ← joined]
  unfold Routable
  rw [if_neg some, slash]
  constructor
  · rintro ⟨-, u, -, eq, -, -, bare⟩
    exact ⟨u, eq, bare⟩
  · rintro ⟨u, eq, bare⟩
    obtain ⟨-, host, port⟩ := same u eq
    exact ⟨v, u, read, eq, host, port, bare⟩

end Descriptor

namespace ClientName

variable {name : String} {v : Url}

/-- The address of a name begins as one of the web. -/
lemma exists_address (name : String) :
    ∃ front rest, (front = "http:/".toList ∨ front = "https:/".toList) ∧
      (address name).toList = front ++ '/' :: rest := by
  unfold address
  split
  next told =>
    rw [hasScheme, Bool.or_eq_true, Text.beginsWith, Text.beginsWith,
      List.isPrefixOf_iff_prefix, List.isPrefixOf_iff_prefix] at told
    rcases told with ⟨rest, eq⟩ | ⟨rest, eq⟩
    · exact ⟨_, rest, .inl rfl, by rw [← eq]; rfl⟩
    · exact ⟨_, rest, .inr rfl, by rw [← eq]; rfl⟩
  next =>
    refine ⟨_, name.toList, .inl rfl, ?_⟩
    rw [String.toList_append]
    rfl

/-- The address of a name is read as one of the web. -/
lemma exists_schemeKind (read : Url.parse (address name) = .ok v) :
    ∃ usual, Url.schemeKind v.scheme = .special usual := by
  -- the scheme is cut off in front of the second slash, so that the name has no part in it
  obtain ⟨front, rest, web, eq⟩ := exists_address name
  obtain ⟨scheme, usual, split, kind⟩ : ∃ scheme usual,
      Url.splitScheme? (Url.strippedFront front) = some (scheme, ['/']) ∧
        Url.schemeKind scheme = .special usual := by
    rcases web with rfl | rfl
    · exact ⟨"http", 80, by decide, rfl⟩
    · exact ⟨"https", 443, by decide, rfl⟩
  have split' := Url.splitScheme?_append split
    (w := '/' :: Url.clean (Text.dropEnd Url.isOuter rest))
  rw [← Url.stripped_append_cons, ← eq] at split'
  rw [Url.parse_of_splitScheme? split' kind, Url.parseSpecial_eq] at read
  obtain ⟨found, -, rfl⟩ := map_ok read
  exact ⟨usual, kind⟩

/-- A name without a flaw stands for an address that can be read. -/
lemma exists_parse_address (checked : flaw? name = none) :
    ∃ v, Url.parse (address name) = .ok v := by
  unfold flaw? at checked
  split at checked
  next => cases checked
  next =>
    split at checked
    next => cases checked
    next v read => exact ⟨v, read⟩

end ClientName

namespace Declaration

variable {d : Declaration} {ps : Placeholders} {desc : Descriptor}

/-- A descriptor has a checked name and a path in normal form. -/
lemma name_of_describe (described : d.describe ps = .ok desc) :
    ClientName.flaw? desc.name = none ∧ desc.path = d.normalPath ps.expand := by
  obtain ⟨name, checked, described⟩ := bind_ok described
  obtain ⟨contextId, -, described⟩ := bind_ok described
  obtain ⟨fallback, -, described⟩ := bind_ok described
  obtain ⟨url, -, described⟩ := bind_ok described
  cases described
  exact ⟨(checkedName_ok checked).2, rfl⟩

/-- A path in normal form is empty or begins with a slash. -/
lemma normalPath_eq (d : Declaration) (ps : Placeholders) :
    d.normalPath ps.expand = "" ∨ ∃ p, d.normalPath ps.expand = String.ofList ('/' :: p) := by
  unfold normalPath
  cases d.path.map ps.expand with
  | none => exact .inl rfl
  | some path =>
    simp only [Option.map_some, Option.getD_some, Address.normalizePath]
    split
    · exact .inl rfl
    · exact .inr ⟨_, rfl⟩

/-- Every client without an address of its own is called on the server that its name stands for, if
it can be called at all. Its calls go to its path there, and bring nothing else with them, exactly
when the name brings no user, path, query or fragment with it and, if there is a path, the address
of the name does not end in a slash, a blank or a control character, and the path is written as it
is read. -/
theorem describe_routable_iff (described : d.describe ps = .ok desc) (deferred : desc.url = none) :
    (∀ (f : Factory) capability id m, (f.create capability id).value = .ok m →
      f.descriptor? id = some desc → m.client.target = desc.target) ∧
      ∃ v, Url.parse (ClientName.address desc.name) = .ok v ∧
        (∀ u, Url.parse desc.target.url = .ok u → u.SameServer v) ∧
        (desc.Routable ↔ v.Bare ['/'] ∧ (desc.path = "" ∨
          Url.endsOpen (ClientName.address desc.name).toList = false ∧
            Url.isPlainPath (desc.path.toList.drop 1) = true)) := by
  obtain ⟨checked, path⟩ := name_of_describe described
  obtain ⟨v, read⟩ := ClientName.exists_parse_address checked
  obtain ⟨usual, kind⟩ := ClientName.exists_schemeKind read
  refine ⟨fun f capability id m created registered => ?_, v, read, ?_⟩
  · obtain ⟨desc', registered', -, target⟩ := Factory.create_ok created
    cases registered.symm.trans registered'
    exact target
  rcases normalPath_eq d ps with empty | ⟨p, slash⟩
  · rw [← path] at empty
    obtain ⟨same, routable⟩ := Descriptor.routable_of_empty deferred empty read
    rw [routable]
    exact ⟨same, fun bare => ⟨bare, .inl empty⟩, And.left⟩
  · have text : desc.path.toList = '/' :: p := by rw [path, slash, String.toList_ofList]
    have some : desc.path ≠ "" := by
      intro empty
      rw [empty] at text
      cases text
    obtain ⟨same, routable⟩ := Descriptor.routable_of_slash deferred text kind read
    rw [routable, text, List.drop_one, List.tail_cons, or_iff_right some]
    exact ⟨same, Iff.rfl⟩

/-- A client that is called under a name with a port. -/
def portedClient : Declaration where
  clientType := ⟨"UsersClient", .interface⟩
  name := some "users:8080"
  path := some "api/v1/"

/-- Its calls go to its path on this port. -/
theorem describe_routable_ported :
    ∃ desc, portedClient.describe {} = .ok desc ∧ desc.url = none ∧
      desc.path = "/api/v1" ∧ desc.Routable := by
  have known : (portedClient.describe {}).map (fun desc => (desc.url, desc.name, desc.path)) =
      .ok (none, "users:8080", "/api/v1") := by decide +kernel
  obtain ⟨desc, described, eq⟩ := map_ok known
  obtain ⟨deferred, eq⟩ := Prod.mk.inj eq
  obtain ⟨name, path⟩ := Prod.mk.inj eq
  obtain ⟨-, v, read, -, routable⟩ := describe_routable_iff described deferred
  have alone : Url.parse (ClientName.address desc.name) = .ok
      ⟨"http", some ⟨"", "", some (.name "users"), some 8080⟩, .segments [[]], none, none⟩ := by
    rw [name]
    decide +kernel
  cases read.symm.trans alone
  refine ⟨desc, described, deferred, path, routable.2 ⟨?_, .inr ⟨?_, ?_⟩⟩⟩
  · exact ⟨fun a eq => by cases eq; rfl, fun a eq => by cases eq; rfl, rfl, rfl, rfl⟩
  · rw [name]
    decide +kernel
  · rw [path]
    decide +kernel

/-- A client under a name that brings a query with it. -/
def queriedClient : Declaration where
  clientType := ⟨"UsersClient", .interface⟩
  name := some "users?v=1"
  path := some "/api"

/-- The name passes the check, but the path of the client becomes a part of the query. -/
theorem not_describe_routable :
    ¬ ∀ (d : Declaration) ps desc, d.describe ps = .ok desc → desc.url = none →
      ClientName.hasScheme desc.name = false → desc.Routable := by
  intro law
  have known : (queriedClient.describe {}).map (fun desc =>
      (desc.url, ClientName.hasScheme desc.name, desc.target.url)) =
      .ok (none, false, "http://users?v=1/api") := by decide +kernel
  obtain ⟨desc, described, eq⟩ := map_ok known
  obtain ⟨deferred, eq⟩ := Prod.mk.inj eq
  obtain ⟨plain, target⟩ := Prod.mk.inj eq
  obtain ⟨v, u, -, read, -, -, bare⟩ := law _ _ desc described deferred plain
  have query : (Url.parse "http://users?v=1/api").map (·.query) = .ok (some "v=1/api".toList) := by
    decide +kernel
  rw [← target, read] at query
  rw [Except.map, bare.query] at query
  cases query

end Declaration
end ServiceClient
