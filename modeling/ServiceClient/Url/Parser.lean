import ServiceClient.Text.Blank
import ServiceClient.Url.Basic

/-!
# Reading URLs

Control characters and blanks around a text and tabs and line ends within it do not count. Special
schemes have a host; a path of theirs may be cut by backslashes.
-/

namespace ServiceClient.Url

/-- A text without the ignored characters. -/
def clean (cs : List Char) : List Char :=
  cs.filter (!isIgnored ·)

/-- Whether a character may stand in a scheme. -/
def isSchemeChar (c : Char) : Bool :=
  c.isAlphanum || c = '+' || c = '-' || c = '.'

/-- The scheme of a text in lower case, and what stands behind its colon. -/
def splitScheme? (cs : List Char) : Option (String × List Char) :=
  match cs.dropWhile isSchemeChar with
  | ':' :: rest =>
    if cs.head?.any Char.isAlpha then
      some (String.ofList ((cs.takeWhile isSchemeChar).map Domain.lower), rest)
    else none
  | _ => none

/-- The kinds of schemes. -/
inductive SchemeKind where
  /-- Schemes with a host, and their usual port. -/
  | special (port : Nat)
  | file
  | other
  deriving DecidableEq, Repr

/-- The kind of a scheme. -/
def schemeKind (scheme : String) : SchemeKind :=
  if scheme = "http" || scheme = "ws" then .special 80
  else if scheme = "https" || scheme = "wss" then .special 443
  else if scheme = "ftp" then .special 21
  else if scheme = "file" then .file
  else .other

/-- Whether a character ends an authority. -/
def endsAuthority (special : Bool) (c : Char) : Bool :=
  c = '/' || c = '?' || c = '#' || (special && c = '\\')

/-- An authority cut at its last at-sign; without one there is no user. -/
def splitUser (cs : List Char) : Option (List Char) × List Char :=
  match (cs.reverse.dropWhile (· ≠ '@')).reverse with
  | [] => (none, cs)
  | user => (some user.dropLast, cs.drop user.length)

/-- The user name and the password of a user, percent-encoded. -/
def readUser (cs : List Char) : String × String :=
  let name := cs.takeWhile (· ≠ ':')
  let password := (cs.dropWhile (· ≠ ':')).drop 1
  (String.ofList (percentEncode userinfoSet name),
    String.ofList (percentEncode userinfoSet password))

/-- A host and what follows it, cut at the first colon outside brackets. -/
def splitHost (inside : Bool) : List Char → List Char × List Char
  | [] => ([], [])
  | c :: cs =>
    if c = ':' && !inside then ([], c :: cs)
    else
      let (host, rest) := splitHost (if c = '[' then true else if c = ']' then false else inside) cs
      (c :: host, rest)

/-- Reads a port behind its colon; the usual port counts as none. A backslash ends it. -/
def readPort (usual : Option Nat) (cs : List Char) : Except Error (Option Nat × List Char) :=
  let digits := cs.takeWhile isDigit
  let rest := cs.dropWhile isDigit
  if !(rest.isEmpty || rest.head? = some '\\') then .error .port
  else if digits.isEmpty then .ok (none, rest)
  else
    let n := numberIn 10 digits
    if 65535 < n then .error .port
    else .ok (if usual = some n then none else some n, rest)

/-- Reads the host and the port of an authority, and what is left of it. -/
def readHostPort (kind : SchemeKind) (cs : List Char) :
    Except Error (Option Host × Option Nat × List Char) := do
  let (host, rest) := splitHost false cs
  match kind with
  | .special usual =>
    if host.isEmpty then throw .emptyHost
    let h ← Host.ofSpecial host
    let (port, rest) ← readPort (some usual) (rest.drop 1)
    return (some h, port, rest)
  | _ =>
    let h ← Host.ofOpaque host
    if host.isEmpty && !rest.isEmpty then throw .emptyHost
    let (port, rest) ← readPort none (rest.drop 1)
    return (if host.isEmpty then none else some h, port, rest)

/-- Reads an authority, and what is left of it; `last` tells that nothing follows it. -/
def readAuthority (kind : SchemeKind) (last : Bool) (cs : List Char) :
    Except Error (Authority × List Char) := do
  let (user?, rest) := splitUser cs
  let (username, password) := readUser (user?.getD [])
  if user? = some [] && rest.isEmpty && !last then throw .emptyHost
  let (host, port, rest) ← readHostPort kind rest
  if host.isNone && !(username.isEmpty && password.isEmpty) then throw .emptyHost
  return (⟨username, password, host, port⟩, rest)

/-- The query and the fragment at the end of a URL. -/
def readTail (special : Bool) (cs : List Char) : Option (List Char) × Option (List Char) :=
  let set := if special then specialQuerySet else querySet
  let fragment := fun (rest : List Char) => match rest with
    | '#' :: f => some (percentEncode fragmentSet f)
    | _ => none
  match cs with
  | '?' :: rest =>
    (some (percentEncode set (rest.takeWhile (· ≠ '#'))), fragment (rest.dropWhile (· ≠ '#')))
  | rest => (none, fragment rest)

/-- Whether a character ends a path. -/
def endsPath (c : Char) : Bool :=
  c = '?' || c = '#'

/-- Reads a URL of a special scheme behind its colon. -/
def parseSpecial (scheme : String) (usual : Nat) (cs : List Char) : Except Error Url := do
  let cs := cs.dropWhile fun c => c = '/' || c = '\\'
  let rest := cs.dropWhile (!endsAuthority true ·)
  let (authority, _) ←
    readAuthority (.special usual) rest.isEmpty (cs.takeWhile (!endsAuthority true ·))
  let (query, fragment) := readTail true (rest.dropWhile (!endsPath ·))
  return ⟨scheme, some authority,
    .segments (readPath true ((rest.takeWhile (!endsPath ·)).drop 1)), query, fragment⟩

/-- Reads the host of a file; the local host is none. -/
def readFileHost (cs : List Char) : Except Error (Option Host) :=
  if cs.isEmpty then .ok none
  else (Host.ofSpecial cs).map fun h => if h = .name "localhost" then none else some h

/-- What stands behind a slash or a backslash at the front. -/
def dropSlash? (cs : List Char) : Option (List Char) :=
  match cs.dropWhile isIgnored with
  | '/' :: cs => some cs
  | '\\' :: cs => some cs
  | _ => none

/-- The URL of a file on a host, given the text of its path and what follows. A drive at the front
of the path takes the place of the host. -/
def fileUrl (host : Option Host) (path rest : List Char) : Url :=
  let (query, fragment) := readTail true (clean rest)
  let (path, drive) := readFilePath path
  ⟨"file", some ⟨"", "", if drive then none else host, none⟩, .segments path, query, fragment⟩

/-- Reads a URL of a file behind its colon; the text still has its ignored characters. Behind two
slashes stands a host. Only a host of some length takes the slash that follows it; without one
this slash begins an empty segment. -/
def parseFile (cs : List Char) : Except Error Url := do
  let behind := (dropSlash? cs).getD cs
  match (dropSlash? cs).bind dropSlash? with
  | none => return fileUrl none (behind.takeWhile (!endsPath ·)) (behind.dropWhile (!endsPath ·))
  | some cs =>
    let name := cs.takeWhile (!endsAuthority true ·)
    if isDrive (clean name) then
      return fileUrl none (cs.takeWhile (!endsPath ·)) (cs.dropWhile (!endsPath ·))
    let host ← readFileHost (clean name)
    let behind := cs.drop name.length
    let path := behind.takeWhile (!endsPath ·)
    return fileUrl host (if host.isSome then path.drop 1 else path) (behind.dropWhile (!endsPath ·))

/-- The path of a URL of any other scheme behind its authority. -/
def readRootedPath (cs : List Char) : List (List Char) :=
  match cs with
  | [] => []
  | '/' :: cs => readPath false cs
  | cs => readPath false cs

/-- Reads a URL of any other scheme behind its colon. -/
def parseOther (scheme : String) (cs : List Char) : Except Error Url := do
  match cs with
  | '/' :: '/' :: cs =>
    let rest := cs.dropWhile (!endsAuthority false ·)
    let (authority, left) ←
      readAuthority .other rest.isEmpty (cs.takeWhile (!endsAuthority false ·))
    let (query, fragment) := readTail false (rest.dropWhile (!endsPath ·))
    return ⟨scheme, some authority,
      .segments (readRootedPath (left ++ rest.takeWhile (!endsPath ·))), query, fragment⟩
  | '/' :: path =>
    let (query, fragment) := readTail false (path.dropWhile (!endsPath ·))
    return ⟨scheme, none, .segments (readPath false (path.takeWhile (!endsPath ·))),
      query, fragment⟩
  | _ =>
    let (query, fragment) := readTail false (cs.dropWhile (!endsPath ·))
    return ⟨scheme, none, .opaqueText (percentEncode controlSet (cs.takeWhile (!endsPath ·))),
      query, fragment⟩

/-- Reads a URL. -/
def parse (s : String) : Except Error Url :=
  let cs := Text.dropBoth (·.toNat ≤ 0x20) s.toList
  match splitScheme? (clean cs) with
  | none => .error .relative
  | some (scheme, rest) =>
    match schemeKind scheme with
    | .special usual => parseSpecial scheme usual rest
    | .file => parseFile ((cs.dropWhile (· ≠ ':')).drop 1)
    | .other => parseOther scheme rest

end ServiceClient.Url
