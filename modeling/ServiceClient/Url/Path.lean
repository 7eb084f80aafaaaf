import ServiceClient.Text.CodeSet
import ServiceClient.Url.Percent

/-!
# Paths

A path is a list of segments. Segments of dots are carried out while it is read: one dot is left
out, two dots take back the segment before them.
-/

namespace ServiceClient.Url

/-- The segments of a text, cut at slashes, and at backslashes too for special schemes. -/
def segments (special : Bool) : List Char → List (List Char)
  | [] => [[]]
  | c :: cs =>
    if c = '/' || (special && c = '\\') then [] :: segments special cs
    else match segments special cs with
      | [] => [[c]]
      | s :: ss => (c :: s) :: ss

/-- Reads an encoded dot at the front. -/
def dropDot? : List Char → Option (List Char)
  | '.' :: cs => some cs
  | '%' :: '2' :: 'e' :: cs => some cs
  | '%' :: '2' :: 'E' :: cs => some cs
  | _ => none

/-- Whether a segment stands for the place where it is. -/
def isSingleDot (s : List Char) : Bool :=
  dropDot? s == some []

/-- Whether a segment takes back the one before it. -/
def isDoubleDot (s : List Char) : Bool :=
  (dropDot? s).bind dropDot? == some []

/-- Whether a character does not count anywhere in a URL: tabs and line ends. -/
def isIgnored (c : Char) : Bool :=
  c = '\t' || c = '\n' || c = '\r'

/-- Whether a segment is a letter and a colon or a bar. -/
def isDrive (s : List Char) : Bool :=
  match s with
  | [c, d] => c.isAlpha && (d = ':' || d = '|')
  | _ => false

/-- Whether a segment is a drive, or begins with one and a backslash. Such a segment is never
taken back. -/
def stays (s : List Char) : Bool :=
  isDrive s || (isDrive (s.take 2) && s[2]? = some '\\')

/-- The segments `done`, the last one first, without the last one, unless it stays. -/
def takeBack : List (List Char) → List (List Char)
  | [] => []
  | s :: done => if stays s then s :: done else done

/-- A segment cut behind a drive written with a colon, when ignored characters and others follow
that colon. -/
def splitDrive? (s : List Char) : Option (List Char × List Char) :=
  match s.filter (!isIgnored ·) with
  | c :: ':' :: d :: ds =>
    if c.isAlpha && (((s.dropWhile (· ≠ ':')).drop 1).head?).any isIgnored then
      some ([c, ':'], d :: ds)
    else none
  | _ => none

/-- What was read of a path. -/
structure Walk where
  /-- The segments, the last one first. -/
  done : List (List Char) := []
  /-- Whether a drive takes the place of the host. -/
  drive : Bool := false
  deriving DecidableEq

namespace Walk

/-- A walk with one more segment. -/
def push (w : Walk) (s : List Char) : Walk :=
  { w with done := percentEncode pathSet s :: w.done }

/-- The first segment of a file's path: a drive is written with a colon and takes the place of the
host, and what follows a drive that was cut off is a segment of its own. -/
def pushRoot (w : Walk) (s : List Char) : Walk :=
  match splitDrive? s with
  | some (drive, rest) => (w.push drive).push rest
  | none =>
    let s := s.filter (!isIgnored ·)
    if isDrive s then ⟨[s.take 1 ++ [':']], true⟩ else w.push s

/-- Carries out the segments one after the other. -/
def steps (file : Bool) (w : Walk) : List (List Char) → Walk
  | [] => w
  | s :: ss =>
    let plain := s.filter (!isIgnored ·)
    let close (w : Walk) : Walk := if ss.isEmpty then w.push [] else w
    if isDoubleDot plain then steps file (close { w with done := takeBack w.done }) ss
    else if isSingleDot plain then steps file (close w) ss
    else if file && w.done.isEmpty then steps file (w.pushRoot s) ss
    else steps file (w.push plain) ss

end Walk

/-- The path of a text behind the first slash. -/
def readPath (special : Bool) (cs : List Char) : List (List Char) :=
  (Walk.steps false {} (segments special cs)).done.reverse

/-- The path of a file behind the first slash, and whether it begins with a drive in place of a
host. Empty segments at the front are left out. -/
def readFilePath (cs : List Char) : List (List Char) × Bool :=
  let w := Walk.steps true {} (segments true cs)
  match w.done.reverse.dropWhile List.isEmpty with
  | [] => ([[]], w.drive)
  | path => (path, w.drive)

/-- The written form of a path. -/
def pathText (path : List (List Char)) : List Char :=
  path.flatMap ('/' :: ·)

end ServiceClient.Url
