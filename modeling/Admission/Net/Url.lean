import Admission.Net.Domain.Basic
import Admission.Net.SocketAddress
import Admission.Text.Blank
import Admission.Text.Percent

/-!
# Addresses of the web

A text is read as an absolute URL and kept in normal form: scheme and host in lower case, the port
only if it is not the scheme's own, dot segments of the path carried out, and whatever may not stand
as it is percent-coded.  Line ends and tabs do not count, nor do blanks and controls at either end.

The schemes `http`, `https`, `ws`, `wss`, `ftp` and `file` are special: a backslash is a slash, any
number of slashes may stand before the host, which is a domain name or an address, and the path
starts with a slash.  A file may be on no host, and its path may start with the letter of a drive.
-/

namespace Admission.Net

open Admission.Text

/-- A path: segments, percent-coded, each with a slash before it, or a text of no structure. -/
inductive Url.Path where
  | segments (ss : List (List Char))
  | flat (cs : List Char)
  deriving DecidableEq, Repr

/-- A URL in normal form. -/
structure Url where
  scheme : List Char
  username : List Char
  password : List Char
  host : Option (List Char)
  port : Option Nat
  path : Url.Path
  query : Option (List Char)
  fragment : Option (List Char)
  deriving DecidableEq, Repr

namespace Url

/-! ## What is percent-coded -/

/-- Controls and whatever is not ASCII. -/
def isControlByte (b : UInt8) : Bool := b < 0x20 || 0x7E < b

/-- Bytes coded in a fragment. -/
def inFragmentSet (b : UInt8) : Bool :=
  isControlByte b || b == 0x20 || b == 0x22 || b == 0x3C || b == 0x3E || b == 0x60

/-- Bytes coded in a path. -/
def inPathSet (b : UInt8) : Bool :=
  inFragmentSet b || b == 0x23 || b == 0x3F || b == 0x7B || b == 0x7D

/-- Bytes coded before the host. -/
def inUserSet (b : UInt8) : Bool :=
  inPathSet b || b == 0x2F || b == 0x3A || b == 0x3B || b == 0x3D || b == 0x40 ||
    (0x5B ≤ b && b ≤ 0x5E) || b == 0x7C

/-- Bytes coded in a query. -/
def inQuerySet (isSpecial : Bool) (b : UInt8) : Bool :=
  isControlByte b || b == 0x20 || b == 0x22 || b == 0x23 || b == 0x3C || b == 0x3E ||
    (isSpecial && b == 0x27)

/-- Characters with some of their bytes coded. -/
def encodeChars (coded : UInt8 → Bool) (cs : List Char) : List Char :=
  (percentEncode coded (utf8Chars cs)).map fun b => Char.ofNat b.toNat

/-! ## Schemes -/

/-- The port of a scheme that has one of its own. -/
def defaultPort? (scheme : List Char) : Option Nat :=
  if scheme = "http".toList ∨ scheme = "ws".toList then some 80
  else if scheme = "https".toList ∨ scheme = "wss".toList then some 443
  else if scheme = "ftp".toList then some 21
  else none

/-- The scheme of files. -/
def fileScheme : List Char := "file".toList

/-- A special scheme. -/
def isSpecialScheme (scheme : List Char) : Bool :=
  (defaultPort? scheme).isSome || scheme == fileScheme

/-- A character of a scheme after the first. -/
def isSchemeChar (c : Char) : Bool := c.isAlphanum || c == '+' || c == '-' || c == '.'

/-- A scheme, which starts with a letter, and what follows its colon. -/
def splitScheme? (cs : List Char) : Option (List Char × List Char) :=
  let scheme := cs.takeWhile isSchemeChar
  match scheme, cs.drop scheme.length with
  | c :: _, ':' :: rest => if c.isAlpha then some (scheme.map Char.toLower, rest) else none
  | _, _ => none

/-- A slash, or a backslash that counts as one. -/
def isSlash (isSpecial : Bool) (c : Char) : Bool := c == '/' || (isSpecial && c == '\\')

/-- A character that ends an authority. -/
def endsAuthority (isSpecial : Bool) (c : Char) : Bool :=
  isSlash isSpecial c || c == '?' || c == '#'

/-! ## Hosts -/

/-- A number in decimal, in octal after a zero, or in hexadecimal after `0x`. -/
def readHostNumber? (cs : List Char) : Option Nat :=
  match cs with
  | [] => none
  | '0' :: x :: rest =>
    if x = 'x' ∨ x = 'X' then readBase? 16 rest else readBase? 8 (x :: rest)
  | _ => readBase? 10 cs
where
  /-- Digits of a base, which may be none. -/
  readBase? (base : Nat) (cs : List Char) : Option Nat :=
    cs.foldlM (fun n c => do
      let d ← hexDigitValue? c
      if d < base then some (base * n + d) else none) 0

/-- Whether a host ends in a number, and so must be an address of four bytes. -/
def endsInNumber (labels : List (List Char)) : Bool :=
  let last? := match labels.reverse with
    | [] :: l :: _ => some l
    | l :: _ => some l
    | [] => none
  match last? with
  | none => false
  | some l => (!l.isEmpty && l.all Char.isDigit) || (readHostNumber? l).isSome

/-- An address of at most four numbers, of which the last fills up the bytes that are left. -/
def readNumericHost? (labels : List (List Char)) : Option (List Char) := do
  let labels := if labels.getLast? = some [] then labels.dropLast else labels
  if 4 < labels.length then none
  else
    let numbers ← labels.mapM readHostNumber?
    let last ← numbers.getLast?
    let front := numbers.dropLast
    if Nat.pow 256 (4 - front.length) ≤ last ∨ front.any (256 ≤ ·) then none
    else
      let n := front.zipIdx.foldl (fun n (b, i) => n + b * Nat.pow 256 (3 - i)) last
      some (bytesText [(n >>> 24).toUInt8, (n >>> 16).toUInt8, (n >>> 8).toUInt8, n.toUInt8]).toList

/-- Characters that no host has. -/
def isForbiddenInHost (c : Char) : Bool :=
  c.toNat ≤ 0x20 || c.toNat == 0x7F ||
    ['#', '%', '/', ':', '<', '>', '?', '@', '[', '\\', ']', '^', '|'].contains c

/-- The groups of an address, without regard to any decimal form. -/
def bracketText (gs : List UInt16) : List Char :=
  let (start, n) := longestZeroRun (0, 0) 0 gs
  let s := if 1 < n then groupsText (gs.take start) ++ "::" ++ groupsText (gs.drop (start + n))
    else groupsText gs
  '[' :: s.toList ++ [']']

/-- An address between brackets. -/
def readBracketHost? (cs : List Char) : Option (List Char) := do
  let (groups, rest) ← readAddress? cs
  if rest = [']'] then some (bracketText groups) else none

/-- The host of a special scheme. -/
def readHost? (cs : List Char) : Option (List Char) :=
  match cs with
  | '[' :: rest => readBracketHost? rest
  | _ => do
    let name ← text? (percentDecode (utf8Chars cs))
    let host ← Domain.ofChars? name.toList
    if host.isEmpty || host.any isForbiddenInHost then none
    else
      let labels := pieces (· == '.') host
      if endsInNumber labels then readNumericHost? labels else some host

/-- The host of any other scheme. -/
def readOpaqueHost? (cs : List Char) : Option (List Char) :=
  match cs with
  | '[' :: rest => readBracketHost? rest
  | _ =>
    if cs.any fun c => c != '%' && c.toNat != 0x7F && isForbiddenInHost c &&
        (0x20 ≤ c.toNat || [0, 9, 10, 13].contains c.toNat) then none
    else some (encodeChars isControlByte cs)

/-- A host up to its end, and what follows it; a colon between brackets is part of it. -/
def splitHost (isSpecial inside : Bool) : List Char → List Char × List Char
  | [] => ([], [])
  | c :: cs =>
    if endsAuthority isSpecial c || (c == ':' && !inside) then ([], c :: cs)
    else
      let (host, rest) := splitHost isSpecial ((inside || c == '[') && c != ']') cs
      (c :: host, rest)

/-- A port, and what follows it; no digits are no port. -/
def readPort? (cs : List Char) : Option (Option Nat × List Char) :=
  let ds := cs.takeWhile Char.isDigit
  let rest := cs.drop ds.length
  let endsWell := match rest with
    | [] => true
    | c :: _ => endsAuthority true c
  if endsWell && digitsValue ds < 0x10000 then
    some (if ds.isEmpty then none else some (digitsValue ds), rest)
  else none

/-! ## Paths -/

/-- A segment that stands for the directory itself. -/
def isSingleDot (s : List Char) : Bool :=
  s == ['.'] || s.map Char.toLower == ['%', '2', 'e']

/-- A segment that stands for the directory above. -/
def isDoubleDot (s : List Char) : Bool :=
  let s := s.map Char.toLower
  s == ['.', '.'] || s == ['.', '%', '2', 'e'] || s == ['%', '2', 'e', '.'] ||
    s == ['%', '2', 'e', '%', '2', 'e']

/-- The letter of a drive, with a colon or a bar. -/
def isDrive : List Char → Bool
  | [a, b] => a.isAlpha && (b == ':' || b == '|')
  | _ => false

/-- Go up by one segment; a drive is not left. -/
def goUp (done : List (List Char)) : List (List Char) :=
  if done.getLast?.any isDrive then done else done.dropLast

/-- Carry out segments one after the other; a dot segment at the end leaves an empty one. -/
def addSegments (done : List (List Char)) : List (List Char) → List (List Char)
  | [] => done
  | s :: ss =>
    let atEnd := if ss.isEmpty then [[]] else []
    if isDoubleDot s then addSegments (goUp done ++ atEnd) ss
    else if isSingleDot s then addSegments (done ++ atEnd) ss
    else addSegments (done ++ [encodeChars inPathSet s]) ss

/-- A text without the slash that it may start with. -/
def withoutSlash (isSpecial : Bool) : List Char → List Char
  | [] => []
  | c :: cs => if isSlash isSpecial c then cs else c :: cs

/-- The segments of a path behind its first slash. -/
def readSegments (isSpecial : Bool) (cs : List Char) : List (List Char) :=
  addSegments [] (pieces (isSlash isSpecial) cs)

/-- A path that may start with a slash. -/
def readPath (isSpecial : Bool) (cs : List Char) : Path :=
  .segments <|
    if cs.isEmpty && !isSpecial then [] else readSegments isSpecial (withoutSlash isSpecial cs)

/-! ## Reading -/

/-- What stands before the host and an at sign, if there is one, and the rest from the host on. -/
def splitUser (isSpecial : Bool) (cs : List Char) : Option (List Char) × List Char :=
  let authority := cs.takeWhile fun c => !endsAuthority isSpecial c
  match splitLast? '@' authority with
  | none => (none, cs)
  | some (user, host) => (some user, host ++ cs.drop authority.length)

/-- A URL whose scheme, query and fragment are read, from what follows `//`. -/
def ofAuthority? (base : Url) (cs : List Char) : Option Url := do
  let isSpecial := isSpecialScheme base.scheme
  let (user, cs) := splitUser isSpecial cs
  let (username, password) := splitFirst ':' (user.getD [])
  let username := encodeChars inUserSet username
  let password := encodeChars inUserSet (password.getD [])
  let (hostChars, cs) := splitHost isSpecial false cs
  let host ←
    if hostChars.isEmpty then
      if isSpecial || user = some [] || !username.isEmpty || !password.isEmpty ||
          cs.head? == some ':' then none
      else some []
    else if isSpecial then readHost? hostChars
    else readOpaqueHost? hostChars
  let (port, cs) ← match cs with
    | ':' :: cs => readPort? cs
    | cs => some (none, cs)
  return { base with
    username := username
    password := password
    host := some host
    port := if port = defaultPort? base.scheme then none else port
    path := readPath isSpecial cs }

/-- The host of files that are on none. -/
def localHost : List Char := "localhost".toList

/-- A file on a host, from the path behind its first slash.  A path that starts with a drive needs
no host, and empty segments at the start do not count. -/
def onHost (base : Url) (host cs : List Char) : Url :=
  let ss := readSegments true cs
  match ss with
  | [letter, bar] :: rest =>
    if isDrive [letter, bar] then
      { base with host := some [], path := .segments ([letter, ':'] :: rest) }
    else { base with host := some host, path := .segments ss }
  | _ =>
    let rest := ss.dropWhile List.isEmpty
    { base with host := some host, path := .segments (if rest.isEmpty then [[]] else rest) }

/-- The URL of a file whose query and fragment are read, from what follows the scheme. -/
def ofFile? (base : Url) (cs : List Char) : Option Url :=
  match cs with
  | a :: b :: rest =>
    if isSlash true a && isSlash true b then
      let name := rest.takeWhile fun c => !endsAuthority true c
      let path := rest.drop name.length
      if isDrive name then some (onHost base [] rest)
      else if name.isEmpty then some (onHost base [] path)
      else do
        let host ← readHost? name
        return if host = localHost then onHost base [] path
          else onHost base host (withoutSlash true path)
    else some (onHost base [] (withoutSlash true cs))
  | _ => some (onHost base [] (withoutSlash true cs))

/-- A URL whose scheme, query and fragment are read, from what follows the scheme. -/
def ofRest? (base : Url) (cs : List Char) : Option Url :=
  if base.scheme = fileScheme then ofFile? base cs
  else if isSpecialScheme base.scheme then ofAuthority? base (cs.dropWhile (isSlash true))
  else
    match cs with
    | '/' :: '/' :: rest => ofAuthority? base rest
    | '/' :: _ => some { base with path := readPath false cs }
    | _ => some { base with path := .flat (encodeChars isControlByte cs) }

/-- A character that does not count at the ends of a text. -/
def isPadding (c : Char) : Bool := c.toNat ≤ 0x20

/-- The characters of a text that count. -/
def significant (cs : List Char) : List Char :=
  let cs := ((cs.dropWhile isPadding).reverse.dropWhile isPadding).reverse
  cs.filter fun c => c != '\t' && c != '\n' && c != '\r'

/-- The URL that a text is a form of. -/
def ofText? (s : String) : Option Url := do
  let (scheme, rest) ← splitScheme? (significant s.toList)
  let (rest, fragment) := splitFirst '#' rest
  let (rest, query) := splitFirst '?' rest
  ofRest? {
    scheme := scheme
    username := []
    password := []
    host := none
    port := none
    path := .flat []
    query := query.map (encodeChars (inQuerySet (isSpecialScheme scheme)))
    fragment := fragment.map (encodeChars inFragmentSet) } rest

/-! ## Writing -/

/-- The text of a path. -/
def Path.chars : Path → List Char
  | .segments ss => ss.flatMap fun s => '/' :: s
  | .flat cs => cs

/-- What stands before the host, with an at sign. -/
def userChars (u : Url) : List Char :=
  if u.username.isEmpty && u.password.isEmpty then []
  else u.username ++ (if u.password.isEmpty then [] else ':' :: u.password) ++ ['@']

/-- What keeps a path without a host from being taken for one. -/
def guardChars (u : Url) : List Char :=
  match u.host, u.path with
  | none, .segments ([] :: _ :: _) => ['/', '.']
  | _, _ => []

/-- The path and the query. -/
def targetChars (u : Url) : List Char :=
  u.path.chars ++ (match u.query with
    | none => []
    | some q => '?' :: q)

/-- The text of a URL, character by character. -/
def chars (u : Url) : List Char :=
  u.scheme ++ ':' ::
    ((match u.host with
      | none => []
      | some h => '/' :: '/' :: u.userChars ++ h ++ (match u.port with
        | none => []
        | some p => ':' :: Nat.toDigits 10 p)) ++
      u.guardChars ++ u.targetChars ++
      (match u.fragment with
        | none => []
        | some f => '#' :: f))

/-- The text of a URL. -/
def text (u : Url) : String := String.ofList u.chars

/-- A URL that names a host. -/
def hasHost (u : Url) : Bool :=
  match u.host with
  | none => false
  | some h => !h.isEmpty

/-- A URL of the protocol that the service speaks. -/
def isHttp (u : Url) : Bool := u.scheme == "http".toList || u.scheme == "https".toList

/-- A URL without what stands before the host, if the name there is a text. -/
def withoutUser (u : Url) : Url :=
  match text? (percentDecode (utf8Chars u.username)) with
  | some _ => { u with username := [], password := [] }
  | none => u

end Url

end Admission.Net
