import Courseware.Text.Blank
import Courseware.Text.Punycode
import Courseware.Text.Search
import Courseware.Text.Whole
import Courseware.Json.Printer

/-! # Web addresses

`Url.normalize` brings an absolute address of the web into the form in which it is requested and
reported: scheme and host in lower case, no user, no socket number that the scheme implies, no dot
segments in the path, and the characters that may not stand in an address as percent signs with two
digits. -/

namespace Courseware.Url

open Text

/-- The socket number that a scheme implies. -/
def impliedSocket (scheme : List Char) : Option Nat :=
  if scheme = "http".toList then some 80
  else if scheme = "https".toList then some 443
  else none

/-- A character as percent signs with two digits, one for each of its bytes. -/
def percent (c : Char) : List Char :=
  (String.singleton c).toUTF8.toList.flatMap fun byte =>
    '%' :: (Json.hexDigits 2 byte.toNat).map Char.toUpper

/-- A text with the characters of a class, and all that are not printable ASCII, encoded. -/
def encode (reserved : List Char) (cs : List Char) : List Char :=
  cs.flatMap fun c => if c.toNat < 0x21 ∨ 0x7e < c.toNat ∨ c ∈ reserved then percent c else [c]

/-- What is encoded in a path. -/
def pathReserved : List Char := ['"', '#', '<', '>', '?', '\x60', '\x7b', '\x7d']

/-- What is encoded in a query. -/
def queryReserved : List Char := ['"', '#', '<', '>', '\'']

/-- What is encoded in a fragment. -/
def fragmentReserved : List Char := ['"', '<', '>', '\x60']

/-- The characters that may not stand in the name of a host. -/
def isForbiddenInHost (c : Char) : Bool :=
  c.toNat < 0x21 || c.toNat == 0x7f || Text.isBlank c
    || c ∈ ['#', '%', '/', ':', '<', '>', '?', '@', '[', '\\', ']', '^', '|']

/-- Segments of a path without those that stand for a place: one dot stands for the same place, two
dots for the one before. The segments before are given last one first. -/
def resolve (done : List (List Char)) : List (List Char) → List (List Char)
  | [] => done.reverse
  | segment :: rest =>
    let last := rest.isEmpty
    if segment = ['.'] then resolve (if last then [] :: done else done) rest
    else if segment = ['.', '.'] then
      resolve (if last then [] :: done.drop 1 else done.drop 1) rest
    else resolve (segment :: done) rest

/-- A path with its segments resolved and encoded. -/
def path (cs : List Char) : List Char :=
  match cs.splitOnP fun c => c == '/' || c == '\\' with
  | [] :: segments =>
    (resolve [] segments).flatMap fun segment => '/' :: encode pathReserved segment
  | _ => ['/']

/-- A part of a host between dots: ASCII letters in lower case, and a part with other characters in
its ASCII form. -/
def hostLabel (cs : List Char) : List Char :=
  let lower := lowercase cs
  if lower.all (·.toNat < 128) then lower else "xn--".toList ++ Punycode.encode lower

/-- A host. -/
def host (cs : List Char) : Option (List Char) :=
  if cs.isEmpty ∨ cs.any isForbiddenInHost then none
  else some (joinWith ['.'] ((cs.splitOn '.').map hostLabel))

/-- Host and socket number, without the number that the scheme implies. -/
def authority (scheme cs : List Char) : Option (List Char) :=
  let named := cs.takeWhile (· != ':')
  let socket := (cs.dropWhile (· != ':')).drop 1
  (host named).bind fun name =>
    if socket.isEmpty then some name
    else
      match wholeNumber socket with
      | some n =>
        if socket.head? = some '+' ∨ 65535 < n then none
        else if impliedSocket scheme = some n then some name
        else some (name ++ ':' :: Nat.toDigits 10 n)
      | none => none

/-- What follows the last at sign of a text, or the text itself. -/
def withoutUser (cs : List Char) : List Char := (cs.reverse.takeWhile (· != '@')).reverse

/-- Whether a character ends host and socket number. -/
def endsAuthority (c : Char) : Bool := c == '/' || c == '\\' || c == '?' || c == '#'

/-- An address with a scheme, from behind the scheme. -/
def behindScheme (scheme cs : List Char) : Option (List Char) :=
  let rest := cs.dropWhile fun c => c == '/' || c == '\\'
  let place := rest.takeWhile fun c => !endsAuthority c
  let tail := rest.dropWhile fun c => !endsAuthority c
  let pathPart := tail.takeWhile fun c => c != '?' && c != '#'
  let afterPath := tail.dropWhile fun c => c != '?' && c != '#'
  let queryPart := (afterPath.takeWhile (· != '#')).drop 1
  let fragmentPart := (afterPath.dropWhile (· != '#')).drop 1
  let query := if afterPath.head? = some '?' then '?' :: encode queryReserved queryPart else []
  let fragment :=
    if afterPath.contains '#' then '#' :: encode fragmentReserved fragmentPart else []
  (authority scheme (withoutUser place)).map fun place =>
    scheme ++ "://".toList ++ place ++ path pathPart ++ query ++ fragment

/-- An address in normal form; nothing when it is no address of the web. -/
def normalize (url : String) : Option String :=
  let isControl (c : Char) : Bool := c.toNat ≤ 0x20
  let cs := ((url.toList.dropWhile isControl).reverse.dropWhile isControl).reverse
  let cs := cs.filter fun c => !(c == '\t' || c == '\n' || c == '\r')
  let scheme := lowercase (cs.takeWhile (· != ':'))
  if (impliedSocket scheme).isNone then none
  else (behindScheme scheme ((cs.dropWhile (· != ':')).drop 1)).map String.ofList

end Courseware.Url
