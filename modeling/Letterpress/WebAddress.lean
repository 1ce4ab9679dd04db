import Letterpress.Text.Case
import Letterpress.Text.Trim
import Letterpress.Validation

/-!
# Web addresses

Addresses of web services in their normal form: scheme and host in small letters, no default port, a path that
is never empty and has no dot segments, and characters outside the usual ones percent-encoded.

* `WebAddress.normalize`: the normal form of an address, or what is wrong with it.
-/

namespace Letterpress.WebAddress

open Text

/-- A byte in percent notation. -/
def percent (b : UInt8) : List Char :=
  let digit (n : Nat) : Char := "0123456789ABCDEF".toList.getD n '0'
  ['%', digit (b.toNat / 16), digit (b.toNat % 16)]

def percentChar (c : Char) : List Char := (String.ofList [c]).toUTF8.toList.flatMap percent

def encode (reserved : List Char) (cs : List Char) : List Char :=
  cs.flatMap fun c => if c.toNat ≤ 0x20 || 0x7E < c.toNat || reserved.contains c then percentChar c else [c]

def pathReserved : List Char := ['"', '#', '<', '>', '?', '\x60', '\x7b', '\x7d']

def queryReserved : List Char := ['"', '#', '<', '>', '\'']

def fragmentReserved : List Char := ['"', '<', '>', '\x60']

/-- The segments of a path without dot segments. -/
def dropDots (done : List (List Char)) : List (List Char) → List (List Char)
  | [] => done.reverse
  | [seg] =>
    if seg == ['.'] then ([] :: done).reverse
    else if seg == ['.', '.'] then ([] :: done.tail).reverse
    else (seg :: done).reverse
  | seg :: rest =>
    if seg == ['.'] then dropDots done rest
    else if seg == ['.', '.'] then dropDots done.tail rest
    else dropDots (seg :: done) rest

def isSlash (c : Char) : Bool := c == '/' || c == '\\'

def path (cs : List Char) : List Char :=
  let segments := match cs with
    | c :: rest => if isSlash c then splitBy isSlash rest else splitBy isSlash cs
    | [] => [[]]
  '/' :: encode pathReserved (joinWith ['/'] (dropDots [] segments))

def isHostChar (c : Char) : Bool :=
  !(c.toNat ≤ 0x20 || "\"#%/:<>?@[\\]^`\x7b|\x7d".toList.contains c || c.toNat == 0x7F)

/-- A host in small letters, if it has one of the allowed forms. -/
def host? (cs : List Char) : Option (List Char) :=
  match cs with
  | [] => none
  | '[' :: rest => if rest.getLast? == some ']' then some (lower cs) else none
  | cs => if cs.all isHostChar then some (lower cs) else none

/-- A port, where the default port of the scheme counts as none. -/
def port? (default : Nat) (ds : List Char) : Option (List Char) :=
  if !ds.all isAsciiDigit then none
  else
    let n := ds.foldl (fun n c => n * 10 + (c.toNat - 48)) 0
    if 65535 < n then none
    else if ds.isEmpty || n == default then some []
    else some (':' :: (toString n).toList)

/-- Host and port. -/
def splitPort (cs : List Char) : List Char × List Char :=
  let ds := (cs.reverse.takeWhile (· != ':')).reverse
  if cs.contains ':' && !ds.contains ']' then (cs.take (cs.length - ds.length - 1), ds) else (cs, [])

/-- What stands before the last at sign, with it. -/
def splitUser (cs : List Char) : List Char × List Char :=
  if cs.contains '@' then
    let host := (cs.reverse.takeWhile (· != '@')).reverse
    (cs.take (cs.length - host.length), host)
  else ([], cs)

def isSchemeChar (c : Char) : Bool := isAsciiAlnum c || c == '+' || c == '-' || c == '.'

def scheme? (cs : List Char) : Option (List Char × List Char) :=
  let name := cs.takeWhile isSchemeChar
  match name, cs.drop name.length with
  | c :: _, ':' :: rest => if isAsciiLetter c then some (lower name, rest) else none
  | _, _ => none

def normalizeWith (scheme : String) (default : Nat) (cs : List Char) : Checked String :=
  let cs := cs.dropWhile isSlash
  let authority := cs.takeWhile fun c => !(isSlash c || c == '?' || c == '#')
  let rest := cs.drop authority.length
  let (user, place) := splitUser authority
  let (host, port) := splitPort place
  match host? host, port? default port with
  | some host, some port =>
    let beforeFragment := rest.takeWhile (· != '#')
    let fragment := match rest.drop beforeFragment.length with
      | _ :: f => '#' :: encode fragmentReserved f
      | [] => []
    let pathPart := beforeFragment.takeWhile (· != '?')
    let query := match beforeFragment.drop pathPart.length with
      | _ :: q => '?' :: encode queryReserved q
      | [] => []
    .ok (String.ofList (scheme.toList ++ "://".toList ++ user ++ host ++ port ++ path pathPart ++ query ++ fragment))
  | _, _ => Checked.complain .unreadableAddress

def normalize (v : Value) : Checked String :=
  match v.string? with
  | none => Checked.complain .notAddress
  | some s =>
    let cs := (trimBy (·.toNat ≤ 0x20) s.toList).filter fun c => !(c == '\t' || c == '\n' || c == '\r')
    match scheme? cs with
    | none => Checked.complain .unreadableAddress
    | some (scheme, rest) =>
      if scheme == "http".toList then normalizeWith "http" 80 rest
      else if scheme == "https".toList then normalizeWith "https" 443 rest
      else Checked.complain .foreignScheme

end Letterpress.WebAddress
