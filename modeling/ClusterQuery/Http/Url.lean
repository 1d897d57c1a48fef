import ClusterQuery.Text.FormEncoding
import ClusterQuery.Text.Pieces

/-!
# Addresses of resources

The address of an HTTP resource: a scheme, an authority, a path and a query. `.` and `..`
segments of a path are resolved, characters that a path cannot hold are percent-encoded, and a
port that is the scheme's own is left out.
-/

namespace ClusterQuery

/-- The address of an HTTP resource. -/
structure Url where
  scheme : String
  authority : String
  /-- The segments of the path, after its first slash. -/
  path : List String
  /-- Names and values of the query. -/
  query : List (String × String)
deriving DecidableEq, Repr

namespace Url

/-- Segments with `.` left out and `..` taking the segment before it along. The segments before
stand in reverse; a path that ends in such a segment ends in a slash. -/
def resolveDots (before : List String) : List String → List String
  | [] => before.reverse
  | "." :: [] => ("" :: before).reverse
  | ".." :: [] => ("" :: before.drop 1).reverse
  | "." :: rest => resolveDots before rest
  | ".." :: rest => resolveDots (before.drop 1) rest
  | segment :: rest => resolveDots (segment :: before) rest

/-- The characters of the ASCII range that a path cannot hold. -/
def isUnsafe (byte : UInt8) : Bool :=
  let c := Char.ofNat byte.toNat
  byte ≤ 0x20 || 0x7F ≤ byte || c == '"' || c == '#' || c == '<' || c == '>' || c == '?' ||
    byte == 0x60 || c == '{' || c == '}'

/-- A path segment as an address holds it. -/
def encodeSegment (segment : String) : String :=
  String.ofList ((Text.bytes segment).flatMap fun byte =>
    if isUnsafe byte then Text.percentEncoded byte else [Char.ofNat byte.toNat])

def impliedPort (scheme : String) : String :=
  if scheme = "https" then ":443" else ":80"

/-- An authority without a port that the scheme implies. -/
def dropImpliedPort (scheme authority : String) : String :=
  let port := (impliedPort scheme).toList
  let text := authority.toList
  if port.isSuffixOf text then String.ofList (text.take (text.length - port.length))
  else authority

/-- The address at an authority of a path that begins with a slash. -/
def ofPath (scheme authority path : String) (query : List (String × String)) : Url :=
  let segments := (Text.pieces '/' path.toList).map String.ofList
  ⟨scheme, dropImpliedPort scheme authority, resolveDots [] (segments.drop 1), query⟩

/-- The address in a text that begins with a scheme and an authority. -/
def read? (text : String) : Option Url :=
  match Text.pieces '/' text.toList with
  | scheme :: [] :: authority :: path =>
      match scheme.reverse with
      | ':' :: name =>
          let scheme := String.ofList name.reverse
          if (scheme = "http" ∨ scheme = "https") ∧ authority ≠ [] then
            some ⟨scheme, dropImpliedPort scheme (String.ofList authority),
              resolveDots [] (path.map String.ofList), []⟩
          else none
      | _ => none
  | _ => none

/-- The query of an address, with its question mark. -/
def queryText (query : List (String × String)) : String :=
  if query.isEmpty then ""
  else
    "?" ++ "&".intercalate (query.map fun (name, value) =>
      Text.formEncoded name ++ "=" ++ Text.formEncoded value)

/-- The path and query that a request names. -/
def target (url : Url) : String :=
  "/" ++ "/".intercalate (url.path.map encodeSegment) ++ queryText url.query

def text (url : Url) : String := url.scheme ++ "://" ++ url.authority ++ url.target

end Url

end ClusterQuery
