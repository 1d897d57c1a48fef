import ClusterQuery.Health
import ClusterQuery.Http.Exchange
import ClusterQuery.Text.Ascii
import ClusterQuery.Text.Numeral

/-!
# HTTP messages

Requests and responses as they travel: a head of lines, an empty line, and a body. The length of a
body is stated, or the body comes in chunks that state theirs, or it ends with the connection. A
body that is shorter than stated broke off.
-/

namespace ClusterQuery.HttpMessage

def lineEnd : String := "\r\n"

/-- The text of a message: its first line, its headers, and the body. -/
def compose (first : String) (headers : List (String × String)) (body : String) : String :=
  first ++ lineEnd ++
    String.join (headers.map fun (name, value) => name ++ ": " ++ value ++ lineEnd) ++
    lineEnd ++ body

/-- The text of a request, after whose response the connection is closed. -/
def ofRequest (request : HttpRequest) : String :=
  let authorization :=
    match request.authorization with
    | some value => [("authorization", value)]
    | none => []
  compose request.line
    ([("host", request.url.authority), ("accept", HttpRequest.accept)] ++ authorization ++
      [("connection", "close")]) ""

/-- The text of a page of the health server. -/
def ofPage (page : Health.Page) : String :=
  compose ("HTTP/1.1 " ++ statusText page.status)
    [("content-type", "text/plain; charset=utf-8"),
      ("content-length", toString page.body.utf8ByteSize), ("connection", "close")] page.body

def charOf (byte : UInt8) : Char := Char.ofNat byte.toNat

/-- The first line of some bytes without its end, and the bytes after it; none where no line
ends. -/
def takeLine? : List UInt8 → Option (List Char × List UInt8)
  | [] => none
  | 13 :: 10 :: rest => some ([], rest)
  | byte :: rest => (takeLine? rest).map fun (line, after) => (charOf byte :: line, after)

/-- The lines of a head, up to the empty line, and the bytes after it. -/
def takeHead? : (steps : Nat) → List UInt8 → Option (List (List Char) × List UInt8)
  | 0, _ => none
  | steps + 1, bytes => do
      let (line, after) ← takeLine? bytes
      if line.isEmpty then return ([], after)
      else do
        let (lines, after) ← takeHead? steps after
        return (line :: lines, after)

/-- A header's name in lower case, and its value. -/
def header (line : List Char) : String × String :=
  let name := line.takeWhile (· != ':')
  (Text.lowercase (String.ofList name),
    String.ofList (Text.trimBlank (line.drop (name.length + 1))))

def headerValue? (lines : List (List Char)) (name : String) : Option String :=
  (lines.map header).lookup name

/-- The first two words of a line. -/
def twoWords (line : List Char) : List Char × List Char :=
  let rest := line.dropWhile (· != ' ')
  (line.takeWhile (· != ' '), (rest.drop 1).takeWhile (· != ' '))

def hexNumber? (digits : List Char) : Option Nat := do
  let values ← digits.mapM Text.hexValue?
  if values.isEmpty then none
  else return values.foldl (fun value digit => value * 16 + digit) 0

/-- The bytes of chunks, and whether the last, empty one is there. -/
def joinChunks : (steps : Nat) → List UInt8 → List UInt8 × Bool
  | 0, _ => ([], false)
  | steps + 1, bytes =>
      match takeLine? bytes with
      | none => ([], false)
      | some (line, after) =>
          match hexNumber? (Text.trimBlank (line.takeWhile (· != ';'))) with
          | none => ([], false)
          | some 0 => ([], true)
          | some size =>
              if after.length < size then (after, false)
              else
                let (others, complete) := joinChunks steps (after.drop (size + 2))
                (after.take size ++ others, complete)

/-- The body behind a head, and whether it is whole. -/
def takeBody (lines : List (List Char)) (bytes : List UInt8) : List UInt8 × Bool :=
  if (headerValue? lines "transfer-encoding").map Text.lowercase = some "chunked" then
    joinChunks (bytes.length + 1) bytes
  else
    match (headerValue? lines "content-length").bind fun value =>
        (Text.readNat Text.maxNat64 value.toList).toOption with
    | some size => (bytes.take size, size ≤ bytes.length)
    | none => (bytes, true)

/-- The response that a server sent before it closed the connection. -/
def readResponse? (bytes : List UInt8) : Option HttpResponse := do
  match ← takeHead? (bytes.length + 1) bytes with
  | (first :: lines, after) =>
      let (_, status) := twoWords first
      let status ← (Text.readNat 999 status).toOption
      let (body, complete) := takeBody lines after
      return ⟨status, body, complete⟩
  | ([], _) => none

/-- The method and target of a request whose head came in whole. -/
def readRequest? (bytes : List UInt8) : Option (String × String) := do
  match ← takeHead? (bytes.length + 1) bytes with
  | (first :: _, _) =>
      let (method, target) := twoWords first
      return (String.ofList method, String.ofList target)
  | ([], _) => none

end ClusterQuery.HttpMessage
