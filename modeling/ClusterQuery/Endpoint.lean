import ClusterQuery.Text.Numeral
import ClusterQuery.Text.Quoted

/-!
# Endpoints

The network address of a node: a host and a port. The text form puts brackets around a host
that holds a colon. Reading splits at the last colon and takes off one pair of brackets.
-/

namespace ClusterQuery

/-- A network address. -/
structure Endpoint where
  host : String
  port : UInt16
deriving DecidableEq, Repr

namespace Endpoint

def chars (endpoint : Endpoint) : List Char :=
  let port := ':' :: Text.writeNat endpoint.port.toNat
  if ':' ∈ endpoint.host.toList then '[' :: (endpoint.host.toList ++ ']' :: port)
  else endpoint.host.toList ++ port

def text (endpoint : Endpoint) : String := String.ofList endpoint.chars

/-- Why a text is no endpoint. -/
inductive Fault where
  | missingPort (text : String)
  | missingHost (text : String)
  | invalidPort (text : String) (fault : Text.NumeralFault)
deriving DecidableEq, Repr

/-- The wording of a fault and of its cause, the outer one first. -/
def Fault.messages : Fault → List String
  | .missingPort text => ["endpoint " ++ Text.quoted text ++ " is missing a port"]
  | .missingHost text => ["endpoint " ++ Text.quoted text ++ " is missing a host"]
  | .invalidPort text fault => ["parsing port of endpoint " ++ Text.quoted text, fault.message]

/-- Splits a text at its last colon. -/
def splitLastColon? : List Char → Option (List Char × List Char)
  | [] => none
  | c :: rest =>
      match splitLastColon? rest with
      | some (before, after) => some (c :: before, after)
      | none => if c = ':' then some ([], rest) else none

/-- Takes off one pair of brackets, where a text has both. -/
def dropBrackets (host : List Char) : List Char :=
  match host with
  | '[' :: rest => if rest.getLast? = some ']' then rest.dropLast else host
  | _ => host

def read (text : String) : Except Fault Endpoint :=
  match splitLastColon? text.toList with
  | none => .error (.missingPort text)
  | some (host, port) =>
      let host := dropBrackets host
      if host = [] then .error (.missingHost text)
      else
        match Text.readNat 65535 port with
        | .ok port => .ok ⟨String.ofList host, UInt16.ofNat port⟩
        | .error fault => .error (.invalidPort text fault)

/-- Order of endpoints: by host, then by port. -/
def compare (left right : Endpoint) : Ordering :=
  (Ord.compare left.host right.host).then (Ord.compare left.port.toNat right.port.toNat)

/-- Endpoints without repeats, each where it is first seen. -/
def distinct (endpoints : List Endpoint) : List Endpoint :=
  endpoints.foldl (fun kept endpoint => if endpoint ∈ kept then kept else kept ++ [endpoint]) []

end Endpoint

end ClusterQuery
