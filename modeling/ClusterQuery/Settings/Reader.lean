import ClusterQuery.Settings.Basic
import ClusterQuery.Settings.Tree

/-!
# Reading settings

Settings are taken from the tree of a settings file. A section is a map or is left out; a key
that is known may stand once, others are ignored, and a key that is missing keeps its default.
A text setting takes any scalar as it is written; a number takes a plain scalar only.
-/

namespace ClusterQuery.Settings

namespace Tree

/-- The entries of a section; one that is left out has none. -/
def section? : Tree → Option (List (String × Tree))
  | .map entries => some entries
  | .scalar "" true => some []
  | _ => none

def text? : Tree → Option String
  | .scalar text _ => some text
  | _ => none

/-- The text of a scalar, or none where the scalar is null. -/
def optionalText? : Tree → Option (Option String)
  | .scalar text plain =>
      if plain ∧ text ∈ ["", "null", "Null", "NULL", "~"] then some none else some (some text)
  | _ => none

/-- Digits of a base up to sixteen, at least one of them. -/
def digitsInBase? (base : Nat) (digits : List Char) : Option Nat := do
  let values ← digits.mapM Text.hexValue?
  if values.isEmpty ∨ values.any (base ≤ ·) then failure
  else return values.foldl (fun value digit => value * base + digit) 0

/-- A number from zero to `bound`: decimal without leading zeros, hexadecimal, octal or binary. -/
def nat? (bound : Nat) : Tree → Option Nat
  | .scalar text true => do
      let unsigned :=
        match text.toList with
        | '+' :: rest => rest
        | other => other
      let value ←
        match unsigned with
        | '0' :: 'x' :: digits => digitsInBase? 16 digits
        | '0' :: 'o' :: digits => digitsInBase? 8 digits
        | '0' :: 'b' :: digits => digitsInBase? 2 digits
        | '0' :: _ :: _ => none
        | digits => digitsInBase? 10 digits
      if value ≤ bound then return value else failure
  | _ => none

def span? (tree : Tree) : Option Time.Span := do
  let text ← tree.text?
  (Time.Span.read text).toOption

def texts? : Tree → Option (List String)
  | .list items => items.mapM text?
  | .scalar "" true => some []
  | _ => none

/-- Labels; of equal names the last counts. -/
def labels? (tree : Tree) : Option Labels := do
  let entries ← tree.section?
  let texts ← entries.mapM fun (name, value) => value.text?.map fun text => (name, text)
  return Labels.ofList texts

/-- The setting of a key, or its default where the key is missing. A key may stand once. -/
def setting? {α : Type} (entries : List (String × Tree)) (key : String) (default : α)
    (read : Tree → Option α) : Option α :=
  match entries.filter fun entry => entry.1 == key with
  | [] => some default
  | [(_, value)] => read value
  | _ => none

end Tree

def nodeOfTree? (tree : Tree) : Option NodeSettings := do
  let entries ← tree.section?
  let defaults : NodeSettings := {}
  let id ← Tree.setting? entries "node_id" defaults.id Tree.text?
  let host ← Tree.setting? entries "host" defaults.host Tree.text?
  let port ← Tree.setting? entries "port" defaults.port.toNat (Tree.nat? 65535)
  let labels ← Tree.setting? entries "metadata" defaults.labels Tree.labels?
  return ⟨id, host, UInt16.ofNat port, labels⟩

def discoveryOfTree? (tree : Tree) : Option DiscoverySettings := do
  let entries ← tree.section?
  let defaults : DiscoverySettings := {}
  let space ← Tree.setting? entries "namespace" defaults.space Tree.text?
  let service ← Tree.setting? entries "service_name" defaults.service Tree.text?
  let server ← Tree.setting? entries "api_server" defaults.server Tree.text?
  let token ← Tree.setting? entries "token" defaults.token Tree.optionalText?
  let portName ← Tree.setting? entries "port_name" defaults.portName Tree.optionalText?
  let fixed ← Tree.setting? entries "static_endpoints" defaults.fixed Tree.texts?
  let timeout ← Tree.setting? entries "timeout" defaults.timeout Tree.span?
  let timeToLive ← Tree.setting? entries "cache_ttl" defaults.timeToLive Tree.span?
  let refreshInterval ←
    Tree.setting? entries "refresh_interval" defaults.refreshInterval Tree.span?
  return { space, service, server, token, portName, fixed, timeout, timeToLive, refreshInterval }

def aggregationOfTree? (tree : Tree) : Option AggregationSettings := do
  let entries ← tree.section?
  let defaults : AggregationSettings := {}
  let deadline ← Tree.setting? entries "deadline" defaults.deadline Tree.span?
  let defaultLimit ←
    Tree.setting? entries "default_limit" defaults.defaultLimit (Tree.nat? Text.maxNat64)
  let maxLimit ← Tree.setting? entries "max_limit" defaults.maxLimit (Tree.nat? Text.maxNat64)
  let scheme ← Tree.setting? entries "scheme" defaults.scheme Tree.text?
  let basePath ← Tree.setting? entries "base_path" defaults.basePath Tree.text?
  return { deadline, defaultLimit, maxLimit, scheme, basePath }

def healthAddressOfTree? (tree : Tree) : Option String := do
  let entries ← tree.section?
  Tree.setting? entries "addr" ({} : Settings).healthAddress Tree.text?

def ofTree? (tree : Tree) : Option Settings := do
  let entries ← tree.section?
  let defaults : Settings := {}
  let logLevel ← Tree.setting? entries "log_level" defaults.logLevel Tree.text?
  let node ← Tree.setting? entries "node" defaults.node nodeOfTree?
  let discovery ← Tree.setting? entries "discovery" defaults.discovery discoveryOfTree?
  let aggregation ←
    Tree.setting? entries "aggregation" defaults.aggregation aggregationOfTree?
  let healthAddress ←
    Tree.setting? entries "health" defaults.healthAddress healthAddressOfTree?
  return { logLevel, node, discovery, aggregation, healthAddress }

/-- Why a settings file cannot be used. -/
inductive LoadFault where
  /-- The text has no tree, or a setting has another type. -/
  | unreadable
  | invalid (fault : SettingsFault)
deriving DecidableEq, Repr

/-- Reads and checks the text of a settings file. -/
def load (text : String) : Except LoadFault Settings :=
  match (Tree.read? text).bind ofTree? with
  | none => .error .unreadable
  | some settings =>
      match settings.validate with
      | .ok () => .ok settings
      | .error fault => .error (.invalid fault)

end ClusterQuery.Settings
