import ClusterQuery.Endpoint
import ClusterQuery.Proofs.Text.Numeral

/-!
# Endpoints through their text

The text of an endpoint is split where it was put together, at its last colon, since no colon stands
in a port. What the brackets around a host say is lost if the host has brackets of its own and no
colon: then they are taken for those that the text puts around a colon.
-/

namespace ClusterQuery.Endpoint

/-! ## The last colon -/

theorem splitLastColon?_eq_none {text : List Char} (uncoloned : ':' ∉ text) :
    splitLastColon? text = none := by
  induction text with
  | nil => rfl
  | cons c rest ih =>
      rw [List.mem_cons, not_or] at uncoloned
      rw [splitLastColon?, ih uncoloned.2]
      exact if_neg (Ne.symm uncoloned.1)

/-- A text is split at a colon that no other follows. -/
theorem splitLastColon?_append (before : List Char) {after : List Char}
    (uncoloned : ':' ∉ after) :
    splitLastColon? (before ++ ':' :: after) = some (before, after) := by
  induction before with
  | nil =>
      rw [List.nil_append, splitLastColon?, splitLastColon?_eq_none uncoloned]
      rfl
  | cons c rest ih => rw [List.cons_append, splitLastColon?, ih]

theorem colon_not_mem_writeNat (value : Nat) : ':' ∉ Text.writeNat value := by
  intro member
  cases Text.isDigit_of_mem_writeNat member

/-! ## Brackets -/

/-- A text in brackets. -/
def bracketed (inside : List Char) : List Char := '[' :: (inside ++ [']'])

theorem dropBrackets_bracketed (inside : List Char) :
    dropBrackets (bracketed inside) = inside := by
  rw [bracketed, dropBrackets, List.getLast?_concat, if_pos rfl, List.dropLast_concat]

/-- Only a text in brackets loses anything. -/
theorem dropBrackets_eq_self {host : List Char} (plain : ∀ inside, host ≠ bracketed inside) :
    dropBrackets host = host := by
  cases host with
  | nil => rfl
  | cons first rest =>
      by_cases closed : first = '[' ∧ rest.getLast? = some ']'
      · obtain ⟨rfl, isLast⟩ := closed
        obtain ⟨inside, rfl⟩ := List.getLast?_eq_some_iff.mp isLast
        exact absurd rfl (plain inside)
      · unfold dropBrackets
        split
        next equal =>
          cases equal
          exact if_neg fun isLast => closed ⟨rfl, isLast⟩
        next => rfl

/-! ## Reading the text of an endpoint -/

/-- The host of an endpoint as its text shows it. -/
def shownHost (endpoint : Endpoint) : List Char :=
  if ':' ∈ endpoint.host.toList then bracketed endpoint.host.toList else endpoint.host.toList

theorem toList_text (endpoint : Endpoint) :
    endpoint.text.toList = endpoint.shownHost ++ ':' :: Text.writeNat endpoint.port.toNat := by
  rw [text, String.toList_ofList, chars, shownHost]
  split
  next => simp [bracketed]
  next => rfl

/-- The port is always read back; the host loses the brackets that its text has. -/
theorem read_text_eq (endpoint : Endpoint) :
    read endpoint.text =
      if dropBrackets endpoint.shownHost = [] then .error (.missingHost endpoint.text)
      else .ok ⟨String.ofList (dropBrackets endpoint.shownHost), endpoint.port⟩ := by
  have split := splitLastColon?_append endpoint.shownHost
    (colon_not_mem_writeNat endpoint.port.toNat)
  have inRange : endpoint.port.toNat ≤ 65535 := Nat.le_of_lt_succ endpoint.port.toNat_lt
  rw [read, toList_text, split]
  simp only [Text.readNat_writeNat inRange, UInt16.ofNat_toNat]

/-- A host in brackets without a colon comes back without them. -/
theorem dropBrackets_shownHost_of_bracketed {endpoint : Endpoint} {inside : List Char}
    (uncoloned : ':' ∉ endpoint.host.toList)
    (isBracketed : endpoint.host.toList = bracketed inside) :
    dropBrackets endpoint.shownHost = inside := by
  rw [shownHost, if_neg uncoloned, isBracketed, dropBrackets_bracketed]

/-- Every other host comes back as it is. -/
theorem dropBrackets_shownHost {endpoint : Endpoint}
    (survives : ':' ∉ endpoint.host.toList →
      ∀ inside, endpoint.host.toList ≠ bracketed inside) :
    dropBrackets endpoint.shownHost = endpoint.host.toList := by
  by_cases coloned : ':' ∈ endpoint.host.toList
  · rw [shownHost, if_pos coloned, dropBrackets_bracketed]
  · rw [shownHost, if_neg coloned, dropBrackets_eq_self (survives coloned)]

theorem read_text_of_survives {endpoint : Endpoint} (named : endpoint.host ≠ "")
    (survives : ':' ∉ endpoint.host.toList →
      ∀ inside, endpoint.host.toList ≠ bracketed inside) :
    read endpoint.text = .ok endpoint := by
  have notNil : endpoint.host.toList ≠ [] := fun isNil => named (String.toList_eq_nil_iff.mp isNil)
  rw [read_text_eq, dropBrackets_shownHost survives, if_neg notNil, String.ofList_toList]

/-- A text in brackets is longer than its inside. -/
theorem ne_bracketed_self (inside : List Char) : inside ≠ bracketed inside := by
  intro equal
  have sameLength := congrArg List.length equal
  simp only [bracketed, List.length_cons, List.length_append, List.length_nil] at sameLength
  omega

theorem read_text_of_bracketed {endpoint : Endpoint} {inside : List Char}
    (uncoloned : ':' ∉ endpoint.host.toList)
    (isBracketed : endpoint.host.toList = bracketed inside) :
    read endpoint.text =
      if inside = [] then .error (.missingHost endpoint.text)
      else .ok ⟨String.ofList inside, endpoint.port⟩ := by
  rw [read_text_eq, dropBrackets_shownHost_of_bracketed uncoloned isBracketed]

theorem read_text_of_unnamed {endpoint : Endpoint} (unnamed : endpoint.host = "") :
    read endpoint.text = .error (.missingHost endpoint.text) := by
  have isNil : dropBrackets endpoint.shownHost = [] := by
    rw [shownHost, unnamed]
    rfl
  rw [read_text_eq, if_pos isNil]

/-- The text of an endpoint is read back as the endpoint if and only if the host holds something and
is not a text in brackets without a colon. Hosts with a colon are read back, whatever brackets they
have, and so is every host without an opening bracket, such as a name or an IPv4 address. A host in
brackets without a colon loses them, and nothing at all in brackets is no host; the port is the same
in any case. -/
theorem read_text_iff (endpoint : Endpoint) :
    (read endpoint.text = .ok endpoint ↔
      endpoint.host ≠ "" ∧
        ¬(':' ∉ endpoint.host.toList ∧ ∃ inside, endpoint.host.toList = bracketed inside)) ∧
    (':' ∈ endpoint.host.toList → read endpoint.text = .ok endpoint) ∧
    (endpoint.host ≠ "" → '[' ∉ endpoint.host.toList → read endpoint.text = .ok endpoint) ∧
    (endpoint.host = "" → read endpoint.text = .error (.missingHost endpoint.text)) ∧
    ∀ inside, ':' ∉ endpoint.host.toList → endpoint.host.toList = bracketed inside →
      read endpoint.text =
        if inside = [] then .error (.missingHost endpoint.text)
        else .ok ⟨String.ofList inside, endpoint.port⟩ := by
  refine ⟨⟨fun success => ⟨?named, ?survives⟩, ?back⟩, ?coloned, ?unbracketed,
    read_text_of_unnamed, fun inside => read_text_of_bracketed⟩
  case named =>
    intro unnamed
    cases (read_text_of_unnamed unnamed).symm.trans success
  case survives =>
    rintro ⟨uncoloned, inside, isBracketed⟩
    rw [read_text_of_bracketed uncoloned isBracketed] at success
    split at success
    next => cases success
    next =>
      have sameHost := congrArg String.toList (congrArg Endpoint.host (Except.ok.inj success))
      rw [String.toList_ofList, isBracketed] at sameHost
      exact ne_bracketed_self inside sameHost
  case back =>
    rintro ⟨named, plain⟩
    exact read_text_of_survives named fun uncoloned inside isBracketed =>
      plain ⟨uncoloned, inside, isBracketed⟩
  case coloned =>
    intro coloned
    apply read_text_of_survives
    · intro unnamed
      rw [unnamed] at coloned
      cases coloned
    · intro uncoloned
      exact absurd coloned uncoloned
  case unbracketed =>
    intro named unbracketed
    apply read_text_of_survives named
    intro _ inside isBracketed
    rw [isBracketed] at unbracketed
    exact unbracketed List.mem_cons_self

/-- Brackets without a colon are lost. -/
example : read (Endpoint.mk "[node]" 80).text = .ok ⟨"node", 80⟩ := by rfl

end ClusterQuery.Endpoint
