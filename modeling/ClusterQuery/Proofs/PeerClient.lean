import ClusterQuery.Http.PeerClient
import ClusterQuery.Proofs.Text.Truncation
import ClusterQuery.Proofs.Text.Utf8

/-!
# Bodies of unsuccessful responses

An unsuccessful response is a failure that carries its status and the longest start of its text, in
whole characters, that takes at most 512 bytes. Whatever the text is, the search for the end of that
start comes to one, and the text can be cut there.
-/

namespace ClusterQuery

namespace Text

theorem truncate?_eq_some (limit : Nat) (text : String) :
    truncate? limit text = some (truncateBytes limit text) :=
  (Option.some_get _).symm

end Text

namespace PeerClient

theorem outcome_of_unsuccessful (client : PeerClient) (request : HttpRequest) (kind : RecordKind)
    {response : HttpResponse} (unsuccessful : response.isSuccess = false) :
    client.outcome request kind (.answered response) =
      .error (.status response.status (Text.truncateBytes maxErrorBody response.looseText)) := by
  simp only [outcome, outcomeOf, unsuccessful]
  rfl

/-- A text is cut without going below zero and without splitting a character, whatever it is and
whatever the limit, and what is left is its longest start, in whole characters, within the limit.
So every response without success is a failure with its status and the longest start of at most 512
bytes of its text, which is the text that the body spells if it is UTF-8 and came in whole. -/
theorem error_bodies_are_cut_safely :
    (∀ (limit : Nat) (text : String), Text.CutSafely limit text (Text.truncate? limit text)) ∧
    ∀ (client : PeerClient) (request : HttpRequest) (kind : RecordKind) (response : HttpResponse),
      ¬(200 ≤ response.status ∧ response.status < 300) →
      ∃ body,
        client.outcome request kind (.answered response) =
          .error (.status response.status body) ∧
        Text.truncate? 512 response.looseText = some body ∧
        Text.IsLongestStart 512 response.looseText body ∧
        ∀ text, response.complete = true → response.body = Text.bytes text →
          response.looseText = text := by
  refine ⟨Text.cutSafely_truncate?, fun client request kind response refused => ?_⟩
  have unsuccessful : response.isSuccess = false := by
    simpa [HttpResponse.isSuccess] using refused
  obtain ⟨body, cut, longest⟩ := Text.truncate?_eq_longest 512 response.looseText
  have kept : Text.truncateBytes maxErrorBody response.looseText = body :=
    Option.some.inj ((Text.truncate?_eq_some 512 response.looseText).symm.trans cut)
  refine ⟨body, ?_, cut, longest, ?_⟩
  · rw [outcome_of_unsuccessful client request kind unsuccessful, kept]
  · intro text complete spelled
    rw [HttpResponse.looseText, if_pos complete, spelled]
    exact Text.decodeLossy_bytes text

/-- A text with a character of three bytes that begins one byte before the limit. -/
def straddling : String := String.ofList (List.replicate 511 'a' ++ ['€', '.'])

theorem error_body_cut_before_euro_sign :
    ¬(200 ≤ 503 ∧ 503 < 300) ∧
      outcome ⟨"http", "/actuator", .zero⟩ ⟨⟨"http", "10.0.0.1", [], []⟩, none⟩ .log
          (.answered ⟨503, Text.bytes straddling, true⟩) =
        .error (.status 503 (String.ofList (List.replicate 511 'a'))) := by
  have noSuccess : ¬(200 ≤ 503 ∧ 503 < 300) := by decide
  refine ⟨noSuccess, ?_⟩
  obtain ⟨body, refused, -, longest, spelled⟩ :=
    error_bodies_are_cut_safely.2 ⟨"http", "/actuator", .zero⟩
      ⟨⟨"http", "10.0.0.1", [], []⟩, none⟩ .log ⟨503, Text.bytes straddling, true⟩ noSuccess
  rw [spelled straddling rfl (by dsimp only)] at longest
  have split (front : List Char) : (String.ofList (front ++ ['€', '.'])).toList =
      (String.ofList front).toList ++ '€' :: ['.'] := by
    simp
  have size : (String.ofList (List.replicate 511 'a')).utf8ByteSize = 511 := by
    rw [Text.utf8ByteSize_eq, String.toList_ofList, Text.byteCount_replicate]
    rfl
  have expected : Text.IsLongestStart 512 straddling (String.ofList (List.replicate 511 'a')) :=
    Text.isLongestStart_of_next (split _) (by omega) (by rw [size]; decide)
  rw [refused, longest.unique expected]

end PeerClient

end ClusterQuery
