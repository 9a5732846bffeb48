import ConceptQuery.Http.Content
import ConceptQuery.Proofs.Except
import ConceptQuery.Proofs.Json.Document

/-!
# Texts of responses

Which codec reads a response is left to its client; nothing is known of it but what it makes of the
body.

* `Http.Response.Reads` — what the codec makes of a response;
* `Http.Response.text_eq_ok_iff`, `Http.Response.text_eq_error_iff` — its text, and why there is none;
* `Http.Response.reads_of_utf8` — a body in UTF-8 is read as the text that it spells.
-/

namespace ConceptQuery.Http.Response

variable {r : Response} {text : String} {f : Failure}

/-- What the codec of a response makes of its body: a text, or a report on why there is none. An
empty body is the empty text. -/
inductive Reads (r : Response) : Except String String → Prop where
  | empty (h : r.body = []) : Reads r (.ok "")
  | decoded (h : r.body ≠ []) : Reads r (r.codec r.body)

theorem reads_iff {read : Except String String} :
    r.Reads read ↔ (if r.body.isEmpty then .ok "" else r.codec r.body) = read := by
  constructor
  · rintro (h | h)
    · rw [if_pos (List.isEmpty_iff.2 h)]
    · rw [if_neg (List.isEmpty_iff.not.2 h)]
  · rintro rfl
    split
    · next h => exact .empty (List.isEmpty_iff.1 h)
    · next h => exact .decoded (List.isEmpty_iff.not.1 h)

theorem text_eq_ok_iff : r.text = .ok text ↔ r.Reads (.ok text) := by
  rw [reads_iff, Response.text, Except.mapError_eq_ok]

theorem text_eq_error_iff :
    r.text = .error f ↔ ∃ report, r.Reads (.error report) ∧ .undecodable report = f := by
  simp only [reads_iff]
  exact Except.mapError_eq_error

/-! ### UTF-8 -/

theorem lossy_chunks_utf8Bytes (text : List Char) :
    Text.lossy (Text.Utf8.chunks (Json.utf8Bytes text)) = text := by
  rw [Json.utf8Bytes, Text.Utf8.chunks_encode, Text.lossy, List.map_map]
  exact List.map_id text

/-- **A body in UTF-8 is read as the text that it spells.** -/
theorem reads_of_utf8 {body : List Char} (hcodec : r.codec = Text.Charset.utf8.codec)
    (hbody : r.body = Json.utf8Bytes body) : r.Reads (.ok (.ofList body)) := by
  have hlossy := lossy_chunks_utf8Bytes body
  rw [← hbody] at hlossy
  by_cases hempty : r.body = []
  · have hnothing : body = [] := by
      rw [hempty] at hlossy
      exact hlossy.symm.trans (lossy_chunks_utf8Bytes [])
    exact hnothing ▸ .empty hempty
  · have hread : r.codec r.body = .ok (.ofList body) := by
      rw [hcodec]
      exact congrArg (Except.ok <| String.ofList ·) hlossy
    exact hread ▸ .decoded hempty

end ConceptQuery.Http.Response
