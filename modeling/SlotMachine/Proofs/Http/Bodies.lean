import SlotMachine.Http.Server
import SlotMachine.Proofs.Draw.Ensures

/-!
# Bodies of requests

Whatever message the plain interface reads from a request, the Connect interface reads from it as
well: it takes a body of blanks for an empty message, but no JSON text is made of blanks alone.
-/

namespace SlotMachine

open Json (Node Decoder)

lemma Json.Decoder.ofSource_eq_error {α : Type} {decoder : Decoder α} {source : Source} {e : Fault}
    (h : decoder Json.maxDepth (Node.ofSource source).1 = .error e) :
    decoder.ofSource source = .error e := by
  unfold ofSource
  dsimp only
  rw [h]
  rfl

namespace Http

lemma eq_of_isBlankByte {b : UInt8} (h : isBlankByte b = true) :
    b = 32 ∨ b = 9 ∨ b = 10 ∨ b = 12 ∨ b = 13 := by
  simpa [isBlankByte, or_assoc] using h

/-- The form feed is a blank of ASCII and none of JSON, so that blanks may begin with one when those
of JSON have been skipped. -/
lemma skipBlank_of_blank {body : Bytes} (h : body.all isBlankByte = true) :
    Json.skipBlank (Source.ofBytes body) = [] ∨
    ∃ rest, Json.skipBlank (Source.ofBytes body) = some '\x0c' :: rest := by
  induction body with
  | nil => exact .inl rfl
  | cons b body ih =>
    rw [List.all_cons, Bool.and_eq_true] at h
    obtain rfl | rfl | rfl | rfl | rfl := eq_of_isBlankByte h.1
    · exact ih h.2
    · exact ih h.2
    · exact ih h.2
    · exact .inr ⟨Source.ofBytes body, rfl⟩
    · exact ih h.2

lemma node_of_blank {body : Bytes} (h : body.all isBlankByte = true) :
    (Node.ofSource (Source.ofBytes body)).1 = .broken := by
  have hread : ∀ fuel, (Node.read (fuel + 1) (Source.ofBytes body)).1 = .broken := by
    intro fuel
    unfold Node.read
    obtain hnone | ⟨rest, hfeed⟩ := skipBlank_of_blank h
    · rw [hnone]
      rfl
    · rw [hfeed]
      rfl
  exact hread (2 * (Source.ofBytes body).length + 1)

/-- A decoder must only refuse what is broken for both interfaces to read the same with it. -/
lemma connectBody_of_restBody {α : Type} {decoder : Decoder α} {a : α} {r : Request} (empty : α)
    {e : Fault} (hbroken : decoder Json.maxDepth .broken = .error e)
    (h : restBody decoder r = .ok a) : connectBody decoder empty r = .ok a := by
  unfold restBody at h
  split at h
  case isTrue =>
    have hread : decoder.ofSource (Source.ofBytes r.body) = .ok a := mapError_eq_ok h
    have hblank : ¬r.body.all isBlankByte = true := by
      intro hblank
      have hnode : decoder Json.maxDepth (Node.ofSource (Source.ofBytes r.body)).1 = .error e := by
        rw [node_of_blank hblank]
        exact hbroken
      rw [Json.Decoder.ofSource_eq_error hnode] at hread
      cases hread
    rw [connectBody, if_neg hblank, hread]
  case isFalse => cases h

lemma connectPlay_of_restPlay {r : Request} {request : PlayRequest}
    (h : restBody PlayRequest.decoder r = .ok request) :
    connectBody PlayRequest.decoder {} r = .ok request := by
  have hbroken : PlayRequest.decoder Json.maxDepth .broken = .error .malformed := rfl
  exact connectBody_of_restBody {} hbroken h

end Http

end SlotMachine
