import RobotsExclusion.Policy.Reader
import RobotsExclusion.Proofs.Utf8.Reading

/-!
# Text and bytes

* `decoded_encode`, `Policy.read_encode`: text that comes as bytes is the same content;
* `decode_iff_reading`: what bytes are decoded to, whatever they are.
-/

namespace RobotsExclusion

theorem Content.decoded_encode (t : Text) :
    decoded (.bytes (Utf8.encode t)) = decoded (.text t) := by
  rw [decoded, decoded, Utf8.decode_encode]

theorem Policy.read_encode (t : Text) : read (.bytes (Utf8.encode t)) = read (.text t) := by
  rw [read, read, Directive.ofContent, Directive.ofContent, Content.decoded_encode]

/-- Bytes have exactly one reading, and they are decoded to it before a byte-order mark in front is
taken off. So a text that comes as bytes is decoded to what it is decoded to as text, and lays down
the same policy on the same lines. -/
theorem decode_iff_reading :
    (∀ bs t, Utf8.decode bs = t ↔ Utf8.Reading bs t) ∧
      ∀ t, Content.decoded (.bytes (Utf8.encode t)) = Content.decoded (.text t) ∧
        Policy.read (.bytes (Utf8.encode t)) = Policy.read (.text t) := by
  refine ⟨fun bs t => Utf8.reading_iff.symm, fun t => ?_⟩
  exact ⟨Content.decoded_encode t, Policy.read_encode t⟩

end RobotsExclusion
