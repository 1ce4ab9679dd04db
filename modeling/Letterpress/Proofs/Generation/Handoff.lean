import Letterpress.Proofs.Fields
import Letterpress.Proofs.Generation.Engine
import Letterpress.Proofs.Generation.Stages
import Letterpress.Proofs.Validation

/-!
# What is handed over

An artifact that has been delivered is the one that was read: its bytes, their number and their digest go to the storage
and into the descriptor, and what the storage says of its place goes there too. Metadata of the options is handed on,
but not under the keys that the engine uses itself.

* `Delivery.notes`, `Delivery.credits`: what the engine says itself, to the storage and in the descriptor.
* `Delivery.of_accept`: the descriptor that an answer of a storage leads to.
* `Intact`: an artifact, its upload, its place and its descriptor agree.
* `delivery_intact`: they do whenever there is a descriptor, and else the failure is one to store.
-/

namespace Letterpress

namespace Delivery

/-- What the engine says of an artifact to a storage. -/
def notes (t : Template) (c : Context) (o : Options) (createdAt : Moment) (digest : String) : Fields :=
  [("templateId", .text t.id), ("documentNumber", c.documentNumber), ("revision", .int o.revision),
    ("generatedAt", .text (String.ofList createdAt.isoText)), ("documentHash", .text digest)]

/-- What the engine says of a stored artifact in its descriptor. -/
def credits (s : Settings) (t : Template) (o : Options) (owner : String) (bucket : Value) : Fields :=
  [("title", .text (o.titleFor t)), ("author", Options.optionalText o.author), ("bucket", bucket),
    ("generated_with", .text Fragment.creator), ("engine_version", .text s.engineVersion), ("client_id", .text owner)]

theorem get?_upload (p : Parcel) (k : String) :
    Fields.get? k (upload p).metadata =
      (Fields.get? k (notes p.template p.context p.options p.createdAt p.digest)).or
        (Fields.get? k p.options.metadata) := by
  have distinct : ((notes p.template p.context p.options p.createdAt p.digest).map (·.1)).Nodup := by
    simp [notes]
  exact Fields.get?_overlay_of_nodup distinct k p.options.metadata

/-- What a descriptor takes from the storage, from the artifact and from the engine. -/
theorem of_describe {p : Parcel} {r : Receipt} {document : Descriptor} (h : describe p r = .ok document) :
    r.key.string? = some document.path ∧ r.url.string? = some document.url ∧ document.size = r.size ∧
      document.digest = p.digest ∧
      ∀ k, Fields.get? k document.metadata =
        (Fields.get? k (credits p.settings p.template p.options p.context.clientId r.bucket)).or
          (Fields.get? k p.options.metadata) := by
  simp only [describe] at h
  split at h
  · cases h
  · rename_i path url places
    obtain ⟨_, _, begun, last, made⟩ := Checked.app_eq_ok.mp places
    obtain ⟨_, _, pair, first, rfl⟩ := Checked.app_eq_ok.mp begun
    cases pair
    cases made
    cases h
    have distinct : ((credits p.settings p.template p.options p.context.clientId r.bucket).map (·.1)).Nodup := by
      simp [credits]
    exact ⟨Checked.text_eq_ok first, Checked.text_eq_ok last, rfl, rfl, fun k =>
      Fields.get?_overlay_of_nodup distinct k p.options.metadata⟩

/-- A descriptor comes only of a storage that has counted the bytes. -/
theorem of_accept {p : Parcel} {answer : Except Failure Receipt} {document : Descriptor}
    (h : accept p answer = .ok document) :
    ∃ r, answer = .ok r ∧ r.size = p.content.length ∧ describe p r = .ok document := by
  unfold accept at h
  split at h
  · cases h
  · rename_i r
    split at h
    · rename_i counted
      exact ⟨r, rfl, counted, h⟩
    · cases h

theorem kind_of_unread {place : Place} {f : Fault} (h : f.isSystem = true) : (unread place f).kind = .persistence := by
  rw [unread, if_pos h]
  rfl

end Delivery

namespace Generation

open Dialogue Transcript

/-- The bytes of an artifact, what was handed over for it, what the storage says, and the descriptor agree with each
other. Metadata of the options fills in whatever the engine leaves open. -/
structure Intact (s : Settings) (d : Draft) (createdAt : Moment) (content : Bytes) (u : Upload) (receipt : Receipt)
    (document : Descriptor) : Prop where
  content_eq : u.content = content
  size_eq : document.size = content.length
  counted : receipt.size = content.length
  digest_eq : document.digest = String.ofList (Digest.hex content)
  path : receipt.key.string? = some document.path
  url : receipt.url.string? = some document.url
  noted : ∀ k, Fields.get? k u.metadata =
    (Fields.get? k (Delivery.notes d.template d.context d.options createdAt document.digest)).or
      (Fields.get? k d.options.metadata)
  credited : ∀ k, Fields.get? k document.metadata =
    (Fields.get? k (Delivery.credits s d.template d.options u.clientId receipt.bucket)).or
      (Fields.get? k d.options.metadata)

/-- However a delivery is answered: it comes to a descriptor with which everything agrees, or to a failure to store. A
storage that has counted other bytes is not believed. -/
theorem delivery_intact {s : Settings} {place : Place} {d : Draft} {f : OutputFormat} {xs : Transcript}
    {r : Except Failure Descriptor}
    (run : Run (Delivery.course place d.template d.context d.options s f) xs r)
    (readable : ∀ e, (⟨.read place, .error e⟩ : Exchange) ∈ xs → e.isSystem = true) :
    (∀ e, r = .error e → e.kind = .persistence) ∧
    (∀ document, r = .ok document → ∃ content reading u receipt,
      xs = [⟨.read place, .ok content⟩, ⟨.clock, reading⟩, ⟨.upload u, .ok receipt⟩] ∧
        Intact s d { reading.now with offset := some 0 } content u receipt document) ∧
    ∀ content reading u receipt, xs = [⟨.read place, .ok content⟩, ⟨.clock, reading⟩, ⟨.upload u, .ok receipt⟩] →
      receipt.size ≠ content.length → ∃ e, r = .error e := by
  cases always_hands s place d f xs r run with
  | unread e =>
    refine ⟨?_, by simp, by simp⟩
    rintro _ ⟨⟩
    exact Delivery.kind_of_unread (readable e (by simp))
  | handed content reading answer accepted =>
    refine ⟨?_, ?_, ?_⟩
    · rintro e rfl
      exact Delivery.kind_of_accept accepted
    · rintro document rfl
      obtain ⟨receipt, rfl, counted, described⟩ := Delivery.of_accept accepted
      obtain ⟨path, url, size, digest, credited⟩ := Delivery.of_describe described
      refine ⟨content, reading, _, receipt, rfl, rfl, size.trans counted, counted, digest, path, url, ?_, credited⟩
      rw [digest]
      exact Delivery.get?_upload _
    · intro content' reading' u receipt same other
      cases same
      have refused : Delivery.accept (parcel s d f content reading) (.ok receipt) =
          .error (.sizeMismatch receipt.size (parcel s d f content reading).number content.length) := if_neg other
      exact ⟨_, accepted.symm.trans refused⟩

/-- A draft whose options claim all keys of the engine for themselves. -/
def usurping : Draft :=
  { rendered := default
    context := ⟨[("documentNumber", .text "7"), ("id", .text "client")], default, []⟩
    options := { metadata := ["templateId", "documentNumber", "revision", "generatedAt", "documentHash", "title",
      "author", "bucket", "generated_with", "engine_version", "client_id", "colour"].map fun k => (k, .text "mine") }
    template := .note }

/-- None of the claims has an effect, and what the engine does not use itself is handed on. -/
theorem delivery_intact_usurping :
    ∃ xs document u receipt, Run (Delivery.course ["artifact"] .note usurping.context usurping.options {} .markdown) xs
        (.ok document) ∧ (⟨.upload u, .ok receipt⟩ : Exchange) ∈ xs ∧ u.content = [104, 105] ∧ document.size = 2 ∧
      Fields.get? "colour" u.metadata = some (.text "mine") ∧
      Fields.get? "documentHash" u.metadata = some (.text document.digest) ∧
      Fields.get? "client_id" document.metadata = some (.text u.clientId) ∧ u.clientId = "client" := by
  let content : Bytes := [104, 105]
  let reading : Reading := ⟨0, default, 7⟩
  let receipt : Receipt := ⟨.text "key", .text "bucket", 2, .text "url"⟩
  let p := parcel {} usurping .markdown content reading
  obtain ⟨document, accepted⟩ : ∃ document, Delivery.accept p (.ok receipt) = .ok document := ⟨_, rfl⟩
  have run : Run (Delivery.course ["artifact"] .note usurping.context usurping.options {} .markdown)
      [⟨.read ["artifact"], .ok content⟩, ⟨.clock, reading⟩, ⟨.upload (Delivery.upload p), .ok receipt⟩]
      (.ok document) := accepted ▸ .ask _ (.ask _ (.ask _ (.done _)))
  have readable : ∀ e, (⟨.read ["artifact"], .error e⟩ : Exchange) ∈ ([⟨.read ["artifact"], .ok content⟩,
      ⟨.clock, reading⟩, ⟨.upload (Delivery.upload p), .ok receipt⟩] : Transcript) → e.isSystem = true := by
    intro e refused
    simp only [List.mem_cons, List.not_mem_nil, or_false] at refused
    rcases refused with same | same | same <;> cases same
  obtain ⟨-, intact, -⟩ := delivery_intact (d := usurping) run readable
  obtain ⟨_, _, u, _, same, intact⟩ := intact document rfl
  cases same
  refine ⟨_, document, _, receipt, run, by simp, intact.content_eq, intact.size_eq, ?_, ?_, ?_, by decide +kernel⟩
  · rw [intact.noted]
    rfl
  · rw [intact.noted]
    rfl
  · rw [intact.credited]
    rfl

end Generation

end Letterpress
