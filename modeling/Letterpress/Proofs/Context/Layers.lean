import Letterpress.Context
import Letterpress.Proofs.Fields

/-!
# Layers of a context

The values of a context are made of three layers: defaults, the data of a caller and the metadata of the options. Of
each key the last layer counts that has it, but for a few keys that the engine keeps for itself or fills in. Helpers lie
over all of them.

* `lastOf`: a key in the last of three layers that has it.
* `Layered`: the values of a context, key by key.
* `get?_names`, `lookup_eq`: what a template finds under a name.
* `of_layers`: every context is made like that, and what a caller has under the name of a helper is never found.
-/

namespace Letterpress.Context

variable {base data fields : Fields} {o : Options} {c : Context} {k : String}

/-! ## What a template finds under a name -/

theorem nodup_helperFields : (helperFields.map (·.1)).Nodup := by decide

theorem get?_helperFields (n : String) :
    Fields.get? n helperFields = if (Helper.ofName? n).isSome then some (.function n) else none := by
  rw [helperFields, Helper.ofName?]
  induction Helper.all with
  | nil => rfl
  | cons h rest ih =>
    rw [List.map_cons, Fields.get?_cons, List.find?_cons, ih]
    by_cases here : n = h.name
    · simp [here]
    · have other : (h.name == n) = false := beq_false_of_ne (Ne.symm here)
      rw [if_neg here, other]

theorem get?_names (c : Context) (n : String) :
    Fields.get? n c.names = if (Helper.ofName? n).isSome then some (.function n) else Fields.get? n c.values := by
  rw [names, Fields.get?_overlay_of_nodup nodup_helperFields, get?_helperFields]
  split <;> rfl

/-- A name that is looked up leads to what a template finds under it. -/
theorem lookup_eq (c : Context) (n : String) (d : Value) : c.lookup n d = (Fields.get? n c.names).getD d := by
  rw [get?_names, lookup]
  split <;> rfl

theorem get?_names_helper (c : Context) (h : Helper) : Fields.get? h.name c.names = some (.function h.name) := by
  have known : (Helper.ofName? h.name).isSome = true := by cases h <;> decide
  rw [get?_names, if_pos known]

/-! ## Keys that are kept or filled in -/

theorem get?_restore (base : Fields) (keys : List String) (fields : Fields) (k : String) :
    Fields.get? k (restore base keys fields) =
      if k ∈ keys then some ((Fields.get? k base).getD .none) else Fields.get? k fields := by
  induction keys generalizing fields with
  | nil => rfl
  | cons j rest ih =>
    change Fields.get? k (restore base rest (Fields.set fields j _)) = _
    rw [ih, Fields.get?_set]
    by_cases later : k ∈ rest
    · rw [if_pos later, if_pos (List.mem_cons_of_mem j later)]
    · by_cases here : k = j
      · rw [if_neg later, if_pos here, if_pos (List.mem_cons.mpr (.inl here)), here]
      · rw [if_neg later, if_neg here, if_neg (by simp [here, later])]

/-- A date that is missing is that of the base. -/
theorem get?_fillDates (base fields : Fields) (k : String) :
    Fields.get? k (fillDates base fields) =
      if k ∈ dateKeys ∧ isMissing ((Fields.get? k fields).getD .none) then some ((Fields.get? k base).getD .none)
      else Fields.get? k fields := by
  simp only [fillDates, dateKeys, List.foldl_cons, List.foldl_nil]
  by_cases date : k = "currentDate"
  · subst date
    split <;> split <;> simp_all
  by_cases moment : k = "currentDateTime"
  · subst moment
    split <;> split <;> simp_all
  split <;> split <;> simp [date, moment]

/-- Fields that have what identifies a document, and the dates that are filled in. -/
structure Grounds (o : Options) (base : Fields) : Prop where
  identity : ∀ k ∈ identityKeys, Fields.get? k base = some (Options.optionalText o.documentNumber)
  date : ∀ k ∈ dateKeys, ∃ d, Fields.get? k base = some d

theorem defaults_grounds {t : Template} {s : Settings} {locale : String} {now : Moment}
    (made : defaults t o s locale now = .ok base) : Grounds o base := by
  unfold defaults at made
  simp only [bind, Except.bind, pure, Except.pure] at made
  split at made
  · cases made
  split at made
  · cases made
  split at made
  · cases made
  cases made
  constructor <;> simp [identityKeys, dateKeys, Fields.get?_cons]

/-! ## Layers -/

/-- A key in the last of three layers that has it. -/
def lastOf (base data upper : Fields) (k : String) : Option Value :=
  (Fields.get? k upper).or ((Fields.get? k data).or (Fields.get? k base))

theorem get?_overlay_overlay {upper : Fields} (data_distinct : (data.map (·.1)).Nodup)
    (upper_distinct : (upper.map (·.1)).Nodup) (base : Fields) (k : String) :
    Fields.get? k (Fields.overlay (Fields.overlay base data) upper) = lastOf base data upper k := by
  rw [Fields.get?_overlay_of_nodup upper_distinct, Fields.get?_overlay_of_nodup data_distinct, lastOf]

theorem isSome_lastOf {upper : Fields} :
    (lastOf base data upper k).isSome ↔ k ∈ base.map (·.1) ∨ k ∈ data.map (·.1) ∨ k ∈ upper.map (·.1) := by
  simp only [lastOf, Option.isSome_or, Bool.or_eq_true, Fields.isSome_get?_iff]
  rw [or_comm, or_comm (a := k ∈ data.map _), or_assoc]

/-- The keys under which the engine puts something of its own. -/
def ownKeys : List String := ["metadata", "options"]

/-- The values of a context over its layers, key by key. -/
structure Layered (base data : Fields) (o : Options) (values : Fields) : Prop where
  keys : ∀ k, k ∈ values.map (·.1) ↔
    k ∈ base.map (·.1) ∨ k ∈ data.map (·.1) ∨ k ∈ o.metadata.map (·.1) ∨ k ∈ ownKeys
  plain : ∀ k, k ∉ ownKeys → k ∉ identityKeys → k ∉ dateKeys → Fields.get? k values = lastOf base data o.metadata k
  date : ∀ k ∈ dateKeys, ∃ v d, lastOf base data o.metadata k = some v ∧ Fields.get? k base = some d ∧
    Fields.get? k values = some (if isMissing v then d else v)
  identity : ∀ k ∈ identityKeys, Fields.get? k values = some (Options.optionalText o.documentNumber)
  /-- the metadata have the same layers, with what a caller has there between the defaults and the options -/
  metadata : ∃ m, Fields.get? "metadata" values = some (.record m) ∧
    (∀ k, k ∉ identityKeys →
      Fields.get? k m = lastOf base (fieldsOf (Fields.get? "metadata" data)) o.metadata k) ∧
    ∀ k ∈ identityKeys, Fields.get? k m = some (Options.optionalText o.documentNumber)
  options : Fields.get? "options" values = some (.record o.toFields)

theorem get?_mergedValues_metadata (base data : Fields) (o : Options) :
    Fields.get? "metadata" (mergedValues base data o) = some (.record (restore base identityKeys
      (Fields.overlay (Fields.overlay base (fieldsOf (Fields.get? "metadata" data))) o.metadata))) := by
  simp [mergedValues, get?_fillDates, get?_restore, dateKeys, identityKeys]

theorem get?_mergedValues_options (base data : Fields) (o : Options) :
    Fields.get? "options" (mergedValues base data o) = some (.record o.toFields) := by
  simp [mergedValues, get?_fillDates, get?_restore, dateKeys, identityKeys]

theorem get?_mergedValues_identity (grounds : Grounds o base) (mem : k ∈ identityKeys) (data : Fields) :
    Fields.get? k (mergedValues base data o) = some (Options.optionalText o.documentNumber) := by
  have undated : ∀ k ∈ identityKeys, k ∉ dateKeys := by decide
  rw [mergedValues, get?_fillDates, if_neg (fun date => undated k mem date.1), get?_restore, if_pos mem,
    grounds.identity k mem, Option.getD_some]

/-- A key that the engine does not keep for itself has its last value, unless that is a date that is missing. -/
theorem get?_mergedValues (apart : k ∉ ownKeys) (kept : k ∉ identityKeys) (base data : Fields) (o : Options) :
    Fields.get? k (mergedValues base data o) =
      let last := Fields.get? k (Fields.overlay (Fields.overlay base data) o.metadata)
      if k ∈ dateKeys ∧ isMissing (last.getD .none) then some ((Fields.get? k base).getD .none) else last := by
  have others : k ≠ "metadata" ∧ k ≠ "options" := by simpa [ownKeys] using apart
  simp only [mergedValues, get?_fillDates, get?_restore, if_neg kept, Fields.get?_set, if_neg others.1,
    if_neg others.2]

section

variable (data_distinct : (data.map (·.1)).Nodup) (metadata_distinct : (o.metadata.map (·.1)).Nodup)
include data_distinct metadata_distinct

theorem get?_mergedValues_plain (apart : k ∉ ownKeys) (kept : k ∉ identityKeys) (undated : k ∉ dateKeys) :
    Fields.get? k (mergedValues base data o) = lastOf base data o.metadata k := by
  rw [get?_mergedValues apart kept, get?_overlay_overlay data_distinct metadata_distinct]
  exact if_neg fun date => undated date.1

theorem get?_mergedValues_date (grounds : Grounds o base) (mem : k ∈ dateKeys) :
    ∃ v d, lastOf base data o.metadata k = some v ∧ Fields.get? k base = some d ∧
      Fields.get? k (mergedValues base data o) = some (if isMissing v then d else v) := by
  have others : ∀ k ∈ dateKeys, k ∉ ownKeys ∧ k ∉ identityKeys := by decide
  obtain ⟨d, default⟩ := grounds.date k mem
  have there : (lastOf base data o.metadata k).isSome := by simp [lastOf, default]
  obtain ⟨v, last⟩ := Option.isSome_iff_exists.mp there
  refine ⟨v, d, last, default, ?_⟩
  rw [get?_mergedValues (others k mem).1 (others k mem).2, get?_overlay_overlay data_distinct metadata_distinct, last,
    default]
  by_cases missing : isMissing v <;> simp [mem, missing]

theorem mem_keys_mergedValues_iff (grounds : Grounds o base) :
    k ∈ (mergedValues base data o).map (·.1) ↔
      k ∈ base.map (·.1) ∨ k ∈ data.map (·.1) ∨ k ∈ o.metadata.map (·.1) ∨ k ∈ ownKeys := by
  rw [← Fields.isSome_get?_iff]
  by_cases own : k ∈ ownKeys
  · have there : (Fields.get? k (mergedValues base data o)).isSome := by
      obtain rfl | rfl : k = "metadata" ∨ k = "options" := by simpa [ownKeys] using own
      · rw [get?_mergedValues_metadata, Option.isSome_some]
      · rw [get?_mergedValues_options, Option.isSome_some]
    exact iff_of_true there (.inr (.inr (.inr own)))
  · rw [or_iff_left (a := k ∈ o.metadata.map _) own, ← isSome_lastOf]
    by_cases dated : k ∈ dateKeys
    · obtain ⟨v, d, last, -, here⟩ := get?_mergedValues_date data_distinct metadata_distinct grounds dated
      rw [last, here, Option.isSome_some, Option.isSome_some]
    by_cases kept : k ∈ identityKeys
    · rw [get?_mergedValues_identity grounds kept]
      simp [lastOf, grounds.identity k kept]
    · rw [get?_mergedValues_plain data_distinct metadata_distinct own kept dated]

theorem mergedValues_layered (own_distinct : ((fieldsOf (Fields.get? "metadata" data)).map (·.1)).Nodup)
    (grounds : Grounds o base) : Layered base data o (mergedValues base data o) where
  keys _ := mem_keys_mergedValues_iff data_distinct metadata_distinct grounds
  plain _ apart kept undated := get?_mergedValues_plain data_distinct metadata_distinct apart kept undated
  date _ mem := get?_mergedValues_date data_distinct metadata_distinct grounds mem
  identity _ mem := get?_mergedValues_identity grounds mem data
  metadata := by
    refine ⟨_, get?_mergedValues_metadata base data o, fun k apart => ?_, fun k mem => ?_⟩
    · rw [get?_restore, if_neg apart, get?_overlay_overlay own_distinct metadata_distinct]
    · rw [get?_restore, if_pos mem, grounds.identity k mem, Option.getD_some]
  options := get?_mergedValues_options base data o

end

/-! ## What a caller has under the name of a helper -/

/-- Data that are the same under all names that belong to no helper. -/
def AgreeApartHelpers (data data' : Fields) : Prop :=
  ∀ k, Helper.ofName? k = none → Fields.get? k data' = Fields.get? k data

/-- What a caller has under other names than those of helpers decides the values under these names. -/
theorem get?_mergedValues_congr {data' : Fields} (distinct : (data.map (·.1)).Nodup)
    (distinct' : (data'.map (·.1)).Nodup) (agree : AgreeApartHelpers data data') (other : Helper.ofName? k = none)
    (grounds : Grounds o base) :
    Fields.get? k (mergedValues base data' o) = Fields.get? k (mergedValues base data o) := by
  by_cases own : k ∈ ownKeys
  · obtain rfl | rfl : k = "metadata" ∨ k = "options" := by simpa [ownKeys] using own
    · rw [get?_mergedValues_metadata, get?_mergedValues_metadata, agree "metadata" other]
    · rw [get?_mergedValues_options, get?_mergedValues_options]
  by_cases kept : k ∈ identityKeys
  · rw [get?_mergedValues_identity grounds kept, get?_mergedValues_identity grounds kept]
  · have last : Fields.get? k (Fields.overlay (Fields.overlay base data') o.metadata) =
        Fields.get? k (Fields.overlay (Fields.overlay base data) o.metadata) := by
      rw [Fields.get?_overlay k _ o.metadata, Fields.get?_overlay k _ o.metadata,
        Fields.get?_overlay_of_nodup distinct', Fields.get?_overlay_of_nodup distinct, agree k other]
    rw [get?_mergedValues own kept, get?_mergedValues own kept, last]

/-- A template finds the same under every name, whatever a caller has under the names of helpers. -/
theorem get?_names_congr {c c' : Context} (same : ∀ k, Helper.ofName? k = none →
    Fields.get? k c'.values = Fields.get? k c.values) (k : String) : Fields.get? k c'.names = Fields.get? k c.names := by
  rw [get?_names, get?_names]
  cases helper : Helper.ofName? k with
  | none => simpa using same k helper
  | some h => rfl

/-- How a context is made. If the defaults cannot be made, nothing is. Otherwise there is a context whose values are
layered over the defaults; a name that is looked up leads to what a template finds under it, and under the name of a
helper that is the helper. Other data of a caller that differ under the names of helpers only make no difference to what
a template finds, and helpers work in the same way. -/
theorem of_layered (data : Fields) (t : Template) (o : Options) (s : Settings) (now : Moment)
    (data_distinct : (data.map (·.1)).Nodup) (metadata_distinct : (o.metadata.map (·.1)).Nodup)
    (own_distinct : ((fieldsOf (Fields.get? "metadata" data)).map (·.1)).Nodup) :
    match defaults t o s (Locale.normalize o.language) now with
    | .error e => Context.of data t o s now = .error e
    | .ok base => ∃ c, Context.of data t o s now = .ok c ∧ Layered base data o c.values ∧
        (∀ n d, c.lookup n d = (Fields.get? n c.names).getD d) ∧
        (∀ h : Helper, Fields.get? h.name c.names = some (.function h.name)) ∧
        ∀ data', (data'.map (·.1)).Nodup → AgreeApartHelpers data data' →
          ∃ c', Context.of data' t o s now = .ok c' ∧ c'.setting = c.setting ∧
            ∀ n, Fields.get? n c'.names = Fields.get? n c.names := by
  simp only [Context.of]
  cases made : defaults t o s (Locale.normalize o.language) now with
  | error e => rfl
  | ok base =>
    have grounds := defaults_grounds made
    refine ⟨_, rfl, mergedValues_layered data_distinct metadata_distinct own_distinct grounds, lookup_eq _,
      get?_names_helper _, fun data' distinct' agree => ⟨_, rfl, rfl, get?_names_congr fun k other => ?_⟩⟩
    exact get?_mergedValues_congr data_distinct distinct' agree other grounds

/-- Data that claim the number of a document, a date, a helper and metadata. -/
def grasping : Fields :=
  [("documentId", .int 1), ("currentDate", .text ""), ("uppercase", .none), ("companyName", .text "a"),
    ("metadata", .record [("documentNumber", .none), ("revision", .int 9)])]

theorem of_layered_grasping :
    let o : Options := { documentNumber := some "7", metadata := [("companyName", .text "b")] }
    ∃ c, Context.of grasping default o {} default = .ok c ∧
      Fields.get? "uppercase" c.names = some (.function "uppercase") ∧
      Fields.get? "documentId" c.values = some (.text "7") ∧
      Fields.get? "companyName" c.values = some (.text "b") ∧
      ∃ m, Fields.get? "metadata" c.values = some (.record m) ∧ Fields.get? "revision" m = some (.int 9) ∧
        Fields.get? "documentNumber" m = some (.text "7") := by
  intro o
  have law := of_layered grasping default o {} default (by decide) (by decide) (by decide)
  have sound : (defaults default o {} (Locale.normalize o.language) default).toOption.isSome = true := rfl
  cases made : defaults default o {} (Locale.normalize o.language) default with
  | error e =>
    rw [made] at sound
    cases sound
  | ok base =>
    rw [made] at law
    obtain ⟨c, enriched, layered, -, helpers, -⟩ := law
    obtain ⟨m, metadata, inner, identity⟩ := layered.metadata
    refine ⟨c, enriched, helpers .uppercase, layered.identity _ (by decide), ?_, m, metadata, ?_,
      identity _ (by decide)⟩
    · exact layered.plain _ (by decide) (by decide) (by decide)
    · exact inner _ (by decide)

end Letterpress.Context
