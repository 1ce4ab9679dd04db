import Letterpress.Pdf
import Letterpress.Proofs.Lookup

/-!
# What printed files say about themselves

A stamp is put over what a file says already. Under each name the file says what the stamp has for it, and where the
stamp has nothing, it goes on to say what its entries said, or else its packet. So a second stamp replaces a first one
exactly where it has something of its own.

* `Pdf.Stamp.entry?`, `Pdf.Stamp.number?`: what a stamp has. `Pdf.standing?`: what a file has by then.
* `Pdf.lookup_stampInfo`, `Pdf.lookup_takeOver`, `Pdf.lookup_giveBack`: the steps of a stamp, name by name.
* `Pdf.Stamp.isPlain`: stamps of text that is found again as it is.
* `Pdf.entry_stamp`, `Pdf.number_stamp`: what a stamped file says.
* `Pdf.stamps_replace_iff`: when nothing of an earlier stamp is left.
-/

namespace Letterpress.Pdf

variable {s earlier : Stamp} {p : Pdf} {info packet : List (String × List Char)} {k name : String} {v w : List Char}
  {x : String × String}

/-! ## Stamps -/

namespace Stamp

/-- The entries that a stamp writes. -/
def entries (s : Stamp) : List (String × List Char) :=
  [("Title", s.title), ("Author", s.author), ("Creator", s.creator), ("Producer", s.producer)] ++
    (if s.subject.isEmpty then [] else [("Subject", s.subject)]) ++
    if s.keywords.isEmpty then [] else [("Keywords", (", ".intercalate s.keywords).toList)]

def entry? (s : Stamp) (k : String) : Option (List Char) := s.entries.lookup k

def number? (s : Stamp) : Option (List Char) := if s.documentNumber.isEmpty then none else some s.documentNumber

theorem nodup_entries (s : Stamp) : (s.entries.map (·.1)).Nodup := by
  unfold entries
  split <;> split <;> simp

theorem entry?_of_notMem (other : k ∉ shared.map (·.1)) : s.entry? k = none := by
  have known : ∀ y ∈ s.entries, y.1 ∈ shared.map (·.1) := by
    unfold entries
    split <;> split <;> simp [shared]
  refine lookup_eq_none_of_notMem fun mem => other ?_
  obtain ⟨y, written, rfl⟩ := List.mem_map.mp mem
  exact known y written

end Stamp

/-! ## Entries and packets -/

theorem lookup_put (xs : List (String × List Char)) (j k : String) (v : List Char) :
    (put xs k v).lookup j = if j = k then some v else xs.lookup j :=
  lookup_renewed j k v xs

theorem lookup_puts {ys : List (String × List Char)} (distinct : (ys.map (·.1)).Nodup) (k : String)
    (xs : List (String × List Char)) :
    (ys.foldl (fun xs y => put xs y.1 y.2) xs).lookup k = (ys.lookup k).or (xs.lookup k) := by
  induction ys generalizing xs with
  | nil => rfl
  | cons y rest ih =>
    rw [List.map_cons, List.nodup_cons] at distinct
    rw [List.foldl_cons, ih distinct.2, lookup_put, lookup_cons_ite]
    split
    · rename_i here
      have missing : rest.lookup k = none := lookup_eq_none_of_notMem (here ▸ distinct.1)
      rw [missing]
      rfl
    · rfl

theorem lookup_stampInfo (s : Stamp) (info : List (String × List Char)) (k : String) :
    (stampInfo s info).lookup k = (s.entry? k).or (info.lookup k) := by
  have written : stampInfo s info = s.entries.foldl (fun xs y => put xs y.1 y.2) info := by
    unfold stampInfo Stamp.entries putSome
    split <;> split <;> simp_all
  rw [written, lookup_puts s.nodup_entries, Stamp.entry?]

/-- What the packet takes over of the text of an entry. -/
def carriedText? (entry : String) (v : List Char) : Option (List Char) :=
  if v.isEmpty && entry != "Author" then none else some (v.filter isStorable)

/-- What the entries have for the packet. -/
def carried? (info : List (String × List Char)) (entry : String) : Option (List Char) :=
  (info.lookup entry).bind (carriedText? entry)

theorem carriedText?_of_ne_nil (entry : String) (filled : v ≠ []) :
    carriedText? entry v = some (v.filter isStorable) := by
  simp [carriedText?, filled]

/-- Whether a text that a packet holds under a name counts, and not as empty. -/
def isShown (name : String) (v : List Char) : Bool :=
  !v.isEmpty && !(!listNames.contains name && v.all Text.isBlank)

theorem lookup_takeOver (info packet : List (String × List Char)) :
    (∀ x ∈ shared, (takeOver info packet).lookup x.2 = (carried? info x.1).or (packet.lookup x.2)) ∧
      ∀ name ∉ shared.map (·.2), (takeOver info packet).lookup name = packet.lookup name := by
  refine lookup_foldl Prod.snd (fun x old => (carried? info x.1).or old) (fun xs x j => ?_)
    (by decide) packet
  obtain ⟨entry, name⟩ := x
  dsimp only [carried?]
  cases info.lookup entry with
  | none => simp
  | some v =>
    rw [Option.bind_some, carriedText?]
    dsimp only
    split
    · simp
    · rw [lookup_put, Option.some_or]

theorem said?_filter (packet : List (String × List Char)) (name : String) :
    (said? packet name).filter (!·.isEmpty) = (packet.lookup name).filter (isShown name) := by
  unfold said?
  cases packet.lookup name with
  | none => rfl
  | some v =>
    rw [Option.map_some, Option.filter_some, Option.filter_some, isShown]
    split
    · rename_i blank
      rw [blank]
      simp
    · rename_i inked
      rw [Bool.eq_false_iff.mpr inked]
      simp

theorem lookup_giveBack (packet info : List (String × List Char)) :
    (∀ x ∈ shared, (giveBack packet info).lookup x.1 = (packet.lookup x.2).filter (isShown x.2)) ∧
      ∀ k ∉ shared.map (·.1), (giveBack packet info).lookup k = info.lookup k := by
  refine lookup_foldl Prod.fst (fun x _ => (packet.lookup x.2).filter (isShown x.2))
    (fun xs x j => ?_) (by decide) info
  obtain ⟨entry, name⟩ := x
  dsimp only
  rw [said?_filter]
  cases (packet.lookup name).filter (isShown name) with
  | none => exact lookup_filter_ne j entry xs
  | some v => exact lookup_put xs j entry v

/-! ## A stamped file -/

/-- What a file says under the name of an entry as far as no stamp has anything for it: what the entries have for the
packet, or else what the packet holds. -/
def standing? (p : Pdf) (x : String × String) : Option (List Char) :=
  ((carried? p.info x.1).or (p.packet.lookup x.2)).filter (isShown x.2)

theorem packet_stamp (s : Stamp) (p : Pdf) (mem : x ∈ shared) :
    (p.stamp s).packet.lookup x.2 = (carried? (stampInfo s p.info) x.1).or (p.packet.lookup x.2) := by
  have apart : ∀ y ∈ shared, y.2 ≠ numberName := by decide
  simp only [stamp]
  split
  · exact (lookup_takeOver _ _).1 x mem
  · rw [lookup_put, if_neg (apart x mem), (lookup_takeOver _ _).1 x mem]

theorem packet_stamp_number (s : Stamp) (p : Pdf) :
    (p.stamp s).packet.lookup numberName = (s.number?.map (·.filter isStorable)).or (p.packet.lookup numberName) := by
  have apart : numberName ∉ shared.map (·.2) := by decide
  simp only [stamp, Stamp.number?]
  split
  · exact (lookup_takeOver _ _).2 numberName apart
  · rw [lookup_put, if_pos rfl]
    rfl

theorem info_stamp (s : Stamp) (p : Pdf) (mem : x ∈ shared) :
    (p.stamp s).info.lookup x.1 = ((p.stamp s).packet.lookup x.2).filter (isShown x.2) :=
  (lookup_giveBack _ _).1 x mem

/-- All other entries stay. -/
theorem info_stamp_other (s : Stamp) (p : Pdf) (other : k ∉ shared.map (·.1)) :
    (p.stamp s).info.lookup k = p.info.lookup k := by
  rw [show (p.stamp s).info.lookup k = _ from (lookup_giveBack _ _).2 k other, lookup_stampInfo,
    Stamp.entry?_of_notMem other, Option.none_or]

/-- A text that is found again as it is under a name of the packet. -/
def isKept (name : String) (v : List Char) : Bool := v.all isStorable && isShown name v

theorem ne_nil_of_isShown (shown : isShown name v = true) : v ≠ [] := by
  rintro rfl
  cases shown

/-- Under the name of an entry for which a stamp has a text, the stamped file says just that exactly if it can be
kept. -/
theorem entry_stamp_eq_iff (p : Pdf) (mem : x ∈ shared) (given : s.entry? x.1 = some v) :
    (p.stamp s).info.lookup x.1 = some v ↔ isKept x.2 v = true := by
  rw [info_stamp s p mem, packet_stamp s p mem, carried?, lookup_stampInfo, given, Option.some_or, Option.bind_some,
    Option.filter_eq_some_iff, isKept, Bool.and_eq_true]
  refine and_congr_left fun shown => ?_
  rw [carriedText?_of_ne_nil _ (ne_nil_of_isShown shown), Option.some_or, Option.some_inj, List.filter_eq_self,
    List.all_eq_true]

theorem entry_stamp_of_none (p : Pdf) (mem : x ∈ shared) (open_ : s.entry? x.1 = none) :
    (p.stamp s).info.lookup x.1 = p.standing? x := by
  rw [info_stamp s p mem, packet_stamp s p mem, carried?, lookup_stampInfo, open_, Option.none_or, standing?, carried?]

/-- Where a text of blanks alone counts as empty, no other text does. -/
theorem shownText_eq_iff (filled : v ≠ []) :
    (if !listNames.contains name && w.all Text.isBlank then [] else w) = v ↔ w = v ∧ isShown name v = true := by
  constructor
  · intro same
    split at same
    · exact absurd same.symm filled
    · rename_i inked
      subst same
      rw [isShown, Bool.eq_false_iff.mpr inked]
      simpa using filled
  · rintro ⟨rfl, shown⟩
    rw [isShown, Bool.and_eq_true, Bool.not_eq_true', Bool.not_eq_true'] at shown
    exact if_neg (Bool.eq_false_iff.mp shown.2)

theorem number_stamp_eq_iff (p : Pdf) (given : s.number? = some v) :
    (p.stamp s).description.2 = some v ↔ isKept numberName v = true := by
  have filled : v ≠ [] := by
    unfold Stamp.number? at given
    split at given
    · cases given
    · rename_i filled
      cases given
      simpa using filled
  rw [description, said?, packet_stamp_number, given, Option.map_some, Option.some_or, Option.map_some, Option.some_inj,
    shownText_eq_iff filled, isKept, Bool.and_eq_true, List.filter_eq_self, List.all_eq_true]

theorem number_stamp_of_none (p : Pdf) (open_ : s.number? = none) :
    (p.stamp s).description.2 = p.description.2 := by
  simp only [description, said?, packet_stamp_number, open_, Option.map_none, Option.none_or]

/-! ## Plain stamps -/

/-- A stamp of texts that are all found again as they are. -/
structure Stamp.IsPlain (s : Stamp) : Prop where
  entries : ∀ x ∈ shared, ∀ v ∈ s.entry? x.1, isKept x.2 v = true
  number : ∀ v ∈ s.number?, isKept numberName v = true

/-- Under the name of an entry, a stamped file says what the stamp has for it, or else what it said by then. -/
theorem entry_stamp (p : Pdf) (plain : s.IsPlain) (mem : x ∈ shared) :
    (p.stamp s).info.lookup x.1 = (s.entry? x.1).or (p.standing? x) := by
  cases given : s.entry? x.1 with
  | none => exact entry_stamp_of_none p mem given
  | some v => exact (entry_stamp_eq_iff p mem given).mpr (plain.entries x mem v given)

theorem number_stamp (p : Pdf) (plain : s.IsPlain) :
    (p.stamp s).description.2 = s.number?.or p.description.2 := by
  cases given : s.number? with
  | none => exact number_stamp_of_none p given
  | some v => exact (number_stamp_eq_iff p given).mpr (plain.number v given)

/-- A file that says what a stamp has, and nothing where the stamp has nothing. -/
def Tells (p : Pdf) (s : Stamp) : Prop :=
  (∀ x ∈ shared, p.description.1.lookup x.1 = s.entry? x.1) ∧ p.description.2 = s.number?

/-- A file that says nothing by then where a stamp has nothing. -/
def IsSilentBeside (p : Pdf) (s : Stamp) : Prop :=
  (∀ x ∈ shared, s.entry? x.1 = none → p.standing? x = none) ∧ (s.number? = none → p.description.2 = none)

/-- A stamped file says what the stamp has and no more exactly if the stamp is plain and the file was silent about all
else. -/
theorem tells_stamp_iff (p : Pdf) (s : Stamp) : (p.stamp s).Tells s ↔ s.IsPlain ∧ p.IsSilentBeside s := by
  have entry {x : String × String} (mem : x ∈ shared) : (p.stamp s).info.lookup x.1 = s.entry? x.1 ↔
      (∀ v ∈ s.entry? x.1, isKept x.2 v = true) ∧ (s.entry? x.1 = none → p.standing? x = none) := by
    cases given : s.entry? x.1 with
    | none => simp [entry_stamp_of_none p mem given]
    | some v => simp [entry_stamp_eq_iff p mem given]
  have number : (p.stamp s).description.2 = s.number? ↔
      (∀ v ∈ s.number?, isKept numberName v = true) ∧ (s.number? = none → p.description.2 = none) := by
    cases given : s.number? with
    | none => simp [number_stamp_of_none p given]
    | some v => simp [number_stamp_eq_iff p given]
  constructor
  · rintro ⟨entries, numbered⟩
    exact ⟨⟨fun x mem => ((entry mem).mp (entries x mem)).1, (number.mp numbered).1⟩,
      fun x mem => ((entry mem).mp (entries x mem)).2, (number.mp numbered).2⟩
  · rintro ⟨plain, silent⟩
    exact ⟨fun x mem => (entry mem).mpr ⟨plain.entries x mem, silent.1 x mem⟩, number.mpr ⟨plain.number, silent.2⟩⟩

/-! ## Stamps one after the other -/

/-- A file whose packet holds only what a packet can hold. -/
def IsReadable (p : Pdf) : Prop := ∀ x ∈ p.packet, ∀ c ∈ x.2, isStorable c = true

instance : Decidable p.IsReadable :=
  decidable_of_iff ((p.packet.all fun x => x.2.all isStorable) = true) (by simp only [IsReadable, List.all_eq_true])

theorem IsReadable.storable (readable : p.IsReadable) (held : p.packet.lookup name = some v) :
    ∀ c ∈ v, isStorable c = true := by
  obtain ⟨before, behind, same, -⟩ := List.lookup_eq_some_iff.mp held
  exact readable (name, v) (same ▸ List.mem_append_right _ List.mem_cons_self)

/-- What the packet of a stamped file holds under the name of an entry is stored or taken over from the entries. -/
theorem storable_packet_stamp (readable : p.IsReadable) (mem : x ∈ shared)
    (held : (p.stamp s).packet.lookup x.2 = some v) : ∀ c ∈ v, isStorable c = true := by
  rw [packet_stamp s p mem, Option.or_eq_some_iff] at held
  rcases held with carried | ⟨-, stored⟩
  · obtain ⟨w, -, text⟩ := Option.bind_eq_some_iff.mp carried
    unfold carriedText? at text
    split at text
    · cases text
    · cases text
      exact fun c mem => (List.mem_filter.mp mem).2
  · exact readable.storable stored

/-- The packet of a stamped file has nothing to add to its entries. -/
theorem standing_stamp (readable : p.IsReadable) (s : Stamp) (mem : x ∈ shared) :
    (p.stamp s).standing? x = (p.stamp s).info.lookup x.1 := by
  have same := info_stamp s p mem
  rw [standing?, carried?]
  cases said : (p.stamp s).info.lookup x.1 with
  | none => rw [Option.bind_none, Option.none_or, ← same, said]
  | some v =>
    obtain ⟨held, shown⟩ := Option.filter_eq_some_iff.mp (same.symm.trans said)
    have stored : v.filter isStorable = v := List.filter_eq_self.mpr (storable_packet_stamp readable mem held)
    rw [Option.bind_some, carriedText?_of_ne_nil _ (ne_nil_of_isShown shown), stored, Option.some_or]
    exact Option.filter_eq_some_iff.mpr ⟨rfl, shown⟩

/-- Two files that say the same. -/
def TellsLike (p q : Pdf) : Prop :=
  (∀ k, p.description.1.lookup k = q.description.1.lookup k) ∧ p.description.2 = q.description.2

/-- What stands first between two others makes a difference where the first is missing. -/
theorem or_or_eq_iff {α : Type} {a b c : Option α} : a.or (b.or c) = a.or c ↔ (a = none → b = none ∨ b = c) := by
  cases a with
  | none => cases b <;> simp
  | some _ => simp

/-- A stamp behind another one, compared with the same stamp alone. -/
theorem stamp_stamp_iff (readable : p.IsReadable) (plain : earlier.IsPlain) (plain' : s.IsPlain) :
    ((p.stamp earlier).stamp s).TellsLike (p.stamp s) ↔
      (∀ x ∈ shared, s.entry? x.1 = none → earlier.entry? x.1 = none ∨ earlier.entry? x.1 = p.standing? x) ∧
        (s.number? = none → earlier.number? = none ∨ earlier.number? = p.description.2) := by
  have entry {x : String × String} (mem : x ∈ shared) :
      ((p.stamp earlier).stamp s).info.lookup x.1 = (p.stamp s).info.lookup x.1 ↔
        (s.entry? x.1 = none → earlier.entry? x.1 = none ∨ earlier.entry? x.1 = p.standing? x) := by
    rw [entry_stamp _ plain' mem, entry_stamp _ plain' mem, standing_stamp readable earlier mem,
      entry_stamp _ plain mem, or_or_eq_iff]
  have other {k : String} (other : k ∉ shared.map (·.1)) :
      ((p.stamp earlier).stamp s).info.lookup k = (p.stamp s).info.lookup k := by
    rw [info_stamp_other _ _ other, info_stamp_other _ _ other, info_stamp_other _ _ other]
  have number : ((p.stamp earlier).stamp s).description.2 = (p.stamp s).description.2 ↔
      (s.number? = none → earlier.number? = none ∨ earlier.number? = p.description.2) := by
    rw [number_stamp _ plain', number_stamp _ plain', number_stamp _ plain, or_or_eq_iff]
  refine and_congr ⟨fun same x mem => (entry mem).mp (same x.1), fun left k => ?_⟩ number
  by_cases known : k ∈ shared.map (·.1)
  · obtain ⟨x, mem, rfl⟩ := List.mem_map.mp known
    exact (entry mem).mpr (left x mem)
  · exact other known

/-- A stamped file tells what the stamp has and no more exactly if the stamp is plain and the file was silent about all
else. A plain stamp puts all that it has into the file, where what it leaves open stays; and an earlier one makes no
difference exactly where it had nothing to add. -/
theorem stamps_replace_iff (p : Pdf) (s : Stamp) :
    (Printed.pdf p).stamp (.ok s) = .ok (p.stamp s) ∧
      ((p.stamp s).Tells s ↔ s.IsPlain ∧ p.IsSilentBeside s) ∧
      (s.IsPlain →
        (∀ x ∈ shared, (p.stamp s).description.1.lookup x.1 = (s.entry? x.1).or (p.standing? x)) ∧
          (p.stamp s).description.2 = s.number?.or p.description.2) ∧
      (p.IsReadable → ∀ earlier : Stamp, earlier.IsPlain → s.IsPlain →
        (((p.stamp earlier).stamp s).TellsLike (p.stamp s) ↔
          (∀ x ∈ shared, s.entry? x.1 = none → earlier.entry? x.1 = none ∨ earlier.entry? x.1 = p.standing? x) ∧
            (s.number? = none → earlier.number? = none ∨ earlier.number? = p.description.2))) :=
  ⟨rfl, tells_stamp_iff p s, fun plain => ⟨fun _ mem => entry_stamp p plain mem, number_stamp p plain⟩,
    fun readable _ plain plain' => stamp_stamp_iff readable plain plain'⟩

/-- A stamp with a subject, keywords and a number. -/
def full : Stamp :=
  { title := "T".toList, author := "A".toList, creator := "C".toList, producer := "P".toList, subject := "S".toList,
    keywords := ["k"], documentNumber := "D1".toList }

/-- A stamp without them. -/
def bare : Stamp := { title := "T2".toList, author := "A".toList, creator := "C".toList, producer := "P".toList }

/-- A file as it comes from a browser. -/
def printed : Pdf := ⟨[("Creator", "Chromium".toList), ("Producer", "Skia".toList)], [("dc:title", "Untitled".toList)]⟩

theorem stamps_replace_iff_bare :
    printed.IsReadable ∧ full.IsPlain ∧ bare.IsPlain ∧ (printed.stamp bare).Tells bare ∧
      ¬((printed.stamp full).stamp bare).TellsLike (printed.stamp bare) := by
  have readable : printed.IsReadable := by decide
  have plain : full.IsPlain := ⟨by decide, by decide⟩
  have plain' : bare.IsPlain := ⟨by decide, by decide⟩
  obtain ⟨-, tells, -, like⟩ := stamps_replace_iff printed bare
  refine ⟨readable, plain, plain', tells.mpr ⟨plain', by decide, by decide⟩, fun same => ?_⟩
  have number := ((like readable full plain plain').mp same).2 rfl
  revert number
  decide

/-- A file is stamped a second time, without a subject, keywords and a number, and still has those of the first time. -/
theorem metadata_left_behind :
    full.IsPlain ∧ bare.IsPlain ∧ ¬((({} : Pdf).stamp full).stamp bare).Tells bare ∧
      ¬((({} : Pdf).stamp full).stamp bare).TellsLike (({} : Pdf).stamp bare) := by
  have left : ((({} : Pdf).stamp full).stamp bare).description.2 = some "D1".toList := by decide
  refine ⟨⟨by decide, by decide⟩, ⟨by decide, by decide⟩, fun tells => ?_, fun same => ?_⟩
  · cases left.symm.trans tells.2
  · cases left.symm.trans same.2

end Letterpress.Pdf
