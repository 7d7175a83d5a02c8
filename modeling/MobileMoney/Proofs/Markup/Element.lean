import MobileMoney.Markup.Element
import MobileMoney.Proofs.Markup.Escape
import MobileMoney.Proofs.Text.Letters

/-!
# Documents that are read back

A tag is found at its own opening and nowhere else: not in a value, whose angle brackets are
escaped, not in a closing, and not in the opening of a longer tag.  So what is read for a tag of a
flat document is the value of the first field of that tag, and no other value matters.
-/

namespace MobileMoney.Markup

open Text

def IsTagName (tag : String) : Prop :=
  tag ≠ "" ∧ tag.toList.all Char.isAlphanum = true

instance (tag : String) : Decidable (IsTagName tag) :=
  inferInstanceAs (Decidable (_ ∧ _))

namespace Document

/-- The name of a field: like the root, but another one. -/
def IsFieldTag (document : Document) (tag : String) : Prop :=
  IsTagName tag ∧ tag ≠ document.root

instance (document : Document) (tag : String) : Decidable (document.IsFieldTag tag) :=
  inferInstanceAs (Decidable (_ ∧ _))

structure IsFlat (document : Document) : Prop where
  root : IsTagName document.root
  fields : ∀ field ∈ document.fields, document.IsFieldTag field.1

/-- Each value is changed in a way that depends on its tag. -/
def mapValues (change : String → String → String) (document : Document) : Document where
  root := document.root
  fields := document.fields.map fun (tag, value) ↦ (tag, change tag value)

end Document

/-! ## Tags -/

theorem IsTagName.isAlphanum {tag : String} (h : IsTagName tag) :
    ∀ c ∈ tag.toList, c.isAlphanum = true :=
  List.all_eq_true.mp h.2

theorem IsTagName.exists_cons {tag : String} (h : IsTagName tag) :
    ∃ c rest, tag.toList = c :: rest ∧ c.isAlphanum = true := by
  have hne : tag.toList ≠ [] := fun hnil ↦ h.1 (String.toList_eq_nil_iff.mp hnil)
  obtain ⟨c, rest, htag⟩ := List.exists_cons_of_ne_nil hne
  exact ⟨c, rest, htag, h.isAlphanum c (htag ▸ List.mem_cons_self)⟩

theorem dropExact?_eq_some_iff {ps cs rest : List Char} :
    dropExact? ps cs = some rest ↔ cs = ps ++ rest := by
  induction ps generalizing cs with
  | nil => simp [dropExact?]
  | cons p ps ih =>
    cases cs with
    | nil => simp [dropExact?]
    | cons c cs =>
      by_cases heq : p = c
      · simp [dropExact?, heq, ih]
      · simp [dropExact?, heq, Ne.symm heq]

theorem openingAt?_of_ne_lt {tag : List Char} {c : Char} (h : c ≠ '<') (rest : List Char) :
    openingAt? tag (c :: rest) = none := by
  simp [openingAt?, dropExact?, h.symm]

/-- After a bracket that no tag follows, such as that of a closing, there is no opening. -/
theorem openingAt?_of_not_isAlphanum {tag : String} (htag : IsTagName tag) {c : Char}
    (hc : c.isAlphanum = false) (rest : List Char) :
    openingAt? tag.toList ('<' :: c :: rest) = none := by
  obtain ⟨t, ts, hts, ht⟩ := htag.exists_cons
  have hne : t ≠ c := by
    intro heq
    rw [heq, hc] at ht
    contradiction
  simp [hts, openingAt?, dropExact?, hne]

theorem openingAt?_renderOpening (tag rest : List Char) :
    openingAt? tag (Document.renderOpening tag ++ rest) = some rest := by
  have hdrop : dropExact? ('<' :: tag) (Document.renderOpening tag ++ rest) =
      some ('>' :: rest) := dropExact?_eq_some_iff.mpr (by simp [Document.renderOpening])
  simp [openingAt?, hdrop]

/-- What is left of a name after another one begins with a letter or a digit. -/
theorem dropExact?_of_isAlphanum {tag name : List Char} (htag : ∀ c ∈ tag, c.isAlphanum = true)
    (hname : ∀ c ∈ name, c.isAlphanum = true) (hne : name ≠ tag) (rest : List Char) :
    dropExact? tag (name ++ '>' :: rest) = none ∨
      ∃ c more, dropExact? tag (name ++ '>' :: rest) = some (c :: more) ∧
        c.isAlphanum = true := by
  induction tag generalizing name with
  | nil =>
    -- The tag is used up, and the name goes on with one of its own characters.
    obtain ⟨c, cs, rfl⟩ := List.exists_cons_of_ne_nil hne
    exact .inr ⟨c, _, rfl, hname c List.mem_cons_self⟩
  | cons t ts ih =>
    cases name with
    | nil =>
      have ht : t ≠ '>' := fun h ↦ absurd (htag t List.mem_cons_self) (h ▸ by decide)
      exact .inl (by simp [dropExact?, ht])
    | cons c cs =>
      by_cases heq : t = c
      · subst heq
        have hrest := ih (fun d hd ↦ htag d (List.mem_cons_of_mem _ hd))
          (fun d hd ↦ hname d (List.mem_cons_of_mem _ hd)) (fun h ↦ hne (h ▸ rfl))
        simpa [dropExact?] using hrest
      · exact .inl (by simp [dropExact?, heq])

theorem openingAt?_renderOpening_of_ne {tag name : String} (htag : IsTagName tag)
    (hname : IsTagName name) (hne : name ≠ tag) (rest : List Char) :
    openingAt? tag.toList (Document.renderOpening name.toList ++ rest) = none := by
  have hdrop : dropExact? ('<' :: tag.toList) (Document.renderOpening name.toList ++ rest) =
      dropExact? tag.toList (name.toList ++ '>' :: rest) := by
    simp [Document.renderOpening, dropExact?]
  have hlists : name.toList ≠ tag.toList := fun h ↦ hne (String.toList_inj.mp h)
  rw [openingAt?, hdrop]
  obtain hnone | ⟨c, more, hsome, hc⟩ :=
    dropExact?_of_isAlphanum htag.isAlphanum hname.isAlphanum hlists rest
  · rw [hnone]
  · have hgt : c ≠ '>' := fun h ↦ absurd hc (h ▸ by decide)
    simp [hsome, isBlank_of_isAlphanum hc]

/-! ## Searching -/

theorem afterOpening?_cons {tag : List Char} {c : Char} {rest : List Char}
    (h : openingAt? tag (c :: rest) = none) :
    afterOpening? tag (c :: rest) = afterOpening? tag rest := by
  rw [afterOpening?, h]

theorem afterOpening?_append {tag cs : List Char} (h : '<' ∉ cs) (rest : List Char) :
    afterOpening? tag (cs ++ rest) = afterOpening? tag rest := by
  induction cs with
  | nil => rfl
  | cons c cs ih =>
    rw [List.mem_cons, not_or] at h
    rw [List.cons_append, afterOpening?_cons (openingAt?_of_ne_lt (Ne.symm h.1) _), ih h.2]

theorem lt_notMem_of_isTagName {tag : String} (h : IsTagName tag) : '<' ∉ tag.toList :=
  fun hlt ↦ absurd (h.isAlphanum '<' hlt) (by decide)

section

variable {tag name : String} (htag : IsTagName tag) (hname : IsTagName name)

include htag

theorem afterOpening?_of_not_isAlphanum {c : Char} (hc : c.isAlphanum = false) {cs : List Char}
    (hcs : '<' ∉ c :: cs) (rest : List Char) :
    afterOpening? tag.toList ('<' :: c :: (cs ++ rest)) = afterOpening? tag.toList rest := by
  rw [afterOpening?_cons (openingAt?_of_not_isAlphanum htag hc _)]
  exact afterOpening?_append hcs rest

theorem afterOpening?_declaration (rest : List Char) :
    afterOpening? tag.toList (Document.declaration.toList ++ rest) =
      afterOpening? tag.toList rest := by
  have hdeclaration : Document.declaration.toList =
      '<' :: '?' :: "xml version=\"1.0\" encoding=\"UTF-8\"?>".toList := by decide
  rw [hdeclaration]
  exact afterOpening?_of_not_isAlphanum htag (by decide) (by decide) rest

include hname

theorem afterOpening?_renderClosing (rest : List Char) :
    afterOpening? tag.toList (Document.renderClosing name.toList ++ rest) =
      afterOpening? tag.toList rest := by
  have hplain : '<' ∉ '/' :: (name.toList ++ ['>']) := by
    simpa using lt_notMem_of_isTagName hname
  exact afterOpening?_of_not_isAlphanum htag (by decide) hplain rest

theorem afterOpening?_renderOpening_of_ne (hne : name ≠ tag) (rest : List Char) :
    afterOpening? tag.toList (Document.renderOpening name.toList ++ rest) =
      afterOpening? tag.toList rest := by
  have hplain : '<' ∉ name.toList ++ ['>'] := by simpa using lt_notMem_of_isTagName hname
  have hno := openingAt?_renderOpening_of_ne htag hname hne rest
  rw [Document.renderOpening, List.cons_append] at hno ⊢
  rw [afterOpening?_cons hno, afterOpening?_append hplain]

/-- A field of another tag is passed over. -/
theorem afterOpening?_renderField_of_ne (value : String) (hne : name ≠ tag) (rest : List Char) :
    afterOpening? tag.toList (Document.renderField (name, value) ++ rest) =
      afterOpening? tag.toList rest := by
  rw [Document.renderField, List.append_assoc, List.append_assoc,
    afterOpening?_renderOpening_of_ne htag hname hne,
    afterOpening?_append (lt_notMem_escapeChars _), afterOpening?_renderClosing htag hname]

end

theorem afterOpening?_renderField (tag value : String) (rest : List Char) :
    afterOpening? tag.toList (Document.renderField (tag, value) ++ rest) =
      some (escapeChars value.toList ++ (Document.renderClosing tag.toList ++ rest)) := by
  have hopening := openingAt?_renderOpening tag.toList
    (escapeChars value.toList ++ (Document.renderClosing tag.toList ++ rest))
  rw [Document.renderField, List.append_assoc, List.append_assoc]
  rw [Document.renderOpening, List.cons_append] at hopening ⊢
  rw [afterOpening?, hopening]

theorem closesAt_renderClosing (tag rest : List Char) :
    closesAt tag (Document.renderClosing tag ++ rest) = true := by
  have hdrop : dropExact? ('<' :: '/' :: tag) (Document.renderClosing tag ++ rest) =
      some ('>' :: rest) := dropExact?_eq_some_iff.mpr (by simp [Document.renderClosing])
  have hgt : isBlank '>' = false := by decide
  simp [closesAt, hdrop, hgt]

theorem untilClosing?_renderClosing (tag rest : List Char) :
    untilClosing? tag (Document.renderClosing tag ++ rest) = some [] := by
  have hcloses := closesAt_renderClosing tag rest
  rw [Document.renderClosing, List.cons_append] at hcloses ⊢
  rw [untilClosing?, if_pos hcloses]

/-- A text without angle brackets is passed over up to the closing after it. -/
theorem untilClosing?_append {tag cs : List Char} (h : '<' ∉ cs) (rest : List Char) :
    untilClosing? tag (cs ++ rest) = (untilClosing? tag rest).map (cs ++ ·) := by
  induction cs with
  | nil => simp
  | cons c cs ih =>
    rw [List.mem_cons, not_or] at h
    have hopen : closesAt tag (c :: (cs ++ rest)) = false := by
      simp [closesAt, dropExact?, h.1]
    rw [List.cons_append, untilClosing?, hopen, if_neg Bool.false_ne_true, ih h.2, Option.map_map]
    rfl

/-! ## Documents -/

/-- Past the fields nothing is opened. -/
theorem innerText?_fields {tag root : String} (htag : IsTagName tag) (hroot : IsTagName root)
    {fields : List (String × String)} (hfields : ∀ field ∈ fields, IsTagName field.1) :
    innerText? tag.toList
        (fields.flatMap Document.renderField ++ Document.renderClosing root.toList) =
      (fields.lookup tag).map fun value ↦ escapeChars value.toList := by
  induction fields with
  | nil =>
    have hnone : afterOpening? tag.toList (Document.renderClosing root.toList) = none := by
      have h := afterOpening?_renderClosing htag hroot []
      rwa [List.append_nil] at h
    simp [innerText?, hnone]
  | cons field fields ih =>
    obtain ⟨name, value⟩ := field
    have hname : IsTagName name := hfields _ List.mem_cons_self
    rw [List.flatMap_cons, List.append_assoc, innerText?]
    by_cases heq : name = tag
    · subst heq
      rw [afterOpening?_renderField, Option.bind_some,
        untilClosing?_append (lt_notMem_escapeChars _), untilClosing?_renderClosing]
      simp
    · rw [afterOpening?_renderField_of_ne htag hname value heq, ← innerText?,
        ih fun field hfield ↦ hfields field (List.mem_cons_of_mem _ hfield)]
      have hbeq : (tag == name) = false := by simpa using Ne.symm heq
      rw [List.lookup_cons, hbeq]

theorem Document.IsFlat.innerText?_render {document : Document} (h : document.IsFlat)
    {tag : String} (htag : document.IsFieldTag tag) :
    innerText? tag.toList document.renderChars =
      (document.fields.lookup tag).map fun value ↦ escapeChars value.toList := by
  rw [← innerText?_fields htag.1 h.root fun field hfield ↦ (h.fields field hfield).1]
  unfold innerText?
  rw [renderChars, List.append_assoc, List.append_assoc, afterOpening?_declaration htag.1,
    afterOpening?_renderOpening_of_ne htag.1 h.root (Ne.symm htag.2)]

/-- What is read of an inner text: what is left of it when it is trimmed, unescaped. -/
theorem extract?_eq (document tag : String) :
    extract? document tag =
      ((innerText? tag.toList document.toList).map String.ofList).bind fun inner ↦
        (content? inner).map unescape := by
  cases hinner : innerText? tag.toList document.toList with
  | none => simp [extract?, hinner]
  | some inner =>
    have htrim : trimEnd (trimStart inner) = (Text.trim (String.ofList inner)).toList := by
      rw [Text.trim, String.toList_ofList, String.toList_ofList]
    simp only [extract?, hinner, Option.bind_eq_bind, Option.bind_some, Option.map_some, htrim,
      List.isEmpty_iff, String.toList_eq_nil_iff, content?]
    split
    · rfl
    · rfl

theorem content?_escape (value : String) :
    (content? (escape value)).map unescape = content? value := by
  simp only [content?, trim_escape, escape_eq_empty_iff]
  split
  · rfl
  · rw [Option.map_some, unescape_escape]

/-- Escaped text is read as the text without the blanks at its ends. -/
theorem extract?_of_innerText? {document tag value : String}
    (h : innerText? tag.toList document.toList = some (escapeChars value.toList)) :
    extract? document tag = content? value := by
  rw [extract?_eq, h, Option.map_some, Option.bind_some, ← escape, content?_escape]

theorem Document.IsFlat.extract?_eq_lookup {document : Document} (h : document.IsFlat)
    {tag : String} (htag : document.IsFieldTag tag) :
    extract? document.render tag = (document.fields.lookup tag).bind content? := by
  have hinner := h.innerText?_render htag
  rw [← String.toList_ofList (l := document.renderChars), ← render] at hinner
  cases hlookup : document.fields.lookup tag with
  | none =>
    rw [hlookup, Option.map_none] at hinner
    simp [extract?, hinner]
  | some value =>
    rw [hlookup, Option.map_some] at hinner
    exact extract?_of_innerText? hinner

/-! ## Values of other tags -/

theorem Document.IsFlat.mapValues {document : Document} (h : document.IsFlat)
    (change : String → String → String) : (document.mapValues change).IsFlat where
  root := h.root
  fields field hfield := by
    obtain ⟨field, hmem, rfl⟩ := List.mem_map.mp hfield
    exact h.fields field hmem

theorem Document.lookup_mapValues (document : Document) (change : String → String → String)
    (tag : String) :
    (document.mapValues change).fields.lookup tag =
      (document.fields.lookup tag).map (change tag) := by
  unfold Document.mapValues
  induction document.fields with
  | nil => rfl
  | cons field fields ih =>
    obtain ⟨name, value⟩ := field
    by_cases heq : tag = name
    · simp [heq]
    · have hbeq : (tag == name) = false := by simpa using heq
      simp only [List.map_cons, List.lookup_cons, hbeq]
      exact ih

/-- **Reading undoes writing.** For a tag of a flat document the trimmed value of its first field is
read, or nothing when that value is blank or missing; changing the values of other tags in any way
changes nothing. -/
theorem extract?_render (document : Document) (h : document.IsFlat) (tag : String)
    (htag : document.IsFieldTag tag) :
    extract? document.render tag = (document.fields.lookup tag).bind content? ∧
      ∀ change : String → String → String, change tag = id →
        extract? (document.mapValues change).render tag = extract? document.render tag := by
  refine ⟨h.extract?_eq_lookup htag, fun change hchange ↦ ?_⟩
  rw [(h.mapValues change).extract?_eq_lookup htag, h.extract?_eq_lookup htag,
    document.lookup_mapValues, hchange, Option.map_id]
  rfl

/-- A tag that begins another one and is used twice, and a value that looks like markup. -/
theorem extract?_render_prefix :
    extract? (Document.render ⟨"R", [("AB", "</A><A>1</A>"), ("A", " &lt; "), ("A", "2")]⟩) "A" =
      some "&lt;" := by
  have hflat : Document.IsFlat ⟨"R", [("AB", "</A><A>1</A>"), ("A", " &lt; "), ("A", "2")]⟩ :=
    ⟨by decide, by decide⟩
  rw [(extract?_render _ hflat "A" (by decide)).1]
  decide

end MobileMoney.Markup
