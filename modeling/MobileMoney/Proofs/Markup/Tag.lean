import MobileMoney.Proofs.Markup.Element

/-!
# Tags

What the reader takes for a tag: the opening with or without attributes, and the closing with or
without blanks before its end.  Every tag begins with one angle bracket and ends with the other.  So
no tag begins or ends in a text that has neither, and escaped texts are such texts: wherever one is
put, a tag lies before it, after it or around all of it, and a search that comes to it goes on
behind it.
-/

namespace MobileMoney.Markup

open Text

/-- The openings of a tag: after its name comes the end, or a blank and anything up to the end. -/
inductive IsOpening (tag : List Char) : List Char → Prop
  | bare : IsOpening tag (Document.renderOpening tag)
  | withAttributes (blank : Char) (inner : List Char) : isBlank blank = true → '>' ∉ inner →
      IsOpening tag ('<' :: (tag ++ blank :: (inner ++ ['>'])))

/-- The closings of a tag: after its name come blanks and the end. -/
inductive IsClosing (tag : List Char) : List Char → Prop
  | padded (blanks : List Char) : (∀ c ∈ blanks, isBlank c = true) →
      IsClosing tag ('<' :: '/' :: (tag ++ (blanks ++ ['>'])))

theorem IsOpening.exists_inner {tag mark : List Char} (h : IsOpening tag mark) :
    ∃ inner, mark = '<' :: (inner ++ ['>']) := by
  cases h with
  | bare => exact ⟨tag, rfl⟩
  | withAttributes blank inner => exact ⟨tag ++ blank :: inner, by simp⟩

theorem IsClosing.exists_inner {tag mark : List Char} (h : IsClosing tag mark) :
    ∃ inner, mark = '<' :: (inner ++ ['>']) := by
  cases h with
  | padded blanks => exact ⟨'/' :: (tag ++ blanks), by simp⟩

/-! ## What the reader finds -/

/-- What is left begins where the test fails for the first time. -/
theorem dropWhile_eq_cons_iff {p : Char → Bool} {c : Char} {cs rest : List Char} :
    cs.dropWhile p = c :: rest ↔
      p c = false ∧ ∃ before, (∀ d ∈ before, p d = true) ∧ cs = before ++ c :: rest := by
  constructor
  · intro h
    have hc := List.head?_dropWhile_not p cs
    rw [h] at hc
    refine ⟨hc, cs.takeWhile p, fun d hd ↦ List.mem_takeWhile_imp hd, ?_⟩
    rw [← h, List.takeWhile_append_dropWhile]
  · rintro ⟨hc, before, hbefore, rfl⟩
    rw [List.dropWhile_append_of_pos hbefore, List.dropWhile_cons_of_neg (by simp [hc])]

theorem IsOpening.openingAt?_append {tag mark : List Char} (h : IsOpening tag mark)
    (rest : List Char) : openingAt? tag (mark ++ rest) = some rest := by
  cases h with
  | bare => exact openingAt?_renderOpening tag rest
  | withAttributes blank inner hblank hinner =>
    have hdrop : dropExact? ('<' :: tag) ('<' :: (tag ++ blank :: (inner ++ ['>'])) ++ rest) =
        some (blank :: (inner ++ '>' :: rest)) := dropExact?_eq_some_iff.mpr (by simp)
    have hgt : blank ≠ '>' := by
      rintro rfl
      exact absurd hblank (by decide)
    have hplain : ∀ d ∈ inner, decide (d ≠ '>') = true := by
      simpa using List.forall_mem_ne'.mpr hinner
    have hwhile : (inner ++ '>' :: rest).dropWhile (· ≠ '>') = '>' :: rest :=
      dropWhile_eq_cons_iff.mpr ⟨by simp, inner, hplain, rfl⟩
    simp only [openingAt?, hdrop, hblank, hwhile, if_true]

theorem exists_isOpening {tag cs rest : List Char} (h : openingAt? tag cs = some rest) :
    ∃ mark, IsOpening tag mark ∧ cs = mark ++ rest := by
  unfold openingAt? at h
  split at h
  · next more hdrop =>
    obtain rfl := Option.some.inj h
    refine ⟨_, .bare, ?_⟩
    rw [dropExact?_eq_some_iff.mp hdrop]
    simp [Document.renderOpening]
  · next blank more _ hdrop =>
    split at h
    · next hblank =>
      split at h
      · next d after hwhile =>
        obtain rfl := Option.some.inj h
        obtain ⟨hd, inner, hinner, rfl⟩ := dropWhile_eq_cons_iff.mp hwhile
        obtain rfl : d = '>' := by simpa using hd
        have hplain : '>' ∉ inner := List.forall_mem_ne'.mp (by simpa using hinner)
        refine ⟨_, .withAttributes blank inner hblank hplain, ?_⟩
        rw [dropExact?_eq_some_iff.mp hdrop]
        simp
      · contradiction
    · contradiction
  · contradiction

/-- The reader finds an opening where a text begins with one, and goes on after it. -/
theorem openingAt?_eq_some_iff {tag cs rest : List Char} :
    openingAt? tag cs = some rest ↔ ∃ mark, IsOpening tag mark ∧ cs = mark ++ rest := by
  refine ⟨exists_isOpening, ?_⟩
  rintro ⟨mark, hmark, rfl⟩
  exact hmark.openingAt?_append rest

theorem closesAt_iff {tag cs : List Char} :
    closesAt tag cs = true ↔ ∃ mark rest, IsClosing tag mark ∧ cs = mark ++ rest := by
  constructor
  · intro h
    unfold closesAt at h
    split at h
    · next more hdrop =>
      obtain ⟨rest, hwhile⟩ := List.head?_eq_some_iff.mp (eq_of_beq h)
      obtain ⟨-, blanks, hblanks, rfl⟩ := dropWhile_eq_cons_iff.mp hwhile
      refine ⟨_, rest, .padded blanks hblanks, ?_⟩
      rw [dropExact?_eq_some_iff.mp hdrop]
      simp
    · contradiction
  · rintro ⟨mark, rest, ⟨blanks, hblanks⟩, rfl⟩
    have hdrop : dropExact? ('<' :: '/' :: tag)
        ('<' :: '/' :: (tag ++ (blanks ++ ['>'])) ++ rest) = some (blanks ++ '>' :: rest) :=
      dropExact?_eq_some_iff.mpr (by simp)
    have hwhile : (blanks ++ '>' :: rest).dropWhile isBlank = '>' :: rest :=
      dropWhile_eq_cons_iff.mpr ⟨by decide, blanks, hblanks, rfl⟩
    simp only [closesAt, hdrop, hwhile]
    rfl

/-! ## Texts that no tag begins or ends in -/

/-- Where a mark lies in `before ++ text ++ after` that follows `left` there: before the text, after
it, or from before the text to after it. -/
def LiesApart (text mark before left : List Char) : Prop :=
  (∃ between, before = left ++ mark ++ between) ∨ (∃ between, left = before ++ text ++ between) ∨
    ∃ head tail, head ≠ [] ∧ tail ≠ [] ∧ mark = head ++ text ++ tail ∧ before = left ++ head

/-- Wherever the text is put, the tags that the reader finds lie apart from it, and a search that
comes to it goes on behind it. -/
structure IsInert (text : List Char) : Prop where
  opening : ∀ tag before after left rest right, left ++ rest = before ++ text ++ after →
    openingAt? tag rest = some right →
      ∃ mark, IsOpening tag mark ∧ rest = mark ++ right ∧ LiesApart text mark before left
  closing : ∀ tag before after left rest, left ++ rest = before ++ text ++ after →
    closesAt tag rest = true →
      ∃ mark right, IsClosing tag mark ∧ rest = mark ++ right ∧ LiesApart text mark before left
  afterOpening : ∀ tag rest, afterOpening? tag (text ++ rest) = afterOpening? tag rest
  untilClosing : ∀ tag rest,
    untilClosing? tag (text ++ rest) = (untilClosing? tag rest).map (text ++ ·)

section

variable {c : Char} {text left rest after : List Char} (hc : c ∉ text)

include hc

theorem exists_after_of_notMem (h : left ++ c :: rest = text ++ after) :
    ∃ between, left = text ++ between ∧ after = between ++ c :: rest := by
  rcases List.append_eq_append_iff.mp h with ⟨more, htext, hrest⟩ | hafter
  · cases more with
    | nil => exact ⟨[], by simpa using htext.symm, by simpa using hrest.symm⟩
    | cons d more =>
      obtain ⟨rfl, -⟩ := List.cons.inj hrest
      exact absurd (htext ▸ List.mem_append_right left List.mem_cons_self) hc
  · exact hafter

/-- A character that a text lacks lies before the text or after it. -/
theorem before_or_after_of_notMem {before : List Char}
    (h : left ++ c :: rest = before ++ (text ++ after)) :
    (∃ more, before = left ++ c :: more ∧ rest = more ++ (text ++ after)) ∨
      ∃ between, left = before ++ (text ++ between) ∧ after = between ++ c :: rest := by
  rcases List.append_eq_append_iff.mp h with ⟨more, hbefore, hrest⟩ | ⟨more, hleft, hafter⟩
  · cases more with
    | nil =>
      have hstart : [] ++ c :: rest = text ++ after := hrest
      obtain ⟨between, hnil, hafter⟩ := exists_after_of_notMem hc hstart
      exact .inr ⟨between, by simp [← hnil, hbefore], hafter⟩
    | cons d more =>
      obtain ⟨rfl, hmore⟩ := List.cons.inj hrest
      exact .inl ⟨more, hbefore, hmore⟩
  · obtain ⟨between, hmore, hafter⟩ := exists_after_of_notMem hc hafter.symm
    exact .inr ⟨between, by rw [hleft, hmore], hafter⟩

end

/-- Both brackets of a mark are outside of a text that has none. -/
theorem liesApart_of_notMem {text inner before after left right : List Char} (hlt : '<' ∉ text)
    (hgt : '>' ∉ text)
    (h : left ++ ('<' :: (inner ++ ['>']) ++ right) = before ++ text ++ after) :
    LiesApart text ('<' :: (inner ++ ['>'])) before left := by
  have hfirst : left ++ '<' :: (inner ++ '>' :: right) = before ++ (text ++ after) := by
    simpa using h
  rcases before_or_after_of_notMem hlt hfirst with ⟨head, hbefore, hlast⟩ | ⟨between, hleft, -⟩
  · -- The mark begins before the text; the other bracket says where it ends.
    rcases before_or_after_of_notMem hgt hlast with ⟨between, hhead, -⟩ | ⟨tail, hinner, -⟩
    · exact .inl ⟨between, by simp [hbefore, hhead]⟩
    · exact .inr (.inr ⟨'<' :: head, tail ++ ['>'], by simp, by simp, by simp [hinner], hbefore⟩)
  · exact .inr (.inl ⟨between, by simp [hleft]⟩)

theorem isInert_of_notMem {text : List Char} (hlt : '<' ∉ text) (hgt : '>' ∉ text) :
    IsInert text where
  opening tag before after left rest right h hopening := by
    obtain ⟨mark, hmark, rfl⟩ := openingAt?_eq_some_iff.mp hopening
    obtain ⟨inner, rfl⟩ := hmark.exists_inner
    exact ⟨_, hmark, rfl, liesApart_of_notMem hlt hgt h⟩
  closing tag before after left rest h hcloses := by
    obtain ⟨mark, right, hmark, rfl⟩ := closesAt_iff.mp hcloses
    obtain ⟨inner, rfl⟩ := hmark.exists_inner
    exact ⟨_, right, hmark, rfl, liesApart_of_notMem hlt hgt h⟩
  afterOpening tag rest := afterOpening?_append hlt rest
  untilClosing tag rest := untilClosing?_append hlt rest

theorem IsEscaped.isInert {text : List Char} (h : IsEscaped text) : IsInert text :=
  isInert_of_notMem (h.plain '<' (by decide)) (h.plain '>' (by decide))

/-- **Escaping is undone exactly, and what is escaped is no markup.**  Unescaping gives every text
back, whatever entities it has already, so two texts are never escaped to the same.  An escaped text
has no brackets and no quotes, and each of its ampersands begins one of the five entities; wherever
it is put, no tag begins or ends in it.  Every text of this form is what some text is escaped to. -/
theorem escaping_is_faithful :
    (∀ s, unescape (escape s) = s) ∧ Function.Injective escape ∧
      (∀ s, IsEscaped (escape s).toList ∧ IsInert (escape s).toList) ∧
      ∀ t : String, IsEscaped t.toList ↔ ∃ s, escape s = t := by
  refine ⟨unescape_escape, Function.LeftInverse.injective unescape_escape, fun s ↦ ?_,
    fun _ ↦ isEscaped_iff⟩
  have hform : IsEscaped (escape s).toList := isEscaped_iff.mpr ⟨s, rfl⟩
  exact ⟨hform, hform.isInert⟩

/-- An entity is escaped like any text, and what unescaping gives is not read again. -/
example : escape "&amp;lt;" = "&amp;amp;lt;" ∧ unescape "&amp;lt;" = "&lt;" := by decide

end MobileMoney.Markup
