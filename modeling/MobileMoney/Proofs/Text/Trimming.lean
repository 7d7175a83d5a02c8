import Mathlib.Data.List.TakeWhile
import MobileMoney.Text.Blank

/-!
# Trimmed texts

Trimming keeps a text that has no blank at either end, and gives such a text.  What it removes at
the end is blank.
-/

namespace MobileMoney.Text

/-- The printable characters of ASCII after the space are not blank. -/
theorem isBlank_of_printable {c : Char} (hlow : 33 ≤ c.toNat) (hhigh : c.toNat ≤ 126) :
    isBlank c = false := by
  simp only [isBlank, Bool.or_eq_false_iff, Bool.and_eq_false_iff, decide_eq_false_iff_not,
    beq_eq_false_iff_ne]
  omega

theorem trimStart_eq_self {cs : List Char} (h : ∀ c ∈ cs.head?, isBlank c = false) :
    trimStart cs = cs := by
  cases cs with
  | nil => rfl
  | cons c rest =>
    have hc : isBlank c = false := h c rfl
    simp [trimStart, hc]

theorem trimEnd_eq_self {cs : List Char} (h : ∀ c ∈ cs.getLast?, isBlank c = false) :
    trimEnd cs = cs := by
  rw [← List.head?_reverse] at h
  rw [trimEnd, ← trimStart, trimStart_eq_self h, List.reverse_reverse]

/-- A text with no blank at either end. -/
structure HasFullEnds (cs : List Char) : Prop where
  head : ∀ c ∈ cs.head?, isBlank c = false
  last : ∀ c ∈ cs.getLast?, isBlank c = false

theorem HasFullEnds.trim_eq_self {s : String} (h : HasFullEnds s.toList) : trim s = s := by
  rw [trim, trimStart_eq_self h.head, trimEnd_eq_self h.last, String.ofList_toList]

theorem trim_eq_self {s : String} (h : ∀ c ∈ s.toList, isBlank c = false) : trim s = s := by
  have hends : HasFullEnds s.toList :=
    ⟨fun c hc ↦ h c (List.mem_of_head? hc), fun c hc ↦ h c (List.mem_of_getLast? hc)⟩
  exact hends.trim_eq_self

/-! ## What is left and what is removed -/

theorem isBlank_of_mem_head?_trimStart (cs : List Char) :
    ∀ c ∈ (trimStart cs).head?, isBlank c = false := by
  intro c hc
  have h := List.head?_dropWhile_not isBlank cs
  rw [← trimStart, hc] at h
  exact h

theorem isBlank_of_mem_getLast?_trimEnd (cs : List Char) :
    ∀ c ∈ (trimEnd cs).getLast?, isBlank c = false := by
  intro c hc
  rw [trimEnd, List.getLast?_reverse] at hc
  exact isBlank_of_mem_head?_trimStart cs.reverse c hc

theorem exists_trimEnd_append (cs : List Char) :
    ∃ blanks, (∀ c ∈ blanks, isBlank c = true) ∧ cs = trimEnd cs ++ blanks := by
  refine ⟨(cs.reverse.takeWhile isBlank).reverse, ?_, ?_⟩
  · intro c hc
    exact List.all_eq_true.mp List.all_takeWhile c (List.mem_reverse.mp hc)
  · rw [trimEnd, ← List.reverse_append, List.takeWhile_append_dropWhile, List.reverse_reverse]

/-- A text is what is left of it between blanks. -/
theorem exists_trim_between (s : String) :
    ∃ before after, (∀ c ∈ before, isBlank c = true) ∧ (∀ c ∈ after, isBlank c = true) ∧
      s.toList = before ++ ((trim s).toList ++ after) := by
  obtain ⟨after, hafter, hsplit⟩ := exists_trimEnd_append (trimStart s.toList)
  refine ⟨s.toList.takeWhile isBlank, after, List.all_eq_true.mp List.all_takeWhile, hafter, ?_⟩
  rw [trim, String.toList_ofList, ← hsplit, trimStart, List.takeWhile_append_dropWhile]

theorem trimEnd_append_blanks {cs blanks : List Char} (h : ∀ c ∈ blanks, isBlank c = true) :
    trimEnd (cs ++ blanks) = trimEnd cs := by
  have hdrop : (blanks.reverse ++ cs.reverse).dropWhile isBlank = cs.reverse.dropWhile isBlank :=
    List.dropWhile_append_of_pos fun c hc ↦ h c (List.mem_reverse.mp hc)
  rw [trimEnd, List.reverse_append, hdrop, trimEnd]

theorem trimStart_blanks_append {blanks cs : List Char} (h : ∀ c ∈ blanks, isBlank c = true) :
    trimStart (blanks ++ cs) = trimStart cs :=
  List.dropWhile_append_of_pos h

/-- A text without blanks is what is left when it stands between blanks. -/
theorem trim_surrounded {before core after : List Char} (hbefore : ∀ c ∈ before, isBlank c = true)
    (hcore : ∀ c ∈ core, isBlank c = false) (hne : core ≠ [])
    (hafter : ∀ c ∈ after, isBlank c = true) :
    trim (String.ofList (before ++ (core ++ after))) = String.ofList core := by
  have hstart : trimStart (core ++ after) = core ++ after := by
    obtain ⟨c, rest, rfl⟩ := List.exists_cons_of_ne_nil hne
    apply trimStart_eq_self
    rintro _ ⟨⟩
    exact hcore c List.mem_cons_self
  have hend : trimEnd core = core :=
    trimEnd_eq_self fun c hc ↦ hcore c (List.mem_of_getLast? hc)
  rw [trim, String.toList_ofList, trimStart_blanks_append hbefore, hstart,
    trimEnd_append_blanks hafter, hend]

theorem hasFullEnds_trim (s : String) : HasFullEnds (trim s).toList := by
  rw [trim, String.toList_ofList]
  refine ⟨fun c hc ↦ ?_, isBlank_of_mem_getLast?_trimEnd _⟩
  obtain ⟨blanks, -, hsplit⟩ := exists_trimEnd_append (trimStart s.toList)
  apply isBlank_of_mem_head?_trimStart s.toList
  rw [hsplit, List.head?_append, hc]
  rfl

theorem trim_trim (s : String) : trim (trim s) = trim s :=
  (hasFullEnds_trim s).trim_eq_self

/-! ## Blank texts -/

/-- The trimmed text, unless nothing is left of it. -/
def content? (s : String) : Option String :=
  if trim s = "" then none else some (trim s)

/-- Nothing is left of a text exactly when it is blank. -/
theorem trim_eq_empty_iff {s : String} : trim s = "" ↔ isBlankText s = true := by
  rw [trim, String.ofList_eq_empty_iff, isBlankText, List.all_eq_true]
  constructor
  · intro hnil
    obtain ⟨blanks, hblanks, hsplit⟩ := exists_trimEnd_append (trimStart s.toList)
    rw [hnil, List.nil_append] at hsplit
    have hstart : trimStart s.toList = [] := by
      apply List.eq_nil_iff_forall_not_mem.mpr
      intro c hc
      obtain ⟨d, rest, hcons⟩ := List.exists_cons_of_ne_nil (List.ne_nil_of_mem hc)
      have hfull : isBlank d = false :=
        isBlank_of_mem_head?_trimStart s.toList d (by rw [hcons]; rfl)
      have hblank : isBlank d = true :=
        hblanks d (hsplit ▸ hcons ▸ List.mem_cons_self)
      rw [hfull] at hblank
      contradiction
    exact List.dropWhile_eq_nil_iff.mp hstart
  · intro hblank
    rw [trimStart, List.dropWhile_eq_nil_iff.mpr hblank]
    rfl

theorem nonBlank?_map_trim (s : String) : (nonBlank? s).map trim = content? s := by
  unfold nonBlank? content?
  by_cases h : isBlankText s = true
  · rw [if_pos h, if_pos (trim_eq_empty_iff.mpr h), Option.map_none]
  · rw [if_neg h, if_neg (mt trim_eq_empty_iff.mp h), Option.map_some]

theorem content?_trim (s : String) : content? (trim s) = content? s := by
  rw [content?, content?, trim_trim]

/-- Only texts that are not blank have a content. -/
theorem bind_content? (found : Option String) :
    found.bind content? = (found.filter (!isBlankText ·)).map trim := by
  cases found with
  | none => rfl
  | some s =>
    rw [Option.bind_some, ← nonBlank?_map_trim]
    cases h : isBlankText s <;> simp [nonBlank?, Option.filter, h]

theorem content?_of_not_blank {s : String} (h : isBlankText s = false) :
    content? s = some (trim s) := by
  rw [← nonBlank?_map_trim, nonBlank?, h]
  rfl

theorem content?_eq_none_iff {s : String} : content? s = none ↔ trim s = "" := by
  simp [content?]

theorem content?_eq_some_iff {s content : String} :
    content? s = some content ↔ trim s ≠ "" ∧ trim s = content := by
  simp [content?]

/-! ## Truncated texts -/

/-- A text that is cut off begins where it began. -/
theorem trim_truncate_ne_empty {limit : Nat} {s : String} (h : truncate limit s ≠ "") :
    trim (truncate limit s) ≠ "" := by
  intro htrim
  have hblank := List.all_eq_true.mp (trim_eq_empty_iff.mp htrim)
  have hne : (truncate limit s).toList ≠ [] := fun hnil ↦ h (String.toList_eq_nil_iff.mp hnil)
  obtain ⟨c, rest, hcons⟩ := List.exists_cons_of_ne_nil hne
  have hfull : isBlank c = false := by
    apply (hasFullEnds_trim s).head
    rw [truncate, String.toList_ofList] at hcons
    have hlimit : limit ≠ 0 := by
      intro hzero
      simp [hzero] at hcons
    have htake := congrArg List.head? hcons
    rwa [List.head?_take, if_neg hlimit] at htake
  have hc := hblank c (hcons ▸ List.mem_cons_self)
  rw [hfull] at hc
  contradiction

/-- A text that is not cut off has no blanks at its ends. -/
theorem trim_truncate_of_length_le {limit : Nat} {s : String} (h : (trim s).length ≤ limit) :
    trim (truncate limit s) = truncate limit s := by
  have hself : truncate limit s = trim s := by
    rw [truncate, List.take_of_length_le (by rwa [String.length_toList]), String.ofList_toList]
  rw [hself, trim_trim]

/-- A text that has something to show. -/
def HasContent (s : String) : Prop :=
  ∃ c ∈ s.toList, isBlank c = false

/-- The beginning of a trimmed text, as much of it as the limit admits. -/
structure IsCut (limit : Nat) (source sent : String) : Prop where
  begins : sent.toList <+: (trim source).toList
  length_le : sent.length ≤ limit
  whole : sent.length < limit → sent = trim source

theorem isCut_truncate (limit : Nat) (source : String) :
    IsCut limit source (truncate limit source) where
  begins := by
    rw [truncate, String.toList_ofList]
    exact List.take_prefix _ _
  length_le := by
    rw [truncate, String.length_ofList, List.length_take]
    exact Nat.min_le_left _ _
  whole hlength := by
    rw [truncate, String.length_ofList, List.length_take] at hlength
    rw [truncate, List.take_of_length_le (by omega), String.ofList_toList]

theorem hasContent_iff {s : String} : HasContent s ↔ trim s ≠ "" := by
  rw [ne_eq, trim_eq_empty_iff, isBlankText, List.all_eq_true]
  simp [HasContent]

theorem truncate_ne_empty_iff {limit : Nat} {s : String} :
    truncate limit s ≠ "" ↔ 0 < limit ∧ HasContent s := by
  rw [hasContent_iff, truncate, ne_eq, String.ofList_eq_empty_iff, List.take_eq_nil_iff, not_or,
    String.toList_eq_nil_iff, Nat.pos_iff_ne_zero]

end MobileMoney.Text
