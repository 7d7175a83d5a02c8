import MobileMoney.Markup.Escape
import MobileMoney.Proofs.Text.Trimming

/-!
# Escaped texts

The five replacements undo escaping: each of them restores one character and leaves the entities of
the others alone, because an ampersand stands at the beginning of an entity and nowhere else.  The
escaped texts are those without brackets and quotes in which every ampersand begins an entity, and
trimming can be done before or after escaping.
-/

namespace MobileMoney.Markup

open Text

/-- The characters with an entity, in the order in which they are restored. -/
def specials : List Char := ['<', '>', '"', '\'', '&']

/-- Only the given characters are written as entities. -/
def escapeOnly (chosen cs : List Char) : List Char :=
  cs.flatMap fun c ↦ if c ∈ chosen then entityOf c else [c]

theorem entityOf_of_notMem {c : Char} (h : c ∉ specials) : entityOf c = [c] := by
  simp only [specials, List.mem_cons, List.not_mem_nil, or_false, not_or] at h
  obtain ⟨hlt, hgt, hquot, hapos, hamp⟩ := h
  unfold entityOf
  split <;> first | contradiction | rfl

theorem escapeOnly_specials (cs : List Char) : escapeOnly specials cs = escapeChars cs := by
  have hentity : (fun c ↦ if c ∈ specials then entityOf c else [c]) = entityOf := by
    funext c
    by_cases h : c ∈ specials
    · rw [if_pos h]
    · rw [if_neg h, entityOf_of_notMem h]
  rw [escapeOnly, escapeChars, hentity]

theorem escapeOnly_nil (cs : List Char) : escapeOnly [] cs = cs := by
  simp [escapeOnly]

theorem escapeChars_cons (c : Char) (cs : List Char) :
    escapeChars (c :: cs) = entityOf c ++ escapeChars cs :=
  List.flatMap_cons

theorem escapeChars_eq_self {cs : List Char} (h : ∀ c ∈ cs, c ∉ specials) :
    escapeChars cs = cs := by
  induction cs with
  | nil => rfl
  | cons c rest ih =>
    rw [List.forall_mem_cons] at h
    rw [escapeChars_cons, entityOf_of_notMem h.1, ih h.2]
    rfl

/-! ## Restoring one character -/

theorem replaceFrom_eq_drop (pattern replacement : List Char) (skip : Nat) (cs : List Char) :
    replaceFrom pattern replacement skip cs =
      replaceFrom pattern replacement 0 (cs.drop skip) := by
  induction cs generalizing skip with
  | nil => cases skip <;> rfl
  | cons c rest ih =>
    cases skip with
    | zero => rfl
    | succ skip => exact ih skip

theorem entityOf_ne_nil (c : Char) : entityOf c ≠ [] := by
  unfold entityOf
  split <;> exact List.cons_ne_nil _ _

theorem restore_entityOf_append (c : Char) (rest : List Char) :
    restore c (entityOf c ++ rest) = c :: restore c rest := by
  obtain ⟨a, as, hentity⟩ := List.exists_cons_of_ne_nil (entityOf_ne_nil c)
  have hprefix : (a :: as).isPrefixOf (a :: (as ++ rest)) = true :=
    List.isPrefixOf_iff_prefix.mpr ⟨rest, rfl⟩
  rw [restore, hentity, List.cons_append, replaceFrom, if_pos hprefix, replaceFrom_eq_drop]
  simp [restore, hentity]

/-- An entity is not part of a text where the ampersand does not begin one. -/
theorem restore_cons_of_ne_amp {c d : Char} (hc : c ∈ specials) (hd : d ≠ '&')
    (rest : List Char) : restore c (d :: rest) = d :: restore c rest := by
  have hno : (entityOf c).isPrefixOf (d :: rest) = false := by
    simp only [specials, List.mem_cons, List.not_mem_nil, or_false] at hc
    rcases hc with rfl | rfl | rfl | rfl | rfl <;> simp [entityOf, List.isPrefixOf, hd.symm]
  rw [restore, replaceFrom, hno, if_neg Bool.false_ne_true, restore]

theorem restore_entityOf_append_of_ne {c d : Char} (hc : c ∈ specials) (hd : d ∈ specials)
    (hne : c ≠ d) (rest : List Char) :
    restore c (entityOf d ++ rest) = entityOf d ++ restore c rest := by
  simp only [specials, List.mem_cons, List.not_mem_nil, or_false] at hc hd
  rcases hc with rfl | rfl | rfl | rfl | rfl <;> rcases hd with rfl | rfl | rfl | rfl | rfl <;>
    first
    | contradiction
    | simp [restore, entityOf, replaceFrom, List.isPrefixOf]

/-- Restoring a character leaves the others escaped. -/
theorem restore_escapeOnly {c : Char} {others : List Char}
    (hspecial : c :: others ⊆ specials) (hamp : '&' ∈ c :: others) (hc : c ∉ others)
    (cs : List Char) : restore c (escapeOnly (c :: others) cs) = escapeOnly others cs := by
  have hcspecial : c ∈ specials := hspecial List.mem_cons_self
  induction cs with
  | nil => rfl
  | cons d rest ih =>
    have hcons (chosen : List Char) : escapeOnly chosen (d :: rest) =
        (if d ∈ chosen then entityOf d else [d]) ++ escapeOnly chosen rest := rfl
    rw [hcons, hcons]
    by_cases heq : d = c
    · subst heq
      rw [if_pos List.mem_cons_self, if_neg hc, restore_entityOf_append, ih]
      rfl
    · by_cases hmem : d ∈ others
      · have hd : d ∈ specials := hspecial (List.mem_cons_of_mem _ hmem)
        rw [if_pos (List.mem_cons_of_mem _ hmem), if_pos hmem,
          restore_entityOf_append_of_ne hcspecial hd (Ne.symm heq), ih]
      · -- An ampersand would have its entity, so this character begins no entity.
        have hplain : d ∉ c :: others := by simp [heq, hmem]
        have hne : d ≠ '&' := fun h ↦ hplain (h ▸ hamp)
        rw [if_neg hplain, if_neg hmem, List.singleton_append, List.singleton_append,
          restore_cons_of_ne_amp hcspecial hne, ih]

theorem unescapeChars_escapeChars (cs : List Char) : unescapeChars (escapeChars cs) = cs := by
  rw [← escapeOnly_specials, unescapeChars, specials]
  -- The ampersand is restored last: every other entity begins with one.
  rw [restore_escapeOnly (by decide) (by decide) (by decide),
    restore_escapeOnly (by decide) (by decide) (by decide),
    restore_escapeOnly (by decide) (by decide) (by decide),
    restore_escapeOnly (by decide) (by decide) (by decide),
    restore_escapeOnly (by decide) (by decide) (by decide), escapeOnly_nil]

/-! ## The form of escaped texts -/

/-- The special characters that are nowhere in an escaped text. -/
def delimiters : List Char := ['<', '>', '"', '\'']

def entities : List (List Char) :=
  ["&lt;".toList, "&gt;".toList, "&quot;".toList, "&apos;".toList, "&amp;".toList]

/-- A text without brackets and quotes in which every ampersand begins an entity. -/
structure IsEscaped (cs : List Char) : Prop where
  plain : ∀ c ∈ delimiters, c ∉ cs
  entity : ∀ rest, '&' :: rest <:+ cs → ∃ entity ∈ entities, entity <+: '&' :: rest

theorem mem_specials_iff {c : Char} : c ∈ specials ↔ c ∈ delimiters ∨ c = '&' := by
  have hsplit : specials = delimiters ++ ['&'] := rfl
  rw [hsplit, List.mem_append, List.mem_singleton]

theorem mem_entities_iff {entity : List Char} :
    entity ∈ entities ↔ ∃ c ∈ specials, entityOf c = entity := by
  have hentities : entities = specials.map entityOf := by decide
  rw [hentities, List.mem_map]

/-- An ampersand stands at the beginning of an entity and nowhere else. -/
theorem exists_entityOf {c : Char} (h : c ∈ specials) :
    ∃ name, entityOf c = '&' :: name ∧ '&' ∉ name := by
  simp only [specials, List.mem_cons, List.not_mem_nil, or_false] at h
  rcases h with rfl | rfl | rfl | rfl | rfl <;> exact ⟨_, rfl, by decide⟩

theorem notMem_entityOf {d : Char} (hd : d ∈ delimiters) (c : Char) : d ∉ entityOf c := by
  have hspecials : specials.all (fun c ↦ delimiters.all (· ∉ entityOf c)) = true := by decide
  by_cases hc : c ∈ specials
  · simpa using List.all_eq_true.mp (List.all_eq_true.mp hspecials c hc) d hd
  · rw [entityOf_of_notMem hc, List.mem_singleton]
    exact fun h ↦ hc (mem_specials_iff.mpr (.inl (h ▸ hd)))

theorem suffix_of_notMem {c : Char} {cs ds rest : List Char} (hc : c ∉ cs)
    (h : c :: rest <:+ cs ++ ds) : c :: rest <:+ ds := by
  induction cs with
  | nil => exact h
  | cons a as ih =>
    rw [List.mem_cons, not_or] at hc
    rcases List.suffix_cons_iff.mp h with heq | hsuffix
    · exact absurd (List.cons.inj heq).1 hc.1
    · exact ih hc.2 hsuffix

theorem isEscaped_escapeChars (cs : List Char) : IsEscaped (escapeChars cs) where
  plain d hd hmem := by
    obtain ⟨c, -, hc⟩ := List.mem_flatMap.mp hmem
    exact notMem_entityOf hd c hc
  entity rest hrest := by
    induction cs with
    | nil => simp [escapeChars] at hrest
    | cons c cs ih =>
      rw [escapeChars_cons] at hrest
      by_cases hc : c ∈ specials
      · obtain ⟨name, hentity, hname⟩ := exists_entityOf hc
        rw [hentity, List.cons_append] at hrest
        rcases List.suffix_cons_iff.mp hrest with hwhole | hlater
        · refine ⟨entityOf c, mem_entities_iff.mpr ⟨c, hc, rfl⟩, escapeChars cs, ?_⟩
          rw [hentity, List.cons_append, hwhole]
        · exact ih (suffix_of_notMem hname hlater)
      · have hamp : '&' ∉ [c] := by
          rw [List.mem_singleton]
          exact fun h ↦ hc (mem_specials_iff.mpr (.inr h.symm))
        rw [entityOf_of_notMem hc] at hrest
        exact ih (suffix_of_notMem hamp hrest)

theorem IsEscaped.of_suffix {cs ds : List Char} (h : IsEscaped cs) (hds : ds <:+ cs) :
    IsEscaped ds where
  plain c hc hmem := h.plain c hc (hds.mem hmem)
  entity rest hrest := h.entity rest (hrest.trans hds)

/-- A text of this form is read one entity or one plain character at a time. -/
theorem IsEscaped.exists_escapeChars {cs : List Char} (h : IsEscaped cs) :
    ∃ ds, escapeChars ds = cs := by
  -- On the length, as an entity is several characters long.
  induction hlength : cs.length using Nat.strongRecOn generalizing cs with
  | ind n ih =>
    subst hlength
    cases cs with
    | nil => exact ⟨[], rfl⟩
    | cons c rest =>
      by_cases hamp : c = '&'
      · subst hamp
        obtain ⟨entity, hentity, more, hmore⟩ := h.entity rest (List.suffix_refl _)
        obtain ⟨d, -, rfl⟩ := mem_entities_iff.mp hentity
        have hshorter : more.length < ('&' :: rest).length := by
          rw [← hmore, List.length_append]
          exact Nat.lt_add_of_pos_left (List.length_pos_iff.mpr (entityOf_ne_nil d))
        obtain ⟨ds, hds⟩ := ih _ hshorter (h.of_suffix ⟨entityOf d, hmore⟩) rfl
        exact ⟨d :: ds, by rw [escapeChars_cons, hds, hmore]⟩
      · have hc : c ∉ specials := by
          rw [mem_specials_iff, not_or]
          exact ⟨fun hc ↦ h.plain c hc List.mem_cons_self, hamp⟩
        obtain ⟨ds, hds⟩ := ih rest.length (Nat.lt_succ_self _)
          (h.of_suffix (List.suffix_cons c rest)) rfl
        refine ⟨c :: ds, ?_⟩
        rw [escapeChars_cons, entityOf_of_notMem hc, hds]
        rfl

/-- Escaped texts have this form, and no other texts have it. -/
theorem isEscaped_iff {t : String} : IsEscaped t.toList ↔ ∃ s, escape s = t := by
  constructor
  · intro h
    obtain ⟨ds, hds⟩ := h.exists_escapeChars
    refine ⟨String.ofList ds, ?_⟩
    rw [escape, String.toList_ofList, hds, String.ofList_toList]
  · rintro ⟨s, rfl⟩
    rw [escape, String.toList_ofList]
    exact isEscaped_escapeChars s.toList

theorem lt_notMem_escapeChars (cs : List Char) : '<' ∉ escapeChars cs :=
  (isEscaped_escapeChars cs).plain '<' List.mem_cons_self

/-! ## Trimming -/

theorem isBlank_of_mem_specials {c : Char} (h : c ∈ specials) : isBlank c = false := by
  have hspecials : specials.all (!isBlank ·) = true := by decide
  simpa using List.all_eq_true.mp hspecials c h

theorem entityOf_of_isBlank {c : Char} (h : isBlank c = true) : entityOf c = [c] := by
  apply entityOf_of_notMem
  intro hc
  rw [isBlank_of_mem_specials hc] at h
  contradiction

theorem escapeChars_blanks {cs : List Char} (h : ∀ c ∈ cs, isBlank c = true) :
    escapeChars cs = cs := by
  have hmap : cs.map entityOf = cs.map fun c ↦ [c] :=
    List.map_congr_left fun c hc ↦ entityOf_of_isBlank (h c hc)
  rw [escapeChars, List.flatMap_def, hmap, ← List.flatMap_def, List.flatMap_singleton']

theorem isBlank_of_mem_entityOf {c : Char} (h : isBlank c = false) :
    ∀ d ∈ entityOf c, isBlank d = false := by
  have hspecials : specials.all (fun c ↦ (entityOf c).all (!isBlank ·)) = true := by decide
  by_cases hc : c ∈ specials
  · simpa using List.all_eq_true.mp hspecials c hc
  · rw [entityOf_of_notMem hc]
    simpa using h

theorem escapeChars_append (cs ds : List Char) :
    escapeChars (cs ++ ds) = escapeChars cs ++ escapeChars ds :=
  List.flatMap_append

theorem trimStart_escapeChars (cs : List Char) :
    trimStart (escapeChars cs) = escapeChars (trimStart cs) := by
  induction cs with
  | nil => rfl
  | cons c rest ih =>
    cases hc : isBlank c with
    | true =>
      have hentity : escapeChars (c :: rest) = c :: escapeChars rest := by
        rw [escapeChars_cons, entityOf_of_isBlank hc]
        rfl
      simpa [hentity, trimStart, hc] using ih
    | false =>
      have hself : trimStart (c :: rest) = c :: rest := trimStart_eq_self (by simpa using hc)
      rw [hself]
      obtain ⟨a, as, hentity⟩ := List.exists_cons_of_ne_nil (entityOf_ne_nil c)
      have happend : escapeChars (c :: rest) = a :: (as ++ escapeChars rest) := by
        rw [escapeChars_cons, hentity]
        rfl
      have ha : isBlank a = false :=
        isBlank_of_mem_entityOf hc a (hentity ▸ List.mem_cons_self)
      exact trimStart_eq_self (by simpa [happend] using ha)

theorem trimEnd_escapeChars (cs : List Char) :
    trimEnd (escapeChars cs) = escapeChars (trimEnd cs) := by
  obtain ⟨blanks, hblanks, hcs⟩ := exists_trimEnd_append cs
  -- What is left ends with the entity of a character that is not blank.
  have hlast : ∀ d ∈ (escapeChars (trimEnd cs)).getLast?, isBlank d = false := by
    rcases List.eq_nil_or_concat (trimEnd cs) with hnil | ⟨init, c, hconcat⟩
    · simp [hnil, escapeChars]
    · rw [List.concat_eq_append] at hconcat
      have hc : isBlank c = false :=
        isBlank_of_mem_getLast?_trimEnd cs c (by simp [hconcat])
      have hentity : escapeChars [c] = entityOf c := List.append_nil _
      intro d hd
      rw [hconcat, escapeChars_append, hentity, List.getLast?_append,
        List.getLast?_eq_some_getLast (entityOf_ne_nil c), Option.some_or,
        Option.mem_some_iff] at hd
      exact isBlank_of_mem_entityOf hc d (hd ▸ List.getLast_mem _)
  calc
    trimEnd (escapeChars cs) = trimEnd (escapeChars (trimEnd cs ++ blanks)) := by rw [← hcs]
    _ = trimEnd (escapeChars (trimEnd cs) ++ blanks) := by
      rw [escapeChars_append, escapeChars_blanks hblanks]
    _ = trimEnd (escapeChars (trimEnd cs)) := trimEnd_append_blanks hblanks
    _ = escapeChars (trimEnd cs) := trimEnd_eq_self hlast

theorem trim_escape (s : String) :
    Text.trim (escape s) = escape (Text.trim s) := by
  rw [Text.trim, escape, String.toList_ofList, trimStart_escapeChars, trimEnd_escapeChars, escape,
    Text.trim, String.toList_ofList]

theorem unescape_escape (s : String) : unescape (escape s) = s := by
  rw [unescape, escape, String.toList_ofList, unescapeChars_escapeChars, String.ofList_toList]

theorem escape_eq_empty_iff {s : String} : escape s = "" ↔ s = "" := by
  constructor
  · intro h
    rw [← unescape_escape s, h]
    rfl
  · intro h
    rw [h]
    rfl

/-! ## Ends of unescaped texts -/

/-- What is restored at the beginning of a text is not blank, and what stays is what was there. -/
theorem isBlank_of_mem_head?_restore {c : Char} (hc : c ∈ specials) {cs : List Char}
    (h : ∀ d ∈ cs.head?, isBlank d = false) :
    ∀ d ∈ (restore c cs).head?, isBlank d = false := by
  have hblank := isBlank_of_mem_specials hc
  cases cs with
  | nil => exact h
  | cons a rest =>
    unfold restore replaceFrom
    split
    · simpa using hblank
    · simpa using h

theorem replaceFrom_eq_nil {pattern : List Char} {c : Char} {cs : List Char}
    (h : replaceFrom pattern [c] 0 cs = []) : cs = [] := by
  cases cs with
  | nil => rfl
  | cons a rest =>
    rw [replaceFrom] at h
    split at h <;> exact absurd h (by simp)

/-- The last character is the last of the others, or the first if there are none. -/
theorem isBlank_of_mem_getLast?_cons {a : Char} {rest : List Char}
    (ha : rest = [] → isBlank a = false) (hrest : ∀ d ∈ rest.getLast?, isBlank d = false) :
    ∀ d ∈ (a :: rest).getLast?, isBlank d = false := by
  cases rest with
  | nil => simpa using ha rfl
  | cons b rest => simpa [List.getLast?_cons_cons] using hrest

theorem isBlank_of_mem_getLast?_replaceFrom {pattern : List Char} {c : Char}
    (hc : isBlank c = false) (skip : Nat) {cs : List Char}
    (h : ∀ d ∈ cs.getLast?, isBlank d = false) :
    ∀ d ∈ (replaceFrom pattern [c] skip cs).getLast?, isBlank d = false := by
  induction cs generalizing skip with
  | nil => simp [replaceFrom]
  | cons a rest ih =>
    have hrest : ∀ d ∈ rest.getLast?, isBlank d = false := by
      intro d hd
      apply h d
      rw [List.getLast?_cons, hd]
      rfl
    cases skip with
    | succ skip => exact ih skip hrest
    | zero =>
      rw [replaceFrom]
      split
      · exact isBlank_of_mem_getLast?_cons (fun _ ↦ hc) (ih _ hrest)
      · -- A character that stays is the last one only if nothing came after it.
        refine isBlank_of_mem_getLast?_cons (fun hnil ↦ h a ?_) (ih 0 hrest)
        rw [replaceFrom_eq_nil hnil]
        rfl

theorem hasFullEnds_restore {c : Char} (hc : c ∈ specials) {cs : List Char}
    (h : HasFullEnds cs) : HasFullEnds (restore c cs) where
  head := isBlank_of_mem_head?_restore hc h.head
  last := isBlank_of_mem_getLast?_replaceFrom (isBlank_of_mem_specials hc) 0 h.last

theorem hasFullEnds_unescapeChars {cs : List Char} (h : HasFullEnds cs) :
    HasFullEnds (unescapeChars cs) := by
  have hlt := hasFullEnds_restore (by decide : '<' ∈ specials) h
  have hgt := hasFullEnds_restore (by decide : '>' ∈ specials) hlt
  have hquot := hasFullEnds_restore (by decide : '"' ∈ specials) hgt
  have hapos := hasFullEnds_restore (by decide : '\'' ∈ specials) hquot
  exact hasFullEnds_restore (by decide : '&' ∈ specials) hapos

theorem unescape_eq_empty {s : String} (h : unescape s = "") : s = "" := by
  have hamp := String.ofList_eq_empty_iff.mp h
  have hapos := replaceFrom_eq_nil hamp
  have hquot := replaceFrom_eq_nil hapos
  have hgt := replaceFrom_eq_nil hquot
  have hlt := replaceFrom_eq_nil hgt
  exact String.toList_eq_nil_iff.mp (replaceFrom_eq_nil hlt)

theorem trim_unescape_trim (s : String) :
    Text.trim (unescape (Text.trim s)) = unescape (Text.trim s) := by
  apply HasFullEnds.trim_eq_self
  rw [unescape, String.toList_ofList]
  exact hasFullEnds_unescapeChars (hasFullEnds_trim s)

/-- What is unescaped after trimming has to be trimmed no more. -/
theorem content?_unescape_trim {s : String} (h : isBlankText s = false) :
    content? (unescape (Text.trim s)) = some (unescape (Text.trim s)) := by
  rw [content?_eq_some_iff, trim_unescape_trim]
  refine ⟨fun hempty ↦ ?_, rfl⟩
  have hblank := trim_eq_empty_iff.mp (unescape_eq_empty hempty)
  rw [h] at hblank
  contradiction

end MobileMoney.Markup
