import MobileMoney.Proofs.Text.Letters
import MobileMoney.Text.CaseMap

/-!
# Texts in capital letters

Upper-casing a text twice is upper-casing it once, and it leaves the ends of a trimmed text as full
as they were.  Both rest on one fact about the tables: what an entry gives is covered by no entry
and is not blank.
-/

namespace MobileMoney.Text

/-! ## Images of runs -/

namespace CaseRun

/-- A run whose characters have codes of one parity. -/
def isAlternate (run : CaseRun) : Bool :=
  run.step == 2 || run.first == run.last

/-- Whether no character of a run moves to one of another run, by their ends or their parities. -/
def misses (run other : CaseRun) : Bool :=
  (run.move run.last).blt other.first || other.last.blt (run.move run.first) ||
    (run.isAlternate && other.isAlternate && run.move run.first % 2 != other.first % 2 &&
      0 ≤ Int.ofNat run.first + run.shift)

variable {run other : CaseRun} {code : Nat}

theorem covers_iff :
    run.covers code = true ↔
      run.first ≤ code ∧ code ≤ run.last ∧ (code - run.first) % run.step = 0 := by
  simp [covers, and_assoc]

theorem mod_two_of_covers (hrun : run.isAlternate = true) (h : run.covers code = true) :
    code % 2 = run.first % 2 := by
  obtain ⟨hfirst, hlast, hstep⟩ := covers_iff.mp h
  obtain htwo | hsingle := Bool.or_eq_true_iff.mp hrun
  · rw [beq_iff_eq.mp htwo] at hstep
    omega
  · rw [beq_iff_eq] at hsingle
    omega

theorem not_covers_move (hmisses : run.misses other = true) (h : run.covers code = true) :
    other.covers (run.move code) = false := by
  obtain ⟨hfirst, hlast, -⟩ := covers_iff.mp h
  have hends : run.move run.first ≤ run.move code ∧ run.move code ≤ run.move run.last := by
    simp only [move, Int.ofNat_eq_natCast]
    omega
  rw [← Bool.not_eq_true]
  intro hother
  obtain ⟨hleast, hmost, -⟩ := covers_iff.mp hother
  simp only [misses, Bool.or_eq_true, Nat.blt_eq, Bool.and_eq_true, bne_iff_ne,
    decide_eq_true_eq] at hmisses
  obtain (hbelow | habove) | ⟨⟨⟨hrun, halternate⟩, hparity⟩, hshift⟩ := hmisses
  · omega
  · omega
  · have hcode := mod_two_of_covers hrun h
    have hmoved := mod_two_of_covers halternate hother
    simp only [move, Int.ofNat_eq_natCast] at hshift hparity hmoved
    omega

end CaseRun

/-! ## Capital letters -/

/-- The characters that are blank. -/
def blankRuns : List CaseRun :=
  [⟨9, 13, 1, 0⟩, ⟨32, 32, 1, 0⟩, ⟨0x85, 0x85, 1, 0⟩, ⟨0xA0, 0xA0, 1, 0⟩, ⟨0x1680, 0x1680, 1, 0⟩,
    ⟨0x2000, 0x200A, 1, 0⟩, ⟨0x2028, 0x2029, 1, 0⟩, ⟨0x202F, 0x202F, 1, 0⟩,
    ⟨0x205F, 0x205F, 1, 0⟩, ⟨0x3000, 0x3000, 1, 0⟩]

/-- The runs that no capital letter is in: those of the tables and the blank characters. -/
def lowerOrBlankRuns : List CaseRun :=
  upperRuns ++ upperExpansions.map (fun entry ↦ ⟨entry.1, entry.1, 1, 0⟩) ++ blankRuns

/-- A code that is not blank and has no entry in the tables. -/
def IsCapital (code : Nat) : Prop :=
  ∀ run ∈ lowerOrBlankRuns, run.covers code = false

theorem isCapital_iff {code : Nat} :
    IsCapital code ↔ (lowerOrBlankRuns.all fun run ↦ !run.covers code) = true := by
  simp [IsCapital]

theorem runs_miss : (upperRuns.all fun run ↦ lowerOrBlankRuns.all run.misses) = true := by
  decide +kernel

theorem expansions_capital : (upperExpansions.all fun entry ↦ !entry.2.isEmpty &&
    entry.2.all fun code ↦ lowerOrBlankRuns.all fun run ↦ !run.covers code) = true := by
  decide +kernel

theorem isCapital_ofNat {code : Nat} (h : IsCapital code) : IsCapital (Char.ofNat code).toNat := by
  by_cases hvalid : code.isValidChar
  · have hcode : (Char.ofNat code).toNat = code := by
      rw [Char.ofNat, dif_pos hvalid]
      rfl
    rwa [hcode]
  · rw [Char.ofNat, dif_neg hvalid]
    exact isCapital_iff.mpr (by decide +kernel)

variable {c d : Char}

theorem isBlank_iff : isBlank c = true ↔ ∃ run ∈ blankRuns, run.covers c.toNat = true := by
  simp only [isBlank, blankRuns, CaseRun.covers_iff, Bool.or_eq_true, Bool.and_eq_true,
    decide_eq_true_eq, beq_iff_eq, List.mem_cons, List.not_mem_nil, or_false, exists_eq_or_imp,
    exists_eq_left, Nat.mod_one, and_true]
  omega

theorem isBlank_of_isCapital (h : IsCapital c.toNat) : isBlank c = false := by
  rw [← Bool.not_eq_true, isBlank_iff]
  intro hblank
  obtain ⟨run, hrun, hcovers⟩ := hblank
  rw [h run (List.mem_append_right _ hrun)] at hcovers
  contradiction

theorem lookup_expansions_of_isCapital {code : Nat} (h : IsCapital code) :
    upperExpansions.lookup code = none := by
  rw [List.lookup_eq_none_iff]
  intro entry hentry
  have hrun : (⟨entry.1, entry.1, 1, 0⟩ : CaseRun) ∈ lowerOrBlankRuns :=
    List.mem_append_left _ (List.mem_append_right _ (List.mem_map_of_mem hentry))
  have hcode := h _ hrun
  rw [← Bool.not_eq_true, CaseRun.covers_iff] at hcode
  simp only [Nat.mod_one, and_true] at hcode
  simp only [bne_iff_ne, ne_eq]
  omega

/-- The small letters of ASCII. -/
def smallLetters : CaseRun := ⟨97, 122, 1, -32⟩

theorem smallLetters_mem : smallLetters ∈ upperRuns :=
  List.mem_cons_self

theorem smallLetters_covers (h : c.isLower = true) : smallLetters.covers c.toNat = true := by
  obtain ⟨hfirst, hlast⟩ := toNat_of_isLower h
  exact CaseRun.covers_iff.mpr ⟨hfirst, hlast, Nat.mod_one _⟩

theorem covers_of_isCapital {run : CaseRun} (h : IsCapital c.toNat) (hrun : run ∈ upperRuns) :
    run.covers c.toNat = false :=
  h run (List.mem_append_left _ (List.mem_append_left _ hrun))

theorem upperChar_of_isCapital (h : IsCapital c.toNat) : upperChar c = [c] := by
  unfold upperChar
  split
  · have hlower : c.isLower = false := by
      rw [← Bool.not_eq_true]
      intro hlower
      have hcovers := smallLetters_covers hlower
      rw [covers_of_isCapital h smallLetters_mem] at hcovers
      contradiction
    rw [toUpper_eq_self hlower]
  · have hnone : (upperRuns.find? fun run ↦ run.covers c.toNat) = none := by
      rw [List.find?_eq_none]
      intro run hrun
      rw [covers_of_isCapital h hrun]
      exact Bool.false_ne_true
    rw [mapCase, lookup_expansions_of_isCapital h, hnone]

/-! ## What becomes of a character -/

/-- What a run makes of a character that it covers is a capital letter. -/
theorem isCapital_move {run : CaseRun} {code : Nat} (hrun : run ∈ upperRuns)
    (h : run.covers code = true) : IsCapital (run.move code) := by
  intro other hother
  have hmisses := List.all_eq_true.mp (List.all_eq_true.mp runs_miss run hrun) other hother
  exact CaseRun.not_covers_move hmisses h

theorem isCapital_of_expansion {entry : Nat × List Nat} (hentry : entry ∈ upperExpansions) :
    entry.2 ≠ [] ∧ ∀ code ∈ entry.2, IsCapital code := by
  have hchecked := List.all_eq_true.mp expansions_capital entry hentry
  obtain ⟨hne, hcodes⟩ := Bool.and_eq_true_iff.mp hchecked
  refine ⟨by simpa using hne, fun code hcode ↦ ?_⟩
  exact isCapital_iff.mpr (List.all_eq_true.mp hcodes code hcode)

theorem isCapital_toUpper (h : c.isLower = true) : IsCapital c.toUpper.toNat := by
  have hmove : c.toUpper.toNat = smallLetters.move c.toNat := by
    have hrange := toNat_of_isLower h
    rw [toNat_toUpper h]
    simp only [CaseRun.move, smallLetters, Int.ofNat_eq_natCast]
    omega
  rw [hmove]
  exact isCapital_move smallLetters_mem (smallLetters_covers h)

/-- A character stays as it is or becomes capital letters. -/
theorem upperChar_cases (c : Char) :
    upperChar c = [c] ∨ upperChar c ≠ [] ∧ ∀ d ∈ upperChar c, IsCapital d.toNat := by
  unfold upperChar mapCase
  split
  · cases hlower : c.isLower with
    | false => exact .inl (congrArg ([·]) (toUpper_eq_self hlower))
    | true =>
      refine .inr ⟨List.cons_ne_nil _ _, fun d hd ↦ ?_⟩
      rw [List.mem_singleton.mp hd]
      exact isCapital_toUpper hlower
  · cases hexpansion : upperExpansions.lookup c.toNat with
    | some codes =>
      obtain ⟨before, after, hsplit, -⟩ := List.lookup_eq_some_iff.mp hexpansion
      have hentry : (c.toNat, codes) ∈ upperExpansions := hsplit ▸ List.mem_append_right _ (.head _)
      obtain ⟨hne, hcodes⟩ := isCapital_of_expansion hentry
      refine .inr ⟨fun hnil ↦ hne (List.map_eq_nil_iff.mp hnil), fun d hd ↦ ?_⟩
      obtain ⟨code, hcode, rfl⟩ := List.mem_map.mp hd
      exact isCapital_ofNat (hcodes code hcode)
    | none =>
      cases hrun : upperRuns.find? fun run ↦ run.covers c.toNat with
      | none => exact .inl rfl
      | some run =>
        refine .inr ⟨List.cons_ne_nil _ _, fun d hd ↦ ?_⟩
        have hcovers : run.covers c.toNat = true := by simpa using List.find?_some hrun
        rw [List.mem_singleton.mp hd]
        exact isCapital_ofNat (isCapital_move (List.mem_of_find?_eq_some hrun) hcovers)

theorem upperChar_ne_nil (c : Char) : upperChar c ≠ [] := by
  obtain hsame | ⟨hne, -⟩ := upperChar_cases c
  · rw [hsame]
    exact List.cons_ne_nil _ _
  · exact hne

theorem upperChar_of_mem_upperChar (hd : d ∈ upperChar c) : upperChar d = [d] := by
  obtain hsame | ⟨-, hcapital⟩ := upperChar_cases c
  · rw [hsame, List.mem_singleton] at hd
    rw [hd, hsame]
  · exact upperChar_of_isCapital (hcapital d hd)

/-- No small letter of ASCII is left. -/
theorem isLower_of_mem_upperChar (hd : d ∈ upperChar c) : d.isLower = false := by
  rw [← Bool.not_eq_true]
  intro hlower
  have hrange := toNat_of_isLower hlower
  have hsame : upperChar d = [d.toUpper] := if_pos (by omega)
  rw [upperChar_of_mem_upperChar hd] at hsame
  have htoNat := toNat_toUpper hlower
  rw [← (List.cons.inj hsame).1] at htoNat
  omega

theorem isBlank_of_mem_upperChar (hc : isBlank c = false) (hd : d ∈ upperChar c) :
    isBlank d = false := by
  obtain hsame | ⟨-, hcapital⟩ := upperChar_cases c
  · rw [hsame, List.mem_singleton] at hd
    rwa [hd]
  · exact isBlank_of_isCapital (hcapital d hd)

/-! ## What becomes of a text -/

/-- Upper-casing twice is upper-casing once. -/
theorem upper_upper (s : String) : upper (upper s) = upper s := by
  have hchar : ∀ c, (upperChar c).flatMap upperChar = upperChar c := by
    intro c
    calc
      (upperChar c).flatMap upperChar = ((upperChar c).map upperChar).flatten := rfl
      _ = ((upperChar c).map fun d ↦ [d]).flatten :=
        congrArg List.flatten (List.map_congr_left fun _ ↦ upperChar_of_mem_upperChar)
      _ = upperChar c := List.flatMap_singleton' _
  rw [upper, upper, String.toList_ofList, List.flatMap_assoc, funext hchar]

theorem hasFullEnds_upper {s : String} (h : HasFullEnds s.toList) :
    HasFullEnds (upper s).toList := by
  rw [upper, String.toList_ofList]
  constructor
  · intro d hd
    cases hs : s.toList with
    | nil =>
      rw [hs] at hd
      contradiction
    | cons c rest =>
      rw [hs, List.flatMap_cons, List.head?_append, List.head?_eq_some_head (upperChar_ne_nil c),
        Option.some_or] at hd
      obtain rfl := Option.some.inj hd
      exact isBlank_of_mem_upperChar (h.head c (by rw [hs]; rfl)) (List.head_mem _)
  · intro d hd
    obtain hnil | ⟨init, c, hs⟩ := List.eq_nil_or_concat s.toList
    · rw [hnil] at hd
      contradiction
    · rw [List.concat_eq_append] at hs
      rw [hs, List.flatMap_append, List.flatMap_singleton, List.getLast?_append,
        List.getLast?_eq_some_getLast (upperChar_ne_nil c), Option.some_or] at hd
      obtain rfl := Option.some.inj hd
      refine isBlank_of_mem_upperChar (h.last c ?_) (List.getLast_mem _)
      rw [hs, List.getLast?_concat]
      exact Option.mem_some_self c

/-- A trimmed text in capital letters is trimmed and in capital letters. -/
theorem upper_trim_upper_trim (s : String) : upper (trim (upper (trim s))) = upper (trim s) := by
  rw [(hasFullEnds_upper (hasFullEnds_trim s)).trim_eq_self, upper_upper]

end MobileMoney.Text
