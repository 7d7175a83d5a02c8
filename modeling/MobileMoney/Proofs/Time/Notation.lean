import MobileMoney.Proofs.Decimal.Whole
import MobileMoney.Proofs.Text.Letters
import MobileMoney.Proofs.Time.Calendar
import MobileMoney.Proofs.Time.Position
import MobileMoney.Time.Rfc3339

/-!
# Written dates and instants

A date and an instant are read back from the text that is written for them.  Each field is read from
the digits that are written for it, whatever follows.
-/

namespace MobileMoney

open Decimal Text

variable {width n : Nat} {rest : List Char}

/-! ## Fields -/

theorem Decimal.padded_ne_nil (width n : Nat) : padded width n ≠ [] :=
  List.append_ne_nil_of_right_ne_nil _ (digits_ne_nil n)

theorem Text.trimStart_cons {c : Char} (h : isBlank c = false) :
    trimStart (c :: rest) = c :: rest := by
  apply trimStart_eq_self
  rintro _ ⟨⟩
  exact h

theorem Decimal.exists_padded_append (width n : Nat) (rest : List Char) :
    ∃ c cs, c.isDigit = true ∧ padded width n ++ rest = c :: cs := by
  obtain ⟨c, cs, hcons⟩ := List.exists_cons_of_ne_nil (padded_ne_nil width n)
  refine ⟨c, cs ++ rest, isDigit_of_mem_padded (hcons ▸ List.mem_cons_self), ?_⟩
  rw [hcons, List.cons_append]

theorem Text.trimStart_padded : trimStart (padded width n ++ rest) = padded width n ++ rest := by
  obtain ⟨c, cs, hdigit, hcons⟩ := exists_padded_append width n rest
  rw [hcons]
  exact trimStart_cons (isBlank_of_isDigit hdigit)

theorem Decimal.takeWhile_padded (width n : Nat) (h : ∀ c ∈ rest.head?, c.isDigit = false) :
    (padded width n ++ rest).takeWhile Char.isDigit = padded width n := by
  rw [List.takeWhile_append_of_pos fun c ↦ isDigit_of_mem_padded]
  cases rest with
  | nil => exact List.append_nil _
  | cons c rest =>
    have hc : c.isDigit = false := h c rfl
    rw [List.takeWhile_cons_of_neg (by simp [hc]), List.append_nil]

namespace Date

/-- A field is read from its digits, whatever follows. -/
theorem readField?_padded (rest : List Char) (hpos : 0 < width) (h : n < Nat.pow 10 width) :
    readField? width (padded width n ++ rest) = some (n, rest) := by
  have htake : (padded width n ++ rest).take width = padded width n := by
    rw [List.take_append_of_le_length (length_padded hpos h).ge]
    exact List.take_of_length_le (length_padded hpos h).le
  have hwhile : (padded width n).takeWhile Char.isDigit = padded width n := by
    have hall : (padded width n ++ []).takeWhile Char.isDigit = padded width n :=
      takeWhile_padded width n (by simp)
    rwa [List.append_nil] at hall
  rw [readField?, trimStart_padded, htake, hwhile]
  simp [padded_ne_nil, valueOf_padded]

theorem readMark?_cons {mark : Char} (h : isBlank mark = false) :
    readMark? mark (mark :: rest) = some rest := by
  rw [readMark?, trimStart_cons h]
  exact if_pos rfl

/-! ## Dates -/

theorem readYear?_writeYear (year : Int) (rest : List Char)
    (h : ∀ c ∈ rest.head?, c.isDigit = false) :
    readYear? (writeYear year ++ rest) = some (year, rest) := by
  have hsigned (value : Nat → Int) (hvalue : value year.natAbs = year) :
      readYear?.signed (padded 4 year.natAbs ++ rest) value = some (year, rest) := by
    rw [readYear?.signed, takeWhile_padded _ _ h]
    simp [padded_ne_nil, valueOf_padded, hvalue]
  rw [writeYear]
  split
  · next hplain =>
    obtain ⟨c, cs, hdigit, hcons⟩ := exists_padded_append 4 year.natAbs rest
    have hyear : year.natAbs < Nat.pow 10 4 := by
      change year.natAbs < 10000
      omega
    have hfield := readField?_padded rest (by decide) hyear
    have hvalue : (year.natAbs : Int) = year := by omega
    rw [hcons] at hfield
    rw [hcons, readYear?, trimStart_cons (isBlank_of_isDigit hdigit)]
    split
    · next hminus => exact absurd (List.cons.inj hminus).1 (ne_of_isDigit hdigit rfl)
    · next hplus => exact absurd (List.cons.inj hplus).1 (ne_of_isDigit hdigit rfl)
    · rw [hfield, Option.map_some]
      dsimp only
      rw [hvalue]
  · next houtside =>
    rw [List.cons_append]
    split
    · next hnegative =>
      rw [readYear?, trimStart_cons (by decide)]
      exact hsigned _ (by omega)
    · next hpositive =>
      rw [readYear?, trimStart_cons (by decide)]
      exact hsigned _ (by simp; omega)

theorem readPart?_write {date : Date} (rest : List Char) (h : date.IsValid) :
    readPart? (date.write ++ rest) = some (date, rest) := by
  obtain ⟨hmonth, hday⟩ := h.month_le
  have hyear := readYear?_writeYear date.year
    ('-' :: (padded 2 date.month ++ '-' :: (padded 2 date.day ++ rest))) (by rintro _ ⟨⟩; rfl)
  have hfield {n : Nat} (rest : List Char) (h : n < 100) :
      readField? 2 (padded 2 n ++ rest) = some (n, rest) :=
    readField?_padded rest (by decide) h
  have hmonth' := hfield ('-' :: (padded 2 date.day ++ rest)) (by omega : date.month < 100)
  have hday' := hfield rest (by omega : date.day < 100)
  have hdash : isBlank '-' = false := by decide
  rw [write, List.append_assoc, List.cons_append, List.append_assoc, List.cons_append, readPart?,
    hyear]
  simp only [Option.bind_eq_bind, Option.bind_some, readMark?_cons hdash, hmonth', hday']
  exact if_pos h

theorem read?_write {date : Date} (h : date.IsValid) :
    read? (String.ofList date.write) = some date := by
  have hpart := readPart?_write [] h
  rw [List.append_nil] at hpart
  rw [read?, String.toList_ofList, hpart]
  rfl

/-- Only days of the calendar are read. -/
theorem isValid_of_read? {s : String} {date : Date} (h : read? s = some date) : date.IsValid := by
  simp only [read?, Option.bind_eq_bind, Option.bind_eq_some_iff] at h
  obtain ⟨⟨part, rest⟩, hpart, h⟩ := h
  obtain rfl : part = date := by
    split at h
    · exact Option.some.inj h
    · cases h
  simp only [readPart?, Option.bind_eq_bind, Option.bind_eq_some_iff] at hpart
  obtain ⟨_, -, _, -, _, -, _, -, _, -, hpart⟩ := hpart
  split at hpart
  · next hvalid =>
    obtain ⟨rfl, -⟩ := Prod.mk.inj (Option.some.inj hpart)
    exact hvalid
  · cases hpart

end Date

/-! ## Instants -/

namespace Instant

/-- A fraction is read from its digits, in front of anything that is not a digit. -/
theorem readFraction?_padded (hpos : 0 < width) (hwidth : width ≤ 9) (h : n < Nat.pow 10 width)
    (hrest : ∀ c ∈ rest.head?, c.isDigit = false) :
    readFraction? ('.' :: (padded width n ++ rest)) =
      some (n * Nat.pow 10 (9 - width), rest) := by
  have hlength := length_padded hpos h
  have hdrop : (padded width n ++ rest).dropWhile Char.isDigit = rest := by
    have hsplit : (padded width n ++ rest).takeWhile Char.isDigit ++ _ = padded width n ++ rest :=
      List.takeWhile_append_dropWhile
    rw [takeWhile_padded _ _ hrest] at hsplit
    exact List.append_cancel_left hsplit
  have htake : (padded width n).take 9 = padded width n :=
    List.take_of_length_le (hlength.trans_le hwidth)
  rw [readFraction?]
  dsimp only
  rw [takeWhile_padded _ _ hrest, htake, hdrop, hlength, valueOf_padded]
  simp [padded_ne_nil]

theorem readFraction?_writeFraction {nanos : Nat} (hlt : nanos < nanosPerSecond) :
    readFraction? (writeFraction nanos ++ ['Z']) = some (nanos, ['Z']) := by
  have hmark : ∀ c ∈ ['Z'].head?, c.isDigit = false := by
    rintro _ ⟨⟩
    rfl
  unfold nanosPerSecond at hlt
  rw [writeFraction]
  split
  · next hzero =>
    rw [hzero]
    rfl
  split
  · next hmillis =>
    have hvalue : nanos / 1000000 * Nat.pow 10 (9 - 3) = nanos :=
      Nat.div_mul_cancel (Nat.dvd_of_mod_eq_zero hmillis)
    rw [List.cons_append, readFraction?_padded (by decide) (by decide)
      (by change _ < 1000; omega) hmark, hvalue]
  split
  · next hmicros =>
    have hvalue : nanos / 1000 * Nat.pow 10 (9 - 6) = nanos :=
      Nat.div_mul_cancel (Nat.dvd_of_mod_eq_zero hmicros)
    rw [List.cons_append, readFraction?_padded (by decide) (by decide)
      (by change _ < 1000000; omega) hmark, hvalue]
  · rw [List.cons_append, readFraction?_padded (by decide) (by decide) hlt hmark]
    simp

/-- What a clock shows, with a leap second as second 60. -/
def clockOf (second nanos : Nat) (isLeap : Bool) : ClockReading :=
  ⟨second / 3600, second / 60 % 60, second % 60 + if isLeap then 1 else 0, nanos⟩

theorem readClock?_write {second nanos : Nat} {isLeap : Bool} (hsecond : second < 86400)
    (hnanos : nanos < nanosPerSecond) :
    readClock? ([':'].intercalate (clockFields second isLeap) ++ (writeFraction nanos ++ ['Z'])) =
      some (clockOf second nanos isLeap, ['Z']) := by
  have hlast : (second % 60 + if isLeap then 1 else 0) ≤ 60 := by split <;> omega
  have hfields : [':'].intercalate (clockFields second isLeap) ++ (writeFraction nanos ++ ['Z']) =
      padded 2 (second / 3600) ++ ':' :: (padded 2 (second / 60 % 60) ++
        ':' :: (padded 2 (second % 60 + if isLeap then 1 else 0) ++
          (writeFraction nanos ++ ['Z']))) := by
    simp [clockFields, List.intercalate]
  have hfield {n : Nat} {rest : List Char} (h : n < 100) :
      Date.readField? 2 (padded 2 n ++ rest) = some (n, rest) :=
    Date.readField?_padded rest (by decide) h
  have hcolon : isBlank ':' = false := by decide
  rw [hfields, readClock?, hfield (by omega)]
  simp only [Option.bind_eq_bind, Option.bind_some, Date.readMark?_cons hcolon]
  rw [hfield (by omega)]
  simp only [Option.bind_some, Date.readMark?_cons hcolon]
  rw [hfield (by omega)]
  simp only [Option.bind_some, readFraction?_writeFraction hnanos]
  exact if_pos ⟨by omega, by omega, hlast⟩

theorem isValid_split (t : Instant) : (split t.seconds).1.IsValid := by
  obtain ⟨hmin, hmax, -⟩ := t.valid
  rw [minSeconds] at hmin
  rw [maxSeconds] at hmax
  apply Date.isValid_ofDayNumber
  · unfold secondsPerDay at *
    omega
  · unfold secondsPerDay at *
    omega

/-- A date and a clock in universal time lead back to the instant that they are taken from. -/
theorem ofLocal?_split (t : Instant) :
    ofLocal? (split t.seconds).1
      (clockOf (split t.seconds).2 (t.nanos % nanosPerSecond) t.isLeapSecond) 0 = some t := by
  have hday : (split t.seconds).1.dayNumber = t.seconds / secondsPerDay :=
    Date.dayNumber_ofDayNumber _
  have hsecond : ((split t.seconds).2 : Int) = t.seconds % secondsPerDay := by
    change ((t.seconds % secondsPerDay).toNat : Int) = _
    unfold secondsPerDay
    omega
  have hlocal : ofLocal? (split t.seconds).1
      (clockOf (split t.seconds).2 (t.nanos % nanosPerSecond) t.isLeapSecond) 0 =
        of? t.seconds t.nanos := by
    -- in a leap second the clock shows 60, and the nanoseconds beyond one second are not written
    obtain ⟨-, -, hnanos⟩ := t.valid
    generalize (split t.seconds).2 = second at *
    cases hleap : t.isLeapSecond with
    | true =>
      have hover := of_decide_eq_true hleap
      have hlast : second % 60 = 59 := by
        unfold secondsPerDay at hsecond
        omega
      rw [ofLocal?, clockOf, hday]
      simp only [if_true, hlast]
      congr 1
      · unfold secondsPerDay at *
        omega
      · unfold nanosPerSecond at *
        omega
    | false =>
      have hwithin : t.nanos < nanosPerSecond := isLeapSecond_eq_false_iff.mp hleap
      have hshort : second % 60 ≠ 60 := by omega
      rw [ofLocal?, clockOf, hday]
      simp only [Bool.false_eq_true, if_false, Nat.add_zero, hshort]
      congr 1
      · unfold secondsPerDay at *
        omega
      · exact Nat.mod_eq_of_lt hwithin
  rw [hlocal]
  exact dif_pos t.valid

/-- An instant is read back from its text, in leap seconds too. -/
theorem read?_write (t : Instant) : read? (String.ofList t.write) = some t := by
  have hsecond : (split t.seconds).2 < 86400 := by
    change (t.seconds % secondsPerDay).toNat < 86400
    unfold secondsPerDay
    omega
  have hnanos : t.nanos % nanosPerSecond < nanosPerSecond := Nat.mod_lt _ (by decide)
  have hzone : trimStart ['Z'] = ['Z'] := trimStart_cons (by decide)
  have hoffset : readOffset? ['Z'] = some (0, []) := rfl
  rw [read?, String.toList_ofList]
  change (Date.readPart? ((split t.seconds).1.write ++ 'T' ::
    ([':'].intercalate (clockFields (split t.seconds).2 t.isLeapSecond) ++
      (writeFraction (t.nanos % nanosPerSecond) ++ ['Z'])))).bind _ = _
  rw [Date.readPart?_write _ (isValid_split t)]
  simp only [Option.bind_eq_bind, Option.bind_some, readSeparator?,
    readClock?_write hsecond hnanos, hzone, hoffset]
  exact ofLocal?_split t

end Instant

end MobileMoney
