import Vestibule.Proofs.JsonText
import Vestibule.Proofs.Calendar
import Vestibule.Time.Rfc3339

/-! Instants as texts. What is written of an instant is read again as that instant, to the
nanosecond, leap seconds and years of any length included. -/

namespace Vestibule

/-- A computation in steps gives a value where each step does: `Option.bind_eq_some_iff` in the form
that do notation has. As a rewrite rule it is used from the outside in, since what follows a step is
cheap to simplify only where the result of the step is known. -/
theorem bind_eq_some_iff {α β : Type} {x : Option α} {f : α → Option β} {b : β} :
    (x >>= f) = some b ↔ ∃ a, x = some a ∧ f a = some b :=
  Option.bind_eq_some_iff

namespace Integer

variable {text : List Char} {width n : Nat}

/-- Digits that are one are read as the number that they denote. -/
theorem digits?_eq (all : ∀ c ∈ text, Text.isAsciiDigit c = true) :
    digits? text = some ((text.map fun c => c.toNat - 48).foldl (fun acc d => acc * 10 + d) 0) := by
  have each {acc : Nat} : text.foldlM (fun acc c => (digit? c).map (acc * 10 + ·)) acc =
      some ((text.map fun c => c.toNat - 48).foldl (fun acc d => acc * 10 + d) acc) := by
    induction text generalizing acc with
    | nil => rfl
    | cons c text ih =>
        have digit : digit? c = some (c.toNat - 48) := if_pos (by
          simpa [Text.isAsciiDigit] using all c List.mem_cons_self)
        rw [List.foldlM_cons, digit]
        exact ih fun d member => all d (List.mem_cons_of_mem _ member)
  exact each

theorem isAsciiDigit_of_mem_padded {c : Char} (member : c ∈ padded width n) :
    Text.isAsciiDigit c = true := by
  rcases List.mem_append.mp member with zero | digit
  · rw [List.eq_of_mem_replicate zero]
    rfl
  · exact Json.isAsciiDigit_of_mem_toDigits digit

theorem length_padded (some : 0 < width) (fits : n < 10 ^ width) :
    (padded width n).length = width := by
  have short := (Nat.length_toDigits_le_iff (by decide) some).mpr fits
  simp [padded, Nat.sub_add_cancel short]

theorem padded_ne_nil : padded width n ≠ [] := by
  simp [padded]

/-- A number is read again behind the zeros that fill it. -/
theorem digits?_padded : digits? (padded width n) = some n := by
  have zeros (k : Nat) : ((List.replicate k '0').map fun c => c.toNat - 48).foldl
      (fun acc d => acc * 10 + d) 0 = 0 := by
    induction k with
    | zero => rfl
    | succ k ih => exact ih
  rw [digits?_eq fun c => isAsciiDigit_of_mem_padded, padded, List.map_append, List.foldl_append,
    zeros, Json.foldl_toDigits]

end Integer

namespace Text

theorem dropBlanks_cons {c : Char} {text : List Char} (printed : isBlank c = false) :
    dropBlanks (c :: text) = c :: text := by
  simp [dropBlanks, printed]

theorem isBlank_of_isAsciiDigit {c : Char} (digit : isAsciiDigit c = true) : isBlank c = false := by
  simp only [isAsciiDigit, Bool.and_eq_true, decide_eq_true_eq] at digit
  have low : 48 ≤ c.toNat := digit.1
  have high : c.toNat ≤ 57 := digit.2
  simp only [isBlank, Bool.or_eq_false_iff, Bool.and_eq_false_iff, decide_eq_false_iff_not]
  omega

end Text

namespace Rfc3339

open Integer (padded)

variable {most width n nanos : Nat} {rest digits : List Char}

theorem digits?_append (all : ∀ c ∈ digits, Text.isAsciiDigit c = true) (some : digits ≠ [])
    (fits : digits.length ≤ most)
    (ends : digits.length = most ∨ rest.takeWhile Text.isAsciiDigit = []) :
    digits? most (digits ++ rest) = (Integer.digits? digits).map fun n => (n, rest) := by
  have run : ((digits ++ rest).takeWhile Text.isAsciiDigit).take most = digits := by
    rw [List.takeWhile_append_of_pos all, List.take_append]
    rcases ends with full | ends
    · simp [full, List.take_of_length_le fits]
    · simp [ends, List.take_of_length_le fits]
  simp [digits?, run, some]

theorem dropBlanks_padded : Text.dropBlanks (padded width n ++ rest) = padded width n ++ rest := by
  obtain ⟨c, text, whole⟩ := List.exists_cons_of_ne_nil (@Integer.padded_ne_nil width n)
  have digit : Text.isAsciiDigit c = true :=
    Integer.isAsciiDigit_of_mem_padded (whole ▸ List.mem_cons_self)
  rw [whole, List.cons_append, Text.dropBlanks_cons (Text.isBlank_of_isAsciiDigit digit)]

/-- A number of a fixed width is read again, whatever follows. -/
theorem field?_padded (some : 0 < width) (fits : n < 10 ^ width) :
    field? width (padded width n ++ rest) = .some (n, rest) := by
  have size := Integer.length_padded some fits
  rw [field?, dropBlanks_padded, digits?_append (fun c => Integer.isAsciiDigit_of_mem_padded)
    Integer.padded_ne_nil (Nat.le_of_eq size) (.inl size), Integer.digits?_padded, Option.map_some]

theorem mark?_cons {c : Char} (printed : Text.isBlank c = false) :
    mark? c (c :: rest) = some rest := by
  rw [mark?, Text.dropBlanks_cons printed]
  exact if_pos rfl

/-- A year without a sign has four digits. -/
theorem year?_padded (fits : n < 10 ^ 4) : year? (padded 4 n ++ rest) = some (↑n, rest) := by
  have size := Integer.length_padded (by decide) fits
  have read : digits? 4 (padded 4 n ++ rest) = some (n, rest) := by
    rw [digits?_append (fun c => Integer.isAsciiDigit_of_mem_padded) Integer.padded_ne_nil
      (Nat.le_of_eq size) (.inl size), Integer.digits?_padded, Option.map_some]
  obtain ⟨c, text, whole⟩ := List.exists_cons_of_ne_nil (@Integer.padded_ne_nil 4 n)
  have digit : Text.isAsciiDigit c = true :=
    Integer.isAsciiDigit_of_mem_padded (whole ▸ List.mem_cons_self)
  rw [year?, dropBlanks_padded]
  split
  · rename_i same
    rw [whole, List.cons_append] at same
    cases same
    exact absurd digit (by decide)
  · rename_i same
    rw [whole, List.cons_append] at same
    cases same
    exact absurd digit (by decide)
  · rw [read, Option.map_some]

/-- A year is read again, up to the mark that follows. -/
theorem year?_yearText {y : Int} :
    year? (Date.yearText y ++ '-' :: rest) = some (y, '-' :: rest) := by
  have long {n : Nat} : digits? (padded 4 n ++ '-' :: rest).length (padded 4 n ++ '-' :: rest) =
      some (n, '-' :: rest) := by
    rw [digits?_append (fun c => Integer.isAsciiDigit_of_mem_padded) Integer.padded_ne_nil
      (by simp) (.inr rfl), Integer.digits?_padded, Option.map_some]
  unfold Date.yearText
  split
  · rename_i plain
    rw [year?_padded (by omega), Int.toNat_of_nonneg plain.1]
  · rw [List.cons_append]
    split
    · rename_i negative
      rw [year?, Text.dropBlanks_cons (by decide)]
      simp only [long, Option.map_some]
      rw [show -(y.natAbs : Int) = y by omega]
    · rename_i positive
      rw [year?, Text.dropBlanks_cons (by decide)]
      simp only [long, Option.map_some]
      rw [show (y.natAbs : Int) = y by omega]

theorem fraction?_padded (some : 0 < width) (most : width ≤ 9) (fits : n < 10 ^ width) :
    fraction? ('.' :: padded width n ++ ['Z']) = .some (n * 10 ^ (9 - width), ['Z']) := by
  have size := Integer.length_padded some fits
  have run : (padded width n ++ ['Z']).takeWhile Text.isAsciiDigit = padded width n := by
    rw [List.takeWhile_append_of_pos fun c => Integer.isAsciiDigit_of_mem_padded]
    exact List.append_nil _
  have kept : (padded width n).take 9 = padded width n :=
    List.take_of_length_le (Nat.le_of_eq size |>.trans most)
  rw [List.cons_append, fraction?]
  simp only [run, kept, List.isEmpty_iff, Integer.padded_ne_nil, if_false, Integer.digits?_padded,
    Option.bind_eq_bind, Option.bind_some, size, List.drop_left' size]
  rfl

/-- A fraction is read again, up to the letter that ends the text. -/
theorem fraction?_fraction (fits : nanos < 1000000000) :
    fraction? (fraction nanos ++ ['Z']) = some (nanos, ['Z']) := by
  unfold fraction
  split
  · rename_i none
    rw [none]
    rfl
  split
  · rename_i millis
    rw [fraction?_padded (by decide) (by decide) (by omega), show 10 ^ (9 - 3) = 1000000 from rfl,
      Nat.div_mul_cancel (Nat.dvd_of_mod_eq_zero millis)]
  split
  · rename_i micros
    rw [fraction?_padded (by decide) (by decide) (by omega), show 10 ^ (9 - 6) = 1000 from rfl,
      Nat.div_mul_cancel (Nat.dvd_of_mod_eq_zero micros)]
  · rw [fraction?_padded (by decide) (by decide) (by omega), Nat.sub_self, Nat.pow_zero,
      Nat.mul_one]

/-- The time of day that is written, of which a leap second is the sixtieth, is read again. -/
theorem instant?_parts (t : Instant) :
    instant? t.date ((t.seconds % 86400).toNat / 3600) ((t.seconds % 86400).toNat / 60 % 60)
      ((t.seconds % 86400).toNat % 60 + t.nanos / 1000000000) (t.nanos % 1000000000) 0 =
        some t := by
  obtain ⟨low, high, leap⟩ := t.valid
  have whole : Instant.ofUnix? t.seconds t.nanos = some t := dif_pos t.valid
  have day : t.date.day = t.seconds / 86400 := rfl
  obtain ⟨sod, time, within⟩ : ∃ sod : Nat, t.seconds % 86400 = ↑sod ∧ sod < 86400 :=
    ⟨(t.seconds % 86400).toNat, by omega, by omega⟩
  have clock : sod / 3600 * 3600 + sod / 60 % 60 * 60 + sod % 60 = sod := by omega
  have last : t.seconds % 60 = ↑(sod % 60) := by omega
  rw [time, Int.toNat_natCast, instant?, if_pos (by omega), day, ← whole]
  -- Second 60 is written of leap seconds alone, and only there it is read as one.
  by_cases regular : t.nanos < 1000000000
  · have second : sod % 60 + t.nanos / 1000000000 ≠ 60 := by omega
    have seconds : t.seconds / 86400 * 86400 + ↑(sod / 3600 * 3600 + sod / 60 % 60 * 60 +
        (sod % 60 + t.nanos / 1000000000)) - 0 = t.seconds := by omega
    simp only [if_neg second, seconds, Nat.mod_eq_of_lt regular]
  · have second : sod % 60 + t.nanos / 1000000000 = 60 := by omega
    have seconds : t.seconds / 86400 * 86400 + ↑(sod / 3600 * 3600 + sod / 60 % 60 * 60 +
        59) - 0 = t.seconds := by omega
    have nanos : t.nanos % 1000000000 + 1000000000 = t.nanos := by omega
    simp only [if_pos second, seconds, nanos]

theorem write_eq (t : Instant) : write t = Date.yearText t.date.civil.1 ++ '-' ::
    (padded 2 t.date.civil.2.1 ++ '-' :: (padded 2 t.date.civil.2.2 ++ 'T' ::
      (padded 2 ((t.seconds % 86400).toNat / 3600) ++ ':' ::
        (padded 2 ((t.seconds % 86400).toNat / 60 % 60) ++ ':' ::
          (padded 2 ((t.seconds % 86400).toNat % 60 + t.nanos / 1000000000) ++
            (fraction (t.nanos % 1000000000) ++ ['Z'])))))) := by
  simp [write, Date.text]

/-- What is written of an instant is read again as that instant. -/
theorem read?_write (t : Instant) : read? (write t) = some t := by
  obtain ⟨low, high, leap⟩ := t.valid
  have day : t.date.day = t.seconds / 86400 := rfl
  obtain ⟨month, dayOfMonth⟩ := t.date.civil_twoDigits
  have years := Date.civil_inRange (d := t.date) (by omega) (by omega)
  have inRange : dateInRange t.date.civil.1 = true := by
    simp [dateInRange, years]
  have utc : offset? (Text.dropBlanks ['Z']) = some (0, []) := rfl
  have ended : ¬(¬(Text.dropBlanks []).isEmpty ∨ ¬dateInRange t.date.civil.1) := by
    simp [inRange, Text.dropBlanks]
  rw [write_eq]
  -- Each step of the reader meets what the writer put in its place.
  refine bind_eq_some_iff.mpr ⟨_, year?_yearText, ?_⟩
  refine bind_eq_some_iff.mpr ⟨_, mark?_cons rfl, ?_⟩
  refine bind_eq_some_iff.mpr ⟨_, field?_padded (by decide) month, ?_⟩
  refine bind_eq_some_iff.mpr ⟨_, mark?_cons rfl, ?_⟩
  refine bind_eq_some_iff.mpr ⟨_, field?_padded (by decide) dayOfMonth, ?_⟩
  refine (if_pos (.inr (.inl rfl))).trans ?_
  refine bind_eq_some_iff.mpr ⟨_, rfl, ?_⟩
  refine bind_eq_some_iff.mpr ⟨_, field?_padded (by decide) (by omega), ?_⟩
  refine bind_eq_some_iff.mpr ⟨_, mark?_cons rfl, ?_⟩
  refine bind_eq_some_iff.mpr ⟨_, field?_padded (by decide) (by omega), ?_⟩
  refine bind_eq_some_iff.mpr ⟨_, mark?_cons rfl, ?_⟩
  refine bind_eq_some_iff.mpr ⟨_, field?_padded (by decide) (by omega), ?_⟩
  refine bind_eq_some_iff.mpr ⟨_, fraction?_fraction (Nat.mod_lt t.nanos (by decide)), ?_⟩
  refine bind_eq_some_iff.mpr ⟨_, utc, ?_⟩
  refine (if_neg ended).trans ?_
  exact bind_eq_some_iff.mpr ⟨_, Date.ofCivil?_civil, instant?_parts t⟩

end Rfc3339
end Vestibule
