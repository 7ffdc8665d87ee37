import ClusterNode.Proofs.Number.Digits
import ClusterNode.Time.Rfc3339

/-!
# Written timestamps read back

A timestamp whose year has four digits reads back from its written form: `parse_format`. The
readers of fields are loose, but a written form leaves them no choice: it has no blanks, and
each field has all of its digits.
-/

namespace ClusterNode

/-- The year of a time has four digits, and so no sign. -/
def Timestamp.FourDigits (t : Timestamp) : Prop :=
  0 ≤ t.civil.year ∧ t.civil.year ≤ 9999

instance (t : Timestamp) : Decidable t.FourDigits := inferInstanceAs (Decidable (_ ∧ _))

namespace Rfc3339

open Text

/-! ## Fields of digits -/

/-- A digit is no blank. -/
theorem isBlank_of_isDigit {d : Char} (digit : d.isDigit) : isBlank d = false := by
  simp only [Char.isDigit, Bool.and_eq_true, decide_eq_true_eq, UInt32.le_iff_toNat_le] at digit
  change 48 ≤ d.toNat ∧ d.toNat ≤ 57 at digit
  simp only [isBlank, Bool.or_eq_false_iff, Bool.and_eq_false_iff, decide_eq_false_iff_not,
    beq_eq_false_iff_ne]
  omega

/-- Nothing is trimmed in front of what is no blank. -/
theorem trimStart_cons {c : Char} (mark : isBlank c = false) (rest : List Char) :
    trimStart (c :: rest) = c :: rest :=
  List.dropWhile_cons_of_neg (by simp [mark])

/-- Zeros in front fill a number up to its width. -/
theorem length_padded {width n : Nat} (wide : 0 < width) (fits : n < tenTo width) :
    (padded width n).length = width := by
  have short := (Nat.length_toDigits_le_iff (b := 10) (n := n) (by omega) wide).2 fits
  simp only [padded, List.length_append, List.length_replicate]
  omega

/-- A padded number has digits only. -/
theorem isDigit_of_mem_padded {width n : Nat} {d : Char} (member : d ∈ padded width n) :
    d.isDigit := by
  rcases List.mem_append.1 member with zero | digit
  · rw [(List.mem_replicate.1 zero).2]
    rfl
  · exact Digits.isDigit_of_mem_toDigits digit

/-- Zeros in front change no number. -/
theorem value_padded (width n : Nat) :
    (padded width n).foldl (fun n d => n * 10 + (d.toNat - '0'.toNat)) 0 = n := by
  have zeros (k : Nat) :
      (List.replicate k '0').foldl (fun n d => n * 10 + (d.toNat - '0'.toNat)) 0 = 0 := by
    induction k with
    | zero => rfl
    | succ k ih => exact ih
  have digits := Nat.ofDigitChars_ten_toDigits (n := n)
  simp only [Nat.ofDigitChars, Nat.mul_comm 10] at digits
  rw [padded, List.foldl_append, zeros, digits]

/-- A field begins with a digit. -/
theorem padded_eq_cons {width n : Nat} (wide : 0 < width) (fits : n < tenTo width) :
    ∃ d ds, padded width n = d :: ds ∧ d.isDigit := by
  have length := length_padded wide fits
  obtain ⟨d, ds, digits⟩ := List.exists_cons_of_length_pos (l := padded width n) (by omega)
  exact ⟨d, ds, digits, isDigit_of_mem_padded (digits ▸ List.mem_cons_self ..)⟩

/-- Nothing is trimmed in front of a padded number. -/
theorem trimStart_padded {width n : Nat} (wide : 0 < width) (fits : n < tenTo width)
    (rest : List Char) : trimStart (padded width n ++ rest) = padded width n ++ rest := by
  obtain ⟨d, ds, digits, digit⟩ := padded_eq_cons wide fits
  rw [digits]
  exact trimStart_cons (isBlank_of_isDigit digit) _

/-- A padded number is taken as a whole. -/
theorem takeWhile_padded (width n : Nat) :
    (padded width n).takeWhile Char.isDigit = padded width n := by
  have ends : ∀ c, ([] : List Char).head? = some c → ¬c.isDigit := fun c first => nomatch first
  have digits : ∀ d ∈ padded width n, d.isDigit := fun _ => isDigit_of_mem_padded
  have span := Digits.span_append digits ends
  rw [← List.append_nil (padded width n), span.1, List.append_nil]

/-- A field of a fixed width is read to its end, whatever follows. -/
theorem number?_padded {width n : Nat} (wide : 0 < width) (fits : n < tenTo width)
    (rest : List Char) : number? width (padded width n ++ rest) = some (n, rest) := by
  have length := length_padded wide fits
  have field : ((padded width n ++ rest).take width).takeWhile Char.isDigit = padded width n := by
    rw [List.take_append_of_le_length (by omega), List.take_of_length_le (by omega),
      takeWhile_padded]
  have behind : (padded width n ++ rest).drop (padded width n).length = rest :=
    List.drop_left
  obtain ⟨d, ds, digits, _⟩ := padded_eq_cons wide fits
  rw [number?]
  simp only [trimStart_padded wide fits, field, value_padded, behind]
  rw [if_neg (by simp [digits])]

/-- A year of four digits is read without a sign. -/
theorem year?_padded {n : Nat} (fits : n < tenTo 4) (rest : List Char) :
    year? (padded 4 n ++ rest) = some ((n : Int), rest) := by
  have read := number?_padded (by omega) fits rest
  have trimmed := trimStart_padded (by omega) fits rest
  obtain ⟨d, ds, digits, digit⟩ := padded_eq_cons (n := n) (by omega) fits
  rw [year?, trimmed]
  split
  · rename_i sign
    rw [digits] at sign
    rw [(List.cons.inj sign).1] at digit
    cases digit
  · rename_i sign
    rw [digits] at sign
    rw [(List.cons.inj sign).1] at digit
    cases digit
  · rw [read]
    rfl

/-! ## Marks, fractions and the offset -/

/-- A mark is read where it stands. -/
theorem mark?_cons {c : Char} (mark : isBlank c = false) (rest : List Char) :
    mark? c (c :: rest) = some rest := by
  rw [mark?, trimStart_cons mark]
  exact if_pos rfl

/-- A fraction of `width` digits in front of the offset. -/
theorem fraction?_padded {width n : Nat} (wide : 0 < width) (short : width ≤ 9)
    (fits : n < tenTo width) :
    fraction? ('.' :: padded width n ++ ['Z']) = some (n * tenTo (9 - width), ['Z']) := by
  have length := length_padded wide fits
  have ends : ∀ c, ['Z'].head? = some c → ¬c.isDigit := fun c first => by
    cases first
    decide
  have digits : ∀ d ∈ padded width n, d.isDigit := fun _ => isDigit_of_mem_padded
  have span := Digits.span_append digits ends
  obtain ⟨d, ds, front, _⟩ := padded_eq_cons wide fits
  have kept : (padded width n).take 9 = padded width n := List.take_of_length_le (by omega)
  have behind : (padded width n ++ ['Z']).drop (padded width n).length = ['Z'] := List.drop_left
  rw [List.cons_append, fraction?]
  simp only [span.1, kept, value_padded, behind]
  rw [if_neg (by simp [front]), length]

/-- The fraction of a second is written to its last digit that counts. -/
theorem fraction?_formatFraction {nanos : Nat} (below : nanos < tenTo 9) :
    fraction? (formatFraction nanos ++ ['Z']) = some (nanos, ['Z']) := by
  have nine : tenTo 9 = 1000000000 := rfl
  have six : tenTo 6 = 1000000 := rfl
  have three : tenTo 3 = 1000 := rfl
  unfold formatFraction
  split
  · rename_i zero
    rw [zero]
    rfl
  split
  · rename_i millis
    rw [fraction?_padded (by omega) (by omega) (by omega), six]
    congr 2
    omega
  split
  · rename_i micros
    rw [fraction?_padded (by omega) (by omega) (by omega), three]
    congr 2
    omega
  · rw [fraction?_padded (by omega) (by omega) below]
    congr 2
    exact Nat.mul_one nanos

/-! ## Timestamps -/

/-- A written time is read field by field. -/
theorem fields?_formatCivil {t : CivilTime} (valid : t.Valid) (first : 0 ≤ t.year)
    (last : t.year ≤ 9999) : fields? (formatCivil t) = some (t, 0, []) := by
  obtain ⟨-, -, -, month, -, day, hour, minute, second, nanos⟩ := valid
  have days : t.day < 100 := by
    have most : daysInMonth t.year t.month ≤ 31 := by
      unfold daysInMonth
      split <;> (try split) <;> omega
    omega
  have year : formatYear t.year = padded 4 t.year.toNat := by
    rw [formatYear, if_pos ⟨first, last⟩]
  have fourDigits := year?_padded (n := t.year.toNat) (by show t.year.toNat < 10000; omega)
  have years : (t.year.toNat : Int) = t.year := Int.toNat_of_nonneg first
  -- two digits are enough for every other field
  have twoDigits (n : Nat) (fits : n < 100) (rest : List Char) :
      number? 2 (padded 2 n ++ rest) = some (n, rest) := number?_padded (by omega) fits rest
  have dash := mark?_cons (c := '-') rfl
  have colon := mark?_cons (c := ':') rfl
  have zone : offset? (trimStart ['Z']) = some (0, []) := rfl
  simp only [formatCivil, year, List.append_assoc, List.cons_append, fields?,
    Option.bind_eq_bind, fourDigits, dash, colon, Option.bind_some,
    twoDigits t.month (by omega), twoDigits t.day days,
    twoDigits t.hour (by omega), twoDigits t.minute (by omega),
    twoDigits t.second (by omega), fraction?_formatFraction nanos, zone, years]

/-- A time whose year has four digits reads back from its written form. -/
theorem parse_format {t : Timestamp} (digits : t.FourDigits) : parse (format t) = some t := by
  have fields := fields?_formatCivil t.valid digits.1 digits.2
  have utc : t.civil.behind 0 = t.civil := if_pos rfl
  have civil : Timestamp.ofCivil? t.civil = some t := dif_pos t.valid
  simp only [parse, format, String.toList_ofList, fields, Option.bind_eq_bind, Option.bind_some]
  rw [if_pos ⟨rfl, t.valid⟩, utc, civil]

end Rfc3339

end ClusterNode
