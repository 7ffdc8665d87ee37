import ClusterNode.Number.Digits

/-!
# Decimal digits read back

The decimal digits of a number are digits, and stand for it: `Digits.toNat_toDigits`. Digits in
front of a text that does not go on with one are told from it.
-/

namespace ClusterNode.Digits

/-- A decimal digit stands for its distance from zero. -/
theorem value?_of_isDigit {d : Char} (digit : d.isDigit) :
    value? d = some (d.toNat - '0'.toNat) := by
  have bounds : '0' ≤ d ∧ d ≤ '9' := by
    simpa [Char.isDigit, Char.le_def] using digit
  rw [value?, if_pos bounds]

/-- Decimal digits stand for what they spell. -/
theorem toNat_of_isDigit {ds : List Char} (digits : ∀ d ∈ ds, d.isDigit) (n : Nat) :
    ds.foldl (fun n d => n * 10 + (value? d).getD 0) n = Nat.ofDigitChars 10 ds n := by
  induction ds generalizing n with
  | nil => rfl
  | cons d ds ih =>
    have first := value?_of_isDigit (digits d (List.mem_cons_self ..))
    have rest := ih fun e member => digits e (List.mem_cons_of_mem _ member)
    rw [List.foldl_cons, rest, first, Nat.ofDigitChars, Nat.ofDigitChars, List.foldl_cons,
      Nat.mul_comm n 10]
    rfl

/-- The decimal digits of a number are digits. -/
theorem isDigit_of_mem_toDigits {n : Nat} {d : Char} (member : d ∈ Nat.toDigits 10 n) :
    d.isDigit :=
  Nat.isDigit_of_mem_toDigits (by omega) (by omega) member

/-- The digits of a number stand for it. -/
theorem toNat_toDigits (n : Nat) : toNat 10 (Nat.toDigits 10 n) = n := by
  rw [toNat, toNat_of_isDigit (fun d => isDigit_of_mem_toDigits), Nat.ofDigitChars_ten_toDigits]

/-- A number has a first digit, which is zero only if there is no other one. -/
theorem toDigits_eq_cons (n : Nat) :
    ∃ d ds, Nat.toDigits 10 n = d :: ds ∧ d.isDigit ∧ (d = '0' → ds = []) := by
  induction n using Nat.strongRecOn with
  | _ n ih =>
    by_cases small : n < 10
    · refine ⟨n.digitChar, [], Nat.toDigits_of_lt_base small, ?_, fun _ => rfl⟩
      exact isDigit_of_mem_toDigits (n := n) (by simp [Nat.toDigits_of_lt_base small])
    · have more := Nat.toDigits_of_base_le (b := 10) (n := n) (by omega) (by omega)
      obtain ⟨d, ds, front, digit, zero⟩ := ih (n / 10) (by omega)
      refine ⟨d, ds ++ [(n % 10).digitChar], by rw [more, front]; rfl, digit, fun leading => ?_⟩
      -- a leading zero would be all that is in front, but ten or more is
      have front' : Nat.toDigits 10 (n / 10) = ['0'] := by rw [front, leading, zero leading]
      have none : n / 10 = 0 := by rw [← toNat_toDigits (n / 10), front']; rfl
      omega

/-- Digits in front of a text that does not go on with one. -/
theorem span_append {ds rest : List Char} (digits : ∀ d ∈ ds, d.isDigit)
    (ends : ∀ c, rest.head? = some c → ¬c.isDigit) :
    (ds ++ rest).takeWhile Char.isDigit = ds ∧ (ds ++ rest).dropWhile Char.isDigit = rest := by
  induction ds with
  | nil =>
    cases rest with
    | nil => exact ⟨rfl, rfl⟩
    | cons c rest =>
      have other := ends c rfl
      exact ⟨List.takeWhile_cons_of_neg other, List.dropWhile_cons_of_neg other⟩
  | cons d ds ih =>
    have first := digits d (List.mem_cons_self ..)
    obtain ⟨taken, dropped⟩ := ih fun e member => digits e (List.mem_cons_of_mem _ member)
    rw [List.cons_append, List.takeWhile_cons_of_pos first, List.dropWhile_cons_of_pos first]
    exact ⟨congrArg _ taken, dropped⟩

end ClusterNode.Digits
