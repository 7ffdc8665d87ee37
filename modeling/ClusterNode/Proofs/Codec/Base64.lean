import ClusterNode.Codec.Base64

/-!
# Base64 reads back

What is written in base64 reads back as the bytes it was: `Base64.decode_encode`. The induction
is over groups of three bytes; the last group may be short, and is told by its fill. Each group,
short or not, takes four characters: `Base64.length_encode`.
-/

namespace ClusterNode.Base64

/-- The character of a value has that value. -/
theorem value?_digit {n : Nat} (small : n < 64) : value? (digit n) = some n := by
  have each : ∀ n : Fin 64, value? (digit n) = some n.1 := by decide
  exact each ⟨n, small⟩

/-- The fill has no value. -/
theorem ne_fill {c : Char} {n : Nat} (value : value? c = some n) : c ≠ '=' := by
  rintro rfl
  cases value

variable {w x y z : Nat} {c d : Char}

/-- Four characters without fill are three bytes. -/
theorem decodeChars_group {a b : Char} (acc : Bytes) (rest : List Char)
    (first : value? a = some w) (second : value? b = some x) (third : value? c = some y)
    (fourth : value? d = some z) :
    decodeChars acc (a :: b :: c :: d :: rest) =
      decodeChars (UInt8.ofNat (y % 4 * 64 + z) :: UInt8.ofNat (x % 16 * 16 + y / 4) ::
        UInt8.ofNat (w * 4 + x / 16) :: acc) rest := by
  have full := ne_fill fourth
  rw [decodeChars]
  · simp only [first, second, third, fourth]
  · rintro rfl
    exact fun fill => absurd fill full
  · exact fun fill => absurd fill full

/-- A number that a byte stands for is that byte again. -/
theorem ofNat_eq_of_toNat_eq {a : UInt8} {n : Nat} (same : n = a.toNat) : UInt8.ofNat n = a := by
  rw [same, UInt8.ofNat_toNat]

/-- The characters of some bytes decode to the bytes, behind those that were read before. -/
theorem decodeChars_encodeChars (acc bs : Bytes) :
    decodeChars acc (encodeChars bs) = some (acc.reverse ++ bs) := by
  fun_induction encodeChars bs generalizing acc with
  | case1 => rw [decodeChars, List.append_nil]
  | case2 a =>
    have := a.toNat_lt
    have first : UInt8.ofNat (a.toNat / 4 * 4 + a.toNat % 4 * 16 / 16) = a :=
      ofNat_eq_of_toNat_eq (by omega)
    rw [decodeChars, value?_digit (by omega), value?_digit (by omega)]
    simp only [Option.bind_eq_bind, Option.bind_some]
    rw [if_pos (by omega), first, List.reverse_cons]
  | case3 a b =>
    have := a.toNat_lt
    have := b.toNat_lt
    have first : UInt8.ofNat (a.toNat / 4 * 4 + (a.toNat % 4 * 16 + b.toNat / 16) / 16) = a :=
      ofNat_eq_of_toNat_eq (by omega)
    have second : UInt8.ofNat ((a.toNat % 4 * 16 + b.toNat / 16) % 16 * 16 +
        b.toNat % 16 * 4 / 4) = b :=
      ofNat_eq_of_toNat_eq (by omega)
    have third := value?_digit (n := b.toNat % 16 * 4) (by omega)
    rw [decodeChars, value?_digit (by omega), value?_digit (by omega), third]
    · simp only [Option.bind_eq_bind, Option.bind_some]
      rw [if_pos (by omega), first, second, List.reverse_cons, List.reverse_cons,
        List.append_assoc]
      rfl
    · exact fun fill => absurd fill (ne_fill third)
  | case4 a b c rest ih =>
    have := a.toNat_lt
    have := b.toNat_lt
    have := c.toNat_lt
    have first : UInt8.ofNat (a.toNat / 4 * 4 + (a.toNat % 4 * 16 + b.toNat / 16) / 16) = a :=
      ofNat_eq_of_toNat_eq (by omega)
    have second : UInt8.ofNat ((a.toNat % 4 * 16 + b.toNat / 16) % 16 * 16 +
        (b.toNat % 16 * 4 + c.toNat / 64) / 4) = b :=
      ofNat_eq_of_toNat_eq (by omega)
    have third : UInt8.ofNat ((b.toNat % 16 * 4 + c.toNat / 64) % 4 * 64 + c.toNat % 64) = c :=
      ofNat_eq_of_toNat_eq (by omega)
    rw [decodeChars_group _ _ (value?_digit (by omega)) (value?_digit (by omega))
      (value?_digit (by omega)) (value?_digit (by omega)), first, second, third, ih]
    simp only [List.reverse_cons, List.append_assoc, List.cons_append, List.nil_append]

/-- What is written reads back. -/
theorem decode_encode (bs : Bytes) : decode (encode bs) = some bs := by
  rw [decode, encode, String.toList_ofList, decodeChars_encodeChars]
  rfl

/-! ## The text -/

/-- The text is made of the digits and the fill. -/
theorem of_mem_encodeChars {c : Char} {bs : Bytes} (member : c ∈ encodeChars bs) :
    c = '=' ∨ ∃ n < 64, c = digit n := by
  fun_induction encodeChars bs with
  | case1 => cases member
  | case2 a =>
    have := a.toNat_lt
    simp only [List.mem_cons, List.not_mem_nil, or_false] at member
    rcases member with rfl | rfl | rfl | rfl
    · exact .inr ⟨_, by omega, rfl⟩
    · exact .inr ⟨_, by omega, rfl⟩
    · exact .inl rfl
    · exact .inl rfl
  | case3 a b =>
    have := a.toNat_lt
    have := b.toNat_lt
    simp only [List.mem_cons, List.not_mem_nil, or_false] at member
    rcases member with rfl | rfl | rfl | rfl
    · exact .inr ⟨_, by omega, rfl⟩
    · exact .inr ⟨_, by omega, rfl⟩
    · exact .inr ⟨_, by omega, rfl⟩
    · exact .inl rfl
  | case4 a b c rest ih =>
    have := a.toNat_lt
    have := b.toNat_lt
    have := c.toNat_lt
    simp only [List.mem_cons] at member
    rcases member with rfl | rfl | rfl | rfl | later
    · exact .inr ⟨_, by omega, rfl⟩
    · exact .inr ⟨_, by omega, rfl⟩
    · exact .inr ⟨_, by omega, rfl⟩
    · exact .inr ⟨_, by omega, rfl⟩
    · exact ih later

/-- Four characters stand for every three bytes that are begun. -/
theorem length_encodeChars (bs : Bytes) :
    (encodeChars bs).length = (bs.length + 2) / 3 * 4 := by
  fun_induction encodeChars bs with
  | case1 => rfl
  | case2 a => simp
  | case3 a b => simp
  | case4 a b c rest ih =>
    simp only [List.length_cons, ih]
    omega

/-- An encoding has four characters for every three bytes that were begun. -/
theorem length_encode (bs : Bytes) : (encode bs).length = (bs.length + 2) / 3 * 4 := by
  rw [encode, String.length_ofList, length_encodeChars]

end ClusterNode.Base64
