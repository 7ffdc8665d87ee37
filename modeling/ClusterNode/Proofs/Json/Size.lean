import ClusterNode.Json.Writer
import ClusterNode.Proofs.Number.Digits

/-!
# How long a written value is

A text takes as many bytes as its characters do (`length_renderUtf8`). A `Bare` character stands
in a string as it is and takes one byte; so a string of such takes its length and two quotes, and a
number of 64 bits at most twenty bytes.
-/

namespace ClusterNode.Json

/-- The number of bytes that characters take. -/
def textSize : List Char → Nat
  | [] => 0
  | c :: cs => c.utf8Size + textSize cs

@[simp] theorem textSize_nil : textSize [] = 0 := rfl

@[simp] theorem textSize_cons (c : Char) (cs : List Char) :
    textSize (c :: cs) = c.utf8Size + textSize cs := rfl

@[simp] theorem textSize_append (cs ds : List Char) :
    textSize (cs ++ ds) = textSize cs + textSize ds := by
  induction cs with
  | nil => rw [List.nil_append, textSize_nil, Nat.zero_add]
  | cons c cs ih => rw [List.cons_append, textSize_cons, textSize_cons, ih, Nat.add_assoc]

/-- The size of a list of characters in UTF-8 is the sum of theirs. -/
theorem size_utf8Encode (cs : List Char) : cs.utf8Encode.size = textSize cs := by
  induction cs with
  | nil => rw [List.utf8Encode_nil, ByteArray.size_empty, textSize_nil]
  | cons c cs ih =>
    rw [List.utf8Encode_cons, List.utf8Encode_singleton, ByteArray.size_append, ih,
      List.size_toByteArray, String.length_utf8EncodeChar, textSize_cons]

/-- A value takes the bytes of its text. -/
theorem length_renderUtf8 (v : Json) : (renderUtf8 v).length = textSize (renderOnto [] v) := by
  rw [← size_utf8Encode, ← String.toByteArray_ofList]
  rfl

/-! ## Characters that stand for themselves -/

/-- A character that stands in a string as it is, in one byte. -/
def Bare (c : Char) : Prop := escape c = [c] ∧ c.utf8Size = 1

instance : DecidablePred Bare := fun c => inferInstanceAs (Decidable (escape c = [c] ∧ _))

variable {c : Char} {cs : List Char}

/-- So do the printable characters of ASCII but for the quote and the backslash. -/
theorem bare_of_ascii (least : 0x20 ≤ c.toNat) (most : c.toNat < 0x80)
    (quote : c.toNat ≠ '"'.toNat) (backslash : c.toNat ≠ '\\'.toNat) : Bare c := by
  have other {d : Char} (different : c.toNat ≠ d.toNat) : c ≠ d :=
    mt (congrArg Char.toNat) different
  have printable (d : Char) (control : d.toNat < 0x20) : c ≠ d := other (by omega)
  refine ⟨?_, Char.utf8Size_eq_one_iff.2 (UInt32.le_iff_toNat_le.2 (Nat.le_of_lt_succ most))⟩
  rw [escape, if_neg (other quote), if_neg (other backslash), if_neg (printable _ (by decide)),
    if_neg (printable _ (by decide)), if_neg (printable _ (by decide)),
    if_neg (printable _ (by decide)), if_neg (printable _ (by decide)), if_neg (by omega)]

/-- Bare characters take a byte each. -/
theorem textSize_of_bare (bare : ∀ c ∈ cs, Bare c) : textSize cs = cs.length := by
  induction cs with
  | nil => rfl
  | cons c cs ih =>
    obtain ⟨first, rest⟩ := List.forall_mem_cons.1 bare
    rw [textSize_cons, first.2, ih rest, List.length_cons, Nat.add_comm]

/-- Bare characters are written as they are. -/
theorem flatMap_escape_of_bare (bare : ∀ c ∈ cs, Bare c) : cs.flatMap escape = cs := by
  induction cs with
  | nil => rfl
  | cons c cs ih =>
    obtain ⟨first, rest⟩ := List.forall_mem_cons.1 bare
    rw [List.flatMap_cons, first.1, ih rest]
    rfl

/-- A string of such characters takes two bytes more than it has characters. -/
theorem textSize_renderString {s : String} (bare : ∀ c ∈ s.toList, Bare c) :
    textSize (renderString s) = s.length + 2 := by
  rw [renderString, flatMap_escape_of_bare bare, textSize_cons, textSize_append,
    textSize_of_bare bare, String.length_toList]
  exact Nat.add_comm 1 _

/-! ## Digits and letters -/

/-- A digit is bare. -/
theorem bare_of_isDigit (digit : c.isDigit) : Bare c := by
  obtain ⟨least, most⟩ : 48 ≤ c.toNat ∧ c.toNat ≤ 57 := Char.isDigit_iff_toNat.1 digit
  have quote : '"'.toNat = 34 := rfl
  have backslash : '\\'.toNat = 92 := rfl
  exact bare_of_ascii (by omega) (by omega) (by omega) (by omega)

/-- A lower-case letter is bare. -/
theorem bare_of_lower (least : 'a' ≤ c) (most : c ≤ 'z') : Bare c := by
  have lower : 97 ≤ c.toNat := UInt32.le_iff_toNat_le.1 (Char.le_def.1 least)
  have upper : c.toNat ≤ 122 := UInt32.le_iff_toNat_le.1 (Char.le_def.1 most)
  have quote : '"'.toNat = 34 := rfl
  have backslash : '\\'.toNat = 92 := rfl
  exact bare_of_ascii (by omega) (by omega) (by omega) (by omega)

/-- The digits of a number of 64 bits. -/
theorem textSize_toDigits_le (n : UInt64) : textSize (Nat.toDigits 10 n.toNat) ≤ 20 := by
  rw [textSize_of_bare fun c member => bare_of_isDigit (Digits.isDigit_of_mem_toDigits member),
    Nat.length_toDigits_le_iff (by decide) (by decide)]
  exact Nat.lt_trans n.toNat_lt (by decide)

end ClusterNode.Json
