import ClusterNode.Json.Reader
import ClusterNode.Json.Writer
import ClusterNode.Proofs.Number.Digits

/-!
# Written JSON reads back

`parse_render` says that the text of a value reads back as that value, if the value is
`Plain`: its numbers are integers of 64 bits without a sign, and it is nested less deep than
the reader goes. Strings may hold any characters. `parseUtf8_renderUtf8` says the same of
the bytes of the text.

The reader of a value stops where the text of the value ends, whatever follows, if no number
goes on there (`Closes`); so the readers of items and members are led from one value to the
next.
-/

namespace ClusterNode

/-- The UTF-8 of a text is read as the text. -/
theorem Bytes.toText?_ofText (s : String) : toText? (ofText s) = some s := by
  rw [toText?, ofText, String.fromUTF8?, Array.toArray_toList]
  exact dif_pos s.isValidUTF8

namespace Json

/-! ## Numbers -/

/-- A text in front of which a number ends. -/
def Closes (tail : List Char) : Prop :=
  ∀ c, tail.head? = some c → ¬c.isDigit ∧ c ≠ '.' ∧ c ≠ 'e' ∧ c ≠ 'E'

/-- A number ends at the end of a text. -/
theorem closes_nil : Closes [] := fun _ first => by cases first

/-- A number ends in front of what cannot go on with it. -/
theorem closes_cons {c : Char} {tail : List Char}
    (other : ¬c.isDigit ∧ c ≠ '.' ∧ c ≠ 'e' ∧ c ≠ 'E') : Closes (c :: tail) := fun d first => by
  cases first
  exact other

/-- Where a number ends no fraction is read. -/
theorem readFraction_of_closes {tail : List Char} (closes : Closes tail) :
    readFraction tail = some (none, tail) := by
  unfold readFraction
  split
  · exact absurd rfl (closes '.' rfl).2.1
  · rfl

/-- Where a number ends no exponent is read. -/
theorem readExponent_of_closes {tail : List Char} (closes : Closes tail) :
    readExponent tail = some (none, tail) := by
  unfold readExponent
  split
  · exact absurd rfl (closes 'e' rfl).2.2.1
  · exact absurd rfl (closes 'E' rfl).2.2.2
  · rfl

/-- The integer digits of a number end where its digits do. -/
theorem readWhole_toDigits (n : Nat) {tail : List Char} (closes : Closes tail) :
    readWhole (Nat.toDigits 10 n ++ tail) = some (Nat.toDigits 10 n, tail) := by
  obtain ⟨taken, dropped⟩ := Digits.span_append (fun _ => Digits.isDigit_of_mem_toDigits (n := n))
    fun c first => (closes c first).1
  obtain ⟨d, ds, digits, digit, zero⟩ := Digits.toDigits_eq_cons n
  rw [readWhole, spanDigits, taken, dropped, digits]
  split
  · rename_i none
    cases none
  · rename_i leading
    cases leading
    cases zero rfl
  · rename_i whole
    cases whole
    rfl

/-- The digits of a number of 64 bits read back as the number. -/
theorem readNumber_toDigits {n : Nat} (small : n < UInt64.size) {tail : List Char}
    (closes : Closes tail) : readNumber (Nat.toDigits 10 n ++ tail) = some (.nat n, tail) := by
  have value : Number.ofParts false (Nat.toDigits 10 n) none none = .nat n := by
    simp [Number.ofParts, Digits.toNat_toDigits, small]
  have whole := readWhole_toDigits n closes
  obtain ⟨d, ds, digits, digit, zero⟩ := Digits.toDigits_eq_cons n
  unfold readNumber
  split
  rename_i negative cs sign
  have unsigned : negative = false ∧ cs = Nat.toDigits 10 n ++ tail := by
    rw [digits] at sign ⊢
    split at sign
    · rename_i minus
      cases minus
      cases digit
    · cases sign
      exact ⟨rfl, rfl⟩
  rw [unsigned.1, unsigned.2, whole]
  simp [readFraction_of_closes closes, readExponent_of_closes closes, value]

/-! ## Strings -/

/-- Two hexadecimal digits spell a control character. -/
theorem hex4?_hexDigit :
    ∀ n < 0x20, hex4? '0' '0' (hexDigit (n / 16)) (hexDigit (n % 16)) = some n := by
  decide

/-- A character inside a string reads back as itself. -/
theorem readUnits_escape (acc : List Unit16) (c : Char) (rest : List Char) :
    readUnits acc (escape c ++ rest) = readUnits (.char c :: acc) rest := by
  unfold escape
  -- seven characters have an escape of their own
  iterate 7
    split
    · subst c
      rfl
  split
  · rename_i control
    have spelled := hex4?_hexDigit c.toNat control
    have unit : Unit16.ofNat c.toNat = .char c := by
      rw [Unit16.ofNat, if_neg (by omega), Char.ofNat_toNat]
    simp only [List.cons_append, List.nil_append, readUnits, spelled, unit]
  · rename_i quote backslash _ _ _ _ _ control
    rw [List.cons_append, List.nil_append, readUnits.eq_def]
    split
    · rename_i none
      cases none
    · rename_i ends
      cases ends
      exact absurd rfl quote
    · rename_i hexadecimal
      cases hexadecimal
      exact absurd rfl backslash
    · rename_i escaped
      cases escaped
      exact absurd rfl backslash
    · rename_i plain
      cases plain
      rw [if_neg (by simp [control, backslash])]

/-- Escaped characters read back up to the closing quote. -/
theorem readUnits_flatMap_escape (cs tail : List Char) (acc : List Unit16) :
    readUnits acc (cs.flatMap escape ++ '"' :: tail) =
      some ((cs.map .char).reverse ++ acc, tail) := by
  induction cs generalizing acc with
  | nil => rfl
  | cons c cs ih =>
    rw [List.flatMap_cons, List.append_assoc, readUnits_escape, ih]
    simp

/-- Characters that were read as such are joined in their order. -/
theorem joinUnits_map_char (cs acc : List Char) :
    joinUnits acc (cs.map .char) = some (cs.reverse ++ acc) := by
  induction cs generalizing acc with
  | nil => rfl
  | cons c cs ih =>
    rw [List.map_cons, joinUnits, ih]
    simp

/-- A string between quotes reads back as itself. -/
theorem readString_render (s : String) (tail : List Char) :
    readString (s.toList.flatMap escape ++ '"' :: tail) = some (some s, tail) := by
  have joined : joinUnits [] (s.toList.map .char).reverse = some s.toList := by
    rw [← List.map_reverse, joinUnits_map_char, List.reverse_reverse, List.append_nil]
  rw [readString, readUnits_flatMap_escape, List.append_nil]
  simp [joined]

/-! ## Values -/

/-- A value of numbers of 64 bits without a sign, of at most `height` containers inside each
other. -/
inductive Plain : (height : Nat) → Json → Prop
  | null {h : Nat} : Plain h .null
  | bool {h : Nat} (b : Bool) : Plain h (.bool b)
  | nat {h n : Nat} (small : n < UInt64.size) : Plain h (.nat n)
  | str {h : Nat} (s : String) : Plain h (.str s)
  | arr {h : Nat} {items : List Json} (each : ∀ v ∈ items, Plain h v) : Plain (h + 1) (.arr items)
  | obj {h : Nat} {members : List (String × Json)} (each : ∀ m ∈ members, Plain h m.2) :
    Plain (h + 1) (.obj members)

/-- The items of a list are readable if each of them is. -/
theorem readableItems_iff {items : List Json} :
    readableItems items ↔ ∀ v ∈ items, v.readable := by
  induction items with
  | nil => simp [readableItems]
  | cons v rest ih => simp [readableItems, ih]

/-- The members of a record are readable if each of them is. -/
theorem readableMembers_iff {members : List (String × Json)} :
    readableMembers members ↔ ∀ m ∈ members, m.2.readable := by
  induction members with
  | nil => simp [readableMembers]
  | cons m rest ih => simp [readableMembers, ih]

/-- Every part of a plain value can be read. -/
theorem Plain.readable {h : Nat} {v : Json} (plain : Plain h v) : v.readable := by
  induction plain with
  | null => rfl
  | bool b => rfl
  | nat small => rfl
  | str s => rfl
  | arr each ih => exact readableItems_iff.2 ih
  | obj each ih => exact readableMembers_iff.2 ih

/-- A digit is no blank. -/
theorem isSpace_of_isDigit {d : Char} (digit : d.isDigit) : isSpace d = false := by
  refine Bool.eq_false_iff.2 fun blank => ?_
  simp only [isSpace, Bool.or_eq_true, beq_iff_eq] at blank
  rcases blank with ((rfl | rfl) | rfl) | rfl <;> cases digit

/-- The text of a plain value begins neither with a blank nor with a closing bracket. -/
theorem Plain.opens {h : Nat} {v : Json} (plain : Plain h v) (tail : List Char) :
    ∃ c rest, renderOnto tail v = c :: rest ∧ isSpace c = false ∧ c ≠ ']' := by
  cases plain with
  | null => exact ⟨_, _, rfl, rfl, by decide⟩
  | bool b => cases b <;> exact ⟨_, _, rfl, rfl, by decide⟩
  | @nat h n small =>
    obtain ⟨d, ds, digits, digit, zero⟩ := Digits.toDigits_eq_cons n
    refine ⟨d, ds ++ tail, by rw [Json.nat, renderOnto, renderNumber, digits]; rfl,
      isSpace_of_isDigit digit, ?_⟩
    rintro rfl
    cases digit
  | str s => exact ⟨_, _, rfl, rfl, by decide⟩
  | arr each => exact ⟨_, _, by rw [renderOnto], rfl, by decide⟩
  | obj each => exact ⟨_, _, by rw [renderOnto], rfl, by decide⟩

/-! ## Containers

The texts of items and members stand in front of what follows them, and each reads back if the
texts of the values do. -/

/-- Between two items stands a comma. -/
theorem renderItems_cons_cons (tail : List Char) (v w : Json) (rest : List Json) :
    renderItems tail (v :: w :: rest) = renderOnto (',' :: renderItems tail (w :: rest)) v := by
  rw [renderItems]
  exact List.cons_ne_nil _ _

/-- Between two members stands a comma. -/
theorem renderMembers_cons_cons (tail : List Char) (name : String) (v : Json)
    (m : String × Json) (rest : List (String × Json)) :
    renderMembers tail ((name, v) :: m :: rest) =
      renderString name ++ ':' :: renderOnto (',' :: renderMembers tail (m :: rest)) v := by
  rw [renderMembers]
  exact List.cons_ne_nil _ _

/-- The text of some items is no shorter than what stands behind them. -/
theorem length_renderItems {items : List Json}
    (each : ∀ v ∈ items, ∀ tail, tail.length < (renderOnto tail v).length) (tail : List Char) :
    tail.length ≤ (renderItems tail items).length := by
  induction items with
  | nil => exact Nat.le_refl _
  | cons v rest ih =>
    cases rest with
    | nil => exact Nat.le_of_lt (each v (List.mem_cons_self ..) tail)
    | cons w rest =>
      have first := each v (List.mem_cons_self ..) (',' :: renderItems tail (w :: rest))
      have others := ih fun u member => each u (List.mem_cons_of_mem _ member)
      rw [List.length_cons] at first
      rw [renderItems_cons_cons]
      omega

/-- The text of some members is no shorter than what stands behind them. -/
theorem length_renderMembers {members : List (String × Json)}
    (each : ∀ m ∈ members, ∀ tail, tail.length < (renderOnto tail m.2).length)
    (tail : List Char) : tail.length ≤ (renderMembers tail members).length := by
  induction members with
  | nil => exact Nat.le_refl _
  | cons m rest ih =>
    cases rest with
    | nil =>
      have first := each m (List.mem_cons_self ..) tail
      rw [renderMembers, List.length_append, List.length_cons]
      omega
    | cons n rest =>
      have first := each m (List.mem_cons_self ..) (',' :: renderMembers tail (n :: rest))
      have others := ih fun u member => each u (List.mem_cons_of_mem _ member)
      rw [List.length_cons] at first
      rw [renderMembers_cons_cons, List.length_append, List.length_cons]
      omega

/-- The text of a value is not empty. -/
theorem Plain.length_lt {h : Nat} {v : Json} (plain : Plain h v) (tail : List Char) :
    tail.length < (renderOnto tail v).length := by
  induction plain generalizing tail with
  | null => simp [renderOnto]; omega
  | bool b => cases b <;> simp [renderOnto] <;> omega
  | nat small =>
    rw [Json.nat, renderOnto, renderNumber, List.length_append]
    exact Nat.lt_add_of_pos_left Nat.length_toDigits_pos
  | str s => simp [renderOnto, renderString]; omega
  | arr each ih =>
    have items := length_renderItems ih (']' :: tail)
    rw [renderOnto, List.length_cons]
    rw [List.length_cons] at items
    omega
  | obj each ih =>
    have members := length_renderMembers ih ('\x7d' :: tail)
    rw [renderOnto, List.length_cons]
    rw [List.length_cons] at members
    omega

/-- The text of a value reads back as the value wherever there is room for its containers; a
character takes two steps of the reader at most. -/
def Reads (h : Nat) (v : Json) : Prop :=
  ∀ fuel depth tail, depth + h < depthLimit → Closes tail →
    2 * (renderOnto tail v).length ≤ fuel + 2 * tail.length →
    readValue (fuel + 1) depth (renderOnto tail v) = some (v, tail)

/-- Nothing is skipped in front of what is no blank. -/
theorem skipSpace_cons {c : Char} (mark : isSpace c = false) (rest : List Char) :
    skipSpace (c :: rest) = c :: rest :=
  List.dropWhile_cons_of_neg (by simp [mark])

/-- The items of an array read back, if each of them does. -/
theorem readItems_renderItems {h depth : Nat} (room : depth + h < depthLimit)
    {items : List Json} (some : items ≠ []) (each : ∀ v ∈ items, Plain h v ∧ Reads h v)
    (fuel : Nat) (acc : List Json) (tail : List Char)
    (enough : 2 * (renderItems (']' :: tail) items).length ≤ fuel + 2 * tail.length) :
    readItems fuel depth acc (renderItems (']' :: tail) items) =
      .some (acc.reverse ++ items, tail) := by
  induction items generalizing fuel acc with
  | nil => exact absurd rfl some
  | cons v rest ih =>
    have ⟨plain, reads⟩ := each v (List.mem_cons_self ..)
    cases rest with
    | nil =>
      rw [renderItems] at enough ⊢
      have length := plain.length_lt (']' :: tail)
      rw [List.length_cons] at length
      obtain ⟨fuel, rfl⟩ : ∃ n, fuel = n + 2 := ⟨fuel - 2, by omega⟩
      have value := reads fuel depth (']' :: tail) room (closes_cons (by decide))
        (by rw [List.length_cons]; omega)
      rw [readItems, value]
      simp [skipSpace_cons (c := ']') rfl]
    | cons w rest =>
      rw [renderItems_cons_cons] at enough ⊢
      have later := fun u member => each u (List.mem_cons_of_mem v member)
      have others := ih (List.cons_ne_nil w rest) later
      have length := plain.length_lt (',' :: renderItems (']' :: tail) (w :: rest))
      have lengths :=
        length_renderItems (fun u member => (later u member).1.length_lt) (']' :: tail)
      rw [List.length_cons] at length lengths
      obtain ⟨fuel, rfl⟩ : ∃ n, fuel = n + 2 := ⟨fuel - 2, by omega⟩
      have value := reads fuel depth (',' :: renderItems (']' :: tail) (w :: rest)) room
        (closes_cons (by decide)) (by rw [List.length_cons]; omega)
      have following := others (fuel + 1) (v :: acc) (by omega)
      rw [readItems, value]
      simp [skipSpace_cons (c := ',') rfl, following]

/-- What stands behind a text stands behind its closing quote. -/
theorem renderString_append (s : String) (tail : List Char) :
    renderString s ++ tail = '"' :: (s.toList.flatMap escape ++ '"' :: tail) := by
  simp [renderString]

/-- The members of an object read back, if the value of each of them does. -/
theorem readMembers_renderMembers {h depth : Nat} (room : depth + h < depthLimit)
    {members : List (String × Json)} (some : members ≠ [])
    (each : ∀ m ∈ members, Plain h m.2 ∧ Reads h m.2)
    (fuel : Nat) (acc : List (String × Json)) (tail : List Char)
    (enough : 2 * (renderMembers ('\x7d' :: tail) members).length ≤ fuel + 2 * tail.length) :
    readMembers fuel depth (.some acc) (renderMembers ('\x7d' :: tail) members) =
      .some (.some (acc.reverse ++ members), tail) := by
  induction members generalizing fuel acc with
  | nil => exact absurd rfl some
  | cons m rest ih =>
    have ⟨plain, reads⟩ := each m (List.mem_cons_self ..)
    cases rest with
    | nil =>
      rw [renderMembers, renderString_append] at enough ⊢
      simp only [List.length_cons, List.length_append] at enough
      have length := plain.length_lt ('\x7d' :: tail)
      rw [List.length_cons] at length
      obtain ⟨fuel, rfl⟩ : ∃ n, fuel = n + 2 := ⟨fuel - 2, by omega⟩
      have value := reads fuel depth ('\x7d' :: tail) room (closes_cons (by decide))
        (by rw [List.length_cons]; omega)
      rw [readMembers, skipSpace_cons rfl]
      simp [readString_render, skipSpace_cons (c := ':') rfl, value,
        skipSpace_cons (c := '\x7d') rfl]
    | cons n rest =>
      rw [renderMembers_cons_cons, renderString_append] at enough ⊢
      simp only [List.length_cons, List.length_append] at enough
      have later := fun u member => each u (List.mem_cons_of_mem m member)
      have others := ih (List.cons_ne_nil n rest) later
      have length := plain.length_lt (',' :: renderMembers ('\x7d' :: tail) (n :: rest))
      have lengths :=
        length_renderMembers (fun u member => (later u member).1.length_lt) ('\x7d' :: tail)
      rw [List.length_cons] at length lengths
      obtain ⟨fuel, rfl⟩ : ∃ n, fuel = n + 2 := ⟨fuel - 2, by omega⟩
      have value := reads fuel depth (',' :: renderMembers ('\x7d' :: tail) (n :: rest)) room
        (closes_cons (by decide)) (by rw [List.length_cons]; omega)
      have following := others (fuel + 1) (m :: acc) (by omega)
      rw [readMembers, skipSpace_cons rfl]
      simp [readString_render, skipSpace_cons (c := ':') rfl, value,
        skipSpace_cons (c := ',') rfl, following]

/-- A number is read where a digit stands. -/
theorem readValue_of_isDigit {d : Char} (digit : d.isDigit) (fuel depth : Nat)
    (rest : List Char) :
    readValue (fuel + 1) depth (d :: rest) =
      (readNumber (d :: rest)).bind fun (n, rest) =>
        some (if n.isFinite then .num n else .skipped, rest) := by
  rw [readValue, skipSpace_cons (isSpace_of_isDigit digit)]
  split
  -- every other case begins with a character that is no digit
  all_goals try (rename_i other; cases other; cases digit)
  rfl

/-- An array that does not close at once is read item by item. -/
theorem readValue_bracket {c : Char} (mark : isSpace c = false ∧ c ≠ ']') (fuel depth : Nat)
    (cs : List Char) :
    readValue (fuel + 1) depth ('[' :: c :: cs) =
      (readItems fuel (depth + 1) [] (c :: cs)).bind fun (items, rest) =>
        some (if depth + 1 < depthLimit then .arr items else .skipped, rest) := by
  simp only [readValue, skipSpace_cons (c := '[') rfl, skipSpace_cons mark.1]
  split
  · rename_i closing
    cases closing
    exact absurd rfl mark.2
  · rfl

/-- A plain value reads back. -/
theorem Plain.reads {h : Nat} {v : Json} (plain : Plain h v) : Reads h v := by
  induction plain with
  | null =>
    intro fuel depth tail _ _ _
    rw [renderOnto, readValue, skipSpace_cons rfl]
    rfl
  | bool b =>
    intro fuel depth tail _ _ _
    cases b
    all_goals
      rw [renderOnto, readValue, skipSpace_cons rfl]
      rfl
  | @nat h n small =>
    intro fuel depth tail _ closes _
    obtain ⟨d, ds, digits, digit, _⟩ := Digits.toDigits_eq_cons n
    have read := readNumber_toDigits small closes
    rw [Json.nat, renderOnto, renderNumber]
    rw [digits, List.cons_append] at read ⊢
    rw [readValue_of_isDigit digit, read]
    rfl
  | str s =>
    intro fuel depth tail _ _ _
    rw [renderOnto, renderString_append, readValue, skipSpace_cons rfl]
    simp [readString_render]
  | @arr h items each ih =>
    intro fuel depth tail room closes enough
    have inside : depth + 1 + h < depthLimit := by omega
    have within : depth + 1 < depthLimit := by omega
    rw [renderOnto] at enough ⊢
    cases items with
    | nil =>
      rw [renderItems, readValue, skipSpace_cons rfl]
      simp [skipSpace_cons (c := ']') rfl, within]
    | cons v rest =>
      have read := readItems_renderItems inside (List.cons_ne_nil v rest)
        (fun u member => ⟨each u member, ih u member⟩) fuel [] tail
        (by rw [List.length_cons] at enough; omega)
      have first := (each v (List.mem_cons_self ..)).opens
      obtain ⟨c, cs, front, mark⟩ : ∃ c cs, renderItems (']' :: tail) (v :: rest) = c :: cs ∧
          isSpace c = false ∧ c ≠ ']' := by
        cases rest with
        | nil => exact first _
        | cons w rest => exact renderItems_cons_cons _ v w rest ▸ first _
      rw [front] at read ⊢
      rw [readValue_bracket mark, read]
      simp [within]
  | @obj h members each ih =>
    intro fuel depth tail room closes enough
    have inside : depth + 1 + h < depthLimit := by omega
    have within : depth + 1 < depthLimit := by omega
    rw [renderOnto] at enough ⊢
    cases members with
    | nil =>
      rw [renderMembers, readValue, skipSpace_cons rfl]
      simp [skipSpace_cons (c := '\x7d') rfl, within]
    | cons m rest =>
      have read := readMembers_renderMembers inside (List.cons_ne_nil m rest)
        (fun u member => ⟨each u member, ih u member⟩) fuel [] tail
        (by rw [List.length_cons] at enough; omega)
      obtain ⟨cs, quote⟩ : ∃ cs, renderMembers ('\x7d' :: tail) (m :: rest) = '"' :: cs := by
        cases rest <;> simp [renderMembers, renderString]
      rw [quote] at read ⊢
      simp [readValue, skipSpace_cons (c := '\x7b') rfl, skipSpace_cons (c := '"') rfl, read,
        within]

/-! ## Texts -/

/-- The text of a plain value reads back as the value. -/
theorem parse_render {h : Nat} {v : Json} (plain : Plain h v) (shallow : h < depthLimit) :
    parse (render v) = some v := by
  have read := plain.reads (2 * (renderOnto [] v).length + 1) 0 [] (by omega) closes_nil
    (by omega)
  rw [parse, render, String.toList_ofList, ofChars, read]
  rfl

/-- The bytes of the text of a plain value read back as the value. -/
theorem parseUtf8_renderUtf8 {h : Nat} {v : Json} (plain : Plain h v)
    (shallow : h < depthLimit) : parseUtf8 (renderUtf8 v) = some v := by
  have text : Bytes.toText? (renderUtf8 v) = some (render v) := Bytes.toText?_ofText _
  rw [parseUtf8, text]
  exact parse_render plain shallow

end Json

end ClusterNode
