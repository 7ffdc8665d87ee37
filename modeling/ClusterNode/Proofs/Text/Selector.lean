import ClusterNode.Proofs.Text.Glob
import Mathlib.Data.List.TakeWhile

/-!
# The patterns of a selector

A selector is a list of globs between commas. `HasPattern` says which ones it has: what stands
between two commas without the blanks at its ends, unless nothing is left. Blanks at the ends of a
whole selector belong to no pattern, so that it makes no difference whether they are cut off
before the selector is split (`map_trim_splitOn_trim`).
-/

namespace ClusterNode.Text

/-! ## Blanks at the ends -/

/-- A text of blanks. -/
def Blank (cs : List Char) : Prop := ∀ c ∈ cs, isBlank c = true

/-- A text is another one without the blanks at its ends. -/
def Trims (cs trimmed : List Char) : Prop :=
  (∃ front back, cs = front ++ trimmed ++ back ∧ Blank front ∧ Blank back) ∧
    (∀ c ∈ trimmed.head?, isBlank c = false) ∧ ∀ c ∈ trimmed.getLast?, isBlank c = false

variable {cs front back trimmed : List Char}

/-- Blanks in the opposite order are blanks. -/
theorem Blank.reverse (blank : Blank cs) : Blank cs.reverse := fun c member =>
  blank c (List.mem_reverse.1 member)

/-- Blanks in front are trimmed away. -/
theorem trimStart_append_left (blank : Blank front) : trimStart (front ++ cs) = trimStart cs :=
  List.dropWhile_append_of_pos blank

/-- Trimming at the start leaves nothing of blanks only. -/
theorem trimStart_eq_nil_iff : trimStart cs = [] ↔ Blank cs := List.dropWhile_eq_nil_iff

/-- A text that begins with no blank is left at its start. -/
theorem trimStart_of_head (ordinary : ∀ c ∈ cs.head?, isBlank c = false) : trimStart cs = cs := by
  cases cs with
  | nil => rfl
  | cons c cs => exact List.dropWhile_cons_of_neg (by rw [ordinary c rfl]; exact Bool.false_ne_true)

/-- What is trimmed at the start begins with no blank. -/
theorem head?_trimStart (cs : List Char) : ∀ c ∈ (trimStart cs).head?, isBlank c = false := by
  intro c first
  have each := List.head?_dropWhile_not isBlank cs
  rw [show (cs.dropWhile isBlank).head? = some c from first] at each
  exact each

/-- A text is some blanks and what trimming at the start leaves. -/
theorem exists_append_trimStart (cs : List Char) :
    ∃ front, cs = front ++ trimStart cs ∧ Blank front :=
  ⟨cs.takeWhile isBlank, List.takeWhile_append_dropWhile.symm, fun _ member =>
    List.mem_takeWhile_imp member⟩

/-- Blanks in front do not matter to what is trimmed. -/
theorem trim_append_left (blank : Blank front) : trim (front ++ cs) = trim cs := by
  rw [trim, trimStart_append_left blank, trim]

/-- Trimming leaves nothing of blanks only. -/
theorem trim_eq_nil_iff : trim cs = [] ↔ Blank cs := by
  rw [trim, List.reverse_eq_nil_iff, trimStart_eq_nil_iff]
  constructor
  · intro blank
    obtain ⟨front, whole, first⟩ := exists_append_trimStart cs
    rw [whole]
    have rest := blank.reverse
    rw [List.reverse_reverse] at rest
    exact List.forall_mem_append.2 ⟨first, rest⟩
  · intro blank
    rw [trimStart_eq_nil_iff.2 blank]
    exact nofun

/-- Blanks behind do not matter to what is trimmed. -/
theorem trim_append_right (blank : Blank back) : trim (cs ++ back) = trim cs := by
  by_cases none : Blank cs
  · rw [trim_eq_nil_iff.2 none, trim_eq_nil_iff]
    exact List.forall_mem_append.2 ⟨none, blank⟩
  · have kept : trimStart (cs ++ back) = trimStart cs ++ back := by
      have some : (cs.dropWhile isBlank).isEmpty = false := by
        rw [List.isEmpty_eq_false_iff]
        exact mt trimStart_eq_nil_iff.1 none
      rw [trimStart, List.dropWhile_append, some]
      rfl
    rw [trim, kept, List.reverse_append, trimStart_append_left blank.reverse, trim]

/-- Trimming takes the blanks at both ends. -/
theorem trims_trim (cs : List Char) : Trims cs (trim cs) := by
  obtain ⟨front, whole, blank⟩ := exists_append_trimStart cs
  obtain ⟨back, rest, blank'⟩ := exists_append_trimStart (trimStart cs).reverse
  have inside : trimStart cs = trim cs ++ back.reverse := by
    rw [trim, ← List.reverse_append, ← rest, List.reverse_reverse]
  refine ⟨⟨front, back.reverse, ?_, blank, blank'.reverse⟩, fun c first => ?_, fun c last => ?_⟩
  · rw [List.append_assoc, ← inside]
    exact whole
  · refine head?_trimStart cs c ?_
    rw [inside, List.head?_append, first]
    rfl
  · rw [trim, List.getLast?_reverse] at last
    exact head?_trimStart _ c last

/-- A text without the blanks at its ends is what trimming leaves. -/
theorem trim_eq_iff : trim cs = trimmed ↔ Trims cs trimmed := by
  constructor
  · rintro rfl
    exact trims_trim cs
  · rintro ⟨⟨front, back, rfl, blank, blank'⟩, first, last⟩
    rw [trim_append_right blank', trim_append_left blank, trim, trimStart_of_head first,
      trimStart_of_head (by rwa [List.head?_reverse]), List.reverse_reverse]

/-! ## Patterns -/

/-- A selector has a pattern. -/
def HasPattern (selector pattern : List Char) : Prop :=
  pattern ≠ [] ∧ ∃ piece ∈ selector.splitOn ',', Trims piece pattern

/-- The patterns of a selector are its pieces without blanks, if anything is left. -/
theorem mem_patterns_iff {selector pattern : List Char} :
    pattern ∈ ((selector.splitOn ',').map trim).filter (!·.isEmpty) ↔
      HasPattern selector pattern := by
  simp only [List.mem_filter, List.mem_map, trim_eq_iff, Bool.not_eq_true',
    List.isEmpty_eq_false_iff, HasPattern]
  exact and_comm

/-- A blank is no comma. -/
theorem ne_comma_of_isBlank {c : Char} (blank : isBlank c = true) : (c == ',') = false := by
  rw [beq_eq_false_iff_ne]
  rintro rfl
  exact absurd blank (by decide)

/-- Blanks in front of a text go with its first piece. -/
theorem splitOn_append_left (blank : Blank front) (cs : List Char) :
    (front ++ cs).splitOn ',' = (cs.splitOn ',').modifyHead (front ++ ·) := by
  induction front with
  | nil => exact (congrFun List.modifyHead_id _).symm
  | cons c front ih =>
    have ⟨first, others⟩ := List.forall_mem_cons.1 blank
    rw [List.cons_append, List.splitOn_cons_eq_if_modifyHead, ne_comma_of_isBlank first, ih others]
    simp [Function.comp_def]

/-- Blanks behind a text go with its last piece. -/
theorem splitOn_append_right (blank : Blank back) (cs : List Char) :
    ∃ pieces last, cs.splitOn ',' = pieces ++ [last] ∧
      (cs ++ back).splitOn ',' = pieces ++ [last ++ back] := by
  induction cs with
  | nil =>
    have alone := splitOn_append_left blank []
    rw [List.append_nil] at alone
    exact ⟨[], [], rfl, alone.trans (by simp)⟩
  | cons c cs ih =>
    obtain ⟨pieces, last, split, split'⟩ := ih
    rw [List.cons_append, List.splitOn_cons_eq_if_modifyHead, List.splitOn_cons_eq_if_modifyHead,
      split, split']
    by_cases comma : (c == ',') = true
    · exact ⟨[] :: pieces, last, by simp [comma], by simp [comma]⟩
    · rw [if_neg comma, if_neg comma]
      cases pieces with
      | nil => exact ⟨[], c :: last, rfl, rfl⟩
      | cons piece pieces => exact ⟨(c :: piece) :: pieces, last, rfl, rfl⟩

/-- The pieces of a text without the blanks at its ends are those of the text, up to blanks at
their ends. -/
theorem map_trim_splitOn_trim (cs : List Char) :
    ((trim cs).splitOn ',').map trim = (cs.splitOn ',').map trim := by
  obtain ⟨⟨front, back, whole, blank, blank'⟩, _⟩ := trims_trim cs
  obtain ⟨pieces, last, split, split'⟩ := splitOn_append_right blank' (front ++ trim cs)
  rw [← whole] at split'
  have behind : (cs.splitOn ',').map trim = ((front ++ trim cs).splitOn ',').map trim := by
    rw [split', split]
    simp [trim_append_right blank']
  rw [behind, splitOn_append_left blank]
  cases (trim cs).splitOn ',' with
  | nil => rfl
  | cons piece pieces => simp [trim_append_left blank]

/-! ## Selection -/

/-- A selector selects a text if one of its patterns matches it. -/
def Selects (selector text : List Char) : Prop :=
  ∃ pattern, HasPattern selector pattern ∧ GlobMatches pattern text

/-- The test of a selector says what it selects. -/
theorem selects_iff (selector text : String) :
    selects selector text = true ↔ Selects selector.toList text.toList := by
  simp only [selects, selectorPatterns, List.any_eq_true, mem_patterns_iff, globMatches_iff,
    Selects]

/-- The tests that an engine makes of the patterns of a trimmed selector, if it compiles all of
them. -/
theorem Engine.any_tests_iff {engine : Engine} (documented : engine.Documented)
    {selector : List Char}
    (compiles : ∀ pattern, HasPattern selector pattern →
      (engine.compile (Expression.ofGlob pattern)).isSome = true) (text : List Char) :
    ((engine.tests (trim selector)).any fun test => test text) = true ↔ Selects selector text := by
  rw [tests, map_trim_splitOn_trim]
  simp only [List.any_eq_true, List.mem_filterMap, mem_patterns_iff]
  constructor
  · rintro ⟨test, ⟨pattern, has, compiled⟩, passed⟩
    exact ⟨pattern, has, (compile_ofGlob documented compiled text).1 passed⟩
  · rintro ⟨pattern, has, matched⟩
    obtain ⟨test, compiled⟩ := Option.isSome_iff_exists.1 (compiles pattern has)
    exact ⟨test, ⟨pattern, has, compiled⟩, (compile_ofGlob documented compiled text).2 matched⟩

end ClusterNode.Text
