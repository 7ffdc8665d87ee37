import ClusterNode.Text.Expression

/-!
# What globs match

`GlobMatches` reads a glob by recursion on it. The rows of `globMatches` decide it, and the regular
expression of a glob is found in the texts that the glob matches and in no other one
(`compile_ofGlob`): no character of a glob gets a meaning that it does not have there.
-/

namespace ClusterNode.Text

/-! ## Globs -/

section

variable (accepts : Char → Bool) (holds : List Char → Prop)

/-- A text starts with a character that is accepted, and something holds of the rest. -/
def OneThen (text : List Char) : Prop :=
  ∃ c rest, text = c :: rest ∧ accepts c = true ∧ holds rest

/-- A text starts with a run, maybe empty, of characters that are accepted, and something holds of
the rest. -/
def RunThen (text : List Char) : Prop :=
  ∃ run rest, text = run ++ rest ∧ (∀ c ∈ run, accepts c = true) ∧ holds rest

variable {accepts holds} {c : Char} {cs : List Char}

/-- An empty text starts with no character. -/
theorem not_oneThen_nil : ¬OneThen accepts holds [] := by
  rintro ⟨c, rest, whole, _⟩
  cases whole

/-- A text starts with one character if its first one is accepted. -/
theorem oneThen_cons : OneThen accepts holds (c :: cs) ↔ accepts c = true ∧ holds cs := by
  constructor
  · rintro ⟨_, _, whole, accepted, held⟩
    cases whole
    exact ⟨accepted, held⟩
  · rintro ⟨accepted, held⟩
    exact ⟨c, cs, rfl, accepted, held⟩

/-- An empty text starts with an empty run only. -/
theorem runThen_nil : RunThen accepts holds [] ↔ holds [] := by
  constructor
  · rintro ⟨run, rest, whole, _, held⟩
    obtain ⟨rfl, rfl⟩ := List.append_eq_nil_iff.1 whole.symm
    exact held
  · intro held
    exact ⟨[], [], rfl, nofun, held⟩

/-- A run is empty, or begins with a character that is accepted and goes on. -/
theorem runThen_cons :
    RunThen accepts holds (c :: cs) ↔
      holds (c :: cs) ∨ accepts c = true ∧ RunThen accepts holds cs := by
  constructor
  · rintro ⟨run, rest, whole, accepted, held⟩
    cases run with
    | nil =>
      rw [List.nil_append] at whole
      exact .inl (whole ▸ held)
    | cons d run =>
      cases whole
      have ⟨first, others⟩ := List.forall_mem_cons.1 accepted
      exact .inr ⟨first, run, rest, rfl, others, held⟩
  · rintro (held | ⟨first, run, rest, rfl, others, held⟩)
    · exact ⟨[], c :: cs, rfl, nofun, held⟩
    · exact ⟨c :: run, rest, rfl, List.forall_mem_cons.2 ⟨first, others⟩, held⟩

end

/-- A glob matches a whole text: a star stands for any run of characters that are no line feeds, a
question mark for one, and every other character for itself. -/
def GlobMatches : List Char → List Char → Prop
  | [], text => text = []
  | '*' :: pattern, text => RunThen (· != '\n') (GlobMatches pattern) text
  | '?' :: pattern, text => OneThen (· != '\n') (GlobMatches pattern) text
  | p :: pattern, text => OneThen (· == p) (GlobMatches pattern) text

/-- An ordinary character of a glob stands for itself. -/
theorem GlobMatches.ordinary {p : Char} {pattern : List Char} (star : p ≠ '*')
    (question : p ≠ '?') :
    GlobMatches (p :: pattern) = OneThen (· == p) (GlobMatches pattern) := by
  ext text
  rw [GlobMatches]
  · exact star
  · exact question

/-! ## Rows -/

/-- A row tells of every suffix of a text, the whole text first, whether something holds of it. -/
inductive Marks (holds : List Char → Prop) : List Char → List Bool → Prop where
  | nil {b : Bool} (here : b = true ↔ holds []) : Marks holds [] [b]
  | cons {c : Char} {cs : List Char} {b : Bool} {row : List Bool}
      (here : b = true ↔ holds (c :: cs)) (rest : Marks holds cs row) :
      Marks holds (c :: cs) (b :: row)

namespace Marks

variable {holds : List Char → Prop} {cs : List Char} {row : List Bool}

/-- A row begins with the mark of the whole text. -/
theorem head (marks : Marks holds cs row) : row.headD false = true ↔ holds cs := by
  cases marks with
  | nil here => exact here
  | cons here _ => exact here

/-- The row of the empty glob. -/
theorem ofEmpty (cs : List Char) : Marks (· = []) cs (cs.map (fun _ => false) ++ [true]) := by
  induction cs with
  | nil => exact .nil (by simp)
  | cons c cs ih => exact .cons (by simp) ih

/-- The row in front of a run marks where a run leads on. -/
theorem beforeRun (marks : Marks holds cs row) :
    Marks (RunThen (· != '\n') holds) cs (rowBeforeRun cs row) := by
  induction marks with
  | nil here => exact .nil (by rw [here, runThen_nil])
  | cons here rest ih =>
    refine .cons ?_ ih
    rw [Bool.or_eq_true, Bool.and_eq_true, here, ih.head, runThen_cons]

/-- The row in front of a character marks where the character leads on. -/
theorem beforeChar (accepts : Char → Bool) (marks : Marks holds cs row) :
    Marks (OneThen accepts holds) cs (rowBeforeChar accepts cs row) := by
  induction marks with
  | nil here => exact .nil (by simp [not_oneThen_nil])
  | cons here rest ih =>
    cases rest with
    | nil next =>
      refine .cons ?_ ih
      rw [Bool.and_eq_true, next, oneThen_cons]
    | cons next rest =>
      refine .cons ?_ ih
      rw [Bool.and_eq_true, next, oneThen_cons]

end Marks

/-- The row of a glob, from its end. -/
theorem marks_globRow (pattern text : List Char) :
    Marks (GlobMatches pattern) text (globRow pattern text) := by
  fun_induction globRow pattern text with
  | case1 text => exact .ofEmpty text
  | case2 pattern text ih => exact ih.beforeRun
  | case3 pattern text ih => exact ih.beforeChar _
  | case4 p pattern text star question ih =>
    rw [GlobMatches.ordinary star question]
    exact ih.beforeChar _

/-- The matcher says that a glob matches exactly if it does. -/
theorem globMatches_iff (pattern text : List Char) :
    globMatches pattern text = true ↔ GlobMatches pattern text :=
  (marks_globRow pattern text).head

/-! ## Regular expressions -/

namespace Expression

/-- What a character of a glob says in an expression. -/
def globMarks (c : Char) : List Mark :=
  if c = '*' then [.symbol .any, .star] else if c = '?' then [.symbol .any]
  else [.symbol (.char c)]

/-- The part of an expression that a character of a glob is. -/
def globItem (c : Char) : Item :=
  if c = '*' then .many .any else if c = '?' then .one .any else .one (.char c)

section

variable {c : Char} {cs : List Char} {ms : List Mark}

/-- Without a backslash, a character says what its mark does. -/
theorem marks?_cons (bare : c ≠ '\\') :
    marks? (c :: cs) = (mark? c).bind fun m => (marks? cs).map (m :: ·) := by
  rw [marks?]
  rintro _ _ rfl
  exact absurd rfl bare

/-- A character written as itself is read as itself. -/
theorem marks?_escape (c : Char) (cs : List Char) :
    marks? (escape c ++ cs) = (marks? cs).map (.symbol (.char c) :: ·) := by
  unfold escape
  split
  · rename_i special
    exact if_pos special
  · rename_i ordinary
    have other : ∀ d, isMeta d = true → c ≠ d := by
      rintro d special rfl
      exact ordinary special
    have mark : mark? c = some (.symbol (.char c)) := by
      rw [mark?, if_neg (other '^' rfl), if_neg (other '$' rfl), if_neg (other '.' rfl),
        if_neg (other '*' rfl), if_neg ordinary]
    rw [List.singleton_append, marks?_cons (other '\\' rfl), mark, Option.bind_some]

/-- The expression of a glob character reads as what it says. -/
theorem marks?_ofGlobChar (c : Char) (cs : List Char) :
    marks? (ofGlobChar c ++ cs) = (marks? cs).map (globMarks c ++ ·) := by
  unfold ofGlobChar globMarks
  split
  · simp [marks?_cons, mark?, Option.map_map, Function.comp_def]
  · split
    · simp [marks?_cons, mark?]
    · exact marks?_escape c cs

/-- The expression of a glob reads as what its characters say, between the anchors. -/
theorem marks?_ofGlob (pattern : List Char) :
    marks? (ofGlob pattern) =
      some (.item .start :: (pattern.flatMap globMarks ++ [.item .stop])) := by
  have inside : marks? (pattern.flatMap ofGlobChar ++ ['$']) =
      some (pattern.flatMap globMarks ++ [.item .stop]) := by
    induction pattern with
    | nil => rfl
    | cons c pattern ih =>
      rw [List.flatMap_cons, List.append_assoc, marks?_ofGlobChar, ih, Option.map_some,
        List.flatMap_cons, List.append_assoc]
  rw [ofGlob, List.cons_append, marks?_cons (by decide), inside]
  rfl

/-- No mark of a glob makes what follows it a run. -/
theorem items?_globMarks (alone : ms.head? ≠ some .star) :
    items? (globMarks c ++ ms) = (items? ms).map (globItem c :: ·) := by
  have single (x : Symbol) : items? (.symbol x :: ms) = (items? ms).map (.one x :: ·) := by
    rw [items?]
    rintro _ rfl
    exact alone rfl
  unfold globMarks globItem
  split
  · rfl
  · split
    · exact single .any
    · exact single (.char c)

/-- What the characters of a glob say does not begin with a star. -/
theorem head?_globMarks (pattern : List Char) :
    (pattern.flatMap globMarks ++ [Mark.item .stop]).head? ≠ some .star := by
  cases pattern with
  | nil => decide
  | cons c pattern =>
    rw [List.flatMap_cons, globMarks]
    split
    · simp
    · split <;> simp

/-- The expression of a glob is made of the parts that its characters are, between anchors. -/
theorem read?_ofGlob (pattern : List Char) :
    read? (ofGlob pattern) = some (.start :: (pattern.map globItem ++ [.stop])) := by
  have inside : items? (pattern.flatMap globMarks ++ [.item .stop]) =
      some (pattern.map globItem ++ [.stop]) := by
    induction pattern with
    | nil => rfl
    | cons c pattern ih =>
      rw [List.flatMap_cons, List.append_assoc, items?_globMarks (head?_globMarks pattern), ih]
      rfl
  rw [read?, marks?_ofGlob, Option.bind_some, items?, inside]
  rfl

end

section

variable {x : Symbol} {items : List Item} {fresh : Bool} {cs text : List Char}

/-- One symbol leads on past a character that it accepts. -/
theorem leads_one :
    Leads (.one x :: items) fresh cs ↔ OneThen x.accepts (Leads items false) cs := by
  cases cs with
  | nil => simp [Leads, not_oneThen_nil]
  | cons c cs => simp [Leads, oneThen_cons]

/-- A run is one of characters that are accepted, if it makes no difference to the rest what stands
in front of it. -/
theorem leads_many {holds : List Char → Prop}
    (same : ∀ fresh cs, Leads items fresh cs ↔ holds cs) :
    Leads (.many x :: items) fresh cs ↔ RunThen x.accepts holds cs := by
  simp only [Leads, same]
  constructor
  · rintro ⟨n, _, accepted, held⟩
    exact ⟨cs.take n, cs.drop n, (List.take_append_drop n cs).symm, accepted, held⟩
  · rintro ⟨run, rest, rfl, accepted, held⟩
    refine ⟨run.length, by simp, ?_, ?_⟩
    · rwa [List.take_left]
    · rwa [List.drop_left]

/-- The expression of a glob leads to the end of the texts that the glob matches. -/
theorem leads_glob (pattern : List Char) (fresh : Bool) (cs : List Char) :
    Leads (pattern.map globItem ++ [.stop]) fresh cs ↔ GlobMatches pattern cs := by
  induction pattern generalizing fresh cs with
  | nil => simp [Leads, GlobMatches]
  | cons c pattern ih =>
    have rest : Leads (pattern.map globItem ++ [.stop]) false = GlobMatches pattern :=
      funext fun cs => propext (ih false cs)
    rw [List.map_cons, List.cons_append]
    by_cases star : c = '*'
    · subst star
      exact leads_many ih
    · by_cases question : c = '?'
      · subst question
        exact leads_one.trans (by rw [rest]; rfl)
      · rw [globItem, if_neg star, if_neg question, leads_one, rest,
          GlobMatches.ordinary star question]
        rfl

/-- What starts with an anchor leads on from the front of a text or from nowhere. -/
theorem finds_start : Finds (.start :: items) text ↔ Leads items true text := by
  constructor
  · rintro ⟨n, _, first, leads⟩
    obtain rfl : n = 0 := by simpa using first
    exact leads
  · intro leads
    exact ⟨0, Nat.zero_le _, rfl, leads⟩

end

end Expression

/-- The engine that goes by the meaning of an expression. -/
def Engine.reading : Engine where
  compile expression :=
    (Expression.read? expression).map fun items text => decide (Expression.Finds items text)

/-- The engine goes by the meaning of what it reads. -/
theorem Engine.compile_reading (expression : List Char) :
    reading.compile expression = (Expression.read? expression).map fun items text =>
      decide (Expression.Finds items text) := rfl

/-- The engine that goes by the meaning does what is documented. -/
theorem Engine.documented_reading : reading.Documented := by
  intro expression items test read compiled text
  rw [compile_reading, read] at compiled
  cases compiled
  exact decide_eq_true_iff

/-- The engine compiles the expression of every glob. -/
theorem Engine.isSome_reading_ofGlob (pattern : List Char) :
    (reading.compile (Expression.ofGlob pattern)).isSome = true := by
  rw [compile_reading, Expression.read?_ofGlob]
  rfl

/-- An engine that does what is documented of one tests, for the expression of a glob, whether the
glob matches. -/
theorem Engine.compile_ofGlob {engine : Engine} (documented : engine.Documented)
    {pattern : List Char} {test : List Char → Bool}
    (compiled : engine.compile (Expression.ofGlob pattern) = some test) (text : List Char) :
    test text = true ↔ GlobMatches pattern text := by
  rw [documented _ _ _ (Expression.read?_ofGlob pattern) compiled, Expression.finds_start,
    Expression.leads_glob]

end ClusterNode.Text
