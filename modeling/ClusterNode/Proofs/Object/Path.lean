import ClusterNode.Event
import ClusterNode.Proofs.Json.Text

/-!
# Written object paths

The written form of an object names it, with one exception: the service `cluster` of the root
namespace is written as the cluster object is. `printsBack_iff` says so of every object that a
text names, and that no two other ones share a written form; with it go the key of an object in
the tree, its label and its text on the wire.
-/

namespace ClusterNode

/-- The name of a kind parses to the kind. -/
theorem Kind.parse_name (k : Kind) : Kind.parse k.name = .ok k := by
  cases k <;> rfl

namespace ObjectPath

/-! ## Forms that name their object -/

/-- The written form of the path names it. -/
def PrintsBack (p : ObjectPath) : Prop := parse p.toString = .ok p

instance (p : ObjectPath) : Decidable p.PrintsBack :=
  match parsed : parse p.toString with
  | .ok q =>
    if same : q = p then isTrue (by rw [PrintsBack, parsed, same])
    else isFalse fun named => same (Except.ok.inj (parsed.symm.trans named))
  | .error _ => isFalse fun named => nomatch parsed.symm.trans named

/-- A text that is an object path in its written form. -/
def IsWritten (key : String) : Prop := ∃ p, parse key = .ok p ∧ p.toString = key

instance (key : String) : Decidable (IsWritten key) :=
  match parsed : parse key with
  | .ok p =>
    if same : p.toString = key then isTrue ⟨p, parsed, same⟩
    else isFalse fun ⟨q, named, written⟩ => by
      cases parsed.symm.trans named
      exact same written
  | .error _ => isFalse fun ⟨_, named, _⟩ => nomatch parsed.symm.trans named

variable {p q : ObjectPath}

/-- A path that prints back has a written form. -/
theorem PrintsBack.isWritten (back : p.PrintsBack) : IsWritten p.toString := ⟨p, back, rfl⟩

/-- A written form names one object. -/
theorem PrintsBack.inj (back : p.PrintsBack) (back' : q.PrintsBack)
    (same : p.toString = q.toString) : p = q := by
  unfold PrintsBack at back back'
  rw [same, back'] at back
  cases back
  rfl

/-! ## Parts -/

/-- A text that may stand between slashes. -/
def IsPart (s : String) : Prop := s ≠ "" ∧ '/' ∉ s.toList

/-- What stands between separators has none. -/
theorem not_mem_of_mem_splitOn {α : Type} [BEq α] [LawfulBEq α] {a : α} {xs part : List α}
    (member : part ∈ xs.splitOn a) : a ∉ part := by
  induction xs generalizing part with
  | nil =>
    rw [List.splitOn_nil, List.mem_singleton] at member
    subst member
    exact List.not_mem_nil
  | cons x xs ih =>
    rw [List.splitOn_cons_eq_if_modifyHead] at member
    split at member
    · rcases List.mem_cons.1 member with rfl | later
      · exact List.not_mem_nil
      · exact ih later
    · rename_i other
      obtain ⟨first, others, split⟩ := List.exists_cons_of_ne_nil (List.splitOn_ne_nil a xs)
      rw [split] at ih member
      rcases List.mem_cons.1 member with rfl | later
      · have rest := ih (List.mem_cons_self ..)
        rw [List.mem_cons, not_or]
        exact ⟨fun same => other (by rw [same]; exact BEq.rfl), rest⟩
      · exact ih (List.mem_cons_of_mem _ later)

/-- A text without a slash is one part. -/
theorem parts_of_isPart {s : String} (part : IsPart s) : parts s = [s] := by
  rw [parts, List.splitOn_eq_singleton part.2]
  simp

/-- A part before a slash is the first one. -/
theorem parts_append {s : String} (part : IsPart s) (t : String) :
    parts (s ++ "/" ++ t) = s :: parts t := by
  have joined : (s ++ "/" ++ t).toList = s.toList ++ '/' :: t.toList := by simp
  rw [parts, joined, List.splitOn_append_cons_self_of_not_mem part.2, List.map_cons,
    String.ofList_toList, parts]

/-- The parts of a path are such, if none is empty. -/
theorem isPart_of_mem_parts {s part : String} (full : ¬(parts s).any (· == ""))
    (member : part ∈ parts s) : IsPart part := by
  obtain ⟨cs, piece, rfl⟩ := List.mem_map.1 member
  refine ⟨fun empty => full (List.any_eq_true.2 ⟨_, member, by simp [empty]⟩), ?_⟩
  rw [String.toList_ofList]
  exact not_mem_of_mem_splitOn piece

/-- The name of a kind may stand between slashes. -/
theorem isPart_kind (k : Kind) : IsPart k.name := by
  cases k <;> exact ⟨by decide, by decide⟩

/-- The name of the root namespace may stand between slashes. -/
theorem isPart_rootSpace : IsPart rootSpace := ⟨by decide, by decide⟩

/-- Namespace and name of an object that a text names are parts. -/
theorem isPart_of_parse {s : String} (parsed : parse s = .ok p) :
    IsPart p.space ∧ IsPart p.name := by
  unfold parse at parsed
  dsimp only at parsed
  split at parsed
  · cases parsed
  · rename_i full
    have each := fun part (member : part ∈ _) => isPart_of_mem_parts full member
    split at parsed
    · rename_i name one
      rw [one] at each
      split at parsed
      · cases parsed
        exact ⟨isPart_rootSpace, by decide, by decide⟩
      · cases parsed
        exact ⟨isPart_rootSpace, each name (List.mem_cons_self ..)⟩
    · rename_i kind name two
      rw [two] at each
      cases named : Kind.parse kind with
      | error e => rw [named] at parsed; cases parsed
      | ok k =>
        rw [named] at parsed
        cases parsed
        exact ⟨isPart_rootSpace, each name (by simp)⟩
    · rename_i space kind name three
      rw [three] at each
      cases named : Kind.parse kind with
      | error e => rw [named] at parsed; cases parsed
      | ok k =>
        rw [named] at parsed
        cases parsed
        exact ⟨each space (by simp), each name (by simp)⟩
    · cases parsed

/-! ## What the forms name -/

/-- A name alone is that of a service, or of the cluster. -/
theorem parse_name {name : String} (part : IsPart name) :
    parse name = .ok (if name = clusterName then cluster else ⟨rootSpace, .svc, name⟩) := by
  rw [parse, parts_of_isPart part]
  simp only [List.any_cons, List.any_nil, Bool.or_false, beq_iff_eq, if_neg part.1]
  split <;> rfl

/-- A kind and a name are those of an object of the root namespace. -/
theorem parse_kind_name (kind : Kind) {name : String} (part : IsPart name) :
    parse (kind.name ++ "/" ++ name) = .ok ⟨rootSpace, kind, name⟩ := by
  rw [parse, parts_append (isPart_kind kind), parts_of_isPart part]
  simp only [List.any_cons, List.any_nil, Bool.or_false, Bool.or_eq_true, beq_iff_eq, part.1,
    (isPart_kind kind).1, or_self, if_false, Kind.parse_name]
  rfl

/-- Three parts are those of an object. -/
theorem parse_space_kind_name {space : String} (part : IsPart space) (kind : Kind)
    {name : String} (part' : IsPart name) :
    parse (space ++ "/" ++ kind.name ++ "/" ++ name) = .ok ⟨space, kind, name⟩ := by
  have grouped : space ++ "/" ++ kind.name ++ "/" ++ name =
      space ++ "/" ++ (kind.name ++ "/" ++ name) := by
    simp only [String.append_assoc]
  rw [grouped, parse, parts_append part, parts_append (isPart_kind kind), parts_of_isPart part']
  simp only [List.any_cons, List.any_nil, Bool.or_false, Bool.or_eq_true, beq_iff_eq, part.1,
    part'.1, (isPart_kind kind).1, or_self, if_false, Kind.parse_name]
  rfl

/-- The service that is written as the cluster object is. -/
def clusterService : ObjectPath := ⟨rootSpace, .svc, clusterName⟩

/-- What the written form of an object names. -/
theorem parse_toString (space : IsPart p.space) (name : IsPart p.name) :
    parse p.toString = .ok (if p = clusterService then cluster else p) := by
  obtain ⟨ns, kind, n⟩ := p
  dsimp only at space name
  unfold toString
  dsimp only
  split
  · rename_i root
    subst root
    split
    · rename_i short
      rw [parse_name name]
      rcases short with rfl | ⟨rfl, rfl⟩
      · simp [clusterService]
      · simp [clusterService, cluster]
    · rename_i long
      rw [parse_kind_name kind name, if_neg]
      rintro ofCluster
      cases ofCluster
      exact long (.inl rfl)
  · rename_i other
    rw [parse_space_kind_name space kind name, if_neg]
    rintro ofCluster
    cases ofCluster
    exact other rfl

/-! ## Keys, labels and wire texts -/

/-- Whether two objects have the same key in the tree, the same label on the bus or the same
text on the wire. -/
def SharesForm (p q : ObjectPath) : Prop :=
  p.toString = q.toString ∨ Label.path p = Label.path q ∨
    Json.render (toJson p) = Json.render (toJson q)

/-- All three are the written form in some dress. -/
theorem sharesForm_iff : p.SharesForm q ↔ p.toString = q.toString := by
  constructor
  · rintro (key | label | text)
    · exact key
    · exact congrArg Label.value label
    · have read := fun s : String =>
        Json.parse_render (h := 0) (.str s) (by decide)
      have same : some (Json.str p.toString) = some (Json.str q.toString) := by
        rw [← read, ← read]
        exact congrArg Json.parse text
      simpa using same
  · exact Or.inl

/-- Of the objects that texts name, the service `cluster` alone is not named by its written
form, which is that of the cluster object; no two other objects share a form. -/
theorem printsBack_iff {s t : String} (parsed : parse s = .ok p) (parsed' : parse t = .ok q) :
    (p.PrintsBack ↔ p ≠ clusterService) ∧
    (p = clusterService → parse p.toString = .ok cluster) ∧
    (p ≠ q → (p.SharesForm q ↔
      p = cluster ∧ q = clusterService ∨ p = clusterService ∧ q = cluster)) := by
  have ⟨space, name⟩ := isPart_of_parse parsed
  have ⟨space', name'⟩ := isPart_of_parse parsed'
  have back := parse_toString space name
  have back' := parse_toString space' name'
  have other : cluster ≠ clusterService := by decide
  refine ⟨?_, fun exception => by rw [back, if_pos exception], fun different => ?_⟩
  · rw [PrintsBack, back, Except.ok.injEq]
    constructor
    · rintro same rfl
      exact other same
    · exact fun ordinary => if_neg ordinary
  · rw [sharesForm_iff]
    constructor
    · intro same
      -- both objects are what their common form names, or the exception
      have named := back.symm.trans (same ▸ back')
      rw [Except.ok.injEq] at named
      split at named <;> split at named
      · simp_all
      · exact .inr ⟨by assumption, named.symm⟩
      · exact .inl ⟨named, by assumption⟩
      · exact absurd named different
    · rintro (⟨rfl, rfl⟩ | ⟨rfl, rfl⟩) <;> rfl

/-- The service of the root namespace, and one of its name in another namespace. -/
theorem printsBack_iff_of_namesakes :
    parse "root/svc/cluster" = .ok clusterService ∧
    parse "ns/svc/cluster" = .ok ⟨"ns", .svc, "cluster"⟩ ∧
    ¬clusterService.PrintsBack ∧ ¬clusterService.SharesForm ⟨"ns", .svc, "cluster"⟩ := by
  have parsed : parse "root/svc/cluster" = .ok clusterService := by rfl
  have parsed' : parse "ns/svc/cluster" = .ok ⟨"ns", .svc, "cluster"⟩ := by rfl
  obtain ⟨back, _, shares⟩ := printsBack_iff parsed parsed'
  refine ⟨parsed, parsed', fun named => back.1 named rfl, fun shared => ?_⟩
  rcases (shares (by decide)).1 shared with ⟨same, _⟩ | ⟨_, same⟩
  · exact absurd same (by decide)
  · exact absurd same (by decide)

/-- The service `cluster` is named by a text, but its written form names the cluster object,
and has the key, the label and the wire text of it. -/
theorem clusterService_names_cluster :
    parse "svc/cluster" = .ok clusterService ∧ parse "cluster" = .ok cluster ∧
    clusterService ≠ cluster ∧ parse clusterService.toString = .ok cluster ∧
    clusterService.toString = cluster.toString ∧
    Label.path clusterService = Label.path cluster ∧
    Json.render (toJson clusterService) = Json.render (toJson cluster) :=
  ⟨rfl, rfl, by decide, rfl, rfl, rfl, rfl⟩

end ObjectPath

end ClusterNode
