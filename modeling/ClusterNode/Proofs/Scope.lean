import ClusterNode.Scope
import ClusterNode.Settings.Node
import Mathlib.Data.List.Basic
import Mathlib.Data.List.Induction

/-!
# The order of a scope

A list of nodes is read in two passes that both leave out what came before: one over the entries of
the list, one over the names that they stand for. `eraseDups_flatMap_eraseDups` makes one pass of
them, so that the scope of a list is the names that its entries stand for, each where it first
occurs (`FirstOccurrences`).

An object without a list is scoped to the members as they come, and nothing is left out of these:
the scope names a node twice if the membership does, and only then (`ofFile?_lists`).
-/

namespace ClusterNode

/-! ## First occurrences -/

/-- A list has the names of another one, each once, in the order in which they first occur. -/
structure FirstOccurrences (all once : List String) : Prop where
  nodup : once.Nodup
  mem_iff : ∀ name, name ∈ once ↔ name ∈ all
  ordered : once.Pairwise fun a b => all.idxOf a < all.idxOf b

section

variable {all once ws : List String} {name : String}

/-- A name that comes behind others is in the list, or is its new last one. -/
theorem FirstOccurrences.concat (first : FirstOccurrences all once) (name : String) :
    FirstOccurrences (all ++ [name]) (if name ∈ all then once else once ++ [name]) := by
  have stays : once.Pairwise fun a b => (all ++ [name]).idxOf a < (all ++ [name]).idxOf b := by
    refine first.ordered.imp_of_mem fun {a b} here there less => ?_
    rwa [List.idxOf_append_of_mem ((first.mem_iff a).1 here),
      List.idxOf_append_of_mem ((first.mem_iff b).1 there)]
  split
  · rename_i old
    refine ⟨first.nodup, fun n => ?_, stays⟩
    rw [first.mem_iff, List.mem_append, List.mem_singleton]
    exact ⟨.inl, fun some => some.elim id fun same => same ▸ old⟩
  · rename_i new
    refine ⟨?_, fun n => ?_, ?_⟩
    · refine List.nodup_append.2 ⟨first.nodup, by simp, fun a here b there => ?_⟩
      rintro rfl
      rw [List.mem_singleton.1 there] at here
      exact new ((first.mem_iff name).1 here)
    · rw [List.mem_append, List.mem_append, first.mem_iff]
    · refine List.pairwise_append.2 ⟨stays, by simp, fun a here b there => ?_⟩
      have old := (first.mem_iff a).1 here
      rw [List.mem_singleton.1 there, List.idxOf_append_of_mem old, List.idxOf_append_of_notMem new]
      exact Nat.lt_add_right _ (List.idxOf_lt_length_of_mem old)

/-- A name at the end of a list is dropped if it was there before. -/
theorem eraseDups_concat (ws : List String) (name : String) :
    (ws ++ [name]).eraseDups = if name ∈ ws then ws.eraseDups else ws.eraseDups ++ [name] := by
  rw [List.eraseDups_append]
  by_cases old : name ∈ ws
  · simp [List.removeAll, old]
  · simp [List.removeAll, old, List.eraseDups_cons]

/-- Without its repetitions a list has the first occurrences of its names. -/
theorem firstOccurrences_eraseDups (all : List String) : FirstOccurrences all all.eraseDups := by
  induction all using List.reverseRecOn with
  | nil => exact ⟨List.nodup_nil, fun _ => Iff.rfl, .nil⟩
  | append_singleton all name ih =>
    rw [eraseDups_concat]
    exact ih.concat name

/-- Nothing is left out of a list exactly if it has no name twice. -/
theorem eraseDups_eq_self_iff {names : List String} : names.eraseDups = names ↔ names.Nodup := by
  constructor
  · intro same
    rw [← same]
    exact (firstOccurrences_eraseDups names).nodup
  · intro nodup
    induction names using List.reverseRecOn with
    | nil => rfl
    | append_singleton names name ih =>
      have ⟨before, _, apart⟩ := List.nodup_append.1 nodup
      have new : name ∉ names := fun old => apart name old name (List.mem_singleton_self _) rfl
      rw [eraseDups_concat, if_neg new, ih before]

/-- What is left out of a list beforehand comes again in nothing that its entries stand for. -/
theorem eraseDups_flatMap_eraseDups (f : String → List String) (ws : List String) :
    (ws.eraseDups.flatMap f).eraseDups = (ws.flatMap f).eraseDups := by
  induction ws using List.reverseRecOn with
  | nil => rfl
  | append_singleton ws w ih =>
    rw [eraseDups_concat, List.flatMap_append, List.flatMap_singleton]
    split
    · rename_i old
      have known : (f w).removeAll (ws.flatMap f) = [] := by
        rw [List.removeAll, List.filter_eq_nil_iff]
        intro name member
        simpa using ⟨w, old, member⟩
      rw [ih, List.eraseDups_append, known]
      simp
    · have same : (f w).removeAll (ws.eraseDups.flatMap f) = (f w).removeAll (ws.flatMap f) := by
        refine List.filter_congr fun name _ => ?_
        simp [List.mem_eraseDups]
      rw [List.flatMap_append, List.flatMap_singleton, List.eraseDups_append, ih, same,
        ← List.eraseDups_append]

end

/-! ## Listed names -/

/-- A character that stands between the names of a list. -/
def isSeparator (c : Char) : Bool := Text.isBlank c || c == ','

/-- A text lists names: they are the runs of characters between separators. -/
inductive Lists : List Char → List String → Prop where
  | nothing : Lists [] []
  | separator {c : Char} {cs : List Char} {names : List String} (between : isSeparator c = true)
      (rest : Lists cs names) : Lists (c :: cs) names
  | name {name cs : List Char} {names : List String} (some : name ≠ [])
      (whole : ∀ c ∈ name, isSeparator c = false) (ends : ∀ c ∈ cs.head?, isSeparator c = true)
      (rest : Lists cs names) : Lists (name ++ cs) (String.ofList name :: names)

/-- The name of a piece between two separators, if there is anything. -/
def nameOf? (piece : List Char) : Option String :=
  if piece.isEmpty then none else some (String.ofList piece)

/-- The names between the separators of a text. -/
def namesIn (cs : List Char) : List String := (cs.splitOnP isSeparator).filterMap nameOf?

/-- Splitting a list of nodes keeps the names in it, each where it first occurs. -/
theorem splitNodes_eq (s : String) : splitNodes s = (namesIn s.toList).eraseDups := rfl

section

variable {c : Char} {cs : List Char} {names : List String}

/-- A separator in front changes no name. -/
theorem namesIn_separator (between : isSeparator c = true) : namesIn (c :: cs) = namesIn cs := by
  rw [namesIn, List.splitOnP_cons_eq_if_modifyHead, if_pos between]
  rfl

/-- The first piece of a text, and the names of the others. -/
theorem exists_firstPiece (cs : List Char) : ∃ first rest others, cs = first ++ rest ∧
    cs.splitOnP isSeparator = first :: others ∧ (∀ c ∈ first, isSeparator c = false) ∧
      (∀ c ∈ rest.head?, isSeparator c = true) ∧ Lists rest (others.filterMap nameOf?) := by
  induction cs with
  | nil => exact ⟨[], [], [], rfl, rfl, nofun, nofun, .nothing⟩
  | cons c cs ih =>
    obtain ⟨first, rest, others, rfl, split, whole, ends, lists⟩ := ih
    rw [List.splitOnP_cons_eq_if_modifyHead, split]
    by_cases between : isSeparator c = true
    · refine ⟨[], c :: (first ++ rest), first :: others, rfl, if_pos between, nofun, ?_, ?_⟩
      · rintro _ ⟨⟩
        exact between
      · refine .separator between ?_
        cases first with
        | nil => exact lists
        | cons d first => exact .name (List.cons_ne_nil _ _) whole ends lists
    · refine ⟨c :: first, rest, others, rfl, if_neg between, ?_, ends, lists⟩
      exact List.forall_mem_cons.2 ⟨Bool.eq_false_iff.2 between, whole⟩

/-- A text lists the names between its separators. -/
theorem lists_namesIn (cs : List Char) : Lists cs (namesIn cs) := by
  obtain ⟨first, rest, others, whole, split, free, ends, lists⟩ := exists_firstPiece cs
  rw [namesIn, split, whole]
  cases first with
  | nil => exact lists
  | cons c first => exact .name (List.cons_ne_nil _ _) free ends lists

/-- A text lists one list of names. -/
theorem Lists.unique (lists : Lists cs names) : names = namesIn cs := by
  induction lists with
  | nothing => rfl
  | separator between rest ih => rw [namesIn_separator between, ih]
  | @name name cs names some whole ends rest ih =>
    have one : name.splitOnP isSeparator = [name] :=
      List.splitOnP_eq_singleton fun c member => by rw [whole c member]
    have named : nameOf? name = .some (String.ofList name) :=
      if_neg (mt List.isEmpty_iff.1 some)
    cases cs with
    | nil =>
      rw [List.append_nil, ih, namesIn, namesIn, one, List.filterMap_cons_some named]
      rfl
    | cons c cs =>
      have between := ends c rfl
      rw [ih, namesIn_separator between, namesIn, namesIn,
        List.splitOnP_append_cons name cs between, one, List.singleton_append,
        List.filterMap_cons_some named]

end

/-! ## Scopes -/

namespace Scope

/-- What the entries of a list stand for: the members in the place of a star, and themselves
otherwise. -/
def standFor (members entries : List String) : List String :=
  entries.flatMap fun n => if n = "*" then members else [n]

/-- The members of the cluster, the local node alone if there are none. -/
def membersOr (localhost : String) (clusterNodes : List String) : List String :=
  if clusterNodes.isEmpty then [localhost] else clusterNodes

/-- The list of nodes in the configuration of an object. -/
def listing? (settings : Setting) : Option String :=
  firstText settings ["DEFAULT.nodes", "default.nodes"]

variable {path : ObjectPath} {localhost : String} {clusterNodes : List String} {settings : Setting}

/-- The members are each there once if they are so in the settings of the cluster. -/
theorem nodup_membersOr : (membersOr localhost clusterNodes).Nodup ↔ clusterNodes.Nodup := by
  unfold membersOr
  cases clusterNodes with
  | nil => simp
  | cons node others => rfl

/-- An object that lists its nodes has what the list stands for as its scope, each name once. -/
theorem ofSettings_of_listing (object : path.isCluster = false) {text : String}
    (listed : listing? settings = some text) :
    ofSettings path localhost clusterNodes settings =
      (standFor (membersOr localhost clusterNodes) (namesIn text.toList)).eraseDups := by
  rw [ofSettings, if_neg (by rw [object]; exact Bool.false_ne_true)]
  rw [listing?] at listed
  simp only [listed]
  rw [splitNodes_eq]
  exact eraseDups_flatMap_eraseDups _ _

/-- An object that lists no nodes has the members as its scope, as they are. -/
theorem ofSettings_of_no_listing (object : path.isCluster = false)
    (unlisted : listing? settings = none) :
    ofSettings path localhost clusterNodes settings = membersOr localhost clusterNodes := by
  rw [ofSettings, if_neg (by rw [object]; exact Bool.false_ne_true)]
  rw [listing?] at unlisted
  rw [unlisted]
  rfl

/-- A configuration file that can be read gives an object a scope: the names that the entries of
its list stand for, each where it first occurs, or the members as they come if there is no list.
These name no node twice, and are what a list of a single star stands for, unless the membership
names one twice. -/
theorem ofFile?_lists (localhost : String) (clusterNodes : List String)
    (object : path.isCluster = false) {content : Bytes}
    (parsed : Ini.parse (Text.ofFile content) = some settings) :
    ∃ scope, ofFile? path localhost clusterNodes content = some scope ∧
      (∀ text, listing? settings = some text → ∃ entries, Lists text.toList entries ∧
        FirstOccurrences (standFor (membersOr localhost clusterNodes) entries) scope) ∧
      (listing? settings = none →
        scope = membersOr localhost clusterNodes ∧ (scope.Nodup ↔ clusterNodes.Nodup) ∧
        ∀ content' settings' text, Ini.parse (Text.ofFile content') = some settings' →
          listing? settings' = some text → Lists text.toList ["*"] →
          (ofFile? path localhost clusterNodes content' = some scope ↔ clusterNodes.Nodup)) := by
  refine ⟨_, by rw [ofFile?, parsed]; rfl, fun text listed => ?_, fun unlisted => ?_⟩
  · rw [ofSettings_of_listing object listed]
    exact ⟨namesIn text.toList, lists_namesIn _, firstOccurrences_eraseDups _⟩
  · rw [ofSettings_of_no_listing object unlisted]
    refine ⟨rfl, nodup_membersOr, fun content' settings' text parsed' listed' star => ?_⟩
    have members : standFor (membersOr localhost clusterNodes) ["*"] =
        membersOr localhost clusterNodes := by simp [standFor]
    rw [ofFile?, parsed', Option.map_some, ofSettings_of_listing object listed', ← star.unique,
      members, Option.some.injEq, eraseDups_eq_self_iff, nodup_membersOr]

/-- A node in front of the members, again among them and again behind them; and no list, with
members that are named once each. -/
theorem ofFile?_lists_of_web :
    let web : ObjectPath := ⟨"root", .svc, "web"⟩
    let starred := Bytes.ofText "[DEFAULT]\nnodes = n3 *,n3\n"
    let unlisted := Bytes.ofText "[fs#1]\ntype = flag\n"
    web.isCluster = false ∧
    (∃ settings, Ini.parse (Text.ofFile starred) = some settings ∧
      listing? settings = some "n3 *,n3") ∧
    ofFile? web "n1" ["n1", "n3", "n1"] starred = some ["n3", "n1"] ∧
    (∃ entries, Lists "n3 *,n3".toList entries ∧
      FirstOccurrences (standFor ["n1", "n3", "n1"] entries) ["n3", "n1"]) ∧
    (∃ settings, Ini.parse (Text.ofFile unlisted) = some settings ∧ listing? settings = none) ∧
    ofFile? web "n1" ["n2", "n1"] unlisted = some ["n2", "n1"] ∧ ["n2", "n1"].Nodup := by
  intro web starred unlisted
  have object : web.isCluster = false := rfl
  have scope : ofFile? web "n1" ["n1", "n3", "n1"] starred = some ["n3", "n1"] := by
    decide +kernel
  have listed : (Ini.parse (Text.ofFile starred)).map listing? = some (some "n3 *,n3") := by
    decide +kernel
  have scope' : ofFile? web "n1" ["n2", "n1"] unlisted = some ["n2", "n1"] := by decide +kernel
  have listed' : (Ini.parse (Text.ofFile unlisted)).map listing? = some none := by decide +kernel
  obtain ⟨settings, parsed, listed⟩ := Option.map_eq_some_iff.1 listed
  obtain ⟨settings', parsed', listed'⟩ := Option.map_eq_some_iff.1 listed'
  obtain ⟨_, same, first, _⟩ := ofFile?_lists "n1" ["n1", "n3", "n1"] object parsed
  obtain ⟨_, same', _, members⟩ := ofFile?_lists "n1" ["n2", "n1"] object parsed'
  cases scope.symm.trans same
  cases scope'.symm.trans same'
  have ⟨_, nodup, _⟩ := members listed'
  exact ⟨object, ⟨settings, parsed, listed⟩, scope, first _ listed, ⟨settings', parsed', listed'⟩,
    scope', nodup.2 (by decide)⟩

/-- Settings whose membership names a node twice are accepted: without a list the scope of an object
names it twice, with a star once. -/
theorem repeats_of_repeated_member :
    let web : ObjectPath := ⟨"root", .svc, "web"⟩
    let members := ["n1", "n1", "n2"]
    let settings := Bytes.ofText "[cluster]\nnodes = [\"n1\", \"n1\", \"n2\"]\n"
    (NodeSettings.load "n1" (some ("toml", settings))
      ⟨"node.toml", none, none, none, none, "info", false⟩).toOption.map (·.initialNodes) =
        some members ∧
    ofFile? web "n1" members (Bytes.ofText "[fs#1]\ntype = flag\n") =
      some ["n1", "n1", "n2"] ∧
    ofFile? web "n1" members (Bytes.ofText "[DEFAULT]\nnodes = *\n") = some ["n1", "n2"] := by
  decide +kernel

end Scope

end ClusterNode
