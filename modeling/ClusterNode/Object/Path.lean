import ClusterNode.Json.Wire
import ClusterNode.Text.Quoted

/-!
# Object paths

An object is named by a namespace, a kind and a name. The written form leaves
out the namespace `root`, and there also the kind `svc`; the cluster itself is
the object written `cluster`. `ObjectPath.parse` is the authority on which texts
are paths.
-/

namespace ClusterNode

/-- What an object is. -/
inductive Kind where
  | svc
  | vol
  | cfg
  | sec
  | usr
  | ccfg
  deriving DecidableEq, Repr

namespace Kind

/-- The written form of a kind. -/
def name : Kind → String
  | .svc => "svc"
  | .vol => "vol"
  | .cfg => "cfg"
  | .sec => "sec"
  | .usr => "usr"
  | .ccfg => "ccfg"

/-- Every kind. -/
def all : List Kind := [.svc, .vol, .cfg, .sec, .usr, .ccfg]

/-- The kind of a written form. -/
def ofName? (s : String) : Option Kind := all.find? (·.name == s)

/-- The place of a kind among all of them. -/
def rank : Kind → Nat
  | .svc => 0
  | .vol => 1
  | .cfg => 2
  | .sec => 3
  | .usr => 4
  | .ccfg => 5

theorem rank_inj {a b : Kind} (h : a.rank = b.rank) : a = b := by
  cases a <;> cases b <;> first | rfl | (simp [rank] at h)

end Kind

/-- Why a text names no object. -/
inductive PathError where
  | malformed (text : String)
  | unknownKind (text : String)
  deriving DecidableEq, Repr

/-- The wording of a path error. -/
def PathError.message : PathError → String
  | .malformed text => "invalid path: " ++ Text.quoted text
  | .unknownKind text => "unknown kind: " ++ text

/-- The kind of a written form, or the reason why it is none. -/
def Kind.parse (s : String) : Except PathError Kind :=
  match Kind.ofName? s with
  | some k => .ok k
  | none => .error (.unknownKind s)

/-- The name of an object in the cluster. -/
structure ObjectPath where
  /-- The namespace. -/
  space : String
  kind : Kind
  name : String
  deriving DecidableEq, Repr

namespace ObjectPath

/-- The namespace that is not written. -/
def rootSpace : String := "root"

/-- The name of the cluster object. -/
def clusterName : String := "cluster"

/-- The object that holds the configuration of the cluster. -/
def cluster : ObjectPath := ⟨rootSpace, .ccfg, clusterName⟩

/-- Whether an object configures a cluster, in any namespace. -/
def isCluster (p : ObjectPath) : Bool := p.kind == .ccfg

/-- The parts of a written path. -/
def parts (s : String) : List String := (s.toList.splitOn '/').map String.ofList

/-- The object of a written path. -/
def parse (s : String) : Except PathError ObjectPath :=
  let ps := parts s
  if ps.any (· == "") then .error (.malformed s)
  else
    match ps with
    | [name] =>
      if name = clusterName then .ok cluster else .ok ⟨rootSpace, .svc, name⟩
    | [kind, name] => do .ok ⟨rootSpace, ← Kind.parse kind, name⟩
    | [space, kind, name] => do .ok ⟨space, ← Kind.parse kind, name⟩
    | _ => .error (.malformed s)

/-- The written form of a path. -/
def toString (p : ObjectPath) : String :=
  if p.space = rootSpace then
    if p.kind = .svc ∨ (p.kind = .ccfg ∧ p.name = clusterName) then p.name
    else p.kind.name ++ "/" ++ p.name
  else p.space ++ "/" ++ p.kind.name ++ "/" ++ p.name

instance : ToString ObjectPath := ⟨toString⟩

/-- The order of the written parts. -/
def compare : ObjectPath → ObjectPath → Ordering :=
  compareLex (compareOn space) (compareLex (compareOn (·.kind.rank)) (compareOn name))

instance : Ord ObjectPath := ⟨compare⟩

instance : Std.TransOrd ObjectPath :=
  inferInstanceAs (Std.TransCmp
    (compareLex (compareOn space) (compareLex (compareOn (·.kind.rank)) (compareOn name))))

instance : Std.LawfulEqOrd ObjectPath where
  compare_self {a} := by
    show compare a a = .eq
    simp [compare, compareLex, compareOn]
  eq_of_compare {a b} h := by
    have h : compare a b = .eq := h
    simp only [compare, compareLex, compareOn, Ordering.then_eq_eq] at h
    have h1 := Std.LawfulEqCmp.eq_of_compare h.1
    have h2 := Kind.rank_inj (Std.LawfulEqCmp.eq_of_compare h.2.1)
    have h3 := Std.LawfulEqCmp.eq_of_compare h.2.2
    cases a
    cases b
    simp_all

instance : Wire ObjectPath where
  toJson p := .str p.toString
  ofJson? _
    | .str s => (parse s).toOption
    | _ => none

end ObjectPath

end ClusterNode
