/-!
# Stream keys

A heartbeat stream is named by the peer at its other end and by the half of a
driver that it belongs to. Tables of streams are ordered by peers.
-/

namespace ClusterNode

/-- A stream of a peer, in the order of nodes and then streams. -/
structure StreamKey where
  node : String
  id : String
  deriving DecidableEq, Repr

namespace StreamKey

/-- The order of stream keys. -/
def compare : StreamKey → StreamKey → Ordering := compareLex (compareOn node) (compareOn id)

instance : Ord StreamKey := ⟨compare⟩

instance : Std.TransOrd StreamKey :=
  inferInstanceAs (Std.TransCmp (compareLex (compareOn node) (compareOn id)))

instance : Std.LawfulEqOrd StreamKey where
  compare_self {a} := by
    show compare a a = .eq
    simp [compare, compareLex, compareOn]
  eq_of_compare {a b} h := by
    have h : compare a b = .eq := h
    simp only [compare, compareLex, compareOn, Ordering.then_eq_eq] at h
    have h1 := Std.LawfulEqCmp.eq_of_compare h.1
    have h2 := Std.LawfulEqCmp.eq_of_compare h.2
    cases a
    cases b
    simp_all

end StreamKey

end ClusterNode
