import ClusterNode.Json.Wire
import ClusterNode.Proofs.Json.Text
import ClusterNode.Proofs.SortedMap

/-!
# Records that survive the wire

`ReadsAs h x y` says that `x` is written as a plain value of at most `h` containers inside each
other, and that this value reads back as `y`, whether it reaches its decoder directly or whole.
It holds of strings, numbers, names of enumerations, lists and maps; a record is written as
`fields`, a value for each of its names or none, and is read from them name by name.

`ReadsAs.parse` carries it to texts.
-/

namespace ClusterNode.Json

universe u

/-- A value is written plainly and reads back as another one, however it reaches its decoder. -/
structure ReadsAs {α : Type u} [Wire α] (h : Nat) (x y : α) : Prop where
  plain : Plain h (toJson x)
  /-- Null would be read as no value at all. -/
  some : toJson x ≠ .null
  reads : ∀ r, ofJson? r (toJson x) = .some y

section

variable {α : Type u} [Wire α] {h : Nat} {x y : α}

/-- The bytes of a written value read back as the value. -/
theorem ReadsAs.parse (reads : ReadsAs h x y) (shallow : h < depthLimit) (r : Reading) :
    (parseUtf8 (renderUtf8 (toJson x))).bind (ofJson? r) = .some y := by
  rw [parseUtf8_renderUtf8 reads.plain shallow]
  exact reads.reads r

end

/-! ## Atoms -/

/-- A text reads back as itself. -/
theorem readsAs_string (h : Nat) (s : String) : ReadsAs h s s :=
  ⟨.str s, nofun, fun _ => rfl⟩

/-- A truth value reads back as itself. -/
theorem readsAs_bool (h : Nat) (b : Bool) : ReadsAs h b b :=
  ⟨.bool b, nofun, fun _ => rfl⟩

/-- A number of 64 bits reads back as itself. -/
theorem readsAs_uInt64 (h : Nat) (n : UInt64) : ReadsAs h n n where
  plain := .nat n.toNat_lt
  some := nofun
  reads _ := by
    have small : n.toNat < UInt64.size := n.toNat_lt
    show (if n.toNat < UInt64.size then some (UInt64.ofNat n.toNat) else none) = some n
    rw [if_pos small, UInt64.ofNat_toNat]

/-- A number of 32 bits reads back as itself. -/
theorem readsAs_uInt32 (h : Nat) (n : UInt32) : ReadsAs h n n where
  plain := .nat (Nat.lt_trans n.toNat_lt (by decide))
  some := nofun
  reads _ := by
    have small : n.toNat < UInt32.size := n.toNat_lt
    show (if n.toNat < UInt32.size then some (UInt32.ofNat n.toNat) else none) = some n
    rw [if_pos small, UInt32.ofNat_toNat]

/-! ## Lists and maps -/

/-- A list of values reads back member by member. -/
theorem mapM_toJson {α : Type u} {β γ : Type u} {read : γ → Option β} {write : α → γ} {f : α → β}
    {xs : List α} (each : ∀ x ∈ xs, read (write x) = some (f x)) :
    (xs.map write).mapM read = some (xs.map f) := by
  induction xs with
  | nil => rfl
  | cons x xs ih =>
    rw [List.map_cons, List.mapM_cons, each x (List.mem_cons_self ..),
      ih fun y member => each y (List.mem_cons_of_mem _ member)]
    rfl

variable {α : Type} [Wire α] {h : Nat}

/-- A list is read item by item. -/
theorem readsAs_list {f : α → α} {xs : List α} (each : ∀ x ∈ xs, ReadsAs h x (f x)) :
    ReadsAs (h + 1) xs (xs.map f) where
  plain := by
    refine .arr fun v member => ?_
    obtain ⟨x, there, rfl⟩ := List.mem_map.1 member
    exact (each x there).plain
  some := nofun
  reads r := mapM_toJson fun x member => (each x member).reads r

/-- A list of texts reads back as itself. -/
theorem readsAs_strings (h : Nat) (xs : List String) : ReadsAs (h + 1) xs xs := by
  have each := readsAs_list (f := id) fun x (_ : x ∈ xs) => readsAs_string h x
  rwa [List.map_id] at each

/-- A map is read entry by entry. -/
theorem readsAs_map {f : α → α} {m : SortedMap String α}
    (each : ∀ e ∈ m.entries, ReadsAs h e.2 (f e.2)) : ReadsAs (h + 1) m (m.mapValues f) where
  plain := by
    refine .obj fun v member => ?_
    obtain ⟨e, there, rfl⟩ := List.mem_map.1 member
    exact (each e there).plain
  some := nofun
  reads r := by
    have entries : (m.entries.map fun e => (e.1, toJson e.2)).mapM
        (fun e => do some (e.1, ← ofJson? r e.2)) = some (m.mapValues f).entries :=
      mapM_toJson fun e member => by simp [(each e member).reads r]
    show (do some (SortedMap.ofList (← (m.entries.map _).mapM _))) = _
    rw [entries]
    exact congrArg some (SortedMap.ofList_entries _)

/-! ## Records -/

/-- The members of the names that have a value. -/
def fieldMembers : (names : List String) → (values : List (Option Json)) → List (String × Json)
  | name :: names, some v :: values => (name, v) :: fieldMembers names values
  | _ :: names, none :: values => fieldMembers names values
  | [], _ => []
  | _ :: _, [] => []

/-- A record with a value for each of its names, or none. -/
def fields (names : List String) (values : List (Option Json)) : Json :=
  .obj (fieldMembers names values)

/-- A member of a record has one of its names and one of its values. -/
theorem of_mem_fieldMembers {names : List String} {values : List (Option Json)}
    {m : String × Json} (member : m ∈ fieldMembers names values) :
    m.1 ∈ names ∧ some m.2 ∈ values := by
  fun_induction fieldMembers names values with
  | case1 name names v values ih =>
    rcases List.mem_cons.1 member with rfl | later
    · exact ⟨List.mem_cons_self .., List.mem_cons_self ..⟩
    · exact ⟨List.mem_cons_of_mem _ (ih later).1, List.mem_cons_of_mem _ (ih later).2⟩
  | case2 name names values ih =>
    exact ⟨List.mem_cons_of_mem _ (ih member).1, List.mem_cons_of_mem _ (ih member).2⟩
  | case3 => cases member
  | case4 => cases member

/-- A field is plain if it has a plain value or none. -/
def PlainField (h : Nat) (value : Option Json) : Prop := ∀ v ∈ value, Plain h v

/-- A record with plain fields is plain. -/
theorem plain_fields (names : List String) {values : List (Option Json)}
    (each : ∀ v ∈ values, PlainField h v) : Plain (h + 1) (fields names values) :=
  .obj fun m member => each (some m.2) (of_mem_fieldMembers member).2 m.2 rfl

/-- No member stands under any other name. -/
theorem ne_of_mem_fieldMembers {names : List String} (values : List (Option Json))
    {name : String} (other : name ∉ names) :
    ∀ m ∈ fieldMembers names values, (m.1 == name) = false := by
  intro m member
  refine beq_eq_false_iff_ne.2 ?_
  rintro rfl
  exact other (of_mem_fieldMembers member).1

/-- The members of a record are found under their names, each once. -/
theorem find?_fieldMembers {names : List String} {values : List (Option Json)}
    (distinct : names.Nodup) (length : values.length = names.length) :
    (∀ name ∈ names, ((fieldMembers names values).filter (·.1 == name)).length ≤ 1) ∧
    names.map (fun name => ((fieldMembers names values).find? (·.1 == name)).map (·.2)) =
      values := by
  fun_induction fieldMembers names values with
  | case1 name names v values ih =>
    obtain ⟨new, distinct⟩ := List.nodup_cons.1 distinct
    obtain ⟨once, found⟩ := ih distinct (by simpa using length)
    have later : ∀ n ∈ names, (name == n) = false := fun n member =>
      beq_eq_false_iff_ne.2 fun same => new (same ▸ member)
    refine ⟨fun n member => ?_, ?_⟩
    · rcases List.mem_cons.1 member with rfl | member
      · have absent := ne_of_mem_fieldMembers values new
        rw [List.filter_cons_of_pos (by simp), List.filter_eq_nil_iff.2 fun m there => by
          simp [absent m there]]
        exact Nat.le_refl _
      · rw [List.filter_cons_of_neg (by simp [later n member])]
        exact once n member
    · rw [List.map_cons, List.find?_cons_of_pos (by simp)]
      refine congrArg (some v :: ·) (Eq.trans ?_ found)
      refine List.map_congr_left fun n member => ?_
      rw [List.find?_cons_of_neg (by simp [later n member])]
  | case2 name names values ih =>
    obtain ⟨new, distinct⟩ := List.nodup_cons.1 distinct
    obtain ⟨once, found⟩ := ih distinct (by simpa using length)
    have absent := ne_of_mem_fieldMembers values new
    refine ⟨fun n member => ?_, ?_⟩
    · rcases List.mem_cons.1 member with rfl | member
      · rw [List.filter_eq_nil_iff.2 fun m there => by simp [absent m there]]
        exact Nat.zero_le _
      · exact once n member
    · rw [List.map_cons, found, List.find?_eq_none.2 fun m there => by simp [absent m there]]
      rfl
  | case3 values =>
    rw [List.length_eq_zero_iff.1 length]
    exact ⟨nofun, rfl⟩
  | case4 => cases length

/-- The members of a record are read under their names. -/
theorem record?_fields {names : List String} (distinct : names.Nodup)
    {values : List (Option Json)} (length : values.length = names.length) :
    (fields names values).record? names = some values := by
  obtain ⟨once, found⟩ := find?_fieldMembers distinct length
  rw [fields, record?, if_pos (by simpa using once), found]

/-- A record as its members are listed. -/
theorem fields_eq_members (names : List String) (values : List (Option Json)) :
    fields names values =
      members (List.zipWith (fun name v => v.map (name, ·)) names values) := by
  rw [fields, members]
  congr 1
  fun_induction fieldMembers names values with
  | case1 name names v values ih => simp [ih]
  | case2 name names values ih => simp [ih]
  | case3 values => rfl
  | case4 => rfl

/-- An optional member is that of a value that may be missing. -/
theorem memberOpt_eq (name : String) (v : Option α) :
    memberOpt name v = (v.map toJson).map (name, ·) := by
  cases v <;> rfl

/-- A member that is left out when empty is that of a value that may be missing. -/
theorem memberUnless_eq (name : String) (empty : Bool) (x : α) :
    (if empty then none else member name x) =
      (if empty then none else some (toJson x)).map (name, ·) := by
  cases empty <;> rfl

variable {x y : α} {names : List String} {values : List (Option Json)}

/-- A record reads back if its members do, once they are found under their names. -/
theorem readsAs_record (names : List String) (values : List (Option Json))
    (form : toJson x = fields names values) (distinct : names.Nodup)
    (length : values.length = names.length) (each : ∀ v ∈ values, PlainField h v)
    (reads : ∀ r, (toJson x).record? names = some values → ofJson? r (toJson x) = some y) :
    ReadsAs (h + 1) x y where
  plain := form ▸ plain_fields names each
  some := by rw [form]; nofun
  reads r := reads r (by rw [form, record?_fields distinct length])

/-! ### Members that are always written -/

/-- A value that reads back makes a plain field. -/
theorem ReadsAs.field (reads : ReadsAs h x y) : PlainField h (.some (toJson x)) := by
  rintro v ⟨⟩
  exact reads.plain

/-- A required field reads back. -/
theorem ReadsAs.required (reads : ReadsAs h x y) (r : Reading) :
    Json.required r (.some (toJson x)) = .some y :=
  reads.reads r

/-- A field with a default reads back if it is there. -/
theorem ReadsAs.defaulted (reads : ReadsAs h x y) (r : Reading) (default : α) :
    Json.defaulted r default (.some (toJson x)) = .some y :=
  reads.reads r

/-! ### Members that are left out when they are empty -/

/-- A field that may be left out when empty is plain. -/
theorem ReadsAs.fieldUnless (reads : ReadsAs h x y) (empty : Bool) :
    PlainField h (if empty then none else .some (toJson x)) := by
  cases empty with
  | true => exact nofun
  | false => exact reads.field

/-- What is left out is read as the default. -/
theorem ReadsAs.defaultedUnless {default : α} {empty : Bool} (reads : ReadsAs h x y)
    (same : empty → y = default) (r : Reading) :
    Json.defaulted r default (if empty then none else .some (toJson x)) = .some y := by
  cases empty with
  | true => rw [same rfl]; rfl
  | false => exact reads.reads r

/-! ### Members that are left out when there are none -/

variable {f : α → α} {v : Option α}

/-- An optional value that reads back makes a plain field. -/
theorem plainField_map (each : ∀ x ∈ v, ReadsAs h x (f x)) : PlainField h (v.map toJson) := by
  intro w written
  obtain ⟨x, there, rfl⟩ := Option.map_eq_some_iff.1 written
  exact (each x there).plain

/-- An optional field reads back. -/
theorem optional_map (each : ∀ x ∈ v, ReadsAs h x (f x)) (r : Reading) :
    optional r (v.map toJson) = some (v.map f) := by
  cases v with
  | none => rfl
  | some x =>
    have reads := each x rfl
    rw [Option.map_some, optional, reads.reads r]
    · rfl
    · exact reads.some

/-! ### Tags -/

/-- The tag of a record is its first member; the others are left as they are. -/
theorem tagged?_fields {β : Type} {tag : String} {all : List β} {name : β → String} {b : β}
    (found : all.find? (name · == name b) = some b) (other : tag ∉ names)
    (each : ∀ v ∈ values, PlainField h v) (r : Reading) :
    tagged? tag all name r (fields (tag :: names) (some (.str (name b)) :: values)) =
      some (b, fields names values) := by
  have absent := ne_of_mem_fieldMembers values other
  have mine : (fieldMembers (tag :: names) (some (.str (name b)) :: values)).filter (·.1 == tag) =
      [(tag, .str (name b))] := by
    rw [fieldMembers, List.filter_cons_of_pos (by simp), List.filter_eq_nil_iff.2 fun m there => by
      simp [absent m there]]
  have others : (fieldMembers (tag :: names) (some (.str (name b)) :: values)).filter (·.1 != tag) =
      fieldMembers names values := by
    rw [fieldMembers, List.filter_cons_of_neg (by simp), List.filter_eq_self.2 fun m there => by
      simp [bne, absent m there]]
  have readable := (plain_fields names each).readable
  rw [fields] at readable
  simp only [fields, tagged?, mine, others, readable, if_true, found]
  rfl


/-- A record with a tag reads back if its members do, once the tag is told from them. -/
theorem readsAs_tagged {tag : String} (all : List String) (op : String) (names : List String)
    (values : List (Option Json))
    (form : toJson x = fields (tag :: names) (some (.str op) :: values))
    (found : all.find? (id · == op) = some op) (distinct : (tag :: names).Nodup)
    (length : values.length = names.length) (each : ∀ v ∈ values, PlainField h v)
    (reads : ∀ r, tagged? tag all id r (toJson x) = some (op, fields names values) →
      (fields names values).record? names = some values → ofJson? r (toJson x) = some y) :
    ReadsAs (h + 1) x y where
  plain := by
    refine form ▸ plain_fields _ (List.forall_mem_cons.2 ⟨?_, each⟩)
    rintro v ⟨⟩
    exact .str op
  some := by rw [form]; nofun
  reads r := by
    obtain ⟨other, distinct⟩ := List.nodup_cons.1 distinct
    refine reads r ?_ (record?_fields distinct length)
    rw [form]
    exact tagged?_fields found other each r

end ClusterNode.Json
