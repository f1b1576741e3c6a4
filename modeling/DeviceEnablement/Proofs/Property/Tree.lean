/-
  What the tree of a JSON object keeps.

  A tree has no place for null, for a number that is not an integer of 64 bits with a sign, and for
  an array that stands directly in an array.  It keeps everything else, in order and at every level.

  1. `Json.pruned`: a value without what a tree has no place for.
  2. `PropertyValue.readBack`: a tree read back is the pruned value, by recursion over values, items
     and members together.
  3. `Within`: a node somewhere in a tree; `forall_within_iff` says it of the node at the top and of
     the trees below it.
  4. `WellFormed`: the members of a set are named in increasing order, and the elements of an array
     are neither named nor arrays.  `wellFormed_of_ordered` says it of every node in the tree of a
     value whose objects list their members in order.
  5. `tree_of_object`: all of this for the tree of an object.
-/
import DeviceEnablement.Property.Tree
import DeviceEnablement.Proofs.Json.Ordered
import DeviceEnablement.Proofs.Json.Pretty
import DeviceEnablement.Proofs.Table

namespace DeviceEnablement

namespace Json

/-! ## What a tree has a place for -/

/-- Whether a tree has a place for a value: it is neither null nor a number that is not an integer
    of 64 bits with a sign. -/
def isSupported : Json → Bool
  | .null => false
  | .number (.integer n) => minSigned ≤ n ∧ n ≤ maxSigned
  | .number (.decimal _) => false
  | _ => true

/-- Whether a value is an array. -/
def isArray : Json → Bool
  | .array _ => true
  | _ => false

/-- Whether an array in a tree has a place for a value. -/
def isElement (json : Json) : Bool := json.isSupported && !json.isArray

mutual

/-- A value without what a tree has no place for, at every level below it. -/
def pruned : Json → Json
  | .array items => .array (prunedItems items)
  | .object members => .object (prunedMembers members)
  | json => json

/-- The items that stay in an array. -/
def prunedItems : List Json → List Json
  | [] => []
  | item :: rest =>
    if item.isElement then item.pruned :: prunedItems rest else prunedItems rest

/-- The members that stay in an object. -/
def prunedMembers : List (String × Json) → List (String × Json)
  | [] => []
  | (name, item) :: rest =>
    if item.isSupported then (name, item.pruned) :: prunedMembers rest else prunedMembers rest

end

end Json

namespace PropertyValue

open Json (prunedItems prunedMembers)

/-! ## Items and members -/

/-- The element that an item of an array becomes. -/
def element? (item : Json) : Option PropertyNode :=
  if item.isArray then none else (ofJson? item).map fun value => (none, value)

/-- The node that a member of an object becomes. -/
def member? (member : String × Json) : Option PropertyNode :=
  (ofJson? member.2).map fun value => (some member.1, value)

/-- An element has no name and comes from an item that is no array. -/
theorem eq_of_element? {item : Json} {element : PropertyNode} (h : element? item = some element) :
    item.isArray = false ∧ ∃ value, ofJson? item = some value ∧ element = (none, value) := by
  unfold element? at h
  split at h
  · cases h
  · rename_i hitem
    obtain ⟨value, hvalue, rfl⟩ := Option.map_eq_some_iff.mp h
    exact ⟨Bool.eq_false_iff.mpr hitem, value, hvalue, rfl⟩

theorem elements_eq_filterMap (items : List Json) : elements items = items.filterMap element? := by
  induction items with
  | nil => rfl
  | cons item rest ih =>
    rw [List.filterMap_cons, ← ih]
    cases item with
    | array items => rfl
    | _ =>
      rw [elements]
      · unfold element?
        cases ofJson? _ <;> rfl
      · exact fun _ h => nomatch h

theorem named_eq_filterMap (members : List (String × Json)) :
    named members = members.filterMap member? := by
  induction members with
  | nil => rfl
  | cons member rest ih =>
    rw [named, List.filterMap_cons, ← ih]
    unfold member?
    cases ofJson? member.2 <;> rfl

/-! ## Reading a tree back -/

/-- What becomes of a value: if it is supported, it is read back from its place in the tree without
    what the tree has no place for. -/
def ReadBack (json : Json) : Prop :=
  json.isSupported ∧ (∃ value, ofJson? json = some value ∧ value.toJson = json.pruned) ∨
    json.isSupported = false ∧ ofJson? json = none

mutual

theorem readBack : ∀ json : Json, ReadBack json
  | .null => .inr ⟨rfl, rfl⟩
  | .bool b => .inl ⟨rfl, .bool b, rfl, rfl⟩
  | .number (.integer n) => by
    by_cases hfits : Json.minSigned ≤ n ∧ n ≤ Json.maxSigned
    · exact .inl ⟨decide_eq_true hfits, .integer n, if_pos hfits, rfl⟩
    · exact .inr ⟨decide_eq_false hfits, if_neg hfits⟩
  | .number (.decimal _) => .inr ⟨rfl, rfl⟩
  | .string text => .inl ⟨rfl, .string text, rfl, rfl⟩
  | .array items =>
    .inl ⟨rfl, .array (elements items), rfl, congrArg Json.array (elementsToJson_elements items)⟩
  | .object members =>
    .inl ⟨rfl, .set (named members), rfl, congrArg Json.object (membersToJson_named members)⟩

theorem elementsToJson_elements : ∀ items : List Json,
    elementsToJson (elements items) = prunedItems items
  | [] => rfl
  | item :: rest => by
    have hrest := elementsToJson_elements rest
    rw [elements_eq_filterMap] at hrest ⊢
    rw [List.filterMap_cons, prunedItems, ← hrest, Json.isElement, element?]
    obtain ⟨hsupported, value, hvalue, hback⟩ | ⟨hsupported, hnone⟩ := readBack item
    · rw [hvalue, hsupported, ← hback]
      cases item.isArray <;> rfl
    · rw [hnone, hsupported]
      cases item.isArray <;> rfl

theorem membersToJson_named : ∀ members : List (String × Json),
    membersToJson (named members) = prunedMembers members
  | [] => rfl
  | (name, item) :: rest => by
    have hrest := membersToJson_named rest
    rw [named, prunedMembers, ← hrest]
    obtain ⟨hsupported, value, hvalue, hback⟩ | ⟨hsupported, hnone⟩ := readBack item
    · rw [hvalue, hsupported, ← hback]
      rfl
    · rw [hnone, hsupported]
      rfl

end

/-- The names of the nodes in a set are names of members of the object, in the same order. -/
theorem names_named (members : List (String × Json)) :
    ∃ names : List String, (named members).map Prod.fst = names.map some ∧
      names.Sublist (members.map Prod.fst) := by
  induction members with
  | nil => exact ⟨[], rfl, List.nil_sublist _⟩
  | cons member rest ih =>
    obtain ⟨name, item⟩ := member
    obtain ⟨names, hnames, hsub⟩ := ih
    rw [named]
    cases ofJson? item with
    | none => exact ⟨names, hnames, hsub.cons _⟩
    | some value => exact ⟨name :: names, congrArg (some name :: ·) hnames, hsub.cons_cons _⟩

/-- In the place of a number stands an integer. -/
theorem integer_of_ofJson? {number : Json.Number} {value : PropertyValue}
    (h : ofJson? (.number number) = some value) : ∃ n, value = .integer n := by
  cases number with
  | integer n =>
    unfold ofJson? at h
    split at h
    · exact ⟨n, (Option.some.inj h).symm⟩
    · cases h
  | decimal text => cases h

/-- In the place of a value stands an array only if the value is one. -/
theorem isArray_of_ofJson? {json : Json} {elements : List PropertyNode}
    (h : ofJson? json = some (.array elements)) : json.isArray = true := by
  cases json with
  | array items => rfl
  | number number =>
    obtain ⟨n, hinteger⟩ := integer_of_ofJson? h
    cases hinteger
  | _ => cases h

end PropertyValue

namespace PropertyNode

/-! ## Everywhere in a tree -/

/-- Whether a node stands somewhere in a tree. -/
inductive Within : PropertyNode → PropertyNode → Prop
  | self (tree : PropertyNode) : Within tree tree
  | deeper {tree child node : PropertyNode} (hchild : child ∈ tree.children)
      (hnode : Within child node) : Within tree node

/-- Something is said of every node when it is said of the one at the top and of every node in the
    trees below it. -/
theorem forall_within_iff {p : PropertyNode → Prop} {tree : PropertyNode} :
    (∀ node, tree.Within node → p node) ↔
      p tree ∧ ∀ child ∈ tree.children, ∀ node, child.Within node → p node := by
  constructor
  · intro h
    exact ⟨h tree (.self tree), fun child hchild node hnode => h node (.deeper hchild hnode)⟩
  · rintro ⟨htop, hbelow⟩ node hnode
    cases hnode with
    | self => exact htop
    | deeper hchild hnode => exact hbelow _ hchild _ hnode

/-- What holds of the nodes in sets and in arrays. -/
structure WellFormed (node : PropertyNode) : Prop where
  /-- The members of a set are named, and their names increase. -/
  named : ∀ members, node.2 = .set members →
    ∃ names : List String, members.map Prod.fst = names.map some ∧ Json.Increasing names
  /-- A member is found under its name, and no other one has that name. -/
  found : ∀ members, node.2 = .set members → ∀ name child,
    node.child? name = some child ↔ child ∈ members ∧ child.1 = some name
  /-- The elements of an array have no names. -/
  unnamed : ∀ elements, node.2 = .array elements → ∀ element ∈ elements, element.1 = none
  /-- No element of an array is an array. -/
  flat : ∀ elements, node.2 = .array elements → ∀ element ∈ elements,
    ∀ items, element.2 ≠ .array items

theorem wellFormed_set {name : Option String} {members : List PropertyNode} {names : List String}
    (hnames : members.map Prod.fst = names.map some) (hincreasing : Json.Increasing names) :
    WellFormed (name, .set members) := by
  have hnodup : (members.map Prod.fst).Nodup := by
    rw [hnames]
    refine List.pairwise_map.mpr (List.Pairwise.imp (fun hlt heq => ?_) hincreasing)
    cases heq
    exact List.lt_irrefl _ hlt
  constructor
  case named =>
    rintro _ ⟨⟩
    exact ⟨names, hnames, hincreasing⟩
  case found =>
    rintro _ ⟨⟩ label child
    exact Table.find?_key_eq_some_iff Prod.fst hnodup
  all_goals exact nofun

theorem wellFormed_array {name : Option String} {elements : List PropertyNode}
    (h : ∀ element ∈ elements, element.1 = none ∧ ∀ items, element.2 ≠ .array items) :
    WellFormed (name, .array elements) := by
  constructor
  case unnamed =>
    rintro _ ⟨⟩ element hmem
    exact (h element hmem).1
  case flat =>
    rintro _ ⟨⟩ element hmem
    exact (h element hmem).2
  all_goals exact nofun

/-- There is only one node in a tree that is neither a set nor an array. -/
theorem wellFormed_leaf {tree : PropertyNode} (hset : ∀ members, tree.2 ≠ .set members)
    (harray : ∀ elements, tree.2 ≠ .array elements) :
    ∀ node, Within tree node → WellFormed node := by
  obtain ⟨name, value⟩ := tree
  have hchildren : children (name, value) = [] := by
    cases value with
    | set members => exact absurd rfl (hset members)
    | array elements => exact absurd rfl (harray elements)
    | _ => rfl
  refine forall_within_iff.mpr ⟨?_, fun child hchild => ?_⟩
  · constructor
    case named | found => exact fun members h => absurd h (hset members)
    case unnamed | flat => exact fun elements h => absurd h (harray elements)
  · rw [hchildren] at hchild
    exact absurd hchild List.not_mem_nil

/-- Every node in the tree of a value is well formed if the objects in the value list their members
    in order. -/
theorem wellFormed_of_ordered {json : Json} (h : json.Ordered) :
    ∀ {value : PropertyValue}, PropertyValue.ofJson? json = some value →
      ∀ name node, Within (name, value) node → WellFormed node := by
  induction h with
  | null => exact fun h => nomatch h
  | bool b =>
    rintro _ ⟨⟩ name
    exact wellFormed_leaf nofun nofun
  | number number =>
    intro value hvalue name
    obtain ⟨n, rfl⟩ := PropertyValue.integer_of_ofJson? hvalue
    exact wellFormed_leaf nofun nofun
  | string text =>
    rintro _ ⟨⟩ name
    exact wellFormed_leaf nofun nofun
  | @array items hitems ih =>
    rintro _ ⟨⟩ name
    have helement (element : PropertyNode) (hmem : element ∈ PropertyValue.elements items) :
        ∃ item ∈ items, PropertyValue.element? item = some element := by
      rw [PropertyValue.elements_eq_filterMap] at hmem
      exact List.mem_filterMap.mp hmem
    refine forall_within_iff.mpr ⟨wellFormed_array fun element hmem => ?_, fun element hmem => ?_⟩
    · obtain ⟨item, -, hitem⟩ := helement element hmem
      obtain ⟨hnoarray, value, hvalue, rfl⟩ := PropertyValue.eq_of_element? hitem
      refine ⟨rfl, ?_⟩
      rintro inner rfl
      exact Bool.false_ne_true (hnoarray.symm.trans (PropertyValue.isArray_of_ofJson? hvalue))
    · obtain ⟨item, hmember, hitem⟩ := helement element hmem
      obtain ⟨-, value, hvalue, rfl⟩ := PropertyValue.eq_of_element? hitem
      exact ih item hmember hvalue none
  | @object members hnames hmembers ih =>
    rintro _ ⟨⟩ name
    obtain ⟨names, hnamed, hsub⟩ := PropertyValue.names_named members
    refine forall_within_iff.mpr
      ⟨wellFormed_set hnamed (hnames.sublist hsub), fun child hchild => ?_⟩
    rw [children, PropertyValue.named_eq_filterMap] at hchild
    obtain ⟨member, hmem, hmember⟩ := List.mem_filterMap.mp hchild
    obtain ⟨value, hvalue, rfl⟩ := Option.map_eq_some_iff.mp hmember
    exact ih member hmem hvalue (some member.1)

/-! ## The tree of an object -/

/-- The tree of a JSON object, whose members have different names and are listed in the order of
    their UTF-8 bytes at every level, is the object without what a tree has no place for; and every
    node in it is well formed.  Each object that is read from a request body is of this kind. -/
theorem tree_of_object :
    (∀ text members, Json.ofText? text = some (.object members) →
      Json.Ordered (.object members) ∧
      ofText text = .ok (ofMembers (rootName (.object members)) members)) ∧
    ∀ name members, Json.Ordered (.object members) →
      (ofMembers name members).2.toJson = Json.pruned (.object members) ∧
      ∀ node, (ofMembers name members).Within node → node.WellFormed := by
  constructor
  · intro text members htext
    refine ⟨Json.ordered_of_ofText? htext, ?_⟩
    unfold ofText
    rw [htext]
  · intro name members hordered
    exact ⟨congrArg Json.object (PropertyValue.membersToJson_named members),
      wellFormed_of_ordered hordered rfl name⟩

/-- An object that is written with its members out of order, and that holds a null, a number of more
    than 64 bits with a sign and an array in an array. -/
def writtenObject : Json :=
  .object [("b", .ofInt 9223372036854775808),
    ("a", .object [("é", .array [.array [], .bool true]), ("z", .ofInt 1), ("x", .null)])]

theorem integral_writtenObject : Json.Integral writtenObject := by
  have hitems : Json.Integral (.array [.array [], .bool true]) :=
    .array (List.forall_mem_cons.mpr
      ⟨.array fun _ h => absurd h List.not_mem_nil, List.forall_mem_singleton.mpr (.bool true)⟩)
  have hinner : Json.Integral
      (.object [("é", .array [.array [], .bool true]), ("z", .ofInt 1), ("x", .null)]) :=
    .object (List.forall_mem_cons.mpr
      ⟨hitems, List.forall_mem_cons.mpr ⟨.integer 1, List.forall_mem_singleton.mpr .null⟩⟩)
  exact .object (List.forall_mem_cons.mpr ⟨.integer _, List.forall_mem_singleton.mpr hinner⟩)

/-- What was written out of order is read in order, and the tree keeps what it has a place for. -/
theorem tree_of_written_object :
    let members :=
      [("a", .object [("x", .null), ("z", .ofInt 1), ("é", .array [.array [], .bool true])]),
        ("b", .ofInt 9223372036854775808)]
    Json.ofText? writtenObject.pretty = some (.object members) ∧
      ofText writtenObject.pretty = .ok (ofMembers "Root" members) ∧
      (ofMembers "Root" members).2.toJson =
        .object [("a", .object [("z", .ofInt 1), ("é", .array [.bool true])])] ∧
      ∀ node, (ofMembers "Root" members).Within node → node.WellFormed := by
  intro members
  have htext : Json.ofText? writtenObject.pretty = some (.object members) := by
    unfold Json.ofText?
    rw [Json.Raw.ofText?_pretty integral_writtenObject]
    rfl
  obtain ⟨hordered, hbody⟩ := tree_of_object.1 writtenObject.pretty members htext
  obtain ⟨htree, hnodes⟩ := tree_of_object.2 (some "Root") members hordered
  exact ⟨htext, hbody, htree, hnodes⟩

end PropertyNode

end DeviceEnablement
