/-
  The URIs of resources.

  The specification says, without the table of nodes and the walk through it, how a URI comes from
  the URI above it.

  1. `chain_eq_cons`: the way up from a resource that is not above itself is its own segment and the
     way up from its parent.  The node that the walk has taken out of the table is not missed there.
  2. `Joined`, `Absolute`, `AtTop`: a segment behind a URI, a segment that is a URI by itself, and
     the URI of a resource with nothing above it.  `Spelled`: the URI that a way up spells.
  3. `WithinRoot`: every URI is the service root or below it.
  4. `Climb`: the resources on the way up, those passed before being remembered.  None of them is
     visited twice (`Climb.nodup`), and their segments are those of the walk (`climb_chain`).
  5. `uris_of_records`: what the URIs in a registry are, whatever the records say.
-/
import DeviceEnablement.Proofs.Resource.Places
import Mathlib.Data.List.DropRight
import Mathlib.Logic.Relation

namespace DeviceEnablement

namespace Hierarchy

variable {nodes : Table UInt32 ResourceNode} {node : ResourceNode} {id a b : UInt32}

/-! ## The way up -/

theorem chain_zero (nodes : Table UInt32 ResourceNode) : chain nodes 0 = [] := by
  rw [chain, if_pos rfl]

theorem chain_missing (h : nodes.get? id = none) : chain nodes id = [] := by
  rw [chain]
  split
  · rfl
  · split
    · rfl
    · simp_all

theorem chain_node (hid : id ≠ 0) (h : nodes.get? id = some node) :
    chain nodes id = node.segment :: chain (nodes.erase id) node.parent := by
  rw [chain, if_neg hid]
  split
  · simp_all
  · rename_i other hother
    cases h.symm.trans hother
    rfl

/-- Whether `b` is the parent of `a`. -/
def Under (nodes : Table UInt32 ResourceNode) (a b : UInt32) : Prop :=
  a ≠ 0 ∧ ∃ node, nodes.get? a = some node ∧ node.parent = b

theorem under_of_erase (h : Under (nodes.erase id) a b) : Under nodes a b := by
  obtain ⟨hzero, node, hnode, hparent⟩ := h
  exact ⟨hzero, node, (Table.of_get?_erase hnode).2, hparent⟩

/-- A node that is not on the way up may as well be missing. -/
theorem chain_erase (h : ¬ Relation.ReflTransGen (Under nodes) id a) :
    chain (nodes.erase a) id = chain nodes id := by
  induction nodes, id using chain.induct with
  | case1 nodes => rw [chain_zero, chain_zero]
  | case2 nodes id hid hmissing =>
    have hmissing' : (nodes.erase a).get? id = none := by
      rw [Table.get?_erase]
      split
      · rfl
      · exact hmissing
    rw [chain_missing hmissing, chain_missing hmissing']
  | case3 nodes id hid node hnode ih =>
    have hne : id ≠ a := by
      rintro rfl
      exact h .refl
    have hnode' : (nodes.erase a).get? id = some node := by
      rw [Table.get?_erase, if_neg hne, hnode]
    rw [chain_node hid hnode, chain_node hid hnode', Table.erase_comm, ih]
    intro hreach
    have hreach' : Relation.ReflTransGen (Under nodes) node.parent a :=
      Relation.ReflTransGen.mono (fun _ _ => under_of_erase) _ _ hreach
    exact h (hreach'.head ⟨hid, node, hnode, rfl⟩)

/-- The way up from a resource that is not above itself goes on with that of its parent. -/
theorem chain_eq_cons (hid : id ≠ 0) (hnode : nodes.get? id = some node)
    (h : ¬ Relation.TransGen (Under nodes) id id) :
    chain nodes id = node.segment :: chain nodes node.parent := by
  rw [chain_node hid hnode, chain_erase]
  intro hreach
  exact h (Relation.TransGen.head' ⟨hid, node, hnode, rfl⟩ hreach)

/-! ## Joining -/

/-- A URI with a segment behind it: a slash is put between them unless the segment is empty or
    begins with one. -/
inductive Joined (uri segment : String) : String → Prop
  | plain (h : segment = "" ∨ segment.toList.head? = some '/') : Joined uri segment (uri ++ segment)
  | slash (hempty : segment ≠ "") (hfirst : segment.toList.head? ≠ some '/') :
      Joined uri segment (uri ++ "/" ++ segment)

theorem joined_join (uri segment : String) : Joined uri segment (join uri segment) := by
  unfold join
  split
  · rename_i hempty
    have hsegment : segment = "" := String.toList_eq_nil_iff.mp hempty
    subst hsegment
    have hjoined : Joined uri "" (uri ++ "") := .plain (Or.inl rfl)
    simpa using hjoined
  · rename_i hslash
    exact .plain (Or.inr (by simp [hslash]))
  · rename_i hempty hslash
    refine .slash ?_ ?_
    · rintro rfl
      exact hempty rfl
    · intro hfirst
      obtain ⟨rest, hrest⟩ := List.head?_eq_some_iff.mp hfirst
      exact hslash rest hrest

theorem Joined.unique {uri segment uri' uri'' : String} (h : Joined uri segment uri')
    (h' : Joined uri segment uri'') : uri' = uri'' := by
  cases h with
  | plain h =>
    cases h' with
    | plain => rfl
    | slash hempty hfirst => exact (h.elim hempty hfirst).elim
  | slash hempty hfirst =>
    cases h' with
    | plain h => exact (h.elim hempty hfirst).elim
    | slash => rfl

/-- Whether a URI is the service root, or begins with it and a slash. -/
def WithinRoot (uri : String) : Prop :=
  uri = "/redfish/v1" ∨ "/redfish/v1/".toList <+: uri.toList

theorem WithinRoot.joined {uri segment uri' : String} (h : WithinRoot uri)
    (hjoined : Joined uri segment uri') : WithinRoot uri' := by
  cases hjoined with
  | plain hplain =>
    rcases hplain with rfl | hslash
    · simpa using h
    · right
      rw [String.toList_append]
      rcases h with rfl | hbegins
      · obtain ⟨rest, hrest⟩ := List.head?_eq_some_iff.mp hslash
        rw [hrest]
        exact ⟨rest, rfl⟩
      · exact hbegins.trans (List.prefix_append _ _)
  | slash =>
    right
    rw [String.toList_append, String.toList_append]
    rcases h with rfl | hbegins
    · exact ⟨segment.toList, rfl⟩
    · rw [List.append_assoc]
      exact hbegins.trans (List.prefix_append _ _)

/-! ## Absolute segments -/

/-- Whether a URI is what a segment names by itself: leading slashes aside, the segment is the
    service root or begins with it and a slash.  The URI has one slash in front, none at its end. -/
def Absolute (segment uri : String) : Prop :=
  ∃ front path back, segment.toList = List.replicate front '/' ++ (path ++ List.replicate back '/') ∧
    path.getLast? ≠ some '/' ∧
    (path = serviceRootPath ∨ serviceRootPath ++ ['/'] <+: path) ∧ uri.toList = '/' :: path

theorem dropWhile_slashes {text : List Char} (h : text.head? ≠ some '/') (n : Nat) :
    (List.replicate n '/' ++ text).dropWhile (· = '/') = text := by
  induction n with
  | zero =>
    cases text with
    | nil => rfl
    | cons c rest =>
      have hc : c ≠ '/' := by simpa using h
      simp [hc]
  | succ n ih => simpa [List.replicate_succ] using ih

theorem trimEnd_slashes {text : List Char} (h : text.getLast? ≠ some '/') (n : Nat) :
    trimEnd (text ++ List.replicate n '/') = text := by
  unfold trimEnd
  rw [List.reverse_append, List.reverse_replicate, dropWhile_slashes, List.reverse_reverse]
  rwa [List.head?_reverse]

/-- A text is what is left of it without the slashes at its end, and those slashes. -/
theorem exists_slashes (text : List Char) :
    ∃ n, text = trimEnd text ++ List.replicate n '/' ∧ (trimEnd text).getLast? ≠ some '/' := by
  have hall : text.rtakeWhile (· = '/') =
      List.replicate (text.rtakeWhile (· = '/')).length '/' :=
    List.eq_replicate_iff.mpr ⟨rfl, fun c hc => by simpa using List.mem_rtakeWhile_imp hc⟩
  refine ⟨(text.rtakeWhile (· = '/')).length, ?_, ?_⟩
  · rw [← hall]
    exact List.rdropWhile_append_rtakeWhile.symm
  · intro hlast
    have hne : text.rdropWhile (· = '/') ≠ [] := by
      intro hnil
      rw [show trimEnd text = text.rdropWhile (· = '/') from rfl, hnil] at hlast
      cases hlast
    refine List.rdropWhile_last_not (· = '/') text hne ?_
    rw [show trimEnd text = text.rdropWhile (· = '/') from rfl,
      List.getLast?_eq_getLast_of_ne_nil hne] at hlast
    simpa using hlast

/-- Without the slashes at its end, a path below the service root is the service root or still
    below it. -/
theorem trimEnd_below (rest : List Char) :
    trimEnd (serviceRootPath ++ '/' :: rest) = serviceRootPath ∨
      serviceRootPath ++ ['/'] <+: trimEnd (serviceRootPath ++ '/' :: rest) := by
  obtain ⟨n, hrest, hlast⟩ := exists_slashes rest
  cases hpath : trimEnd rest with
  | nil =>
    left
    rw [hrest, hpath, List.nil_append, ← List.replicate_succ]
    exact trimEnd_slashes (by decide) (n + 1)
  | cons c path =>
    right
    rw [hpath] at hrest hlast
    rw [hrest, ← List.cons_append, ← List.append_assoc, trimEnd_slashes]
    · exact ⟨c :: path, by simp⟩
    · rw [List.getLast?_append_of_ne_nil _ (by simp)]
      simpa using hlast

/-- What comes behind the leading slashes of a segment begins with none. -/
theorem exists_leading_slashes (text : List Char) :
    ∃ n, text = List.replicate n '/' ++ text.dropWhile (· = '/') := by
  have hall : text.takeWhile (· = '/') = List.replicate (text.takeWhile (· = '/')).length '/' :=
    List.eq_replicate_iff.mpr ⟨rfl, fun c hc => by simpa using List.mem_takeWhile_imp hc⟩
  refine ⟨(text.takeWhile (· = '/')).length, ?_⟩
  rw [← hall]
  exact List.takeWhile_append_dropWhile.symm

theorem absolute?_eq_some_iff {segment uri : String} :
    absolute? segment = some uri ↔ Absolute segment uri := by
  unfold absolute?
  dsimp only
  constructor
  · intro h
    split at h
    · rename_i hroot
      cases h
      obtain ⟨front, hfront⟩ := exists_leading_slashes segment.toList
      obtain ⟨back, hback, hlast⟩ := exists_slashes (segment.toList.dropWhile (· = '/'))
      refine ⟨front, _, back, by rw [← hback]; exact hfront, hlast, ?_, by simp⟩
      rcases hroot with hroot | hroot
      · rw [hroot]
        exact Or.inl rfl
      · obtain ⟨rest, hrest⟩ := List.isPrefixOf_iff_prefix.mp hroot
        rw [← hrest, List.append_assoc]
        exact trimEnd_below rest
    · cases h
  · rintro ⟨front, path, back, hsegment, hlast, hroot, huri⟩
    have hhead : (path ++ List.replicate back '/').head? ≠ some '/' := by
      rcases hroot with rfl | ⟨rest, rfl⟩ <;> simp [serviceRootPath, serviceRoot]
    have hcond : path ++ List.replicate back '/' = serviceRootPath ∨
        (serviceRootPath ++ ['/']).isPrefixOf (path ++ List.replicate back '/') := by
      rw [List.isPrefixOf_iff_prefix]
      rcases hroot with rfl | hbegins
      · cases back with
        | zero => exact Or.inl (List.append_nil _)
        | succ back => exact Or.inr ⟨List.replicate back '/', by simp [List.replicate_succ]⟩
      · exact Or.inr (hbegins.trans (List.prefix_append _ _))
    rw [hsegment, dropWhile_slashes hhead, if_pos hcond, trimEnd_slashes hlast, ← huri,
      String.ofList_toList]

theorem Absolute.withinRoot {segment uri : String} (h : Absolute segment uri) :
    WithinRoot uri := by
  obtain ⟨-, path, -, -, -, hroot, huri⟩ := h
  rcases hroot with rfl | ⟨rest, rfl⟩
  · left
    exact String.toList_inj.mp huri
  · right
    rw [huri]
    exact ⟨rest, rfl⟩

/-! ## From the top down -/

/-- The URI of a resource with nothing above it: what its segment names by itself, or else the
    service root with the segment behind it. -/
inductive AtTop (segment uri : String) : Prop
  | absolute (h : Absolute segment uri)
  | relative (hnone : ∀ uri', ¬ Absolute segment uri') (h : Joined "/redfish/v1" segment uri)

theorem atTop_top (segment : String) : AtTop segment (top segment) := by
  unfold top
  cases habsolute : absolute? segment with
  | some uri => exact .absolute (absolute?_eq_some_iff.mp habsolute)
  | none =>
    refine .relative (fun uri' h => ?_) (joined_join serviceRoot segment)
    cases habsolute.symm.trans (absolute?_eq_some_iff.mpr h)

/-- The URI of a resource with nothing above it is known from its segment. -/
theorem AtTop.eq_top {segment uri : String} (h : AtTop segment uri) : uri = top segment := by
  cases h with
  | absolute h =>
    unfold top
    rw [absolute?_eq_some_iff.mpr h]
    rfl
  | relative hnone h =>
    have habsolute : absolute? segment = none :=
      Option.eq_none_iff_forall_ne_some.mpr fun uri' h' => hnone uri' (absolute?_eq_some_iff.mp h')
    unfold top
    rw [habsolute]
    exact h.unique (joined_join serviceRoot segment)

theorem AtTop.withinRoot {segment uri : String} (h : AtTop segment uri) : WithinRoot uri := by
  cases h with
  | absolute h => exact h.withinRoot
  | relative _ h => exact WithinRoot.joined (Or.inl rfl) h

/-- The URI that segments spell; they stand in the order of the way up, the top one last. -/
inductive Spelled : List String → String → Prop
  | root : Spelled [] "/redfish/v1"
  | top {segment uri : String} (h : AtTop segment uri) : Spelled [segment] uri
  | under {segment upper above uri : String} {way : List String}
      (habove : Spelled (upper :: way) above) (h : Joined above segment uri) :
      Spelled (segment :: upper :: way) uri

theorem uriOfPath_concat {path : List String} (h : path ≠ []) (segment : String) :
    uriOfPath (path ++ [segment]) = join (uriOfPath path) segment := by
  cases path with
  | nil => exact absurd rfl h
  | cons first rest =>
    show (rest ++ [segment]).foldl join (top first) = _
    rw [List.foldl_append]
    rfl

theorem spelled_uriOfPath (way : List String) : Spelled way (uriOfPath way.reverse) := by
  induction way with
  | nil => exact .root
  | cons segment rest ih =>
    cases rest with
    | nil => exact .top (atTop_top segment)
    | cons upper rest =>
      rw [List.reverse_cons, uriOfPath_concat (by simp)]
      exact .under ih (joined_join _ segment)

theorem Spelled.withinRoot {way : List String} {uri : String} (h : Spelled way uri) :
    WithinRoot uri := by
  induction h with
  | root => exact Or.inl rfl
  | top h => exact h.withinRoot
  | under _ h ih => exact ih.joined h

/-! ## What the records say -/

section Records

open Registry (nodesOf)

variable {records : List ResourceRecord} {passed : List UInt32} {way : List (UInt32 × String)}

/-- Whether the records say where the resource with an id stands. -/
def Known (records : List ResourceRecord) (id : UInt32) : Prop := ∃ node, Placed records id node

/-- Whether the records say that the resource `a` stands below `b`. -/
def Parent (records : List ResourceRecord) (a b : UInt32) : Prop :=
  a ≠ 0 ∧ ∃ node, Placed records a node ∧ node.parent = b

theorem Placed.unique {node' : ResourceNode} (h : Placed records id node)
    (h' : Placed records id node') : node = node' :=
  Option.some.inj ((nodes_iff.mpr h).symm.trans (nodes_iff.mpr h'))

theorem under_nodesOf_iff : Under (nodesOf records) a b ↔ Parent records a b :=
  and_congr_right fun _ => exists_congr fun _ => and_congr_left fun _ => nodes_iff

/-- The resources that are visited on the way up from an id, with their segments, after those that
    have been passed.  The way ends at 0, at a resource of which nothing is said, and at one that
    was passed before. -/
inductive Climb (records : List ResourceRecord) :
    List UInt32 → UInt32 → List (UInt32 × String) → Prop
  | stop {passed : List UInt32} {id : UInt32} (h : id = 0 ∨ ¬ Known records id ∨ id ∈ passed) :
      Climb records passed id []
  | visit {passed : List UInt32} {id : UInt32} {node : ResourceNode} {way : List (UInt32 × String)}
      (hid : id ≠ 0) (hplaced : Placed records id node) (hnew : id ∉ passed)
      (hrest : Climb records (id :: passed) node.parent way) :
      Climb records passed id ((id, node.segment) :: way)

/-- No resource is visited twice, and none that was passed before. -/
theorem Climb.nodup (h : Climb records passed id way) :
    (way.map Prod.fst).Nodup ∧ ∀ visited ∈ way.map Prod.fst, visited ∉ passed := by
  induction h with
  | stop => simp
  | visit _ _ hnew _ ih =>
    obtain ⟨hnodup, hpassed⟩ := ih
    rw [List.map_cons, List.nodup_cons]
    refine ⟨⟨fun hmem => hpassed _ hmem List.mem_cons_self, hnodup⟩, fun visited hmem => ?_⟩
    rcases List.mem_cons.mp hmem with rfl | hmem
    · exact hnew
    · exact fun hin => hpassed _ hmem (List.mem_cons_of_mem _ hin)

/-- The chain of segments is what is collected on the way up; the nodes that were passed are those
    that are missing from the table. -/
theorem climb_chain {t : Table UInt32 ResourceNode}
    (ht : ∀ k, t.get? k = if k ∈ passed then none else (nodesOf records).get? k) :
    ∃ way, Climb records passed id way ∧ way.map Prod.snd = chain t id := by
  induction t, id using chain.induct generalizing passed with
  | case1 t => exact ⟨[], .stop (Or.inl rfl), (chain_zero t).symm⟩
  | case2 t id hid hmissing =>
    refine ⟨[], .stop (Or.inr ?_), (chain_missing hmissing).symm⟩
    rw [ht] at hmissing
    split at hmissing
    · rename_i hin
      exact Or.inr hin
    · left
      rintro ⟨node, hplaced⟩
      cases (nodes_iff.mpr hplaced).symm.trans hmissing
  | case3 t id hid node hnode ih =>
    have hfound := hnode
    rw [ht] at hfound
    split at hfound
    · cases hfound
    · rename_i hnew
      have herased : ∀ k, (t.erase id).get? k =
          if k ∈ id :: passed then none else (nodesOf records).get? k := fun k => by
        rw [Table.get?_erase, ht]
        by_cases hk : k = id <;> simp [hk]
      obtain ⟨way, hclimb, hway⟩ := ih herased
      refine ⟨(id, node.segment) :: way, .visit hid (nodes_iff.mp hfound) hnew hclimb, ?_⟩
      rw [List.map_cons, hway, chain_node hid hnode]

end Records

end Hierarchy

namespace Registry

open Hierarchy

variable {a b : UInt32}

/-- The URIs of the resources in a registry, whatever its records are.

    1. All of them are within the service root.
    2. A resource that is not above itself (as none is whose way up has no cycle) has its URI from
       its segment alone if its parent is 0 or nothing is said of it, and otherwise from the URI of
       its parent with the segment behind it.
    3. Every way up ends, also one with a cycle, and visits no resource twice; the URI is what the
       segments on it spell. -/
theorem uris_of_records (records : List ResourceRecord) (operations : List OperationType) :
    let r := ofRecords records operations
    (∀ id uri, r.uriOfId id = .ok uri → WithinRoot uri) ∧
    (∀ id node, id ≠ 0 → Placed records id node → ¬ Relation.TransGen (Parent records) id id →
      ∃ uri, r.uriOfId id = .ok uri ∧
        (node.parent = 0 ∨ ¬ Known records node.parent → AtTop node.segment uri) ∧
        (node.parent ≠ 0 → Known records node.parent →
          ∃ above, r.uriOfId node.parent = .ok above ∧ Joined above node.segment uri)) ∧
    (∀ id, ∃ way, Climb records [] id way ∧ (way.map Prod.fst).Nodup ∧
      (Known records id →
        ∃ uri, r.uriOfId id = .ok uri ∧ Spelled (way.map Prod.snd) uri)) := by
  intro r
  refine ⟨fun id uri hfound => ?_, fun id node hid hplaced hcycle => ?_, fun id => ?_⟩
  · obtain ⟨-, rfl⟩ := uriOfId_ok_iff.mp hfound
    exact (spelled_uriOfPath _).withinRoot
  · have hunder : Under (nodesOf records) = Parent records :=
      funext fun a => funext fun b => propext under_nodesOf_iff
    have hchain := chain_eq_cons hid (nodes_iff.mpr hplaced) (hunder ▸ hcycle)
    refine ⟨_, uriOfId_ok_iff.mpr ⟨⟨node, hplaced⟩, rfl⟩, fun htop => ?_, fun hparent hknown => ?_⟩
    · have hnothing : chain (nodesOf records) node.parent = [] := by
        rcases htop with hzero | hunknown
        · rw [hzero, chain_zero]
        · refine chain_missing (Option.eq_none_iff_forall_ne_some.mpr fun upper hupper => ?_)
          exact hunknown ⟨upper, nodes_iff.mp hupper⟩
      unfold uri
      rw [hchain, hnothing]
      exact atTop_top node.segment
    · obtain ⟨upper, hupper⟩ := hknown
      refine ⟨_, uriOfId_ok_iff.mpr ⟨⟨upper, hupper⟩, rfl⟩, ?_⟩
      have hne : (chain (nodesOf records) node.parent).reverse ≠ [] := by
        rw [chain_node hparent (nodes_iff.mpr hupper)]
        simp
      unfold uri
      rw [hchain, List.reverse_cons, uriOfPath_concat hne]
      exact joined_join _ node.segment
  · obtain ⟨way, hclimb, hway⟩ : ∃ way, Climb records [] id way ∧
        way.map Prod.snd = chain (nodesOf records) id := climb_chain fun k => by simp
    refine ⟨way, hclimb, hclimb.nodup.1, fun hknown => ?_⟩
    refine ⟨_, uriOfId_ok_iff.mpr ⟨hknown, rfl⟩, ?_⟩
    rw [hway]
    exact spelled_uriOfPath _

/-- A record with an id, a parent, a name and a part of the URI, and the resources it lists. -/
def sampleRecord (id container : UInt32) (name subUri : String)
    (additional : List AdditionalResource) : ResourceRecord :=
  { resourceId := id, flags := 0, containerId := container, proposedName := name, subUri,
    additional, version := .unspecified, dictionaryLength := 0, dictionarySignature := 0,
    schemaName := "", oemNames := [] }

/-- A chain of three resources, of which the lowest has no record and is listed twice, and two
    resources that are above each other. -/
def sampleRecords : List ResourceRecord :=
  [sampleRecord 2 1 "" "Chassis" [⟨20, "/Sensors"⟩, ⟨20, "Again"⟩, ⟨2, "Ignored"⟩],
    sampleRecord 3 4 "" "A" [], sampleRecord 4 3 "" "B" [],
    sampleRecord 1 0 "//redfish/v1/" "" []]

theorem sampleRecords_placed :
    Placed sampleRecords 1 ⟨"//redfish/v1/", 0⟩ ∧ Placed sampleRecords 2 ⟨"Chassis", 1⟩ ∧
      Placed sampleRecords 20 ⟨"/Sensors", 2⟩ := by
  have htop : recordOf? sampleRecords 1 = some (sampleRecord 1 0 "//redfish/v1/" "" []) := rfl
  have hlister : recordOf? sampleRecords 2 = some (sampleRecord 2 1 "" "Chassis"
      [⟨20, "/Sensors"⟩, ⟨20, "Again"⟩, ⟨2, "Ignored"⟩]) := rfl
  have hnone : recordOf? sampleRecords 20 = none := rfl
  refine ⟨?_, ?_, ?_⟩
  · exact .proposed htop rfl (by decide)
  · exact .own hlister (Or.inl (by decide))
  · refine .listed hnone hlister rfl fun lower other hlt hother => ?_
    have hmem : other ∈ sampleRecords := List.mem_reverse.mp (List.mem_of_find?_eq_some hother)
    have hothers : ∀ other ∈ sampleRecords, other.resourceId < 2 →
        ∀ b ∈ other.additional, b.resourceId ≠ 20 := by decide
    exact hothers other hmem (resourceId_of_recordOf? hother ▸ hlt)

/-- In the chain, each id is greater than that of its parent. -/
theorem sampleRecords_parent (h : Parent sampleRecords a b) (ha : a ∈ [0, 1, 2, 20]) :
    b ∈ [0, 1, 2, 20] ∧ b < a := by
  obtain ⟨hzero, node, hplaced, rfl⟩ := h
  obtain ⟨htop, hmiddle, hlow⟩ := sampleRecords_placed
  simp only [List.mem_cons, List.not_mem_nil, or_false] at ha
  rcases ha with rfl | rfl | rfl | rfl
  · exact absurd rfl hzero
  · rw [hplaced.unique htop]
    decide
  · rw [hplaced.unique hmiddle]
    decide
  · rw [hplaced.unique hlow]
    decide

theorem sampleRecords_acyclic (ha : a ∈ [0, 1, 2, 20]) :
    ¬ Relation.TransGen (Parent sampleRecords) a a := by
  have hdown : ∀ b, Relation.TransGen (Parent sampleRecords) a b → b ∈ [0, 1, 2, 20] ∧ b < a := by
    intro b h
    induction h with
    | single h => exact sampleRecords_parent h ha
    | tail _ h ih =>
      obtain ⟨hmem, hlt⟩ := sampleRecords_parent h ih.1
      exact ⟨hmem, UInt32.lt_trans hlt ih.2⟩
  intro hcycle
  exact UInt32.lt_irrefl a (hdown a hcycle).2

/-- The listed resource has the URI that its chain spells, from the absolute segment at the top. -/
theorem uris_of_records_listed :
    (ofRecords sampleRecords []).uriOfId 20 = .ok "/redfish/v1/Chassis/Sensors" := by
  obtain ⟨htop, hmiddle, hlow⟩ := sampleRecords_placed
  obtain ⟨-, hlaw, -⟩ := uris_of_records sampleRecords []
  obtain ⟨uri₁, huri₁, hroot, -⟩ := hlaw 1 _ (by decide) htop (sampleRecords_acyclic (by decide))
  obtain ⟨uri₂, huri₂, -, hbelow₁⟩ :=
    hlaw 2 _ (by decide) hmiddle (sampleRecords_acyclic (by decide))
  obtain ⟨uri₃, huri₃, -, hbelow₂⟩ := hlaw 20 _ (by decide) hlow (sampleRecords_acyclic (by decide))
  obtain ⟨above₁, habove₁, hjoined₁⟩ := hbelow₁ (by decide) ⟨_, htop⟩
  obtain ⟨above₂, habove₂, hjoined₂⟩ := hbelow₂ (by decide) ⟨_, hmiddle⟩
  cases huri₁.symm.trans habove₁
  cases huri₂.symm.trans habove₂
  rw [huri₃, hjoined₂.unique (joined_join _ _), hjoined₁.unique (joined_join _ _),
    (hroot (Or.inl rfl)).eq_top]
  decide

end Registry

end DeviceEnablement
