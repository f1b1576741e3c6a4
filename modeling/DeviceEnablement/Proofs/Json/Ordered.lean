/-
  JSON values whose objects list their members in order.

  The members of an object are kept in the order of their names, whatever order they were written
  in, and of members with one name only the last one is kept.

  1. `Ordered`: at every level of a value, the names of an object increase in the order of their
     UTF-8 bytes.
  2. `mem_insertMember`, `insertMember_ascending`: one member put among others in order.
  3. `sortMembers_ascending`, `mem_sortMembers`: all members, put in one after the other.
  4. `sortMembers_perm`: members with different names come out the same in whatever order they are
     given.
  5. `ordered_of_ofText?`: every value that is read from a text is in order.
-/
import DeviceEnablement.Json.Reading
import DeviceEnablement.Proofs.Text.Order
import Mathlib.Data.List.Induction

namespace DeviceEnablement.Json

/-- Whether names increase in the order of their UTF-8 bytes; none of them occurs twice then. -/
def Increasing (names : List String) : Prop :=
  names.Pairwise fun a b => Bytes.utf8 a < Bytes.utf8 b

/-- Whether, at every level of a value, the names of an object increase. -/
inductive Ordered : Json → Prop
  | null : Ordered .null
  | bool (value : Bool) : Ordered (.bool value)
  | number (value : Number) : Ordered (.number value)
  | string (text : String) : Ordered (.string text)
  | array {items : List Json} (h : ∀ item ∈ items, Ordered item) : Ordered (.array items)
  | object {members : List (String × Json)} (hnames : Increasing (members.map Prod.fst))
      (h : ∀ member ∈ members, Ordered member.2) : Ordered (.object members)

/-! ## Members in order -/

section

variable {α : Type} {name : String} {value : α} {members : List (String × α)}

/-- Whether members stand in the order of their names. -/
def Ascending (members : List (String × α)) : Prop := members.Pairwise fun a b => a.1 < b.1

theorem Ascending.increasing (h : Ascending members) : Increasing (members.map Prod.fst) :=
  List.pairwise_map.mpr (h.imp Bytes.utf8_lt)

/-- A member that is put among others in order takes the place of the one with its name. -/
theorem mem_insertMember (h : Ascending members) {member : String × α} :
    member ∈ insertMember name value members ↔
      member = (name, value) ∨ member ∈ members ∧ member.1 ≠ name := by
  induction members with
  | nil => simp [insertMember]
  | cons head rest ih =>
    obtain ⟨other, old⟩ := head
    obtain ⟨hfirst, hrest⟩ := List.pairwise_cons.mp h
    rw [List.mem_cons]
    unfold insertMember
    split
    · rename_i hlt
      have hother : member = (other, old) → member.1 ≠ name := by
        rintro rfl rfl
        exact String.lt_irrefl _ hlt
      have hlater (hmem : member ∈ rest) : member.1 ≠ name := by
        rintro rfl
        exact String.lt_asymm hlt (hfirst member hmem)
      rw [List.mem_cons, List.mem_cons, and_iff_left_of_imp (Or.rec hother hlater)]
    · split
      · rename_i hsame
        subst hsame
        have hhead : member = (name, old) → member.1 = name := congrArg Prod.fst
        have hlater (hmem : member ∈ rest) : member.1 ≠ name := by
          rintro rfl
          exact String.lt_irrefl _ (hfirst member hmem)
        rw [List.mem_cons]
        grind
      · rename_i hne
        have hother : member = (other, old) → member.1 ≠ name := by
          rintro rfl
          exact Ne.symm hne
        rw [List.mem_cons, ih hrest, or_and_right, and_iff_left_of_imp hother, or_left_comm]

/-- A member that is put among others in order leaves them in order. -/
theorem insertMember_ascending (h : Ascending members) :
    Ascending (insertMember name value members) := by
  induction members with
  | nil => exact List.pairwise_singleton _ _
  | cons head rest ih =>
    obtain ⟨other, old⟩ := head
    obtain ⟨hfirst, hrest⟩ := List.pairwise_cons.mp h
    unfold insertMember
    split
    · rename_i hlt
      refine List.pairwise_cons.mpr ⟨?_, h⟩
      rw [List.forall_mem_cons]
      exact ⟨hlt, fun member hmem => String.lt_trans hlt (hfirst member hmem)⟩
    · split
      · rename_i heq
        exact List.pairwise_cons.mpr ⟨heq ▸ hfirst, hrest⟩
      · rename_i hlt hne
        refine List.pairwise_cons.mpr ⟨fun member hmem => ?_, ih hrest⟩
        obtain rfl | ⟨hmem, -⟩ := (mem_insertMember hrest).mp hmem
        · exact Std.lt_of_le_of_ne (String.not_lt.mp hlt) (Ne.symm hne)
        · exact hfirst member hmem

/-- The members after one more was given. -/
theorem sortMembers_append_singleton (members : List (String × α)) (member : String × α) :
    sortMembers (members ++ [member]) = insertMember member.1 member.2 (sortMembers members) :=
  List.foldl_append

/-- Members that are put in one after the other stand in the order of their names. -/
theorem sortMembers_ascending (members : List (String × α)) : Ascending (sortMembers members) := by
  induction members using List.reverseRecOn with
  | nil => exact List.Pairwise.nil
  | append_singleton members member ih =>
    rw [sortMembers_append_singleton]
    exact insertMember_ascending ih

/-- No member comes out that was not given. -/
theorem mem_of_mem_sortMembers {member : String × α} (h : member ∈ sortMembers members) :
    member ∈ members := by
  induction members using List.reverseRecOn with
  | nil => exact h
  | append_singleton members last ih =>
    rw [sortMembers_append_singleton, mem_insertMember (sortMembers_ascending members)] at h
    rw [List.mem_append, List.mem_singleton]
    exact h.symm.imp_left fun h => ih h.1

/-- Of members with different names all come out. -/
theorem mem_sortMembers (hnames : (members.map Prod.fst).Nodup) {member : String × α} :
    member ∈ sortMembers members ↔ member ∈ members := by
  refine ⟨mem_of_mem_sortMembers, fun h => ?_⟩
  induction members using List.reverseRecOn with
  | nil => exact h
  | append_singleton members last ih =>
    rw [List.map_append, List.nodup_append] at hnames
    obtain ⟨hnames, -, hnew⟩ := hnames
    rw [sortMembers_append_singleton, mem_insertMember (sortMembers_ascending members)]
    rcases List.mem_append.mp h with h | h
    · exact .inr ⟨ih hnames h, hnew _ (List.mem_map_of_mem h) _ List.mem_cons_self⟩
    · exact .inl (List.mem_singleton.mp h)

/-- Members with different names come out the same in whatever order they are given. -/
theorem sortMembers_perm {members' : List (String × α)} (h : members.Perm members')
    (hnames : (members.map Prod.fst).Nodup) : sortMembers members = sortMembers members' := by
  have hnames' : (members'.map Prod.fst).Nodup := (h.map Prod.fst).nodup_iff.mp hnames
  have hnodup (members : List (String × α)) : (sortMembers members).Nodup := by
    refine List.Pairwise.imp (fun hlt => ?_) (sortMembers_ascending members)
    rintro rfl
    exact String.lt_irrefl _ hlt
  refine List.Perm.eq_of_pairwise
    (fun a b _ _ hab hba => absurd hba (String.lt_asymm hab))
    (sortMembers_ascending members) (sortMembers_ascending members') ?_
  rw [List.perm_ext_iff_of_nodup (hnodup _) (hnodup _)]
  intro member
  rw [mem_sortMembers hnames, mem_sortMembers hnames', h.mem_iff]

end

/-! ## Values in order -/

/-- The object with these members is in order if their values are. -/
theorem ordered_ofMembers {members : List (String × Json)}
    (h : ∀ member ∈ members, Ordered member.2) : Ordered (ofMembers members) :=
  .object (sortMembers_ascending members).increasing
    fun member hmem => h member (mem_of_mem_sortMembers hmem)

namespace Raw

mutual

theorem ordered_of_value : ∀ {raw : Raw} {room : Nat} {json : Json},
    raw.value room = some json → Ordered json
  | .null, _, _, h => by
    cases h
    exact .null
  | .bool b, _, _, h => by
    cases h
    exact .bool b
  | .number literal, _, _, h => by
    unfold value at h
    split at h
    · cases h
      exact .number _
    · cases h
  | .string pieces, _, _, h => by
    obtain ⟨text, -, rfl⟩ := Option.map_eq_some_iff.mp h
    exact .string text
  | .array items, 0, _, h => nomatch h
  | .array items, room + 1, _, h => by
    obtain ⟨vs, hvs, rfl⟩ := Option.map_eq_some_iff.mp h
    exact .array (ordered_of_values hvs)
  | .object members, 0, _, h => nomatch h
  | .object members, room + 1, _, h => by
    obtain ⟨vs, hvs, rfl⟩ := Option.map_eq_some_iff.mp h
    exact ordered_ofMembers (ordered_of_members? hvs)

theorem ordered_of_values : ∀ {raws : List Raw} {room : Nat} {items : List Json},
    values room raws = some items → ∀ item ∈ items, Ordered item
  | [], _, _, h => by
    cases h
    exact fun _ hmem => absurd hmem List.not_mem_nil
  | raw :: rest, _, _, h => by
    unfold values at h
    split at h
    · rename_i v vs hv hvs
      cases h
      exact List.forall_mem_cons.mpr ⟨ordered_of_value hv, ordered_of_values hvs⟩
    · cases h

theorem ordered_of_members? : ∀ {raws : List (List Piece × Raw)} {room : Nat}
    {members : List (String × Json)}, members? room raws = some members →
    ∀ member ∈ members, Ordered member.2
  | [], _, _, h => by
    cases h
    exact fun _ hmem => absurd hmem List.not_mem_nil
  | (name, raw) :: rest, _, _, h => by
    unfold members? at h
    split at h
    · rename_i n v vs hn hv hvs
      cases h
      exact List.forall_mem_cons.mpr ⟨ordered_of_value hv, ordered_of_members? hvs⟩
    · cases h

end

end Raw

/-- Every value that is read from a text is in order. -/
theorem ordered_of_ofText? {text : String} {json : Json} (h : ofText? text = some json) :
    Ordered json := by
  unfold ofText? at h
  split at h
  · exact Raw.ordered_of_value h
  · cases h

end DeviceEnablement.Json
