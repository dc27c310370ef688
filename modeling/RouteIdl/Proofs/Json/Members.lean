import Mathlib.Data.List.Forall2
import Mathlib.Data.List.Induction
import Mathlib.Data.List.Nodup
import RouteIdl.Json.Value

/-!
# Members of objects

Members that are put one after the other. Keys stay distinct and in the order in which they are
first put, each has the value that is put last, and members that are related in turn stay so.
-/

namespace RouteIdl

namespace Json

/-- Put members one after the other. -/
def putAll (members added : List (String × Json)) : List (String × Json) :=
  added.foldl (fun members member => put members member.1 member.2) members

variable {members others added : List (String × Json)} {key : String}

theorem nodup_keys_put {value : Json} (h : (members.map Prod.fst).Nodup) :
    ((put members key value).map Prod.fst).Nodup := by
  rw [map_fst_put]
  split
  next => exact h
  next hkey => exact List.nodup_append.mpr ⟨h, List.nodup_singleton key, by grind⟩

/-- A new key goes to the end. -/
theorem put_of_not_mem {value : Json} (h : key ∉ members.map Prod.fst) :
    put members key value = members ++ [(key, value)] := by
  induction members with
  | nil => rfl
  | cons member rest ih =>
      obtain ⟨other, old⟩ := member
      rw [List.map_cons, List.mem_cons, not_or] at h
      rw [put, if_neg (Ne.symm h.1), ih h.2, List.cons_append]

theorem nodup_keys_putAll (h : (members.map Prod.fst).Nodup) :
    ((putAll members added).map Prod.fst).Nodup := by
  induction added generalizing members with
  | nil => exact h
  | cons member rest ih => exact ih (nodup_keys_put h)

theorem mem_keys_put {x : String} {value : Json} :
    x ∈ (put members key value).map Prod.fst ↔ x ∈ members.map Prod.fst ∨ x = key := by
  rw [map_fst_put]
  split
  next hkey => grind
  next => rw [List.mem_append, List.mem_singleton]

theorem mem_keys_putAll {x : String} :
    x ∈ (putAll members added).map Prod.fst ↔
      x ∈ members.map Prod.fst ∨ x ∈ added.map Prod.fst := by
  induction added generalizing members with
  | nil => simp [putAll]
  | cons member rest ih =>
      have hstep : putAll members (member :: rest) =
          putAll (put members member.1 member.2) rest := rfl
      rw [hstep, ih, mem_keys_put, List.map_cons, List.mem_cons, or_assoc]

theorem putAll_nil_eq_nil_iff : putAll [] added = [] ↔ added = [] := by
  constructor
  · intro h
    cases added with
    | nil => rfl
    | cons member rest =>
        have hkey : member.1 ∈ (putAll [] (member :: rest)).map Prod.fst :=
          mem_keys_putAll.mpr (.inr List.mem_cons_self)
        simp [h] at hkey
  · rintro rfl
    rfl

theorem putAll_append {rest : List (String × Json)} :
    putAll members (added ++ rest) = putAll (putAll members added) rest := by
  rw [putAll, List.foldl_append]
  rfl

theorem putAll_concat {member : String × Json} :
    putAll members (added ++ [member]) = put (putAll members added) member.1 member.2 := by
  rw [putAll_append]
  rfl

/-- After putting, a key has the value that was put last under it. -/
theorem lookup_putAll {x : String} :
    (putAll members added).lookup x = (added.reverse.lookup x).or (members.lookup x) := by
  induction added generalizing members with
  | nil => rfl
  | cons member rest ih =>
      obtain ⟨key, value⟩ := member
      have hstep : putAll members ((key, value) :: rest) = putAll (put members key value) rest :=
        rfl
      rw [hstep, ih, lookup_put, List.reverse_cons, List.lookup_append, Option.or_assoc]
      by_cases h : x = key
      · simp [h]
      · have hbeq : (x == key) = false := by simpa using h
        simp [List.lookup_cons, h, hbeq]

/-- The keys of what is put are in the order in which they first occur. -/
theorem map_fst_putAll_nil : (putAll [] added).map Prod.fst = (added.map Prod.fst).eraseDups := by
  induction added using List.reverseRecOn with
  | nil => rfl
  | append_singleton added member ih =>
      rw [putAll_concat, map_fst_put, ih, List.map_append, List.eraseDups_append]
      by_cases h : member.1 ∈ added.map Prod.fst
      · simp [h, List.removeAll]
      · simp [h, List.removeAll, List.eraseDups_cons]

/-- Members with distinct keys are put as they are. -/
theorem putAll_nil_of_nodup (h : (added.map Prod.fst).Nodup) : putAll [] added = added := by
  induction added using List.reverseRecOn with
  | nil => rfl
  | append_singleton added member ih =>
      rw [List.map_append, List.map_singleton, List.nodup_append] at h
      obtain ⟨hadded, -, hfresh⟩ := h
      have hkey : member.1 ∉ added.map Prod.fst :=
        fun hmem => hfresh member.1 hmem member.1 List.mem_cons_self rfl
      rw [putAll_concat, ih hadded, put_of_not_mem hkey]

/-- Putting adds keys at the end. -/
theorem keys_prefix_putAll : members.map Prod.fst <+: (putAll members added).map Prod.fst := by
  induction added generalizing members with
  | nil => exact List.prefix_rfl
  | cons member rest ih =>
      have hput : members.map Prod.fst <+: (put members member.1 member.2).map Prod.fst := by
        rw [map_fst_put]
        split
        next => exact List.prefix_rfl
        next => exact List.prefix_append _ _
      exact hput.trans ih

theorem map_fst_putAll_of_subset (h : added.map Prod.fst ⊆ members.map Prod.fst) :
    (putAll members added).map Prod.fst = members.map Prod.fst := by
  induction added generalizing members with
  | nil => rfl
  | cons member rest ih =>
      obtain ⟨hkey, hrest⟩ := List.cons_subset.mp h
      have hput : (put members member.1 member.2).map Prod.fst = members.map Prod.fst := by
        rw [map_fst_put, if_pos hkey]
      have hstep : putAll members (member :: rest) =
          putAll (put members member.1 member.2) rest := rfl
      rw [hstep, ih (hput ▸ hrest), hput]

theorem lookup_eq_none_of_not_mem {x : String} (h : x ∉ members.map Prod.fst) :
    members.lookup x = none := by
  rw [List.lookup_eq_none_iff]
  intro member hmember
  have hne : x ≠ member.1 := fun heq => h (heq ▸ List.mem_map_of_mem hmember)
  simpa using hne

/-- Members with distinct keys are known by their keys in order and the value under each. -/
theorem eq_of_lookup_eq (hkeys : members.map Prod.fst = others.map Prod.fst)
    (hnodup : (members.map Prod.fst).Nodup) (hlookup : ∀ x, members.lookup x = others.lookup x) :
    members = others := by
  induction members generalizing others with
  | nil => simpa using hkeys.symm
  | cons member rest ih =>
      cases others with
      | nil => simp at hkeys
      | cons other others =>
          obtain ⟨name, value⟩ := member
          obtain ⟨name', value'⟩ := other
          obtain ⟨hname, htail⟩ := List.cons.inj hkeys
          obtain ⟨hfresh, hnodup⟩ := List.nodup_cons.mp hnodup
          change name = name' at hname
          subst hname
          have hvalue : value = value' := by simpa using hlookup name
          subst hvalue
          rw [ih htail hnodup]
          intro x
          by_cases hx : x = name
          · have hfresh' : name ∉ others.map Prod.fst := htail ▸ hfresh
            rw [hx, lookup_eq_none_of_not_mem hfresh, lookup_eq_none_of_not_mem hfresh']
          · have hbeq : (x == name) = false := by simpa using hx
            simpa [List.lookup_cons, hbeq] using hlookup x

/-- Putting the same members again changes nothing. -/
theorem putAll_putAll_self (h : (members.map Prod.fst).Nodup) :
    putAll (putAll members added) added = putAll members added := by
  apply eq_of_lookup_eq
  · apply map_fst_putAll_of_subset
    intro x hx
    exact mem_keys_putAll.mpr (.inr hx)
  · exact nodup_keys_putAll (nodup_keys_putAll h)
  · intro x
    rw [lookup_putAll, lookup_putAll, ← Option.or_assoc, Option.or_self]

variable {holds : Json → Prop}

theorem forall_put {key : String} {value : Json} (hmembers : ∀ member ∈ members, holds member.2)
    (hvalue : holds value) : ∀ member ∈ put members key value, holds member.2 := by
  induction members with
  | nil => exact List.forall_mem_singleton.mpr hvalue
  | cons entry rest ih =>
      obtain ⟨other, old⟩ := entry
      obtain ⟨hold, hrest⟩ := List.forall_mem_cons.mp hmembers
      unfold put
      split
      next => exact List.forall_mem_cons.mpr ⟨hvalue, hrest⟩
      next => exact List.forall_mem_cons.mpr ⟨hold, ih hrest⟩

theorem forall_putAll (hmembers : ∀ member ∈ members, holds member.2)
    (hadded : ∀ member ∈ added, holds member.2) :
    ∀ member ∈ putAll members added, holds member.2 := by
  induction added generalizing members with
  | nil => exact hmembers
  | cons member rest ih =>
      obtain ⟨hmember, hrest⟩ := List.forall_mem_cons.mp hadded
      exact ih (forall_put hmembers hmember) hrest

/-- Members have the same keys, in order, and related values. -/
def Matching (related : Json → Json → Prop) : List (String × Json) → List (String × Json) → Prop :=
  List.Forall₂ fun member other => member.1 = other.1 ∧ related member.2 other.2

variable {related : Json → Json → Prop}

theorem Matching.symm (h : Matching related members others)
    (hsymm : ∀ value other, related value other → related other value) :
    Matching related others members :=
  (h.imp fun _ _ hsame => ⟨hsame.1.symm, hsymm _ _ hsame.2⟩).flip

theorem Matching.keys_eq (h : Matching related members others) :
    members.map Prod.fst = others.map Prod.fst := by
  induction h with
  | nil => rfl
  | cons hfirst _ ih => rw [List.map_cons, List.map_cons, hfirst.1, ih]

theorem Matching.put {value value' : Json} (h : Matching related members others)
    (hvalue : related value value') :
    Matching related (put members key value) (put others key value') := by
  induction h with
  | nil => exact .cons ⟨rfl, hvalue⟩ .nil
  | @cons member other rest others hfirst hrest ih =>
      obtain ⟨name, node⟩ := member
      obtain ⟨name', node'⟩ := other
      obtain ⟨rfl, hnode⟩ := hfirst
      unfold Json.put
      split
      next => exact .cons ⟨rfl, hvalue⟩ hrest
      next => exact .cons ⟨rfl, hnode⟩ ih

theorem Matching.putAll {added' : List (String × Json)} (h : Matching related members others)
    (hadded : Matching related added added') :
    Matching related (putAll members added) (putAll others added') := by
  unfold Matching at hadded
  induction hadded generalizing members others with
  | nil => exact h
  | @cons member other rest others' hfirst _ ih =>
      obtain ⟨name, node⟩ := member
      obtain ⟨name', node'⟩ := other
      obtain ⟨rfl, hnode⟩ := hfirst
      exact ih (h.put hnode)

end Json

end RouteIdl
