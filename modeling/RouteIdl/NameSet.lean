/-!
# Sets of names

A finite set of names, kept as the list of its members in ascending order of their characters.
Two sets with the same members are equal.
-/

namespace RouteIdl

/-- A finite set of names. -/
structure NameSet where
  /-- The members, each once, in ascending order. -/
  toList : List String
  /-- The members ascend strictly. -/
  ascending : toList.Pairwise (· < ·)
  deriving DecidableEq

namespace NameSet

/-- Put a name into its place in an ascending list, unless it is there. -/
def insertAscending (name : String) : List String → List String
  | [] => [name]
  | head :: rest =>
      if name < head then name :: head :: rest
      else if head < name then head :: insertAscending name rest
      else head :: rest

theorem mem_insertAscending {x name : String} {names : List String} :
    x ∈ insertAscending name names ↔ x = name ∨ x ∈ names := by
  induction names with
  | nil => simp [insertAscending]
  | cons head rest ih =>
      unfold insertAscending
      split
      · simp
      · split
        · simp only [List.mem_cons, ih]
          grind
        · next hlt hgt =>
          have heq : name = head :=
            String.le_antisymm (String.not_lt.mp hgt) (String.not_lt.mp hlt)
          subst heq
          simp

theorem pairwise_insertAscending {name : String} {names : List String}
    (h : names.Pairwise (· < ·)) : (insertAscending name names).Pairwise (· < ·) := by
  induction names with
  | nil => simp [insertAscending]
  | cons head rest ih =>
      obtain ⟨hhead, hrest⟩ := List.pairwise_cons.mp h
      unfold insertAscending
      split
      · next hlt =>
        refine List.pairwise_cons.mpr ⟨fun x hx => ?_, h⟩
        cases List.mem_cons.mp hx with
        | inl heq => exact heq ▸ hlt
        | inr hmem => exact String.lt_trans hlt (hhead x hmem)
      · split
        · next hgt =>
          refine List.pairwise_cons.mpr ⟨fun x hx => ?_, ih hrest⟩
          cases mem_insertAscending.mp hx with
          | inl heq => exact heq ▸ hgt
          | inr hmem => exact hhead x hmem
        · exact h

theorem eq_of_mem_iff {a b : List String} (ha : a.Pairwise (· < ·)) (hb : b.Pairwise (· < ·))
    (h : ∀ name, name ∈ a ↔ name ∈ b) : a = b := by
  induction a generalizing b with
  | nil =>
      cases b with
      | nil => rfl
      | cons y ys => simpa using h y
  | cons x xs ih =>
      cases b with
      | nil => simpa using h x
      | cons y ys =>
          obtain ⟨hx, hxs⟩ := List.pairwise_cons.mp ha
          obtain ⟨hy, hys⟩ := List.pairwise_cons.mp hb
          have heq : x = y := by
            rcases List.mem_cons.mp ((h x).mp List.mem_cons_self) with heq | hmem
            · exact heq
            · rcases List.mem_cons.mp ((h y).mpr List.mem_cons_self) with heq | hmem'
              · exact heq.symm
              · exact absurd (hy x hmem) (String.lt_asymm (hx y hmem'))
          subst heq
          have htail : ∀ name, name ∈ xs ↔ name ∈ ys := by
            intro name
            have hname := h name
            have hne : ∀ zs : List String, (∀ z ∈ zs, x < z) → name ∈ zs → name ≠ x :=
              fun zs hzs hmem heq => String.lt_irrefl x (heq ▸ hzs name hmem)
            constructor
            · intro hmem
              exact (List.mem_cons.mp (hname.mp (.tail x hmem))).resolve_left (hne xs hx hmem)
            · intro hmem
              exact (List.mem_cons.mp (hname.mpr (.tail x hmem))).resolve_left (hne ys hy hmem)
          rw [ih hxs hys htail]

/-- The set without members. -/
def empty : NameSet := ⟨[], .nil⟩

instance : EmptyCollection NameSet := ⟨empty⟩

instance : Inhabited NameSet := ⟨empty⟩

/-- The set with one more name. -/
def insert (set : NameSet) (name : String) : NameSet :=
  ⟨insertAscending name set.toList, pairwise_insertAscending set.ascending⟩

/-- The set with all names of a list added. -/
def insertAll (set : NameSet) (names : List String) : NameSet :=
  names.foldl insert set

/-- The set of the names in a list. -/
def ofList (names : List String) : NameSet :=
  insertAll ∅ names

instance : Membership String NameSet := ⟨fun set name => name ∈ set.toList⟩

instance (name : String) (set : NameSet) : Decidable (name ∈ set) :=
  inferInstanceAs (Decidable (name ∈ set.toList))

/-- Sets with the same members are equal. -/
theorem ext {a b : NameSet} (h : ∀ name, name ∈ a ↔ name ∈ b) : a = b := by
  obtain ⟨as, ha⟩ := a
  obtain ⟨bs, hb⟩ := b
  have heq : as = bs := eq_of_mem_iff ha hb h
  subst heq
  rfl

theorem mem_iff {name : String} {set : NameSet} : name ∈ set ↔ name ∈ set.toList := Iff.rfl

@[simp] theorem not_mem_empty {name : String} : ¬ name ∈ (∅ : NameSet) := by
  change ¬ name ∈ ([] : List String)
  simp

@[simp] theorem mem_insert {x name : String} {set : NameSet} :
    x ∈ set.insert name ↔ x = name ∨ x ∈ set :=
  mem_insertAscending

@[simp] theorem mem_insertAll {x : String} {set : NameSet} {names : List String} :
    x ∈ set.insertAll names ↔ x ∈ set ∨ x ∈ names := by
  induction names generalizing set with
  | nil => simp [insertAll]
  | cons name rest ih =>
      have hstep : set.insertAll (name :: rest) = (set.insert name).insertAll rest := rfl
      rw [hstep, ih, mem_insert, List.mem_cons]
      grind

@[simp] theorem mem_ofList {x : String} {names : List String} :
    x ∈ ofList names ↔ x ∈ names := by
  simp [ofList]

end NameSet

end RouteIdl
