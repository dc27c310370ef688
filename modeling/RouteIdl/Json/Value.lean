/-!
# JSON values

A JSON value with the members of each object in the order in which their keys first occur. Numbers
are either integers, which keep their digits, or binary floating point.
-/

namespace RouteIdl

/-- A JSON value. -/
inductive Json where
  /-- The value null. -/
  | null
  /-- A truth value. -/
  | bool (value : Bool)
  /-- A number written without fraction and exponent, small enough to keep its digits. -/
  | integer (value : Int)
  /-- Any other number. -/
  | float (value : Float)
  /-- A text. -/
  | string (value : String)
  /-- A list of values. -/
  | array (elements : List Json)
  /-- Members by key. -/
  | object (members : List (String × Json))
  deriving Inhabited

namespace Json

/-- Give a key a value: in the place of the key if it occurs, else after the last member. -/
def put (members : List (String × Json)) (key : String) (value : Json) : List (String × Json) :=
  match members with
  | [] => [(key, value)]
  | (other, old) :: rest =>
      if other = key then (other, value) :: rest else (other, old) :: put rest key value

/-- The value under a key of an object; other values have no members. -/
def member? (json : Json) (key : String) : Option Json :=
  match json with
  | object members => members.lookup key
  | _ => none

/-- The text of a string value. -/
def text? : Json → Option String
  | string value => some value
  | _ => none

/-- The members of an object. -/
def members? : Json → Option (List (String × Json))
  | object members => some members
  | _ => none

/-- The elements of an array. -/
def elements? : Json → Option (List Json)
  | array elements => some elements
  | _ => none

/-- Putting adds the key at the end of the keys, or changes none of them. -/
theorem map_fst_put {members : List (String × Json)} {key : String} {value : Json} :
    (put members key value).map Prod.fst =
      if key ∈ members.map Prod.fst then members.map Prod.fst
      else members.map Prod.fst ++ [key] := by
  induction members with
  | nil => simp [put]
  | cons entry rest ih =>
      obtain ⟨other, old⟩ := entry
      by_cases h : other = key
      · simp [put, h]
      · simp only [put, if_neg h, List.map_cons, ih, List.mem_cons, Ne.symm h, false_or]
        split <;> simp

/-- After putting, the key has the value and every other key has what it had. -/
theorem lookup_put {members : List (String × Json)} {key x : String} {value : Json} :
    (put members key value).lookup x = if x = key then some value else members.lookup x := by
  induction members with
  | nil => grind [put]
  | cons entry rest ih =>
      obtain ⟨other, old⟩ := entry
      by_cases h : other = key
      · grind [put]
      · grind [put]

end Json

end RouteIdl
