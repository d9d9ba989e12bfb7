import YamlDialects.Path.Traversal

set_option autoImplicit false

namespace YamlDialects.Yaml

inductive Value where
  | null
  | bool (value : Bool)
  | int (value : Int)
  | float (value : Float)
  | string (value : String)
  | sequence (items : List Value)
  | mapping (entries : List (Value × Value))
  | tagged (tag : String) (value : Value)
deriving Inhabited, BEq

namespace Value

mutual

/-- Whether two values are the same key: all forms of not-a-number are one, and entries have no order. -/
def isSame : Value → Value → Bool
  | .null, .null => true
  | .bool first, .bool second => first == second
  | .int first, .int second => first == second
  | .float first, .float second => (first.isNaN && second.isNaN) || first == second
  | .string first, .string second => first == second
  | .sequence first, .sequence second => areSame first second
  | .mapping first, .mapping second => first.length == second.length && areIn second first
  | .tagged tag first, .tagged other second => tag == other && isSame first second
  | _, _ => false

def areSame : List Value → List Value → Bool
  | [], [] => true
  | first :: rest, second :: others => isSame first second && areSame rest others
  | _, _ => false

def areIn (entries : List (Value × Value)) : List (Value × Value) → Bool
  | [] => true
  | (key, value) :: rest =>
      entries.any (fun entry => isSame key entry.1 && isSame value entry.2) && areIn entries rest

end

def hasDuplicates : List Value → Bool
  | [] => false
  | first :: rest => rest.any (isSame first) || hasDuplicates rest

def untagged : Value → Value
  | .tagged _ value => untagged value
  | value => value

def string? (value : Value) : Option String :=
  match value.untagged with
  | .string text => some text
  | _ => none

def entries (value : Value) : List (Value × Value) :=
  match value.untagged with
  | .mapping entries => entries
  | _ => []

def items (value : Value) : List Value :=
  match value.untagged with
  | .sequence items => items
  | _ => []

/-- Keys and indices look through tags, the step to all children does not. -/
def step (segment : Segment) (value : Value) : List Value :=
  match segment with
  | .value key => (value.entries.filter fun entry => entry.1.string? == some key).map (·.2)
  | .key key => (value.entries.filter fun entry => entry.1.string? == some key).map (·.1)
  | .index position => value.items[position]?.toList
  | .anyChild =>
      match value with
      | .mapping entries => entries.map (·.2)
      | .sequence items => items
      | _ => []

mutual

def height : Value → Nat
  | .sequence items => 1 + itemsHeight items
  | .mapping entries => 1 + entriesHeight entries
  | .tagged _ value => 1 + height value
  | _ => 1

def itemsHeight : List Value → Nat
  | [] => 0
  | item :: rest => height item + itemsHeight rest

def entriesHeight : List (Value × Value) → Nat
  | [] => 0
  | (key, value) :: rest => height key + height value + entriesHeight rest

end

theorem height_le_itemsHeight {items : List Value} {item : Value} (member : item ∈ items) :
    height item ≤ itemsHeight items := by
  induction items with
  | nil => simp at member
  | cons first rest ih =>
      rcases List.mem_cons.1 member with same | later
      · simp [itemsHeight, same]
      · have bound := ih later
        simp only [itemsHeight]
        omega

theorem height_le_entriesHeight {entries : List (Value × Value)} {entry : Value × Value}
    (member : entry ∈ entries) : height entry.1 + height entry.2 ≤ entriesHeight entries := by
  induction entries with
  | nil => simp at member
  | cons first rest ih =>
      rcases List.mem_cons.1 member with same | later
      · subst same
        simp [entriesHeight]
      · have bound := ih later
        simp only [entriesHeight]
        omega

theorem height_untagged_le (value : Value) : height value.untagged ≤ height value := by
  fun_induction untagged value with
  | case1 tag value ih => simp only [height]; omega
  | case2 value => exact Nat.le_refl _

theorem height_entry_lt {value : Value} {entry : Value × Value} (member : entry ∈ value.entries) :
    height entry.1 < height value ∧ height entry.2 < height value := by
  have below := height_untagged_le value
  unfold entries at member
  split at member
  · next entries same =>
      have bound := height_le_entriesHeight member
      rw [same] at below
      simp only [height] at below
      constructor <;> omega
  · simp at member

theorem height_item_lt {value item : Value} (member : item ∈ value.items) : height item < height value := by
  have below := height_untagged_le value
  unfold items at member
  split at member
  · next items same =>
      have bound := height_le_itemsHeight member
      rw [same] at below
      simp only [height] at below
      omega
  · simp at member

theorem height_step_lt (segment : Segment) (value next : Value) (member : next ∈ step segment value) :
    height next < height value := by
  unfold step at member
  cases segment with
  | value key =>
      obtain ⟨entry, found, rfl⟩ := List.mem_map.1 member
      exact (height_entry_lt (List.mem_filter.1 found).1).2
  | key key =>
      obtain ⟨entry, found, rfl⟩ := List.mem_map.1 member
      exact (height_entry_lt (List.mem_filter.1 found).1).1
  | index position =>
      exact height_item_lt (List.mem_of_getElem? (Option.mem_toList.1 member))
  | anyChild =>
      cases value with
      | mapping entries =>
          obtain ⟨entry, found, rfl⟩ := List.mem_map.1 member
          have bound := height_le_entriesHeight found
          simp only [height]
          omega
      | sequence items =>
          have bound : height next ≤ itemsHeight items := height_le_itemsHeight member
          simp only [height]
          omega
      | _ => simp at member

instance : Grounded Value where
  step := step
  height := height
  height_step := height_step_lt

end Value
end YamlDialects.Yaml
