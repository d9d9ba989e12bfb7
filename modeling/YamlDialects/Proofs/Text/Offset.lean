import YamlDialects.Text.Blank
import YamlDialects.Text.Offset

set_option autoImplicit false

namespace YamlDialects.Text

@[simp]
theorem byte_length_nil : byteLength [] = 0 := rfl

@[simp]
theorem byte_length_cons (c : Char) (rest : List Char) : byteLength (c :: rest) = c.utf8Size + byteLength rest := rfl

@[simp]
theorem byte_length_append (first second : List Char) :
    byteLength (first ++ second) = byteLength first + byteLength second := by
  induction first with
  | nil => simp
  | cons c rest ih => simp [ih, Nat.add_assoc]

theorem byte_length_spaces (count : Nat) : byteLength (List.replicate count ' ') = count := by
  induction count with
  | zero => rfl
  | succ count ih =>
      rw [List.replicate_succ, byte_length_cons, ih, show Char.utf8Size ' ' = 1 from rfl]
      omega

theorem byte_length_to_list (text : String) : byteLength text.toList = text.utf8ByteSize := by
  have general : ∀ chars : List Char, byteLength chars = (String.ofList chars).utf8ByteSize := by
    intro chars
    induction chars with
    | nil => rfl
    | cons c rest ih =>
        rw [byte_length_cons, ih, show c :: rest = [c] ++ rest from rfl, String.ofList_append,
          String.utf8ByteSize_append]
        simp
  simpa using general text.toList

theorem drop_bytes_append (before after : List Char) :
    dropBytes? (before ++ after) (byteLength before) = some after := by
  induction before with
  | nil => cases after <;> rfl
  | cons c rest ih =>
      obtain ⟨count, size⟩ := Nat.exists_eq_succ_of_ne_zero (Nat.ne_of_gt c.utf8Size_pos)
      have length : byteLength (c :: rest) = (count + byteLength rest) + 1 := by
        rw [byte_length_cons, size]
        omega
      have fits : c.utf8Size ≤ count + byteLength rest + 1 := by omega
      rw [List.cons_append, length, dropBytes?, if_pos fits]
      rw [show count + byteLength rest + 1 - c.utf8Size = byteLength rest by omega]
      exact ih

theorem drop_bytes_split (chars rest : List Char) (offset : Nat) (found : dropBytes? chars offset = some rest) :
    ∃ before, chars = before ++ rest ∧ byteLength before = offset := by
  induction chars generalizing offset with
  | nil =>
      cases offset with
      | zero => exact ⟨[], by simpa [dropBytes?] using found, rfl⟩
      | succ offset => simp [dropBytes?] at found
  | cons c tail ih =>
      cases offset with
      | zero => exact ⟨[], by simpa [dropBytes?] using found, rfl⟩
      | succ offset =>
          by_cases fits : c.utf8Size ≤ offset + 1
          · rw [dropBytes?, if_pos fits] at found
            obtain ⟨before, split, length⟩ := ih (offset + 1 - c.utf8Size) found
            refine ⟨c :: before, by rw [split]; rfl, ?_⟩
            rw [byte_length_cons, length]
            omega
          · simp [dropBytes?, fits] at found

theorem drop_bytes_iff_split (chars rest : List Char) (offset : Nat) :
    dropBytes? chars offset = some rest ↔ ∃ before, chars = before ++ rest ∧ byteLength before = offset := by
  constructor
  · exact drop_bytes_split chars rest offset
  · rintro ⟨before, rfl, rfl⟩
    exact drop_bytes_append before rest

theorem boundary_iff_split (chars : List Char) (offset : Nat) :
    IsBoundary chars offset ↔ ∃ before after, chars = before ++ after ∧ byteLength before = offset := by
  simp only [IsBoundary, Option.isSome_iff_exists, drop_bytes_iff_split]
  exact exists_comm

theorem boundary_zero (chars : List Char) : IsBoundary chars 0 :=
  (boundary_iff_split chars 0).mpr ⟨[], chars, rfl, rfl⟩

theorem boundary_le (chars : List Char) (offset : Nat) (boundary : IsBoundary chars offset) :
    offset ≤ byteLength chars := by
  obtain ⟨before, after, rfl, rfl⟩ := (boundary_iff_split chars offset).mp boundary
  rw [byte_length_append]
  exact Nat.le_add_right _ _

theorem take_bytes_append (before after : List Char) :
    takeBytes? (before ++ after) (byteLength before) = some before := by
  induction before with
  | nil => cases after <;> rfl
  | cons c rest ih =>
      obtain ⟨count, size⟩ := Nat.exists_eq_succ_of_ne_zero (Nat.ne_of_gt c.utf8Size_pos)
      have length : byteLength (c :: rest) = (count + byteLength rest) + 1 := by
        rw [byte_length_cons, size]
        omega
      have fits : c.utf8Size ≤ count + byteLength rest + 1 := by omega
      rw [List.cons_append, length, takeBytes?, if_pos fits]
      rw [show count + byteLength rest + 1 - c.utf8Size = byteLength rest by omega, ih]
      rfl

theorem prefix_unique (first second rest other : List Char) (same : first ++ rest = second ++ other)
    (length : byteLength first = byteLength second) : first = second ∧ rest = other := by
  have taken := take_bytes_append first rest
  rw [same, length, take_bytes_append] at taken
  obtain rfl := Option.some.inj taken
  exact ⟨rfl, List.append_cancel_left same⟩

theorem longer_start (chars first second rest other : List Char) (split : chars = first ++ rest)
    (splitSecond : chars = second ++ other) (le : byteLength first ≤ byteLength second) :
    ∃ between, second = first ++ between := by
  have starts : first <+: chars := ⟨rest, split.symm⟩
  have startsSecond : second <+: chars := ⟨other, splitSecond.symm⟩
  rcases List.prefix_or_prefix_of_prefix starts startsSecond with ⟨between, same⟩ | ⟨between, rfl⟩
  · exact ⟨between, same.symm⟩
  · have nothing : byteLength ([] : List Char) = byteLength between := by
      rw [byte_length_append] at le
      rw [byte_length_nil]
      omega
    obtain ⟨rfl, -⟩ := prefix_unique [] between between [] (List.append_nil between).symm nothing
    exact ⟨[], by simp⟩

theorem slice_append (before middle after : List Char) :
    slice? (before ++ (middle ++ after)) (byteLength before) (byteLength before + byteLength middle) =
      some middle := by
  rw [slice?, if_pos (Nat.le_add_right _ _), drop_bytes_append, Option.bind_some, Nat.add_sub_cancel_left]
  exact take_bytes_append middle after

theorem slice_of_split (text : String) (before middle after : List Char) (start stop : Nat)
    (split : text.toList = before ++ (middle ++ after)) (startEq : byteLength before = start)
    (stopEq : start + byteLength middle = stop) : slice text start stop = String.ofList middle := by
  subst startEq stopEq
  rw [slice, split, slice_append, Option.getD_some]

theorem boundary_whole (chars : List Char) : IsBoundary chars (byteLength chars) :=
  (boundary_iff_split chars _).mpr ⟨chars, [], (List.append_nil chars).symm, rfl⟩

theorem boundary_max (chars : List Char) (first second : Nat) (one : IsBoundary chars first) (other : IsBoundary chars second) :
    IsBoundary chars (max first second) := by
  rcases Nat.le_total first second with le | le
  · rwa [Nat.max_eq_right le]
  · rwa [Nat.max_eq_left le]

theorem boundary_min (chars : List Char) (first second : Nat) (one : IsBoundary chars first) (other : IsBoundary chars second) :
    IsBoundary chars (min first second) := by
  rcases Nat.le_total first second with le | le
  · rwa [Nat.min_eq_left le]
  · rwa [Nat.min_eq_right le]

theorem slice_between (chars : List Char) (start stop : Nat) (starts : IsBoundary chars start) (stops : IsBoundary chars stop)
    (le : start ≤ stop) : ∃ before middle after, chars = before ++ (middle ++ after) ∧ byteLength before = start ∧
      start + byteLength middle = stop ∧ slice? chars start stop = some middle := by
  obtain ⟨before, rest, split, rfl⟩ := (boundary_iff_split chars start).mp starts
  obtain ⟨whole, after, splitStop, rfl⟩ := (boundary_iff_split chars stop).mp stops
  obtain ⟨middle, rfl⟩ := longer_start chars before whole rest after split splitStop le
  rw [List.append_assoc] at splitStop
  refine ⟨before, middle, after, splitStop, rfl, (byte_length_append _ _).symm, ?_⟩
  rw [splitStop, byte_length_append, slice_append]

theorem floor_boundary_le (chars : List Char) (offset : Nat) : floorBoundary chars offset ≤ offset := by
  induction chars generalizing offset with
  | nil => exact Nat.zero_le _
  | cons c rest ih =>
      rw [floorBoundary]
      split
      next fits =>
        have below := ih (offset - c.utf8Size)
        omega
      next => exact Nat.zero_le _

theorem floor_boundary_mono (chars : List Char) (first second : Nat) (le : first ≤ second) :
    floorBoundary chars first ≤ floorBoundary chars second := by
  induction chars generalizing first second with
  | nil => exact Nat.le_refl _
  | cons c rest ih =>
      simp only [floorBoundary]
      split
      next fits =>
        rw [if_pos (Nat.le_trans fits le)]
        exact Nat.add_le_add_left (ih _ _ (Nat.sub_le_sub_right le _)) _
      next => exact Nat.zero_le _

theorem floor_boundary_cons (c : Char) (rest : List Char) (offset : Nat) :
    floorBoundary (c :: rest) (c.utf8Size + offset) = c.utf8Size + floorBoundary rest offset := by
  simp [floorBoundary]

theorem floor_boundary_le_whole (chars : List Char) (offset : Nat) :
    floorBoundary chars offset ≤ floorBoundary chars (byteLength chars) := by
  induction chars generalizing offset with
  | nil => exact Nat.le_refl _
  | cons c rest ih =>
      have onward := ih (offset - c.utf8Size)
      rw [byte_length_cons, floor_boundary_cons, floorBoundary]
      split <;> omega

theorem floor_boundary_boundary (chars : List Char) (offset : Nat) : IsBoundary chars (floorBoundary chars offset) := by
  induction chars generalizing offset with
  | nil => exact boundary_zero []
  | cons c rest ih =>
      rw [floorBoundary]
      split
      next fits =>
        obtain ⟨before, after, rfl, length⟩ := (boundary_iff_split _ _).mp (ih (offset - c.utf8Size))
        rw [← length]
        exact (boundary_iff_split _ _).mpr ⟨c :: before, after, rfl, rfl⟩
      next => exact boundary_zero _

theorem floor_boundary_floor (chars : List Char) (offset : Nat) :
    floorBoundary chars (floorBoundary chars offset) = floorBoundary chars offset := by
  induction chars generalizing offset with
  | nil => rfl
  | cons c rest ih =>
      simp only [floorBoundary]
      by_cases fits : c.utf8Size ≤ offset
      · simp [fits, ih]
      · have small : ¬ c.utf8Size ≤ 0 := Nat.not_le.mpr c.utf8Size_pos
        simp [fits, small]

theorem trim_right_split (chars : List Char) :
    chars = trimRight chars ++ (chars.reverse.takeWhile isBlank).reverse := by
  rw [trimRight, ← List.reverse_append, List.takeWhile_append_dropWhile, List.reverse_reverse]

theorem byte_length_trim_right (chars : List Char) : byteLength (trimRight chars) ≤ byteLength chars := by
  have length := congrArg byteLength (trim_right_split chars)
  rw [byte_length_append] at length
  omega

theorem byte_length_take_bytes (chars taken : List Char) (count : Nat) (found : takeBytes? chars count = some taken) :
    byteLength taken = count := by
  induction chars generalizing count taken with
  | nil =>
      cases count with
      | zero =>
          obtain rfl := Option.some.inj found
          rfl
      | succ count => cases found
  | cons c rest ih =>
      cases count with
      | zero =>
          obtain rfl := Option.some.inj found
          rfl
      | succ count =>
          by_cases fits : c.utf8Size ≤ count + 1
          · rw [takeBytes?, if_pos fits] at found
            obtain ⟨later, known, rfl⟩ := Option.map_eq_some_iff.mp found
            rw [byte_length_cons, ih later _ known]
            omega
          · simp [takeBytes?, fits] at found

theorem take_bytes_split (chars taken : List Char) (count : Nat) (found : takeBytes? chars count = some taken) :
    ∃ after, chars = taken ++ after := by
  induction chars generalizing count taken with
  | nil =>
      cases count with
      | zero => exact ⟨[], by simpa [takeBytes?] using found⟩
      | succ count => cases found
  | cons c rest ih =>
      cases count with
      | zero =>
          obtain rfl := Option.some.inj found
          exact ⟨c :: rest, rfl⟩
      | succ count =>
          by_cases fits : c.utf8Size ≤ count + 1
          · rw [takeBytes?, if_pos fits] at found
            obtain ⟨later, known, rfl⟩ := Option.map_eq_some_iff.mp found
            obtain ⟨after, rfl⟩ := ih later _ known
            exact ⟨after, rfl⟩
          · simp [takeBytes?, fits] at found

theorem slice_split (chars middle : List Char) (start stop : Nat) (found : slice? chars start stop = some middle) :
    ∃ before after, chars = before ++ (middle ++ after) ∧ byteLength before = start ∧ start + byteLength middle = stop := by
  unfold slice? at found
  split at found
  next order =>
    obtain ⟨rest, dropped, taken⟩ := Option.bind_eq_some_iff.mp found
    obtain ⟨before, rfl, length⟩ := drop_bytes_split chars rest start dropped
    obtain ⟨after, rfl⟩ := take_bytes_split rest middle _ taken
    have width := byte_length_take_bytes _ middle _ taken
    exact ⟨before, after, rfl, length, by omega⟩
  next => cases found

theorem slice_join (chars first second : List Char) (start middle stop : Nat) (one : slice? chars start middle = some first)
    (other : slice? chars middle stop = some second) : slice? chars start stop = some (first ++ second) := by
  obtain ⟨before, rest, split, rfl, width⟩ := slice_split chars first start middle one
  obtain ⟨ahead, after, whole, length, rfl⟩ := slice_split chars second middle stop other
  have same : (before ++ first) ++ rest = ahead ++ (second ++ after) := by rw [List.append_assoc, ← split, whole]
  obtain ⟨rfl, rfl⟩ := prefix_unique (before ++ first) ahead rest (second ++ after) same (by rw [byte_length_append, width, length])
  have joined : chars = before ++ ((first ++ second) ++ after) := by rw [split, List.append_assoc first]
  rw [joined, ← width, Nat.add_assoc, ← byte_length_append, slice_append]

theorem trim_right_cases (chars : List Char) :
    trimRight chars = [] ∨ ∃ before c after, chars = before ++ c :: after ∧ trimRight chars = before ++ [c] ∧
      isBlank c = false := by
  have split := trim_right_split chars
  cases kept : chars.reverse.dropWhile isBlank with
  | nil => exact .inl (by rw [trimRight, kept]; rfl)
  | cons c before =>
      have trimmed : trimRight chars = before.reverse ++ [c] := by rw [trimRight, kept, List.reverse_cons]
      have visible : isBlank c = false := by
        have first := List.head?_dropWhile_not isBlank chars.reverse
        rwa [kept] at first
      rw [trimmed, List.append_assoc] at split
      exact .inr ⟨_, c, _, split, trimmed, visible⟩

theorem trim_right_append (chars blanks : List Char) (blank : ∀ c ∈ blanks, isBlank c = true) :
    trimRight (chars ++ blanks) = trimRight chars := by
  rw [trimRight, List.reverse_append, List.dropWhile_append_of_pos fun c member => blank c (List.mem_reverse.mp member), ← trimRight]

theorem trim_surrounded (before chars after : List Char) (leading : ∀ c ∈ before, isBlank c = true)
    (trailing : ∀ c ∈ after, isBlank c = true) : trim (before ++ (chars ++ after)) = trim chars := by
  rw [trim, trim, trimLeft, trimLeft, List.dropWhile_append_of_pos leading, List.dropWhile_append]
  split
  next nothing =>
    rw [List.isEmpty_iff.mp nothing, ← List.append_nil after, List.dropWhile_append_of_pos trailing]
    rfl
  next => exact trim_right_append _ after trailing

theorem find_offset_spec (wanted : Char → Bool) (chars : List Char) (offset : Nat) (found : findOffset? wanted chars = some offset) :
    ∃ before c after, chars = before ++ c :: after ∧ byteLength before = offset ∧ wanted c = true := by
  induction chars generalizing offset with
  | nil => simp [findOffset?] at found
  | cons c rest ih =>
      rw [findOffset?] at found
      split at found
      next isWanted =>
        obtain rfl := Option.some.inj found
        exact ⟨[], c, rest, rfl, rfl, isWanted⟩
      next =>
        obtain ⟨further, later, rfl⟩ := Option.map_eq_some_iff.mp found
        obtain ⟨before, other, after, rfl, length, isWanted⟩ := ih further later
        exact ⟨c :: before, other, after, rfl, by rw [byte_length_cons, length], isWanted⟩

theorem drop_bytes_within (before after : List Char) (offset : Nat) (le : offset ≤ byteLength before) :
    dropBytes? (before ++ after) offset = (dropBytes? before offset).map (· ++ after) := by
  induction before generalizing offset with
  | nil =>
      obtain rfl : offset = 0 := Nat.le_zero.mp le
      cases after <;> rfl
  | cons c rest ih =>
      cases offset with
      | zero => rfl
      | succ offset =>
          rw [List.cons_append, dropBytes?, dropBytes?]
          split
          next fits => exact ih _ (by rw [byte_length_cons] at le; omega)
          next => rfl

theorem take_bytes_within (before after : List Char) (offset : Nat) (le : offset ≤ byteLength before) :
    takeBytes? (before ++ after) offset = takeBytes? before offset := by
  induction before generalizing offset with
  | nil =>
      obtain rfl : offset = 0 := Nat.le_zero.mp le
      cases after <;> rfl
  | cons c rest ih =>
      cases offset with
      | zero => rfl
      | succ offset =>
          rw [List.cons_append, takeBytes?, takeBytes?]
          split
          next fits => rw [ih _ (by rw [byte_length_cons] at le; omega)]
          next => rfl

theorem slice_within (before after : List Char) (start stop : Nat) (le : stop ≤ byteLength before) :
    slice? (before ++ after) start stop = slice? before start stop := by
  rw [slice?, slice?]
  split
  next order =>
    rw [drop_bytes_within before after start (Nat.le_trans order le)]
    cases dropped : dropBytes? before start with
    | none => rfl
    | some rest =>
        obtain ⟨first, split, length⟩ := drop_bytes_split before rest start dropped
        have whole := congrArg byteLength split
        rw [byte_length_append, length] at whole
        exact take_bytes_within rest after _ (by omega)
  next => rfl

theorem drop_bytes_behind (before after : List Char) (offset : Nat) :
    dropBytes? (before ++ after) (byteLength before + offset) = dropBytes? after offset := by
  induction before with
  | nil => simp
  | cons c rest ih =>
      obtain ⟨count, size⟩ := Nat.exists_eq_succ_of_ne_zero (Nat.ne_of_gt c.utf8Size_pos)
      have length : byteLength (c :: rest) + offset = (count + byteLength rest + offset) + 1 := by
        rw [byte_length_cons, size]
        omega
      rw [List.cons_append, length, dropBytes?, if_pos (by omega),
        show count + byteLength rest + offset + 1 - c.utf8Size = byteLength rest + offset by omega, ih]

theorem slice_behind (before after : List Char) (start stop : Nat) :
    slice? (before ++ after) (byteLength before + start) (byteLength before + stop) = slice? after start stop := by
  rw [slice?, slice?, drop_bytes_behind, show byteLength before + stop - (byteLength before + start) = stop - start by omega]
  by_cases order : start ≤ stop
  · rw [if_pos order, if_pos (by omega)]
  · rw [if_neg order, if_neg (by omega)]

theorem floor_boundary_split (before after : List Char) : floorBoundary (before ++ after) (byteLength before) = byteLength before := by
  induction before with
  | nil =>
      cases after with
      | nil => rfl
      | cons c rest => exact if_neg (Nat.not_le.mpr c.utf8Size_pos)
  | cons c rest ih => rw [List.cons_append, byte_length_cons, floor_boundary_cons, ih]

end YamlDialects.Text

namespace YamlDialects.Region

theorem contains_iff (region : Region) (offset : Nat) :
    region.contains offset = true ↔ region.start ≤ offset ∧ offset < region.stop := by
  simp [contains]

theorem encloses_iff (outer inner : Region) :
    outer.encloses inner = true ↔ outer.start ≤ inner.start ∧ inner.stop ≤ outer.stop := by
  simp [encloses]

theorem apart_iff (first second : Region) :
    first.overlaps second = false ↔ first.stop ≤ second.start ∨ second.stop ≤ first.start := by
  simp only [overlaps, Bool.and_eq_false_iff, decide_eq_false_iff_not, Nat.not_lt]
  exact Or.comm

theorem apart_symm (first second : Region) (apart : first.overlaps second = false) :
    second.overlaps first = false := by
  rw [apart_iff] at apart ⊢
  exact apart.symm

theorem before_iff (first second : Region) :
    first.before second = true ↔ first.start < second.start ∨ (first.start = second.start ∧ first.stop < second.stop) := by
  simp [before]

end YamlDialects.Region
