import YamlDialects.Proofs.Yaml.Leaves

set_option autoImplicit false

namespace YamlDialects

namespace Yaml

theorem break_blank (c : Char) (isBreak : isBreak c = true) : Text.isBlank c = true := by
  rcases Bool.or_eq_true_iff.mp isBreak with feed | carriage
  · rw [beq_iff_eq.mp feed]
    rfl
  · rw [beq_iff_eq.mp carriage]
    rfl

theorem shown_blank (covered : Nat → Bool) (offset : Nat) (first c : Char) (hidden : covered offset = true)
    (member : c ∈ shownAs covered offset first) : Text.isBlank c = true := by
  unfold shownAs at member
  cases breaks : isBreak first with
  | true =>
      obtain rfl : c = first := by simpa [breaks] using member
      exact break_blank c breaks
  | false =>
      obtain ⟨_, rfl⟩ : first.utf8Size ≠ 0 ∧ c = ' ' := by simpa [hidden, breaks] using member
      rfl

theorem hidden_blank (covered : Nat → Bool) (offset : Nat) (chars before : List Char) (c : Char) (after : List Char)
    (split : hideFrom covered offset chars = before ++ c :: after)
    (hidden : covered (offset + Text.byteLength before) = true) : Text.isBlank c = true := by
  obtain ⟨earlier, first, later, ahead, behind, rfl, shown, length⟩ := hide_origin covered offset chars before c after split
  rcases shown_cases covered _ first c ahead behind shown with ⟨covers, -⟩ | ⟨rfl, rfl⟩
  · exact shown_blank covered _ first c covers (by simp [shown])
  · rw [length, Text.byte_length_nil, Nat.add_zero] at hidden
    exact shown_blank covered _ c c hidden (by simp [shown])

namespace Source

def Shows (source : Source) (region : Region) : Prop :=
  region.start = region.stop ∨ ∃ before c after, source.read = before ++ c :: after ∧
    region.contains (Text.byteLength before) = true ∧ Text.isBlank c = false

def ScalarsShow (source : Source) (node : Node) : Prop :=
  ∀ text region, Node.Within (.scalar text region) node → source.Shows region

theorem trimmed_shows (source : Source) (start stop : Nat) : source.Shows (source.trimmed start stop) := by
  simp only [trimmed, between]
  generalize max start (min stop (Text.byteLength source.read)) = limit
  cases found : Text.slice? source.read start limit with
  | none => exact .inl rfl
  | some middle =>
      rcases Text.trim_right_cases middle with nothing | ⟨before, c, after, split, trimmed, visible⟩
      · rw [Option.getD_some, nothing]
        exact .inl rfl
      · obtain ⟨earlier, later, whole, length, -⟩ := Text.slice_split source.read middle start limit found
        have width := c.utf8Size_pos
        refine .inr ⟨earlier ++ before, c, after ++ later, by simp [whole, split], ?_, visible⟩
        rw [Region.contains_iff, Option.getD_some, trimmed]
        simp only [Text.byte_length_append, length, Text.byte_length_cons, Text.byte_length_nil]
        omega

theorem leaf_shows (source : Source) (last : Nat) (event : LocatedEvent) (text : String) (region : Region)
    (leaf : Composer.leaf? source last event = some (.scalar text region)) : source.Shows region := by
  obtain ⟨event, span⟩ := event
  cases event with
  | scalar spelled style properties =>
      simp only [Composer.leaf?, Composer.scalar] at leaf
      split at leaf
      next =>
        obtain ⟨-, rfl⟩ := Node.scalar.inj (Option.some.inj leaf)
        exact .inl rfl
      next =>
        obtain ⟨-, rfl⟩ := Node.scalar.inj (Option.some.inj leaf)
        exact trimmed_shows source _ _
  | reference name =>
      obtain ⟨-, rfl⟩ := Node.scalar.inj (Option.some.inj leaf)
      exact trimmed_shows source _ _
  | _ => cases leaf

theorem documents_show (source : Source) (events : List LocatedEvent) :
    ∀ root ∈ composeDocuments source events, source.ScalarsShow root := by
  intro root listed text region inside
  rcases documents_come source events root listed text region inside with ⟨-, nothing⟩ | ⟨event, -, last, leaf⟩
  · exact .inl nothing
  · exact leaf_shows source last event text region leaf

end Source

theorem Recovery.after_sources (read : TextReader) (outline : Outline) (chars : List Char) (count : Nat) :
    ∀ damage ∈ (after read outline chars count).damage, ∃ block, Suspect outline block ∧
      damage = Damage.ofBlock block (blankRegion block) := by
  induction count with
  | zero => simp [after, rounds]
  | succ count ih =>
      intro damage member
      have step := (rounds_succ read outline chars count ⟨chars, [], [], none⟩ _ rfl).2
      rw [after, step] at member
      cases result : chosen read outline (rounds read outline chars count ⟨chars, [], [], none⟩).working with
      | none =>
          rw [result] at member
          exact ih damage member
      | some isolated =>
          rw [result] at member
          have isolates := chosen_isolates read outline _ isolated result
          rcases List.mem_append.mp member with old | fresh
          · exact ih damage (List.mem_filter.mp old).1
          · refine ⟨isolated.block, isolates.suspect, ?_⟩
            rw [List.mem_singleton.mp fresh, isolates.region]

namespace Tree

variable (read : TextReader) (text : String) (relaxedNames : Bool)

theorem mem_parse_damage (damage : Damage) : damage ∈ (parseBy read text relaxedNames).damage ↔
    damage ∈ (Recovery.run read (Outline.ofText text relaxedNames) text.toList).damage :=
  (List.mergeSort_perm _ _).mem_iff

theorem parse_recorded : Recovery.Recorded (Outline.ofText text relaxedNames) text.toList
    (Recovery.run read (Outline.ofText text relaxedNames) text.toList)
    (Recovery.blankedIn read (Outline.ofText text relaxedNames) text.toList
      ((Outline.ofText text relaxedNames).size + 2)) :=
  Recovery.after_recorded read _ text.toList _ (Outline.of_text_sound text relaxedNames)

theorem damage_source (damage : Damage) (member : damage ∈ (parseBy read text relaxedNames).damage) :
    ∃ block, Suspect (Outline.ofText text relaxedNames) block ∧ damage = Damage.ofBlock block (blankRegion block) :=
  Recovery.after_sources read _ text.toList _ damage ((mem_parse_damage read text relaxedNames damage).mp member)

theorem damage_not_nested (first second : Damage) (firstMember : first ∈ (parseBy read text relaxedNames).damage)
    (secondMember : second ∈ (parseBy read text relaxedNames).damage)
    (under : (Outline.ofText text relaxedNames).table.Under first.block second.block) : first = second := by
  obtain ⟨upper, upperSuspect, rfl⟩ := damage_source read text relaxedNames first firstMember
  obtain ⟨lower, lowerSuspect, rfl⟩ := damage_source read text relaxedNames second secondMember
  have upperOutline := upperSuspect.belongs
  have recorded := parse_recorded read text relaxedNames
  rw [mem_parse_damage] at firstMember secondMember
  by_cases same : upper.id = lower.id
  · obtain ⟨outline, id⟩ := upper
    obtain ⟨other, otherId⟩ := lower
    obtain rfl : outline = other := upperOutline.trans lowerSuspect.belongs.symm
    obtain rfl : id = otherId := same
    rfl
  · have encloses : (blankRegion upper).encloses (blankRegion lower) = true := by
      refine blank_region_encloses text.toList upper lower ?_ (upperOutline ▸ upperSuspect) (upperOutline ▸ lowerSuspect)
        (upperOutline ▸ under) same
      exact Outline.block_sound text relaxedNames upper upperOutline
    by_contra different
    have symmetric : Std.Symm fun first second : Damage => first.region.overlaps second.region = false :=
      ⟨fun _ _ holds => Region.apart_symm _ _ holds⟩
    have apart : (blankRegion upper).overlaps (blankRegion lower) = false :=
      recorded.apart.forall firstMember secondMember different
    have upperSpan : (blankRegion upper).start < (blankRegion upper).stop := recorded.nonEmpty _ firstMember
    have lowerSpan : (blankRegion lower).start < (blankRegion lower).stop := recorded.nonEmpty _ secondMember
    rw [Region.encloses_iff] at encloses
    rw [Region.apart_iff] at apart
    omega

theorem scalar_not_damaged (damage : Damage) (member : damage ∈ (parseBy read text relaxedNames).damage) (root : Node)
    (listed : root ∈ (parseBy read text relaxedNames).documents) (scalar : String) (region : Region)
    (inside : Node.Within (.scalar scalar region) root) (encloses : damage.region.encloses region = true) :
    region.start = region.stop := by
  obtain ⟨events, -, composed⟩ := parse_by_documents read text relaxedNames root listed
  have shows_ := Source.documents_show _ events root composed
  refine (shows_ scalar region inside).resolve_right ?_
  rintro ⟨before, c, after, split, contains, visible⟩
  have recorded := parse_recorded read text relaxedNames
  have blank := hidden_blank _ 0 text.toList before c after (recorded.text.symm.trans split) ?_
  · rw [visible] at blank
    cases blank
  · rw [Nat.zero_add, ← recorded.union, List.any_eq_true]
    refine ⟨damage, (mem_parse_damage read text relaxedNames damage).mp member, ?_⟩
    rw [Region.encloses_iff] at encloses
    rw [Region.contains_iff] at contains ⊢
    omega

end Tree

end Yaml
end YamlDialects
