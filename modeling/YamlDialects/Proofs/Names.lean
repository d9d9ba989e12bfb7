import YamlDialects.Schema.Basic

/-!
The spellings of a name. Words that are set apart by hyphens name the same property as the name itself. Where words are
set apart by capitals, a capital is lowered again when names are compared, and not every character then is what it would
have been: the sharp s becomes two letters. The capitals keep the name exactly if every raised character comes back.

Before names come the case maps of single characters. A run of characters is held as a number with a bit for each of its
codes, so that the images of all runs are compared with all runs at once.
-/

set_option autoImplicit false

namespace YamlDialects

namespace Text

-- One bit out of every few, the lowest among them.
def comb (step : Nat) : Nat → Nat
  | 0 => 0
  | count + 1 => 1 ||| comb step count <<< step

theorem comb_bit (step count place : Nat) (within : place < count) :
    (comb step count).testBit (step * place) = true := by
  induction count generalizing place with
  | zero => cases within
  | succ count ih =>
      rw [comb, Nat.testBit_or]
      cases place with
      | zero => simp
      | succ place =>
          have among := ih place (Nat.lt_of_succ_lt_succ within)
          simp [Nat.testBit_shiftLeft, Nat.mul_succ, among]

namespace CaseRun

theorem covers_iff (run : CaseRun) (code : Nat) :
    run.covers code = true ↔ run.low ≤ code ∧ code ≤ run.high ∧ (code - run.low) % run.step = 0 := by
  simp [covers, and_assoc]

def image (run : CaseRun) : CaseRun :=
  ⟨(run.low + run.offset).toNat, (run.high + run.offset).toNat, run.step, 0⟩

def single (c : Char) : CaseRun :=
  ⟨c.toNat, c.toNat, 1, 0⟩

def mask (run : CaseRun) : Nat :=
  comb run.step ((run.high - run.low) / run.step + 1) <<< run.low

-- The codes of all runs; two at a time, so that the number is found in few nested steps.
def masks : List CaseRun → Nat
  | [] => 0
  | [run] => run.mask
  | run :: next :: rest => (run.mask ||| next.mask) ||| masks rest

theorem image_covers (run : CaseRun) (placed : 0 ≤ run.low + run.offset) (code : Nat) (covered : run.covers code = true) :
    run.image.covers (code + run.offset).toNat = true := by
  obtain ⟨least, most, stepped⟩ := (run.covers_iff code).mp covered
  have same : (code + run.offset).toNat - (run.low + run.offset).toNat = code - run.low := by omega
  exact (run.image.covers_iff _).mpr ⟨by simp only [image]; omega, by simp only [image]; omega,
    by simp only [image, same, stepped]⟩

theorem single_covers (c other : Char) : (single c).covers other.toNat = true ↔ other = c := by
  rw [covers_iff, ← Char.toNat_inj]
  simp only [single, Nat.mod_one, and_true]
  omega

theorem mask_bit (run : CaseRun) (code : Nat) (covered : run.covers code = true) : run.mask.testBit code = true := by
  obtain ⟨least, most, stepped⟩ := (run.covers_iff code).mp covered
  have bound : (code - run.low) / run.step < (run.high - run.low) / run.step + 1 :=
    Nat.lt_succ_of_le (Nat.div_le_div_right (Nat.sub_le_sub_right most run.low))
  have among := comb_bit run.step _ _ bound
  rw [Nat.mul_div_cancel' (Nat.dvd_of_mod_eq_zero stepped)] at among
  simp [mask, Nat.testBit_shiftLeft, least, among]

theorem masks_bit (runs : List CaseRun) (run : CaseRun) (among : run ∈ runs) (code : Nat)
    (covered : run.covers code = true) : (masks runs).testBit code = true := by
  have own := run.mask_bit code covered
  fun_induction masks runs with
  | case1 => cases among
  | case2 only =>
      obtain rfl := List.mem_singleton.mp among
      exact own
  | case3 first second rest ih =>
      simp only [Nat.testBit_or, Bool.or_eq_true]
      rcases List.mem_cons.mp among with rfl | among
      · exact .inl (.inl own)
      · rcases List.mem_cons.mp among with rfl | among
        · exact .inl (.inr own)
        · exact .inr (ih among)

-- The images of the runs and the other runs have no code in common; code 0 stands for images that are no characters.
def avoids (runs others : List CaseRun) : Bool :=
  (runs.all fun run => 0 ≤ run.low + run.offset && run.image.mask &&& masks others == 0) &&
    others.all fun other => 0 < other.low

theorem avoids_iff (runs others : List CaseRun) : avoids runs others = true ↔
    (∀ run ∈ runs, 0 ≤ run.low + run.offset ∧ run.image.mask &&& masks others = 0) ∧ ∀ other ∈ others, 0 < other.low := by
  simp [avoids]

theorem avoids_covers (runs others : List CaseRun) (avoided : avoids runs others = true) (run other : CaseRun)
    (among : run ∈ runs) (otherAmong : other ∈ others) (code : Nat) (covered : run.covers code = true) :
    other.covers (code + run.offset).toNat = false := by
  refine Bool.eq_false_iff.mpr fun met => ?_
  obtain ⟨placed, clear⟩ := ((avoids_iff runs others).mp avoided).1 run among
  have taken := run.image_covers placed code covered
  have both : (run.image.mask &&& masks others).testBit (code + run.offset).toNat = true := by
    rw [Nat.testBit_and, run.image.mask_bit _ taken, masks_bit others other otherAmong _ met]
    rfl
  rw [clear, Nat.zero_testBit] at both
  cases both

end CaseRun

theorem code_of_nat (code : Nat) : (Char.ofNat code).toNat = code ∨ (Char.ofNat code).toNat = 0 := by
  by_cases valid : code.isValidChar
  · exact .inl (by rw [Char.ofNat, dif_pos valid]; rfl)
  · exact .inr (by rw [Char.ofNat, dif_neg valid]; rfl)

theorem shift_covers (runs others : List CaseRun) (avoided : CaseRun.avoids runs others = true) (c : Char)
    (other : CaseRun) (among : other ∈ others)
    (outside : (∀ run ∈ runs, run.covers c.toNat = false) → other.covers c.toNat = false) :
    other.covers (shiftBy runs c).toNat = false := by
  unfold shiftBy
  cases found : runs.find? (·.covers c.toNat) with
  | none => exact outside (by simpa using found)
  | some run =>
      have missed := CaseRun.avoids_covers _ _ avoided run other (List.mem_of_find?_eq_some found) among c.toNat
        (List.find?_some found :)
      rcases code_of_nat (c.toNat + run.offset).toNat with same | none
      · rwa [← same] at missed
      · simp [CaseRun.covers, none, Nat.not_le.mpr (((CaseRun.avoids_iff _ _).mp avoided).2 other among)]

def dotted : Char :=
  Char.ofNat 0x130

def signs : List Char :=
  [dotted, '-', '_']

theorem lower_runs_avoid : CaseRun.avoids lowerRuns (lowerRuns ++ signs.map .single) = true := by
  decide +kernel

theorem raise_runs_avoid : CaseRun.avoids raiseRuns (signs.map .single) = true := by
  decide +kernel

theorem expansions_avoid (entry : Nat × List Nat) (among : entry ∈ raiseExpansions) :
    entry.2 ≠ [] ∧ ∀ sign ∈ signs, sign ∉ entry.2.map Char.ofNat := by
  have check : (raiseExpansions.all fun entry => !entry.2.isEmpty &&
      signs.all fun sign => !(entry.2.map Char.ofNat).contains sign) = true := by decide +kernel
  simpa using List.all_eq_true.mp check entry among

theorem shift_eq (runs others : List CaseRun) (avoided : CaseRun.avoids runs others = true) (sign : Char)
    (among : .single sign ∈ others) (c : Char) (shifted : shiftBy runs c = sign) : c = sign := by
  refine Decidable.byContradiction fun other => ?_
  have missed := shift_covers runs others avoided c (.single sign) among fun _ =>
    Bool.eq_false_iff.mpr fun covered => other ((CaseRun.single_covers sign c).mp covered)
  rw [shifted, (CaseRun.single_covers sign sign).mpr rfl] at missed
  cases missed

theorem shift_lower_eq (sign : Char) (among : sign ∈ signs) (c : Char) (shifted : shiftBy lowerRuns c = sign) : c = sign :=
  shift_eq _ _ lower_runs_avoid sign (List.mem_append_right _ (List.mem_map_of_mem among)) c shifted

theorem shift_raise_eq (sign : Char) (among : sign ∈ signs) (c : Char) (shifted : shiftBy raiseRuns c = sign) : c = sign :=
  shift_eq _ _ raise_runs_avoid sign (List.mem_map_of_mem among) c shifted

theorem shift_lower_stays (c : Char) : shiftBy lowerRuns (shiftBy lowerRuns c) = shiftBy lowerRuns c := by
  have missed : lowerRuns.find? (·.covers (shiftBy lowerRuns c).toNat) = none := by
    simp only [List.find?_eq_none, Bool.not_eq_true]
    intro other among
    exact shift_covers lowerRuns _ lower_runs_avoid c other (List.mem_append_left _ among) fun outside => outside other among
  rw [shiftBy, missed]

theorem to_lower_dotted : toLower dotted = [ 'i', Char.ofNat 0x307] := rfl

theorem to_lower_other (c : Char) (other : c ≠ dotted) : toLower c = [shiftBy lowerRuns c] := by
  refine if_neg fun code => other (Char.toNat_inj.mp ?_)
  rw [code]
  rfl

@[simp]
theorem lower_all_nil : lowerAll [] = [] := rfl

@[simp]
theorem lower_all_cons (c : Char) (rest : List Char) : lowerAll (c :: rest) = toLower c ++ lowerAll rest := by
  simp [lowerAll]

@[simp]
theorem lower_all_append (first second : List Char) : lowerAll (first ++ second) = lowerAll first ++ lowerAll second := by
  simp [lowerAll]

theorem dotted_cases : lowerAll (toLower dotted) = toLower dotted ∧ lowerAll (toUpper dotted) = toLower dotted := by
  decide +kernel

theorem lower_all_to_lower (c : Char) : lowerAll (toLower c) = toLower c := by
  by_cases same : c = dotted
  · rw [same, dotted_cases.1]
  · have image : shiftBy lowerRuns c ≠ dotted := fun shifted => same (shift_lower_eq dotted List.mem_cons_self c shifted)
    rw [to_lower_other c same, lower_all_cons, lower_all_nil, List.append_nil, to_lower_other _ image, shift_lower_stays]

theorem to_upper_cases (c : Char) : (∃ entry ∈ raiseExpansions, toUpper c = entry.2.map Char.ofNat) ∨
    toUpper c = [shiftBy raiseRuns c] := by
  unfold toUpper
  cases found : raiseExpansions.find? (·.1 == c.toNat) with
  | some entry => exact .inl ⟨entry, List.mem_of_find?_eq_some found, rfl⟩
  | none => exact .inr rfl

theorem to_lower_pos (c : Char) : 0 < (toLower c).length := by
  by_cases same : c = dotted
  · simp [same, to_lower_dotted]
  · simp [to_lower_other c same]

theorem length_lower_le (c : Char) : (toLower c).length ≤ (lowerAll (toUpper c)).length := by
  by_cases same : c = dotted
  · exact Nat.le_of_eq (by rw [same, dotted_cases.2])
  · have raised : toUpper c ≠ [] := by
      rcases to_upper_cases c with ⟨entry, among, expanded⟩ | shifted
      · simp [expanded, (expansions_avoid entry among).1]
      · simp [shifted]
    obtain ⟨head, rest, split⟩ := List.exists_cons_of_ne_nil raised
    rw [to_lower_other c same, split, lower_all_cons, List.length_append]
    exact Nat.le_add_right_of_le (to_lower_pos head)

section

variable (sign : Char) (among : sign ∈ signs) (c : Char)
include among

theorem eq_of_mem_lower (plain : sign ∉ toLower dotted) (lowered : sign ∈ toLower c) : c = sign := by
  by_cases same : c = dotted
  · rw [same] at lowered
    exact absurd lowered plain
  · rw [to_lower_other c same, List.mem_singleton] at lowered
    exact shift_lower_eq sign among c lowered.symm

theorem eq_of_mem_upper (raised : sign ∈ toUpper c) : c = sign := by
  rcases to_upper_cases c with ⟨entry, listed, expanded⟩ | shifted
  · rw [expanded] at raised
    exact absurd raised ((expansions_avoid entry listed).2 sign among)
  · rw [shifted, List.mem_singleton] at raised
    exact shift_raise_eq sign among c raised.symm

end

end Text

namespace Names

def folded (chars : List Char) : List Char :=
  Text.lowerAll (chars.filter fun c => !isSeparator c)

theorem canonical_iff (first second : String) :
    canonical first = canonical second ↔ folded first.toList = folded second.toList :=
  String.ofList_inj

theorem is_separator_iff (c : Char) : isSeparator c = true ↔ c = '-' ∨ c = '_' := by
  simp [isSeparator]

@[simp]
theorem folded_nil : folded [] = [] := rfl

theorem folded_separator (sign : Char) (rest : List Char) (separates : isSeparator sign = true) :
    folded (sign :: rest) = folded rest := by
  simp [folded, separates]

theorem folded_letters (letters rest : List Char) (apart : ∀ c ∈ letters, isSeparator c = false) :
    folded (letters ++ rest) = Text.lowerAll letters ++ folded rest := by
  have kept : letters.filter (fun c => !isSeparator c) = letters :=
    List.filter_eq_self.mpr fun c among => by simp [apart c among]
  rw [folded, List.filter_append, kept, Text.lower_all_append]
  rfl

theorem folded_letter (c : Char) (rest : List Char) (apart : isSeparator c = false) :
    folded (c :: rest) = Text.toLower c ++ folded rest := by
  simpa using folded_letters [c] rest (by simpa using apart)

theorem separator_sign (sign : Char) (separates : isSeparator sign = true) :
    sign ∈ Text.signs ∧ sign ∉ Text.toLower Text.dotted := by
  rcases (is_separator_iff sign).mp separates with rfl | rfl
  · decide
  · decide

theorem lower_letters (c : Char) (apart : isSeparator c = false) (lowered : Char) (among : lowered ∈ Text.toLower c) :
    isSeparator lowered = false := by
  refine Bool.eq_false_iff.mpr fun separates => ?_
  obtain ⟨listed, plain⟩ := separator_sign lowered separates
  rw [← Text.eq_of_mem_lower lowered listed c plain among, apart] at separates
  cases separates

theorem upper_letters (c : Char) (apart : isSeparator c = false) (raised : Char) (among : raised ∈ Text.toUpper c) :
    isSeparator raised = false := by
  refine Bool.eq_false_iff.mpr fun separates => ?_
  obtain ⟨listed, -⟩ := separator_sign raised separates
  rw [← Text.eq_of_mem_upper raised listed c among, apart] at separates
  cases separates

theorem hyphen_chars_folded (joined : Bool) (chars : List Char) : folded (hyphenChars joined chars) = folded chars := by
  induction chars generalizing joined with
  | nil => rfl
  | cons c rest ih =>
      rw [hyphenChars]
      by_cases underscore : c = '_'
      · rw [if_pos (beq_iff_eq.mpr underscore), folded_separator _ _ rfl,
          folded_separator c rest (by rw [underscore]; rfl), ih]
      · rw [if_neg (by simpa using underscore)]
        by_cases upper : Text.isUpper c = true
        · have apart : isSeparator c = false := by
            refine Bool.eq_false_iff.mpr fun separates => ?_
            rcases (is_separator_iff c).mp separates with rfl | same
            · exact absurd upper (by decide +kernel)
            · exact underscore same
          -- a letter is lowered before or after, and a hyphen before it is left out
          have word : folded (Text.toLower c ++ hyphenChars false rest) = folded (c :: rest) := by
            rw [folded_letters _ _ (lower_letters c apart), Text.lower_all_to_lower, folded_letter c rest apart, ih]
          rw [if_pos upper]
          cases joined with
          | true => exact word
          | false => exact (folded_separator '-' _ rfl).trans word
        · rw [if_neg upper]
          by_cases separates : isSeparator c = true
          · rw [folded_separator c _ separates, folded_separator c _ separates, ih]
          · rw [Bool.not_eq_true] at separates
            rw [folded_letter c _ separates, folded_letter c _ separates, ih]

def starts (before : List Char) : Bool :=
  before.any fun c => !isSeparator c

def lifts (before : List Char) : Bool :=
  starts before && before.getLast?.any isSeparator

theorem starts_append (before : List Char) (c : Char) : starts (before ++ [c]) = (starts before || !isSeparator c) := by
  simp [starts]

theorem lifts_append (before : List Char) (c : Char) : lifts (before ++ [c]) = (starts before && isSeparator c) := by
  cases separates : isSeparator c with
  | true => simp [lifts, starts_append, separates]
  | false => simp [lifts, separates]

def RaisedBehind (before chars : List Char) (c : Char) : Prop :=
  ∃ between after, chars = between ++ c :: after ∧ isSeparator c = false ∧ lifts (before ++ between) = true

theorem raised_nil (before : List Char) (c : Char) : ¬RaisedBehind before [] c := by
  rintro ⟨between, after, empty, -⟩
  simp at empty

theorem raised_cons (before : List Char) (first : Char) (rest : List Char) (c : Char) :
    RaisedBehind before (first :: rest) c ↔
      c = first ∧ isSeparator c = false ∧ lifts before = true ∨ RaisedBehind (before ++ [first]) rest c := by
  constructor
  · rintro ⟨between, after, split, apart, lifted⟩
    cases between with
    | nil =>
        obtain ⟨rfl, -⟩ := List.cons.inj split
        exact .inl ⟨rfl, apart, by simpa using lifted⟩
    | cons other between =>
        obtain ⟨rfl, later⟩ := List.cons.inj split
        exact .inr ⟨between, after, later, apart, by simpa using lifted⟩
  · rintro (⟨rfl, apart, lifted⟩ | ⟨between, after, rfl, apart, lifted⟩)
    · exact ⟨[], rest, rfl, apart, by simpa using lifted⟩
    · exact ⟨first :: between, after, rfl, apart, by simpa using lifted⟩

-- The lower case of the upper case of the character is its lower case.
def KeepsCase (c : Char) : Prop :=
  Text.lowerAll (Text.toUpper c) = Text.toLower c

instance (c : Char) : Decidable (KeepsCase c) :=
  inferInstanceAs (Decidable (Text.lowerAll (Text.toUpper c) = Text.toLower c))

theorem camel_chars_length (started raise : Bool) (chars : List Char) :
    (folded chars).length ≤ (folded (camelChars started raise chars)).length := by
  induction chars generalizing started raise with
  | nil => exact Nat.le_refl 0
  | cons first rest ih =>
      rw [camelChars]
      cases separates : isSeparator first with
      | true =>
          rw [if_pos rfl, folded_separator first rest separates]
          exact ih started started
      | false =>
          have later := ih true false
          rw [if_neg Bool.false_ne_true, folded_letter first rest separates, List.length_append]
          split
          next =>
            rw [folded_letters _ _ (upper_letters first separates), List.length_append]
            exact Nat.add_le_add (Text.length_lower_le first) later
          next =>
            rw [folded_letter first _ separates, List.length_append]
            exact Nat.add_le_add_left later _

-- Where a raised character does not come back, nothing behind it makes up for it.
theorem raised_append_iff (c : Char) (camel plain : List Char) (longer : plain.length ≤ camel.length) :
    Text.lowerAll (Text.toUpper c) ++ camel = Text.toLower c ++ plain ↔ KeepsCase c ∧ camel = plain := by
  constructor
  · intro same
    have lengths := congrArg List.length same
    rw [List.length_append, List.length_append] at lengths
    have atMost := Text.length_lower_le c
    exact List.append_inj same (by omega)
  · rintro ⟨kept, rfl⟩
    rw [show Text.lowerAll (Text.toUpper c) = Text.toLower c from kept]

theorem camel_chars_folded (before chars : List Char) :
    folded (camelChars (starts before) (lifts before) chars) = folded chars ↔
      ∀ c, RaisedBehind before chars c → KeepsCase c := by
  induction chars generalizing before with
  | nil => exact iff_of_true rfl fun c raised => absurd raised (raised_nil before c)
  | cons first rest ih =>
      have later := ih (before ++ [first])
      rw [starts_append, lifts_append] at later
      simp only [raised_cons, or_imp, forall_and, and_imp, forall_eq]
      rw [camelChars]
      cases separates : isSeparator first with
      | true =>
          simp only [separates, Bool.not_true, Bool.or_false, Bool.and_true] at later
          rw [if_pos rfl, folded_separator first rest separates, later]
          simp
      | false =>
          simp only [separates, Bool.not_false, Bool.or_true, Bool.and_false] at later
          rw [if_neg Bool.false_ne_true, folded_letter first rest separates, ← later]
          cases lifted : lifts before with
          | true =>
              rw [if_pos rfl, folded_letters _ _ (upper_letters first separates),
                raised_append_iff first _ _ (camel_chars_length true false rest)]
              simp
          | false =>
              rw [if_neg Bool.false_ne_true, folded_letter first _ separates, List.append_cancel_left_eq]
              simp

-- A character that the camel case of a name raises: it stands behind separators, and they stand behind something else.
def IsRaised (name : String) (c : Char) : Prop :=
  ∃ before after, name.toList = before ++ c :: after ∧ isSeparator c = false ∧ lifts before = true

theorem camel_case_canonical (name : String) :
    canonical (camelCase name) = canonical name ↔ ∀ c, IsRaised name c → KeepsCase c := by
  rw [canonical_iff, camelCase, String.toList_ofList]
  exact camel_chars_folded [] name.toList

theorem hyphenated_canonical (name : String) : canonical (hyphenated name) = canonical name := by
  rw [canonical_iff, hyphenated, String.toList_ofList]
  exact hyphen_chars_folded true name.toList

theorem relaxed_eq_iff (first second : String) : relaxedEq first second = true ↔ canonical first = canonical second := by
  simp only [relaxedEq, Bool.or_eq_true, beq_iff_eq]
  exact or_iff_right_of_imp fun same => by rw [same]

theorem mem_unless_listed (listed : List String) (further spelling : String) :
    spelling ∈ (if listed.contains further then listed else listed ++ [further]) ↔
      spelling ∈ listed ∨ spelling = further := by
  split
  next known => exact (or_iff_left_of_imp fun same => by simpa [same] using known).symm
  next => simp

theorem mem_variants (name spelling : String) :
    spelling ∈ variants name ↔ spelling = name ∨ spelling = hyphenated name ∨ spelling = camelCase name := by
  refine (mem_unless_listed _ (camelCase name) spelling).trans ?_
  rw [← or_assoc]
  refine or_congr_left ?_
  split
  next same => simp [beq_iff_eq.mp same]
  next => simp

theorem relaxed_eq_variant (name spelling : String) (among : spelling ∈ variants name) :
    relaxedEq name spelling = true ∨ spelling = camelCase name ∧ ∃ c, IsRaised name c ∧ ¬KeepsCase c := by
  rw [relaxed_eq_iff]
  rcases (mem_variants name spelling).mp among with rfl | rfl | rfl
  · exact .inl rfl
  · exact .inl (hyphenated_canonical name).symm
  · by_cases changed : ∃ c, IsRaised name c ∧ ¬KeepsCase c
    · exact .inr ⟨rfl, changed⟩
    · refine .inl ((camel_case_canonical name).mpr fun c raised => ?_).symm
      exact Decidable.not_not.mp fun other => changed ⟨c, raised, other⟩

theorem variants_relaxed_eq (name : String) :
    (∀ spelling ∈ variants name, relaxedEq name spelling = true) ↔ ∀ c, IsRaised name c → KeepsCase c := by
  constructor
  · intro all
    have camel := (relaxed_eq_iff _ _).mp (all (camelCase name) ((mem_variants _ _).mpr (.inr (.inr rfl))))
    exact (camel_case_canonical name).mp camel.symm
  · intro kept spelling among
    refine (relaxed_eq_variant name spelling among).resolve_right ?_
    rintro ⟨-, c, raised, changed⟩
    exact changed (kept c raised)

end Names

namespace Property

theorem mem_add_spellings (aliases known : List String) (spelling : String) :
    spelling ∈ aliases.foldl addSpelling known ↔ spelling ∈ known ∨ ∃ earlier later, aliases = earlier ++ spelling :: later ∧
      ∀ other ∈ known ++ earlier, Names.canonical other ≠ Names.canonical spelling := by
  induction aliases generalizing known with
  | nil => simp
  | cons first rest ih =>
      rw [List.foldl_cons, ih, addSpelling]
      split
      next covered =>
        obtain ⟨same, among, equal⟩ := List.any_eq_true.mp covered
        refine or_congr_right ⟨?_, ?_⟩
        · rintro ⟨earlier, later, rfl, apart⟩
          refine ⟨first :: earlier, later, rfl, fun other member => ?_⟩
          rcases List.mem_append.mp member with before | behind
          · exact apart other (List.mem_append_left _ before)
          · rcases List.mem_cons.mp behind with rfl | further
            · rw [← beq_iff_eq.mp equal]
              exact apart same (List.mem_append_left _ among)
            · exact apart other (List.mem_append_right _ further)
        · rintro ⟨earlier, later, split, apart⟩
          rcases List.cons_eq_append_iff.mp split with ⟨rfl, here⟩ | ⟨more, rfl, there⟩
          · obtain ⟨rfl, -⟩ := List.cons.inj here
            exact absurd (beq_iff_eq.mp equal) (apart same (List.mem_append_left _ among))
          · refine ⟨more, later, there, fun other member => apart other ?_⟩
            exact (List.mem_append.mp member).elim (List.mem_append_left _)
              fun further => List.mem_append_right _ (List.mem_cons_of_mem _ further)
      next fresh =>
        have apartFirst : ∀ other ∈ known, Names.canonical other ≠ Names.canonical first := by simpa using fresh
        rw [List.mem_append, List.mem_singleton, or_assoc]
        refine or_congr_right ⟨?_, ?_⟩
        · rintro (rfl | ⟨earlier, later, rfl, apart⟩)
          · exact ⟨[], rest, rfl, by simpa using apartFirst⟩
          · exact ⟨first :: earlier, later, rfl, by simpa using apart⟩
        · rintro ⟨earlier, later, split, apart⟩
          rcases List.cons_eq_append_iff.mp split with ⟨rfl, here⟩ | ⟨more, rfl, there⟩
          · exact .inl (List.cons.inj here).1
          · exact .inr ⟨more, later, there, by simpa using apart⟩

theorem mem_spellings (property : Property) (spelling : String) :
    spelling ∈ property.spellings ↔ spelling ∈ Names.variants property.name ∨
      ∃ earlier later, property.aliases = earlier ++ spelling :: later ∧
        ∀ other ∈ Names.variants property.name ++ earlier, Names.canonical other ≠ Names.canonical spelling :=
  mem_add_spellings property.aliases (Names.variants property.name) spelling

end Property

namespace Schema

variable (schema : Schema) (type : TypeId) (property : Property) (among : property ∈ schema.properties type)
include among

theorem property_of_alias (spelling : String) (listed : spelling ∈ property.aliases) :
    (schema.property? type spelling).isSome = true := by
  have found : ((schema.properties type).find? (·.isNamed spelling)).isSome = true :=
    List.find?_isSome.mpr ⟨property, among, by simp [Property.isNamed, listed]⟩
  simp [property?, found]

theorem property_of_relaxed (relaxed : schema.options.relaxedNames = true) (spelling : String)
    (same : Names.relaxedEq property.name spelling = true) : (schema.property? type spelling).isSome = true := by
  have found : (schema.relaxedProperty? (schema.properties type) spelling).isSome = true := by
    rw [relaxedProperty?, if_pos relaxed]
    exact List.find?_isSome.mpr ⟨property, among, beq_iff_eq.mpr ((Names.relaxed_eq_iff _ _).mp same)⟩
  simp [property?, found]

end Schema

-- The variants of a name all name it exactly if each raised character comes back. Of the spellings of a property only
-- the camel case can lead nowhere, and only then.
theorem spellings_recognised (name : String) :
    ((∀ spelling ∈ Names.variants name, Names.relaxedEq name spelling = true) ↔
      ∀ c, Names.IsRaised name c → Names.KeepsCase c) ∧
    ∀ (schema : Schema) (type : TypeId), schema.options.relaxedNames = true → ∀ property ∈ schema.properties type,
      property.name = name → ∀ spelling ∈ property.spellings, (schema.property? type spelling).isSome = true ∨
        spelling = Names.camelCase name ∧ ∃ c, Names.IsRaised name c ∧ ¬Names.KeepsCase c := by
  refine ⟨Names.variants_relaxed_eq name, ?_⟩
  rintro schema type relaxed property among rfl spelling offered
  rcases (property.mem_spellings spelling).mp offered with variant | ⟨earlier, later, listed, -⟩
  · rcases Names.relaxed_eq_variant property.name spelling variant with same | changed
    · exact .inl (schema.property_of_relaxed type property among relaxed spelling same)
    · exact .inr changed
  · exact .inl (schema.property_of_alias type property among spelling (by simp [listed]))

def lone (name : String) : Schema where
  options := { relaxedNames := true }
  graph := { types := #[
    { name := "Lone", kind := .bean [{ name := name, type := 1 }] },
    { name := "String", kind := .atomic }] }

-- The capitals of the sharp s are another name, although they are offered.
theorem sharp_s_unrecognised :
    "aSS" ∈ Names.variants "a-ß" ∧ Names.relaxedEq "a-ß" "aSS" = false ∧
      (∀ property ∈ (lone "a-ß").properties 0, "aSS" ∈ property.spellings) ∧
      ((lone "a-ß").property? 0 "aSS").isSome = false := by
  decide +kernel

theorem spellings_recognised_capitals :
    (lone "max-retries").options.relaxedNames = true ∧
      ((lone "max-retries").property? 0 "maxRetries").isSome = true := by
  have recognised := (spellings_recognised "max-retries").2 (lone "max-retries") 0 rfl _ List.mem_cons_self rfl "maxRetries"
  refine ⟨rfl, (recognised ?_).resolve_right ?_⟩
  · decide +kernel
  · rintro ⟨-, c, raised, changed⟩
    exact changed ((Names.camel_case_canonical "max-retries").mp (by decide +kernel) c raised)

end YamlDialects
