import YamlDialects.Proofs.Yaml.Composition
import YamlDialects.Proofs.Yaml.Recovery

/-!
Composing cuts the text that is read at offsets that come from the events. Here every cut is checked: it has to start and
to end between two characters. If some characters of a text have been blanked, composing what is left is never refused,
whatever the events, and all regions of the nodes can be cut out of the text as it was.
-/

set_option autoImplicit false

namespace YamlDialects.Yaml

namespace Source

def trimmedChecked (source : Source) (start stop : Nat) : Option Region :=
  if start ≤ Text.byteLength source.read then
    (Text.slice? source.read start (max start (min stop (Text.byteLength source.read)))).map fun cut =>
      ⟨start, start + Text.byteLength (Text.trimRight cut)⟩
  else none

def closingChecked (source : Source) (start last : Nat) (opening closing : Char) (span : Span) : Option Nat := do
  let here ← Text.dropBytes? source.read start
  if here.head? == some opening then
    let begin := max last (start + 1)
    let inside ← Text.dropBytes? source.read begin
    match Text.findOffset? (· == closing) inside with
    | some distance => return begin + distance + 1
    | none => return max last (source.offset span.stop)
  else return last

-- The text is looked at only for a tilde.
def isImplicitChecked (source : Source) (text : String) (style : ScalarStyle) (start : Nat) : Option Bool :=
  if style == .plain && text == "~" then (Text.dropBytes? source.read start).map fun here => here.head? != some '~'
  else some (style == .plain && text.isEmpty)

end Source

namespace Composer

def scalarChecked (source : Source) (text : String) (style : ScalarStyle) (span : Span)
    (rest : List LocatedEvent) (last : Nat) : Option (Node × Composer) := do
  let start := source.offset span.start
  if ← source.isImplicitChecked text style start then return (.scalar "" (.empty last), ⟨rest, last⟩)
  else
    let region ← source.trimmedChecked start (source.offset span.stop)
    return (.scalar text region, ⟨rest, region.stop⟩)

def referenceChecked (source : Source) (span : Span) (rest : List LocatedEvent) : Option (Node × Composer) := do
  let region ← source.trimmedChecked (source.offset span.start) (source.offset span.stop)
  return (.scalar (String.ofList (source.between region.start region.stop)) region, ⟨rest, region.stop⟩)

mutual

def nodeChecked (source : Source) : Nat → Composer → Option (Option (Node × Composer))
  | 0, _ => some none
  | _ + 1, ⟨[], _⟩ => some none
  | fuel + 1, ⟨event :: rest, last⟩ =>
      let start := source.offset event.span.start
      match event.event with
      | .scalar text style _ => (scalarChecked source text style event.span rest last).map some
      | .reference _ => (referenceChecked source event.span rest).map some
      | .mappingStart _ =>
          (entriesChecked source start fuel start ⟨rest, start⟩).map fun (entries, stop, rest) =>
            some (.mapping entries ⟨start, stop⟩, ⟨rest, stop⟩)
      | .sequenceStart _ =>
          (itemsChecked source start fuel start ⟨rest, Text.floorBoundary source.shown (start + 1)⟩).map
            fun (items, stop, rest) => some (.sequence items ⟨start, stop⟩, ⟨rest, stop⟩)
      | _ => some none

def entriesChecked (source : Source) (start : Nat) : Nat → Nat → Composer → Option (List (Node × Node) × Nat × List LocatedEvent)
  | 0, stop, composer => some ([], stop, composer.events)
  | fuel + 1, stop, composer =>
      match composer.events with
      | [] => some ([], stop, [])
      | ⟨.mappingEnd, span⟩ :: rest =>
          (source.closingChecked start stop '\x7b' '\x7d' span).map fun stop => ([], stop, rest)
      | _ => (nodeChecked source fuel composer).bind fun
          | none => some ([], stop, composer.events)
          | some (key, composer) => (nodeChecked source fuel composer).bind fun value =>
              let (value, composer) := value.getD (.scalar "" (.empty key.region.stop), composer)
              (entriesChecked source start fuel (max (max stop key.region.stop) value.region.stop) composer).map
                fun (others, stop, rest) => ((key, value) :: others, stop, rest)

def itemsChecked (source : Source) (start : Nat) : Nat → Nat → Composer → Option (List Node × Nat × List LocatedEvent)
  | 0, stop, composer => some ([], stop, composer.events)
  | fuel + 1, stop, composer =>
      match composer.events with
      | [] => some ([], stop, [])
      | ⟨.sequenceEnd, span⟩ :: rest => (source.closingChecked start stop '[' ']' span).map fun stop => ([], stop, rest)
      | _ => (nodeChecked source fuel composer).bind fun
          | none => some ([], stop, composer.events)
          | some (item, composer) =>
              (itemsChecked source start fuel (max stop item.region.stop) composer).map
                fun (others, stop, rest) => (item :: others, stop, rest)

end

def rootsChecked (source : Source) : Nat → List LocatedEvent → Option (List Node)
  | 0, _ => some []
  | _ + 1, [] => some []
  | fuel + 1, event :: rest =>
      if event.event = .documentStart then
        let start := source.offset event.span.start
        let composer : Composer := ⟨rest, start⟩
        (nodeChecked source (2 * rest.length + 2) composer).bind fun root =>
          let (root, composer) := root.getD (.scalar "" (.empty start), composer)
          (rootsChecked source fuel (afterDocument composer.events)).map (root :: ·)
      else rootsChecked source fuel rest

end Composer

def composeChecked (source : Source) (events : List LocatedEvent) : Option (List Node) :=
  Composer.rootsChecked source (events.length + 1) events

def Agrees {α : Type} (checked : Option α) (total : α) (holds : α → Prop) : Prop :=
  checked = some total ∧ holds total

theorem agrees_bind {α β : Type} (checked : Option α) (total : α) (holds : α → Prop) (further : α → Option β) (result : β)
    (property : β → Prop) (first : Agrees checked total holds) (onward : holds total → Agrees (further total) result property) :
    Agrees (checked.bind further) result property := by
  obtain ⟨rfl, held⟩ := first
  exact onward held

theorem agrees_map {α β : Type} (checked : Option α) (total : α) (holds : α → Prop) (change : α → β) (property : β → Prop)
    (first : Agrees checked total holds) (kept : holds total → property (change total)) :
    Agrees (checked.map change) (change total) property := by
  obtain ⟨rfl, held⟩ := first
  exact ⟨rfl, kept held⟩

namespace Source

-- The text that is read has been made from the one that is shown by blanking characters.
structure Overlays (source : Source) : Prop where
  length : Text.byteLength source.read = Text.byteLength source.shown
  boundary : ∀ offset, Text.IsBoundary source.shown offset → Text.IsBoundary source.read offset
  visible : ∀ before c after, source.read = before ++ c :: after → c ≠ ' ' →
    Text.IsBoundary source.shown (Text.byteLength before) ∧ Text.IsBoundary source.shown (Text.byteLength before + c.utf8Size)

-- What can be cut out of the text that is shown.
structure Fits (source : Source) (region : Region) : Prop where
  forward : region.start ≤ region.stop
  start : Text.IsBoundary source.shown region.start
  stop : Text.IsBoundary source.shown region.stop

def AllFit (source : Source) (node : Node) : Prop :=
  ∀ inner, Node.Within inner node → source.Fits inner.region

section

variable (source : Source) (overlays : source.Overlays)

theorem offset_boundary (mark : Mark) : Text.IsBoundary source.shown (source.offset mark) :=
  Text.floor_boundary_boundary source.shown _

theorem fits_empty (offset : Nat) (boundary : Text.IsBoundary source.shown offset) : source.Fits (.empty offset) :=
  ⟨Nat.le_refl _, boundary, boundary⟩

include overlays

theorem drop_at (offset : Nat) (boundary : Text.IsBoundary source.shown offset) :
    ∃ before, source.read = before ++ source.onward offset ∧ Text.byteLength before = offset ∧
      Text.dropBytes? source.read offset = some (source.onward offset) := by
  obtain ⟨before, after, split, length⟩ := (Text.boundary_iff_split _ _).mp (overlays.boundary offset boundary)
  have dropped : Text.dropBytes? source.read offset = some after := by rw [split, ← length, Text.drop_bytes_append]
  have onward : source.onward offset = after := by rw [onward, dropped, Option.getD_some]
  exact ⟨before, by rw [onward, split], length, by rw [onward, dropped]⟩

theorem trimmed_agrees (start stop : Nat) (starts : Text.IsBoundary source.shown start) (stops : Text.IsBoundary source.shown stop) :
    Agrees (source.trimmedChecked start stop) (source.trimmed start stop) source.Fits := by
  have startLe : start ≤ Text.byteLength source.read := Text.boundary_le _ _ (overlays.boundary start starts)
  have stopLe : stop ≤ Text.byteLength source.read := Text.boundary_le _ _ (overlays.boundary stop stops)
  have limits := Text.boundary_max source.shown start stop starts stops
  obtain ⟨before, cut, after, split, length, _, sliced⟩ := Text.slice_between source.read start (max start stop)
    (overlays.boundary _ starts) (overlays.boundary _ limits) (Nat.le_max_left _ _)
  have trimmedEq : source.trimmed start stop = ⟨start, start + Text.byteLength (Text.trimRight cut)⟩ := by
    simp only [trimmed, between, Nat.min_eq_left stopLe, sliced, Option.getD_some]
  have checkedEq : source.trimmedChecked start stop = some ⟨start, start + Text.byteLength (Text.trimRight cut)⟩ := by
    rw [trimmedChecked, if_pos startLe, Nat.min_eq_left stopLe, sliced, Option.map_some]
  rw [trimmedEq]
  refine ⟨checkedEq, Nat.le_add_right _ _, starts, ?_⟩
  dsimp only
  -- Trimming stops where the slice starts or behind a character that has not been blanked.
  rcases Text.trim_right_cases cut with nothing | ⟨shown, c, blanks, cutSplit, trimmed, notBlank⟩
  · rw [nothing]
    exact starts
  · have notSpace : c ≠ ' ' := by
      rintro rfl
      cases notBlank
    have place := (overlays.visible (before ++ shown) c (blanks ++ after) (by rw [split, cutSplit]; simp) notSpace).2
    rw [Text.byte_length_append, length] at place
    rw [trimmed, Text.byte_length_append, Text.byte_length_cons, Text.byte_length_nil, Nat.add_zero, ← Nat.add_assoc]
    exact place

theorem implicit_agrees (text : String) (style : ScalarStyle) (start : Nat) (starts : Text.IsBoundary source.shown start) :
    source.isImplicitChecked text style start = some (source.isImplicit text style start) := by
  obtain ⟨before, split, length, dropped⟩ := drop_at source overlays start starts
  unfold isImplicitChecked isImplicit
  by_cases tilde : (style == .plain && text == "~") = true
  · obtain ⟨plain, spelled⟩ := Bool.and_eq_true_iff.mp tilde
    obtain rfl := beq_iff_eq.mp spelled
    rw [if_pos tilde, dropped, Option.map_some, plain]
    rfl
  · rw [if_neg tilde]
    cases plain : style == .plain with
    | false => rfl
    | true =>
        have other : (text == "~") = false := by simpa [plain] using tilde
        rw [other, Bool.false_and, Bool.or_false]

theorem closing_agrees (start last : Nat) (opening closing : Char) (span : Span) (starts : Text.IsBoundary source.shown start)
    (stops : Text.IsBoundary source.shown last) (le : start ≤ last) (openingSize : opening.utf8Size = 1) (notSpace : opening ≠ ' ')
    (closingSize : closing.utf8Size = 1) (closingNotSpace : closing ≠ ' ') :
    Agrees (source.closingChecked start last opening closing span) (source.closing start last opening closing span)
      fun stop => start ≤ stop ∧ Text.IsBoundary source.shown stop := by
  obtain ⟨before, split, length, dropped⟩ := drop_at source overlays start starts
  unfold closingChecked Source.closing
  rw [dropped]
  dsimp only [bind, Option.bind_some]
  by_cases opens : ((source.onward start).head? == some opening) = true
  · rw [if_pos opens, if_pos opens]
    obtain ⟨rest, onwardEq⟩ := List.head?_eq_some_iff.mp (beq_iff_eq.mp opens)
    have behind := (overlays.visible before opening rest (by rw [← onwardEq]; exact split) notSpace).2
    rw [length, openingSize] at behind
    have begins := Text.boundary_max source.shown last (start + 1) stops behind
    obtain ⟨earlier, splitBegin, lengthBegin, droppedBegin⟩ := drop_at source overlays _ begins
    rw [droppedBegin]
    dsimp only [Option.bind_some]
    cases found : Text.findOffset? (· == closing) (source.onward (max last (start + 1))) with
    | none =>
        refine ⟨rfl, Nat.le_trans le (Nat.le_max_left _ _), ?_⟩
        exact Text.boundary_max source.shown last _ stops (offset_boundary source span.stop)
    | some distance =>
        obtain ⟨inside, c, after, splitFound, distanceEq, isClosing⟩ := Text.find_offset_spec _ _ _ found
        obtain rfl : c = closing := beq_iff_eq.mp isClosing
        have stop := (overlays.visible (earlier ++ inside) c after (by rw [List.append_assoc, ← splitFound]; exact splitBegin)
          closingNotSpace).2
        rw [Text.byte_length_append, lengthBegin, distanceEq, closingSize] at stop
        have reaches := Nat.le_max_left last (start + 1)
        exact ⟨rfl, by dsimp only; omega, stop⟩
  · rw [if_neg opens, if_neg opens]
    exact ⟨rfl, le, stops⟩

end

theorem all_fit_scalar (source : Source) (text : String) (region : Region) (fits : source.Fits region) :
    source.AllFit (.scalar text region) :=
  Node.all_within (source.Fits ·.region) _ fits nofun

end Source

namespace Composer

open Source

section

variable (source : Source) (overlays : source.Overlays)

def Sound (result : Node × Composer) : Prop :=
  source.AllFit result.1 ∧ Text.IsBoundary source.shown result.2.last

theorem sound_or_missing (found : Option (Node × Composer)) (offset : Nat) (composer : Composer)
    (place : Text.IsBoundary source.shown offset) (ends : Text.IsBoundary source.shown composer.last)
    (sound : ∀ result, found = some result → Sound source result) :
    Sound source (found.getD (.scalar "" (.empty offset), composer)) := by
  cases found with
  | none => exact ⟨all_fit_scalar source "" _ (fits_empty source offset place), ends⟩
  | some result => exact sound result rfl

include overlays

theorem scalar_agrees (text : String) (style : ScalarStyle) (span : Span) (rest : List LocatedEvent) (last : Nat)
    (ends : Text.IsBoundary source.shown last) :
    Agrees (scalarChecked source text style span rest last) (scalar source text style span rest last) (Sound source) := by
  have starts := offset_boundary source span.start
  have implicit := implicit_agrees source overlays text style _ starts
  unfold scalarChecked scalar
  dsimp only [bind]
  rw [implicit, Option.bind_some]
  by_cases absent : source.isImplicit text style (source.offset span.start) = true
  · rw [if_pos absent, if_pos absent]
    exact ⟨rfl, all_fit_scalar source "" _ (fits_empty source last ends), ends⟩
  · rw [if_neg absent, if_neg absent]
    apply agrees_bind _ _ _ _ _ _ (trimmed_agrees source overlays _ _ starts (offset_boundary source span.stop))
    intro fits
    exact ⟨rfl, all_fit_scalar source text _ fits, fits.stop⟩

theorem reference_agrees (span : Span) (rest : List LocatedEvent) :
    Agrees (referenceChecked source span rest) (reference source span rest) (Sound source) := by
  apply agrees_bind _ _ _ _ _ _
    (trimmed_agrees source overlays _ _ (offset_boundary source span.start) (offset_boundary source span.stop))
  intro fits
  exact ⟨rfl, all_fit_scalar source _ _ fits, fits.stop⟩

def Gathered (start : Nat) (children : List Node) (stop : Nat) : Prop :=
  (∀ child ∈ children, source.AllFit child) ∧ start ≤ stop ∧ Text.IsBoundary source.shown stop

mutual

theorem node_agrees (fuel : Nat) (composer : Composer) (ends : Text.IsBoundary source.shown composer.last) :
    Agrees (nodeChecked source fuel composer) (node source fuel composer)
      fun found => ∀ result, found = some result → Sound source result := by
  match fuel, composer with
  | 0, _ => exact ⟨rfl, nofun⟩
  | _ + 1, ⟨[], _⟩ => exact ⟨rfl, nofun⟩
  | fuel + 1, ⟨⟨event, span⟩ :: rest, last⟩ =>
      have starts := offset_boundary source span.start
      have told (result : Node × Composer) (sound : Sound source result) : ∀ other, some result = some other → Sound source other :=
        fun other same => Option.some.inj same ▸ sound
      rw [nodeChecked, node]
      cases event with
      | scalar text style properties => exact agrees_map _ _ _ _ _ (scalar_agrees source overlays text style span rest last ends) (told _)
      | reference name => exact agrees_map _ _ _ _ _ (reference_agrees source overlays span rest) (told _)
      | mappingStart properties =>
          have inside := entries_agree (source.offset span.start) fuel (source.offset span.start) ⟨rest, source.offset span.start⟩
            starts starts (Nat.le_refl _) starts
          apply agrees_map _ _ _ _ _ inside
          rintro ⟨children, le, stops⟩
          exact told _ ⟨Node.all_within (source.Fits ·.region) _ ⟨le, starts, stops⟩ children, stops⟩
      | sequenceStart properties =>
          have inside := items_agree (source.offset span.start) fuel (source.offset span.start)
            ⟨rest, Text.floorBoundary source.shown (source.offset span.start + 1)⟩ starts starts (Nat.le_refl _)
            (Text.floor_boundary_boundary source.shown _)
          apply agrees_map _ _ _ _ _ inside
          rintro ⟨children, le, stops⟩
          exact told _ ⟨Node.all_within (source.Fits ·.region) _ ⟨le, starts, stops⟩ children, stops⟩
      | documentStart => exact ⟨rfl, nofun⟩
      | documentEnd => exact ⟨rfl, nofun⟩
      | sequenceEnd => exact ⟨rfl, nofun⟩
      | mappingEnd => exact ⟨rfl, nofun⟩
termination_by structural fuel

theorem entries_agree (start fuel stop : Nat) (composer : Composer) (starts : Text.IsBoundary source.shown start)
    (stops : Text.IsBoundary source.shown stop) (le : start ≤ stop) (ends : Text.IsBoundary source.shown composer.last) :
    Agrees (entriesChecked source start fuel stop composer) (entries source start fuel stop composer)
      fun result => Gathered source start (result.1.flatMap fun entry => [entry.1, entry.2]) result.2.1 := by
  match fuel with
  | 0 => exact ⟨rfl, List.forall_mem_nil _, le, stops⟩
  | fuel + 1 =>
      rw [entriesChecked]
      split
      next nothing =>
        rw [entries, nothing]
        exact ⟨rfl, List.forall_mem_nil _, le, stops⟩
      next span rest closes =>
        rw [entries, closes]
        apply agrees_map _ _ _ _ _ (closing_agrees source overlays start stop '\x7b' '\x7d' span starts stops le rfl (by decide) rfl (by decide))
        exact fun closed => ⟨List.forall_mem_nil _, closed⟩
      next notEmpty notClosed =>
        rw [entries]
        split
        next nothing => exact (notEmpty nothing).elim
        next span rest closes => exact (notClosed span rest closes).elim
        apply agrees_bind _ _ _ _ _ _ (node_agrees fuel composer ends)
        intro sound
        cases composesKey : node source fuel composer with
        | none => exact ⟨rfl, List.forall_mem_nil _, le, stops⟩
        | some found =>
            obtain ⟨key, after⟩ := found
            obtain ⟨keyFits, keyEnds⟩ := sound _ composesKey
            have keyFit := keyFits key (.here key)
            apply agrees_bind _ _ _ _ _ _ (node_agrees fuel after keyEnds)
            intro soundValue
            have filled := sound_or_missing source _ key.region.stop after keyFit.stop keyEnds soundValue
            dsimp only
            generalize (node source fuel after).getD (.scalar "" (.empty key.region.stop), after) = found at filled
            obtain ⟨value, further⟩ := found
            obtain ⟨valueFits, valueEnds⟩ := filled
            have limit := Text.boundary_max source.shown _ _ (Text.boundary_max source.shown _ _ stops keyFit.stop) (valueFits value (.here value)).stop
            have reached : start ≤ max (max stop key.region.stop) value.region.stop := by omega
            have inside := entries_agree start fuel _ further starts limit reached valueEnds
            apply agrees_map _ _ _ _ _ inside
            rintro ⟨others, reach⟩
            exact ⟨List.forall_mem_cons.mpr ⟨keyFits, List.forall_mem_cons.mpr ⟨valueFits, others⟩⟩, reach⟩
termination_by structural fuel

theorem items_agree (start fuel stop : Nat) (composer : Composer) (starts : Text.IsBoundary source.shown start)
    (stops : Text.IsBoundary source.shown stop) (le : start ≤ stop) (ends : Text.IsBoundary source.shown composer.last) :
    Agrees (itemsChecked source start fuel stop composer) (items source start fuel stop composer)
      fun result => Gathered source start result.1 result.2.1 := by
  match fuel with
  | 0 => exact ⟨rfl, List.forall_mem_nil _, le, stops⟩
  | fuel + 1 =>
      rw [itemsChecked]
      split
      next nothing =>
        rw [items, nothing]
        exact ⟨rfl, List.forall_mem_nil _, le, stops⟩
      next span rest closes =>
        rw [items, closes]
        apply agrees_map _ _ _ _ _ (closing_agrees source overlays start stop '[' ']' span starts stops le rfl (by decide) rfl (by decide))
        exact fun closed => ⟨List.forall_mem_nil _, closed⟩
      next notEmpty notClosed =>
        rw [items]
        split
        next nothing => exact (notEmpty nothing).elim
        next span rest closes => exact (notClosed span rest closes).elim
        apply agrees_bind _ _ _ _ _ _ (node_agrees fuel composer ends)
        intro sound
        cases composesItem : node source fuel composer with
        | none => exact ⟨rfl, List.forall_mem_nil _, le, stops⟩
        | some found =>
            obtain ⟨item, after⟩ := found
            obtain ⟨itemFits, itemEnds⟩ := sound _ composesItem
            have fits := itemFits item (.here item)
            have inside := items_agree start fuel (max stop item.region.stop) after starts
              (Text.boundary_max source.shown _ _ stops fits.stop) (Nat.le_trans le (Nat.le_max_left _ _)) itemEnds
            apply agrees_map _ _ _ _ _ inside
            rintro ⟨others, reach⟩
            exact ⟨List.forall_mem_cons.mpr ⟨itemFits, others⟩, reach⟩
termination_by structural fuel

end

end

theorem roots_agree (source : Source) (overlays : source.Overlays) (fuel : Nat) (events : List LocatedEvent) :
    Agrees (rootsChecked source fuel events) (roots source fuel events) fun found => ∀ root ∈ found, source.AllFit root := by
  induction fuel generalizing events with
  | zero => exact ⟨rfl, List.forall_mem_nil _⟩
  | succ fuel ih =>
      cases events with
      | nil => exact ⟨rfl, List.forall_mem_nil _⟩
      | cons event rest =>
          rw [rootsChecked, roots]
          by_cases begins : event.event = .documentStart
          · rw [if_pos begins, if_pos begins]
            have starts := offset_boundary source event.span.start
            apply agrees_bind _ _ _ _ _ _ (node_agrees source overlays (2 * rest.length + 2) ⟨rest, source.offset event.span.start⟩ starts)
            intro sound
            have filled := sound_or_missing source _ (source.offset event.span.start) ⟨rest, source.offset event.span.start⟩
              starts starts sound
            dsimp only
            generalize (node source (2 * rest.length + 2) ⟨rest, source.offset event.span.start⟩).getD
              (.scalar "" (.empty (source.offset event.span.start)), ⟨rest, source.offset event.span.start⟩) = found at filled
            apply agrees_map _ _ _ _ _ (ih (afterDocument found.2.events))
            exact fun others => List.forall_mem_cons.mpr ⟨filled.1, others⟩
          · rw [if_neg begins, if_neg begins]
            exact ih rest

end Composer

def blankAll (regions : List Region) (chars : List Char) : List Char :=
  regions.foldl (fun working region => blank region working) chars

theorem blank_all_hidden (regions : List Region) (chars : List Char) :
    blankAll regions chars = hideFrom (fun offset => regions.any (·.contains offset)) 0 chars := by
  have onward (covered : Nat → Bool) : regions.foldl (fun working region => blank region working) (hideFrom covered 0 chars) =
      hideFrom (fun offset => covered offset || regions.any (·.contains offset)) 0 chars := by
    induction regions generalizing covered with
    | nil => simp
    | cons region rest ih =>
        rw [List.foldl_cons, blank, blank_hidden, ih]
        simp only [List.any_cons, Bool.or_assoc]
  have start := onward fun _ => false
  rw [hide_nothing] at start
  simp only [Bool.false_or] at start
  exact start

theorem overlays_blanked (regions : List Region) (chars : List Char) : Source.Overlays ⟨blankAll regions chars, chars⟩ := by
  rw [blank_all_hidden]
  refine ⟨hide_length _ 0 chars, hide_boundary _ chars, fun before c after split notSpace => ?_⟩
  obtain ⟨earlier, later, rfl, length⟩ := hide_visible _ 0 chars before c after split notSpace
  rw [← length]
  refine ⟨(Text.boundary_iff_split _ _).mpr ⟨earlier, c :: later, rfl, rfl⟩, ?_⟩
  exact (Text.boundary_iff_split _ _).mpr ⟨earlier ++ [c], later, by simp, by simp⟩

theorem regions_sliceable (text : List Char) (regions : List Region) (events : List LocatedEvent) :
    composeChecked ⟨blankAll regions text, text⟩ events = some (composeDocuments ⟨blankAll regions text, text⟩ events) ∧
    ∀ root ∈ composeDocuments ⟨blankAll regions text, text⟩ events, ∀ node, Node.Within node root →
      node.region.start ≤ node.region.stop ∧ node.region.stop ≤ Text.byteLength text ∧
        Text.IsBoundary text node.region.start ∧ Text.IsBoundary text node.region.stop := by
  obtain ⟨accepted, fits⟩ := Composer.roots_agree _ (overlays_blanked regions text) (events.length + 1) events
  refine ⟨accepted, fun root member node inside => ?_⟩
  obtain ⟨forward, start, stop⟩ := fits root member node inside
  exact ⟨forward, Text.boundary_le text _ stop, start, stop⟩

-- The marks of a mapping and of its key lie in the two spaces that an accented letter was blanked to.
def strayEvents : List LocatedEvent :=
  let span := fun start stop : Nat => (⟨⟨start, 0, start⟩, ⟨stop, 0, stop⟩⟩ : Span)
  [⟨.documentStart, span 0 0⟩, ⟨.mappingStart { }, span 1 1⟩, ⟨.scalar "k" .plain { }, span 1 2⟩,
    ⟨.sequenceStart { }, span 4 5⟩, ⟨.scalar "日" .plain { }, span 5 6⟩, ⟨.sequenceEnd, span 6 99⟩,
    ⟨.mappingEnd, span 99 99⟩, ⟨.documentEnd, span 99 99⟩]

theorem regions_sliceable_stray : ∃ item root,
    composeDocuments ⟨blankAll [⟨0, 2⟩] "é: [日]".toList, "é: [日]".toList⟩ strayEvents = [root] ∧ Node.Within item root ∧
      item.region = ⟨5, 8⟩ ∧ Text.IsBoundary "é: [日]".toList 5 ∧ Text.IsBoundary "é: [日]".toList 8 := by
  have composed : composeDocuments ⟨blankAll [⟨0, 2⟩] "é: [日]".toList, "é: [日]".toList⟩ strayEvents =
      [.mapping [(.scalar "k" ⟨0, 0⟩, .sequence [.scalar "日" ⟨5, 8⟩] ⟨4, 9⟩)] ⟨0, 9⟩] := by rfl
  have inside : Node.Within (.scalar "日" ⟨5, 8⟩)
      (.mapping [(.scalar "k" ⟨0, 0⟩, .sequence [.scalar "日" ⟨5, 8⟩] ⟨4, 9⟩)] ⟨0, 9⟩) := by
    refine .under _ (.sequence [.scalar "日" ⟨5, 8⟩] ⟨4, 9⟩) _ (by simp [Node.children]) ?_
    exact .under _ _ _ (by simp [Node.children]) (.here _)
  have fits := (regions_sliceable "é: [日]".toList [⟨0, 2⟩] strayEvents).2 _ (by rw [composed]; exact List.mem_singleton_self _) _ inside
  exact ⟨_, _, composed, inside, rfl, fits.2.2.1, fits.2.2.2⟩

end YamlDialects.Yaml
