import YamlDialects.Outline.Block

/-!
Landmarks: the documents, keys and items that somebody who goes through a text has met, with their columns. Where a
landmark belongs follows from the landmarks before it alone. A key goes below the nearest one that is less indented, an
item may also go below a key of the same column, and what has been passed that way is not returned to.
-/

set_option autoImplicit false

namespace YamlDialects

inductive Landmark where
  | document
  | key (column : Nat) (name : String) (region : Region)
  | item (column : Nat)
deriving DecidableEq

namespace Landmark

def column? : Landmark → Option Nat
  | .document => none
  | .key column _ _ => some column
  | .item column => some column

def isDeeper (column : Nat) (landmark : Landmark) : Bool :=
  landmark.column?.any fun own => decide (column ≤ own)

end Landmark

-- A landmark that others may still go below, with the number of the items that do.
structure Rung where
  kind : Outline.Kind
  column : Nat
  segment : Segment
  items : Nat
deriving DecidableEq

namespace Rung

def holdsKey (column : Nat) (rung : Rung) : Bool :=
  !rung.kind.isStep || decide (rung.column < column)

def holdsItem (column : Nat) (rung : Rung) : Bool :=
  rung.holdsKey column || (rung.kind != .item && decide (rung.column ≤ column))

def addItem (rung : Rung) : Rung :=
  { rung with items := rung.items + 1 }

def uncounted (rung : Rung) : Rung :=
  { rung with items := 0 }

end Rung

structure Trail where
  documents : Nat
  rungs : List Rung
deriving DecidableEq

namespace Trail

def note (trail : Trail) : Landmark → Trail
  | .document => ⟨trail.documents + 1, [⟨.document, 0, .index trail.documents, 0⟩]⟩
  | .key column name _ => ⟨trail.documents, ⟨.key, column, .value name, 0⟩ :: trail.rungs.dropWhile (!·.holdsKey column)⟩
  | .item column =>
      match trail.rungs.dropWhile (!·.holdsItem column) with
      | [] => ⟨trail.documents, []⟩
      | host :: outer => ⟨trail.documents, ⟨.item, column, .index host.items, 0⟩ :: host.addItem :: outer⟩

def along (landmarks : List Landmark) : Trail :=
  landmarks.foldl note ⟨0, []⟩

def path (trail : Trail) : Path :=
  (trail.rungs.map Rung.segment).reverse

theorem along_append (landmarks : List Landmark) (landmark : Landmark) :
    along (landmarks ++ [landmark]) = (along landmarks).note landmark := by
  simp [along]

theorem drop_to_host (holds : Rung → Bool) (passed : List Rung) (host : Rung) (outer : List Rung)
    (closed : ∀ rung ∈ passed, holds rung = false) (held : holds host = true) :
    (passed ++ host :: outer).dropWhile (!holds ·) = host :: outer := by
  rw [List.dropWhile_append_of_pos (by simpa using closed), List.dropWhile_cons_of_neg (by simp [held])]

theorem note_key (documents column : Nat) (name : String) (region : Region) (passed : List Rung) (host : Rung)
    (outer : List Rung) (closed : ∀ rung ∈ passed, rung.holdsKey column = false) (holds : host.holdsKey column = true) :
    note ⟨documents, passed ++ host :: outer⟩ (.key column name region) =
      ⟨documents, ⟨.key, column, .value name, 0⟩ :: host :: outer⟩ := by
  simp only [note, drop_to_host (Rung.holdsKey column) passed host outer closed holds]

theorem note_item (documents column : Nat) (passed : List Rung) (host : Rung) (outer : List Rung)
    (closed : ∀ rung ∈ passed, rung.holdsItem column = false) (holds : host.holdsItem column = true) :
    note ⟨documents, passed ++ host :: outer⟩ (.item column) =
      ⟨documents, ⟨.item, column, .index host.items, 0⟩ :: host.addItem :: outer⟩ := by
  simp only [note, drop_to_host (Rung.holdsItem column) passed host outer closed holds]

theorem drop_before (holds : Rung → Bool) (passed : List Rung) (host : Rung) (outer : List Rung) (held : holds host = true) :
    ∃ left, left ⊆ passed ∧ (passed ++ host :: outer).dropWhile (!holds ·) = left ++ host :: outer := by
  induction passed with
  | nil => exact ⟨[], List.Subset.refl _, List.dropWhile_cons_of_neg (by simp [held])⟩
  | cons first rest ih =>
      cases stays : holds first with
      | true => exact ⟨first :: rest, List.Subset.refl _, List.dropWhile_cons_of_neg (by simp [stays])⟩
      | false =>
          obtain ⟨left, among, same⟩ := ih
          refine ⟨left, List.subset_cons_of_subset _ among, ?_⟩
          rw [List.cons_append, List.dropWhile_cons_of_pos (by simp [stays]), same]

theorem holds_deeper (column further : Nat) (rung : Rung) (holds : rung.holdsKey column = true) (le : column ≤ further) :
    rung.holdsKey further = true := by
  simp only [Rung.holdsKey, Bool.or_eq_true, Bool.not_eq_true', decide_eq_true_eq] at holds ⊢
  exact holds.imp_right fun less => by omega

theorem note_deeper (documents column : Nat) (mark : Landmark) (passed : List Rung) (host : Rung) (outer : List Rung)
    (deeper : mark.isDeeper column = true) (holds : host.holdsKey column = true)
    (closed : ∀ rung ∈ passed, rung.holdsKey column = false) :
    ∃ left items, note ⟨documents, passed ++ host :: outer⟩ mark =
        ⟨documents, left ++ { host with items := items } :: outer⟩ ∧ ∀ rung ∈ left, rung.holdsKey column = false := by
  cases mark with
  | document => cases deeper
  | key own name region =>
      have le : column ≤ own := by simpa [Landmark.isDeeper, Landmark.column?] using deeper
      obtain ⟨left, among, same⟩ := drop_before (Rung.holdsKey own) passed host outer (holds_deeper column own host holds le)
      simp only [note, same]
      refine ⟨⟨.key, own, .value name, 0⟩ :: left, host.items, rfl, List.forall_mem_cons.mpr ⟨?_, ?_⟩⟩
      · simpa [Rung.holdsKey, Outline.Kind.isStep] using le
      · exact fun rung member => closed rung (among member)
  | item own =>
      have le : column ≤ own := by simpa [Landmark.isDeeper, Landmark.column?] using deeper
      have held : host.holdsItem own = true := by
        rw [Rung.holdsItem, holds_deeper column own host holds le, Bool.true_or]
      have fresh (position : Nat) : Rung.holdsKey column ⟨.item, own, .index position, 0⟩ = false := by
        simpa [Rung.holdsKey, Outline.Kind.isStep] using le
      obtain ⟨left, among, same⟩ := drop_before (Rung.holdsItem own) passed host outer held
      simp only [note, same]
      cases left with
      | nil => exact ⟨[⟨.item, own, .index host.items, 0⟩], host.items + 1, rfl, by simpa using fresh host.items⟩
      | cons first rest =>
          refine ⟨⟨.item, own, .index first.items, 0⟩ :: first.addItem :: rest, host.items, rfl, ?_⟩
          have others := List.forall_mem_cons.mp fun rung member => closed rung (among member)
          exact List.forall_mem_cons.mpr ⟨fresh first.items, List.forall_mem_cons.mpr others⟩

theorem notes_deeper (documents column : Nat) (marks : List Landmark) (passed : List Rung) (host : Rung) (outer : List Rung)
    (deeper : ∀ mark ∈ marks, mark.isDeeper column = true) (holds : host.holdsKey column = true)
    (closed : ∀ rung ∈ passed, rung.holdsKey column = false) :
    ∃ left items, marks.foldl note ⟨documents, passed ++ host :: outer⟩ =
        ⟨documents, left ++ { host with items := items } :: outer⟩ ∧ ∀ rung ∈ left, rung.holdsKey column = false := by
  induction marks generalizing passed host with
  | nil => exact ⟨passed, host.items, rfl, closed⟩
  | cons mark rest ih =>
      obtain ⟨first, others⟩ := List.forall_mem_cons.mp deeper
      obtain ⟨left, items, noted, away⟩ := note_deeper documents column mark passed host outer first holds closed
      rw [List.foldl_cons, noted]
      exact ih left { host with items := items } others holds away

theorem notes_documents (column : Nat) (marks : List Landmark) (trail : Trail)
    (deeper : ∀ mark ∈ marks, mark.isDeeper column = true) : (marks.foldl note trail).documents = trail.documents := by
  induction marks generalizing trail with
  | nil => rfl
  | cons mark rest ih =>
      obtain ⟨first, others⟩ := List.forall_mem_cons.mp deeper
      rw [List.foldl_cons, ih _ others]
      cases mark with
      | document => cases first
      | key => rfl
      | item own =>
          rw [note]
          split <;> rfl

end Trail

namespace Landmark

def reach : Landmark → Nat
  | .document => 0
  | .key column _ _ => column
  | .item column => column + 1

def comesAgain (mark : Landmark) (earlier : List Landmark) : Prop :=
  ∀ column, mark = .item column → ∃ before after, earlier = before ++ .item column :: after ∧
    ∀ other ∈ after, other.isDeeper (column + 1) = true

end Landmark

inductive Abreast : List Landmark → List Landmark → Prop where
  | start : Abreast [] []
  | meet (first second own others : List Landmark) (mark : Landmark) (before : Abreast first second)
      (ownPassed : ∀ other ∈ own, other.isDeeper mark.reach = true)
      (othersPassed : ∀ other ∈ others, other.isDeeper mark.reach = true) (counted : own = [] ∨ mark.comesAgain first) :
      Abreast (first ++ (own ++ [mark])) (second ++ (others ++ [mark]))

theorem abreast_last (first seen : List Landmark) (mark : Landmark) (abreast : Abreast first (seen ++ [mark])) :
    first.getLast? = some mark := by
  generalize whole : seen ++ [mark] = second at abreast
  cases abreast with
  | start => simp at whole
  | meet first second own others other =>
      rw [← List.append_assoc] at whole
      obtain ⟨-, same⟩ := List.append_inj' whole rfl
      obtain rfl := List.singleton_inj.mp same
      rw [← List.append_assoc, List.getLast?_append, List.getLast?_singleton, Option.some_or]

namespace Trail

theorem along_split (first second : List Landmark) : along (first ++ second) = second.foldl note (along first) := by
  rw [along, List.foldl_append, ← along]

def IsGrounded (trail : Trail) : Prop :=
  trail.documents = 0 ∨ ∃ rung ∈ trail.rungs, rung.kind.isStep = false

theorem note_grounded (trail : Trail) (mark : Landmark) (grounded : trail.IsGrounded) : (trail.note mark).IsGrounded := by
  have stays (holds : Rung → Bool) (rung : Rung) (member : rung ∈ trail.rungs) (held : holds rung = true) :
      rung ∈ trail.rungs.dropWhile (!holds ·) := by
    obtain ⟨passed, outer, split⟩ := List.append_of_mem member
    obtain ⟨left, -, same⟩ := drop_before holds passed rung outer held
    rw [split, same]
    exact List.mem_append_right _ List.mem_cons_self
  cases mark with
  | document => exact .inr ⟨_, List.mem_cons_self, rfl⟩
  | key column name region =>
      rcases grounded with none | ⟨rung, member, top⟩
      · exact .inl none
      · exact .inr ⟨rung, List.mem_cons_of_mem _ (stays _ rung member (by simp [Rung.holdsKey, top])), top⟩
  | item column =>
      rcases grounded with none | ⟨rung, member, top⟩
      · left
        rw [note]
        split <;> exact none
      · have kept := stays (Rung.holdsItem column) rung member (by simp [Rung.holdsItem, Rung.holdsKey, top])
        rw [note]
        split
        next empty => rw [empty] at kept; cases kept
        next host outer climbed =>
          rw [climbed] at kept
          rcases List.mem_cons.mp kept with rfl | above
          · exact .inr ⟨rung.addItem, List.mem_cons_of_mem _ List.mem_cons_self, top⟩
          · exact .inr ⟨rung, List.mem_cons_of_mem _ (List.mem_cons_of_mem _ above), top⟩

theorem notes_grounded (marks : List Landmark) (trail : Trail) (grounded : trail.IsGrounded) :
    (marks.foldl note trail).IsGrounded := by
  induction marks generalizing trail with
  | nil => exact grounded
  | cons mark rest ih => exact ih _ (note_grounded trail mark grounded)

theorem again_rungs (column : Nat) (earlier : List Landmark) (begun : (along earlier).documents ≠ 0)
    (again : (Landmark.item column).comesAgain earlier) :
    ∃ left rung rest, (along earlier).rungs = left ++ rung :: rest ∧ rung.kind = .item ∧ rung.column = column ∧
      ∀ other ∈ left, other.holdsKey (column + 1) = false := by
  obtain ⟨before, after, rfl, deeper⟩ := again column rfl
  rw [List.append_cons, along_split] at begun ⊢
  rw [notes_documents (column + 1) after _ deeper] at begun
  rcases notes_grounded (before ++ [.item column]) ⟨0, []⟩ (.inl rfl) with none | ⟨top, member, -⟩
  · exact absurd none begun
  rw [← along, along_append] at member
  rw [along_append]
  cases climbed : (along before).rungs.dropWhile (!·.holdsItem column) with
  | nil => simp [note, climbed] at member
  | cons host outer =>
      have holds : Rung.holdsKey (column + 1) ⟨.item, column, .index host.items, 0⟩ = true := by simp [Rung.holdsKey]
      obtain ⟨left, items, noted, away⟩ := notes_deeper (along before).documents (column + 1) after []
        ⟨.item, column, .index host.items, 0⟩ (host.addItem :: outer) deeper holds (List.forall_mem_nil _)
      rw [List.nil_append] at noted
      simp only [note, climbed, noted]
      exact ⟨left, _, _, rfl, rfl, rfl, away⟩

end Trail
end YamlDialects
