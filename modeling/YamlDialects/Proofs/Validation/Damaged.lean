import YamlDialects.Proofs.Outline.Entries
import YamlDialects.Proofs.Schema.Inference
import YamlDialects.Proofs.Yaml.Damage
import YamlDialects.Proofs.Yaml.Spelling
import YamlDialects.Validation.Document

set_option autoImplicit false

namespace YamlDialects

open Yaml (Damage Node Tree)

namespace Finding

def unknownKey? : Finding → Option Region
  | .problem found => if found.kind = .unknownProperty then some found.region else none
  | .check _ => none

end Finding

namespace Validation

def Quiet (found : List Finding) : Prop :=
  ∀ finding ∈ found, finding.unknownKey? = none

theorem quiet_append (first second : List Finding) (firstQuiet : Quiet first) (secondQuiet : Quiet second) :
    Quiet (first ++ second) :=
  List.forall_mem_append.mpr ⟨firstQuiet, secondQuiet⟩

theorem quiet_problem (kind : ProblemKind) (region : Region) (message : String) (replacement : Option String)
    (other : kind ≠ .unknownProperty) : Quiet [.problem (Problem.of kind region message replacement)] := by
  intro finding member
  rw [List.mem_singleton.mp member]
  exact if_neg other

theorem quiet_checks (constraints : List Constraint) (context : SchemaContext) (target : ConstraintTarget) :
    Quiet (checks constraints context target) := by
  intro finding member
  obtain ⟨constraint, -, rfl⟩ := List.mem_map.mp member
  rfl

theorem quiet_values (schema : Schema) (type : TypeId) (text : String) (region : Region) :
    Quiet (valueFindings schema type text region) := by
  unfold valueFindings
  split
  · intro finding member
    obtain ⟨fault, -, rfl⟩ := Option.map_eq_some_iff.mp (Option.mem_toList.mp member)
    simp only [faultProblem, Finding.unknownKey?]
    split <;> rfl
  · split
    · exact List.forall_mem_nil _
    · exact quiet_problem _ _ _ _ (by decide)

theorem quiet_duplicates (entries : List (Node × Node)) : Quiet (duplicateFindings entries) := by
  intro finding member
  obtain ⟨name, -, listed⟩ := List.mem_flatMap.mp member
  dsimp only at listed
  split at listed
  · obtain ⟨key, -, rfl⟩ := List.mem_map.mp listed
    rfl
  · cases listed

theorem quiet_absent (schema : Schema) (type : TypeId) (keys : List String) (region : Region) :
    Quiet (absentFindings schema type keys region) := by
  simp only [absentFindings, missingFindings]
  split
  · exact List.forall_mem_nil _
  · split
    · exact List.forall_mem_nil _
    · exact quiet_problem _ _ _ _ (by decide)
    · exact quiet_problem _ _ _ _ (by decide)

theorem key_findings_region (schema : Schema) (type : TypeId) (key : String) (region shown : Region) (finding : Finding)
    (member : finding ∈ keyFindings schema type key region) (unknown : finding.unknownKey? = some shown) :
    shown = region := by
  unfold keyFindings at member
  split at member
  · rw [List.mem_singleton.mp member] at unknown
    exact (Option.some.inj unknown).symm
  · cases member
  · split at member
    · rw [List.mem_singleton.mp member] at unknown
      cases unknown
    · cases member

theorem child_block_keys (schema : Schema) (below : Block → TypeId → Path → List Finding) (type : TypeId) (path : Path)
    (child : Block) (finding : Finding) (region : Region)
    (deeper : ∀ type path, finding ∈ below child type path → child.HoldsKey region)
    (member : finding ∈ childBlock schema below type path child) (unknown : finding.unknownKey? = some region) :
    child.HoldsKey region := by
  unfold childBlock at member
  split at member
  next isKey =>
    unfold keyBlock at member
    split at member
    next key shown _ shownEq =>
      dsimp only at member
      split at member
      · cases member
      · split at member
        · rcases List.mem_append.mp member with own | inside
          · obtain rfl := key_findings_region schema type key shown region finding own unknown
            exact ⟨child, rfl, .here, isKey, shownEq⟩
          · split at inside
            · exact deeper _ _ inside
            · cases inside
        · split at member
          · split at member
            · exact deeper _ _ member
            · cases member
          · cases member
    next => cases member
  next =>
    unfold itemBlock at member
    split at member
    · exact deeper _ _ member
    · cases member
  next => cases member

theorem block_within_keys (schema : Schema) (depth : Nat) (block : Block) (type : TypeId) (path : Path) (finding : Finding)
    (region : Region) (member : finding ∈ blockWithin schema depth block type path)
    (unknown : finding.unknownKey? = some region) : block.HoldsKey region := by
  induction depth generalizing block type path with
  | zero => cases member
  | succ depth ih =>
      rw [blockWithin] at member
      split at member
      · cases member
      · rcases List.mem_append.mp member with inside | deferred
        · obtain ⟨child, isChild, found⟩ := List.mem_flatMap.mp inside
          exact block.holds_key_child child region isChild
            (child_block_keys schema _ _ path child finding region (fun type path => ih child type path) found unknown)
        · rw [quiet_checks _ _ _ finding deferred] at unknown
          cases unknown

def BelongsTo (validation : Validation) (position number : Nat) : Prop :=
  ∃ damage, validation.tree.damage[number]? = some damage ∧ damage.parentPath.head? = some (.index position)

-- What a walk in a document gives is as it should be, and it deals with damage of that document only.
def Stays {α : Type} (validation : Validation) (position : Nat) (walk : StateM Handled α) (good : α → Prop) : Prop :=
  ∀ before, good (walk.run before).1 ∧
    ∀ number ∈ (walk.run before).2, number ∈ before ∨ validation.BelongsTo position number

theorem stays_pure {α : Type} (validation : Validation) (position : Nat) (given : α) (good : α → Prop) (holds : good given) :
    Stays validation position (pure given) good :=
  fun _ => ⟨holds, fun _ member => .inl member⟩

theorem stays_bind {α β : Type} (validation : Validation) (position : Nat) (first : StateM Handled α)
    (rest : α → StateM Handled β) (good : α → Prop) (fine : β → Prop) (begins : Stays validation position first good)
    (continues : ∀ given, good given → Stays validation position (rest given) fine) :
    Stays validation position (first >>= rest) fine := by
  intro before
  obtain ⟨holds, touched⟩ := begins before
  obtain ⟨ends, further⟩ := continues _ holds (first.run before).2
  exact ⟨ends, fun number member => (further number member).elim (touched number) .inr⟩

theorem stays_take (validation : Validation) (position : Nat) (path : Path) (starts : path.head? = some (.index position)) :
    Stays validation position (validation.takeDamage path) fun taken => ∀ damage ∈ taken,
      damage ∈ validation.tree.damage ∧ damage.parentPath.head? = some (.index position) := by
  intro before
  have listed : ∀ pair ∈ validation.tree.damage.zipIdx.filter fun each =>
      isAt path each.1 && !before.contains each.2, validation.tree.damage[pair.2]? = some pair.1 ∧
        pair.1.parentPath.head? = some (.index position) := by
    intro pair member
    obtain ⟨inside, taken⟩ := List.mem_filter.mp member
    simp only [isAt, Bool.and_eq_true, decide_eq_true_eq] at taken
    exact ⟨List.mk_mem_zipIdx_iff_getElem?.mp inside, by rw [taken.1, starts]⟩
  constructor
  · intro damage member
    obtain ⟨pair, found, rfl⟩ := List.mem_map.mp member
    exact ⟨List.mem_of_getElem? (listed pair found).1, (listed pair found).2⟩
  · intro number member
    rcases List.mem_append.mp member with old | fresh
    · exact .inl old
    · obtain ⟨pair, found, rfl⟩ := List.mem_map.mp fresh
      exact .inr ⟨pair.1, listed pair found⟩

def IsKeyOf (validation : Validation) (position : Nat) (root : Node) (region : Region) : Prop :=
  (∃ name, Node.Within (.scalar name region) root) ∨
    ∃ damage ∈ validation.tree.damage, damage.parentPath.head? = some (.index position) ∧
      Block.HoldsKey ⟨validation.tree.outline, damage.block⟩ region

-- Only keys of the document are called unknown.
def Explained (validation : Validation) (position : Nat) (root : Node) (found : List Finding) : Prop :=
  ∀ finding ∈ found, ∀ region, finding.unknownKey? = some region → validation.IsKeyOf position root region

section

variable (validation : Validation) (position : Nat) (root : Node)

theorem explained_quiet (found : List Finding) (quiet : Quiet found) : Explained validation position root found := by
  intro finding member region unknown
  rw [quiet finding member] at unknown
  cases unknown

theorem explained_append (first second : List Finding) (firstExplained : Explained validation position root first)
    (secondExplained : Explained validation position root second) : Explained validation position root (first ++ second) :=
  List.forall_mem_append.mpr ⟨firstExplained, secondExplained⟩

theorem explained_key (type : TypeId) (name : String) (key : Node) (isKey : checkedKey? key = some name)
    (inside : key.Within root) : Explained validation position root (keyFindings validation.schema type name key.region) := by
  intro finding member region unknown
  obtain rfl := key_findings_region validation.schema type name key.region region finding member unknown
  cases key with
  | scalar text region => exact .inl ⟨text, inside⟩
  | mapping entries region => cases isKey
  | sequence items region => cases isKey

theorem explained_damage (type : TypeId) (path : Path) (taken : List Damage) (listed : ∀ damage ∈ taken,
      damage ∈ validation.tree.damage ∧ damage.parentPath.head? = some (.index position)) :
    Explained validation position root (taken.flatMap (validation.damageFindings type path)) := by
  intro finding member region unknown
  obtain ⟨damage, inside, found⟩ := List.mem_flatMap.mp member
  obtain ⟨recorded, starts⟩ := listed damage inside
  refine .inr ⟨damage, recorded, starts, ?_⟩
  unfold damageFindings at found
  split at found
  next block placed =>
    obtain ⟨-, rfl⟩ := (Outline.block_iff _ _ _).mp placed
    exact child_block_keys validation.schema _ type path _ finding region
      (fun type path => fun deeper => block_within_keys validation.schema _ _ type path finding region deeper unknown)
      found unknown
  next => cases found

theorem stays_explained (found : List Finding) (explained : Explained validation position root found) :
    Stays validation position (pure found) (Explained validation position root) :=
  stays_pure validation position found _ explained

theorem stays_quiet (found : List Finding) (quiet : Quiet found) :
    Stays validation position (pure found) (Explained validation position root) :=
  stays_explained validation position root found (explained_quiet validation position root found quiet)

theorem stays_append (first second : StateM Handled (List Finding))
    (begins : Stays validation position first (Explained validation position root))
    (continues : Stays validation position second (Explained validation position root)) :
    Stays validation position (first >>= fun found => second >>= fun further => pure (found ++ further))
      (Explained validation position root) :=
  stays_bind _ _ _ _ _ _ begins fun found explained => stays_bind _ _ _ _ _ _ continues fun further also =>
    stays_explained _ _ _ _ (explained_append _ _ _ found further explained also)

mutual

theorem node_stays (parent key : Option Region) (declared : TypeId) (path : Path) (found : Node)
    (starts : path.head? = some (.index position)) (inside : found.Within root) :
    Stays validation position (validation.node parent key declared path found) (Explained validation position root) := by
  rw [node]
  refine stays_bind _ _ _ _ _ _ (stays_take validation position path starts) fun taken listed => ?_
  dsimp only
  generalize validation.schema.infer declared _ = type
  generalize checked : checks (validation.schema.constraints type) _ _ = deferred
  have finish : ∀ own, Explained validation position root own → Stays validation position
      (pure (own ++ deferred ++ taken.flatMap (validation.damageFindings type path)))
      (Explained validation position root) := by
    intro own explained
    have quiet : Quiet deferred := checked ▸ quiet_checks _ _ _
    exact stays_explained _ _ _ _ (explained_append _ _ _ _ _
      (explained_append _ _ _ _ _ explained (explained_quiet _ _ _ _ quiet))
      (explained_damage _ _ _ type path taken listed))
  cases found with
  | scalar text region =>
      dsimp only
      split
      · exact stays_bind _ _ _ _ _ _ (stays_quiet _ _ _ _ (List.forall_mem_nil _)) finish
      · exact stays_bind _ _ _ _ _ _ (stays_quiet _ _ _ _ (quiet_values _ _ _ _)) finish
  | mapping entries region =>
      have duplicates := explained_quiet validation position root _ (quiet_duplicates entries)
      have below : ∀ entry ∈ entries, entry.1.Within root ∧ entry.2.Within root := by
        intro entry member
        have children : ∀ child ∈ [entry.1, entry.2], child.Within root := fun child listed =>
          Node.within_trans _ _ _
            (.under _ child _ (List.mem_flatMap.mpr ⟨entry, member, listed⟩) (.here _)) inside
        exact ⟨children _ (by simp), children _ (by simp)⟩
      dsimp only
      split
      · exact stays_bind _ _ _ _ _ _ (stays_explained _ _ _ _ duplicates) finish
      · split
        · refine stays_bind _ _ _ _ _ _ (properties_stay region type path entries starts below) fun values explained => ?_
          exact stays_bind _ _ _ _ _ _ (stays_explained _ _ _ _ (explained_append _ _ _ _ _
            (explained_append _ _ _ _ _ duplicates explained) (explained_quiet _ _ _ _ (quiet_absent _ _ _ _)))) finish
        · split
          · refine stays_bind _ _ _ _ _ _ (pairs_stay region _ _ path entries starts below) fun values explained => ?_
            exact stays_bind _ _ _ _ _ _ (stays_explained _ _ _ _ (explained_append _ _ _ _ _ duplicates explained)) finish
          · exact stays_bind _ _ _ _ _ _ (stays_explained _ _ _ _ (explained_append _ _ _ _ _ duplicates
              (explained_quiet _ _ _ _ (quiet_problem _ _ _ _ (by decide))))) finish
  | sequence items region =>
      have below : ∀ item ∈ items, item.Within root := fun item member =>
        Node.within_trans _ _ _ (.under _ item (.sequence items region) member (.here _)) inside
      dsimp only
      split
      · exact stays_bind _ _ _ _ _ _ (stays_quiet _ _ _ _ (List.forall_mem_nil _)) finish
      · split
        · exact stays_bind _ _ _ _ _ _ (elements_stay region _ path 0 items starts below) finish
        · exact stays_bind _ _ _ _ _ _ (stays_quiet _ _ _ _ (quiet_problem _ _ _ _ (by decide))) finish

theorem properties_stay (parent : Region) (type : TypeId) (path : Path) (entries : List (Node × Node))
    (starts : path.head? = some (.index position)) (inside : ∀ entry ∈ entries, entry.1.Within root ∧ entry.2.Within root) :
    Stays validation position (validation.properties parent type path entries) (Explained validation position root) := by
  match entries with
  | [] =>
      rw [properties]
      exact stays_quiet _ _ _ _ (List.forall_mem_nil _)
  | (key, value) :: rest =>
      obtain ⟨⟨keyInside, valueInside⟩, restInside⟩ := List.forall_mem_cons.mp inside
      have later := properties_stay parent type path rest starts restInside
      rw [properties]
      dsimp only
      cases checked : checkedKey? key with
      | none => exact stays_append _ _ _ _ _ (stays_quiet _ _ _ _ (List.forall_mem_nil _)) later
      | some name =>
          have own := explained_key validation position root type name key checked keyInside
          dsimp only
          cases (lookup validation.schema type name).property? with
          | none => exact stays_append _ _ _ _ _ (stays_explained _ _ _ _ own) later
          | some property =>
              refine stays_bind _ _ _ _ _ _ (node_stays (some parent) (some key.region) property.type (path ++ [.value name])
                value (by simp [starts]) valueInside) fun values explained => ?_
              exact stays_append _ _ _ _ _ (stays_explained _ _ _ _ (explained_append _ _ _ _ _ own explained)) later

theorem pairs_stay (parent : Region) (keyType valueType : Option TypeId) (path : Path) (entries : List (Node × Node))
    (starts : path.head? = some (.index position)) (inside : ∀ entry ∈ entries, entry.1.Within root ∧ entry.2.Within root) :
    Stays validation position (validation.pairs parent keyType valueType path entries) (Explained validation position root) := by
  match entries with
  | [] =>
      rw [pairs]
      exact stays_quiet _ _ _ _ (List.forall_mem_nil _)
  | (key, value) :: rest =>
      obtain ⟨⟨keyInside, valueInside⟩, restInside⟩ := List.forall_mem_cons.mp inside
      have later := pairs_stay parent keyType valueType path rest starts restInside
      have nothing := stays_quiet validation position root [] (List.forall_mem_nil _)
      rw [pairs]
      cases key.scalar? with
      | none => exact stays_append _ _ _ _ _ nothing later
      | some name =>
          have keys : ∀ keyType, Stays validation position
              (validation.node (some parent) none keyType (path ++ [.key name]) key) (Explained validation position root) :=
            fun keyType => node_stays (some parent) none keyType (path ++ [.key name]) key (by simp [starts]) keyInside
          have values : ∀ valueType, Stays validation position
              (validation.node (some parent) (some key.region) valueType (path ++ [.value name]) value)
              (Explained validation position root) := fun valueType =>
            node_stays (some parent) (some key.region) valueType (path ++ [.value name]) value (by simp [starts]) valueInside
          cases keyType with
          | none =>
              cases valueType with
              | none => exact stays_append _ _ _ _ _ nothing later
              | some valueType => simpa using stays_append _ _ _ _ _ (values valueType) later
          | some keyType =>
              cases valueType with
              | none => simpa using stays_append _ _ _ _ _ (keys keyType) later
              | some valueType =>
                  have both := stays_append _ _ _ _ _ (keys keyType) (values valueType)
                  simpa only [bind_assoc, pure_bind] using stays_append _ _ _ _ _ both later

theorem elements_stay (parent : Region) (element : TypeId) (path : Path) (first : Nat) (items : List Node)
    (starts : path.head? = some (.index position)) (inside : ∀ item ∈ items, item.Within root) :
    Stays validation position (validation.elements parent element path first items) (Explained validation position root) := by
  match items with
  | [] =>
      rw [elements]
      exact stays_quiet _ _ _ _ (List.forall_mem_nil _)
  | item :: rest =>
      obtain ⟨itemInside, restInside⟩ := List.forall_mem_cons.mp inside
      rw [elements]
      exact stays_append _ _ _ _ _
        (node_stays (some parent) none element (path ++ [.index first]) item (by simp [starts]) itemInside)
        (elements_stay parent element path (first + 1) rest starts restInside)

end

end

theorem document_stays (dialect : Dialect) (validation : Validation) (position : Nat) (root : Node) :
    Stays validation position (document dialect validation position root) (Explained validation position root) := by
  refine stays_bind _ _ _ _ _ _ (node_stays validation position root none none _ [.index position] root rfl (.here root))
    fun found explained => ?_
  exact stays_explained _ _ _ _ (explained_append _ _ _ _ _
    (explained_quiet _ _ _ _ (quiet_checks _ _ _)) explained)

def Gives (walk : StateM Handled (List Finding)) (finding : Finding) : Prop :=
  ∀ before, finding ∈ (walk.run before).1

theorem gives_bind {α : Type} (first : StateM Handled α) (rest : α → StateM Handled (List Finding)) (finding : Finding)
    (continues : ∀ given, Gives (rest given) finding) : Gives (first >>= rest) finding :=
  fun before => continues _ (first.run before).2

theorem node_reports (validation : Validation) (parent key : Option Region) (declared type : TypeId) (path : Path)
    (found : Node) (before : Handled) (damage : Damage) (number : Nat)
    (inferred : ∀ context, validation.schema.infer declared context = type)
    (recorded : validation.tree.damage[number]? = some damage) (parentPath : damage.parentPath = path)
    (fresh : number ∉ before) (finding : Finding) (member : finding ∈ validation.damageFindings type path damage) :
    finding ∈ ((validation.node parent key declared path found).run before).1 := by
  have taken : damage ∈ ((validation.takeDamage path).run before).1 := by
    refine List.mem_map.mpr ⟨(damage, number), List.mem_filter.mpr ⟨List.mk_mem_zipIdx_iff_getElem?.mpr recorded, ?_⟩, rfl⟩
    simp [isAt, parentPath, fresh]
  rw [node, StateT.run_bind]
  generalize (validation.takeDamage path).run before = outcome at taken
  obtain ⟨listed, handled⟩ := outcome
  have reported : finding ∈ listed.flatMap (validation.damageFindings type path) :=
    List.mem_flatMap.mpr ⟨damage, taken, member⟩
  simp only [inferred]
  have finish : ∀ own deferred : List Finding,
      Gives (pure (own ++ deferred ++ listed.flatMap (validation.damageFindings type path))) finding :=
    fun own deferred _ => List.mem_append_right _ reported
  suffices gives : Gives _ finding from gives handled
  cases found with
  | scalar text region =>
      dsimp only
      split <;> exact gives_bind _ _ _ fun own => finish own _
  | mapping entries region =>
      dsimp only
      split
      · exact gives_bind _ _ _ fun own => finish own _
      · split
        · exact gives_bind _ _ _ fun values => gives_bind _ _ _ fun own => finish own _
        · split
          · exact gives_bind _ _ _ fun values => gives_bind _ _ _ fun own => finish own _
          · exact gives_bind _ _ _ fun own => finish own _
  | sequence items region =>
      dsimp only
      split
      · exact gives_bind _ _ _ fun own => finish own _
      · split <;> exact gives_bind _ _ _ fun own => finish own _

theorem document_reports (dialect : Dialect) (validation : Validation) (properties : List Property)
    (isBean : validation.schema.kind dialect.root = .bean properties) (position : Nat) (root : Node) (before : Handled)
    (damage : Damage) (number : Nat) (recorded : validation.tree.damage[number]? = some damage)
    (parentPath : damage.parentPath = [.index position]) (fresh : number ∉ before) (finding : Finding)
    (member : finding ∈ validation.damageFindings (validation.schema.resolve dialect.root) [.index position] damage) :
    finding ∈ ((document dialect validation position root).run before).1 := by
  have reported := node_reports validation none none (validation.schema.resolve dialect.root) _ [.index position] root
    before damage number (validation.schema.infer_bean_again dialect.root properties isBean) recorded parentPath fresh
    finding member
  refine List.mem_append_right _ ?_
  simp only [validation.schema.infer_bean dialect.root properties isBean]
  exact reported

theorem documents_explained (dialect : Dialect) (validation : Validation) (first : Nat) (roots : List Node) (before : Handled)
    (finding : Finding) (region : Region) (member : finding ∈ ((documents dialect validation first roots).run before).1)
    (unknown : finding.unknownKey? = some region) :
    ∃ position root, first ≤ position ∧ roots[position - first]? = some root ∧ validation.IsKeyOf position root region := by
  induction roots generalizing first before with
  | nil => cases member
  | cons root rest ih =>
      rcases List.mem_append.mp member with here | later
      · exact ⟨first, root, Nat.le_refl _, by simp,
          (document_stays dialect validation first root before).1 finding here region unknown⟩
      · obtain ⟨position, other, behind, found, isKey⟩ := ih (first + 1) _ later
        refine ⟨position, other, by omega, ?_, isKey⟩
        rwa [show position - first = position - (first + 1) + 1 by omega, List.getElem?_cons_succ]

theorem documents_report (dialect : Dialect) (validation : Validation) (properties : List Property)
    (isBean : validation.schema.kind dialect.root = .bean properties) (first position : Nat) (roots : List Node)
    (before : Handled) (damage : Damage) (number : Nat) (recorded : validation.tree.damage[number]? = some damage)
    (parentPath : damage.parentPath = [.index position]) (behind : first ≤ position) (exists_ : position < first + roots.length)
    (fresh : number ∉ before) (finding : Finding)
    (member : finding ∈ validation.damageFindings (validation.schema.resolve dialect.root) [.index position] damage) :
    finding ∈ ((documents dialect validation first roots).run before).1 := by
  induction roots generalizing first before with
  | nil =>
      simp only [List.length_nil] at exists_
      omega
  | cons root rest ih =>
      rcases Nat.eq_or_lt_of_le behind with rfl | further
      · exact List.mem_append_left _ (document_reports dialect validation properties isBean first root before damage number
          recorded parentPath fresh finding member)
      · refine List.mem_append_right _ (ih (first + 1) _ further (by simp only [List.length_cons] at exists_; omega) ?_)
        intro handled
        rcases (document_stays dialect validation first root before).2 number handled with old | ⟨other, same, starts⟩
        · exact fresh old
        · obtain rfl : damage = other := Option.some.inj (recorded.symm.trans same)
          rw [parentPath] at starts
          simp only [List.head?_cons, Option.some.injEq, Segment.index.injEq] at starts
          omega

theorem lost_explained (dialect : Dialect) (validation : Validation) (before : Handled) (finding : Finding) (region : Region)
    (member : finding ∈ ((lostDocuments dialect validation).run before).1) (unknown : finding.unknownKey? = some region) :
    ∃ damage ∈ validation.tree.damage, damage.parentPath = [] ∧
      Block.HoldsKey ⟨validation.tree.outline, damage.block⟩ region := by
  obtain ⟨damage, taken, found⟩ := List.mem_flatMap.mp member
  obtain ⟨pair, listed, rfl⟩ := List.mem_map.mp taken
  obtain ⟨recorded, matches_⟩ := List.mem_filter.mp listed
  simp only [isAt, Bool.and_eq_true, decide_eq_true_eq] at matches_
  refine ⟨pair.1, List.mem_of_getElem? (List.mk_mem_zipIdx_iff_getElem?.mp recorded), matches_.1, ?_⟩
  split at found
  next block placed =>
    obtain ⟨-, rfl⟩ := (Outline.block_iff _ _ _).mp placed
    split at found
    · exact block_within_keys validation.schema _ _ _ _ finding region found unknown
    · cases found
  next => cases found

theorem constraint_kinds (context : SchemaContext) (target : ConstraintTarget) (constraint : Constraint)
    (problems : List Problem) (verified : constraint.verify context target = .ok problems) :
    ∀ problem ∈ problems, problem.kind ≠ .unknownProperty := by
  have mapped : ∀ (keys : List FoundKey) (kind : ProblemKind) (message : FoundKey → String), kind ≠ .unknownProperty →
      ∀ problem ∈ keys.map fun key => Problem.of kind key.region (message key), problem.kind ≠ .unknownProperty := by
    intro keys kind message other problem member
    obtain ⟨key, -, rfl⟩ := List.mem_map.mp member
    exact other
  have exclusive : ∀ names found, ∀ problem ∈ Constraint.exclusive names found, problem.kind ≠ .unknownProperty := by
    intro names found
    unfold Constraint.exclusive
    split
    · exact List.forall_mem_nil _
    · exact mapped _ _ _ (by decide)
  induction constraint generalizing problems with
  | requireOneOf names =>
      obtain rfl := Except.ok.inj verified
      split
      · exact List.forall_mem_singleton.mpr nofun
      · exact exclusive _ _
  | atMostOneOf names =>
      obtain rfl := Except.ok.inj verified
      exact exclusive _ _
  | deprecated names template =>
      obtain rfl := Except.ok.inj verified
      exact mapped _ _ _ (by decide)
  | requireWith names companion =>
      obtain rfl := Except.ok.inj verified
      split
      · exact List.forall_mem_nil _
      · exact mapped _ _ _ (by decide)
  | singleKey message =>
      obtain rfl := Except.ok.inj verified
      exact mapped _ _ _ (by decide)
  | requireKey name message =>
      obtain rfl := Except.ok.inj verified
      split
      · exact List.forall_mem_nil _
      · exact List.forall_mem_singleton.mpr nofun
  | whenDefined name constraint ih =>
      rw [Constraint.verify] at verified
      split at verified
      · exact ih problems verified
      · obtain rfl := Except.ok.inj verified
        exact List.forall_mem_nil _
  | failing reason => cases verified

theorem check_kinds (check : Check) : ∀ problem ∈ check.problems, problem.kind ≠ .unknownProperty := by
  unfold Check.problems
  split
  next problems verified => exact constraint_kinds _ _ _ problems verified
  next => exact List.forall_mem_nil _

theorem unknown_reported_iff (dialect : Dialect) (validation : Validation) (region : Region) :
    (∃ problem ∈ problems dialect validation, problem.kind = .unknownProperty ∧ problem.region = region) ↔
      ∃ finding ∈ findings dialect validation, finding.unknownKey? = some region := by
  simp only [problems, List.mem_mergeSort, List.mem_append]
  constructor
  · rintro ⟨problem, (syntactic | found) | deferred, kind, place⟩
    · obtain ⟨error, -, rfl⟩ := List.mem_map.mp syntactic
      cases kind
    · obtain ⟨finding, member, isProblem⟩ := List.mem_filterMap.mp found
      refine ⟨finding, member, ?_⟩
      cases finding with
      | problem given =>
          obtain rfl := Option.some.inj isProblem
          rw [Finding.unknownKey?, if_pos kind, place]
      | check given => cases isProblem
    · obtain ⟨check, -, member⟩ := List.mem_flatMap.mp deferred
      exact absurd kind (check_kinds check problem member)
  · rintro ⟨finding, member, unknown⟩
    cases finding with
    | problem given =>
        rw [Finding.unknownKey?] at unknown
        split at unknown
        next kind =>
          exact ⟨given, .inl (.inr (List.mem_filterMap.mpr ⟨_, member, rfl⟩)), kind, Option.some.inj unknown⟩
        next => cases unknown
    | check given => cases unknown

theorem damage_parent_path (read : Yaml.TextReader) (text : String) (relaxedNames : Bool) (damage : Damage)
    (member : damage ∈ (Tree.parseBy read text relaxedNames).damage) (block document : Block)
    (belongs : block.outline = Outline.ofText text relaxedNames) (same : block.id = damage.block)
    (hangs : block.parent? = some document) (isDocument : document.kind = .document) :
    damage.region = Yaml.blankRegion block ∧ damage.parentPath = [.index document.position] := by
  obtain ⟨other, suspect, rfl⟩ := Tree.damage_source read text relaxedNames damage member
  obtain rfl : block = other := by
    obtain ⟨outline, id⟩ := block
    obtain ⟨otherOutline, otherId⟩ := other
    obtain rfl : outline = otherOutline := belongs.trans suspect.belongs.symm
    obtain rfl : id = otherId := same
    rfl
  refine ⟨rfl, ?_⟩
  have path := document.document_path text relaxedNames ((block.parent_outline document hangs).trans belongs) isDocument
  simp only [Damage.ofBlock, hangs, Option.map_some, Option.getD_some, path]

section

variable (dialect : Dialect) (schema : Schema) (read : Yaml.TextReader) (text : String) (relaxedNames : Bool) (damage : Damage)
  (member : damage ∈ (Tree.parseBy read text relaxedNames).damage) (block document : Block)
  (belongs : block.outline = Outline.ofText text relaxedNames) (same : block.id = damage.block)
  (isKey : block.kind = .key) (hangs : block.parent? = some document) (isDocument : document.kind = .document)
  (region : Region) (shown : block.keyRegion? = some region)

include member belongs same isKey hangs isDocument shown

theorem damaged_key_found (properties : List Property) (isBean : schema.kind dialect.root = .bean properties) (key : String)
    (named : block.key? = some key) (plain : isTemplated key = false)
    (unknown : schema.property? dialect.root key = none)
    (reached : document.position < (Tree.parseBy read text relaxedNames).documents.length) :
    ∃ finding ∈ findings dialect ⟨schema, Tree.parseBy read text relaxedNames⟩, finding.unknownKey? = some region := by
  obtain ⟨-, parentPath⟩ := damage_parent_path read text relaxedNames damage member block document belongs same hangs isDocument
  obtain ⟨number, recorded⟩ := List.getElem?_of_mem member
  have isBeanToo := schema.bean_resolved dialect.root properties isBean
  have unknownToo : schema.property? (schema.resolve dialect.root) key = none := by
    simpa only [Schema.property?, Schema.properties, isBeanToo, isBean] using unknown
  have placed : (Tree.parseBy read text relaxedNames).outline.block? damage.block = some block := by
    have bound := block.bound_of_kind (by simp [isKey])
    rw [belongs] at bound
    rw [← same]
    exact (Outline.block_iff _ _ _).mpr ⟨bound, by rw [show (Tree.parseBy read text relaxedNames).outline = _ from belongs.symm]⟩
  refine ⟨.problem (unknownProperty schema (schema.resolve dialect.root) key region), ?_, rfl⟩
  refine List.mem_append_left _ (documents_report dialect ⟨schema, Tree.parseBy read text relaxedNames⟩ properties isBean 0
    document.position _ [] damage number recorded parentPath (Nat.zero_le _) (by simpa using reached) List.not_mem_nil _ ?_)
  have lookup : lookup schema (schema.resolve dialect.root) key = .unknown := by
    simp only [Validation.lookup, Schema.isUnion, isBeanToo, Bool.false_eq_true, if_false, unknownToo]
  have free : isUnconstrained schema (schema.resolve dialect.root) = false := by
    simp [isUnconstrained, Schema.isAny, Schema.isAtomic, isBeanToo]
  have bean : schema.isBean (schema.resolve dialect.root) = true := by simp [Schema.isBean, isBeanToo]
  simp only [damageFindings, placed, childBlock, isKey, keyBlock, named, shown, free, plain, bean, keyFindings, lookup,
    Bool.or_false, Bool.false_eq_true, if_false, if_true]
  exact List.mem_append_left _ (List.mem_singleton.mpr rfl)

theorem damaged_key_read (found : ∃ finding ∈ findings dialect ⟨schema, Tree.parseBy read text relaxedNames⟩,
      finding.unknownKey? = some region) : document.position < (Tree.parseBy read text relaxedNames).documents.length := by
  obtain ⟨regionEq, parentPath⟩ :=
    damage_parent_path read text relaxedNames damage member block document belongs same hangs isDocument
  obtain ⟨start, room, encloses⟩ := block.key_region_spec text relaxedNames belongs isKey region shown
  have blanked : damage.region = block.treeRegion := by
    rw [regionEq, Yaml.blankRegion]
    split
    next isKind => rw [isKey] at isKind; cases isKind
    next => rfl
  -- The key is at or below a damaged block, so this block is its own.
  have own : ∀ other ∈ (Tree.parseBy read text relaxedNames).damage,
      Block.HoldsKey ⟨(Tree.parseBy read text relaxedNames).outline, other.block⟩ region → other = damage := by
    rintro other recorded ⟨inner, innerBelongs, under, innerKey, innerShown⟩
    obtain ⟨innerStart, -⟩ := inner.key_region_spec text relaxedNames innerBelongs innerKey region innerShown
    obtain rfl := inner.key_eq_of_start text relaxedNames block innerBelongs belongs innerKey isKey
      (innerStart.symm.trans start)
    exact Tree.damage_not_nested read text relaxedNames other damage recorded member (same ▸ under)
  obtain ⟨finding, listed, isUnknown⟩ := found
  rcases List.mem_append.mp listed with found | lost
  · obtain ⟨position, root, -, isRoot, ⟨name, inside⟩ | ⟨other, recorded, starts, holds⟩⟩ :=
      documents_explained dialect ⟨schema, Tree.parseBy read text relaxedNames⟩ 0 _ [] finding region found isUnknown
    · have empty := Tree.scalar_not_damaged read text relaxedNames damage member root (List.mem_of_getElem? isRoot) name region
        inside (by rw [blanked]; exact encloses)
      omega
    · rw [own other recorded holds, parentPath] at starts
      obtain rfl : document.position = position := by simpa using starts
      exact (List.getElem?_eq_some_iff.mp isRoot).1
  · obtain ⟨other, recorded, top, holds⟩ :=
      lost_explained dialect ⟨schema, Tree.parseBy read text relaxedNames⟩ _ finding region lost isUnknown
    rw [own other recorded holds, parentPath] at top
    cases top

end

-- An unknown key at the top of a document that had to be left out is reported exactly if there is a document of the
-- same number among those that could be read.
theorem damaged_key_reported_iff (read : Yaml.TextReader) (dialect : Dialect) (options : SchemaOptions)
    (index : Option PropertyIndex) (text : String)
    (properties : List Property) (isBean : (dialect.schema options index).kind dialect.root = .bean properties)
    (damage : Damage) (member : damage ∈ (Tree.parseBy read text).damage) (block document : Block)
    (placed : (Tree.parseBy read text).outline.block? damage.block = some block) (isKey : block.kind = .key)
    (hangs : block.parent? = some document) (isDocument : document.kind = .document) (key : String) (region : Region)
    (named : block.key? = some key) (shown : block.keyRegion? = some region) (plain : isTemplated key = false)
    (unknown : (dialect.schema options index).property? dialect.root key = none) :
    (∃ problem ∈ dialect.problems options index text read, problem.kind = .unknownProperty ∧ problem.region = region) ↔
      document.position < (Tree.parseBy read text).documents.length := by
  obtain ⟨-, rfl⟩ := (Outline.block_iff _ _ _).mp placed
  rw [Dialect.problems, unknown_reported_iff]
  have spelled := Tree.parse_spelled read text options.relaxedNames
  have listed : damage ∈ (Tree.parseBy read text options.relaxedNames).damage := by rw [spelled]; exact member
  have documents : (Tree.parseBy read text).documents = (Tree.parseBy read text options.relaxedNames).documents := by rw [spelled]
  have parent : (Block.mk (Outline.ofText text options.relaxedNames) damage.block).parent? =
      some (document.spelled options.relaxedNames) := by
    have above := Block.spelled_parent options.relaxedNames ⟨(Tree.parseBy read text).outline, damage.block⟩
    rw [hangs] at above
    exact above
  rw [documents]
  constructor
  · exact damaged_key_read dialect _ read text options.relaxedNames damage listed
      ⟨Outline.ofText text options.relaxedNames, damage.block⟩ (document.spelled options.relaxedNames) rfl rfl isKey parent
      isDocument region shown
  · exact damaged_key_found dialect _ read text options.relaxedNames damage listed
      ⟨Outline.ofText text options.relaxedNames, damage.block⟩ (document.spelled options.relaxedNames) rfl rfl isKey parent
      isDocument region shown properties isBean key named plain unknown

def settings : Dialect where
  name := "settings"
  root := 1
  graph := { types := #[
    { name := "String", kind := .atomic },
    { name := "Root", kind := .bean [{ name := "known", type := 0 }] }] }

def openList : Damage :=
  ⟨⟨9, 17⟩, 3, [.index 0], some ("foo", ⟨9, 12⟩)⟩

theorem damaged_key_reported_after_known :
    (∃ problem ∈ settings.problems {} none "known: 1\nfoo: [1\n",
      problem.kind = .unknownProperty ∧ problem.region = ⟨9, 12⟩) ↔ 0 < (Tree.parse "known: 1\nfoo: [1\n").documents.length := by
  have member : openList ∈ (Tree.parse "known: 1\nfoo: [1\n").damage := by decide +kernel
  have placed : (Tree.parse "known: 1\nfoo: [1\n").outline.block? openList.block =
      some ⟨(Tree.parse "known: 1\nfoo: [1\n").outline, 3⟩ := if_pos (by decide +kernel)
  have parent : (Block.mk (Tree.parse "known: 1\nfoo: [1\n").outline 3).entry.parent = some 1 := by decide +kernel
  have position : (Block.mk (Tree.parse "known: 1\nfoo: [1\n").outline 1).position = 0 := by decide +kernel
  have reported := damaged_key_reported_iff Yaml.readText settings {} none "known: 1\nfoo: [1\n" [{ name := "known", type := 0 }] rfl
    openList member ⟨_, 3⟩ ⟨_, 1⟩ placed (by decide +kernel) (congrArg _ parent) (by decide +kernel) "foo" ⟨9, 12⟩
    (by decide +kernel) (by decide +kernel) (by decide +kernel) rfl
  rwa [position] at reported

-- Where the damaged key is all there is, no document is left to come to.
theorem lone_damaged_key_unreported : ∃ damage ∈ (Tree.parse "foo: [1\n").damage, ∃ block document : Block,
    (Tree.parse "foo: [1\n").outline.block? damage.block = some block ∧ block.kind = .key ∧
      block.parent? = some document ∧ document.kind = .document ∧ block.key? = some "foo" ∧
        block.keyRegion? = some ⟨0, 3⟩ ∧ isTemplated "foo" = false ∧
          (settings.schema {} none).property? settings.root "foo" = none ∧
            ¬ ∃ problem ∈ settings.problems {} none "foo: [1\n",
              problem.kind = .unknownProperty ∧ problem.region = ⟨0, 3⟩ := by
  have parent : (Block.mk (Tree.parse "foo: [1\n").outline 2).entry.parent = some 1 := by decide +kernel
  refine ⟨⟨⟨0, 8⟩, 2, [.index 0], some ("foo", ⟨0, 3⟩)⟩, by decide +kernel, ⟨_, 2⟩, ⟨_, 1⟩, if_pos (by decide +kernel),
    by decide +kernel, congrArg _ parent, by decide +kernel, by decide +kernel, by decide +kernel, by decide +kernel, rfl, ?_⟩
  rintro ⟨problem, member, isUnknown, -⟩
  have kinds : (settings.problems {} none "foo: [1\n").map Problem.kind = [.syntaxError] := by decide +kernel
  have listed := List.mem_map_of_mem (f := Problem.kind) member
  rw [kinds, List.mem_singleton, isUnknown] at listed
  cases listed

end Validation
end YamlDialects
