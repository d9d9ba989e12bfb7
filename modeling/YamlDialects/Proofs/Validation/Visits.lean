import YamlDialects.Validation.Document

/-!
What the validation of an undamaged tree comes to: the nodes that it visits, each with the type that is
inferred for it, and what is found at a single node. The findings of the whole walk are those of the visits,
so nothing is visited that is not listed and nothing listed is passed over.
-/

set_option autoImplicit false

namespace YamlDialects.Validation

open Yaml (Damage Node Tree)

structure Visit where
  parent : Option Region
  key : Option Region
  path : Path
  node : Node
  type : TypeId

mutual

def visits (schema : Schema) (parent key : Option Region) (declared : TypeId) (path : Path) (found : Node) : List Visit :=
  let type := schema.infer declared (nodeContext path found [])
  ⟨parent, key, path, found, type⟩ ::
    match found with
    | .scalar _ _ => []
    | .mapping entries region =>
        if isUnconstrained schema type then []
        else if schema.isBean type then propertyVisits schema region type path entries
        else if schema.isMap type then pairVisits schema region (schema.keyType? type) (schema.domain? type) path entries
        else []
    | .sequence items region =>
        if isUnconstrained schema type then []
        else
          match schema.element? type with
          | some element => elementVisits schema region element path 0 items
          | none => []

def propertyVisits (schema : Schema) (parent : Region) (type : TypeId) (path : Path) : List (Node × Node) → List Visit
  | [] => []
  | (key, value) :: rest =>
      (match checkedKey? key with
        | none => []
        | some name =>
            match (lookup schema type name).property? with
            | none => []
            | some property =>
                visits schema (some parent) (some key.region) property.type (path ++ [.value name]) value) ++
        propertyVisits schema parent type path rest

def pairVisits (schema : Schema) (parent : Region) (keyType valueType : Option TypeId) (path : Path) :
    List (Node × Node) → List Visit
  | [] => []
  | (key, value) :: rest =>
      (match key.scalar? with
        | none => []
        | some name =>
            (match keyType with
              | none => []
              | some keyType => visits schema (some parent) none keyType (path ++ [.key name]) key) ++
            (match valueType with
              | none => []
              | some valueType =>
                  visits schema (some parent) (some key.region) valueType (path ++ [.value name]) value)) ++
        pairVisits schema parent keyType valueType path rest

def elementVisits (schema : Schema) (parent : Region) (element : TypeId) (path : Path) (position : Nat) :
    List Node → List Visit
  | [] => []
  | item :: rest =>
      visits schema (some parent) none element (path ++ [.index position]) item ++
        elementVisits schema parent element path (position + 1) rest

end

theorem mem_property_visits (schema : Schema) (parent : Region) (type : TypeId) (path : Path)
    (entries : List (Node × Node)) (visit : Visit) :
    visit ∈ propertyVisits schema parent type path entries ↔ ∃ key value name property, (key, value) ∈ entries ∧
      checkedKey? key = some name ∧ (lookup schema type name).property? = some property ∧
        visit ∈ visits schema (some parent) (some key.region) property.type (path ++ [.value name]) value := by
  induction entries with
  | nil => simp [propertyVisits]
  | cons entry rest ih =>
      obtain ⟨first, held⟩ := entry
      rw [propertyVisits, List.mem_append, ih]
      constructor
      · rintro (here | ⟨key, value, name, property, member, found⟩)
        · cases checked : checkedKey? first with
          | none => simp [checked] at here
          | some name =>
              cases known : (lookup schema type name).property? with
              | none => simp [checked, known] at here
              | some property =>
                  exact ⟨first, held, name, property, by simp, checked, known, by simpa [checked, known] using here⟩
        · exact ⟨key, value, name, property, by simp [member], found⟩
      · rintro ⟨key, value, name, property, member, checked, known, inside⟩
        rcases List.mem_cons.mp member with same | later
        · obtain ⟨rfl, rfl⟩ := Prod.mk.inj same
          exact .inl (by simpa [checked, known] using inside)
        · exact .inr ⟨key, value, name, property, later, checked, known, inside⟩

theorem mem_pair_visits (schema : Schema) (parent : Region) (keyType valueType : TypeId) (path : Path)
    (entries : List (Node × Node)) (visit : Visit) :
    visit ∈ pairVisits schema parent (some keyType) (some valueType) path entries ↔
      ∃ key value name, (key, value) ∈ entries ∧ key.scalar? = some name ∧
        (visit ∈ visits schema (some parent) none keyType (path ++ [.key name]) key ∨
          visit ∈ visits schema (some parent) (some key.region) valueType (path ++ [.value name]) value) := by
  induction entries with
  | nil => simp [pairVisits]
  | cons entry rest ih =>
      obtain ⟨first, held⟩ := entry
      rw [pairVisits, List.mem_append, ih]
      constructor
      · rintro (here | ⟨key, value, name, member, found⟩)
        · cases named : first.scalar? with
          | none => simp [named] at here
          | some name => exact ⟨first, held, name, by simp, named, by simpa [named] using here⟩
        · exact ⟨key, value, name, by simp [member], found⟩
      · rintro ⟨key, value, name, member, named, inside⟩
        rcases List.mem_cons.mp member with same | later
        · obtain ⟨rfl, rfl⟩ := Prod.mk.inj same
          exact .inl (by simpa [named] using inside)
        · exact .inr ⟨key, value, name, later, named, inside⟩

theorem mem_element_visits (schema : Schema) (parent : Region) (element : TypeId) (path : Path) (position : Nat)
    (items : List Node) (visit : Visit) :
    visit ∈ elementVisits schema parent element path position items ↔
      ∃ index item, items[index]? = some item ∧
        visit ∈ visits schema (some parent) none element (path ++ [.index (position + index)]) item := by
  induction items generalizing position with
  | nil => simp [elementVisits]
  | cons first rest ih =>
      rw [elementVisits, List.mem_append, ih]
      constructor
      · rintro (here | ⟨index, item, found, inside⟩)
        · exact ⟨0, first, by simp, by simpa using here⟩
        · exact ⟨index + 1, item, by simpa using found, by rwa [Nat.add_comm index, ← Nat.add_assoc]⟩
      · rintro ⟨index, item, found, inside⟩
        cases index with
        | zero =>
            obtain rfl : first = item := by simpa using found
            exact .inl (by simpa using inside)
        | succ index => exact .inr ⟨index, item, by simpa using found, by rwa [Nat.add_assoc, Nat.add_comm 1]⟩

def entryFindings (schema : Schema) (type : TypeId) (key : Node) : List Finding :=
  match checkedKey? key with
  | none => []
  | some name => keyFindings schema type name key.region

def Visit.findings (schema : Schema) (visit : Visit) : List Finding :=
  let inside :=
    match visit.node with
    | .scalar text region =>
        if visit.node.isEmptyScalar || isTemplated text then [] else valueFindings schema visit.type text region
    | .mapping entries region =>
        duplicateFindings entries ++
          (if isUnconstrained schema visit.type then []
          else if schema.isBean visit.type then
            (entries.flatMap fun (key, _) => entryFindings schema visit.type key) ++
              absentFindings schema visit.type (entries.filterMap fun (key, _) => checkedKey? key) (visit.key.getD region)
          else if schema.isMap visit.type then []
          else [mismatch schema visit.type "Map" region])
    | .sequence _ region =>
        if isUnconstrained schema visit.type || (schema.element? visit.type).isSome then []
        else [mismatch schema visit.type "Sequence" region]
  inside ++ checks (schema.constraints visit.type) (nodeContext visit.path visit.node [])
    { parent := visit.parent, node := visit.node.region, key := visit.key, typeName := schema.ownName visit.type
      found := foundKeys visit.node [] }

-- The walk leaves its state as it was, and finds what its visits find, apart from findings of its own.
def Walks (schema : Schema) (walk : StateM Handled (List Finding)) (visited : List Visit) (own : List Finding) : Prop :=
  ∀ handled, ∃ found, walk.run handled = (found, handled) ∧ found.Perm (own ++ visited.flatMap (Visit.findings schema))

theorem walks_pure (schema : Schema) (own : List Finding) : Walks schema (pure own) [] own := by
  intro handled
  exact ⟨own, rfl, by simp⟩

theorem walks_around (schema : Schema) (walk : StateM Handled (List Finding)) (visited : List Visit)
    (own before after : List Finding) (walks : Walks schema walk visited own) :
    Walks schema (walk >>= fun found => pure (before ++ found ++ after)) visited (before ++ own ++ after) := by
  intro handled
  obtain ⟨found, runs, perm⟩ := walks handled
  refine ⟨before ++ found ++ after, ?_, ?_⟩
  · simp only [StateT.run_bind, runs]
    rfl
  · have swap : (visited.flatMap (Visit.findings schema) ++ after).Perm (after ++ visited.flatMap (Visit.findings schema)) :=
      List.perm_append_comm
    refine ((perm.append_left before).append_right after).trans ?_
    simpa using (swap.append_left own).append_left before

theorem walks_append (schema : Schema) (first second : StateM Handled (List Finding)) (firstVisited secondVisited : List Visit)
    (firstOwn secondOwn : List Finding) (firstWalks : Walks schema first firstVisited firstOwn)
    (secondWalks : Walks schema second secondVisited secondOwn) :
    Walks schema (first >>= fun found => second >>= fun further => pure (found ++ further))
      (firstVisited ++ secondVisited) (firstOwn ++ secondOwn) := by
  intro handled
  obtain ⟨found, firstRuns, firstPerm⟩ := firstWalks handled
  obtain ⟨further, secondRuns, secondPerm⟩ := secondWalks handled
  refine ⟨found ++ further, ?_, ?_⟩
  · simp only [StateT.run_bind, firstRuns]
    change (second >>= fun further => pure (found ++ further)).run handled = _
    simp only [StateT.run_bind, secondRuns]
    rfl
  · have swap : (firstVisited.flatMap (Visit.findings schema) ++ secondOwn).Perm
        (secondOwn ++ firstVisited.flatMap (Visit.findings schema)) := List.perm_append_comm
    refine (firstPerm.append secondPerm).trans ?_
    simpa using (swap.append_right (secondVisited.flatMap (Visit.findings schema))).append_left firstOwn

theorem walks_undamaged (validation : Validation) (path : Path) (rest : List Damage → StateM Handled (List Finding))
    (visited : List Visit) (own : List Finding) (whole : validation.tree.damage = [])
    (walks : Walks validation.schema (rest []) visited own) :
    Walks validation.schema (validation.takeDamage path >>= rest) visited own := by
  intro handled
  obtain ⟨found, runs, perm⟩ := walks handled
  refine ⟨found, ?_, perm⟩
  have taken : (validation.takeDamage path).run handled = ([], handled) := by
    simp only [takeDamage, whole, List.zipIdx_nil, List.filter_nil, List.map_nil, List.append_nil]
    rfl
  rw [StateT.run_bind, taken]
  exact runs

theorem walks_visit (schema : Schema) (walk : StateM Handled (List Finding)) (visit : Visit) (below : List Visit)
    (inside deferred : List Finding) (findings : visit.findings schema = inside ++ deferred)
    (walks : Walks schema walk below inside) :
    Walks schema (walk >>= fun found => pure (found ++ deferred)) (visit :: below) [] := by
  intro handled
  obtain ⟨found, runs, perm⟩ := walks_around schema walk below inside [] deferred walks handled
  refine ⟨found, by simpa using runs, ?_⟩
  rw [List.flatMap_cons, findings]
  simpa using perm

mutual

theorem node_walks (validation : Validation) (whole : validation.tree.damage = []) (parent key : Option Region)
    (declared : TypeId) (path : Path) (found : Node) :
    Walks validation.schema (validation.node parent key declared path found)
      (visits validation.schema parent key declared path found) [] := by
  rw [node, visits.eq_def]
  apply walks_undamaged validation path _ _ _ whole
  simp only [damagedKeys, List.filterMap_nil, List.flatMap_nil, List.append_nil, List.isEmpty_nil, Bool.not_true,
    Bool.or_false, List.map_nil]
  generalize inferred : validation.schema.infer declared (nodeContext path found []) = type
  cases found with
  | scalar text region =>
      by_cases passed : ((Node.scalar text region).isEmptyScalar || isTemplated text) = true
      · simp only [passed, if_true]
        exact walks_visit _ _ _ _ [] _ (by simp [Visit.findings, passed]) (walks_pure _ _)
      · simp only [passed, Bool.false_eq_true, if_false]
        exact walks_visit _ _ _ _ _ _ (by simp [Visit.findings, passed]) (walks_pure _ _)
  | mapping entries region =>
      by_cases free : isUnconstrained validation.schema type = true
      · simp only [free, if_true]
        exact walks_visit _ _ _ _ _ _ (by simp [Visit.findings, free]) (walks_pure _ _)
      · by_cases isBean : validation.schema.isBean type = true
        · simp only [free, isBean, if_true, Bool.false_eq_true, if_false]
          have inside := walks_around _ _ _ _ (duplicateFindings entries) (absentFindings validation.schema type
            (entries.filterMap fun (key, _) => checkedKey? key) (key.getD region))
            (properties_walks validation whole region type path entries)
          simpa only [bind_assoc, pure_bind] using walks_visit _ _ _ _ _ _ (by simp [Visit.findings, free, isBean]) inside
        · by_cases isMap : validation.schema.isMap type = true
          · simp only [free, isBean, isMap, if_true, Bool.false_eq_true, if_false]
            have inside := walks_around _ _ _ _ (duplicateFindings entries) [] (pairs_walks validation whole region
              (validation.schema.keyType? type) (validation.schema.domain? type) path entries)
            simpa only [bind_assoc, pure_bind, List.append_nil] using
              walks_visit _ _ _ _ _ _ (by simp [Visit.findings, free, isBean, isMap]) inside
          · simp only [free, isBean, isMap, Bool.false_eq_true, if_false]
            exact walks_visit _ _ _ _ _ _ (by simp [Visit.findings, free, isBean, isMap]) (walks_pure _ _)
  | sequence items region =>
      by_cases free : isUnconstrained validation.schema type = true
      · simp only [free, if_true]
        exact walks_visit _ _ _ _ [] _ (by simp [Visit.findings, free]) (walks_pure _ _)
      · simp only [free, Bool.false_eq_true, if_false]
        cases known : validation.schema.element? type with
        | none => exact walks_visit _ _ _ _ _ _ (by simp [Visit.findings, free, known]) (walks_pure _ _)
        | some element =>
            exact walks_visit _ _ _ _ [] _ (by simp [Visit.findings, free, known])
              (elements_walks validation whole region element path 0 items)

theorem properties_walks (validation : Validation) (whole : validation.tree.damage = []) (parent : Region)
    (type : TypeId) (path : Path) (entries : List (Node × Node)) :
    Walks validation.schema (validation.properties parent type path entries)
      (propertyVisits validation.schema parent type path entries)
      (entries.flatMap fun (key, _) => entryFindings validation.schema type key) := by
  match entries with
  | [] =>
      rw [properties, propertyVisits]
      exact walks_pure _ _
  | (key, value) :: rest =>
      have later := properties_walks validation whole parent type path rest
      rw [properties, propertyVisits, List.flatMap_cons]
      dsimp only
      cases checked : checkedKey? key with
      | none =>
          rw [show entryFindings validation.schema type key = [] by simp [entryFindings, checked]]
          exact walks_append _ _ _ _ _ _ _ (walks_pure _ _) later
      | some name =>
          rw [show entryFindings validation.schema type key = keyFindings validation.schema type name key.region by
            simp [entryFindings, checked]]
          dsimp only
          cases (lookup validation.schema type name).property? with
          | none => exact walks_append _ _ _ _ _ _ _ (walks_pure _ _) later
          | some property =>
              have first := walks_around _ _ _ _ (keyFindings validation.schema type name key.region) []
                (node_walks validation whole (some parent) (some key.region) property.type (path ++ [.value name]) value)
              simpa only [bind_assoc, pure_bind, List.append_nil] using walks_append _ _ _ _ _ _ _ first later

theorem pairs_walks (validation : Validation) (whole : validation.tree.damage = []) (parent : Region)
    (keyType valueType : Option TypeId) (path : Path) (entries : List (Node × Node)) :
    Walks validation.schema (validation.pairs parent keyType valueType path entries)
      (pairVisits validation.schema parent keyType valueType path entries) [] := by
  match entries with
  | [] =>
      rw [pairs, pairVisits]
      exact walks_pure _ _
  | (key, value) :: rest =>
      have later := pairs_walks validation whole parent keyType valueType path rest
      rw [pairs, pairVisits]
      cases key.scalar? with
      | none => exact walks_append _ _ _ _ _ [] [] (walks_pure _ _) later
      | some name =>
          have keys : ∀ keyType, Walks validation.schema
              (validation.node (some parent) none keyType (path ++ [.key name]) key) _ [] :=
            fun keyType => node_walks validation whole (some parent) none keyType (path ++ [.key name]) key
          have values : ∀ valueType, Walks validation.schema
              (validation.node (some parent) (some key.region) valueType (path ++ [.value name]) value) _ [] :=
            fun valueType =>
              node_walks validation whole (some parent) (some key.region) valueType (path ++ [.value name]) value
          cases keyType with
          | none =>
              cases valueType with
              | none => exact walks_append _ _ _ _ _ [] [] (walks_pure _ _) later
              | some valueType => simpa using walks_append _ _ _ _ _ [] [] (values valueType) later
          | some keyType =>
              cases valueType with
              | none => simpa using walks_append _ _ _ _ _ [] [] (keys keyType) later
              | some valueType =>
                  have first := walks_append _ _ _ _ _ [] [] (keys keyType) (values valueType)
                  simpa only [bind_assoc, pure_bind, List.append_nil] using walks_append _ _ _ _ _ [] [] first later

theorem elements_walks (validation : Validation) (whole : validation.tree.damage = []) (parent : Region)
    (element : TypeId) (path : Path) (position : Nat) (items : List Node) :
    Walks validation.schema (validation.elements parent element path position items)
      (elementVisits validation.schema parent element path position items) [] := by
  match items with
  | [] =>
      rw [elements, elementVisits]
      exact walks_pure _ _
  | item :: rest =>
      rw [elements, elementVisits]
      exact walks_append _ _ _ _ _ [] []
        (node_walks validation whole (some parent) none element (path ++ [.index position]) item)
        (elements_walks validation whole parent element path (position + 1) rest)

end

def rootType (dialect : Dialect) (schema : Schema) (position : Nat) (root : Node) : TypeId :=
  schema.infer dialect.root (nodeContext [.index position] root [])

def documentVisits (dialect : Dialect) (schema : Schema) (position : Nat) : List Node → List Visit
  | [] => []
  | root :: rest =>
      visits schema none none (rootType dialect schema position root) [.index position] root ++
        documentVisits dialect schema (position + 1) rest

theorem mem_document_visits (dialect : Dialect) (schema : Schema) (position : Nat) (roots : List Node) (visit : Visit) :
    visit ∈ documentVisits dialect schema position roots ↔ ∃ index root, roots[index]? = some root ∧
      visit ∈ visits schema none none (rootType dialect schema (position + index) root)
        [.index (position + index)] root := by
  induction roots generalizing position with
  | nil => simp [documentVisits]
  | cons first rest ih =>
      rw [documentVisits, List.mem_append, ih]
      constructor
      · rintro (here | ⟨index, root, found, inside⟩)
        · exact ⟨0, first, by simp, by simpa using here⟩
        · exact ⟨index + 1, root, by simpa using found, by rwa [Nat.add_comm index, ← Nat.add_assoc]⟩
      · rintro ⟨index, root, found, inside⟩
        cases index with
        | zero =>
            obtain rfl : first = root := by simpa using found
            exact .inl (by simpa using inside)
        | succ index => exact .inr ⟨index, root, by simpa using found, by rwa [Nat.add_assoc, Nat.add_comm 1]⟩

def documentChecks (dialect : Dialect) (schema : Schema) (position : Nat) : List Node → List Finding
  | [] => []
  | root :: rest =>
      checks dialect.constraints (nodeContext [.index position] root [])
        { parent := none, node := root.region, key := none
          typeName := schema.ownName (rootType dialect schema position root), found := foundKeys root [] } ++
        documentChecks dialect schema (position + 1) rest

theorem documents_walks (dialect : Dialect) (validation : Validation) (whole : validation.tree.damage = []) (position : Nat)
    (roots : List Node) :
    Walks validation.schema (documents dialect validation position roots)
      (documentVisits dialect validation.schema position roots) (documentChecks dialect validation.schema position roots) := by
  induction roots generalizing position with
  | nil => exact walks_pure _ _
  | cons root rest ih =>
      rw [documents, documentVisits, documentChecks]
      refine walks_append _ _ _ _ _ _ _ ?_ (ih (position + 1))
      have inside := walks_around _ _ _ _ (checks dialect.constraints (nodeContext [.index position] root [])
        { parent := none, node := root.region, key := none
          typeName := validation.schema.ownName (rootType dialect validation.schema position root)
          found := foundKeys root [] }) []
        (node_walks validation whole none none (rootType dialect validation.schema position root) [.index position] root)
      simp only [List.append_nil] at inside
      simpa only [document, whole, List.filter_nil, damagedKeys, List.filterMap_nil, rootType] using inside

theorem findings_perm (dialect : Dialect) (validation : Validation) (whole : validation.tree.damage = []) :
    (findings dialect validation).Perm (documentChecks dialect validation.schema 0 validation.tree.documents ++
      (documentVisits dialect validation.schema 0 validation.tree.documents).flatMap
        (Visit.findings validation.schema)) := by
  have lost : Walks validation.schema (lostDocuments dialect validation) [] [] :=
    walks_undamaged validation [] _ _ _ whole (walks_pure _ _)
  have all := walks_append _ _ _ _ _ _ _ (documents_walks dialect validation whole 0 validation.tree.documents) lost
  simp only [List.append_nil] at all
  obtain ⟨found, runs, perm⟩ := all []
  have same : findings dialect validation = found := congrArg Prod.fst runs
  rw [same]
  exact perm

end YamlDialects.Validation
