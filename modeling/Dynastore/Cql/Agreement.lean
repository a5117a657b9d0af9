import Dynastore.Cql.Elasticsearch
import Mathlib.Data.String.Basic

/-! Elasticsearch knows two truth values: a comparison with a missing field does not select, and its
negation does. SQL leaves both undecided. -/

namespace Dynastore.Cql

section Agreement

variable {stores : Stores Scalar} {mappings : Mappings} {item : Item Scalar}
  {analyzed : String → Option Scalar → Bool} {document : EsDocument Scalar}

def Indexed (mappings : Mappings) (item : Item Scalar) (document : EsDocument Scalar) : Prop :=
  ∀ name path, mappings.field.lookup name = some path → document path = item name

def Ast.Mapped (mappings : Mappings) (ast : Ast Scalar) : Prop :=
  ∀ name ∈ ast.attributes, (mappings.field.lookup name).isSome

/-! ## Operands -/

variable {operand : Operand Scalar}

theorem evaluate_attribute (indexed : Indexed mappings item document)
    (isAttribute : operand.isAttribute)
    (mapped : ∀ name ∈ operand.attributes, (mappings.field.lookup name).isSome) :
    ∃ field, operand.evaluate stores mappings = .ok field ∧
      document (stores.key field) = operand.value item := by
  cases operand with
  | literal => cases isAttribute
  | attr name =>
    obtain ⟨path, found⟩ := Option.isSome_iff_exists.mp (mapped name (List.mem_singleton_self _))
    refine ⟨stores.text path, ?_, ?_⟩
    · rw [Operand.evaluate, found]
    · rw [stores.key_text]
      exact indexed name path found

theorem evaluate_literal (isLiteral : operand.isAttribute = false) :
    ∃ value, operand.evaluate stores mappings = .ok value ∧ operand.value item = some value := by
  cases operand with
  | literal value => exact ⟨value, rfl, rfl⟩
  | attr => cases isLiteral

theorem compared_some :
    compared holds left (some right) = left.map fun value => holds value right := by
  cases left <;> rfl

/-- A property is compared with a literal. -/
theorem evaluate_compared {lhs rhs : Operand Scalar} (indexed : Indexed mappings item document)
    (placed : (lhs.isAttribute && !rhs.isAttribute) = true)
    (mapped : ∀ name ∈ lhs.attributes ++ rhs.attributes, (mappings.field.lookup name).isSome) :
    ∃ field right, lhs.evaluate stores mappings = .ok field ∧
      rhs.evaluate stores mappings = .ok right ∧
      ∀ holds, compared holds (lhs.value item) (rhs.value item) =
        (document (stores.key field)).map (holds · right) := by
  rw [Bool.and_eq_true, Bool.not_eq_true'] at placed
  obtain ⟨field, leftQuery, held⟩ := evaluate_attribute indexed placed.1
    fun name mem => mapped name (List.mem_append_left _ mem)
  obtain ⟨right, rightQuery, rightValue⟩ := evaluate_literal placed.2
  refine ⟨field, right, leftQuery, rightQuery, fun _ => ?_⟩
  rw [held, rightValue, compared_some]

/-- The literals of an `IN` list are evaluated one by one. -/
theorem evaluate_literals {operands : List (Operand Scalar)}
    (literals : ∀ operand ∈ operands, operand.isAttribute = false) :
    ∃ values, operands.mapM (Operand.evaluate stores mappings) = .ok values ∧
      operands.map (Operand.value item) = values.map some := by
  induction operands with
  | nil => exact ⟨[], rfl, rfl⟩
  | cons operand _ ih =>
    obtain ⟨value, evaluated, held⟩ :=
      evaluate_literal (literals operand (.head _))
    obtain ⟨values, others, heldOthers⟩ :=
      ih fun other mem => literals other (.tail _ mem)
    refine ⟨value :: values, ?_, ?_⟩
    · rw [List.mapM_cons, evaluated, others]
      rfl
    · rw [List.map_cons, held, heldOthers, List.map_cons]

/-! ## Comparisons -/

theorem and_map_map (value : Option Scalar) (left right : Scalar → Bool) :
    Kleene.and (value.map left) (value.map right) =
      value.map fun content => left content && right content := by
  cases value with
  | none => rfl
  | some content =>
    simp only [Option.map_some]
    cases left content <;> cases right content <;> rfl

variable [LinearOrder Scalar]

theorem withinBounds_range (op : ComparisonOp) (bound : Scalar) (field : String) :
    selects stores analyzed document (op.range field bound) =
      (document field).any fun value => op.holds value bound := by
  have same : ∀ value, withinBounds (if op = .lt then some bound else none)
      (if op = .le then some bound else none) (if op = .gt then some bound else none)
      (if op = .ge then some bound else none) value = op.holds value bound := by
    cases op <;> simp [withinBounds, ComparisonOp.holds]
  rw [← funext same]
  cases op <;> rw [ComparisonOp.range, selects] <;> rfl

/-- `IN` over literals, for a value that may be missing. -/
theorem any_compared (negated : Bool) (left : Option Scalar) (values : List Scalar) :
    (Kleene.negateIf negated
        (Kleene.any (values.map fun value => compared (· == ·) left (some value)))).getD negated =
      (negated ^^ left.any values.contains) := by
  cases left with
  | some content =>
    have decided : (values.map fun value => compared (· == ·) (some content) (some value)) =
        (values.map (content == ·)).map some := by
      rw [List.map_map]
      rfl
    have found : (values.map (content == ·)).any id = values.contains content := by
      rw [List.any_map, List.contains_eq_any_beq]
      rfl
    rw [decided, Kleene.any_of_some, found]
    cases negated <;> simp [Kleene.negateIf, Kleene.not]
  | none =>
    cases values with
    | nil => cases negated <;> rfl
    | cons =>
      rw [Kleene.any_of_none (by simp [compared]) (by simp)]
      cases negated <;> rfl

theorem reads_comparison {α : Type} {value : Option α} {holds : α → Bool}
    (selected : selects stores analyzed document query = value.any holds) :
    selects stores analyzed document (.negateIf negated query) =
      (Kleene.negateIf negated (value.map holds)).getD negated := by
  rw [selects_negateIf, selected, Kleene.getD_negateIf_map]

/-! ## Filters -/

/-- The properties a `LIKE` of the filter is about are not analyzed. -/
def Ast.Keyword (mappings : Mappings) : Ast Scalar → Prop
  | .and lhs rhs | .or lhs rhs => lhs.Keyword mappings ∧ rhs.Keyword mappings
  | .not subNode => subNode.Keyword mappings
  | .like lhs .. => fulltextPath mappings lhs = none
  | _ => True

theorem selects_translation (indexed : Indexed mappings item document)
    (mapped : ast.Mapped mappings) (keyword : ast.Keyword mappings) (placed : ast.placed)
    (plain : ast.plain) :
    ∃ query, cqlAstToEsQuery stores mappings ast = .ok query ∧
      selects stores analyzed document query =
        (ast.value stores item).getD (ast.undecidedByNegation stores item) := by
  induction ast with
  | and _ _ leftHolds rightHolds =>
    rw [Ast.placed, Bool.and_eq_true] at placed
    rw [Ast.plain, Bool.and_eq_true] at plain
    obtain ⟨left, leftQuery, leftReads⟩ := leftHolds
      (fun name mem => mapped name (List.mem_append_left _ mem)) keyword.1 placed.1 plain.1
    obtain ⟨right, rightQuery, rightReads⟩ := rightHolds
      (fun name mem => mapped name (List.mem_append_right _ mem)) keyword.2 placed.2
      plain.2
    refine ⟨.bool [left, right] [] [] none, ?_, ?_⟩
    · rw [cqlAstToEsQuery, leftQuery, rightQuery]
      rfl
    · rw [selects_filter, leftReads, rightReads, Ast.value, Ast.undecidedByNegation,
        Kleene.getD_and]
  | or _ _ leftHolds rightHolds =>
    rw [Ast.placed, Bool.and_eq_true] at placed
    rw [Ast.plain, Bool.and_eq_true] at plain
    obtain ⟨left, leftQuery, leftReads⟩ := leftHolds
      (fun name mem => mapped name (List.mem_append_left _ mem)) keyword.1 placed.1 plain.1
    obtain ⟨right, rightQuery, rightReads⟩ := rightHolds
      (fun name mem => mapped name (List.mem_append_right _ mem)) keyword.2 placed.2
      plain.2
    refine ⟨.bool [] [left, right] [] (some 1), ?_, ?_⟩
    · rw [cqlAstToEsQuery, leftQuery, rightQuery]
      rfl
    · rw [selects_should, leftReads, rightReads, Ast.value, Ast.undecidedByNegation, Kleene.getD_or]
  | not _ holds =>
    obtain ⟨query, translated, reads⟩ := holds mapped keyword placed plain
    refine ⟨.bool [] [] [query] none, ?_, ?_⟩
    · rw [cqlAstToEsQuery, translated]
      rfl
    · rw [selects_mustNot, reads, Ast.value, Ast.undecidedByNegation, Kleene.getD_not]
  | equal =>
    obtain ⟨field, right, leftQuery, rightQuery, compares⟩ :=
      evaluate_compared indexed placed mapped
    refine ⟨.negateIf false (.term (stores.key field) right), ?_, ?_⟩
    · rw [cqlAstToEsQuery, leftQuery, rightQuery]
      rfl
    · rw [Ast.value, compares]
      exact reads_comparison (by rw [selects])
  | notEqual =>
    obtain ⟨field, right, leftQuery, rightQuery, compares⟩ :=
      evaluate_compared indexed placed mapped
    refine ⟨.negateIf true (.term (stores.key field) right), ?_, ?_⟩
    · rw [cqlAstToEsQuery, leftQuery, rightQuery]
      rfl
    · rw [Ast.value, compares]
      exact reads_comparison (by rw [selects])
  | comparison op =>
    obtain ⟨field, right, leftQuery, rightQuery, compares⟩ :=
      evaluate_compared indexed placed mapped
    refine ⟨.negateIf false (op.range (stores.key field) right), ?_, ?_⟩
    · rw [cqlAstToEsQuery, leftQuery, rightQuery]
      rfl
    · rw [Ast.value, compares]
      exact reads_comparison (withinBounds_range op right _)
  | between _ _ _ negated =>
    simp only [Ast.placed, Bool.and_eq_true, Bool.not_eq_true'] at placed
    obtain ⟨field, leftQuery, held⟩ := evaluate_attribute indexed placed.1.1
      fun name mem => mapped name (List.mem_append_left _ (List.mem_append_left _ mem))
    obtain ⟨lower, lowQuery, lowValue⟩ := evaluate_literal placed.1.2
    obtain ⟨upper, highQuery, highValue⟩ := evaluate_literal placed.2
    refine ⟨.negateIf negated (.range (stores.key field) none (some upper) none (some lower)),
      ?_, ?_⟩
    · rw [cqlAstToEsQuery, leftQuery, lowQuery, highQuery]
      rfl
    · rw [Ast.value, lowValue, highValue, compared_some, compared_some, and_map_map]
      refine reads_comparison ?_
      rw [selects, held]
      congr 1
      funext value
      simp [withinBounds, ComparisonOp.holds, Bool.and_comm]
  | isIn lhs subNodes negated =>
    simp only [Ast.placed, Bool.and_eq_true, List.all_eq_true, Bool.not_eq_true'] at placed
    obtain ⟨field, leftQuery, held⟩ := evaluate_attribute indexed placed.1
      fun name mem => mapped name (List.mem_append_left _ mem)
    obtain ⟨values, options, heldOptions⟩ := evaluate_literals placed.2
    refine ⟨.negateIf negated (.terms (stores.key field) values), ?_, ?_⟩
    · rw [cqlAstToEsQuery, leftQuery, options]
      rfl
    · have compares : (subNodes.map fun node =>
            compared (· == ·) (lhs.value item) (node.value item)) =
          values.map fun value => compared (· == ·) (lhs.value item) (some value) := by
        have composed := congrArg (List.map (compared (· == ·) (lhs.value item))) heldOptions
        simpa only [List.map_map, Function.comp_def] using composed
      rw [selects_negateIf, selects, held, Ast.value, compares]
      exact (any_compared negated _ _).symm
  | like lhs pattern nocase chars negated =>
    obtain ⟨field, leftQuery, held⟩ := evaluate_attribute indexed placed mapped
    refine ⟨.negateIf negated
      (.wildcard (stores.key field) (likeToWildcard chars pattern) nocase), ?_, ?_⟩
    · rw [cqlAstToEsQuery, leftQuery]
      simp only [show fulltextPath mappings lhs = none from keyword]
      rfl
    · refine reads_comparison ?_
      rw [selects, held, likeToWildcard, String.toList_ofList]
      simp only [LikeSyntax.decide_fits]
      exact congrArg (fun tokens => Option.any (fun value =>
        Glob.matchesBy (stores.same nocase) tokens (stores.key value).toList) _)
        (readBack_of_plain plain)
  | isNull lhs negated =>
    obtain ⟨field, leftQuery, held⟩ := evaluate_attribute indexed placed mapped
    refine ⟨.negateIf (!negated) (.fieldExists (stores.key field)), ?_, ?_⟩
    · rw [cqlAstToEsQuery, leftQuery]
      rfl
    · rw [selects_negateIf, selects, held, Ast.value]
      cases lhs.value item <;> cases negated <;> rfl

/-- For mapped properties compared with literals and plain patterns, the query of
a filter selects an item just as the filter is true for it, exactly where the
filter is decided for the item or not undecided by negation. A `LIKE` pattern
that is not plain selects otherwise for some item. -/
theorem es_selects_iff_sql_true (stores : Stores Scalar) (mappings : Mappings)
    (analyzed : String → Option Scalar → Bool) :
    (∀ (item : Item Scalar) (document : EsDocument Scalar), Indexed mappings item document →
      ∀ ast : Ast Scalar, ast.Mapped mappings → ast.Keyword mappings → ast.placed = true →
        ast.plain = true → ∃ query, cqlAstToEsQuery stores mappings ast = .ok query ∧
            ((selects stores analyzed document query = true ↔ ast.value stores item = some true) ↔
              (ast.value stores item).isSome = true ∨
                ast.undecidedByNegation stores item = false)) ∧
    (∀ name pattern chars, (mappings.field.lookup name).isSome →
      fulltextPath mappings (.attr name : Operand Scalar) = none →
      plainTokens (chars.iterLikeTokens pattern.toList) = false →
        ∃ (item : Item Scalar) (document : EsDocument Scalar) (query : EsQuery Scalar),
          Indexed mappings item document ∧
          cqlAstToEsQuery stores mappings (.like (.attr name) pattern false chars false) =
            .ok query ∧
          ¬ (selects stores analyzed document query = true ↔
            (Ast.like (.attr name) pattern false chars false).value stores item = some true)) := by
  constructor
  · intro item _ indexed _ mapped keyword placed plain
    obtain ⟨query, translated, reads⟩ :=
      selects_translation indexed mapped keyword placed plain
    refine ⟨query, translated, ?_⟩
    rw [reads]
    exact Kleene.getD_iff
  · intro _ pattern chars mapped keyword marred
    obtain ⟨path, found⟩ := Option.isSome_iff_exists.mp mapped
    obtain ⟨text, misread⟩ := exists_misread marred
    -- an item that has this text in every property
    refine ⟨fun _ => some (stores.text (String.ofList text)),
      fun _ => some (stores.text (String.ofList text)),
      .wildcard path (likeToWildcard chars pattern) false, fun _ _ _ => rfl, ?_, ?_⟩
    · simp only [cqlAstToEsQuery, Operand.evaluate, found, keyword]
      exact congrArg
        (fun field => Except.ok (EsQuery.wildcard field (likeToWildcard chars pattern) false))
        (stores.key_text path)
    · intro agrees
      apply misread
      rw [selects, Option.any_some, Ast.value, Operand.value, Option.map_some, stores.key_text,
        likeToWildcard, String.toList_ofList, String.toList_ofList,
        LikeSyntax.decide_fits] at agrees
      rw [Bool.eq_iff_iff]
      exact agrees.trans ⟨Option.some.inj, congrArg some⟩

end Agreement

/-! ## Cases -/

def texts : Stores String where
  text := id
  key := id
  key_text _ := rfl
  sameLetter left right := left.toLower == right.toLower

def itemMappings : Mappings where
  field := [("status", "properties.status.keyword"), ("title", "properties.title.keyword")]

def untagged : Item String := fun name => if name = "title" then some "draft*2" else none

def untaggedDocument : EsDocument String := fun path =>
  if path = "properties.title.keyword" then some "draft*2" else none

theorem untagged_indexed : Indexed itemMappings untagged untaggedDocument := by
  intro _ _ found
  simp only [itemMappings, List.lookup_cons, List.lookup_nil] at found
  split at found
  next same =>
    cases found
    rw [beq_iff_eq] at same
    rw [same]
    rfl
  · split at found
    next same =>
      cases found
      rw [beq_iff_eq] at same
      rw [same]
      rfl
    · cases found

def titled : Ast String :=
  .and (.like (.attr "title") "draft%" false {} false)
    (.not (.equal (.attr "title") (.literal "final")))

theorem es_selects_iff_sql_true_titled :
    ∃ query, cqlAstToEsQuery texts itemMappings titled = .ok query ∧
      (selects texts (fun _ _ => false) untaggedDocument query = true ↔
        titled.value texts untagged = some true) := by
  obtain ⟨query, translated, exactly⟩ :=
    (es_selects_iff_sql_true texts itemMappings fun _ _ => false).1 untagged untaggedDocument
      untagged_indexed titled (by simp [Ast.Mapped, titled, Ast.attributes, Operand.attributes,
        itemMappings]) ⟨rfl, trivial⟩ rfl (by decide)
  exact ⟨query, translated, exactly.mpr (.inl (by decide))⟩

/-- `NOT status = 'draft'` on an item without a status, `title LIKE 'draft*'`
with a literal star, and `title = title`. -/
theorem es_differs_from_sql : (∃ query, cqlAstToEsQuery texts itemMappings
        (.not (.equal (.attr "status") (.literal "draft"))) = .ok query ∧
      selects texts (fun _ _ => false) untaggedDocument query = true ∧
      (Ast.not (.equal (.attr "status") (.literal "draft"))).value texts untagged ≠ some true) ∧
    (∃ query, cqlAstToEsQuery texts itemMappings
        (.like (.attr "title") "draft*" false {} false) = .ok query ∧
      selects texts (fun _ _ => false) untaggedDocument query = true ∧
      (Ast.like (.attr "title") "draft*" false {} false).value texts untagged ≠ some true) ∧
    (∃ query, cqlAstToEsQuery texts itemMappings
        (.equal (.attr "title") (.attr "title")) = .ok query ∧
      selects texts (fun _ _ => false) untaggedDocument query = false ∧
      (Ast.equal (.attr "title") (.attr "title")).value texts untagged = some true) := by
  refine ⟨⟨_, rfl, ?_, ?_⟩, ⟨_, rfl, ?_, ?_⟩, ⟨_, rfl, ?_, ?_⟩⟩
  all_goals decide

end Dynastore.Cql
