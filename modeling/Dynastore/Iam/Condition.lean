import Dynastore.Access.Filter

/-! The condition tree of a policy, its evaluation against a request by the registered handlers, and
its compilation against a principal into document predicates. -/

namespace Dynastore.Iam

open Access (FieldPredicate)

inductive Effect where
  | allow
  | deny
deriving DecidableEq

inductive MatchOperator where
  | eq
  | neq
  | contains
  | regex
  | gt
  | lt
  | isIn
  | unknown
deriving DecidableEq

/-- A condition by its `type` and `config`. Every handler whose answer depends on the
request, the clock, a counter or the database is `other`. -/
inductive Condition where
  | catalogLookupPublicAllowed
  | attributeMatch (attrPath : Value) (operator : MatchOperator) (value : Value)
  | conjunction (conditions : List Condition)
  | disjunction (conditions : List Condition)
  | negation (condition : Condition)
  | negationOfNothing
  | other (type : String) (config : Document)

inductive Raised where
  | invalidRegex (pattern : String)
  | handler (type message : String)
deriving DecidableEq

/-! ## Attribute comparison -/

/-- The operators that run time and compile time share; they differ on `regex`. -/
def compareBy (py : Python) (regex : String → String → Except Raised Bool)
    (actual : Value) (operator : MatchOperator) (expected : Value) : Except Raised Bool :=
  match operator with
  | .eq => .ok (py.str actual == py.str expected)
  | .neq => .ok (py.str actual != py.str expected)
  | .contains => .ok (containsText (py.str actual) (py.str expected))
  | .regex => regex (py.str expected) (py.str actual)
  | .gt => .ok ((py.floatLess expected actual).getD false)
  | .lt => .ok ((py.floatLess actual expected).getD false)
  | .isIn =>
    match expected with
    | .list elements => .ok (elements.any (py.equals actual))
    | expected =>
      .ok (((py.str expected).splitOn ",").any fun part => py.equals actual (.text part))
  | .unknown => .ok false

/-- `AttributeMatchHandler._compare`: the pattern is searched, and one that does not
compile matches for a DENY policy only. -/
def compare (py : Python) (effect : Effect) : Value → MatchOperator → Value →
    Except Raised Bool :=
  compareBy py fun pattern text =>
    .ok (if py.reCompiles pattern then py.reSearch pattern text else effect == .deny)

/-- `_match_compare`: the pattern is matched from the start. -/
def matchCompare (py : Python) : Value → MatchOperator → Value → Except Raised Bool :=
  compareBy py fun pattern text =>
    if py.reCompiles pattern then .ok (py.reMatch pattern text)
    else .error (.invalidRegex pattern)

/-! ## Evaluation -/

/-- What the handlers read of a request. `lookupAudience` is `is_public` of the audience
configuration of a catalog, absent where it cannot be read. A handler also reads the effect of
the policy. -/
structure EvaluationContext where
  path : String
  method : String
  queryParams : Document
  headers : Document
  principalId : Option String
  catalogId : Option String
  principalAttributes : Option Document
  extras : Document
  lookupAudience : String → Option Bool
  handlers : String → Effect → Document → Except Raised Bool

def EvaluationContext.getValue (ctx : EvaluationContext) (path : String) : Value :=
  match afterStart "query." path, afterStart "header." path with
  | some name, _ => ctx.queryParams.get name
  | none, some name => ctx.headers.get name
  | none, none =>
    if path = "path" then .text ctx.path
    else if path = "method" then .text ctx.method
    else if path = "principal.id" then (ctx.principalId.map Value.text).getD .null
    else
      match afterStart "principal.attributes." path, afterStart "extras." path with
      | some name, _ => (ctx.principalAttributes.map (·.get name)).getD .null
      | none, some name => ctx.extras.get name
      | none, none => .null

def evaluateMatch (py : Python) (ctx : EvaluationContext) (effect : Effect) (attrPath : Value)
    (operator : MatchOperator) (expected : Value) : Except Raised Bool :=
  if py.truthy attrPath then
    match attrPath with
    | .text path =>
      match ctx.getValue path with
      | .null => .ok false
      | actual => compare py effect actual operator expected
    | _ => .ok false
  else .ok true

def EvaluationContext.catalogLookupPublic (ctx : EvaluationContext) : Bool :=
  match ctx.catalogId with
  | some catalogId => catalogId != "" && (ctx.lookupAudience catalogId).getD false
  | none => false

mutual

def evaluateCondition (py : Python) (ctx : EvaluationContext) (effect : Effect) :
    Condition → Except Raised Bool
  | .catalogLookupPublicAllowed => .ok ctx.catalogLookupPublic
  | .attributeMatch attrPath operator expected =>
    evaluateMatch py ctx effect attrPath operator expected
  | .conjunction conditions => evaluateAll py ctx effect conditions
  | .disjunction conditions =>
    if conditions.isEmpty then .ok true else evaluateAny py ctx effect conditions
  | .negation condition =>
    match evaluateCondition py ctx effect condition with
    | .ok holds => .ok !holds
    | .error raised => .error raised
  | .negationOfNothing => .ok true
  | .other type config => ctx.handlers type effect config

def evaluateAll (py : Python) (ctx : EvaluationContext) (effect : Effect) :
    List Condition → Except Raised Bool
  | [] => .ok true
  | condition :: rest =>
    match evaluateCondition py ctx effect condition with
    | .ok true => evaluateAll py ctx effect rest
    | .ok false => .ok false
    | .error raised => .error raised

def evaluateAny (py : Python) (ctx : EvaluationContext) (effect : Effect) :
    List Condition → Except Raised Bool
  | [] => .ok false
  | condition :: rest =>
    match evaluateCondition py ctx effect condition with
    | .ok true => .ok true
    | .ok false => evaluateAny py ctx effect rest
    | .error raised => .error raised

end

/-! ## Compilation -/

inductive CondResult where
  | satisfied
  | unsatisfiable
  | predicates (predicates : List FieldPredicate)
  | uncompilable
deriving DecidableEq

def predicateResult (predicates : List FieldPredicate) : CondResult :=
  if predicates.isEmpty then .satisfied else .predicates predicates

/-- `_compile_attribute_match`: a gate on the principal, decided at once. -/
def compileAttributeMatch (py : Python) (attributes : Document) (attrPath : Value)
    (operator : MatchOperator) (expected : Value) : Except Raised CondResult :=
  if py.truthy attrPath then
    match attrPath with
    | .text path =>
      match afterStart "principal.attributes." path with
      | none => .ok .uncompilable
      | some key =>
        match attributes.get key with
        | .null => .ok .unsatisfiable
        | actual =>
          match matchCompare py actual operator expected with
          | .ok true => .ok .satisfied
          | .ok false => .ok .unsatisfiable
          | .error raised => .error raised
    | _ => .ok .uncompilable
  else .ok .satisfied

def orResult (field : Option String) (values : List String) (sawUncompilable : Bool) : CondResult :=
  if sawUncompilable then .uncompilable
  else
    match field with
    | none => .unsatisfiable
    | some field => .predicates [⟨field, values.eraseDups⟩]

mutual

def compileCondition (py : Python) (attributes : Document) : Condition → Except Raised CondResult
  | .catalogLookupPublicAllowed => .ok (.predicates [⟨"visibility", ["public"]⟩])
  | .attributeMatch attrPath operator expected =>
    compileAttributeMatch py attributes attrPath operator expected
  | .conjunction conditions => compileAnd py attributes [] false conditions
  | .disjunction conditions =>
    if conditions.isEmpty then .ok .satisfied else compileOr py attributes none [] false conditions
  | .negation _ => .ok .uncompilable
  | .negationOfNothing => .ok .uncompilable
  | .other _ _ => .ok .uncompilable

def compileAnd (py : Python) (attributes : Document) (predicates : List FieldPredicate)
    (sawUncompilable : Bool) : List Condition → Except Raised CondResult
  | [] => .ok (if sawUncompilable then .uncompilable else predicateResult predicates)
  | condition :: rest =>
    match compileCondition py attributes condition with
    | .ok .unsatisfiable => .ok .unsatisfiable
    | .ok .uncompilable => compileAnd py attributes predicates true rest
    | .ok (.predicates more) =>
      compileAnd py attributes (predicates ++ more) sawUncompilable rest
    | .ok .satisfied => compileAnd py attributes predicates sawUncompilable rest
    | .error raised => .error raised

/-- The loop of `_compile_or`: branches on one field are joined, any other branch that
could hold makes the whole uncompilable. -/
def compileOr (py : Python) (attributes : Document) (field : Option String)
    (values : List String) (sawUncompilable : Bool) : List Condition → Except Raised CondResult
  | [] => .ok (orResult field values sawUncompilable)
  | condition :: rest =>
    match compileCondition py attributes condition with
    | .ok .satisfied => .ok .satisfied
    | .ok .unsatisfiable => compileOr py attributes field values sawUncompilable rest
    | .ok (.predicates [branch]) =>
      if field.all (· == branch.field) then
        compileOr py attributes (some branch.field) (values ++ branch.values) sawUncompilable rest
      else compileOr py attributes field values true rest
    | .ok _ => compileOr py attributes field values true rest
    | .error raised => .error raised

end

/-- `_compile_conditions`: the conditions of a policy are an implicit conjunction. -/
def compileConditions (py : Python) (attributes : Document) (conditions : List Condition) :
    Except Raised CondResult :=
  compileAnd py attributes [] false conditions

end Dynastore.Iam
