import Dynastore.Foundation.Words

/-! `_apply_param_suffix` renames the parameters of a statement, one after the other in the text
already rewritten. -/

namespace Dynastore.Items

open Words List

/-- The grammar of `text()`: by what stands before the colon and behind the name, a colon and a name
are no placeholder, or one of a part of the name, with the rest as text behind it. -/
structure BindGrammar where
  isWord : Char → Bool
  placeholder : Kind Char → Kind Char → List Char → Option (List Char × List Char)

abbrev BindParams (V : Type u) := List (List Char × V)

/-- A suffix that makes names of names. -/
structure BindGrammar.Suffix (grammar : BindGrammar) where
  text : List Char
  words : ∀ symbol ∈ text, grammar.isWord symbol = true

namespace BindGrammar

variable {V : Type u} (grammar : BindGrammar)

def occurrencesIn (sql : List Char) : List (Occurrence Char) :=
  occurrences .edge .edge (tokens grammar.isWord sql)

def renamed (key suffix : List Char) (found : Occurrence Char) : Token Char :=
  if found.last = .other ':' ∧ found.token = .word key then .word (key ++ suffix)
  else found.token

/-- `re.sub(f":{key}(?=\\b)", f":{key}{suffix}", sql)`: the key is followed by a boundary where it
is the whole word. -/
def reSub (key suffix sql : List Char) : List Char :=
  render ((grammar.occurrencesIn sql).map (renamed key suffix))

def suffixed (bindParams : BindParams V) (suffix : List Char) : BindParams V :=
  bindParams.map fun entry => (entry.1 ++ suffix, entry.2)

def applyParamSuffix (sql : List Char) (bindParams : BindParams V) (suffix : grammar.Suffix) :
    List Char × BindParams V :=
  ((bindParams.map Prod.fst).foldl (fun sql key => grammar.reSub key suffix.text sql) sql,
    suffixed bindParams suffix.text)

/-- The value of a placeholder and the text behind it, where the name is one that is bound. -/
def bound (bindParams : BindParams V) (before next : Kind Char) (name : List Char) :
    Option (V × List Char) :=
  (grammar.placeholder before next name).bind fun parts =>
    (bindParams.lookup parts.1).map (·, parts.2)

/-- What a token of a statement is to the server: the value of a bound placeholder, or text. -/
def read (bindParams : BindParams V) (found : Occurrence Char) : Token Char ⊕ V × List Char :=
  match found.token with
  | .other symbol => .inl (.other symbol)
  | .word name =>
    if found.last = .other ':' then
      (grammar.bound bindParams found.beforeLast found.next name).elim (.inl (.word name)) .inr
    else .inl (.word name)

def denote (sql : List Char) (bindParams : BindParams V) : List (Token Char ⊕ V × List Char) :=
  (grammar.occurrencesIn sql).map (grammar.read bindParams)

/-- The name that the passes make of one name behind a colon. -/
def finalName (suffix : List Char) (keys : List (List Char)) (name : List Char) : List Char :=
  keys.foldl (fun name key => if name = key then key ++ suffix else name) name

/-- A name behind a colon that the suffix does no harm. A bound placeholder ends with a name of
its own value; another name is not renamed, and is no new parameter where it is a placeholder. -/
def Spared (bindParams : BindParams V) (suffix : List Char) (found : Occurrence Char) : Prop :=
  ∀ name, found.token = .word name → found.last = .other ':' →
    let final := finalName suffix (bindParams.map Prod.fst) name
    let renamed := grammar.bound (suffixed bindParams suffix) found.beforeLast found.next final
    match grammar.bound bindParams found.beforeLast found.next name with
    | some held => renamed = some held
    | none => final = name ∧ renamed = none

def named (suffix : List Char) (keys : List (List Char)) (found : Occurrence Char) : Token Char :=
  match found.token with
  | .other symbol => .other symbol
  | .word name => .word (if found.last = .other ':' then finalName suffix keys name else name)

variable {grammar} {suffix sql : List Char} {keys : List (List Char)} {bindParams : BindParams V}
  {found : Occurrence Char}

theorem kind_renamed (found : Occurrence Char) :
    (renamed key suffix found).kind = found.token.kind := by
  unfold renamed
  split
  next same => rw [same.2]; rfl
  · rfl

theorem kind_named (keys : List (List Char)) (found : Occurrence Char) :
    (named suffix keys found).kind = found.token.kind := by
  unfold named
  split <;> simp [*, Token.kind]

theorem named_cons :
    named suffix keys { found with token := renamed key suffix found } =
      named suffix (key :: keys) found := by
  by_cases behind : found.last = .other ':'
  · cases token : found.token with
    | other => simp [named, renamed, token]
    | word name => by_cases same : name = key <;> simp [named, renamed, finalName, *]
  · cases token : found.token <;> simp [named, renamed, *]

section Word

variable (words : ∀ symbol ∈ suffix, grammar.isWord symbol = true)

include words

theorem tokens_reSub : tokens grammar.isWord (grammar.reSub key suffix sql) =
      (grammar.occurrencesIn sql).map (renamed key suffix) := by
  refine tokens_render (lexed_map kind_renamed ?_ lexed_tokens)
  intro _ proper
  unfold renamed
  split
  next same =>
    rw [same.2] at proper
    exact ⟨append_ne_nil_of_left_ne_nil proper.1 _, forall_mem_append.mpr ⟨proper.2, words⟩⟩
  · exact proper

theorem tokens_foldl (keys : List (List Char)) :
    tokens grammar.isWord (keys.foldl (fun sql key => grammar.reSub key suffix sql) sql) =
      (grammar.occurrencesIn sql).map (named suffix keys) := by
  induction keys generalizing sql with
  | nil =>
    refine (map_token_occurrences .edge .edge).symm.trans (map_congr_left ?_)
    intro found _
    cases token : found.token <;> simp [named, finalName, token]
  | cons _ _ ih =>
    rw [foldl_cons, ih, occurrencesIn, tokens_reSub words,
      occurrencesIn, occurrences_map kind_renamed, map_map]
    exact map_congr_left fun _ _ => named_cons

end Word

theorem read_named_iff : grammar.read (suffixed bindParams suffix)
        { found with token := named suffix (bindParams.map Prod.fst) found } =
      grammar.read bindParams found ↔ grammar.Spared bindParams suffix found := by
  cases token : found.token with
  | other => simp [Spared, read, named, token]
  | word name =>
    by_cases behind : found.last = .other ':'
    · simp only [Spared, read, named, token, behind, if_true, Token.word.injEq, forall_eq',
        forall_const]
      generalize grammar.bound (suffixed bindParams suffix) found.beforeLast found.next _ = renamed
      cases grammar.bound bindParams found.beforeLast found.next name <;> cases renamed <;> simp
    · simp [Spared, read, named, token, behind]

/-- A suffixed statement denotes what it denoted before exactly if every name behind a colon is
spared. -/
theorem denotes_same_iff (grammar : BindGrammar) (sql : List Char) (bindParams : BindParams V)
    (suffix : grammar.Suffix) :
    (let applied := grammar.applyParamSuffix sql bindParams suffix
     grammar.denote applied.1 applied.2 = grammar.denote sql bindParams) ↔
      ∀ found ∈ grammar.occurrencesIn sql, grammar.Spared bindParams suffix.text found := by
  simp only [denote, applyParamSuffix]
  rw [occurrencesIn, tokens_foldl suffix.words, occurrencesIn,
    occurrences_map (kind_named _), map_map, map_inj_left]
  exact forall₂_congr fun _ _ => read_named_iff

/-- `(?<![:\w\x5c]):(\w+)(?!:)`, which before a colon goes back by one character of the name. -/
def textGrammar : BindGrammar where
  isWord symbol := symbol.isAlphanum || symbol == '_'
  placeholder before next name :=
    if before = .word ∨ before = .other ':' ∨ before = .other '\\' then none
    else if next ≠ .other ':' then some (name, [])
    else if name.dropLast = [] then none
    else some (name.dropLast, name.drop (name.length - 1))

/-- Of the parameters `a` and `a_1` the first gets the name of the second before that is
suffixed. -/
theorem overlapping_name_rebound :
    ¬ ∀ (sql : List Char) (bindParams : BindParams Nat) (suffix : textGrammar.Suffix),
      let applied := textGrammar.applyParamSuffix sql bindParams suffix
      textGrammar.denote applied.1 applied.2 = textGrammar.denote sql bindParams := by
  intro same
  have own := same "x = :a".toList [("a".toList, 1), ("a_1".toList, 2)]
    ⟨"_1".toList, by simp [textGrammar]⟩
  revert own
  decide

end BindGrammar

end Dynastore.Items
