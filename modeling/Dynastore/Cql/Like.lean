import Dynastore.Foundation.Glob

/-! A CQL2 `LIKE` pattern as `cql_to_es.py` walks it, the `wildcard` pattern it turns it into, and
how Elasticsearch reads that. -/

namespace Dynastore.Cql

open Glob

open Glob (Token)

structure LikeSyntax where
  wildcard : Char := '%'
  singlechar : Char := '.'
  escapechar : Char := '\\'
deriving DecidableEq, Repr

namespace LikeSyntax

variable (like : LikeSyntax)

def special (char : Char) : Bool :=
  char == like.wildcard || char == like.singlechar || char == like.escapechar

def token (char : Char) : Token Char :=
  if char = like.wildcard then .any
  else if char = like.singlechar then .one
  else .literal char

def iterLikeTokens : List Char → List (Token Char)
  | [] => []
  | [char] => [like.token char]
  | char :: next :: rest =>
    if char = like.escapechar ∧ like.special next then .literal next :: iterLikeTokens rest
    else like.token char :: iterLikeTokens (next :: rest)

/-! ## What a pattern asks for -/

/-- The pattern begins with an escape character that takes the meaning off the next one. -/
def Escapes (pattern : List Char) : Prop :=
  ∃ next rest, pattern = like.escapechar :: next :: rest ∧ like.special next

/-- A text fits a pattern: a wildcard stands for any text, a single character for any one, and an
escaped or ordinary character for itself. -/
inductive Fits (same : Char → Char → Bool) : List Char → List Char → Prop
  | nil : Fits same [] []
  | escaped (special : like.special next) (agrees : same next head)
      (later : Fits same rest text) : Fits same (like.escapechar :: next :: rest) (head :: text)
  | wildcard (run : List Char) (bare : ¬ like.Escapes (like.wildcard :: rest))
      (later : Fits same rest text) : Fits same (like.wildcard :: rest) (run ++ text)
  | singlechar (head : Char) (other : like.singlechar ≠ like.wildcard)
      (bare : ¬ like.Escapes (like.singlechar :: rest)) (later : Fits same rest text) :
      Fits same (like.singlechar :: rest) (head :: text)
  | ordinary (notWildcard : char ≠ like.wildcard) (notSingle : char ≠ like.singlechar)
      (bare : ¬ like.Escapes (char :: rest)) (agrees : same char head)
      (later : Fits same rest text) : Fits same (char :: rest) (head :: text)

variable {like}

theorem iterLikeTokens_cons (bare : ¬ like.Escapes (char :: rest)) :
    like.iterLikeTokens (char :: rest) = like.token char :: like.iterLikeTokens rest := by
  cases rest with
  | nil => rfl
  | cons next rest =>
    refine if_neg ?_
    rintro ⟨rfl, special⟩
    exact bare ⟨next, rest, rfl, special⟩

theorem fits_tokens (fits : like.Fits same pattern text) :
    Glob.matchesBy same (like.iterLikeTokens pattern) text := by
  induction fits with
  | nil => rfl
  | escaped special agrees _ ih =>
    rw [iterLikeTokens, if_pos ⟨rfl, special⟩, matchesBy, agrees, ih]
    rfl
  | wildcard run bare _ ih =>
    rw [iterLikeTokens_cons bare, token, if_pos rfl, matchesBy, List.any_eq_true]
    exact ⟨_, (List.mem_tails _ _).mpr (List.suffix_append run _), ih⟩
  | singlechar _ other bare _ ih =>
    rw [iterLikeTokens_cons bare, token, if_neg other, if_pos rfl]
    exact ih
  | ordinary notWildcard notSingle bare agrees _ ih =>
    rw [iterLikeTokens_cons bare, token, if_neg notWildcard, if_neg notSingle, matchesBy,
      agrees, ih]
    rfl

/-- The rule for a character that no escape character stands before. -/
theorem fits_bare (bare : ¬ like.Escapes (char :: rest))
    (later : ∀ text, Glob.matchesBy same (like.iterLikeTokens rest) text → like.Fits same rest text)
    (matched : Glob.matchesBy same (like.iterLikeTokens (char :: rest)) text) :
    like.Fits same (char :: rest) text := by
  rw [iterLikeTokens_cons bare, token] at matched
  split at matched
  next wild =>
    subst wild
    rw [matchesBy, List.any_eq_true] at matched
    obtain ⟨tail, mem, matched⟩ := matched
    obtain ⟨run, rfl⟩ := (List.mem_tails _ _).mp mem
    exact .wildcard run bare (later tail matched)
  next notWildcard =>
    split at matched
    next single =>
      subst single
      cases text with
      | nil => cases matched
      | cons head tail => exact .singlechar head notWildcard bare (later tail matched)
    next notSingle =>
      cases text with
      | nil => cases matched
      | cons head tail =>
        rw [matchesBy, Bool.and_eq_true] at matched
        exact .ordinary notWildcard notSingle bare matched.1 (later tail matched.2)

/-- The tokens ask for what the pattern does. -/
theorem fits_iff_tokens (same : Char → Char → Bool) (pattern text : List Char) :
    like.Fits same pattern text ↔ Glob.matchesBy same (like.iterLikeTokens pattern) text := by
  refine ⟨fits_tokens, ?_⟩
  have empty (text : List Char) (matched : Glob.matchesBy same (like.iterLikeTokens []) text) :
      like.Fits same [] text := by
    rw [iterLikeTokens, matchesBy, List.isEmpty_iff] at matched
    subst matched
    exact .nil
  induction pattern using iterLikeTokens.induct like generalizing text with
  | case1 => exact empty text
  | case2 char => exact fits_bare (by simp [Escapes]) empty
  | case3 char next rest escape ih =>
    intro matched
    rw [iterLikeTokens, if_pos escape] at matched
    obtain ⟨rfl, special⟩ := escape
    cases text with
    | nil => cases matched
    | cons head tail =>
      rw [matchesBy, Bool.and_eq_true] at matched
      exact .escaped special matched.1 (ih tail matched.2)
  | case4 char next rest plain ih =>
    refine fits_bare ?_ ih
    rintro ⟨_, _, same, special⟩
    cases same
    exact plain ⟨rfl, special⟩

instance (same : Char → Char → Bool) (pattern text : List Char) :
    Decidable (like.Fits same pattern text) :=
  decidable_of_iff _ (fits_iff_tokens same pattern text).symm

theorem decide_fits (same : Char → Char → Bool) (pattern text : List Char) :
    decide (like.Fits same pattern text) = matchesBy same (like.iterLikeTokens pattern) text := by
  rw [Bool.eq_iff_iff, decide_eq_true_iff, fits_iff_tokens]

end LikeSyntax

/-! ## Elasticsearch -/

def wildcardChar : Token Char → Char
  | .any => '*'
  | .one => '?'
  | .literal char => char

def likeToWildcard (like : LikeSyntax) (pattern : String) : String :=
  String.ofList ((like.iterLikeTokens pattern.toList).map wildcardChar)

def wildcardToken (char : Char) : Token Char :=
  if char = '*' then .any else if char = '?' then .one else .literal char

/-- How a `wildcard` query reads its pattern. A backslash makes the next
character literal, and is literal itself at the end. -/
def wildcardTokens : List Char → List (Token Char)
  | [] => []
  | [char] => [wildcardToken char]
  | char :: next :: rest =>
    if char = '\\' then .literal next :: wildcardTokens rest
    else wildcardToken char :: wildcardTokens (next :: rest)

theorem wildcardTokens_cons (noEscape : char ≠ '\\') :
    wildcardTokens (char :: rest) = wildcardToken char :: wildcardTokens rest := by
  cases rest with
  | nil => rfl
  | cons => rw [wildcardTokens, if_neg noEscape]

def likeToMatchText (like : LikeSyntax) (pattern : String) : String :=
  let text := (like.iterLikeTokens pattern.toList).map fun
    | .literal char => char
    | _ => ' '
  String.ofList (((text.dropWhile Char.isWhitespace).reverse.dropWhile Char.isWhitespace).reverse)

/-- The literal characters of a pattern keep their meaning in a `wildcard`
query: no `*`, no `?`, and a backslash at the end only. -/
def plainTokens : List (Token Char) → Bool
  | [] => true
  | .literal char :: rest =>
    if char = '*' ∨ char = '?' then false
    else if char = '\\' then rest.isEmpty
    else plainTokens rest
  | _ :: rest => plainTokens rest

/-- The tokens of a `LIKE` pattern as a `wildcard` query reads them back. -/
def readBack (tokens : List (Token Char)) : List (Token Char) :=
  wildcardTokens (tokens.map wildcardChar)

theorem readBack_cons (noEscape : token ≠ .literal '\\') :
    readBack (token :: rest) = wildcardToken (wildcardChar token) :: readBack rest := by
  refine wildcardTokens_cons ?_
  cases token with
  | literal => exact fun same => noEscape (congrArg Token.literal same)
  | _ => decide

variable {tokens : List (Token Char)}

theorem readBack_of_plain (plain : plainTokens tokens) : readBack tokens = tokens := by
  induction tokens with
  | nil => rfl
  | cons token _ ih =>
    cases token with
    | literal =>
      rw [plainTokens] at plain
      split at plain
      · cases plain
      next ordinary =>
        rw [not_or] at ordinary
        split at plain
        next escape =>
          rw [List.isEmpty_iff.mp plain, escape]
          rfl
        next noEscape =>
          rw [readBack_cons (fun same => noEscape (Token.literal.inj same)), ih plain,
            wildcardChar, wildcardToken, if_neg ordinary.1, if_neg ordinary.2]
    | _ => rw [readBack_cons (by decide), ih plain]; rfl

/-- How the reading of a pattern can differ from the pattern: it asks for fewer
characters, or for a `*` that the pattern does not have, or no longer for a `?`
that it has. -/
def Distorts (tokens : List (Token Char)) : Prop :=
  Glob.weight (readBack tokens) < Glob.weight tokens ∨
    (Glob.weight (readBack tokens) = Glob.weight tokens ∧ .literal '*' ∉ tokens ∧
      (.literal '*' ∈ readBack tokens ∨ (.literal '?' ∉ readBack tokens ∧
          (plainTokens tokens = true ∨ .literal '?' ∈ tokens))))

theorem distorts_cons (noEscape : token ≠ .literal '\\') (later : Distorts rest) :
    Distorts (token :: rest) := by
  rw [Distorts, readBack_cons noEscape]
  cases token with
  | any =>
    rcases later with fewer | ⟨same, noStar, kinds⟩
    · exact .inl fewer
    · refine .inr ⟨same, by simpa using noStar, ?_⟩
      simpa [wildcardChar, wildcardToken, plainTokens] using kinds
  | one =>
    rcases later with fewer | ⟨same, noStar, kinds⟩
    · exact .inl (Nat.succ_lt_succ fewer)
    · refine .inr ⟨congrArg (· + 1) same, by simpa using noStar, ?_⟩
      simpa [wildcardChar, wildcardToken, plainTokens] using kinds
  | literal char =>
    have notMore : weight (readBack rest) ≤ weight rest := by
      rcases later with fewer | ⟨same, _⟩
      · exact Nat.le_of_lt fewer
      · exact Nat.le_of_eq same
    by_cases star : char = '*'
    · -- a literal star is read as any text
      subst star
      exact .inl (Nat.lt_succ_of_le notMore)
    by_cases mark : char = '?'
    · subst mark
      rcases later with fewer | ⟨same, noStar, kinds⟩
      · exact .inl (Nat.succ_lt_succ fewer)
      · refine .inr ⟨congrArg (· + 1) same, by simpa using noStar, ?_⟩
        rcases kinds with starred | ⟨unmarked, _⟩
        · exact .inl (.tail _ starred)
        · refine .inr ⟨?_, .inr (.head _)⟩
          simpa [wildcardChar, wildcardToken] using unmarked
    · have kept : wildcardToken (wildcardChar (.literal char)) = .literal char := by
        simp [wildcardChar, wildcardToken, star, mark]
      have noBackslash : char ≠ '\\' := fun same => noEscape (congrArg Token.literal same)
      rw [kept]
      rcases later with fewer | ⟨same, noStar, kinds⟩
      · exact .inl (Nat.succ_lt_succ fewer)
      · refine .inr ⟨congrArg (· + 1) same, ?_, ?_⟩
        · simpa [Ne.symm star] using noStar
        · simpa [plainTokens, star, mark, noBackslash, Ne.symm star, Ne.symm mark] using kinds

theorem distorts : ∀ tokens : List (Token Char), Distorts tokens
  | [] => .inr ⟨rfl, by simp, .inr ⟨by simp [readBack, wildcardTokens], .inl rfl⟩⟩
  | [token] => by
      by_cases escape : token = .literal '\\'
      · rw [escape]
        exact .inr ⟨rfl, by simp, .inr ⟨by decide, .inl rfl⟩⟩
      · exact distorts_cons escape (distorts [])
  | token :: next :: rest => by
      by_cases escape : token = .literal '\\'
      · -- the backslash takes the next character with it
        have read : readBack (token :: next :: rest) =
            .literal (wildcardChar next) :: readBack rest := by
          rw [escape]
          rfl
        rw [escape] at read ⊢
        have later := distorts rest
        have notMore : weight (readBack rest) ≤ weight rest := by
          rcases later with fewer | ⟨same, _⟩
          · exact Nat.le_of_lt fewer
          · exact Nat.le_of_eq same
        cases next with
        | any =>
          rcases later with fewer | ⟨same, noStar, _⟩
          · exact .inl (Nat.succ_lt_succ fewer)
          · exact .inr ⟨congrArg (· + 1) same, by simpa using noStar, .inl (.head _)⟩
        | _ => exact .inl (Nat.succ_lt_succ (Nat.lt_succ_of_le notMore))
      · exact distorts_cons escape (distorts (next :: rest))

theorem exists_misread (marred : plainTokens tokens = false) :
    ∃ text, Glob.matchesText (readBack tokens) text ≠ Glob.matchesText tokens text := by
  -- it is enough to match one of the two and to fail what the other asks for
  have differs : ∀ {matching failing : List (Token Char)},
      (weight failing ≤ weight matching → (∀ char, .literal char ∈ failing →
        char ∈ sample 'a' matching) → False) →
      matchesText failing (sample 'a' matching) = false := by
    intro matching failing impossible
    by_contra matched
    obtain ⟨long, literals⟩ := of_matches ((Bool.not_eq_false _).mp matched)
    rw [length_sample] at long
    exact impossible long literals
  rcases distorts tokens with fewer | ⟨same, noStar, starred | ⟨unmarked, plain | mark⟩⟩
  · refine ⟨sample 'a' (readBack tokens), ?_⟩
    rw [matches_sample, differs fun long _ => by omega]
    decide
  · refine ⟨sample 'a' tokens, ?_⟩
    rw [matches_sample, differs fun _ literals => ?_]
    · decide
    · rcases mem_of_mem_sample (literals '*' starred) with filler | inTokens
      · exact absurd filler (by decide)
      · exact noStar inTokens
  · rw [marred] at plain
    cases plain
  · refine ⟨sample 'a' (readBack tokens), ?_⟩
    rw [matches_sample, differs fun _ literals => ?_]
    · decide
    · rcases mem_of_mem_sample (literals '?' mark) with filler | inRead
      · exact absurd filler (by decide)
      · exact unmarked inRead

/-- The pattern that `_like_to_wildcard` returns matches a text when the `LIKE`
pattern does, for all texts, exactly where no literal character of the pattern
means something to a `wildcard` query. -/
theorem likeToWildcard_exact_iff (like : LikeSyntax) (pattern : String) :
    (∀ text : String, Glob.matchesText (wildcardTokens (likeToWildcard like pattern).toList)
        text.toList ↔ like.Fits (· == ·) pattern.toList text.toList) ↔
      plainTokens (like.iterLikeTokens pattern.toList) = true := by
  have read : wildcardTokens (likeToWildcard like pattern).toList =
      readBack (like.iterLikeTokens pattern.toList) := by
    rw [likeToWildcard, String.toList_ofList, readBack]
  simp only [read, LikeSyntax.fits_iff_tokens]
  constructor
  · intro agrees
    by_contra marred
    obtain ⟨text, differs⟩ := exists_misread ((Bool.not_eq_true _).mp marred)
    apply differs
    rw [Bool.eq_iff_iff]
    simpa using agrees (String.ofList text)
  · intro plain _
    rw [readBack_of_plain plain]

/-- With the default characters `a*b` asks for a star, and its translation for
any text between the two letters. -/
theorem literal_star_widened :
    ¬ ∀ (like : LikeSyntax) (pattern text : String), like.wildcard ≠ like.singlechar →
      like.wildcard ≠ like.escapechar → like.singlechar ≠ like.escapechar →
      (Glob.matchesText (wildcardTokens (likeToWildcard like pattern).toList) text.toList ↔
        like.Fits (· == ·) pattern.toList text.toList) := by
  intro agrees
  have same := agrees {} "a*b" "axb" (by decide) (by decide) (by decide)
  revert same
  decide

end Dynastore.Cql
