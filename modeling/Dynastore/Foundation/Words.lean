/-! A text is a row of tokens: the longest words in it, and the symbols between them. A rewriting of
words by words acts on the tokens one by one, and no token sees more of its neighbours than their
kind. -/

namespace Dynastore.Words

open List

variable {Symbol : Type u}

inductive Token (Symbol : Type u) where
  | word (symbols : List Symbol)
  | other (symbol : Symbol)
deriving DecidableEq

inductive Kind (Symbol : Type u) where
  | edge
  | word
  | other (symbol : Symbol)
deriving DecidableEq

def Token.symbols : Token Symbol → List Symbol
  | .word symbols => symbols
  | .other symbol => [symbol]

def Token.kind : Token Symbol → Kind Symbol
  | .word _ => .word
  | .other symbol => .other symbol

def render (tokens : List (Token Symbol)) : List Symbol :=
  tokens.flatMap Token.symbols

def kindOfFirst : List (Token Symbol) → Kind Symbol
  | [] => .edge
  | token :: _ => token.kind

def extend (symbol : Symbol) : List (Token Symbol) → List (Token Symbol)
  | .word symbols :: rest => .word (symbol :: symbols) :: rest
  | rest => .word [symbol] :: rest

variable (isWord : Symbol → Bool)

def push (symbol : Symbol) (tokens : List (Token Symbol)) : List (Token Symbol) :=
  if isWord symbol then extend symbol tokens else .other symbol :: tokens

def tokens (text : List Symbol) : List (Token Symbol) :=
  text.foldr (push isWord) []

def Token.Proper : Token Symbol → Prop
  | .word symbols => symbols ≠ [] ∧ ∀ symbol ∈ symbols, isWord symbol = true
  | .other symbol => isWord symbol = false

def Lexed : List (Token Symbol) → Prop
  | [] => True
  | token :: rest =>
    token.Proper isWord ∧ (token.kind = .word → kindOfFirst rest ≠ .word) ∧ Lexed rest

variable {isWord}

theorem extend_of_apart (apart : kindOfFirst rest ≠ .word) :
    extend symbol rest = .word [symbol] :: rest := by
  cases rest with
  | nil => rfl
  | cons token =>
    cases token with
    | word => exact absurd rfl apart
    | other => rfl

theorem lexed_push {tokens : List (Token Symbol)} (lexed : Lexed isWord tokens) :
    Lexed isWord (push isWord symbol tokens) := by
  unfold push
  split
  next word =>
    by_cases apart : kindOfFirst tokens = .word
    · cases tokens with
      | nil => cases apart
      | cons token =>
        cases token with
        | word =>
          obtain ⟨proper, apart, lexed⟩ := lexed
          exact ⟨⟨cons_ne_nil _ _, forall_mem_cons.mpr ⟨word, proper.2⟩⟩, apart, lexed⟩
        | other => cases apart
    · rw [extend_of_apart apart]
      exact ⟨⟨cons_ne_nil _ _, by simpa using word⟩, fun _ => apart, lexed⟩
  next other => exact ⟨Bool.eq_false_iff.mpr other, nofun, lexed⟩

theorem lexed_tokens : Lexed isWord (tokens isWord text) := by
  induction text with
  | nil => trivial
  | cons _ _ ih => exact lexed_push ih

theorem foldr_push (apart : kindOfFirst rest ≠ .word)
    (proper : (Token.word symbols).Proper isWord) :
    symbols.foldr (push isWord) rest = .word symbols :: rest := by
  obtain ⟨nonempty, words⟩ := proper
  induction symbols with
  | nil => exact absurd rfl nonempty
  | cons _ symbols ih =>
    obtain ⟨word, words⟩ := forall_mem_cons.mp words
    rw [foldr_cons, push, if_pos word]
    cases symbols with
    | nil => exact extend_of_apart apart
    | cons => rw [ih (cons_ne_nil _ _) words, extend]

theorem tokens_render (lexed : Lexed isWord list) : tokens isWord (render list) = list := by
  induction list with
  | nil => rfl
  | cons token rest ih =>
    obtain ⟨proper, apart, lexed⟩ := lexed
    have rendered : tokens isWord (render (token :: rest)) =
        token.symbols.foldr (push isWord) rest := by
      exact (foldr_append).trans (congrArg (token.symbols.foldr _) (ih lexed))
    rw [rendered]
    cases token with
    | word => exact foldr_push (apart rfl) proper
    | other => exact if_neg (Bool.eq_false_iff.mp proper)

/-! ## Rewriting token by token -/

/-- A token with the kinds of the two before it and of the next. -/
structure Occurrence (Symbol : Type u) where
  beforeLast : Kind Symbol
  last : Kind Symbol
  token : Token Symbol
  next : Kind Symbol

def occurrences (beforeLast last : Kind Symbol) : List (Token Symbol) → List (Occurrence Symbol)
  | [] => []
  | token :: rest =>
    ⟨beforeLast, last, token, kindOfFirst rest⟩ :: occurrences last token.kind rest

theorem kindOfFirst_map (keeps : ∀ found, (image found).kind = found.token.kind)
    (list : List (Token Symbol)) :
    kindOfFirst ((occurrences beforeLast last list).map image) = kindOfFirst list := by
  cases list with
  | nil => rfl
  | cons => exact keeps _

theorem occurrences_map (keeps : ∀ found, (image found).kind = found.token.kind)
    (list : List (Token Symbol)) :
    occurrences beforeLast last ((occurrences beforeLast last list).map image) =
      (occurrences beforeLast last list).map fun found => { found with token := image found } := by
  induction list generalizing beforeLast last with
  | nil => rfl
  | cons _ _ ih =>
    simp only [occurrences, map_cons, keeps, kindOfFirst_map keeps, ih]

theorem lexed_map (keeps : ∀ found, (image found).kind = found.token.kind)
    (proper : ∀ found, found.token.Proper isWord → (image found).Proper isWord)
    (lexed : Lexed isWord list) : Lexed isWord ((occurrences beforeLast last list).map image) := by
  induction list generalizing beforeLast last with
  | nil => trivial
  | cons token rest ih =>
    obtain ⟨own, apart, lexed⟩ := lexed
    refine ⟨proper _ own, fun word => ?_, ih lexed⟩
    rw [kindOfFirst_map keeps]
    exact apart ((keeps _).symm.trans word)

theorem map_token_occurrences (beforeLast last : Kind Symbol) :
    (occurrences beforeLast last list).map (·.token) = list := by
  induction list generalizing beforeLast last with
  | nil => rfl
  | cons _ _ ih => exact congrArg _ (ih _ _)

end Dynastore.Words
