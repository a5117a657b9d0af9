import Dynastore.Caching.Cached
import Mathlib.Data.List.Infix

/-! A key is the namespace and the rendered arguments, joined by bars, behind a revision mark if
entries are wrapped; a long one is hashed. Clears select keys by how they start. -/

namespace Dynastore.Caching

structure Digest where
  hex : String → String
  digits : ∀ raw, ∀ symbol ∈ (hex raw).toList, symbol ∈ "0123456789abcdef".toList

/-- A bound argument as the key sees it. `repr` is absent where it raises, and `address` is
the identity used instead. -/
structure Argument where
  name : String
  repr : Option String
  typeName : String
  address : Nat

structure CachedFunction extends StalePolicy where
  ns : String
  ignored : List String
  typed : Bool
  keyBuilder : Option (List Argument → String)
  isAsync : Bool
  distributed : Bool

def startsWith (start text : String) : Bool :=
  start.toList.isPrefixOf text.toList

def Argument.parts (typed : Bool) (argument : Argument) : List String :=
  match argument.repr with
  | some text => if typed then [text, argument.typeName] else [text]
  | none => [toString argument.address]

def joinBars (first : String) (parts : List String) : String :=
  parts.foldl (fun key part => key ++ "|" ++ part) first

namespace CachedFunction

variable (function : CachedFunction) (digest : Digest)

/-- The namespace and the rendered arguments, before a long key is hashed. -/
def logicalKey (arguments : List Argument) : String :=
  joinBars function.ns
    ((arguments.filter fun argument =>
      !function.ignored.contains argument.name && argument.name != "self").flatMap
        (·.parts function.typed))

def makeCacheKey (arguments : List Argument) : String :=
  let raw := function.logicalKey arguments
  if raw.length > 200 then digest.hex raw else raw

def keyMark : String :=
  if function.grace > 0 then "sv1|" else ""

def buildKey (arguments : List Argument) : String :=
  function.keyMark ++
    match function.keyBuilder with
    | some build => build arguments
    | none => function.makeCacheKey digest arguments

end CachedFunction

def InGroup (group key : String) : Prop :=
  key = group ∨ startsWith (group ++ "|") key = true
deriving Decidable

theorem startsWith_append : startsWith start (start ++ rest) := by
  rw [startsWith, List.isPrefixOf_iff_prefix, String.toList_append]
  exact List.prefix_append _ _

end Dynastore.Caching
