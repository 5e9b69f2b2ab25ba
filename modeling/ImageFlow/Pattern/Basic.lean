import ImageFlow.Pattern.CharacterClass
import ImageFlow.Pattern.Group

/-!
# Patterns

Which texts are patterns that can be used: alternatives of sequences of elements, classes and
groups, each of which may be repeated.
-/

namespace ImageFlow.Pattern

inductive Part where
  /-- Settings, which cannot be repeated. -/
  | settings
  /-- Anything else, with how deep its own parts are nested. -/
  | piece (depth : Nat)

def Part.depth : Part → Nat
  | settings => 0
  | piece depth => depth

/-- How deep things side by side are nested: several count as one more than each. -/
def depthTogether : List Nat → Nat
  | [] => 0
  | [depth] => depth
  | depths => depths.foldl max 0 + 1

/-- The rest of a pattern after a group, or after all of it, with how deep the parts in it are
nested and the names of the groups so far. -/
structure Found where
  depth : Nat
  names : List (List Char)
  rest : List Char

/-- The element that a character stands for outside of classes. -/
def plainElement (c : Char) : Element :=
  match c with
  | '.' => .anyCharacter
  | '^' | '$' => .lineEdge
  | c => .character c false

/-- Passes over the sign that makes a repetition a reluctant one. -/
def skipReluctance : List Char → List Char
  | '?' :: rest => rest
  | rest => rest

/-- Reads up to the end of a group, as far as `fuel` calls go.  `branches` are the depths of the
alternatives before, `parts` those of this one, last first. -/
def readSequence : Nat → Mode → List Nat → List Part → List (List Char) → List Char → Option Found
  | 0, _, _, _, _, _ => none
  | fuel + 1, mode, branches, parts, names, cs =>
    let branch := depthTogether (parts.map Part.depth)
    match skip mode cs with
    | [] => some ⟨depthTogether (branch :: branches), names, []⟩
    | ')' :: rest => some ⟨depthTogether (branch :: branches), names, ')' :: rest⟩
    | '|' :: rest => readSequence fuel mode (branch :: branches) [] names rest
    | '(' :: rest =>
      match readOpening mode rest with
      | none => none
      | some (.settings mode rest) =>
        readSequence fuel mode branches (.settings :: parts) names rest
      | some (.group inner name rest) =>
        if name.any names.contains then none
        else
          match readSequence fuel inner [] [] (name.toList ++ names) rest with
          | some ⟨depth, names, ')' :: rest⟩ =>
            readSequence fuel mode branches (.piece (depth + 1) :: parts) names rest
          | _ => none
    | '[' :: rest =>
      match readClass mode rest with
      | none => none
      | some (depth, rest) => readSequence fuel mode branches (.piece depth :: parts) names rest
    | '\\' :: rest =>
      match readEscape mode rest with
      | none => none
      | some (element, rest) =>
        if element.isUsable mode.unicode then
          readSequence fuel mode branches (.piece 0 :: parts) names rest
        else none
    | c :: rest =>
      if c = '*' ∨ c = '+' ∨ c = '?' then
        match parts with
        | .piece depth :: before =>
          readSequence fuel mode branches (.piece (depth + 1) :: before) names (skipReluctance rest)
        | _ => none
      else if c = '\x7b' then none
      else if (plainElement c).isUsable mode.unicode then
        readSequence fuel mode branches (.piece 0 :: parts) names rest
      else none

/-- How deep the parts of a pattern may be nested. -/
def deepestNesting : Nat := 250

/-- Whether a text is a pattern that can be used. -/
def isPattern (cs : List Char) : Bool :=
  match readSequence (cs.length + 1) {} [] [] [] cs with
  | some found => found.rest.isEmpty && found.depth ≤ deepestNesting
  | none => false

end ImageFlow.Pattern
