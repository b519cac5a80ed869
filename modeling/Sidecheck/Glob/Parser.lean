import Sidecheck.Glob.Basic
/-!
# Reading globs

A machine reads a pattern one character at a time. Two stars mean whole directories only where
slashes or the pattern's ends are on both sides; elsewhere they are two single stars.
-/

namespace Sidecheck.Glob

/-- Why a pattern is no glob. -/
inductive PatternFault
  | openClass
  | reversedRange (low high : Char)
  | unopenedGroup
  | openGroup
  | danglingEscape
deriving DecidableEq, Repr

/-- The reason in words. -/
def PatternFault.reason : PatternFault → String
  | .openClass => "unclosed character class; missing ']'"
  | .reversedRange low high =>
    "invalid range; '" ++ low.toString ++ "' > '" ++ high.toString ++ "'"
  | .unopenedGroup =>
    "unopened alternate group; missing '\x7b' (maybe escape '\x7d' with '[\x7d]'?)"
  | .openGroup =>
    "unclosed alternate group; missing '\x7d' (maybe escape '\x7b' with '[\x7b]'?)"
  | .danglingEscape => "dangling '\\'"

/-- The reason in words, together with the pattern. -/
def PatternFault.message (fault : PatternFault) (pattern : String) : String :=
  "error parsing glob '" ++ pattern ++ "': " ++ fault.reason

namespace Parser

/-- A class that is being read, with its ranges in reverse. -/
structure Class where
  negated : Bool
  /-- No member has been read yet. -/
  isFirst : Bool
  /-- The last character was a dash that may join its neighbours. -/
  inRange : Bool
  ranges : List (Char × Char)
deriving Repr

/-- What the last characters have left undecided. -/
inductive Mode
  | plain
  /-- Behind a star. -/
  | star
  /-- Behind two stars. -/
  | doubleStar
  | escape
  | classStart
  | inClass (cls : Class)
deriving Repr

/-- How far a pattern has been read. -/
structure State where
  /-- The tokens of the innermost branch in reverse. -/
  tokens : List Token
  /-- For each open group, the tokens before it and its finished branches, both in reverse. -/
  groups : List (List Token × List (List Token))
  mode : Mode
  /-- The character before the one that the mode began with. -/
  previous : Option Char
deriving Repr

/-- The state before the first character. -/
def State.start : State := ⟨[], [], .plain, none⟩

namespace State

/-- Adds a token to the innermost branch. -/
def push (s : State) (t : Token) : State := { s with tokens := t :: s.tokens }

/-- Goes on behind a character. -/
def behind (s : State) (c : Char) : State := { s with mode := .plain, previous := some c }

/-- What two stars mean, given the character behind them, and whether that is used up. -/
def endDoubleStar (s : State) (next? : Option Char) : State × Bool :=
  let twoStars := (s.push .star).push .star
  let inGroup := !s.groups.isEmpty
  let beginsBranch := inGroup && (s.previous = some ',' || s.previous = some '\x7b')
  match s.tokens with
  | [] =>
    if next?.all (· = '/') then (s.push .directoriesBefore, true) else (twoStars, false)
  | last :: before =>
    if s.previous ≠ some '/' ∧ !beginsBranch then (twoStars, false)
    else
      let replaced (t : Token) : State :=
        match last with
        | .directoriesBefore | .everythingBelow => s
        | _ => { s with tokens := t :: before }
      match next? with
      | none => (replaced .everythingBelow, false)
      | some '/' => (replaced .directoriesBetween, true)
      | some c =>
        if inGroup ∧ (c = ',' ∨ c = '\x7d') then (replaced .everythingBelow, false)
        else (twoStars, false)

/-- A character that stands for itself or begins something. -/
def takePlain (s : State) (c : Char) : Except PatternFault State :=
  match c, s.groups with
  | '?', _ => .ok ((s.push .any).behind c)
  | '*', _ => .ok { s with mode := .star }
  | '[', _ => .ok { s with mode := .classStart }
  | '\x7b', groups => .ok ({ s with tokens := [], groups := (s.tokens, []) :: groups }.behind c)
  | '\x7d', [] => .error .unopenedGroup
  | '\x7d', (before, branches) :: groups =>
    let branches := ((s.tokens :: branches).map List.reverse).reverse
    .ok (({ s with tokens := before, groups }.push (.group branches)).behind c)
  | ',', (before, branches) :: groups =>
    .ok ({ s with tokens := [], groups := (before, s.tokens :: branches) :: groups }.behind c)
  | '\\', _ => .ok { s with mode := .escape }
  | c, _ => .ok ((s.push (.literal c)).behind c)

/-- A character of a class. A bracket that comes first is a member, and so is a dash that has
no neighbour on one side. -/
def takeClass (s : State) (cls : Class) (c : Char) : Except PatternFault State :=
  let goOn (cls : Class) : Except PatternFault State :=
    .ok { s with mode := .inClass { cls with isFirst := false } }
  let member (inRange : Bool) : Except PatternFault State :=
    match inRange, cls.ranges with
    | true, (low, _) :: rest =>
      if c < low then .error (.reversedRange low c)
      else goOn { cls with inRange := false, ranges := (low, c) :: rest }
    | _, ranges => goOn { cls with inRange := false, ranges := (c, c) :: ranges }
  if c = ']' then
    if cls.isFirst then member false
    else
      let ranges := if cls.inRange then ('-', '-') :: cls.ranges else cls.ranges
      .ok ((s.push (.oneOf cls.negated ranges.reverse)).behind c)
  else if c = '-' then
    if cls.isFirst then member false
    else if cls.inRange then member true
    else goOn { cls with inRange := true }
  else member cls.inRange

/-- One character further. -/
def step (s : State) (c : Char) : Except PatternFault State :=
  match s.mode with
  | .plain => s.takePlain c
  | .star =>
    if c = '*' then .ok { s with mode := .doubleStar }
    else ((s.push .star).behind '*').takePlain c
  | .doubleStar =>
    let (s, usedUp) := s.endDoubleStar (some c)
    if usedUp then .ok (s.behind c) else (s.behind '*').takePlain c
  | .escape => .ok ((s.push (.literal c)).behind c)
  | .classStart =>
    if c = '!' ∨ c = '^' then .ok { s with mode := .inClass ⟨true, true, false, []⟩ }
    else s.takeClass ⟨false, true, false, []⟩ c
  | .inClass cls => s.takeClass cls c

/-- The tokens of a pattern that ends here. -/
def finish (s : State) : Except PatternFault (List Token) := do
  let s ← match s.mode with
    | .plain => pure s
    | .star => pure (s.push .star)
    | .doubleStar => pure (s.endDoubleStar none).1
    | .escape => .error .danglingEscape
    | .classStart | .inClass _ => .error .openClass
  if s.groups.isEmpty then .ok s.tokens.reverse else .error .openGroup

end State

end Parser

/-- The glob that a pattern writes. -/
def parse (pattern : String) : Except PatternFault Glob := do
  let s ← pattern.toList.foldlM Parser.State.step .start
  return ⟨← s.finish⟩

end Sidecheck.Glob
