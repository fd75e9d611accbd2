import ClusterSim.Yaml.Character

/-!
# Blocks of text

A scalar that takes up whole lines, indented more than the collection around it. In a literal block
all breaks are kept; in a folded one a break between two lines that start with no white space
becomes a space. A header says what becomes of the breaks at the end, and may give the indentation.
-/

namespace ClusterSim.Yaml

/-- What becomes of the breaks at the end of a block. -/
inductive Chomping where
  /-- One is kept. -/
  | clip
  /-- None is kept. -/
  | strip
  /-- All are kept. -/
  | keep
deriving DecidableEq

/-- The header of a block. -/
structure BlockHeader where
  chomping : Chomping
  /-- The indentation relative to the collection around, zero if it is not given. -/
  increment : Nat
deriving DecidableEq

namespace BlockHeader

/-- Reads a mark for the breaks at the end. -/
def takeChomping : List Char → Option (Chomping × List Char)
  | '+' :: rest => some (.keep, rest)
  | '-' :: rest => some (.strip, rest)
  | _ => none

/-- Reads a digit for the indentation, which is not zero. -/
def takeIncrement : List Char → Except Fault (Nat × List Char)
  | [] => .ok (0, [])
  | c :: rest =>
    if c = '0' then .error .badBlockHeader
    else if Text.isDigit c then .ok (c.toNat - '0'.toNat, rest)
    else .ok (0, c :: rest)

/-- Reads the rest of the line of a header: white space and a comment. -/
def endLine (cs : List Char) : Except Fault (List Char) :=
  let cs := cs.dropWhile isSpace
  let cs := if cs.head? = some '#' then cs.dropWhile (fun c => !isBreak c) else cs
  if atBreak cs then .ok cs else .error .badBlockHeader

/-- Reads a header, up to the break at the end of its line. -/
def read (cs : List Char) : Except Fault (BlockHeader × List Char) := do
  match takeChomping cs with
  | some (chomping, cs) =>
    let (increment, cs) ← takeIncrement cs
    return (⟨chomping, increment⟩, ← endLine cs)
  | none =>
    let (increment, cs) ← takeIncrement cs
    match if increment = 0 then none else takeChomping cs with
    | some (chomping, cs) => return (⟨chomping, increment⟩, ← endLine cs)
    | none => return (⟨.clip, increment⟩, ← endLine cs)

end BlockHeader

namespace BlockText

/-- The empty lines before a line of a block. -/
structure Margin where
  breaks : List Char
  /-- The column that is reached in the next line. -/
  column : Nat
  /-- The greatest column that was reached. -/
  widest : Nat
  rest : List Char

/-- Reads empty lines and the indentation of the next line, up to the indentation of the block, or
as far as it goes where that is not known. -/
def margin (indent : Option Nat) : Nat → Nat → List Char → Except Fault Margin
  | column, widest, [] => .ok ⟨[], column, max widest column, []⟩
  | column, widest, c :: rest =>
    let inside := indent.all (column < ·)
    if c = ' ' && inside then margin indent (column + 1) widest rest
    else if c = '\t' && inside then .error .tabIndentation
    else if isBreak c then do
      let later ← margin indent 0 (max widest column) rest
      return { later with breaks := c :: later.breaks }
    else .ok ⟨[], column, max widest column, c :: rest⟩

theorem length_rest_margin {indent : Option Nat} {column widest : Nat} {cs : List Char}
    {found : Margin} (h : margin indent column widest cs = .ok found) :
    found.rest.length ≤ cs.length := by
  induction cs generalizing column widest found with
  | nil => simp only [margin, Except.ok.injEq] at h; subst h; simp
  | cons c rest ih =>
    simp only [margin] at h
    split at h
    · exact Nat.le_succ_of_le (ih h)
    · split at h
      · cases h
      · split at h
        · cases hlater : margin indent 0 (max widest column) rest with
          | error fault => simp [hlater, bind, Except.bind] at h
          | ok later =>
            simp only [hlater, bind, Except.bind, pure, Except.pure, Except.ok.injEq] at h
            have hle := ih hlater
            subst h
            exact Nat.le_succ_of_le hle
        · simp only [Except.ok.injEq] at h
          subst h
          simp

/-- The break at the start of some characters, if there is one, and what follows. -/
def takeBreak : List Char → List Char × List Char
  | [] => ([], [])
  | c :: rest => if isBreak c then ([c], rest) else ([], c :: rest)

theorem length_takeBreak (cs : List Char) : (takeBreak cs).2.length ≤ cs.length := by
  cases cs with
  | nil => simp [takeBreak]
  | cons c rest => simp only [takeBreak]; split <;> simp

/-- Characters without their first line: the break at its end, and what follows. -/
def afterLine (cs : List Char) : List Char × List Char :=
  takeBreak (cs.dropWhile fun c => !isBreak c)

theorem length_afterLine_lt (c : Char) (cs : List Char) :
    (afterLine (c :: cs)).2.length < (c :: cs).length := by
  unfold afterLine
  by_cases hbreak : isBreak c
  · simp [hbreak, takeBreak]
  · have hdrop : (cs.dropWhile fun c => !isBreak c).length ≤ cs.length :=
      (List.dropWhile_suffix _).length_le
    have htake := length_takeBreak (cs.dropWhile fun c => !isBreak c)
    simp only [hbreak, Bool.not_false, List.dropWhile_cons_of_pos, List.length_cons]
    omega

/-- The break and the empty lines between two lines, as they stand in the content. -/
def joined (folding : Bool) (ending breaks : List Char) : List Char :=
  if folding && ending.head? = some '\n' then
    if breaks.isEmpty then [' '] else breaks
  else ending ++ breaks

/-- Whether a line starts with white space. -/
def startsWhite (cs : List Char) : Bool := cs.head?.any isSpace

/-- What is kept of the breaks at the end of a block. -/
def chomped (chomping : Chomping) (ending breaks : List Char) : List Char :=
  match chomping with
  | .strip => []
  | .clip => ending
  | .keep => ending ++ breaks

/-- Reads lines of the given indentation, from the first character of one: the content, and what
follows. -/
def lines (folded : Bool) (chomping : Chomping) (indent : Nat) :
    List Char → Except Fault (List Char × List Char)
  | [] => .ok ([], [])
  | c :: cs =>
    let content := (c :: cs).takeWhile fun c => !isBreak c
    let ending := (afterLine (c :: cs)).1
    match hmargin : margin (some indent) 0 0 (afterLine (c :: cs)).2 with
    | .error fault => .error fault
    | .ok found =>
      have := length_rest_margin hmargin
      if found.column = indent && !found.rest.isEmpty then do
        let folding := folded && !startsWhite (c :: cs) && !startsWhite found.rest
        let (later, rest) ← lines folded chomping indent found.rest
        return (content ++ joined folding ending found.breaks ++ later, rest)
      else .ok (content ++ chomped chomping ending found.breaks, found.rest)
termination_by cs => cs.length
decreasing_by
  have hlt := length_afterLine_lt c cs
  omega

/-- Reads a block after its indicator, in a collection of the given indentation. -/
def read (folded : Bool) (around : Option Nat) (column : Nat) (cs : List Char) :
    Except Fault (List Char × List Char) := do
  let (header, afterHeader) ← BlockHeader.read cs
  let (ending, body) := takeBreak afterHeader
  let column := if ending.isEmpty then column + (cs.length - afterHeader.length) else 0
  let least := around.elim 0 (· + 1)
  let given := if header.increment = 0 then none else some (around.getD 0 + header.increment)
  let found ← margin given column 0 body
  let indent := given.getD (max (max found.widest least) 1)
  if found.column = indent && !found.rest.isEmpty then
    let (content, rest) ← lines folded header.chomping indent found.rest
    return (found.breaks ++ content, rest)
  else
    return (if header.chomping = .keep then found.breaks else [], found.rest)

end BlockText

end ClusterSim.Yaml
