import ClusterSim.Yaml.Gap

/-!
# Quoted scalars

In single quotes, a quote is written twice and nothing else is special. In double quotes a
backslash begins an escape sequence: a letter, the number of a character, or a break that is left
out.
-/

namespace ClusterSim.Yaml

/-- The two kinds of quotes. -/
inductive Quote where
  | single
  | double
deriving DecidableEq

/-- The quote itself. -/
def Quote.mark : Quote → Char
  | .single => '\''
  | .double => '"'

namespace QuotedText

/-- What an escape sequence of one letter stands for. -/
def letter? : Char → Option Char
  | '0' => some '\x00'
  | 'a' => some '\x07'
  | 'b' => some '\x08'
  | 't' => some '\t'
  | '\t' => some '\t'
  | 'n' => some '\n'
  | 'v' => some '\x0b'
  | 'f' => some '\x0c'
  | 'r' => some '\r'
  | 'e' => some '\x1b'
  | ' ' => some ' '
  | '"' => some '"'
  | '/' => some '/'
  | '\\' => some '\\'
  | 'N' => some '\u0085'
  | '_' => some '\u00a0'
  | 'L' => some '\u2028'
  | 'P' => some '\u2029'
  | _ => none

/-- How many digits follow a letter that announces the number of a character. -/
def digitCount? : Char → Option Nat
  | 'x' => some 2
  | 'u' => some 4
  | 'U' => some 8
  | _ => none

/-- What has been read and not yet been added to the content. -/
inductive Pending where
  | nothing
  /-- A run of white space. -/
  | gap (run : Gap)
  /-- A backslash. -/
  | backslash
  /-- The number of a character, of which so many digits are still to come. -/
  | code (missing value : Nat)
  /-- A quote in single quotes, which ends the text unless another follows. -/
  | quote

/-- The run of white space so far. -/
def Pending.run : Pending → Gap
  | .gap run => run
  | _ => .empty

/-- Adds characters in front of a content. -/
def after (cs : List Char) (read : Except Fault (List Char × List Char)) :
    Except Fault (List Char × List Char) :=
  read.map fun (content, rest) => (cs ++ content, rest)

/-- Whether a gap has reached the mark of a document. -/
def atMarkAfter (pending : Pending) (cs : List Char) : Bool :=
  match pending with
  | .gap run => run.endsLine && atDocumentMark cs
  | _ => false

/-- Reads a scalar up to and including its closing quote: the content, and what follows. -/
def read (quote : Quote) : Pending → List Char → Except Fault (List Char × List Char)
  | .quote, [] => .ok ([], [])
  | _, [] => .error .unclosedQuote
  | .quote, c :: rest =>
    if c = quote.mark then after [c] (read quote .nothing rest) else .ok ([], c :: rest)
  | .backslash, c :: rest =>
    if isBreak c then read quote (.gap .ofEscape) rest
    else
      match letter? c, digitCount? c with
      | some meant, _ => after [meant] (read quote .nothing rest)
      | none, some missing => read quote (.code missing 0) rest
      | none, none => .error .badEscape
  | .code missing value, c :: rest =>
    match Text.digitValue? 16 c with
    | none => .error .badEscape
    | some digit =>
      let value := value * 16 + digit
      if 1 < missing then read quote (.code (missing - 1) value) rest
      else if value.isValidChar then after [.ofNat value] (read quote .nothing rest)
      else .error .badEscape
  | pending, c :: rest =>
    let gap := pending.run
    if isWhite c then read quote (.gap (gap.push c)) rest
    else if atMarkAfter pending (c :: rest) then .error .markInQuote
    else if c = quote.mark then
      match quote with
      | .single => after gap.folded (read quote .quote rest)
      | .double => .ok (gap.folded, rest)
    else if c = '\\' && quote = .double then after gap.folded (read quote .backslash rest)
    else after (gap.folded ++ [c]) (read quote .nothing rest)

end QuotedText

end ClusterSim.Yaml
