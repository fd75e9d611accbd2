import ClusterSim.Text.Numeral
import ClusterSim.Text.Unprinted

/-!
# Quoted texts

The form in which messages show a text: in double quotes, with quotes and backslashes escaped,
the usual letters for line feed, carriage return, tab and NUL, and a code point number for every
other character that has no printed form.
-/

namespace ClusterSim.Text

/-- One character inside a quoted text. -/
def quoteChar (c : Char) : List Char :=
  match c with
  | '"' => ['\\', '"']
  | '\\' => ['\\', '\\']
  | '\n' => ['\\', 'n']
  | '\r' => ['\\', 'r']
  | '\t' => ['\\', 't']
  | '\x00' => ['\\', '0']
  | c =>
    if isUnprinted c then
      ['\\', 'u', '\x7b'] ++ Nat.toDigits 16 c.toNat ++ ['\x7d']
    else [c]

/-- The quoted form of a text. -/
def quoted (s : String) : String :=
  .ofList ('"' :: s.toList.flatMap quoteChar ++ ['"'])

end ClusterSim.Text
