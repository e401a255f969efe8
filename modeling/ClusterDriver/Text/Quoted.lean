import ClusterDriver.Text.Printable
import ClusterDriver.Text.Numeral
/-!
# Quoted text

Text between double quotes. The quote and the backslash are escaped, line breaks, tabs and NUL have
short forms, and every other character that is not printable is shown by its number.
-/
namespace ClusterDriver.Text

def escaped (c : Char) : String :=
  match c with
  | '"' => "\\\""
  | '\\' => "\\\\"
  | '\n' => "\\n"
  | '\r' => "\\r"
  | '\t' => "\\t"
  | '\x00' => "\\0"
  | c => if isShownByNumber c then "\\u\x7b" ++ hexText c.toNat ++ "\x7d" else c.toString

def quoted (s : String) : String :=
  "\"" ++ String.join (s.toList.map escaped) ++ "\""

end ClusterDriver.Text
