import ShaderConversion.Text.Decimal
import ShaderConversion.Text.Shown

namespace ShaderConversion.Text

def escape (c : Char) : Text :=
  match c with
  | '\x00' => ['\\', '0']
  | '\t' => ['\\', 't']
  | '\r' => ['\\', 'r']
  | '\n' => ['\\', 'n']
  | '"' => ['\\', '"']
  | '\\' => ['\\', '\\']
  | c => if isShown c then [c] else '\\' :: 'u' :: '\x7b' :: (hexadecimal c.toNat ++ ['\x7d'])

def quoted (s : Text) : String := String.ofList ('"' :: (s.flatMap escape ++ ['"']))

end ShaderConversion.Text
