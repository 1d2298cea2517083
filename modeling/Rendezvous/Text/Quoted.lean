import Rendezvous.Text.Printable

/-!
# Quoted text

The form in which a text stands inside a diagnostic: between double quotes, with
every character that would not show, or would end the quotation, written as an
escape. The quotation is one line whatever the text holds, and the text can be
read back from it.
-/

namespace Rendezvous.Text

/-- One character as it stands inside a quotation. -/
def quotedChar (c : Char) : List Char :=
  if c = '"' then ['\\', '"']
  else if c = '\\' then ['\\', '\\']
  else if c = '\n' then ['\\', 'n']
  else if c = '\r' then ['\\', 'r']
  else if c = '\t' then ['\\', 't']
  else if c = '\x00' then ['\\', '0']
  else if isPlain c then [c]
  else ['\\', 'u', '\x7b'] ++ Nat.toDigits 16 c.toNat ++ ['\x7d']

/-- The text between double quotes, on one line. -/
def quoted (s : String) : String :=
  String.ofList ('"' :: s.toList.flatMap quotedChar ++ ['"'])

end Rendezvous.Text
