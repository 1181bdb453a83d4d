namespace Dataflow.Text

def lowHexDigit (n : Nat) : Char := Char.ofNat (if n < 10 then 48 + n else 87 + n)

def escapeIn (quote c : Char) : List Char :=
  if c == '\\' then ['\\', '\\']
  else if c == '\n' then ['\\', 'n']
  else if c == '\r' then ['\\', 'r']
  else if c == '\t' then ['\\', 't']
  else if c == quote then ['\\', c]
  else if c.toNat < 0x20 || c.toNat == 0x7F then
    ['\\', 'x', lowHexDigit (c.toNat / 16), lowHexDigit (c.toNat % 16)]
  else [c]

def quoteWith (quote : Char) (cs : List Char) : List Char :=
  quote :: (cs.flatMap (escapeIn quote) ++ [quote])

def doubleQuoted (s : String) : String := .ofList (quoteWith '"' s.toList)

-- In single quotes, unless only the single quote occurs in the text.
def reprQuote (cs : List Char) : Char :=
  if cs.contains '\x27' && !cs.contains '"' then '"' else '\x27'

def reprQuoted (s : String) : String := .ofList (quoteWith (reprQuote s.toList) s.toList)

end Dataflow.Text
