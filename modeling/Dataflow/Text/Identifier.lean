import Dataflow.Text.IdentifierTable

namespace Dataflow.Text

def inRanges (ranges : List (Nat × Nat)) (code : Nat) : Bool :=
  ranges.any fun range => range.1 ≤ code && code ≤ range.2

def opensIdentifier (c : Char) : Bool :=
  if c.toNat < 0x80 then c.isAlpha || c == '_'
  else inRanges IdentifierTable.opening c.toNat

def continuesIdentifier (c : Char) : Bool :=
  if c.toNat < 0x80 then c.isAlphanum || c == '_'
  else inRanges IdentifierTable.opening c.toNat || inRanges IdentifierTable.continuing c.toNat

end Dataflow.Text
