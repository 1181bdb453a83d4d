namespace Dataflow.Text

def leastWord : Int := -0x8000000000000000
def greatestWord : Int := 0x7FFFFFFFFFFFFFFF

def InWord (n : Int) : Prop := leastWord ≤ n ∧ n ≤ greatestWord

instance : DecidablePred InWord := fun _ => inferInstanceAs (Decidable (_ ∧ _))

-- How many values a word has.
def wordCount : Nat := 0x10000000000000000

def digitsValue (digits : List Char) : Nat :=
  digits.foldl (fun value c => value * 10 + (c.toNat - '0'.toNat)) 0

def natural? (digits : List Char) : Option Nat :=
  if digits.isEmpty || !digits.all Char.isDigit then none else some (digitsValue digits)

def integerChars? : List Char → Option Int
  | '-' :: digits => (natural? digits).map fun n => -(n : Int)
  | '+' :: digits => (natural? digits).map fun n => (n : Int)
  | digits => (natural? digits).map fun n => (n : Int)

def integer? (s : String) : Option Int :=
  (integerChars? s.toList).filter fun n => leastWord ≤ n && n ≤ greatestWord

end Dataflow.Text
