namespace Dataflow.Text

def containsChars (sought : List Char) : List Char → Bool
  | [] => sought.isEmpty
  | c :: rest => sought.isPrefixOf (c :: rest) || containsChars sought rest

def contains (sought s : String) : Bool := containsChars sought.toList s.toList

-- An empty sought text occurs in front of everything.
def replaceFirstChars (sought replacement : List Char) : List Char → List Char
  | [] => if sought.isEmpty then replacement else []
  | c :: rest =>
    if sought.isPrefixOf (c :: rest) then replacement ++ (c :: rest).drop sought.length
    else c :: replaceFirstChars sought replacement rest

def replaceFirst (sought replacement s : String) : String :=
  .ofList (replaceFirstChars sought.toList replacement.toList s.toList)

def consPiece (c : Char) : List (List Char) → List (List Char)
  | [] => [[c]]
  | piece :: pieces => (c :: piece) :: pieces

-- `skip` characters still belong to the delimiter that was met last.
def piecesFrom (delimiter : List Char) : Nat → List Char → List (List Char)
  | _, [] => [[]]
  | skip + 1, _ :: rest => piecesFrom delimiter skip rest
  | 0, c :: rest =>
    if delimiter.isPrefixOf (c :: rest) then [] :: piecesFrom delimiter (delimiter.length - 1) rest
    else consPiece c (piecesFrom delimiter 0 rest)

def pieces (delimiter cs : List Char) : List (List Char) := piecesFrom delimiter 0 cs

-- An empty delimiter stands between any two characters.
def split (delimiter s : String) : List String :=
  if delimiter.isEmpty then s.toList.map String.singleton
  else (pieces delimiter.toList s.toList).map String.ofList

def splitChar (delimiter : Char) (s : String) : List String :=
  (pieces [delimiter] s.toList).map String.ofList

def splitOnce (mark : Char) (s : String) : Option (String × String) :=
  match s.toList.dropWhile (· != mark) with
  | [] => none
  | _ :: rest => some (.ofList (s.toList.takeWhile (· != mark)), .ofList rest)

end Dataflow.Text
