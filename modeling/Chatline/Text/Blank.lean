namespace Chatline.Text

-- Unicode whitespace, together with the four information separators U+001C to U+001F. The zero-width
-- space U+200B is not blank.
def isBlank (c : Char) : Bool :=
  let n := c.toNat
  (0x09 ≤ n && n ≤ 0x0d) || (0x1c ≤ n && n ≤ 0x20) || n == 0x85 || n == 0xa0 || n == 0x1680 ||
  (0x2000 ≤ n && n ≤ 0x200a) || n == 0x2028 || n == 0x2029 || n == 0x202f || n == 0x205f || n == 0x3000

def wordList (s : List Char) : List (List Char) :=
  go [] s
where
  go (word : List Char) : List Char → List (List Char)
    | []      => flush word []
    | c :: cs => if isBlank c then flush word (go [] cs) else go (word ++ [c]) cs
  flush (word : List Char) (rest : List (List Char)) : List (List Char) :=
    if word.isEmpty then rest else word :: rest

def words (s : String) : List String :=
  (wordList s.toList).map .ofList

def chompNewlines (s : String) : String :=
  .ofList (s.toList.reverse.dropWhile (· == '\n')).reverse

end Chatline.Text
