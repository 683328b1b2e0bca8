namespace Chatline.Text

def unifyBreaks : List Char → List Char
  | '\r' :: '\n' :: cs => '\n' :: unifyBreaks cs
  | '\r' :: cs         => '\n' :: unifyBreaks cs
  | c :: cs            => c :: unifyBreaks cs
  | []                 => []

end Chatline.Text
