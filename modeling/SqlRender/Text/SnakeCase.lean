import SqlRender.Text.LowerCase

namespace SqlRender.Text

/-- An underscore before each capitalised word, a capital with small letters after it, that another
character of the same line precedes. A word's letters do not precede the next word: `inWord` holds
while its small letters are passed over. Letters are those of ASCII. -/
def splitWords (inWord : Bool) : List Char → List Char
  | c :: d :: e :: cs =>
    if inWord && c.isLower then c :: splitWords true (d :: e :: cs)
    else if c ≠ '\n' && d.isUpper && e.isLower then c :: '_' :: d :: splitWords true (e :: cs)
    else c :: splitWords false (d :: e :: cs)
  | cs => cs

/-- An underscore between a small letter or digit and a capital. -/
def splitCapitals : List Char → List Char
  | c :: d :: cs =>
    if (c.isLower || c.isDigit) && d.isUpper then c :: '_' :: splitCapitals (d :: cs)
    else c :: splitCapitals (d :: cs)
  | cs => cs

/-- `UserID` becomes `user_id`, and `createdAt` becomes `created_at`. -/
def snakeCase (s : String) : String :=
  String.ofList (lowerFrom false (splitCapitals (splitWords false s.toList)))

end SqlRender.Text
