set_option autoImplicit false

namespace YamlDialects.Text

def isBlank (c : Char) : Bool :=
  let code := c.toNat
  (9 ≤ code && code ≤ 13) || code == 0x20 || code == 0x85 || code == 0xa0 || code == 0x1680 ||
    (0x2000 ≤ code && code ≤ 0x200a) || code == 0x2028 || code == 0x2029 || code == 0x202f ||
    code == 0x205f || code == 0x3000

def trimLeft (chars : List Char) : List Char :=
  chars.dropWhile isBlank

def trimRight (chars : List Char) : List Char :=
  (chars.reverse.dropWhile isBlank).reverse

def trim (chars : List Char) : List Char :=
  trimRight (trimLeft chars)

def trimmed (text : String) : String :=
  String.ofList (trim text.toList)

def trimmedEnd (text : String) : String :=
  String.ofList (trimRight text.toList)

end YamlDialects.Text
