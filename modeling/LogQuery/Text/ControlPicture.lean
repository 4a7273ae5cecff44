import LogQuery.Unicode.Property

/-! Characters that do not print, made visible: by pictures of their own, or by code point in text
between quotes, as messages show it. -/

set_option autoImplicit false

namespace LogQuery.Text

def controlPicture (c : Char) : Char :=
  match c with
  | '\x00' => '␀'
  | '\x07' => '␇'
  | '\x08' => '␈'
  | '\t' => '␉'
  | '\n' => '␊'
  | '\x0b' => '␋'
  | '\x0c' => '␌'
  | '\r' => '␍'
  | '\x1b' => '␛'
  | '\x7f' => '␡'
  | _ => c

def withControlPictures (text : String) : String := String.ofList (text.toList.map controlPicture)

def unprintedCategories : List String := ["Cc", "Cf", "Cs", "Co", "Cn", "Zl", "Zp", "Zs"]

def isPrintable (c : Char) : Bool :=
  c == ' ' || !unprintedCategories.contains (Unicode.category c)

def extendsGrapheme (c : Char) : Bool := Unicode.graphemeExtendChars.contains c

def isShown (c : Char) : Bool :=
  (' ' ≤ c && c ≤ '~') || (!extendsGrapheme c && isPrintable c)

def hexDigits (n : Nat) : List Char := Nat.toDigits 16 n

def quoteChar (c : Char) : List Char :=
  match c with
  | '\x00' => ['\\', '0']
  | '\t' => ['\\', 't']
  | '\r' => ['\\', 'r']
  | '\n' => ['\\', 'n']
  | '\\' => ['\\', '\\']
  | '"' => ['\\', '"']
  | _ => if isShown c then [c] else ['\\', 'u', '\x7b'] ++ hexDigits c.toNat ++ ['\x7d']

def betweenQuotes (write : Char → List Char) (text : String) : String :=
  (text.foldl (fun out c => (write c).foldl String.push out) "\"").push '"'

def quoted (text : String) : String := betweenQuotes quoteChar text

/-- A path in double quotes; here an apostrophe takes a backslash too. -/
def quotedPath (path : String) : String :=
  betweenQuotes (fun c => if c == '\'' then ['\\', c] else quoteChar c) path

/-- One character in single quotes; here an apostrophe takes the backslash and a quote none. -/
def quotedChar (c : Char) : String :=
  let body := match c with
    | '\'' => ['\\', c]
    | '"' => [c]
    | _ => quoteChar c
  String.ofList ('\'' :: body ++ ['\''])

end LogQuery.Text
