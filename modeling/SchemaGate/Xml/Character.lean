import SchemaGate.Text.Classes

/-!
Character classes of XML documents. A name starts with a letter, an underscore or a colon; the classes
are ranges of numbers and do not follow any version of Unicode.
-/

namespace SchemaGate.Xml

/-- White space of XML. -/
def isSpace (c : Char) : Bool := c = ' ' || c = '\t' || c = '\n' || c = '\r'

/-- May the character stand in a document at all? -/
def isCharacter (c : Char) : Bool :=
  CodePoint.within
    [(0x9, 0xA), (0xD, 0xD), (0x20, 0xD7FF), (0xE000, 0xFFFD), (0x10000, 0x10FFFF)] c.toNat

/-- Numbers of the characters outside ASCII that a name may start with. -/
def nameStartRanges : List (Nat × Nat) :=
  [(0xC0, 0xD6), (0xD8, 0xF6), (0xF8, 0x2FF), (0x370, 0x37D), (0x37F, 0x1FFF), (0x200C, 0x200D),
   (0x2070, 0x218F), (0x2C00, 0x2FEF), (0x3001, 0xD7FF), (0xF900, 0xFDCF), (0xFDF0, 0xFFFD),
   (0x10000, 0xEFFFF)]

/-- May a name without colons start with the character? -/
def isPlainNameStart (c : Char) : Bool :=
  c.isAlpha || c = '_' || CodePoint.within nameStartRanges c.toNat

/-- May the character stand in a name without colons? -/
def isPlainNameCharacter (c : Char) : Bool :=
  isPlainNameStart c || c.isDigit || c = '-' || c = '.'
    || CodePoint.within [(0xB7, 0xB7), (0x300, 0x36F), (0x203F, 0x2040)] c.toNat

/-- May a name start with the character? -/
def isNameStart (c : Char) : Bool := c = ':' || isPlainNameStart c

/-- May the character stand in a name? -/
def isNameCharacter (c : Char) : Bool := c = ':' || isPlainNameCharacter c

/-- May the character stand in a public identifier? -/
def isPublicIdCharacter (c : Char) : Bool :=
  c.isAlphanum || c = ' ' || c = '\r' || c = '\n' || "-'()+,./:=?;!*#@$_%".toList.contains c

/-- Are the characters a name? -/
def isName : List Char → Bool
  | [] => false
  | c :: rest => isNameStart c && rest.all isNameCharacter

/-- Are the characters a name without colons? -/
def isPlainName : List Char → Bool
  | [] => false
  | c :: rest => isPlainNameStart c && rest.all isPlainNameCharacter

/-- Are the characters a name token? -/
def isNameToken (cs : List Char) : Bool := !cs.isEmpty && cs.all isNameCharacter

end SchemaGate.Xml
