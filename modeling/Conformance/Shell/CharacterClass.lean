import Conformance.Shell.Number

/-!
# Classes of characters

The classes that patterns, expressions and sets of characters name. They hold characters of ASCII
only.
-/

namespace Conformance.Shell

/-- The classes of characters by name. -/
def characterClasses : List (String × (Char → Bool)) :=
  [("alpha", Char.isAlpha), ("digit", Char.isDigit), ("alnum", Char.isAlphanum),
    ("upper", Char.isUpper), ("lower", Char.isLower), ("space", isSpace),
    ("blank", fun c => c = ' ' || c = '\t'),
    ("punct", fun c => '!' ≤ c && c ≤ '~' && !c.isAlphanum),
    ("print", fun c => ' ' ≤ c && c ≤ '~'), ("graph", fun c => '!' ≤ c && c ≤ '~'),
    ("cntrl", fun c => c < ' ' || c = '\x7f'),
    ("xdigit", fun c => c.isDigit || ('a' ≤ c.toLower && c.toLower ≤ 'f'))]

/-- The class with a name. -/
def characterClass? (name : Octets) : Option (Char → Bool) :=
  (characterClasses.find? (·.1.toList = name)).map (·.2)

end Conformance.Shell
