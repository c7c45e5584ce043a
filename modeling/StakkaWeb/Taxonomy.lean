/-!
# What a disc holds (`catalog/taxonomy.py`)

The two closed lists, and how a value from a form or a query string is matched to them. `strip` and
`lower` are Python's, as far as the lists can tell: of the characters outside ASCII only the Kelvin
sign is an ASCII letter in lower case.
-/

set_option autoImplicit false

namespace StakkaWeb

namespace Taxonomy

def games : String := "Video games"

def categories : List String := [games, "Music", "Movies", "Software", "Other"]

def platforms : List String :=
  ["PC", "Mac", "PS1", "PS2", "PS3", "PS4", "PS5", "Xbox", "Xbox 360", "Xbox One", "Xbox Series",
    "Wii", "Wii U", "GameCube", "Dreamcast", "Saturn", "Other"]

/-- `str.isspace`, of one character. -/
def isSpace (c : Char) : Bool :=
  let n := c.toNat
  (0x09 ≤ n && n ≤ 0x0D) || (0x1C ≤ n && n ≤ 0x20) || n == 0x85 || n == 0xA0 || n == 0x1680 ||
    (0x2000 ≤ n && n ≤ 0x200A) || n == 0x2028 || n == 0x2029 || n == 0x202F || n == 0x205F ||
    n == 0x3000

/-- `str.strip`. -/
def strip (s : String) : String :=
  let rest := s.toList.dropWhile isSpace
  String.ofList (rest.reverse.dropWhile isSpace).reverse

/-- `str.lower`, for comparing with words in ASCII. -/
def lower (s : String) : String :=
  s.map fun c => if c = '\u212A' then 'k' else c.toLower

/-- `_match(value, known)` -/
def match_ (value : Option String) (known : List String) : Option String :=
  let value := strip (value.getD "")
  known.find? fun candidate => lower value == lower candidate

def category (value : Option String) : Option String := match_ value categories

/-- A console only means something for a game. -/
def platform (categoryValue value : Option String) : Option String :=
  if categoryValue = some games then match_ value platforms else none

end Taxonomy

end StakkaWeb
