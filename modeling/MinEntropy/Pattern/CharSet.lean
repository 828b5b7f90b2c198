/-! Sets of characters, as patterns describe them. -/

namespace MinEntropy

inductive CharSet where
  | empty
  /-- The characters whose numbers lie between two numbers, both included. -/
  | range (first last : Nat)
  | union (s t : CharSet)
  | inter (s t : CharSet)
  | diff (s t : CharSet)
  | complement (s : CharSet)
  /-- The letters of ASCII count in either case. -/
  | caseless (s : CharSet)
  deriving DecidableEq, Repr

namespace CharSet

def contains : CharSet → Char → Bool
  | empty, _ => false
  | range first last, c => first ≤ c.toNat && c.toNat ≤ last
  | union s t, c => s.contains c || t.contains c
  | inter s t, c => s.contains c && t.contains c
  | diff s t, c => s.contains c && !t.contains c
  | complement s, c => !s.contains c
  | caseless s, c => s.contains c || s.contains c.toLower || s.contains c.toUpper

/-- Nothing has been put into the set. -/
def isVoid : CharSet → Bool
  | empty => true
  | range .. | complement _ => false
  | union s t => s.isVoid && t.isVoid
  | inter s t => s.isVoid || t.isVoid
  | diff s _ | caseless s => s.isVoid

def single (c : Char) : CharSet := range c.toNat c.toNat

def any : CharSet := complement empty

def unions (sets : List CharSet) : CharSet := sets.foldr union empty

def ofRanges (ranges : List (Char × Char)) : CharSet :=
  unions (ranges.map fun (first, last) => range first.toNat last.toNat)

/-- The elements of just one of two sets. -/
def symmDiff (s t : CharSet) : CharSet := diff (union s t) (inter s t)

/-! ### ASCII -/

def digits : CharSet := ofRanges [('0', '9')]

def blanks : CharSet := ofRanges [('\t', '\r'), (' ', ' ')]

def wordLetters : CharSet := ofRanges [('0', '9'), ('A', 'Z'), ('_', '_'), ('a', 'z')]

/-- The classes of characters that have names. -/
def named? (name : String) : Option CharSet :=
  [("alnum", ofRanges [('0', '9'), ('A', 'Z'), ('a', 'z')]),
    ("alpha", ofRanges [('A', 'Z'), ('a', 'z')]),
    ("ascii", ofRanges [('\x00', '\x7f')]),
    ("blank", ofRanges [('\t', '\t'), (' ', ' ')]),
    ("cntrl", ofRanges [('\x00', '\x1f'), ('\x7f', '\x7f')]),
    ("digit", digits),
    ("graph", ofRanges [('!', '~')]),
    ("lower", ofRanges [('a', 'z')]),
    ("print", ofRanges [(' ', '~')]),
    ("punct", ofRanges [('!', '/'), (':', '@'), ('[', '\x60'), ('\x7b', '~')]),
    ("space", blanks),
    ("upper", ofRanges [('A', 'Z')]),
    ("word", wordLetters),
    ("xdigit", ofRanges [('0', '9'), ('A', 'F'), ('a', 'f')])].lookup name

end CharSet

end MinEntropy
