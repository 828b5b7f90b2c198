/-! The two assessment tracks and the two views of the samples that an estimator may see. -/

namespace MinEntropy

/-- An assessment track: independent and identically distributed samples, or not. -/
inductive Mode where
  | iid
  | nonIid
  deriving DecidableEq, Repr

/-- The track as shown to people. -/
def Mode.label : Mode → String
  | iid => "IID"
  | nonIid => "Non-IID"

/-- The track as named in documents. -/
def Mode.tag : Mode → String
  | iid => "iid"
  | nonIid => "non_iid"

def Mode.all : List Mode := [.iid, .nonIid]

/-- What an estimator runs on: the symbols themselves, or their bits. -/
inductive Representation where
  | literal
  | bitstring
  deriving DecidableEq, Repr

def Representation.label : Representation → String
  | literal => "Literal"
  | bitstring => "Bitstring"

def Representation.tag : Representation → String
  | literal => "literal"
  | bitstring => "bitstring"

def Representation.all : List Representation := [.literal, .bitstring]

end MinEntropy
