import TreeLint.Text.LineBreak.Class

/-!
# Where a line may end

Rules say between which characters a line may end. They are tried in order, and the first one that
applies decides. A rule sees the classes on both sides of a place. Marks behind a character belong
to it, so a place between the two is none.
-/

namespace TreeLint.Text.LineBreak

namespace Class

/-- Whether a character ends a line by itself. -/
def isHard (cls : Class) : Bool :=
  cls matches .hardBreak | .carriageReturn | .lineFeed

/-- Whether a character is a quotation mark. -/
def isQuote (cls : Class) : Bool :=
  cls matches .quote | .quoteInitial | .quoteFinal

/-- Whether a character is opening punctuation. -/
def isOpening (cls : Class) : Bool :=
  cls matches .opening | .openingWide

/-- Whether a character is closing punctuation. -/
def isClosing (cls : Class) : Bool :=
  cls matches .closing | .closingParen

/-- Whether a character is a letter. A mark without a character before it counts as one. -/
def isLetter (cls : Class) : Bool :=
  cls matches .letter | .hebrew | .dottedCircle | .mark | .joiner

/-- Whether a character is an ideograph or a pictograph. -/
def isIdeograph (cls : Class) : Bool :=
  cls matches .ideograph | .reservedPictograph | .emojiBase | .emojiModifier

/-- Whether a character is a Hangul syllable or a part of one. -/
def isHangul (cls : Class) : Bool :=
  cls matches .jamoL | .jamoV | .jamoT | .syllableLV | .syllableLVT

/-- Whether a character stands beside a number. -/
def isNumberSign (cls : Class) : Bool :=
  cls matches .beforeNumber | .afterNumber

/-- Whether a character begins a syllable of a script that breaks between syllables. -/
def isSyllableStart (cls : Class) : Bool :=
  cls matches .aksara | .aksaraStart | .dottedCircle

/-- Whether no line begins with a character, spaces before it or not. -/
def closesPhrase (cls : Class) : Bool :=
  cls.isClosing || cls matches .exclamation | .infixSign | .slash

/-- Whether a character takes the marks behind it. -/
def takesMarks (cls : Class) : Bool :=
  !(cls.isHard || cls matches .space | .zeroWidthSpace)

end Class

/-- A place between two characters. -/
structure Place where
  /-- The characters before the last one, the nearest first. -/
  past : List Class
  last : Class
  /-- Whether a joiner stands right before the place. -/
  joined : Bool
  next : Class
  /-- The character behind the next one, if there is one. -/
  future : Option Class

namespace Place

/-- The characters before the place and the spaces before it, the nearest first. -/
def beforeSpaces (place : Place) : List Class :=
  (place.last :: place.past).dropWhile (· = .space)

/-- Whether the last character before the place and the spaces before it is one of some. -/
def follows (place : Place) (test : Class → Bool) : Bool :=
  place.beforeSpaces.head?.any test

/-- Whether the two characters around the place are one of some and one of some others. -/
def between (place : Place) (before after : Class → Bool) : Bool :=
  before place.last && after place.next

end Place

/-- A rule: what it says about a place, if it applies. -/
abbrev Rule := Place → Option Bool

/-- The rule that a line does not end at some places. -/
def keep (test : Place → Bool) : Rule :=
  fun place => if test place then some false else none

/-- The rule that a line may end at some places. -/
def divide (test : Place → Bool) : Rule :=
  fun place => if test place then some true else none

/-! ## Ends of lines, spaces and joiners -/

/-- A line ends behind a character that ends lines, not before it, and not inside such a pair. -/
def hardRules : List Rule :=
  [keep (·.between (· = .carriageReturn) (· = .lineFeed)),
   divide (·.last.isHard),
   keep (·.next.isHard)]

/-- A line does not begin with a space. It may end behind a space without width. Nothing is divided
beside a joiner. -/
def spaceRules : List Rule :=
  [keep (·.next matches .space | .zeroWidthSpace),
   divide (·.follows (· = .zeroWidthSpace)),
   keep (·.joined),
   keep (·.next = .wordJoiner),
   keep (·.last = .wordJoiner),
   keep (·.last = .glue),
   keep (·.between (fun cls => !(cls matches .space | .breakAfter | .hyphen)) (· = .glue))]

/-! ## Punctuation -/

/-- Whether what stands before a quotation mark lets it open. -/
def letsOpen : Option Class → Bool
  | none => true
  | some cls =>
    cls.isHard || cls.isOpening || cls.isQuote || cls matches .glue | .space | .zeroWidthSpace

/-- Whether what stands behind a quotation mark lets it close. -/
def letsClose : Option Class → Bool
  | none => true
  | some cls =>
    cls.isHard || cls.closesPhrase || cls.isQuote
      || cls matches .space | .glue | .wordJoiner | .zeroWidthSpace

/-- Whether a quotation mark that opens stands before the place and the spaces before it. -/
def Place.isQuoteOpened (place : Place) : Bool :=
  match place.beforeSpaces with
  | .quoteInitial :: past => letsOpen past.head?
  | _ => false

/-- Punctuation stays with what it opens or closes, also across spaces. -/
def punctuationRules : List Rule :=
  [keep (·.next.closesPhrase),
   keep (·.follows Class.isOpening),
   keep (·.isQuoteOpened),
   keep fun place => place.next = .quoteFinal && letsClose place.future,
   keep fun place => place.next = .nonstarter && place.follows Class.isClosing,
   keep fun place => place.next = .breakBoth && place.follows (· = .breakBoth),
   divide (·.last = .space),
   keep (·.next.isQuote),
   keep (·.last.isQuote),
   divide (·.next = .contingent),
   divide (·.last = .contingent)]

/-- Whether a hyphen behind a Hebrew letter stands before the place. -/
def Place.isHebrewHyphen (place : Place) : Bool :=
  place.last matches .hyphen | .breakAfter && place.past.head? = some .hebrew

/-- A hyphen stays with what it ends. -/
def hyphenRules : List Rule :=
  [keep (·.next matches .breakAfter | .hyphen | .nonstarter),
   keep (·.last = .breakBefore),
   keep (·.isHebrewHyphen),
   keep (·.between (· = .slash) (· = .hebrew)),
   keep (·.next = .inseparable)]

/-! ## Words and numbers -/

/-- Words and numbers stay whole, with the signs beside them. -/
def numberRules : List Rule :=
  [keep (·.between Class.isLetter (· = .digit)),
   keep (·.between (· = .digit) Class.isLetter),
   keep (·.between (· = .beforeNumber) Class.isIdeograph),
   keep (·.between Class.isIdeograph (· = .afterNumber)),
   keep (·.between Class.isNumberSign Class.isLetter),
   keep (·.between Class.isLetter Class.isNumberSign),
   keep (·.between (fun cls => cls.isClosing || cls = .digit) Class.isNumberSign),
   keep (·.between Class.isNumberSign (fun cls => cls.isOpening || cls = .digit)),
   keep (·.between (· matches .hyphen | .infixSign | .digit | .slash) (· = .digit))]

/-- Hangul syllables stay whole, with the signs beside them. -/
def hangulRules : List Rule :=
  [keep (·.between (· = .jamoL) (· matches .jamoL | .jamoV | .syllableLV | .syllableLVT)),
   keep (·.between (· matches .jamoV | .syllableLV) (· matches .jamoV | .jamoT)),
   keep (·.between (· matches .jamoT | .syllableLVT) (· = .jamoT)),
   keep (·.between Class.isHangul (· = .afterNumber)),
   keep (·.between (· = .beforeNumber) Class.isHangul)]

/-- Whether a virama behind a consonant stands before the place. -/
def Place.isViramaJoined (place : Place) : Bool :=
  place.last = .virama && place.past.head?.any Class.isSyllableStart

/-- Letters stay together, and so do the parts of a syllable. -/
def letterRules : List Rule :=
  [keep (·.between Class.isLetter Class.isLetter),
   keep (·.between (· = .aksaraLead) Class.isSyllableStart),
   keep (·.between Class.isSyllableStart (· matches .viramaFinal | .virama)),
   keep fun place => place.isViramaJoined && place.next matches .aksara | .dottedCircle,
   keep fun place => place.between Class.isSyllableStart Class.isSyllableStart
    && place.future = some .viramaFinal,
   keep (·.between (· = .infixSign) Class.isLetter),
   keep (·.between (fun cls => cls.isLetter || cls = .digit) (· = .opening)),
   keep (·.between (· = .closingParen) (fun cls => cls.isLetter || cls = .digit))]

/-- Whether an odd number of regional letters stands before the place. -/
def Place.isRegionBegun (place : Place) : Bool :=
  ((place.last :: place.past).takeWhile (· = .regional)).length % 2 = 1

/-- Regional letters stay together in pairs, and a skin tone stays with its pictograph. -/
def emojiRules : List Rule :=
  [keep fun place => place.next = .regional && place.isRegionBegun,
   keep (·.between (· matches .emojiBase | .reservedPictograph) (· = .emojiModifier))]

/-- The rules, in order. -/
def rules : List Rule :=
  hardRules ++ spaceRules ++ punctuationRules ++ hyphenRules ++ numberRules ++ hangulRules
    ++ letterRules ++ emojiRules

/-- Whether a line may end at a place. It may where no rule applies. -/
def mayEnd (place : Place) : Bool :=
  (rules.findSome? fun rule => rule place).getD true

/-! ## Texts -/

/-- A character with the marks behind it. -/
structure Cluster where
  cls : Class
  marks : Nat
  joined : Bool
  deriving DecidableEq, Repr

/-- The characters of a text with the marks behind them. -/
def clusters : List Char → List Cluster
  | [] => []
  | c :: rest =>
    let cls := Class.ofChar c
    match clusters rest with
    | cluster :: more =>
      if cls.takesMarks && cluster.cls matches .mark | .joiner then
        ⟨cls, cluster.marks + 1, cluster.joined⟩ :: more
      else ⟨cls, 0, cls = .joiner⟩ :: cluster :: more
    | [] => [⟨cls, 0, cls = .joiner⟩]

/-- For each character of some clusters, whether a line may end behind it. -/
def endsFrom (past : List Class) : List Cluster → List Bool
  | [] => []
  | cluster :: rest =>
    let ends :=
      match rest with
      | [] => true
      | next :: more =>
        mayEnd ⟨past, cluster.cls, cluster.joined, next.cls, more.head?.map Cluster.cls⟩
    List.replicate cluster.marks false ++ ends :: endsFrom (cluster.cls :: past) rest

/-- For each character of a text, whether a line may end behind it. -/
def lineEnds (text : List Char) : List Bool :=
  endsFrom [] (clusters text)

end TreeLint.Text.LineBreak
