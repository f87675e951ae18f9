import PropertyInsertion.Text.Basic

/-!
# What a line of PHP looks like

Lines are recognised by the words on them, one line at a time; no line is parsed. A line can be of
several kinds at once, such as a constructor whose parameter is also a property.
-/

namespace PropertyInsertion

/-- What a line can be taken for. -/
inductive LineKind where
  /-- The line names a class; `braceInline` says whether the class body opens on it. -/
  | classHeader (braceInline : Bool)
  | traitUse
  | property
  | constructorSignature
  /-- An indented line that ends with a closing brace. -/
  | nestedClose
  | other
deriving DecidableEq, Repr

namespace Line

def classWord : Text := "class ".toList

def useWord : Text := "use ".toList

def propertyMarks : List Text :=
  ["public $".toList, "protected $".toList, "private $".toList, "static $".toList]

/-- What every constructor signature holds. -/
def constructorMark : Text := "function __construct".toList

/-- The word `class`, a space and the first character of a name. -/
def isClassHeader (line : Text) : Bool :=
  line.holdsAt fun rest =>
    classWord.isPrefixOf rest && (rest.drop classWord.length).head?.any Text.isWordChar

/-- The word `use`, a space, something, and a semicolon before the next line feed. -/
def isTraitUse (line : Text) : Bool :=
  line.holdsAt fun rest =>
    useWord.isPrefixOf rest &&
      (((rest.drop useWord.length).takeWhile (· != '\n')).drop 1).contains ';'

/-- One of the words in front of a property, a space and a dollar sign. -/
def isProperty (line : Text) : Bool :=
  propertyMarks.any (Text.occursIn · line)

def isConstructorSignature (line : Text) : Bool :=
  Text.occursIn constructorMark line

/-- The line starts with a space or a tab and ends with a closing brace. -/
def isNestedClose (line : Text) : Bool :=
  (line.head? == some ' ' || line.head? == some '\t') && Text.closesWith ['}'] line

/-- All that a line can be taken for, in a fixed order. -/
def kinds (line : Text) : List LineKind :=
  let found :=
    (if isClassHeader line then [.classHeader (Text.closesWith ['{'] line)] else []) ++
    (if isTraitUse line then [.traitUse] else []) ++
    (if isProperty line then [.property] else []) ++
    (if isConstructorSignature line then [.constructorSignature] else []) ++
    (if isNestedClose line then [.nestedClose] else [])
  if found.isEmpty then [.other] else found

/-- A constructor that opens and closes its body on one line, cut around the braces. -/
structure InlineBody where
  head : Text
  body : Text
deriving DecidableEq, Repr

/-- The body of a constructor that ends on its signature line: it opens at the first brace behind
the signature's words and closes at the end of the line. -/
def inlineBody? (line : Text) : Option InlineBody := do
  let (before, after) ← Text.cut? constructorMark line
  match after.dropWhile (· != '{') with
  | [] => none
  | _ :: rest =>
    let inner := Text.trimEnd rest
    if inner.getLast? = some '}' then
      some ⟨before ++ constructorMark ++ after.takeWhile (· != '{'), inner.dropLast⟩
    else none

/-- The first pair of parentheses on a line, with what stands around and inside it. -/
structure Parentheses where
  before : Text
  inside : Text
  after : Text
deriving DecidableEq, Repr

/-- The length of the text up to and with the closing parenthesis. -/
def Parentheses.stop (group : Parentheses) : Nat :=
  group.before.length + group.inside.length + 2

/-- What stands before and after the first closing parenthesis, if no line feed comes before it. -/
def closing? (text : Text) : Option (Text × Text) :=
  let inside := text.takeWhile fun c => c != ')' && c != '\n'
  match text.drop inside.length with
  | ')' :: after => some (inside, after)
  | _ => none

/-- The leftmost opening parenthesis that has a closing one before the next line feed, paired with
the first such closing one. -/
def parentheses? : Text → Option Parentheses
  | [] => none
  | c :: rest =>
    match if c = '(' then closing? rest else none with
    | some (inside, after) => some ⟨[], inside, after⟩
    | none => (parentheses? rest).map fun group => { group with before := c :: group.before }

end Line

end PropertyInsertion
