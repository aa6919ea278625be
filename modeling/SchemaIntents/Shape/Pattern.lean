import SchemaIntents.Shape.Issue
import SchemaIntents.Text.Blank
import SchemaIntents.Text.Digit

/-!
Which texts have the form of a pattern. Digits are decimal digits of any script, as in the regular
expressions that stand for the patterns.
-/
namespace SchemaIntents.Pattern

open Text

/-- A number without leading zeros: `0`, or digits that start with one from 1 to 9. -/
def isNumber : List Char → Bool
  | ['0'] => true
  | c :: rest => '1' ≤ c && c ≤ '9' && rest.all isAnyDecimal
  | [] => false

/-- Three numbers with points between them. -/
def isVersion (cs : List Char) : Bool :=
  let major := cs.takeWhile (· != '.')
  match cs.dropWhile (· != '.') with
  | '.' :: rest =>
    let minor := rest.takeWhile (· != '.')
    match rest.dropWhile (· != '.') with
    | '.' :: patch => isNumber major && isNumber minor && isNumber patch
    | _ => false
  | _ => false

/-- Whether a text follows a sketch, in which `0` stands for any digit. -/
def follows : List Char → List Char → Bool
  | [], [] => true
  | '0' :: sketch, c :: cs => isAnyDecimal c && follows sketch cs
  | s :: sketch, c :: cs => s == c && follows sketch cs
  | _, _ => false

/-- A moment to the second or the millisecond, ending in `Z`. -/
def isUtcMoment (cs : List Char) : Bool :=
  follows "0000-00-00T00:00:00Z".toList cs || follows "0000-00-00T00:00:00.000Z".toList cs

/-- Something that is neither blank nor an at-sign. -/
def isMailChar (c : Char) : Bool :=
  c != '@' && !isWhiteSpace c

/-- Whether a text of mail characters has a point with something on either side. -/
def hasInnerPoint : List Char → Bool
  | [] => false
  | _ :: rest => rest.dropLast.contains '.'

/-- A local part, one at-sign, and a domain with a point inside. -/
def isEmail (cs : List Char) : Bool :=
  let user := cs.takeWhile (· != '@')
  match cs.dropWhile (· != '@') with
  | _ :: domain =>
    !user.isEmpty && user.all isMailChar && domain.all isMailChar && hasInnerPoint domain
  | [] => false

/-- Whether a text has the form of a pattern. -/
def accepts (p : Pattern) (s : String) : Bool :=
  match p with
  | version => isVersion s.toList
  | utcMoment => isUtcMoment s.toList
  | rooted => s.toList.head? == some '/'
  | email => isEmail s.toList

end SchemaIntents.Pattern
