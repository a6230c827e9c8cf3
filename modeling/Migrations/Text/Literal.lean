import Migrations.Text.Basic

namespace Migrations.Text

def isQuoted : Text → Bool
  | q :: rest => (q == '\'' || q == '"') && rest.getLast? == some q
  | [] => false

def dropDigits (t : Text) : Text := t.dropWhile Char.isDigit

def startsWithDigit : Text → Bool
  | c :: _ => c.isDigit
  | [] => false

def dropSign : Text → Text
  | '+' :: rest => rest
  | '-' :: rest => rest
  | t => t

/-- What follows the digits and the point of a decimal. At least one digit is needed. -/
def afterMantissa? (t : Text) : Option Text :=
  match dropDigits t with
  | '.' :: rest =>
    if startsWithDigit t || startsWithDigit rest then some (dropDigits rest) else none
  | rest => if startsWithDigit t then some rest else none

def isExponentPart : Text → Bool
  | [] => true
  | c :: rest =>
    (c == 'e' || c == 'E') && startsWithDigit (dropSign rest) &&
      (dropDigits (dropSign rest)).isEmpty

/-- A signed decimal with an optional exponent, or a word for an infinite or undefined number. -/
def isNumber (t : Text) : Bool :=
  let unsigned := dropSign t
  (["inf", "infinity", "nan"] : List Text).contains (lowerAscii unsigned) ||
    (afterMantissa? unsigned).any isExponentPart

def startsLikeNumber : Text → Bool
  | c :: _ => c.isDigit || c == '-' || c == '+' || c == '.'
  | [] => false

def literalKeywords : List Text := ["true", "false", "null"]

def isLiteral (t : Text) : Bool :=
  isQuoted t || (startsLikeNumber t && isNumber t) || literalKeywords.contains (lowerAscii t)

end Migrations.Text
